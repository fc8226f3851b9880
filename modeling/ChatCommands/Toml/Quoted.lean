/-!
Texts between marks in a TOML document: basic ones, in which a backslash starts
an escape, and literal ones, in which nothing does; each on one line between
single marks, or as a block between triple marks. One automaton reads all four.
It learns of the end of a block from the character after it, since up to two
marks may stand before the three that end it.
-/

namespace ChatCommands.Toml

/-- The value of a hexadecimal digit. -/
def hexDigit? (c : Char) : Option Nat :=
  if '0' ≤ c && c ≤ '9' then some (c.toNat - '0'.toNat)
  else if 'a' ≤ c && c ≤ 'f' then some (c.toNat - 'a'.toNat + 10)
  else if 'A' ≤ c && c ≤ 'F' then some (c.toNat - 'A'.toNat + 10)
  else none

/-- The character with a number, if there is one. -/
def scalar? (n : Nat) : Option Char := if n.isValidChar then some (Char.ofNat n) else none

/-- A blank within a line. -/
def isBlank (c : Char) : Bool := c == ' ' || c == '\t'

/-- A character that texts and comments may hold as it is. -/
def isPlain (c : Char) : Bool := c == '\t' || (' ' ≤ c && c != '\x7f')

namespace Quoted

/-- How a text is written. -/
structure Style where
  /-- The mark around it. -/
  mark : Char
  /-- Whether a backslash starts an escape. -/
  hasEscapes : Bool
  /-- Whether it is a block between triple marks. -/
  isBlock : Bool

/-- Where in a text the reader is. -/
inductive Place where
  /-- Between characters. -/
  | inside
  /-- After so many marks in a row. -/
  | marks (count : Nat)
  /-- After a carriage return, which a line feed must follow. -/
  | carriage
  /-- After the backslash of an escape. -/
  | escape
  /-- In an escape by number: the digits left, and the number so far. -/
  | digits (left : Nat) (value : Nat)
  /-- In blanks between a backslash and the end of its line. -/
  | gap
  /-- After a carriage return in such a gap. -/
  | gapCarriage
  /-- In blanks and line ends that a backslash at the end of a line takes out. -/
  | skipping

/-- The reader's state. -/
structure State where
  /-- Where it is. -/
  place : Place := .inside
  /-- What it has read, last character first. -/
  read : List Char := []

/-- The text read so far with some marks at its end. -/
def State.text (s : State) (style : Style) (marks : Nat) : String :=
  String.ofList (List.replicate marks style.mark ++ s.read).reverse

/-- The characters with a short escape. -/
def shortEscape? : Char → Option Char
  | 'b' => some '\x08'
  | 't' => some '\t'
  | 'n' => some '\n'
  | 'f' => some '\x0c'
  | 'r' => some '\r'
  | '"' => some '"'
  | '\\' => some '\\'
  | _ => none

/-- The state after a character between characters. -/
def stepInside (style : Style) (read : List Char) (c : Char) : Option State :=
  if c == style.mark then some ⟨.marks 1, read⟩
  else if c == '\\' && style.hasEscapes then some ⟨.escape, read⟩
  else if c == '\n' then if style.isBlock then some ⟨.inside, c :: read⟩ else none
  else if c == '\r' then if style.isBlock then some ⟨.carriage, read⟩ else none
  else if isPlain c then some ⟨.inside, c :: read⟩
  else none

/-- The state after a character in the blanks that a backslash takes out. -/
def stepGap (read : List Char) (c : Char) : Option State :=
  if isBlank c then some ⟨.gap, read⟩
  else if c == '\n' then some ⟨.skipping, read⟩
  else if c == '\r' then some ⟨.gapCarriage, read⟩
  else none

/-- The state after the next character, if it may stand there. -/
def step (style : Style) (s : State) (c : Char) : Option State :=
  match s.place with
  | .inside => stepInside style s.read c
  | .marks count =>
    if c == style.mark then some ⟨.marks (count + 1), s.read⟩
    else stepInside style (List.replicate count style.mark ++ s.read) c
  | .carriage => if c == '\n' then some ⟨.inside, c :: s.read⟩ else none
  | .escape =>
    if c == 'u' then some ⟨.digits 4 0, s.read⟩
    else if c == 'U' then some ⟨.digits 8 0, s.read⟩
    else
      match shortEscape? c with
      | some escaped => some ⟨.inside, escaped :: s.read⟩
      | none => if style.isBlock then stepGap s.read c else none
  | .digits left value =>
    (hexDigit? c).bind fun digit =>
      let value := 16 * value + digit
      if left ≤ 1 then (scalar? value).map fun escaped => ⟨.inside, escaped :: s.read⟩
      else some ⟨.digits (left - 1) value, s.read⟩
  | .gap => stepGap s.read c
  | .gapCarriage => if c == '\n' then some ⟨.skipping, s.read⟩ else none
  | .skipping =>
    if isBlank c || c == '\n' then some s
    else if c == '\r' then some ⟨.gapCarriage, s.read⟩
    else stepInside style s.read c

/-- The whole text, if it has ended before the next character. -/
def ended? (style : Style) (s : State) (next : Option Char) : Option String :=
  match s.place with
  | .marks count =>
    if !style.isBlock then some (s.text style 0)
    else if count == 5 || (3 ≤ count && next != some style.mark) then
      some (s.text style (count - 3))
    else none
  | _ => none

/-- Reads on from a state to the end of the text. -/
def readFrom (style : Style) (s : State) : List Char → Option (String × List Char)
  | [] => (ended? style s none).map (·, [])
  | c :: rest =>
    match ended? style s (some c) with
    | some text => some (text, c :: rest)
    | none => (step style s c).bind fun s => readFrom style s rest

/-- Reads the rest of a block; a line end right after the opening marks is not part of it. -/
def readBlock (mark : Char) (hasEscapes : Bool) (cs : List Char) : Option (String × List Char) :=
  let cs := match cs with
    | '\n' :: rest | '\r' :: '\n' :: rest => rest
    | _ => cs
  readFrom ⟨mark, hasEscapes, true⟩ {} cs

/-- Reads a text on one line. -/
def readLine? : List Char → Option (String × List Char)
  | '"' :: rest => readFrom ⟨'"', true, false⟩ {} rest
  | '\'' :: rest => readFrom ⟨'\'', false, false⟩ {} rest
  | _ => none

/-- Reads a text on one line or a block. -/
def read? : List Char → Option (String × List Char)
  | '"' :: '"' :: '"' :: rest => readBlock '"' true rest
  | '\'' :: '\'' :: '\'' :: rest => readBlock '\'' false rest
  | cs => readLine? cs

end Quoted

end ChatCommands.Toml
