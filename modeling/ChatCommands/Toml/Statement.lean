import ChatCommands.Toml.Scalar
import ChatCommands.Toml.Table

/-!
The statements of a TOML document: headers, and keys with items. Arrays and
tables between brackets may be nested, but only to a fixed depth, and a key has
only so many parts.
-/

namespace ChatCommands.Toml

/-- How deep arrays and tables between brackets may be nested, and how many parts a key may have. -/
def depthLimit : Nat := 79

/-- The text without blanks in front. -/
def skipBlanks (cs : List Char) : List Char := cs.dropWhile isBlank

/-- What follows a comment, if one stands here. -/
def skipComment (cs : List Char) : List Char :=
  match cs with
  | '#' :: rest => rest.dropWhile isPlain
  | _ => cs

/-- What follows the end of a line, before which there may be blanks and a comment. -/
def lineEnd? (cs : List Char) : Option (List Char) :=
  match skipComment (skipBlanks cs) with
  | [] => some []
  | '\n' :: rest | '\r' :: '\n' :: rest => some rest
  | _ => none

/-- What follows blanks, line ends and comments; `inComment` says whether a comment is open. -/
def skipLines? (inComment : Bool) : List Char → Option (List Char)
  | '\n' :: rest | '\r' :: '\n' :: rest => skipLines? false rest
  | [] => if inComment then none else some []
  | c :: rest =>
    if inComment then if isPlain c then skipLines? true rest else none
    else if isBlank c then skipLines? false rest
    else if c == '#' then skipLines? true rest
    else some (c :: rest)

/-- A character of a key without marks. -/
def isKeyChar (c : Char) : Bool := c.isAlphanum || c == '_' || c == '-'

/-- Reads one part of a key. -/
def readKeyPart? (cs : List Char) : Option (String × List Char) :=
  match cs with
  | '"' :: _ | '\'' :: _ => Quoted.readLine? cs
  | _ =>
    let part := cs.takeWhile isKeyChar
    if part.isEmpty then none else some (String.ofList part, cs.dropWhile isKeyChar)

/-- Reads a key of at most so many parts, with blanks around each. -/
def readKey? : Nat → List Char → Option (List String × List Char)
  | 0, _ => none
  | limit + 1, cs =>
    match readKeyPart? (skipBlanks cs) with
    | none => none
    | some (part, rest) =>
      match skipBlanks rest with
      | '.' :: rest => (readKey? limit rest).map fun (parts, rest) => (part :: parts, rest)
      | rest => some ([part], rest)

/-- A statement of a document. -/
inductive Statement where
  /-- The header of a table. -/
  | header (path : List String) (key : String)
  /-- The header of a table of an array. -/
  | arrayHeader (path : List String) (key : String)
  /-- A key with its item. -/
  | assign (path : List String) (key : String) (item : Item)

/-- What reads an item from the start of a text. -/
abbrev ItemReader := List Char → Option (Item × List Char)

/-- Reads the rest of an array between brackets, of at most so many items. -/
def readItems? (readItem : ItemReader) : Nat → List Char → Option (List Item × List Char)
  | 0, _ => none
  | limit + 1, cs =>
    match skipLines? false cs with
    | none => none
    | some (']' :: rest) => some ([], rest)
    | some cs =>
      match readItem cs with
      | none => none
      | some (item, rest) =>
        match skipLines? false rest with
        | some (',' :: rest) =>
          (readItems? readItem limit rest).map fun (items, rest) => (item :: items, rest)
        | some (']' :: rest) => some ([item], rest)
        | _ => none

/-- Reads a key and the item after an equals sign. -/
def readPair? (readItem : ItemReader) (cs : List Char) :
    Option ((List String × Item) × List Char) :=
  match readKey? depthLimit cs with
  | some (key, '=' :: rest) =>
    (readItem (skipBlanks rest)).map fun (item, rest) => ((key, item), rest)
  | _ => none

/-- Reads the rest of a table between braces, of at most so many keys, one at least. -/
def readPairs? (readItem : ItemReader) :
    Nat → List Char → Option (List (List String × Item) × List Char)
  | 0, _ => none
  | limit + 1, cs =>
    match readPair? readItem cs with
    | none => none
    | some (pair, rest) =>
      match skipBlanks rest with
      | ',' :: rest =>
        (readPairs? readItem limit rest).map fun (pairs, rest) => (pair :: pairs, rest)
      | '\x7d' :: rest => some ([pair], rest)
      | _ => none

/-- Reads an item that is nested to at most a depth. -/
def readItem? : Nat → ItemReader
  | depth, cs =>
    match cs with
    | '"' :: _ | '\'' :: _ => (Quoted.read? cs).map fun (text, rest) => (.text text, rest)
    | '[' :: rest =>
      match depth with
      | 0 => none
      | depth + 1 =>
        (readItems? (readItem? depth) cs.length rest).map fun (items, rest) =>
          (.array .closed items, rest)
    | '\x7b' :: rest =>
      match depth with
      | 0 => none
      | depth + 1 =>
        match skipBlanks rest with
        | '\x7d' :: rest => some (.table .closed [], rest)
        | rest =>
          (readPairs? (readItem? depth) cs.length rest).bind fun (pairs, rest) =>
            (closedTable? pairs).map (·, rest)
    | _ => readScalar? cs

/-- Reads a header's key up to what closes it. -/
def readHeader? (make : List String → String → Statement) (closing : List Char) (cs : List Char) :
    Option (Statement × List Char) :=
  match readKey? depthLimit cs with
  | none => none
  | some (key, rest) =>
    match closing.isPrefixOf rest, splitLast? key with
    | true, some (path, key) => some (make path key, rest.drop closing.length)
    | _, _ => none

/-- Reads a statement. -/
def readStatement? (cs : List Char) : Option (Statement × List Char) :=
  match cs with
  | '[' :: '[' :: rest => readHeader? .arrayHeader [']', ']'] rest
  | '[' :: rest => readHeader? .header [']'] rest
  | _ =>
    match readPair? (readItem? depthLimit) cs with
    | none => none
    | some ((key, item), rest) =>
      (splitLast? key).map fun (path, key) => (.assign path key item, rest)

end ChatCommands.Toml
