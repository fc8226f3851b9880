import ChatCommands.Line.Token
import ChatCommands.Text.Words

/-!
A cursor over a command line. It reads blanks, words, tokens or everything
that is left, can step back over the last word or token, and can be put back to
any position it had. A position is a split of the text into what was passed and
what is left (`Position.text`), and every operation keeps the text, so each
position lies between two characters.
-/

namespace ChatCommands

namespace Line

/-- A place in a text. -/
structure Position where
  /-- The characters before the place, nearest first. -/
  passed : List Char
  /-- The characters after the place. -/
  left : List Char
  deriving DecidableEq

namespace Position

/-- The place before the first character. -/
def start (cs : List Char) : Position := ⟨[], cs⟩

/-- The text the place is in. -/
def text (p : Position) : List Char := p.passed.reverse ++ p.left

/-- The number of bytes before the place. -/
def offset (p : Position) : Nat := Text.byteLength p.passed

/-- The place `n` characters further on. -/
def advance (p : Position) (n : Nat) : Position :=
  ⟨(p.left.take n).reverse ++ p.passed, p.left.drop n⟩

/-- The place at which `rest`, an end of the unread text, is all that is left. -/
def advanceTo (p : Position) (rest : List Char) : Position :=
  p.advance (p.left.length - rest.length)

theorem text_advance (p : Position) (n : Nat) : (p.advance n).text = p.text := by
  simp [text, advance, List.append_assoc]

/-- The bytes before a place and those after it are the bytes of the text. -/
theorem offset_add_byteLength_left (p : Position) :
    p.offset + Text.byteLength p.left = Text.byteLength p.text := by
  simp [offset, text]

theorem left_advanceTo {p : Position} {before rest : List Char} (h : p.left = before ++ rest) :
    (p.advanceTo rest).left = rest := by
  simp [advanceTo, advance, h]

theorem length_left_advanceTo_le (p : Position) (rest : List Char) :
    (p.advanceTo rest).left.length ≤ rest.length := by
  simp only [advanceTo, advance, List.length_drop]
  omega

end Position

/-- A cursor over a text. -/
structure Cursor where
  /-- The marks and the escape that tokens are read with. -/
  quotes : QuoteSet
  /-- Where the cursor stands. -/
  position : Position
  /-- Where the last word, token or rest began. -/
  previous : Position

namespace Cursor

/-- A cursor at the start of a text. -/
def start (quotes : QuoteSet) (text : String) : Cursor :=
  ⟨quotes, .start text.toList, .start text.toList⟩

/-- The text that is left. -/
def left (c : Cursor) : List Char := c.position.left

/-- The number of bytes passed. -/
def offset (c : Cursor) : Nat := c.position.offset

/-- Whether nothing is left. -/
def atEnd (c : Cursor) : Bool := c.left.isEmpty

/-- The cursor at another place of its text. -/
def goTo (c : Cursor) (p : Position) : Cursor := { c with position := p }

/-- The cursor back where the last word, token or rest began. -/
def undo (c : Cursor) : Cursor := { c with position := c.previous }

/-- Passes any blanks. -/
def skipBlanks (c : Cursor) : Cursor :=
  { c with position := c.position.advanceTo (Text.trimStart c.left) }

/-- Whether a blank comes next. -/
def atBlank (c : Cursor) : Bool :=
  match c.left with
  | d :: _ => Text.isBlank d
  | [] => false

/-- Passes blanks, and remembers the place as the start of what is read next. -/
def mark (c : Cursor) : Cursor :=
  let c := c.skipBlanks
  { c with previous := c.position }

/-- Reads everything that is left. -/
def takeRest (c : Cursor) : List Char × Cursor :=
  (c.left, { c with position := c.position.advanceTo [], previous := c.position })

/-- Reads up to the next blank, taking marks and escapes literally. -/
def word (c : Cursor) : List Char × Cursor :=
  let c := c.mark
  let found := c.left.takeWhile fun d => !Text.isBlank d
  (found, { c with position := c.position.advance found.length })

/-- Reads the next token; nothing when only blanks are left. -/
def token (c : Cursor) : Except TokenError (Option (List Char)) × Cursor :=
  let c := c.mark
  match firstToken c.quotes c.left with
  | none => (.ok none, c)
  | some r => (r.result.map some, { c with position := c.position.advanceTo r.rest })

/-- Reads tokens to the end or to the first failure. -/
def allTokens (c : Cursor) : List (List Char) × Option TokenError × Cursor :=
  let (found, failure, rest) := tokens c.quotes c.left
  (found, failure, { c with position := c.position.advanceTo rest })

theorem left_mark (c : Cursor) : c.mark.left = Text.trimStart c.left := by
  obtain ⟨blanks, _, whole, _⟩ := Text.trimStart_spec c.left
  exact Position.left_advanceTo whole

theorem token_of_none {c : Cursor} (read : nextToken c.quotes c.left = none) :
    c.token = (.ok none, c.mark) := by
  have first : firstToken c.mark.quotes c.mark.left = none := by
    rw [left_mark]
    exact read
  simp only [token, first]

/-- A token is read as from the text that is left, and the cursor stands behind it. -/
theorem token_of_some {c : Cursor} {r : Reading} (read : nextToken c.quotes c.left = some r) :
    ∃ next, c.token = (r.result.map some, next) ∧ next.quotes = c.quotes ∧ next.left = r.rest := by
  obtain ⟨before, whole⟩ := firstToken_rest_suffix read
  refine ⟨{ c.mark with position := c.mark.position.advanceTo r.rest }, ?_, rfl, ?_⟩
  · have first : firstToken c.mark.quotes c.mark.left = some r := by
      rw [left_mark]
      exact read
    simp only [token, first]
  · exact Position.left_advanceTo ((left_mark c).trans whole.symm)

/-- Reading a token uses up part of the text. -/
theorem length_token {c next : Cursor} {t : List Char} (h : c.token = (.ok (some t), next)) :
    next.left.length < c.left.length := by
  unfold token at h
  simp only [left_mark] at h
  cases first : firstToken c.mark.quotes (Text.trimStart c.left) with
  | none => rw [first] at h; simp at h
  | some r =>
    rw [first] at h
    have shorter : r.rest.length < c.left.length := length_nextToken (q := c.mark.quotes) first
    have position := congrArg (fun p => p.2.left) h
    simp only [left] at position
    have notLonger := Position.length_left_advanceTo_le c.mark.position r.rest
    rw [position] at notLonger
    exact Nat.lt_of_le_of_lt notLonger shorter

end Cursor

end Line

end ChatCommands
