import ChatCommands.Text.Blank

/-!
Small operations on lists of characters: length in bytes, prefixes that can be
taken off, words between blanks, and joining with a separator.
-/

namespace ChatCommands.Text

/-- The number of bytes of the text's UTF-8 form. -/
def byteLength : List Char → Nat
  | [] => 0
  | c :: rest => c.utf8Size + byteLength rest

/-- What follows `start` in a text that begins with it. -/
def stripStart : List Char → List Char → Option (List Char)
  | [], cs => some cs
  | _ :: _, [] => none
  | p :: ps, c :: cs => if p == c then stripStart ps cs else none

/-- The words of a text: its maximal runs of characters that are not blank. -/
def words (cs : List Char) : List (List Char) :=
  ((cs.splitBy fun a b => isBlank a == isBlank b).filter fun run => !run.any isBlank)

/-- Texts joined by a separator. -/
def joinWith (separator : String) (parts : List String) : String := separator.intercalate parts

@[simp] theorem byteLength_append (cs ds : List Char) :
    byteLength (cs ++ ds) = byteLength cs + byteLength ds := by
  induction cs with
  | nil => simp [byteLength]
  | cons c rest ih => simp [byteLength, ih, Nat.add_assoc]

@[simp] theorem byteLength_reverse (cs : List Char) : byteLength cs.reverse = byteLength cs := by
  induction cs with
  | nil => rfl
  | cons c rest ih => simp [byteLength, ih, Nat.add_comm]

theorem stripStart_eq_some_iff {start cs rest : List Char} :
    stripStart start cs = some rest ↔ cs = start ++ rest := by
  induction start generalizing cs with
  | nil => simp [stripStart]
  | cons p ps ih =>
    cases cs with
    | nil => simp [stripStart]
    | cons c cs =>
      by_cases same : p = c
      · subst same; simp [stripStart, ih]
      · simp [stripStart, same, Ne.symm same]

end ChatCommands.Text
