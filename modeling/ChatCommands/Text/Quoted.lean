import ChatCommands.Text.Escaped

/-!
Texts and characters shown between quotation marks, the way messages quote what
a user typed. Backslash and the enclosing mark are escaped, four controls have
short escapes, and every other character that would not show is written by its
number in lower-case hexadecimal.
-/

namespace ChatCommands.Text

/-- The escape of a character by its number. -/
def numericEscape (c : Char) : List Char :=
  '\\' :: 'u' :: '\x7b' :: Nat.toDigits 16 c.toNat ++ ['\x7d']

/-- A character inside quotation marks `mark`. -/
def escapeIn (mark : Char) (c : Char) : List Char :=
  if c == '\x00' then ['\\', '0']
  else if c == '\t' then ['\\', 't']
  else if c == '\r' then ['\\', 'r']
  else if c == '\n' then ['\\', 'n']
  else if c == mark || c == '\\' then ['\\', c]
  else if needsEscape c then numericEscape c
  else [c]

/-- A text between double quotation marks. -/
def quoted (s : String) : String :=
  String.ofList ('"' :: s.toList.flatMap (escapeIn '"') ++ ['"'])

/-- A character between single quotation marks. -/
def quotedChar (c : Char) : String :=
  String.ofList ('\'' :: escapeIn '\'' c ++ ['\''])

end ChatCommands.Text
