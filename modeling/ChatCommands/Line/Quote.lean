import ChatCommands.Line.QuoteSet
import ChatCommands.Text.Blank

/-!
Writing a token so that it reads back as itself. A token without blanks, marks
and escapes stands for itself; any other is put between the first pair of
marks, with the closing mark and the escape character escaped. A set without
marks escapes in place, and cannot express the empty token.
-/

namespace ChatCommands.Line

/-- Whether `c` cannot stand bare in a token. -/
def isSpecial (q : QuoteSet) (c : Char) : Bool :=
  Text.isBlank c || c == q.escape || q.isQuote c

/-- The characters of `cs`, those that `special` selects with an escape in front. -/
def escapeChars (escape : Char) (special : Char → Bool) (cs : List Char) : List Char :=
  cs.flatMap fun c => if special c then [escape, c] else [c]

/-- The written form of a token. -/
def quoteChars (q : QuoteSet) (token : List Char) : List Char :=
  if !token.isEmpty && !token.any (isSpecial q) then token
  else
    match q.pairs with
    | [] => escapeChars q.escape (isSpecial q) token
    | (opening, closing) :: _ =>
      opening :: escapeChars q.escape (fun c => c == q.escape || c == closing) token ++ [closing]

/-- The written form of a token. -/
def quote (q : QuoteSet) (token : String) : String := String.ofList (quoteChars q token.toList)

end ChatCommands.Line
