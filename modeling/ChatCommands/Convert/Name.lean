import ChatCommands.Decimal.Reading
import ChatCommands.Directory.Object
import ChatCommands.Text.Case
import ChatCommands.Text.Words

/-!
The two ways to name an object: by its number, bare or inside a mention, and by
name. Names are compared exactly first, then in lower case, and last by a
beginning in lower case that must be unique.
-/

namespace ChatCommands.Convert

/-- A number of 15 to 20 digits. -/
def isIdText (cs : List Char) : Bool :=
  15 ≤ cs.length && cs.length ≤ 20 && cs.all Char.isDigit

/-- The inside of a text between angle brackets. -/
def insideBrackets? : List Char → Option (List Char)
  | '<' :: rest =>
    match rest.reverse with
    | '>' :: inside => some inside.reverse
    | _ => none
  | _ => none

/-- The digits of a mention whose number follows one of the sigils. -/
def mentionDigits? (sigils : List String) (cs : List Char) : Option (List Char) :=
  match insideBrackets? cs with
  | none => none
  | some inside =>
    (sigils.filterMap fun sigil =>
      (Text.stripStart sigil.toList inside).filter isIdText).head?

/-- The digits of a bare number or of a mention. -/
def idDigits? (sigils : List String) (cs : List Char) : Option (List Char) :=
  if isIdText cs then some cs else mentionDigits? sigils cs

/-- The number a text names an object by, if it fits 64 bits. -/
def readId? (sigils : List String) (argument : String) : Option Id :=
  (idDigits? sigils argument.toList).bind Decimal.readNat64?

/-- Whether `cs` begins with `start`. -/
def beginsWith (start cs : List Char) : Bool := (Text.stripStart start cs).isSome

/-- The only element of a list. -/
def only? {α : Type} : List α → Option α
  | [x] => some x
  | _ => none

/-- The candidate that a text names. -/
def matchName? {α : Type} (names : α → List String) (candidates : List α) (argument : String) :
    Option α :=
  if argument.isEmpty then none
  else
    match candidates.find? fun c => (names c).contains argument with
    | some found => some found
    | none =>
      let lowered := Text.lower argument
      match candidates.find? fun c => (names c).any fun n => Text.lower n == lowered with
      | some found => some found
      | none =>
        only? (candidates.filter fun c =>
          (names c).any fun n => beginsWith lowered.toList (Text.lower n).toList)

end ChatCommands.Convert
