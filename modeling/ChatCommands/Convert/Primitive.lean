import ChatCommands.Convert.Basic
import ChatCommands.Decimal.Reading
import ChatCommands.Text.Case

/-!
Converters of texts, numbers and truth values, and matching against a closed
set of values.
-/

namespace ChatCommands.Convert

/-- The words for true. -/
def trueWords : List String := ["yes", "y", "true", "t", "1", "enable", "on"]

/-- The words for false. -/
def falseWords : List String := ["no", "n", "false", "f", "0", "disable", "off"]

/-- The truth value a word stands for, in any case. -/
def readBool? (argument : String) : Option Bool :=
  let lowered := Text.lower argument
  if trueWords.contains lowered then some true
  else if falseWords.contains lowered then some false
  else none

/-- Any text as it is. -/
def str : Converter := fun _ argument => .ok (.str argument)

/-- A signed integer of 64 bits. -/
def int : Converter := fun _ argument =>
  match Decimal.readInt64? argument.toList with
  | some i => .ok (.int i)
  | none => .error (.input (.badArgument (Text.quoted argument ++ " is not a valid integer")))

/-- A finite number. -/
def float : Converter := fun _ argument =>
  let refused : Except ConvertFailure Value :=
    .error (.input (.badArgument (Text.quoted argument ++ " is not a valid number")))
  match Decimal.readBinary64? argument.toList with
  | some x => if x.isFinite then .ok (.float x) else refused
  | none => refused

/-- A truth value. -/
def bool : Converter := fun _ argument =>
  match readBool? argument with
  | some b => .ok (.bool b)
  | none => .error (.input (.badBoolArgument argument))

/-- Whether a text stands for a value of a closed set, read the way the value's kind is read. -/
def matchesLiteral (argument : String) : Value → Bool
  | .int i => Decimal.readInt64? argument.toList == some i
  | .float x => ((Decimal.readBinary64? argument.toList).map (·.same x)).getD false
  | .bool b => readBool? argument == some b
  | .str s => argument == s
  | _ => false

/-- The first value of a closed set that a text stands for. -/
def literal (param : String) (values : List Value) (argument : String) :
    Except CommandError Value :=
  match values.find? (matchesLiteral argument) with
  | some v => .ok v
  | none => .error (.userInput (.badLiteralArgument param argument (values.map Value.display)))

end ChatCommands.Convert
