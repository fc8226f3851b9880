import ChatCommands.Failure.Command
import ChatCommands.Parameter.Shape

/-!
Converters and the table they are kept in. A converter makes a value of one
kind from one text; a refusal is told to the user as it is, and any other
failure becomes a failure of the conversion. The table holds at most one
converter for a kind, and the style of flags for groups without their own.
-/

namespace ChatCommands

/-- Why a converter made no value. -/
inductive ConvertFailure where
  /-- What the user typed is at fault. -/
  | input (error : UserInputError)
  /-- The converter itself failed. -/
  | other (fault : Fault)

/-- Makes a value from a text. -/
abbrev Converter := Context → String → Except ConvertFailure Value

/-- The converters by kind. -/
structure Converters where
  /-- Kinds with their converters. -/
  entries : List (Kind × Converter) := []
  /-- How flags are written in groups that do not say. -/
  flagStyle : FlagStyle := {}

namespace Converters

/-- The converter of a kind. -/
def get? (cs : Converters) (kind : Kind) : Option Converter := cs.entries.lookup kind

/-- Gives a kind its converter, in place of one it had. -/
def register (cs : Converters) (kind : Kind) (converter : Converter) : Converters :=
  { cs with entries := (kind, converter) :: cs.entries.filter (·.1 != kind) }

/-- Converts a text to a kind for the parameter `param`. -/
def convertKind (cs : Converters) (ctx : Context) (param : String) (kind : Kind)
    (argument : String) : Except CommandError Value :=
  match cs.get? kind with
  | none =>
    .error (.conversion param kind.name ⟨"no converter registered for " ++ kind.name, []⟩)
  | some converter =>
    match converter ctx argument with
    | .ok v => .ok v
    | .error (.input error) => .error (.userInput error)
    | .error (.other fault) => .error (.conversion param kind.name fault)

end Converters

end ChatCommands
