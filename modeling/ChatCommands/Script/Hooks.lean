import ChatCommands.Event.Context
import ChatCommands.Failure.Command
import ChatCommands.Script.Basic
import ChatCommands.Value.Args

/-!
The code that comes with commands and with the dispatcher as a whole: bodies,
hooks around them, and error handlers. The dispatcher's own hooks do nothing
unless they are replaced, except that unhandled errors are noted in the
journal at a level fitting their kind.
-/

namespace ChatCommands

/-- What a command does with its arguments. -/
abbrev Body (σ : Type) := Context → Args → Script σ

/-- What is done before or after a body. -/
abbrev Hook (σ : Type) := Context → Script σ

/-- What is done about an error. Success means that the error is settled. -/
abbrev ErrorHandler (σ : Type) := Context → CommandError → Script σ

/-- The note about an error that no handler settled. -/
def errorNote (ctx : Context) (error : CommandError) : Note :=
  let command := ("command", ctx.commandName)
  let kind := ("kind", error.code)
  match error with
  | .invoke _ _ | .conversion _ _ _ =>
    ⟨.error, .hooks, "Command raised an exception", [command, kind, ("chain", error.chainText)]⟩
  | .commandNotFound name => ⟨.trace, .hooks, "Command not found", [("name", name)]⟩
  | _ => ⟨.debug, .hooks, "Command rejected", [command, kind, ("error", error.message)]⟩

/-- The hooks of a dispatcher. -/
structure Hooks (σ : Type) where
  /-- After the checks, before any limit. -/
  onCommand : Hook σ := fun _ => .done
  /-- After success. -/
  onCompletion : Hook σ := fun _ => .done
  /-- The last handler of an error. -/
  onError : ErrorHandler σ := fun ctx error => .note (errorNote ctx error) .done
  /-- Before every body. -/
  before : Hook σ := fun _ => .done
  /-- After every body. -/
  after : Hook σ := fun _ => .done

end ChatCommands
