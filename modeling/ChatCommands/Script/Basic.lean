import ChatCommands.Decimal.Fixed
import ChatCommands.Failure.Fault
import ChatCommands.Record.Journal

/-!
Scripts: what a command's body, a hook or an error handler does. A script
changes and reads the application's state, notes things in the journal,
replies, sleeps, waits for a permit, and ends in success, failure or panic. It
is a tree whose branches are chosen by what it learns on the way, so every
script ends.
-/

namespace ChatCommands

/-- How a script ends. -/
inductive Outcome where
  /-- In success. -/
  | done
  /-- In a failure. -/
  | failed (fault : Fault)
  /-- In a panic, with a text if it has one. -/
  | panicked (message : Option String)
  deriving DecidableEq

/-- How often commands were used. -/
structure Usage where
  /-- The uses of the invoked command. -/
  own : Nat
  /-- The uses of all commands that were used, busiest first. -/
  all : List (String × Nat)

/-- What a body, a hook or a handler does with a state of type `σ`. -/
inductive Script (σ : Type) where
  /-- Ends. -/
  | stop (outcome : Outcome)
  /-- Changes the state. -/
  | update (change : σ → σ) (next : Script σ)
  /-- Reads the state. -/
  | read (next : σ → Script σ)
  /-- Asks how often commands were used. -/
  | usage (next : Usage → Script σ)
  /-- Writes to the journal. -/
  | note (note : Note) (next : Script σ)
  /-- Replies to the event. -/
  | reply (content : String) (next : Except ReplyError Unit → Script σ)
  /-- Waits for a time to pass. -/
  | sleep (span : Decimal.Duration) (next : Script σ)
  /-- Waits for a permit, and uses it up. -/
  | permit (next : Script σ)

namespace Script

/-- Ends in success. -/
def done {σ : Type} : Script σ := .stop .done

/-- Ends in a failure. -/
def fail {σ : Type} (fault : Fault) : Script σ := .stop (.failed fault)

/-- Replies, and gives up when that fails. -/
def replyThen {σ : Type} (content : String) (next : Script σ) : Script σ :=
  .reply content fun
    | .ok () => next
    | .error e => .fail e.toFault

end Script

end ChatCommands
