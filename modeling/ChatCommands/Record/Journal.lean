/-!
The journal: what the dispatcher notes about its own work, each entry with a
level, the part that wrote it, named fields, and the invocation it was written
for.
-/

namespace ChatCommands

/-- How much an entry matters. -/
inductive Level where
  /-- Of interest when following every step. -/
  | trace
  /-- Of interest when looking for a problem. -/
  | debug
  /-- A change of what the agent can do. -/
  | info
  /-- Something was given up. -/
  | warn
  /-- Something is broken. -/
  | error
  deriving DecidableEq

/-- The name of a level. -/
def Level.name : Level → String
  | .trace => "TRACE"
  | .debug => "DEBUG"
  | .info => "INFO"
  | .warn => "WARN"
  | .error => "ERROR"

/-- The part that writes an entry. -/
inductive Desk where
  /-- The way from an event to a body and back. -/
  | dispatcher
  /-- The hooks that come with the dispatcher. -/
  | hooks
  /-- Delivery of replies. -/
  | responder
  /-- Cooldowns. -/
  | cooldown
  /-- Slots. -/
  | concurrency
  /-- The last resort for failures of error handlers. -/
  | fallback
  deriving DecidableEq

/-- The name of a part. -/
def Desk.name : Desk → String
  | .dispatcher => "dispatcher"
  | .hooks => "hooks"
  | .responder => "responder"
  | .cooldown => "cooldown"
  | .concurrency => "concurrency"
  | .fallback => "fallback"

/-- The invocation an entry is written for. -/
structure Span where
  /-- The author's number. -/
  author : String
  /-- The kind of place. -/
  scope : String
  /-- The command, once it is resolved. -/
  command : Option String
  deriving DecidableEq

/-- An entry without the invocation it is written for. -/
structure Note where
  /-- How much it matters. -/
  level : Level
  /-- Who writes it. -/
  desk : Desk
  /-- What happened. -/
  message : String
  /-- Named details. -/
  fields : List (String × String) := []
  deriving DecidableEq

/-- An entry of the journal. -/
structure JournalEntry where
  /-- What is noted. -/
  note : Note
  /-- The invocation, if any. -/
  span : Option Span
  deriving DecidableEq

end ChatCommands
