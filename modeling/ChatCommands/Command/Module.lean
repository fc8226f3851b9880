import ChatCommands.Command.Registry

/-!
Modules: named sets of root commands that come and go together and may share a
check and an error handler.
-/

namespace ChatCommands

/-- A named set of root commands. -/
structure Module (σ : Type) where
  /-- The name. -/
  name : String
  /-- For help texts. -/
  description : Option String := none
  /-- The root commands. -/
  commands : List (Command σ) := []
  /-- Must hold for each of them to run. -/
  check : Option Check := none
  /-- Asked after a command's own error handler. -/
  onError : Option (ErrorHandler σ) := none

/-- What is kept of a module that is loaded. -/
structure LoadedModule (σ : Type) where
  /-- The name. -/
  name : String
  /-- For help texts. -/
  description : Option String
  /-- Must hold for each of its commands to run. -/
  check : Option Check
  /-- Asked after a command's own error handler. -/
  onError : Option (ErrorHandler σ)
  /-- The names of its root commands. -/
  commands : List String

namespace Module

variable {σ : Type}

/-- What is kept of the module. -/
def loaded (m : Module σ) : LoadedModule σ where
  name := m.name
  description := m.description
  check := m.check
  onError := m.onError
  commands := m.commands.map Command.name

/-- The root commands, each marked as the module's. -/
def ownedCommands (m : Module σ) : List (Command σ) :=
  m.commands.map fun c => { c with owner := some m.name }

end Module

end ChatCommands
