import ChatCommands.Text.Quoted

/-!
Failures of building and registering commands and of loading modules.
-/

namespace ChatCommands

/-- Why a command or a module was not taken. -/
inductive RegistrationError where
  /-- A sibling has the name or alias. -/
  | nameTaken (name : String) (isAlias : Bool)
  /-- A parameter contradicts the others or itself. -/
  | invalidParameter (command param reason : String)
  /-- A command contradicts itself. -/
  | invalidCommand (command reason : String)
  /-- A module of the name is loaded. -/
  | moduleAlreadyLoaded (name : String)
  /-- No module of the name is loaded. -/
  | moduleNotLoaded (name : String)
  deriving DecidableEq

/-- What the failure says. -/
def RegistrationError.message : RegistrationError → String
  | .nameTaken name isAlias =>
    "the " ++ (if isAlias then "alias" else "command") ++ " " ++ Text.quoted name ++
      " is already an existing command or alias"
  | .invalidParameter command param reason =>
    "parameter " ++ Text.quoted param ++ " of command " ++ command ++ " is invalid: " ++ reason
  | .invalidCommand command reason => "command " ++ command ++ " is invalid: " ++ reason
  | .moduleAlreadyLoaded name => "module " ++ Text.quoted name ++ " is already loaded"
  | .moduleNotLoaded name => "module " ++ Text.quoted name ++ " has not been loaded"

end ChatCommands
