/-!
How flags are written on a command line: what comes before a flag's name, what
comes between the name and its value, and what happens to unknown names.
-/

namespace ChatCommands

/-- What becomes of a flag that is not declared. -/
inductive UnknownFlags where
  /-- The line is refused. -/
  | reject
  /-- It is part of the text around it. -/
  | ignore
  deriving DecidableEq

/-- How flags are written. -/
structure FlagStyle where
  /-- The text before a flag's name. -/
  lead : String := ""
  /-- The text between a flag's name and its value. -/
  delimiter : String := ":"
  /-- What becomes of undeclared flags. -/
  unknown : UnknownFlags := .reject
  /-- Whether upper and lower case are the same in names. -/
  caseInsensitive : Bool := false
  deriving DecidableEq

/-- Two dashes before the name and a blank after it. -/
def FlagStyle.dashed : FlagStyle := { lead := "--", delimiter := " " }

end ChatCommands
