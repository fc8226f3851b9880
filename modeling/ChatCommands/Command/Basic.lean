import ChatCommands.Check
import ChatCommands.Limit.Cooldown
import ChatCommands.Limit.Slots
import ChatCommands.Parameter.Shape
import ChatCommands.Script.Hooks

/-!
Commands and the sets of siblings they form. A command that has a set of
children is a group, with or without a body of its own. Siblings are kept in
order of registration beside an index from every name and alias to the name of
the command that owns it.
-/

namespace ChatCommands

/-- Siblings in order, and their names. -/
structure Siblings (α : Type) where
  /-- In order of registration. -/
  ordered : List α := []
  /-- Each name and alias with the name of its owner. -/
  index : List (String × String) := []

/-- What a command consists of, its children apart. -/
structure CommandParts (σ : Type) where
  /-- The name among its siblings. -/
  name : String
  /-- Further names. -/
  aliases : List String := []
  /-- For help texts. -/
  description : Option String := none
  /-- What it takes. -/
  params : List Parameter := []
  /-- What must hold for it to run. -/
  checks : List Check := []
  /-- How often it may run. -/
  cooldowns : List Cooldown := []
  /-- How often it may run at the same time. -/
  concurrency : Option Concurrency := none
  /-- What it does. -/
  body : Option (Body σ) := none
  /-- Whether it can be used at first. -/
  enabled : Bool := true
  /-- Whether text after the last parameter is ignored. -/
  ignoreExtra : Bool := false
  /-- Done before its body. -/
  before : Option (Hook σ) := none
  /-- Done after its body. -/
  after : Option (Hook σ) := none
  /-- Its own error handler. -/
  onError : Option (ErrorHandler σ) := none

/-- A command. -/
structure Command (σ : Type) where
  /-- The path of names from the root, separated by blanks. -/
  qualified : String
  /-- What it consists of. -/
  parts : CommandParts σ
  /-- Its children, if it is a group. -/
  children : Option (Siblings (Command σ)) := none
  /-- The module a root command belongs to. -/
  owner : Option String := none
  /-- Tells a registered root command from earlier ones. -/
  serial : Nat := 0

namespace Command

variable {σ : Type}

/-- The name among its siblings. -/
def name (c : Command σ) : String := c.parts.name

/-- The name followed by the aliases. -/
def names (c : Command σ) : List String := c.parts.name :: c.parts.aliases

/-- Whether it has a set of children. -/
def isGroup (c : Command σ) : Bool := c.children.isSome

/-- The children in order. -/
def childList (c : Command σ) : List (Command σ) :=
  match c.children with
  | some s => s.ordered
  | none => []

/-- The number of tests that must pass and other facts, as records show them. -/
def inspect (c : Command σ) (enabled : Bool) : String :=
  "Command \x7b qualified_name: " ++ Text.quoted c.qualified ++ ", aliases: [" ++
    ", ".intercalate (c.parts.aliases.map Text.quoted) ++ "], params: " ++
    toString c.parts.params.length ++ ", enabled: " ++ (if enabled then "true" else "false") ++
    ", children: " ++ toString c.childList.length ++ ", .. \x7d"

mutual

/-- The command and everything below it, each before its children. -/
def walk : Command σ → List (Command σ)
  | ⟨qualified, parts, none, owner, serial⟩ => [⟨qualified, parts, none, owner, serial⟩]
  | ⟨qualified, parts, some ⟨ordered, index⟩, owner, serial⟩ =>
    ⟨qualified, parts, some ⟨ordered, index⟩, owner, serial⟩ :: walkAll ordered

/-- Commands and everything below them. -/
def walkAll : List (Command σ) → List (Command σ)
  | [] => []
  | c :: rest => walk c ++ walkAll rest

end

end Command

end ChatCommands
