import ChatCommands.Event.Context
import ChatCommands.Parameter.FlagStyle
import ChatCommands.Value.Printing

/-!
Parameters of a command and the shapes of what they take. A concrete shape
names a kind of value; the structural shapes are built over others: optional,
one of several, one of a closed set, as many as convert, and a group of named
flags with shapes of their own.
-/

namespace ChatCommands

/-- A kind of value that a converter makes from one text. -/
inductive Kind where
  /-- A text. -/
  | str
  /-- An integer. -/
  | int
  /-- A number. -/
  | float
  /-- A truth value. -/
  | bool
  /-- A user. -/
  | user
  /-- A member. -/
  | member
  /-- A channel. -/
  | channel
  /-- A role. -/
  | role
  /-- A kind with a converter of its own. -/
  | custom (name : String)
  deriving DecidableEq

/-- The name of a kind. -/
def Kind.name : Kind → String
  | .str => "str"
  | .int => "int"
  | .float => "float"
  | .bool => "bool"
  | .user => "user"
  | .member => "member"
  | .channel => "channel"
  | .role => "role"
  | .custom name => name

/-- What stands in for an argument that is not given. -/
inductive Default where
  /-- Nothing: the argument is required. -/
  | required
  /-- A fixed value. -/
  | value (v : Value)
  /-- A value computed from the invocation. -/
  | computed (f : Context → Value)

namespace Default

/-- The value for an invocation. -/
def resolve (d : Default) (ctx : Context) : Option Value :=
  match d with
  | .required => none
  | .value v => some v
  | .computed f => some (f ctx)

/-- Whether nothing stands in for the argument. -/
def isRequired : Default → Bool
  | .required => true
  | _ => false

/-- The default as records show it. -/
def inspect : Default → String
  | .required => "Required"
  | .value v => "Value(" ++ v.inspect ++ ")"
  | .computed _ => "FromContext(..)"

end Default

/-- A named flag whose values have a shape from `S`. -/
structure Flag (S : Type) where
  /-- The name under which the value is found. -/
  name : String
  /-- The shape of one value. -/
  shape : S
  /-- Further names. -/
  aliases : List String := []
  /-- Stands in for an absent flag. -/
  default : Default := .required
  /-- Whether every occurrence counts. -/
  multiple : Bool := false
  /-- How many occurrences a repeatable flag may have. -/
  maxArgs : Option Nat := none
  /-- Whether the last occurrences win over earlier ones that are too many. -/
  overrideLast : Bool := false
  /-- For help texts. -/
  description : Option String := none

/-- The name and the further names. -/
def Flag.names {S : Type} (f : Flag S) : List String := f.name :: f.aliases

/-- The flag with a limit on its occurrences, which is one at least. -/
def Flag.limitedTo {S : Type} (f : Flag S) (occurrences : Nat) : Flag S :=
  { f with maxArgs := some (max occurrences 1) }

/-- Named flags that share one parameter. -/
structure FlagGroup (S : Type) where
  /-- The flags in order of declaration. -/
  flags : List (Flag S)
  /-- How they are written, if the group chooses for itself. -/
  style : Option FlagStyle := none

/-- The shape of what a parameter takes. -/
inductive Shape where
  /-- One value of a kind. -/
  | of (kind : Kind)
  /-- A value of the inner shape, or nothing. -/
  | optional (inner : Shape)
  /-- The first alternative that fits. -/
  | union (alternatives : List Shape)
  /-- One of a closed set of values. -/
  | literal (values : List Value)
  /-- As many values of the inner shape as there are. -/
  | greedy (inner : Shape)
  /-- Flags from the rest of the line. -/
  | flags (group : FlagGroup Shape)

namespace Shape

/-- Whether nothing is an acceptable value. -/
def isOptional : Shape → Bool
  | .optional _ => true
  | _ => false

/-- Whether the shape takes several tokens. -/
def isGreedy : Shape → Bool
  | .greedy _ => true
  | _ => false

/-- Whether the shape takes flags. -/
def isFlags : Shape → Bool
  | .flags _ => true
  | _ => false

mutual

/-- The name of a shape in messages. -/
def name : Shape → String
  | .of kind => kind.name
  | .optional inner => "optional " ++ inner.name
  | .union alternatives => " or ".intercalate (names alternatives)
  | .literal values => " | ".intercalate (values.map Value.display)
  | .greedy inner => inner.name ++ "..."
  | .flags _ => "flags"

/-- The names of several shapes. -/
def names : List Shape → List String
  | [] => []
  | shape :: rest => shape.name :: names rest

end

end Shape

/-- A declared parameter. -/
structure Parameter where
  /-- The name under which the argument is bound. -/
  name : String
  /-- The shape of the argument. -/
  shape : Shape
  /-- Stands in for a missing argument. -/
  default : Default := .required
  /-- Whether the rest of the line is the argument, as it stands. -/
  takesRest : Bool := false
  /-- For help texts. -/
  description : Option String := none

namespace Parameter

/-- Whether a missing argument is an error. -/
def isRequired (p : Parameter) : Bool := p.default.isRequired && !p.shape.isOptional

/-- Whether the argument is all that is left of the line, as it stands. -/
def takesText (p : Parameter) : Bool := p.takesRest || p.shape.isFlags

/-- What is bound when no argument is given. -/
def fallback (p : Parameter) (ctx : Context) : Option Value :=
  match p.default.resolve ctx with
  | some v => some v
  | none => if p.shape.isOptional then some .none else none

end Parameter

end ChatCommands
