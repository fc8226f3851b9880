import ChatCommands.Decimal.Shortest
import ChatCommands.Text.Quoted
import ChatCommands.Value.Basic

/-!
Two printed forms of a value. `display` is the way a user would type it, and
goes into replies; `inspect` names the kind of the value and quotes its texts,
and goes into records.
-/

namespace ChatCommands.Value

mutual

/-- The value the way a user would type it. -/
def display : Value → String
  | .none => "none"
  | .bool b => if b then "true" else "false"
  | .int i => toString i
  | .float x => x.plain
  | .str s => s
  | .user u => u.name
  | .member m => m.displayName
  | .channel c => "#" ++ c.name
  | .role r => "@" ++ r.name
  | .list values => " ".intercalate (displayAll values)
  | .flags entries => " ".intercalate (displayEntries entries)
  | .custom _ _ => "<custom>"

/-- Each value the way a user would type it. -/
def displayAll : List Value → List String
  | [] => []
  | v :: rest => display v :: displayAll rest

/-- Each flag with its value. -/
def displayEntries : List (String × Value) → List String
  | [] => []
  | (name, v) :: rest => (name ++ ": " ++ display v) :: displayEntries rest

end

/-- A value that may be absent, as records show it. -/
def inspectOption {α : Type} (inspect : α → String) : Option α → String
  | some a => "Some(" ++ inspect a ++ ")"
  | Option.none => "None"

/-- Items between square brackets. -/
def inspectList (items : List String) : String := "[" ++ ", ".intercalate items ++ "]"

/-- A record of named fields. -/
def inspectRecord (title : String) (fields : List (String × String)) : String :=
  title ++ " \x7b " ++ ", ".intercalate (fields.map fun f => f.1 ++ ": " ++ f.2) ++ " \x7d"

/-- A truth value in a record. -/
def inspectBool (b : Bool) : String := if b then "true" else "false"

/-- A user in a record. -/
def inspectUser (u : User) : String :=
  inspectRecord "User" [
    ("id", toString u.id), ("name", Text.quoted u.name),
    ("global_name", inspectOption Text.quoted u.globalName), ("bot", inspectBool u.bot)]

/-- A member in a record. -/
def inspectMember (m : Member) : String :=
  inspectRecord "Member" [
    ("user", inspectUser m.user), ("scope_id", toString m.scopeId),
    ("nick", inspectOption Text.quoted m.nick),
    ("roles", inspectList (m.roles.map toString))]

/-- A channel in a record. -/
def inspectChannel (c : Channel) : String :=
  inspectRecord "Channel" [
    ("id", toString c.id), ("name", Text.quoted c.name),
    ("scope_id", inspectOption toString c.scopeId),
    ("category_id", inspectOption toString c.categoryId), ("nsfw", inspectBool c.nsfw)]

/-- A role in a record. -/
def inspectRole (r : Role) : String :=
  inspectRecord "Role" [
    ("id", toString r.id), ("name", Text.quoted r.name), ("scope_id", toString r.scopeId)]

mutual

/-- The value as records show it. -/
def inspect : Value → String
  | .none => "None"
  | .bool b => "Bool(" ++ inspectBool b ++ ")"
  | .int i => "Int(" ++ toString i ++ ")"
  | .float x => "Float(" ++ x.scientific ++ ")"
  | .str s => "Str(" ++ Text.quoted s ++ ")"
  | .user u => "User(" ++ inspectUser u ++ ")"
  | .member m => "Member(" ++ inspectMember m ++ ")"
  | .channel c => "Channel(" ++ inspectChannel c ++ ")"
  | .role r => "Role(" ++ inspectRole r ++ ")"
  | .list values => "List(" ++ inspectList (inspectAll values) ++ ")"
  | .flags entries => "Flags(\x7b" ++ ", ".intercalate (inspectEntries entries) ++ "\x7d)"
  | .custom _ _ => "Custom(..)"

/-- Each value as records show it. -/
def inspectAll : List Value → List String
  | [] => []
  | v :: rest => inspect v :: inspectAll rest

/-- Each flag with its value as records show it. -/
def inspectEntries : List (String × Value) → List String
  | [] => []
  | (name, v) :: rest => (Text.quoted name ++ ": " ++ inspect v) :: inspectEntries rest

end

end ChatCommands.Value
