import ChatCommands.Command.Basic
import ChatCommands.Failure.Registration
import ChatCommands.Text.Case

/-!
Operations on sets of siblings. Names are looked up as they are first and, where
case does not matter, in lower case after that. A command is added only if none
of its names is taken, and is removed with all of its names.
-/

namespace ChatCommands

/-- Whether two names are the same in lower case. -/
def sameFolded (a b : String) : Bool := Text.lower a == Text.lower b

namespace Siblings

variable {σ : Type}

/-- The sibling that owns a name exactly. -/
def owner? (s : Siblings (Command σ)) (name : String) : Option (Command σ) :=
  (s.index.lookup name).bind fun owner => s.ordered.find? (·.name == owner)

/-- The sibling with a name. -/
def get? (s : Siblings (Command σ)) (name : String) (caseInsensitive : Bool) :
    Option (Command σ) :=
  match s.owner? name with
  | some found => some found
  | none =>
    if caseInsensitive then s.ordered.find? fun c => c.names.any fun n => sameFolded n name
    else none

/-- The failure for the first name of `c` that is taken. -/
def conflict? (s : Siblings (Command σ)) (c : Command σ) (caseInsensitive : Bool) :
    Option RegistrationError :=
  (c.names.find? fun name => (s.get? name caseInsensitive).isSome).map fun name =>
    .nameTaken name (name != c.name)

/-- Adds a command after its siblings. -/
def insert (s : Siblings (Command σ)) (c : Command σ) (caseInsensitive : Bool) :
    Except RegistrationError (Siblings (Command σ)) :=
  match s.conflict? c caseInsensitive with
  | some e => .error e
  | none => .ok ⟨s.ordered ++ [c], s.index ++ c.names.map (·, c.name)⟩

/-- The siblings without one of them. -/
def erase (s : Siblings (Command σ)) (c : Command σ) : Siblings (Command σ) :=
  ⟨s.ordered.filter (·.name != c.name), s.index.filter (·.2 != c.name)⟩

/-- Removes the sibling with a name, and tells which it was. -/
def remove (s : Siblings (Command σ)) (name : String) (caseInsensitive : Bool) :
    Option (Command σ × Siblings (Command σ)) :=
  (s.get? name caseInsensitive).map fun c => (c, s.erase c)

/-- Adds commands one after another, all or none. -/
def insertAll (s : Siblings (Command σ)) (caseInsensitive : Bool) :
    List (Command σ) → Except RegistrationError (Siblings (Command σ))
  | [] => .ok s
  | c :: rest =>
    match s.insert c caseInsensitive with
    | .error e => .error e
    | .ok next => next.insertAll caseInsensitive rest

end Siblings

namespace Command

variable {σ : Type}

/-- The direct child with a name. -/
def child? (c : Command σ) (name : String) (caseInsensitive : Bool) : Option (Command σ) :=
  c.children.bind fun s => s.get? name caseInsensitive

/-- Adds the lower-case forms of the names of one command to those seen, or fails at the first that
was seen before. -/
def foldNames (primary : String) (seen : List String) :
    List String → Except RegistrationError (List String)
  | [] => .ok seen
  | name :: rest =>
    if seen.contains (Text.lower name) then .error (.nameTaken name (name != primary))
    else foldNames primary (Text.lower name :: seen) rest

mutual

/-- The first name below a command that equals another one among its siblings in lower case. -/
def caseConflict? : Command σ → Option RegistrationError
  | ⟨_, _, none, _, _⟩ => none
  | ⟨_, _, some ⟨ordered, _⟩, _, _⟩ => caseConflictAmong [] ordered

/-- The first such name among siblings and below them; `seen` holds the lower-case names before. -/
def caseConflictAmong (seen : List String) : List (Command σ) → Option RegistrationError
  | [] => none
  | c :: rest =>
    match foldNames c.name seen c.names with
    | .error e => some e
    | .ok seen =>
      match caseConflict? c with
      | some e => some e
      | none => caseConflictAmong seen rest

end

end Command

end ChatCommands
