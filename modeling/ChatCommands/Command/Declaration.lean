import ChatCommands.Command.Siblings
import ChatCommands.Parameter.FlagScan

/-!
Declarations of commands, and building commands from them. A declaration is
refused when a name is not a single word, when there is nothing to run, or when
its parameters could not be bound: at most the last one takes the rest of the
line or flags, and a greedy one takes plain values.
-/

namespace ChatCommands

/-- A command as it is declared, with the declarations of its children. -/
inductive Declaration (σ : Type) where
  /-- What it consists of, whether it is a group, and its children. -/
  | declare (parts : CommandParts σ) (isGroup : Bool) (children : List (Declaration σ))

namespace Declaration

variable {σ : Type}

/-- Why a parameter cannot stand where it does. -/
def shapeProblem? (isLast : Bool) (p : Parameter) : Option String :=
  if p.takesRest && !isLast then some "only the last parameter can take the rest of the line"
  else
    match p.shape with
    | .flags group => if isLast then group.problem? else some "flags must be the last parameter"
    | .greedy (.optional _) | .greedy (.greedy _) | .greedy (.flags _) =>
      some "greedy cannot wrap optional, greedy or flags"
    | _ => none

/-- The first parameter that cannot be bound; `seen` holds the names before. -/
def paramsProblem? (command : String) (seen : List String) :
    List Parameter → Option RegistrationError
  | [] => none
  | p :: rest =>
    if seen.contains p.name then some (.invalidParameter command p.name "declared twice")
    else
      match shapeProblem? rest.isEmpty p with
      | some reason => some (.invalidParameter command p.name reason)
      | none => paramsProblem? command (p.name :: seen) rest

/-- Why the parts of a command cannot be used. -/
def partsProblem? (qualified : String) (parts : CommandParts σ) (isGroup : Bool) :
    Option RegistrationError :=
  let notAWord (name : String) : Bool := name.isEmpty || name.toList.any Text.isBlank
  match (parts.name :: parts.aliases).find? notAWord with
  | some name =>
    some (.invalidCommand qualified ("name " ++ Text.quoted name ++ " must be a single word"))
  | none =>
    if parts.aliases.contains parts.name then some (.nameTaken parts.name true)
    else if parts.body.isNone && !isGroup then
      some (.invalidCommand qualified "a command needs a body")
    else paramsProblem? qualified [] parts.params

/-- The qualified name of a command below `parent`. -/
def qualify (parent : Option String) (name : String) : String :=
  match parent with
  | some parent => parent ++ " " ++ name
  | none => name

mutual

/-- Builds a command below `parent`. -/
def buildUnder (parent : Option String) :
    Declaration σ → Except RegistrationError (Command σ)
  | .declare parts isGroup children =>
    let qualified := qualify parent parts.name
    let isGroup := isGroup || !children.isEmpty
    match partsProblem? qualified parts isGroup with
    | some e => .error e
    | none =>
      if isGroup then
        match buildChildren qualified {} children with
        | .error e => .error e
        | .ok siblings => .ok { qualified := qualified, parts := parts, children := some siblings }
      else .ok { qualified := qualified, parts := parts }

/-- Builds children in order, adding each to its siblings. -/
def buildChildren (parent : String) (siblings : Siblings (Command σ)) :
    List (Declaration σ) → Except RegistrationError (Siblings (Command σ))
  | [] => .ok siblings
  | d :: rest =>
    match buildUnder (some parent) d with
    | .error e => .error e
    | .ok child =>
      match siblings.insert child false with
      | .error e => .error e
      | .ok siblings => buildChildren parent siblings rest

end

/-- Builds a root command. -/
def build (d : Declaration σ) : Except RegistrationError (Command σ) := d.buildUnder none

theorem paramsProblem?_cons_eq_none_iff {command : String} {seen : List String} {p : Parameter}
    {rest : List Parameter} :
    paramsProblem? command seen (p :: rest) = none ↔
      seen.contains p.name = false ∧ shapeProblem? rest.isEmpty p = none ∧
        paramsProblem? command (p.name :: seen) rest = none := by
  rw [paramsProblem?]
  cases seen.contains p.name with
  | true => simp
  | false =>
    cases shapeProblem? rest.isEmpty p with
    | some reason => simp
    | none => simp

/-- Parts can be used if all names are words and differ from the first, there is something to run
and the parameters can be bound. -/
theorem partsProblem?_eq_none_iff {qualified : String} {parts : CommandParts σ} {isGroup : Bool} :
    partsProblem? qualified parts isGroup = none ↔
      (∀ name ∈ parts.name :: parts.aliases,
        ¬ (name.isEmpty || name.toList.any Text.isBlank) = true) ∧
      ¬ parts.aliases.contains parts.name = true ∧
      ¬ (parts.body.isNone && !isGroup) = true ∧
      paramsProblem? qualified [] parts.params = none := by
  unfold partsProblem?
  dsimp only
  split
  · rename_i name found
    have own := List.mem_of_find?_eq_some found
    have unfit : (name.isEmpty || name.toList.any Text.isBlank) = true := by
      simpa using List.find?_some found
    exact ⟨nofun, fun usable => absurd unfit (usable.1 name own)⟩
  · rename_i words
    rw [List.find?_eq_none] at words
    split
    · rename_i taken
      exact ⟨nofun, fun usable => absurd taken usable.2.1⟩
    · rename_i free
      split
      · rename_i bodiless
        exact ⟨nofun, fun usable => absurd bodiless usable.2.2.1⟩
      · rename_i runs
        exact ⟨fun bindable => ⟨words, free, runs, bindable⟩, fun usable => usable.2.2.2⟩

/-- A command that was built has parameters that can be bound. -/
theorem paramsProblem?_of_buildUnder {parent : Option String} {d : Declaration σ}
    {command : Command σ} (built : d.buildUnder parent = .ok command) :
    paramsProblem? command.qualified [] command.parts.params = none := by
  obtain ⟨parts, isGroup, children⟩ := d
  rw [buildUnder] at built
  cases accepted : partsProblem? (qualify parent parts.name) parts
      (isGroup || !children.isEmpty) with
  | some e => simp [accepted] at built
  | none =>
    simp only [accepted] at built
    have bindable := (partsProblem?_eq_none_iff.1 accepted).2.2.2
    split at built
    · split at built
      · contradiction
      · cases built
        exact bindable
    · cases built
      exact bindable

theorem takesText_of_fits {p : Parameter} (fits : shapeProblem? false p = none) :
    p.takesText = false := by
  unfold shapeProblem? at fits
  unfold Parameter.takesText
  cases takes : p.takesRest with
  | true => simp [takes] at fits
  | false =>
    cases shape : p.shape with
    | flags group => simp [takes, shape] at fits
    | _ => rfl

/-- Of parameters that can be bound, only the last may take all that is left. -/
theorem takesText_before_last {command : String} {seen : List String}
    {leading : List Parameter} {last : Parameter}
    (bindable : paramsProblem? command seen (leading ++ [last]) = none) :
    ∀ p ∈ leading, p.takesText = false := by
  induction leading generalizing seen with
  | nil => simp
  | cons first leading ih =>
    have inner : (leading ++ [last]).isEmpty = false := by simp
    rw [List.cons_append, paramsProblem?_cons_eq_none_iff, inner] at bindable
    obtain ⟨-, fits, others⟩ := bindable
    intro p member
    rcases List.mem_cons.1 member with rfl | later
    · exact takesText_of_fits fits
    · exact ih others p later

end Declaration

end ChatCommands
