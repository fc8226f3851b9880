import ChatCommands.Proofs.ConflictFreeTrees

/-! Groups of flags inside the shapes of parameters. Building a command looks at the constructor of
a shape and, behind a greedy shape and a flag, at one more. A group that is found that way is
checked and stands last. What is behind an optional shape or among alternatives is not looked at:
any group can stand there, in any parameter (`Veiled`). -/
namespace ChatCommands.NestedGroups
open RegistryGrowth QualifiedNames StagedRegistration ConflictFreeTrees

variable {σ : Type} {parent : Option String} {c root : Command σ} {shape other : Shape}
  {group : FlagGroup Shape} {p : Parameter} {params before after : List Parameter}

/-! ## Places in a shape -/

/-- What a shape is part of. -/
inductive Frame where
  | optional
  | union (before after : List Shape)
  | greedy
  | flag (before : List (Flag Shape)) (own : Flag Shape) (after : List (Flag Shape))
      (style : Option FlagStyle)

/-- The whole of which a shape is part. -/
def Frame.around : Frame → Shape → Shape
  | .optional, shape => .optional shape
  | .union before after, shape => .union (before ++ shape :: after)
  | .greedy, shape => .greedy shape
  | .flag before own after style, shape =>
    .flags { flags := before ++ { own with shape := shape } :: after, style := style }

/-- Whether the check of a shape stops here. -/
def Frame.veils : Frame → Bool
  | .optional | .union _ _ => true
  | .greedy | .flag _ _ _ _ => false

/-- The shape that has another one at a place, told by what is around it, the outermost first. -/
def fill (place : List Frame) (shape : Shape) : Shape := place.foldr Frame.around shape

/-- A place behind an optional shape or among alternatives. -/
def Veiled (place : List Frame) : Prop := ∃ frame ∈ place, frame.veils = true

variable {frame : Frame} {place : List Frame}

theorem veiled_cons : Veiled (frame :: place) ↔ frame.veils = true ∨ Veiled place := by
  simp [Veiled]

theorem not_veiled_nil : ¬ Veiled [] := by
  simp [Veiled]

/-- What is asked about a shape inside another one. -/
def Outer (shape : Shape) : Bool := shape.isFlags || shape.isGreedy

/-- In a place that is not veiled, a group makes a greedy shape or a group of the whole. -/
theorem outer_of_bare (bare : ¬ Veiled place) : Outer (fill place (.flags group)) = true := by
  cases place with
  | nil => rfl
  | cons frame place =>
    rw [veiled_cons, not_or] at bare
    cases frame with
    | optional => exact absurd rfl bare.1
    | union before after => exact absurd rfl bare.1
    | greedy => rfl
    | flag before own after style => rfl

theorem isOptional_fill_cons (shape other : Shape) :
    (fill (frame :: place) shape).isOptional = (fill (frame :: place) other).isOptional := by
  cases frame <;> rfl

/-- What fills a place does not show in the constructor of a larger shape. -/
theorem outer_fill_cons (shape other : Shape) :
    Outer (fill (frame :: place) shape) = Outer (fill (frame :: place) other) := by
  cases frame <;> rfl

/-! ## One flag of a group -/

section Flags
variable {earlier later : List (Flag Shape)} {own : Flag Shape} {seen : List String}

/-- Of the shape of a flag it is asked whether it is a group or greedy, and nothing else. -/
theorem flagsProblem?_eq_none_iff (shape : Shape) :
    FlagGroup.flagsProblem? seen (earlier ++ { own with shape := shape } :: later) = none ↔
      Outer shape = false ∧ FlagGroup.flagsProblem? seen
        (earlier ++ { own with shape := .of .str } :: later) = none := by
  induction earlier generalizing seen with
  | nil =>
    have names : ({ own with shape := shape } : Flag Shape).names =
        ({ own with shape := .of .str } : Flag Shape).names := rfl
    have asked : (shape.isFlags || shape.isGreedy) = Outer shape := rfl
    have text : (Shape.isFlags (.of .str) || Shape.isGreedy (.of .str)) = false := rfl
    rw [List.nil_append, List.nil_append, FlagGroup.flagsProblem?, FlagGroup.flagsProblem?, names]
    cases FlagGroup.nameProblem? seen ({ own with shape := .of .str } : Flag Shape).names with
    | error reason => simp
    | ok named => cases outer : Outer shape <;> simp [asked, text, outer]
  | cons f earlier ih =>
    rw [List.cons_append, List.cons_append, FlagGroup.flagsProblem?, FlagGroup.flagsProblem?]
    cases FlagGroup.nameProblem? seen f.names with
    | error reason => simp
    | ok named =>
      dsimp only
      split_ifs
      · simp
      · exact ih

end Flags

/-! ## One parameter -/

variable {isLast : Bool}

/-- What is asked about the shape of a parameter. -/
def Sound (isLast : Bool) : Shape → Prop
  | .flags group => isLast = true ∧ group.problem? = none
  | .greedy inner => inner.isOptional = false ∧ Outer inner = false
  | _ => True

theorem shapeProblem?_eq_none_iff : Declaration.shapeProblem? isLast p = none ↔
    (p.takesRest = true → isLast = true) ∧ Sound isLast p.shape := by
  unfold Declaration.shapeProblem?
  by_cases rest : p.takesRest = true ∧ isLast = false
  · simp [rest.1, rest.2]
  · have may : p.takesRest = true → isLast = true := by simpa using rest
    have goesOn : ¬ (p.takesRest && !isLast) = true := by simpa using may
    rw [if_neg goesOn, and_iff_right may]
    cases p.shape with
    | flags group => cases isLast <;> simp [Sound]
    | greedy inner =>
      cases inner <;> simp [Sound, Outer, Shape.isOptional, Shape.isFlags, Shape.isGreedy]
    | _ => simp [Sound]

/-- A group in a place that is not veiled is all of the parameter, which comes last. -/
theorem checked_of_bare (bare : ¬ Veiled place) (sound : Sound isLast (fill place (.flags group))) :
    place = [] ∧ group.problem? = none ∧ isLast = true := by
  cases place with
  | nil => exact ⟨rfl, sound.2, sound.1⟩
  | cons frame place =>
    rw [veiled_cons, not_or] at bare
    obtain ⟨here, inside⟩ := bare
    have outer : Outer (fill place (.flags group)) = true := outer_of_bare inside
    cases frame with
    | optional => exact absurd rfl here
    | union before after => exact absurd rfl here
    | greedy =>
      obtain ⟨-, plain⟩ := sound
      exact absurd outer (Bool.eq_false_iff.1 plain)
    | flag before own after style =>
      obtain ⟨plain, -⟩ := (flagsProblem?_eq_none_iff _).1 sound.2
      exact absurd outer (Bool.eq_false_iff.1 plain)

/-- In a veiled place one shape is as good as another. -/
theorem sound_of_veiled (veiled : Veiled place) (other : Shape)
    (sound : Sound isLast (fill place shape)) : Sound isLast (fill place other) := by
  cases place with
  | nil => exact absurd veiled not_veiled_nil
  | cons frame place =>
    cases frame with
    | optional => trivial
    | union before after => trivial
    | greedy =>
      cases place with
      | nil => simp [Veiled, Frame.veils] at veiled
      | cons frame place =>
        obtain ⟨given, plain⟩ := sound
        exact ⟨isOptional_fill_cons shape other ▸ given, outer_fill_cons shape other ▸ plain⟩
    | flag before own after style =>
      cases place with
      | nil => simp [Veiled, Frame.veils] at veiled
      | cons frame place =>
        obtain ⟨last, usable⟩ := sound
        obtain ⟨plain, others⟩ := (flagsProblem?_eq_none_iff (fill (frame :: place) shape)).1 usable
        rw [outer_fill_cons shape other] at plain
        exact ⟨last, (flagsProblem?_eq_none_iff _).2 ⟨plain, others⟩⟩

/-! ## One command -/

/-- Of the shape of a parameter it is asked whether it is sound in its place, and nothing else. -/
theorem paramsProblem?_eq_none_iff {command : String} {seen : List String} (shape : Shape) :
    Declaration.paramsProblem? command seen (before ++ { p with shape := shape } :: after) = none ↔
      Sound after.isEmpty shape ∧
        Declaration.paramsProblem? command seen
          (before ++ { p with shape := .of .str } :: after) = none := by
  induction before generalizing seen with
  | nil =>
    rw [List.nil_append, List.nil_append, Declaration.paramsProblem?_cons_eq_none_iff,
      Declaration.paramsProblem?_cons_eq_none_iff, shapeProblem?_eq_none_iff,
      shapeProblem?_eq_none_iff]
    have text : Sound after.isEmpty (.of .str) := trivial
    constructor
    · rintro ⟨fresh, ⟨rest, sound⟩, later⟩
      exact ⟨sound, fresh, ⟨rest, text⟩, later⟩
    · rintro ⟨sound, fresh, ⟨rest, -⟩, later⟩
      exact ⟨fresh, ⟨rest, sound⟩, later⟩
  | cons first before ih =>
    have more : (before ++ { p with shape := shape } :: after).isEmpty =
        (before ++ { p with shape := .of .str } :: after).isEmpty := by cases before <;> rfl
    rw [List.cons_append, List.cons_append, Declaration.paramsProblem?_cons_eq_none_iff,
      Declaration.paramsProblem?_cons_eq_none_iff, more, ih]
    constructor
    · rintro ⟨fresh, fits, sound, later⟩
      exact ⟨sound, fresh, fits, later⟩
    · rintro ⟨sound, fresh, fits, later⟩
      exact ⟨fresh, fits, sound, later⟩

theorem partsProblem?_of_params {qualified : String} {parts : CommandParts σ} {isGroup : Bool}
    (bindable : Declaration.paramsProblem? qualified [] params = none)
    (fine : Declaration.partsProblem? qualified parts isGroup = none) :
    Declaration.partsProblem? qualified { parts with params := params } isGroup = none := by
  obtain ⟨words, free, runs, -⟩ := Declaration.partsProblem?_eq_none_iff.1 fine
  exact Declaration.partsProblem?_eq_none_iff.2 ⟨words, free, runs, bindable⟩

/-- The command with other parameters. -/
def withParams (c : Command σ) (params : List Parameter) : Command σ :=
  { c with parts := { c.parts with params := params } }

/-- A command that was built is also built with other parameters that can be bound. -/
theorem buildUnder_withParams {parts : CommandParts σ} {isGroup : Bool}
    {children : List (Declaration σ)}
    (bindable : Declaration.paramsProblem? (Declaration.qualify parent parts.name) [] params = none)
    (built : (Declaration.declare parts isGroup children).buildUnder parent = .ok c) :
    (Declaration.declare { parts with params := params } isGroup children).buildUnder parent =
      .ok (withParams c params) := by
  rw [buildUnder_eq_ok_iff] at built ⊢
  obtain ⟨fine, shape⟩ := built
  refine ⟨partsProblem?_of_params bindable fine, ?_⟩
  split_ifs at shape ⊢
  · obtain ⟨cs, builds, room, rfl⟩ := shape
    exact ⟨cs, builds, room, rfl⟩
  · rw [shape]
    rfl

/-! ## Trees -/

/-- A command was built from some declaration. -/
def Built (c : Command σ) : Prop :=
  ∃ (parent : Option String) (d : Declaration σ), d.buildUnder parent = .ok c

theorem built_of_builds {front : String} {ds : List (Declaration σ)} {cs : List (Command σ)}
    (builds : List.Forall₂ (Builds front) ds cs) : ∀ c ∈ cs, Built c := by
  induction builds with
  | nil => simp
  | @cons d c ds cs first _ ih => exact List.forall_mem_cons.2 ⟨⟨some front, d, first⟩, ih⟩

/-- Every command of a tree was built itself. -/
theorem built_of_mem_walk (d : Declaration σ) (built : d.buildUnder parent = .ok root) :
    ∀ c ∈ root.walk, Built c := by
  refine WellMade.childInduction (motive := fun root => Built root → ∀ c ∈ root.walk, Built c)
    (wellMade_of_buildUnder d built) ?_ ⟨parent, d, built⟩
  intro _ root _ ih whole c walked
  rcases mem_walk_iff.1 walked with rfl | ⟨child, member, below⟩
  · exact whole
  · obtain ⟨front, ⟨parts, isGroup, children⟩, made⟩ := whole
    obtain ⟨-, -, builds⟩ := children_of_built made
    exact ih child member (built_of_builds builds child member) c below

/-- The parameters with another shape at a place in one of them. -/
def refilled (before : List Parameter) (p : Parameter) (after : List Parameter)
    (place : List Frame) (other : Shape) : List Parameter :=
  before ++ { p with shape := fill place other } :: after

/-- What building a command made of a shape at a place in a parameter. -/
structure Looks (c : Command σ) (before : List Parameter) (p : Parameter) (after : List Parameter)
    (place : List Frame) (shape : Shape) : Prop where
  /-- A group that nothing veils is usable and all of the last parameter. -/
  bare : ¬ Veiled place → ∀ group, shape = .flags group →
    place = [] ∧ after = [] ∧ group.problem? = none
  /-- In a veiled place any other shape would have been accepted as well. -/
  veiled : Veiled place → ∀ other, ∃ parent isGroup children,
    (Declaration.declare c.parts isGroup children).buildUnder parent = .ok c ∧
      (Declaration.declare { c.parts with params := refilled before p after place other } isGroup
        children).buildUnder parent = .ok (withParams c (refilled before p after place other))

/-- In a tree of commands that was built, a group of flags anywhere in the shape of a parameter is
usable and all of the last parameter, unless it is behind an optional shape or among alternatives.
There nothing is looked at, and any shape could stand in its place. -/
theorem groups_checked_unless_veiled {d : Declaration σ} (built : d.build = .ok root) :
    ∀ c ∈ root.walk, ∀ before p after, c.parts.params = before ++ p :: after →
      ∀ place shape, p.shape = fill place shape → Looks c before p after place shape := by
  intro c walked before p after params place shape whole
  obtain ⟨parent, ⟨parts, isGroup, children⟩, own⟩ := built_of_mem_walk d built c walked
  obtain ⟨rfl, -⟩ := children_of_built own
  have bindable : Declaration.paramsProblem? c.qualified []
      (before ++ { p with shape := fill place shape } :: after) = none := by
    rw [← whole, ← params]
    exact Declaration.paramsProblem?_of_buildUnder own
  obtain ⟨sound, others⟩ := (paramsProblem?_eq_none_iff _).1 bindable
  constructor
  · rintro bare group rfl
    obtain ⟨top, usable, last⟩ := checked_of_bare bare sound
    exact ⟨top, List.isEmpty_iff.1 last, usable⟩
  · intro veiled other
    have path : c.qualified = Declaration.qualify parent c.parts.name :=
      (wellMade_of_buildUnder _ own).path
    have still : Declaration.paramsProblem? c.qualified [] (refilled before p after place other) =
        none := (paramsProblem?_eq_none_iff _).2 ⟨sound_of_veiled veiled other sound, others⟩
    rw [path] at still
    exact ⟨parent, isGroup, children, own, buildUnder_withParams still own⟩

/-- How many cards, if it is said. -/
def count : Parameter where
  name := "count"
  shape := .optional (.of .int)

/-- Flags, one of them with alternatives. -/
def deck : FlagGroup Shape where
  flags := [{ name := "jokers", shape := .of .int, aliases := ["j"] },
    { name := "suit", shape := .union [.literal [.str "red"], .of .int] }]

def options : Parameter where
  name := "options"
  shape := .flags deck

def dealing : CommandParts Unit where
  name := "deal"
  params := [count, options]
  body := some fun _ _ => .done

def cards : CommandParts Unit where
  name := "cards"

/-- The flags of a child are checked, and what its first parameter may leave out is not. -/
theorem deck_checked_and_count_not :
    let deal : Command Unit := { qualified := "cards deal", parts := dealing }
    ∃ root, (Declaration.declare cards true [.declare dealing false []]).build = .ok root ∧
      deal ∈ root.walk ∧ deck.problem? = none ∧
      Looks deal [count] options [] [] (.flags deck) ∧
      Looks deal [] count [options] [.optional] (.of .int) := by
  intro deal
  let root : Command Unit :=
    { qualified := "cards", parts := cards, children := some (extended {} [deal]) }
  have built : (Declaration.declare cards true [.declare dealing false []]).build = .ok root := rfl
  have walked : deal ∈ root.walk :=
    mem_walk_iff.2 (.inr ⟨deal, List.mem_singleton_self deal, mem_walk_iff.2 (.inl rfl)⟩)
  have looks := groups_checked_unless_veiled built deal walked
  have checked := looks [count] options [] rfl [] (.flags deck) rfl
  obtain ⟨-, -, usable⟩ := checked.bare not_veiled_nil deck rfl
  exact ⟨root, built, walked, usable, checked, looks [] count [options] rfl [.optional] _ rfl⟩

/-- A name declared for two flags. -/
def twice : FlagGroup Shape where
  flags := [{ name := "n", shape := .of .int }, { name := "n", shape := .of .str }]

/-- A note with something in front of it. -/
def noting (shape : Shape) : CommandParts Unit where
  name := "note"
  params := [{ name := "options", shape := shape }, { name := "text", shape := .of .str }]
  body := some fun _ _ => .done

/-- A command is built with flags that are not usable in front of its last parameter, if they may be
left out, and refused with them if not. -/
theorem twins_accepted_behind_optional :
    (Declaration.declare (noting (fill [.optional] (.flags twice))) false []).build =
        .ok { qualified := "note", parts := noting (fill [.optional] (.flags twice)) } ∧
      twice.problem? = some "flag name \"n\" is declared twice" ∧
      (Declaration.declare (noting (.flags twice)) false []).build =
        .error (.invalidParameter "note" "options" "flags must be the last parameter") := by
  exact ⟨rfl, by decide, rfl⟩

end ChatCommands.NestedGroups
