import ChatCommands.Proofs.QualifiedNames
import ChatCommands.Proofs.StagedRegistration

/-! Trees of commands without conflicts. Whether siblings share a name is asked in three places:
when a group is built, when a root joins the other roots, and, where case is ignored, once more
about all siblings below a root. Together they refuse exactly the trees with a conflict
(`takes_iff_fits`). The last of them also asks whether a single command has one name twice, which
the other two do not: what may be a root need not be welcome as a child. -/
namespace ChatCommands.ConflictFreeTrees
open NamedSiblings RegistryGrowth QualifiedNames StagedRegistration

variable {σ : Type} {ci : Bool} {parent : Option String} {c : Command σ} {cs : List (Command σ)}
  {r : Registry σ} {e : RegistrationError}

/-! ## Conflicts of case -/

/-- The names of a command differ from one another even where case is ignored. -/
def OwnApart (c : Command σ) : Prop := (c.names.map Text.lower).Nodup

/-- Of the siblings anywhere below a command, no two share a name where case is ignored. -/
def KinApart (c : Command σ) : Prop := ∀ g ∈ c.walk, g.childList.Pairwise (Apart true)

/-- No command below another one has a name twice where case is ignored. -/
def OwnApartBelow (c : Command σ) : Prop := ∀ g ∈ c.walk, ∀ child ∈ g.childList, OwnApart child

/-- A failure blames a name of a command of the tree, and tells whether that is an alias. -/
def Blames (e : RegistrationError) (c : Command σ) : Prop :=
  ∃ owner ∈ c.walk, ∃ name ∈ owner.names, e = .nameTaken name (name != owner.name)

theorem foldNames_succeeds_iff {primary : String} {seen names : List String} :
    (∃ left, Command.foldNames primary seen names = .ok left) ↔
      (names.map Text.lower).Nodup ∧ ∀ name ∈ names, Text.lower name ∉ seen := by
  induction names generalizing seen with
  | nil => simp [Command.foldNames]
  | cons name rest ih =>
    rw [Command.foldNames, List.map_cons, List.nodup_cons, List.forall_mem_cons]
    by_cases known : Text.lower name ∈ seen
    · simp [known]
    · have unseen : seen.contains (Text.lower name) = false := by simpa using known
      rw [if_neg (by rw [unseen]; exact Bool.false_ne_true), ih]
      simp only [List.mem_cons, not_or, List.mem_map, not_exists, not_and, known]
      constructor
      · rintro ⟨nodup, others⟩
        exact ⟨⟨fun other member => (others other member).1, nodup⟩, id,
          fun other member => (others other member).2⟩
      · rintro ⟨⟨differ, nodup⟩, -, others⟩
        exact ⟨nodup, fun other member => ⟨differ other member, others other member⟩⟩

theorem blamed_of_foldNames {primary : String} {seen names : List String}
    (fails : Command.foldNames primary seen names = .error e) :
    ∃ name ∈ names, e = .nameTaken name (name != primary) := by
  induction names generalizing seen with
  | nil => cases fails
  | cons name rest ih =>
    rw [Command.foldNames] at fails
    split at fails
    · cases fails
      exact ⟨name, List.mem_cons_self, rfl⟩
    · obtain ⟨other, member, blamed⟩ := ih fails
      exact ⟨other, List.mem_cons_of_mem _ member, blamed⟩

theorem caseConflictAmong_eq_none_iff {seen : List String} :
    Command.caseConflictAmong seen cs = none ↔
      (∀ c ∈ cs, OwnApart c ∧ c.caseConflict? = none ∧ ∀ name ∈ c.names, Text.lower name ∉ seen) ∧
        cs.Pairwise (Apart true) := by
  induction cs generalizing seen with
  | nil => simp [Command.caseConflictAmong]
  | cons c rest ih =>
    rw [Command.caseConflictAmong, List.forall_mem_cons, List.pairwise_cons]
    cases folds : Command.foldNames c.name seen c.names with
    | error e =>
      have fails : ¬ (OwnApart c ∧ ∀ name ∈ c.names, Text.lower name ∉ seen) := fun fresh => by
        obtain ⟨left, succeeds⟩ := (@foldNames_succeeds_iff c.name seen c.names).2 fresh
        rw [folds] at succeeds
        cases succeeds
      simp only [reduceCtorEq, false_iff]
      rintro ⟨⟨⟨own, -, unseen⟩, -⟩, -⟩
      exact fails ⟨own, unseen⟩
    | ok left =>
      obtain ⟨own, unseen⟩ := foldNames_succeeds_iff.1 ⟨left, folds⟩
      have leftIff := (foldNames_eq_ok folds).2
      dsimp only
      cases quiet : c.caseConflict? with
      | some e => simp
      | none =>
        dsimp only
        rw [ih]
        constructor
        · rintro ⟨others, apart⟩
          refine ⟨⟨⟨own, rfl, unseen⟩, fun d member => ?_⟩, fun d member => ?_, apart⟩
          · obtain ⟨ownToo, quietToo, fresh⟩ := others d member
            exact ⟨ownToo, quietToo,
              fun name named early => fresh name named ((leftIff _).2 (.inl early))⟩
          · intro name named other others' same
            exact (others d member).2.2 other others' ((leftIff _).2 (.inr ⟨name, named, same⟩))
        · rintro ⟨⟨-, others⟩, here, apart⟩
          refine ⟨fun d member => ?_, apart⟩
          obtain ⟨ownToo, quietToo, fresh⟩ := others d member
          refine ⟨ownToo, quietToo, fun name named early => ?_⟩
          rcases (leftIff _).1 early with before | ⟨other, others', same⟩
          · exact fresh name named before
          · exact here d member other others' name named same

/-- A command raises no conflict of case if its children do not, neither among themselves nor
below. -/
theorem caseConflict?_eq_none_iff_children : c.caseConflict? = none ↔
    (∀ child ∈ c.childList, OwnApart child ∧ child.caseConflict? = none) ∧
      c.childList.Pairwise (Apart true) := by
  cases group : c.children with
  | none =>
    obtain ⟨qualified, parts, children, owner, serial⟩ := c
    cases group
    simp [Command.caseConflict?, Command.childList]
  | some s =>
    rw [caseConflict?_of_group group, caseConflictAmong_eq_none_iff, childList_of_group group]
    simp

theorem caseConflict?_eq_none_iff_below (made : WellMade ci parent c) :
    c.caseConflict? = none ↔ KinApart c ∧ OwnApartBelow c := by
  refine WellMade.childInduction
    (motive := fun c => c.caseConflict? = none ↔ KinApart c ∧ OwnApartBelow c) made
    fun {parent c} _ ih => ?_
  have walks (P : Command σ → Prop) : (∀ g ∈ c.walk, P g) ↔
      P c ∧ ∀ child ∈ c.childList, ∀ g ∈ child.walk, P g := by
    rw [walk_eq, List.forall_mem_cons, List.forall_mem_flatMap]
  rw [caseConflict?_eq_none_iff_children, KinApart, OwnApartBelow, walks, walks]
  constructor
  · rintro ⟨children, apart⟩
    have below := fun child member => (ih child member).1 (children child member).2
    exact ⟨⟨apart, fun child member => (below child member).1⟩,
      fun child member => (children child member).1, fun child member => (below child member).2⟩
  · rintro ⟨⟨apart, kin⟩, own, ownBelow⟩
    exact ⟨fun child member => ⟨own child member,
      (ih child member).2 ⟨kin child member, ownBelow child member⟩⟩, apart⟩

theorem blames_child {child : Command σ} (member : child ∈ c.childList) (blames : Blames e child) :
    Blames e c := by
  obtain ⟨owner, walked, blamed⟩ := blames
  exact ⟨owner, mem_walk_iff.2 (.inr ⟨child, member, walked⟩), blamed⟩

theorem blames_among {seen : List String}
    (below : ∀ c ∈ cs, c.caseConflict? = some e → Blames e c)
    (conflict : Command.caseConflictAmong seen cs = some e) : ∃ c ∈ cs, Blames e c := by
  induction cs generalizing seen with
  | nil => simp [Command.caseConflictAmong] at conflict
  | cons c rest ih =>
    obtain ⟨here, later⟩ := List.forall_mem_cons.1 below
    rw [Command.caseConflictAmong] at conflict
    split at conflict
    · rename_i fails
      cases conflict
      obtain ⟨name, named, rfl⟩ := blamed_of_foldNames fails
      exact ⟨c, List.mem_cons_self, c, mem_walk_iff.2 (.inl rfl), name, named, rfl⟩
    · split at conflict
      · rename_i inner
        cases conflict
        exact ⟨c, List.mem_cons_self, here inner⟩
      · obtain ⟨d, member, blames⟩ := ih later conflict
        exact ⟨d, List.mem_cons_of_mem _ member, blames⟩

theorem blames_of_caseConflict? (made : WellMade ci parent c) :
    c.caseConflict? = some e → Blames e c := by
  refine WellMade.childInduction (motive := fun c => c.caseConflict? = some e → Blames e c) made
    fun {parent c} _ ih conflict => ?_
  cases group : c.children with
  | none =>
    have none : c.childList = [] := by rw [Command.childList, group]
    have quiet : c.caseConflict? = .none := by
      rw [caseConflict?_eq_none_iff_children, none]
      exact ⟨List.forall_mem_nil _, .nil⟩
    rw [quiet] at conflict
    cases conflict
  | some s =>
    rw [caseConflict?_of_group group, ← childList_of_group group] at conflict
    obtain ⟨child, member, blames⟩ := blames_among ih conflict
    exact blames_child member blames

/-! ## Registration -/

/-- No root has a name of the command. -/
def Unused (r : Registry σ) (c : Command σ) : Prop :=
  ∀ root ∈ r.root.ordered, Apart r.caseInsensitive root c

/-- The registry registers the command. -/
def Accepts (r : Registry σ) (c : Command σ) : Prop :=
  ∃ told next, r.register c = .ok (told, next)

/-- The command and all below it are free of conflicts in the registry. -/
structure Fits (r : Registry σ) (c : Command σ) : Prop where
  unused : Unused r c
  kin : r.caseInsensitive = true → KinApart c
  own : r.caseInsensitive = true → OwnApartBelow c

theorem room_one_iff : Room r.caseInsensitive r.root [c] ↔ Unused r c := by
  have nobody : Room r.caseInsensitive r.root [] := ⟨nofun, .nil⟩
  simp [room_cons, nobody, Unused]

theorem takes_iff_fits (made : WellMade ci parent c) : Takes r [c] ↔ Fits r c := by
  have quiet := caseConflict?_eq_none_iff_below made
  constructor
  · rintro ⟨silent, room⟩
    have below on := quiet.1 (silent on c (List.mem_singleton.2 rfl))
    exact ⟨room_one_iff.1 room, fun on => (below on).1, fun on => (below on).2⟩
  · rintro ⟨unused, kin, own⟩
    exact ⟨fun on => List.forall_mem_singleton.2 (quiet.2 ⟨kin on, own on⟩),
      room_one_iff.2 unused⟩

theorem accepts_iff_takes (orderly : Orderly ci r) : Accepts r c ↔ Takes r [c] := by
  constructor
  · rintro ⟨told, next, taken⟩
    exact ((registerMany_eq_ok_iff orderly).1 (register_eq_ok taken)).1
  · intro takes
    have taken := registerMany_of_takes orderly takes
    rw [registerMany_singleton] at taken
    cases registered : r.register c with
    | error e =>
      rw [registered] at taken
      cases taken
    | ok told => exact ⟨told.1, told.2, registered⟩

/-- What a registry does not accept it refuses, and blames a name in the tree for it. -/
theorem blames_of_refused (made : WellMade ci parent c) (refused : ¬ Accepts r c) :
    ∃ e, r.register c = .error e ∧ Blames e c := by
  cases registered : r.register c with
  | ok told => exact absurd ⟨told.1, told.2, registered⟩ refused
  | error e =>
    refine ⟨e, rfl, ?_⟩
    unfold Registry.register at registered
    split at registered
    · rename_i conflict
      cases registered
      unfold Registry.caseConflict? at conflict
      split at conflict
      · rw [List.findSome?_singleton] at conflict
        exact blames_of_caseConflict? made conflict
      · cases conflict
    · dsimp only at registered
      split at registered
      · rename_i conflict
        cases registered
        unfold Siblings.insert at conflict
        split at conflict
        · rename_i clash
          cases conflict
          obtain ⟨name, first, rfl⟩ := Option.map_eq_some_iff.1 clash
          exact ⟨c, mem_walk_iff.2 (.inl rfl), name, List.mem_of_find?_eq_some first, rfl⟩
        · cases conflict
      · cases registered

/-! ## Building -/

/-- The declaration of a child below `parent` is built to a command. -/
def Builds (parent : String) (d : Declaration σ) (c : Command σ) : Prop :=
  d.buildUnder (some parent) = .ok c

theorem buildChildren_eq_ok_iff {parent : String} {ds : List (Declaration σ)}
    {s t : Siblings (Command σ)} : Declaration.buildChildren parent s ds = .ok t ↔
      ∃ cs, List.Forall₂ (Builds parent) ds cs ∧ s.insertAll false cs = .ok t := by
  induction ds generalizing s with
  | nil => simp [Declaration.buildChildren, Siblings.insertAll]
  | cons d rest ih =>
    rw [Declaration.buildChildren]
    cases built : d.buildUnder (some parent) with
    | error e =>
      simp only [reduceCtorEq, false_iff, not_exists, not_and]
      rintro cs (_ | ⟨first, _⟩)
      rw [Builds, built] at first
      cases first
    | ok child =>
      have head (cs : List (Command σ)) : List.Forall₂ (Builds parent) (d :: rest) cs ↔
          ∃ others, List.Forall₂ (Builds parent) rest others ∧ cs = child :: others := by
        rw [List.forall₂_cons_left_iff]
        simp only [Builds, built, Except.ok.injEq, exists_and_left, exists_eq_left']
      simp only [head]
      cases taken : s.insert child false with
      | error e => simp [Siblings.insertAll, taken]
      | ok next => simp [ih, Siblings.insertAll, taken]

/-- A declaration is built if its parts can be used, its children are built and no two of them share
a name. -/
theorem buildUnder_eq_ok_iff {parts : CommandParts σ} {isGroup : Bool}
    {children : List (Declaration σ)} :
    (Declaration.declare parts isGroup children).buildUnder parent = .ok c ↔
      Declaration.partsProblem? (Declaration.qualify parent parts.name) parts
          (isGroup || !children.isEmpty) = none ∧
        if (isGroup || !children.isEmpty) = true then
          ∃ cs, List.Forall₂ (Builds (Declaration.qualify parent parts.name)) children cs ∧
            Room false {} cs ∧ c =
              { qualified := Declaration.qualify parent parts.name, parts := parts
                children := some (extended {} cs) }
        else c = { qualified := Declaration.qualify parent parts.name, parts := parts } := by
  rw [Declaration.buildUnder]
  cases Declaration.partsProblem? (Declaration.qualify parent parts.name) parts
      (isGroup || !children.isEmpty) with
  | some e => simp
  | none =>
    simp only [true_and]
    split
    · have fits (cs : List (Command σ)) (t : Siblings (Command σ)) :
          ({} : Siblings (Command σ)).insertAll false cs = .ok t ↔
            Room false {} cs ∧ t = extended {} cs := insertAll_eq_ok_iff (nobody_inOrder false)
      cases built : Declaration.buildChildren (Declaration.qualify parent parts.name) {}
          children with
      | error e =>
        simp only [reduceCtorEq, false_iff, not_exists, not_and]
        intro cs builds room _
        have whole := buildChildren_eq_ok_iff.2 ⟨cs, builds, (fits cs _).2 ⟨room, rfl⟩⟩
        rw [built] at whole
        cases whole
      | ok siblings =>
        obtain ⟨cs, builds, taken⟩ := buildChildren_eq_ok_iff.1 built
        obtain ⟨room, rfl⟩ := (fits cs siblings).1 taken
        simp only [Except.ok.injEq]
        constructor
        · rintro rfl
          exact ⟨cs, builds, room, rfl⟩
        · rintro ⟨ds, alsoBuilds, also, rfl⟩
          have whole := buildChildren_eq_ok_iff.2 ⟨ds, alsoBuilds, (fits ds _).2 ⟨also, rfl⟩⟩
          rw [built] at whole
          rw [Except.ok.inj whole]
    · simp [eq_comm]

/-! ## The same declaration elsewhere -/

/-- A command made of the same parts, with the same conflicts below it. -/
structure Twin (c d : Command σ) : Prop where
  parts : d.parts = c.parts
  conflict : d.caseConflict? = c.caseConflict?

theorem Twin.names {d : Command σ} (twin : Twin c d) : d.names = c.names := by
  rw [Command.names, Command.names, twin.parts]

theorem caseConflictAmong_of_twins {seen : List String} {ds : List (Command σ)}
    (twins : List.Forall₂ Twin cs ds) :
    Command.caseConflictAmong seen ds = Command.caseConflictAmong seen cs := by
  induction twins generalizing seen with
  | nil => rfl
  | cons twin _ ih =>
    rw [Command.caseConflictAmong, Command.caseConflictAmong, Command.name, Command.name,
      twin.names, twin.parts, twin.conflict]
    simp only [ih]

theorem names_of_twins {ds : List (Command σ)} (twins : List.Forall₂ Twin cs ds) :
    ds.map Command.names = cs.map Command.names := by
  induction twins with
  | nil => rfl
  | cons twin _ ih => rw [List.map_cons, List.map_cons, twin.names, ih]

theorem paramsProblem?_elsewhere {here : String} (there : String) {seen : List String}
    {params : List Parameter} (fine : Declaration.paramsProblem? here seen params = none) :
    Declaration.paramsProblem? there seen params = none := by
  induction params generalizing seen with
  | nil => rfl
  | cons p rest ih =>
    obtain ⟨fresh, fits, others⟩ := Declaration.paramsProblem?_cons_eq_none_iff.1 fine
    exact Declaration.paramsProblem?_cons_eq_none_iff.2 ⟨fresh, fits, ih others⟩

theorem partsProblem?_elsewhere {here : String} (there : String) {parts : CommandParts σ}
    {isGroup : Bool} (fine : Declaration.partsProblem? here parts isGroup = none) :
    Declaration.partsProblem? there parts isGroup = none := by
  obtain ⟨words, free, runs, bindable⟩ := Declaration.partsProblem?_eq_none_iff.1 fine
  exact Declaration.partsProblem?_eq_none_iff.2
    ⟨words, free, runs, paramsProblem?_elsewhere there bindable⟩

mutual

/-- What is built below one parent is built below any other, with the same conflicts. -/
theorem exists_twin : (d : Declaration σ) → {here : Option String} → (there : Option String) →
    {c : Command σ} → d.buildUnder here = .ok c →
    ∃ twin, d.buildUnder there = .ok twin ∧ Twin c twin
  | .declare parts isGroup children, here, there, c, built => by
    obtain ⟨fine, shape⟩ := buildUnder_eq_ok_iff.1 built
    have elsewhere := partsProblem?_elsewhere (Declaration.qualify there parts.name) fine
    by_cases group : (isGroup || !children.isEmpty) = true
    · rw [if_pos group] at shape
      obtain ⟨cs, builds, room, rfl⟩ := shape
      obtain ⟨ds, also, twins⟩ :=
        exists_twins children (Declaration.qualify there parts.name) builds
      have roomToo := (room_congr (names_of_twins twins)).2 room
      refine ⟨{ qualified := Declaration.qualify there parts.name, parts := parts
                children := some (extended {} ds) },
        buildUnder_eq_ok_iff.2 ⟨elsewhere, ?_⟩, rfl, ?_⟩
      · rw [if_pos group]
        exact ⟨ds, also, roomToo, rfl⟩
      · rw [caseConflict?_of_group rfl, caseConflict?_of_group rfl]
        exact caseConflictAmong_of_twins twins
    · rw [if_neg group] at shape
      cases shape
      exact ⟨{ qualified := Declaration.qualify there parts.name, parts := parts },
        buildUnder_eq_ok_iff.2 ⟨elsewhere, by rw [if_neg group]⟩, rfl,
        by rw [Command.caseConflict?, Command.caseConflict?]⟩

theorem exists_twins : (ds : List (Declaration σ)) → {here : String} → (there : String) →
    {cs : List (Command σ)} → List.Forall₂ (Builds here) ds cs →
    ∃ twins, List.Forall₂ (Builds there) ds twins ∧ List.Forall₂ Twin cs twins
  | [], here, there, cs, builds => by
    cases builds
    exact ⟨[], .nil, .nil⟩
  | d :: rest, here, there, cs, builds => by
    cases builds with
    | cons first others =>
      obtain ⟨twin, built, same⟩ := exists_twin d (some there) first
      obtain ⟨twins, also, alike⟩ := exists_twins rest there others
      exact ⟨_, .cons built also, .cons same alike⟩

end

/-! ## One more child -/

theorem apart_with_case {d : Command σ} (apart : Apart ci c d) : Apart false c d := by
  cases ci with
  | false => exact apart
  | true =>
    intro name own other others same
    exact apart name own other others (congrArg Text.lower same)

/-- Between siblings there is a place for one that has none of their names. -/
theorem pairwise_with_child {child : Command σ} (n : Nat) (room : cs.Pairwise (Apart ci))
    (apart : ∀ sibling ∈ cs, Apart ci sibling child) :
    (cs.take n ++ child :: cs.drop n).Pairwise (Apart ci) := by
  rw [List.pairwise_middle Apart.symm, List.take_append_drop, List.pairwise_cons]
  exact ⟨fun sibling member => (apart sibling member).symm, room⟩

/-- What may be run or stand alone may also have children. -/
theorem partsProblem?_of_more {qualified : String} {parts : CommandParts σ} {isGroup : Bool}
    (fine : Declaration.partsProblem? qualified parts isGroup = none) :
    Declaration.partsProblem? qualified parts true = none := by
  obtain ⟨words, free, -, bindable⟩ := Declaration.partsProblem?_eq_none_iff.1 fine
  exact Declaration.partsProblem?_eq_none_iff.2 ⟨words, free, by simp, bindable⟩

/-- The children of a command are what its children's declarations are built to. -/
theorem children_of_built {parts : CommandParts σ} {isGroup : Bool}
    {children : List (Declaration σ)}
    (built : (Declaration.declare parts isGroup children).buildUnder parent = .ok c) :
    c.parts = parts ∧ c.childList.Pairwise (Apart false) ∧
      List.Forall₂ (Builds (Declaration.qualify parent parts.name)) children c.childList := by
  obtain ⟨-, shape⟩ := buildUnder_eq_ok_iff.1 built
  split at shape
  · obtain ⟨cs, builds, room, rfl⟩ := shape
    exact ⟨rfl, room.apart, builds⟩
  · rename_i single
    cases shape
    have none : children = [] := by
      cases children with
      | nil => rfl
      | cons d rest => simp at single
    cases none
    exact ⟨rfl, .nil, .nil⟩

/-- What is built as a root is built among the children of a command too, where none of them has its
names. -/
theorem exists_with_child {parts : CommandParts σ} {isGroup : Bool}
    {before after : List (Declaration σ)} {d : Declaration σ} {g : Command σ}
    (group : (Declaration.declare parts isGroup (before ++ after)).buildUnder parent = .ok g)
    (built : d.build = .ok c) (apart : ∀ sibling ∈ g.childList, Apart false sibling c) :
    ∃ wider child,
      (Declaration.declare parts isGroup (before ++ d :: after)).buildUnder parent = .ok wider ∧
      wider.parts = g.parts ∧ Twin c child ∧ wider.childList =
        g.childList.take before.length ++ child :: g.childList.drop before.length := by
  obtain ⟨sameParts, room, builds⟩ := children_of_built group
  obtain ⟨child, builtToo, twin⟩ :=
    exists_twin d (some (Declaration.qualify parent parts.name)) built
  have front := List.forall₂_take before.length builds
  have back := List.forall₂_drop before.length builds
  rw [List.take_left] at front
  rw [List.drop_left] at back
  have apartToo : ∀ sibling ∈ g.childList, Apart false sibling child := fun sibling member => by
    rw [Apart, twin.names]
    exact apart sibling member
  have more : (isGroup || !(before ++ d :: after).isEmpty) = true := by simp
  refine ⟨{ qualified := Declaration.qualify parent parts.name, parts := parts
            children := some (extended {} _) }, child,
    buildUnder_eq_ok_iff.2 ⟨?_, ?_⟩, sameParts.symm, twin, rfl⟩
  · rw [more]
    exact partsProblem?_of_more (buildUnder_eq_ok_iff.1 group).1
  · rw [if_pos more]
    exact ⟨_, List.rel_append front (.cons builtToo back),
      ⟨nofun, pairwise_with_child before.length room apartToo⟩, rfl⟩

/-- A group that is free of conflicts stays so with one more child that has no names of the others,
nor one name twice. -/
theorem fits_with_child {n : Nat} {g wider child : Command σ}
    (takes : Takes r [g]) (quiet : r.caseInsensitive = true → c.caseConflict? = none)
    (apart : ∀ sibling ∈ g.childList, Apart r.caseInsensitive sibling c)
    (own : r.caseInsensitive = true → OwnApart c) (parts : wider.parts = g.parts)
    (twin : Twin c child) (children : wider.childList =
      g.childList.take n ++ child :: g.childList.drop n) : Takes r [wider] := by
  obtain ⟨silent, room⟩ := takes
  have names : [g].map Command.names = [wider].map Command.names := by
    simp only [List.map_cons, List.map_nil, Command.names, parts]
  refine ⟨fun on => List.forall_mem_singleton.2 ?_, (room_congr names).1 room⟩
  obtain ⟨fine, kin⟩ := caseConflict?_eq_none_iff_children.1
    (silent on g (List.mem_singleton.2 rfl))
  rw [on] at apart
  have apartToo : ∀ sibling ∈ g.childList, Apart true sibling child := fun sibling member => by
    rw [Apart, twin.names]
    exact apart sibling member
  refine caseConflict?_eq_none_iff_children.2 ⟨fun e member => ?_, ?_⟩
  · rw [children, List.mem_append, List.mem_cons] at member
    rcases member with early | rfl | late
    · exact fine e (List.mem_of_mem_take early)
    · rw [OwnApart, twin.names, twin.conflict]
      exact ⟨own on, quiet on⟩
    · exact fine e (List.mem_of_mem_drop late)
  · rw [children]
    exact pairwise_with_child n kin apartToo

/-! ## Every registry -/

/-- A registry registers a command exactly if no root has a name of it and, where case is ignored,
no two siblings below share a name and none of them has a name twice. Else it stays as it is and the
failure names the conflict. A declaration it accepts as a root may also be declared anywhere among
the children of a group that is accepted, if none of those has its names and it has no name twice
itself. -/
theorem takes_trees_without_conflicts (ci : Bool) (changes : List (Change σ)) (d : Declaration σ)
    (built : d.build = .ok c) :
    (Accepts (grown ci changes) c ↔
      Unused (grown ci changes) c ∧ (ci = true → KinApart c ∧ OwnApartBelow c)) ∧
    (¬ Accepts (grown ci changes) c →
      (∃ e, (grown ci changes).register c = .error e ∧ Blames e c) ∧
        (Change.register d).apply (grown ci changes) = grown ci changes) ∧
    (Accepts (grown ci changes) c → ∀ others parts isGroup before after g,
      (Declaration.declare parts isGroup (before ++ after)).build = .ok g →
      Accepts (grown ci others) g → (∀ sibling ∈ g.childList, Apart ci sibling c) →
      (ci = true → OwnApart c) →
      ∃ wider child, (Declaration.declare parts isGroup (before ++ d :: after)).build = .ok wider ∧
        Accepts (grown ci others) wider ∧ child.parts = c.parts ∧ wider.childList =
          g.childList.take before.length ++ child :: g.childList.drop before.length) := by
  have made := wellMade_of_buildUnder d built
  have orderly := grown_orderly ci changes
  have fits : Accepts (grown ci changes) c ↔ Fits (grown ci changes) c :=
    (accepts_iff_takes orderly).trans (takes_iff_fits made)
  refine ⟨?_, fun refused => ?_, fun accepted others parts isGroup before after g group taken
    apart own => ?_⟩
  · rw [fits]
    constructor
    · rintro ⟨unused, kin, own⟩
      rw [orderly.mode] at kin own
      exact ⟨unused, fun on => ⟨kin on, own on⟩⟩
    · rintro ⟨unused, below⟩
      rw [← orderly.mode] at below
      exact ⟨unused, fun on => (below on).1, fun on => (below on).2⟩
  · obtain ⟨e, fails, blames⟩ := blames_of_refused made refused
    refine ⟨⟨e, fails, blames⟩, ?_⟩
    rw [Change.apply, built]
    show afterwards _ ((grown ci changes).register c) = _
    rw [fails, afterwards]
  · have orderlyToo := grown_orderly (σ := σ) ci others
    obtain ⟨wider, child, builtToo, sameParts, twin, children⟩ :=
      exists_with_child group built fun sibling member => apart_with_case (apart sibling member)
    have quiet := ((accepts_iff_takes orderly).1 accepted).quiet
    rw [orderly.mode, ← orderlyToo.mode] at quiet
    rw [← orderlyToo.mode] at apart own
    refine ⟨wider, child, builtToo, (accepts_iff_takes orderlyToo).2 ?_, twin.parts, children⟩
    exact fits_with_child ((accepts_iff_takes orderlyToo).1 taken)
      (fun on => quiet on c (List.mem_singleton.2 rfl)) apart own sameParts twin children

def ping : CommandParts Unit where
  name := "Ping"
  aliases := ["p"]
  body := some fun _ _ => .done

def whois : CommandParts Unit where
  name := "whois"
  body := some fun _ _ => .done

def net : CommandParts Unit where
  name := "net"

/-- A root that may be a child as well, and that is refused where it is already. -/
theorem ping_nests_and_is_not_repeated :
    (∃ wider, (Declaration.declare net true
        [.declare whois false [], .declare ping false []]).build = .ok wider ∧
      Accepts (grown true []) wider) ∧
    (Change.register (.declare ping false [])).apply
        (grown true [.register (.declare ping false [])]) =
      grown true [.register (.declare ping false [])] := by
  have built : (Declaration.declare ping false []).build =
      .ok { qualified := "Ping", parts := ping } := rfl
  have group : (Declaration.declare net true [.declare whois false []]).build =
      .ok { qualified := "net", parts := net
            children := some (extended {} [{ qualified := "net whois", parts := whois }]) } := rfl
  constructor
  · obtain ⟨-, -, nests⟩ := takes_trees_without_conflicts true [] (.declare ping false []) built
    obtain ⟨wider, -, builtToo, accepted, -⟩ :=
      nests ⟨_, _, rfl⟩ [] net true [.declare whois false []] [] _ group ⟨_, _, rfl⟩
        (List.forall_mem_singleton.2 (by unfold Apart Same; decide))
        (fun _ => by unfold OwnApart; decide)
    exact ⟨wider, builtToo, accepted⟩
  · refine ((takes_trees_without_conflicts true [.register (.declare ping false [])]
      (.declare ping false []) built).2.1 ?_).2
    rintro ⟨told, next, taken⟩
    cases taken

def twofold : CommandParts Unit where
  name := "Ping"
  aliases := ["ping"]
  body := some fun _ _ => .done

/-- A command with one name twice, but for case, may be a root and is refused below one, although no
two siblings share a name. -/
theorem repeated_name_refused_below :
    ∃ c g, (Declaration.declare twofold false []).build = .ok c ∧ Accepts (grown true []) c ∧
      (Declaration.declare net true [.declare twofold false []]).build = .ok g ∧
      Unused (grown true []) g ∧ KinApart g ∧
      (grown true []).register g = .error (.nameTaken "ping" true) := by
  refine ⟨_, _, rfl, ⟨_, _, rfl⟩, rfl, nofun, fun g walked => ?_, rfl⟩
  rcases mem_walk_iff.1 walked with rfl | ⟨child, member, below⟩
  · exact List.pairwise_singleton ..
  · rw [List.mem_singleton.1 member, walk_eq] at below
    rw [List.mem_singleton.1 below]
    exact .nil

end ChatCommands.ConflictFreeTrees
