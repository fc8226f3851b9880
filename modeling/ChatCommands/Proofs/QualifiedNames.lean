import ChatCommands.Proofs.CooldownWindows
import ChatCommands.Proofs.RegistryGrowth
import Mathlib.Data.List.Nodup
import Mathlib.Data.List.SplitBy

/-! Qualified names. The words of a qualified name are those of the root's, and
behind them the names on the path to the command, each of which names one
sibling only. So below one root no two commands have the same qualified name,
and since roots have numbers of their own a number and a qualified name belong
to one command (`ids_nodup`). As long as no root was built below another command
the qualified name is enough: a command is reached from it, and whatever is kept
under it, such as the windows of cooldowns and the buckets of slots, belongs to
one command. A subcommand that was registered as a root keeps its qualified
name, and may share all that with the next one of that name. -/
namespace ChatCommands.QualifiedNames
open NamedSiblings RegistryGrowth

variable {σ : Type} {ci : Bool} {parent : Option String} {r : Registry σ} {c d e g : Command σ}

/-! ## The words of a qualified name -/

theorem words_append {front back : List Char}
    (turn : ∀ a ∈ front.getLast?, ∀ b ∈ back.head?, Text.isBlank a ≠ Text.isBlank b) :
    Text.words (front ++ back) = Text.words front ++ Text.words back := by
  unfold Text.words
  rw [List.splitBy_append, List.filter_append]
  intro a last b first
  simpa using turn a last b first

theorem words_of_isWord {name : String} (word : IsWord name) :
    Text.words name.toList = [name.toList] := by
  obtain ⟨full, solid⟩ := word
  have steady : name.toList.IsChain fun a b => (Text.isBlank a == Text.isBlank b) = true := by
    refine (List.pairwise_of_forall_mem_list fun a first b second => ?_).isChain
    rw [solid a first, solid b second]
    rfl
  unfold Text.words
  rw [List.splitBy_of_isChain (by simpa using full) steady]
  have kept : (name.toList.any Text.isBlank) = false := by simpa using solid
  simp [kept]

/-- A text ends in a word. -/
def EndsSolid (s : String) : Prop := ∃ ch ∈ s.toList.getLast?, Text.isBlank ch = false

theorem endsSolid_append {name : String} (word : IsWord name) (front : String) :
    EndsSolid (front ++ name) := by
  have full : name.toList ≠ [] := by simpa using word.1
  refine ⟨name.toList.getLast full, ?_, word.2 _ (List.getLast_mem full)⟩
  rw [String.toList_append, List.getLast?_append_of_ne_nil _ full]
  exact List.getLast_mem_getLast? full

theorem words_qualify {front name : String} (ends : EndsSolid front) (word : IsWord name) :
    Text.words (Declaration.qualify (some front) name).toList =
      Text.words front.toList ++ [name.toList] := by
  obtain ⟨solid, last, notBlank⟩ := ends
  have gap : Text.words " ".toList = [] := by decide
  rw [Declaration.qualify, String.toList_append, String.toList_append, List.append_assoc,
    words_append, words_append, gap, words_of_isWord word, List.nil_append]
  · intro a isLast b first
    have isGap : a = ' ' := by simpa [eq_comm] using isLast
    rw [isGap, word.2 b (List.mem_of_mem_head? first)]
    decide
  · intro a isLast b isGap
    rw [Option.mem_unique isLast last, notBlank]
    have isBlank : b = ' ' := by simpa [eq_comm] using isGap
    rw [isBlank]
    decide

/-- The words on the path to a command. -/
def pathOf (c : Command σ) : List (List Char) := Text.words c.qualified.toList

theorem name_isWord (made : WellMade ci parent c) : IsWord c.name :=
  made.words c.name (name_mem_names c)

theorem qualified_endsSolid (made : WellMade ci parent c) : EndsSolid c.qualified := by
  rw [made.path]
  cases parent with
  | none => simpa [Declaration.qualify] using endsSolid_append (name_isWord made) ""
  | some front => exact endsSolid_append (name_isWord made) (front ++ " ")

theorem pathOf_root (made : WellMade ci parent c) (home : c.qualified = c.name) :
    pathOf c = [c.name.toList] := by
  rw [pathOf, home]
  exact words_of_isWord (name_isWord made)

theorem pathOf_child (made : WellMade ci parent g) (member : c ∈ g.childList) :
    pathOf c = pathOf g ++ [c.name.toList] := by
  have childMade := made.child member
  rw [pathOf, childMade.path]
  exact words_qualify (qualified_endsSolid made) (name_isWord childMade)

/-! ## Walking -/

/-- A command of a registry: a root or, at any depth, a child of one. -/
inductive Registered (r : Registry σ) : Command σ → Prop where
  | root {c : Command σ} (member : c ∈ r.root.ordered) : Registered r c
  | child {g c : Command σ} (group : Registered r g) (member : c ∈ g.childList) : Registered r c

theorem walkAll_eq_flatMap (cs : List (Command σ)) :
    Command.walkAll cs = cs.flatMap Command.walk := by
  induction cs with
  | nil => rw [Command.walkAll, List.flatMap_nil]
  | cons c rest ih => rw [Command.walkAll, List.flatMap_cons, ih]

theorem walk_eq (c : Command σ) : c.walk = c :: c.childList.flatMap Command.walk := by
  obtain ⟨qualified, parts, children, owner, serial⟩ := c
  match children with
  | none => rw [Command.walk, Command.childList, List.flatMap_nil]
  | some ⟨ordered, index⟩ => rw [Command.walk, walkAll_eq_flatMap, Command.childList]

theorem mem_walk_iff : e ∈ c.walk ↔ e = c ∨ ∃ child ∈ c.childList, e ∈ child.walk := by
  rw [walk_eq, List.mem_cons, List.mem_flatMap]

theorem childList_of_group {s : Siblings (Command σ)} (group : c.children = some s) :
    c.childList = s.ordered := by
  rw [Command.childList, group]

/-- What holds of every command made well if it holds of those with children for which it holds. -/
theorem WellMade.childInduction {motive : Command σ → Prop} (made : WellMade ci parent c)
    (step : ∀ {parent c}, WellMade ci parent c → (∀ child ∈ c.childList, motive child) → motive c) :
    motive c := by
  induction made with
  | mk path words runs inOrder below ih =>
    refine step (.mk path words runs inOrder below) fun child member => ?_
    unfold Command.childList at member
    split at member
    · exact ih _ ‹_› child member
    · contradiction

theorem child_mem_walk (made : WellMade ci parent c) :
    g ∈ c.walk → d ∈ g.childList → d ∈ c.walk := by
  refine WellMade.childInduction (motive := fun c => g ∈ c.walk → d ∈ g.childList → d ∈ c.walk)
    made fun {parent c} _ ih walked member => ?_
  rw [mem_walk_iff] at walked ⊢
  rcases walked with rfl | ⟨child, childMember, below⟩
  · exact .inr ⟨d, member, mem_walk_iff.2 (.inl rfl)⟩
  · exact .inr ⟨child, childMember, ih child childMember below member⟩

theorem registered_of_mem_walk (made : WellMade ci parent c) :
    Registered r c → e ∈ c.walk → Registered r e := by
  refine WellMade.childInduction (motive := fun c => Registered r c → e ∈ c.walk → Registered r e)
    made fun {parent c} _ ih known walked => ?_
  rcases mem_walk_iff.1 walked with rfl | ⟨child, member, below⟩
  · exact known
  · exact ih child member (.child known member) below

theorem mem_registry_walk_iff : e ∈ r.walk.map (·.2) ↔ ∃ root ∈ r.root.ordered, e ∈ root.walk := by
  simp [Registry.walk, List.map_flatMap]

/-- Walking a registry comes to every command of it and to nothing else. -/
theorem mem_walk_iff_registered (orderly : Orderly ci r) :
    e ∈ r.walk.map (·.2) ↔ Registered r e := by
  rw [mem_registry_walk_iff]
  constructor
  · rintro ⟨root, member, walked⟩
    obtain ⟨_, made⟩ := orderly.made root member
    exact registered_of_mem_walk made (.root member) walked
  · intro known
    induction known with
    | root member => exact ⟨_, member, mem_walk_iff.2 (.inl rfl)⟩
    | child group member ih =>
      obtain ⟨root, rootMember, walked⟩ := ih
      obtain ⟨_, made⟩ := orderly.made root rootMember
      exact ⟨root, rootMember, child_mem_walk made walked member⟩

theorem proper_of_registered (orderly : Orderly ci r) (known : Registered r c) : Proper ci c := by
  induction known with
  | root member => exact orderly.made _ member
  | child _ member ih =>
    obtain ⟨_, made⟩ := ih
    exact ⟨_, made.child member⟩

/-! ## No name twice -/

/-- Below a command, paths go on from its own. -/
theorem path_below (made : WellMade ci parent c) :
    ∀ e ∈ c.walk, ∃ rest, pathOf e = pathOf c ++ rest := by
  refine WellMade.childInduction
    (motive := fun c => ∀ e ∈ c.walk, ∃ rest, pathOf e = pathOf c ++ rest)
    made fun {parent c} made ih e walked => ?_
  rcases mem_walk_iff.1 walked with rfl | ⟨child, member, below⟩
  · exact ⟨[], (List.append_nil _).symm⟩
  · obtain ⟨rest, path⟩ := ih child member e below
    refine ⟨child.name.toList :: rest, ?_⟩
    rw [path, pathOf_child made member, List.append_assoc]
    rfl

/-- Siblings and everything below them have no qualified name twice, if none has it twice below
itself. -/
theorem nodup_family {front : List (List Char)} {cs : List (Command σ)}
    (apart : cs.Pairwise (Apart ci)) (paths : ∀ c ∈ cs, pathOf c = front ++ [c.name.toList])
    (made : ∀ c ∈ cs, Proper ci c)
    (inside : ∀ c ∈ cs, (c.walk.map Command.qualified).Nodup) :
    ((cs.flatMap Command.walk).map Command.qualified).Nodup := by
  rw [List.map_flatMap, List.nodup_flatMap]
  refine ⟨inside, apart.imp_of_mem fun {c d} first second apart => ?_⟩
  intro name inFirst inSecond
  obtain ⟨e, walked, rfl⟩ := List.mem_map.1 inFirst
  obtain ⟨f, alsoWalked, same⟩ := List.mem_map.1 inSecond
  obtain ⟨_, firstMade⟩ := made c first
  obtain ⟨_, secondMade⟩ := made d second
  obtain ⟨rest, path⟩ := path_below firstMade e walked
  obtain ⟨otherRest, otherPath⟩ := path_below secondMade f alsoWalked
  have samePath : pathOf f = pathOf e := by rw [pathOf, same, pathOf]
  rw [path, otherPath, paths c first, paths d second] at samePath
  simp only [List.append_assoc, List.append_cancel_left_eq, List.singleton_append,
    List.cons.injEq, String.toList_inj] at samePath
  exact apart c.name (name_mem_names c) d.name (name_mem_names d)
    (samePath.1 ▸ Same.refl ci _)

theorem walk_nodup (made : WellMade ci parent c) : (c.walk.map Command.qualified).Nodup := by
  refine WellMade.childInduction (motive := fun c => (c.walk.map Command.qualified).Nodup)
    made fun {parent c} made ih => ?_
  rw [walk_eq, List.map_cons, List.nodup_cons]
  constructor
  · intro again
    obtain ⟨e, below, same⟩ := List.mem_map.1 again
    obtain ⟨child, member, walked⟩ := List.mem_flatMap.1 below
    obtain ⟨rest, path⟩ := path_below (made.child member) e walked
    have samePath : pathOf e = pathOf c := by rw [pathOf, same, pathOf]
    rw [path, pathOf_child made member, List.append_assoc] at samePath
    simp at samePath
  · have apart : c.childList.Pairwise (Apart ci) := by
      cases group : c.children with
      | none => simp [Command.childList, group]
      | some s => simpa only [childList_of_group group] using (made.inOrder group).apart
    exact nodup_family apart (fun child member => pathOf_child made member)
      (fun child member => ⟨_, made.child member⟩) ih

/-- No number of a registration occurs twice in a registry with one qualified name. -/
theorem ids_nodup (orderly : Orderly ci r) :
    (r.walk.map fun e => CommandId.mk e.1 e.2.qualified).Nodup := by
  have listed : r.walk.map (fun e => CommandId.mk e.1 e.2.qualified) =
      r.root.ordered.flatMap fun root =>
        (root.walk.map Command.qualified).map (CommandId.mk root.serial) := by
    simp only [Registry.walk, List.map_flatMap, List.map_map]
    rfl
  rw [listed, List.nodup_flatMap]
  refine ⟨fun root member => ?_, ?_⟩
  · obtain ⟨_, made⟩ := orderly.made root member
    exact (walk_nodup made).map fun _ _ same => congrArg CommandId.qualified same
  · refine (List.pairwise_map.1 orderly.serials).imp fun {c d} different id inFirst inSecond => ?_
    obtain ⟨_, -, rfl⟩ := List.mem_map.1 inFirst
    obtain ⟨_, -, same⟩ := List.mem_map.1 inSecond
    exact different (congrArg CommandId.serial same).symm

/-- No qualified name occurs twice in a registry whose roots were built as such. -/
theorem registry_walk_nodup (orderly : Orderly ci r) (unmoved : Unmoved r) :
    (r.walk.map (·.2.qualified)).Nodup := by
  have listed : r.walk.map (·.2.qualified) =
      (r.root.ordered.flatMap Command.walk).map Command.qualified := by
    simp only [Registry.walk, List.map_flatMap, List.map_map]
    rfl
  have paths : ∀ c ∈ r.root.ordered, pathOf c = [] ++ [c.name.toList] := by
    intro c member
    obtain ⟨_, made⟩ := orderly.made c member
    exact pathOf_root made (unmoved c member)
  rw [listed]
  refine nodup_family orderly.roots.apart paths orderly.made fun c member => ?_
  obtain ⟨_, made⟩ := orderly.made c member
  exact walk_nodup made

/-! ## Looking up by qualified name -/

theorem child?_eq_some_iff (made : WellMade ci parent g) {word : String} :
    g.child? word ci = some c ↔ c ∈ g.childList ∧ Named ci word c := by
  cases group : g.children with
  | none => simp [Command.child?, Command.childList, group]
  | some s =>
    rw [childList_of_group group, Command.child?, group, Option.bind_some]
    exact get?_eq_some_iff (made.inOrder group)

theorem named_by_name (ci : Bool) (c : Command σ) : Named ci c.name c :=
  ⟨c.name, name_mem_names c, Same.refl ci c.name⟩

theorem descend_snoc (words : List String) (word : String) :
    Registry.descend ci c (words ++ [word]) =
      (Registry.descend ci c words).bind (·.child? word ci) := by
  induction words generalizing c with
  | nil =>
    cases found : c.child? word ci <;> simp [Registry.descend, found]
  | cons first rest ih =>
    rw [List.cons_append, Registry.descend, Registry.descend]
    cases c.child? first ci with
    | none => rfl
    | some child => exact ih

/-- The path to a command goes on from that of its root and leads from there to the command. -/
theorem descend_path (orderly : Orderly ci r) (known : Registered r c) :
    ∃ root ∈ r.root.ordered, ∃ names, pathOf c = pathOf root ++ names ∧
      Registry.descend ci root (names.map String.ofList) = some c := by
  induction known with
  | @root c member => exact ⟨c, member, [], (List.append_nil _).symm, rfl⟩
  | @child g c group member ih =>
    obtain ⟨root, rootMember, names, path, reached⟩ := ih
    obtain ⟨_, made⟩ := proper_of_registered orderly group
    refine ⟨root, rootMember, names ++ [c.name.toList], ?_, ?_⟩
    · rw [pathOf_child made member, path, List.append_assoc]
    · rw [List.map_append, List.map_singleton, String.ofList_toList, descend_snoc, reached,
        Option.bind_some]
      exact (child?_eq_some_iff made).2 ⟨member, named_by_name _ c⟩

/-- Every command is what its qualified name stands for. -/
theorem get?_qualified (orderly : Orderly ci r) (unmoved : Unmoved r) (known : Registered r c) :
    r.get? c.qualified = some c := by
  obtain ⟨root, member, names, path, reached⟩ := descend_path orderly known
  obtain ⟨_, made⟩ := orderly.made root member
  have found : r.root.get? root.name ci = some root :=
    (get?_eq_some_iff orderly.roots).2 ⟨member, named_by_name _ root⟩
  have shape : Text.words c.qualified.toList = root.name.toList :: names := by
    rw [pathOf_root made (unmoved root member)] at path
    exact path
  simp [Registry.get?, Registry.find?, shape, orderly.mode, found, reached]

theorem eq_of_qualified (orderly : Orderly ci r) (unmoved : Unmoved r) (known : Registered r c)
    (alsoKnown : Registered r d) (same : c.qualified = d.qualified) : c = d := by
  have found := get?_qualified orderly unmoved known
  rw [same, get?_qualified orderly unmoved alsoKnown] at found
  exact (Option.some.inj found).symm

/-! ## What is kept under a qualified name -/

/-- The set of commands at the root or in a group. -/
inductive Level (r : Registry σ) : Siblings (Command σ) → Prop where
  | root : Level r r.root
  | group {g : Command σ} {s : Siblings (Command σ)} (known : Registered r g)
      (group : g.children = some s) : Level r s

theorem level_inOrder {s : Siblings (Command σ)} (orderly : Orderly ci r) (level : Level r s) :
    InOrder ci s := by
  cases level with
  | root => exact orderly.roots
  | group known group =>
    obtain ⟨_, made⟩ := proper_of_registered orderly known
    exact made.inOrder group

/-- An invocation of the command may be counted in the window with a key. -/
def UsesWindow (c : Command σ) (key : WindowKey) : Prop :=
  ∃ position rule ctx, c.parts.cooldowns[position]? = some rule ∧
    key = ⟨c.qualified, position, rule.bucket.key ctx⟩

/-- An invocation changes windows only at keys that its command uses. -/
theorem usesWindow_of_changed {cd : Cooldowns} {ctx : Context} {now : Instant} {key : WindowKey}
    (changed : (cd.acquire c.qualified c.parts.cooldowns ctx now).1.windows.get? key ≠
      cd.windows.get? key) : UsesWindow c key := by
  rw [Cooldowns.acquire, CooldownWindows.window_after_attempts] at changed
  cases counts : CooldownWindows.ruleAt c.qualified ctx 0 c.parts.cooldowns key with
  | none => simp [counts] at changed
  | some rule =>
    obtain ⟨command, position, bucket⟩ := key
    obtain ⟨rfl, declared, rfl⟩ := (CooldownWindows.ruleAt_eq_some_iff _ ctx _).1 counts
    exact ⟨position, rule, ctx, declared, rfl⟩

/-- An invocation of the command may ask for a slot under a key. -/
def UsesSlots (c : Command σ) (key : SlotKey) : Prop :=
  ∃ rule ctx, c.parts.concurrency = some rule ∧ key = Slots.keyFor c.qualified rule ctx

/-- No two commands of a registry share a window or a bucket. -/
structure OnItsOwn (r : Registry σ) : Prop where
  names : (r.walk.map (·.2.qualified)).Nodup
  found : ∀ c, Registered r c → r.get? c.qualified = some c
  windows : ∀ c d, Registered r c → Registered r d → c ≠ d →
    ∀ key, UsesWindow c key → ¬ UsesWindow d key
  slots : ∀ c d, Registered r c → Registered r d → c ≠ d → ∀ key, UsesSlots c key → ¬ UsesSlots d key

theorem onItsOwn_of_unmoved (orderly : Orderly ci r) (unmoved : Unmoved r) : OnItsOwn r where
  names := registry_walk_nodup orderly unmoved
  found c known := get?_qualified orderly unmoved known
  windows c d known alsoKnown different := by
    rintro key ⟨_, _, _, _, rfl⟩ ⟨_, _, _, _, same⟩
    exact different (eq_of_qualified orderly unmoved known alsoKnown
      (congrArg WindowKey.command same))
  slots c d known alsoKnown different := by
    rintro key ⟨_, _, _, rfl⟩ ⟨_, _, _, same⟩
    exact different (eq_of_qualified orderly unmoved known alsoKnown (congrArg SlotKey.command same))

/-- Whatever a registry went through, the index of every set of siblings tells the owner of each
name as a scan would, and no two siblings share a name. Walking comes to each command once, and to no
two of one number and one qualified name. As long as only commands came that were built as roots, no
two have one qualified name, each is found under its own, and none shares what is kept under it. -/
theorem each_name_has_one_owner (ci : Bool) (changes : List (Change σ)) :
    let r := grown ci changes
    (∀ s, Level r s →
      (∀ name, name ∈ s.index.map (·.1) ↔ ∃ c ∈ s.ordered, name ∈ c.names) ∧
      (∀ name c, s.owner? name = some c ↔ c ∈ s.ordered ∧ name ∈ c.names) ∧
      (∀ name, s.owner? name = s.ordered.find? (·.names.contains name)) ∧
      s.ordered.Pairwise (Apart ci)) ∧
    (∀ c, c ∈ r.walk.map (·.2) ↔ Registered r c) ∧
    (r.walk.map fun e => CommandId.mk e.1 e.2.qualified).Nodup ∧
    (Unmoved r → OnItsOwn r) ∧ ((∀ change ∈ changes, change.BringsRoots) → OnItsOwn r) := by
  intro r
  have orderly : Orderly ci r := grown_orderly ci changes
  refine ⟨fun s level => ?_, fun c => mem_walk_iff_registered orderly, ids_nodup orderly,
    onItsOwn_of_unmoved orderly, fun roots => onItsOwn_of_unmoved orderly (grown_unmoved ci roots)⟩
  have inOrder := level_inOrder orderly level
  refine ⟨fun name => ?_, fun name c => owner?_eq_some_iff inOrder,
    owner?_eq_find? inOrder, inOrder.apart⟩
  simp only [List.mem_map, Prod.exists, exists_and_right, exists_eq_right, inOrder.index_iff]
  exact ⟨fun ⟨_, c, member, own, _⟩ => ⟨c, member, own⟩,
    fun ⟨c, member, own⟩ => ⟨c.name, c, member, own, rfl⟩⟩

/-- Once a minute. -/
def getting : CommandParts Unit where
  name := "get"
  cooldowns := [⟨1, 60000000000, .everyone⟩]
  body := some fun _ _ => .done

/-- A group with that command. -/
def tagging : Declaration Unit := .declare { name := "tag" } true [.declare getting false []]

/-- The command below the group. -/
def nestedGet : Command Unit := { qualified := "tag get", parts := getting }

/-- A subcommand is found under its qualified name. -/
theorem subcommand_on_its_own :
    OnItsOwn (grown false [.register tagging]) ∧
      (grown false [.register tagging]).get? "tag get" = some nestedGet := by
  obtain ⟨-, -, -, -, alone⟩ := each_name_has_one_owner false [.register tagging]
  have own := alone (List.forall_mem_singleton.2 trivial)
  exact ⟨own, own.found nestedGet
    (.child (.root (List.mem_singleton.2 rfl)) (List.mem_singleton.2 rfl))⟩

theorem nestedGet_made : Made nestedGet :=
  .under (.built (d := tagging) rfl) (List.mem_singleton.2 rfl)

/-- The group is removed, its subcommand registered as a root, and the group registered anew. -/
def moving : List (Change Unit) :=
  [.register tagging, .remove "tag",
    .registerAgain [nestedGet] (List.forall_mem_singleton.2 nestedGet_made), .register tagging]

/-- The subcommand as a root. -/
def movedGet : Command Unit := { nestedGet with serial := 1 }

def anyone : Context where
  author := { id := 1, name := "" }
  origin := ⟨.direct, none, { id := 9, name := "" }⟩
  content := ""
  responder := .discard
  directory := .ofLists [] [] [] []

/-- A subcommand that was registered as a root has its qualified name, and the windows kept under it,
together with the next subcommand of that name, and is not found under it. -/
theorem moved_subcommand_shares_name :
    let r := grown false moving
    Registered r movedGet ∧ Registered r nestedGet ∧ movedGet ≠ nestedGet ∧
      ¬ (r.walk.map (·.2.qualified)).Nodup ∧ r.get? movedGet.qualified ≠ some movedGet ∧
      ∃ key, UsesWindow movedGet key ∧ UsesWindow nestedGet key := by
  intro r
  have different : movedGet ≠ nestedGet :=
    fun same => absurd (congrArg Command.serial same) (by decide)
  have names : r.walk.map (·.2.qualified) = ["tag get", "tag", "tag get"] := rfl
  have found : r.get? "tag get" = some nestedGet := rfl
  refine ⟨.root List.mem_cons_self, ?_, different, ?_, ?_, ⟨"tag get", 0, .everyone⟩, ?_, ?_⟩
  · exact .child (.root (List.mem_cons_of_mem _ List.mem_cons_self)) (List.mem_singleton.2 rfl)
  · rw [names]
    decide
  · exact fun itself => different (Option.some.inj (itself.symm.trans found))
  · exact ⟨0, ⟨1, 60000000000, .everyone⟩, anyone, rfl, rfl⟩
  · exact ⟨0, ⟨1, 60000000000, .everyone⟩, anyone, rfl, rfl⟩

end ChatCommands.QualifiedNames
