import ChatCommands.Command.Declaration
import ChatCommands.Command.Registry
import ChatCommands.Proofs.NamedSiblings

/-! Registries as they come about. A registry starts empty and changes by
registrations and removals, of which some are refused and change nothing
(`grown`). Whatever was done, the names at the root and in every group are in
order, every name is a word, qualified names go on from those of the groups,
what is no group has a body, and no number was given twice (`grown_orderly`).
Groups are built with case in mind before they come to a registry that ignores
it; that their names are apart there too is what the registry asks for when it
takes them. A command that was removed can be registered again, and so can one
from below it, which keeps the qualified name that it was built with; if none
was moved so, qualified names are the paths of names (`grown_unmoved`). -/
namespace ChatCommands.RegistryGrowth
open NamedSiblings

variable {σ : Type} {ci : Bool} {parent : Option String} {c : Command σ} {r : Registry σ}

/-- A name is a word: it has characters, and none of them is blank. -/
def IsWord (name : String) : Prop :=
  name ≠ "" ∧ ∀ ch ∈ name.toList, Text.isBlank ch = false

instance (name : String) : Decidable (IsWord name) :=
  decidable_of_iff (name ≠ "" ∧ name.toList.all (fun ch => !Text.isBlank ch) = true) (by
    simp [IsWord])

/-- A command below `parent`, with everything below it, is as building leaves it. -/
inductive WellMade (ci : Bool) : Option String → Command σ → Prop where
  | mk {parent : Option String} {c : Command σ}
      (path : c.qualified = Declaration.qualify parent c.name)
      (words : ∀ name ∈ c.names, IsWord name)
      (runs : c.children = none → c.parts.body.isSome)
      (inOrder : ∀ s, c.children = some s → InOrder ci s)
      (below : ∀ s, c.children = some s → ∀ child ∈ s.ordered,
        WellMade ci (some c.qualified) child) :
      WellMade ci parent c

namespace WellMade

theorem path (made : WellMade ci parent c) : c.qualified = Declaration.qualify parent c.name := by
  cases made with | mk path => exact path

theorem words (made : WellMade ci parent c) : ∀ name ∈ c.names, IsWord name := by
  cases made with | mk _ words => exact words

theorem runs (made : WellMade ci parent c) (single : c.isGroup = false) :
    c.parts.body.isSome := by
  cases made with | mk _ _ runs => exact runs (by simpa [Command.isGroup] using single)

theorem inOrder {s : Siblings (Command σ)} (made : WellMade ci parent c)
    (group : c.children = some s) : InOrder ci s := by
  cases made with | mk _ _ _ inOrder => exact inOrder s group

theorem child (made : WellMade ci parent c) {child : Command σ} (member : child ∈ c.childList) :
    WellMade ci (some c.qualified) child := by
  cases made with
  | mk _ _ _ _ below =>
    unfold Command.childList at member
    split at member
    · exact below _ ‹_› child member
    · contradiction

/-- What tells a registered command from others has no part in how it is made. -/
theorem marked (made : WellMade ci parent c) (owner : Option String) (serial : Nat) :
    WellMade ci parent { c with owner := owner, serial := serial } := by
  cases made with | mk path words runs inOrder below => exact .mk path words runs inOrder below

end WellMade

/-- A command is made well at its place, which is the root or below another command. -/
def Proper (ci : Bool) (c : Command σ) : Prop := ∃ parent, WellMade ci parent c

theorem Proper.marked (proper : Proper ci c) (owner : Option String) (serial : Nat) :
    Proper ci { c with owner := owner, serial := serial } := by
  obtain ⟨parent, made⟩ := proper
  exact ⟨parent, made.marked owner serial⟩

/-! ## Building -/

theorem isWord_of_not_refused {name : String}
    (plain : ¬ (name.isEmpty || name.toList.any Text.isBlank) = true) : IsWord name := by
  simp only [Bool.or_eq_true, not_or, String.isEmpty_iff, List.any_eq_true, not_exists, not_and,
    Bool.not_eq_true] at plain
  exact plain

theorem partsProblem?_eq_none {qualified : String} {parts : CommandParts σ} {isGroup : Bool}
    (accepted : Declaration.partsProblem? qualified parts isGroup = none) :
    (∀ name ∈ parts.name :: parts.aliases, IsWord name) ∧
      (isGroup = false → parts.body.isSome) := by
  obtain ⟨words, -, runs, -⟩ := Declaration.partsProblem?_eq_none_iff.1 accepted
  refine ⟨fun name own => isWord_of_not_refused (words name own), ?_⟩
  rintro rfl
  cases body : parts.body <;> simp_all

mutual

theorem wellMade_of_buildUnder : (d : Declaration σ) → {parent : Option String} →
    {c : Command σ} → d.buildUnder parent = .ok c → WellMade false parent c
  | .declare parts isGroup children, parent, c, built => by
    rw [Declaration.buildUnder] at built
    cases accepted : Declaration.partsProblem? (Declaration.qualify parent parts.name) parts
        (isGroup || !children.isEmpty) with
    | some e => simp [accepted] at built
    | none =>
      obtain ⟨words, runs⟩ := partsProblem?_eq_none accepted
      simp only [accepted] at built
      split at built
      · split at built
        · contradiction
        · rename_i siblings grown
          cases built
          have family := family_of_buildChildren children grown (nobody_inOrder false) (by simp)
          refine .mk rfl words (by simp) ?_ ?_
          · rintro _ ⟨⟩
            exact family.1
          · rintro _ ⟨⟩
            exact family.2
      · rename_i single
        cases built
        exact .mk rfl words (fun _ => runs (by simpa using single)) (by simp) (by simp)

theorem family_of_buildChildren : (ds : List (Declaration σ)) → {parent : String} →
    {s t : Siblings (Command σ)} → Declaration.buildChildren parent s ds = .ok t →
    InOrder false s → (∀ child ∈ s.ordered, WellMade false (some parent) child) →
    InOrder false t ∧ ∀ child ∈ t.ordered, WellMade false (some parent) child
  | [], parent, s, t, built, inOrder, made => by
    rw [Declaration.buildChildren] at built
    cases built
    exact ⟨inOrder, made⟩
  | d :: rest, parent, s, t, built, inOrder, made => by
    rw [Declaration.buildChildren] at built
    split at built
    · contradiction
    · rename_i child childBuilt
      split at built
      · contradiction
      · rename_i next taken
        refine family_of_buildChildren rest built (insert_inOrder inOrder taken) ?_
        obtain ⟨-, rfl⟩ := insert_eq_ok taken
        intro other member
        rcases List.mem_append.1 member with old | new
        · exact made other old
        · cases List.mem_singleton.1 new
          exact wellMade_of_buildUnder d childBuilt

end

/-- A command as it can come to a registry: as it was built, from below such a command, or with the
marks of an earlier registration. -/
inductive Made : Command σ → Prop where
  | built {d : Declaration σ} {c : Command σ} (built : d.build = .ok c) : Made c
  | under {c child : Command σ} (group : Made c) (member : child ∈ c.childList) : Made child
  | marked {c : Command σ} (made : Made c) (owner : Option String) (serial : Nat) :
      Made { c with owner := owner, serial := serial }

theorem proper_of_made (made : Made c) : Proper false c := by
  induction made with
  | built built => exact ⟨none, wellMade_of_buildUnder _ built⟩
  | under _ member ih =>
    obtain ⟨_, group⟩ := ih
    exact ⟨_, group.child member⟩
  | marked _ owner serial ih => exact ih.marked owner serial

/-! ## Groups where case is ignored -/

theorem foldNames_eq_ok {primary : String} {seen left : List String} {names : List String}
    (fresh : Command.foldNames primary seen names = .ok left) :
    (∀ name ∈ names, Text.lower name ∉ seen) ∧
      (∀ folded, folded ∈ left ↔ folded ∈ seen ∨ ∃ name ∈ names, Text.lower name = folded) := by
  induction names generalizing seen with
  | nil =>
    cases fresh
    simp
  | cons name rest ih =>
    rw [Command.foldNames] at fresh
    split at fresh
    · contradiction
    · rename_i unseen
      obtain ⟨restFresh, restLeft⟩ := ih fresh
      refine ⟨?_, fun folded => ?_⟩
      · intro other member
        rcases List.mem_cons.1 member with rfl | later
        · simpa using unseen
        · exact fun early => restFresh other later (List.mem_cons_of_mem _ early)
      · rw [restLeft, List.mem_cons]
        simp only [List.mem_cons, exists_eq_or_imp, or_assoc, or_left_comm]
        exact or_congr_right (or_congr_left eq_comm)

/-- Siblings that raise no conflict of case are apart in lower case, and raise none below them. -/
theorem apart_of_caseConflictAmong {seen : List String} {cs : List (Command σ)}
    (none : Command.caseConflictAmong seen cs = none) :
    (∀ c ∈ cs, ∀ name ∈ c.names, Text.lower name ∉ seen) ∧ cs.Pairwise (Apart true) ∧
      ∀ c ∈ cs, c.caseConflict? = .none := by
  induction cs generalizing seen with
  | nil => simp
  | cons c rest ih =>
    rw [Command.caseConflictAmong] at none
    split at none
    · contradiction
    · rename_i left fresh
      obtain ⟨unseen, leftIff⟩ := foldNames_eq_ok fresh
      split at none
      · contradiction
      · rename_i quiet
        obtain ⟨restUnseen, restApart, restQuiet⟩ := ih none
        refine ⟨?_, List.pairwise_cons.2 ⟨?_, restApart⟩, ?_⟩
        · intro d member name own early
          rcases List.mem_cons.1 member with rfl | later
          · exact unseen name own early
          · exact restUnseen d later name own ((leftIff _).2 (.inl early))
        · intro d later name own other others same
          exact restUnseen d later other others ((leftIff _).2 (.inr ⟨name, own, same⟩))
        · intro d member
          rcases List.mem_cons.1 member with rfl | later
          · exact quiet
          · exact restQuiet d later

theorem caseConflict?_of_group {s : Siblings (Command σ)} (group : c.children = some s) :
    c.caseConflict? = Command.caseConflictAmong [] s.ordered := by
  obtain ⟨qualified, parts, children, owner, serial⟩ := c
  cases group
  rw [Command.caseConflict?]

/-- A command without a conflict of case is made well also where case is ignored. -/
theorem wellMade_of_caseConflict? (made : WellMade false parent c)
    (quiet : c.caseConflict? = none) : WellMade true parent c := by
  induction made with
  | mk path words runs inOrder below ih =>
    refine .mk path words runs (fun s group => ?_) (fun s group child member => ?_)
    · rw [caseConflict?_of_group group] at quiet
      exact ⟨(inOrder s group).index_iff, (apart_of_caseConflictAmong quiet).2.1⟩
    · rw [caseConflict?_of_group group] at quiet
      exact ih s group child member ((apart_of_caseConflictAmong quiet).2.2 child member)

/-! ## Registering and removing -/

/-- What can be done to a registry. Commands come as their declarations, or as they are. -/
inductive Change (σ : Type) where
  | register (d : Declaration σ)
  | registerGroup (d : Declaration σ)
  /-- Several commands at once, for a module or not. -/
  | registerMany (owner : Option String) (ds : List (Declaration σ))
  /-- Commands that are there already: some that a removal handed back, or that were below them. They
  keep their qualified names and the names of their modules. What had changed about them comes back by
  adjustments. -/
  | registerAgain (cs : List (Command σ)) (made : ∀ c ∈ cs, Made c)
  | remove (name : String)
  /-- A command is used, enabled, disabled or given a check. -/
  | adjust (serial : Nat) (c : Command σ) (change : Standing → Standing)

/-- The registry after a registration, which is the one before if it was refused. -/
def afterwards {α : Type} (r : Registry σ) :
    Except RegistrationError (α × Registry σ) → Registry σ
  | .ok (_, next) => next
  | .error _ => r

def Change.apply (r : Registry σ) : Change σ → Registry σ
  | .register d => afterwards r (d.build.bind r.register)
  | .registerGroup d => afterwards r (d.build.bind r.registerGroup)
  | .registerMany owner ds =>
    afterwards r ((ds.mapM Declaration.build).bind fun commands =>
      r.registerMany (commands.map fun c => { c with owner := owner }))
  | .registerAgain cs _ => afterwards r (r.registerMany cs)
  | .remove name => ((r.remove name).map (·.2)).getD r
  | .adjust serial c change => r.adjust serial c change

/-- The registry that changes lead to, one after another. -/
def grown (ci : Bool) (changes : List (Change σ)) : Registry σ :=
  changes.foldl Change.apply (Registry.empty ci)

/-- The commands that a change is to register. -/
def Change.Brings : Change σ → Command σ → Prop
  | .register d, c | .registerGroup d, c => d.build = .ok c
  | .registerMany owner ds, c => ∃ d ∈ ds, ∃ e, d.build = .ok e ∧ c = { e with owner := owner }
  | .registerAgain cs _, c => c ∈ cs
  | .remove _, _ | .adjust _ _ _, _ => False

/-- What a change comes to. -/
inductive Applied (change : Change σ) (r : Registry σ) : Registry σ → Prop where
  | refused : Applied change r r
  | took {cs told : List (Command σ)} {next : Registry σ} (brings : ∀ c ∈ cs, change.Brings c)
      (taken : r.registerMany cs = .ok (told, next)) : Applied change r next
  | removed {name : String} {gone : Command σ} {next : Registry σ}
      (found : r.remove name = some (gone, next)) : Applied change r next
  | adjusted (serial : Nat) (c : Command σ) (standing : Standing → Standing) :
      Applied change r (r.adjust serial c standing)

theorem register_eq_ok {next : Registry σ} {numbered : Command σ}
    (taken : r.register c = .ok (numbered, next)) :
    r.registerMany [c] = .ok ([numbered], next) := by
  unfold Registry.register at taken
  unfold Registry.registerMany
  split at taken
  · contradiction
  · rename_i quiet
    simp only [] at taken
    split at taken
    · contradiction
    · rename_i root inserted
      cases taken
      simp [Siblings.insertAll, inserted]

theorem bind_eq_ok {ε α β : Type} {first : Except ε α} {next : α → Except ε β} {b : β}
    (succeeds : first.bind next = .ok b) : ∃ a, first = .ok a ∧ next a = .ok b := by
  cases first with
  | error e => contradiction
  | ok a => exact ⟨a, rfl, succeeds⟩

theorem built_of_mapM {ds : List (Declaration σ)} {cs : List (Command σ)}
    (built : ds.mapM Declaration.build = .ok cs) : ∀ c ∈ cs, ∃ d ∈ ds, d.build = .ok c := by
  induction ds generalizing cs with
  | nil =>
    cases built
    simp
  | cons d rest ih =>
    rw [List.mapM_cons] at built
    obtain ⟨c, first, built⟩ := bind_eq_ok built
    obtain ⟨others, later, built⟩ := bind_eq_ok built
    cases built
    intro e member
    rcases List.mem_cons.1 member with rfl | after
    · exact ⟨d, List.mem_cons_self, first⟩
    · obtain ⟨other, listed, same⟩ := ih later e after
      exact ⟨other, List.mem_cons_of_mem _ listed, same⟩

theorem applied_afterwards {α : Type} {change : Change σ}
    {outcome : Except RegistrationError (α × Registry σ)}
    (took : ∀ told next, outcome = .ok (told, next) → Applied change r next) :
    Applied change r (afterwards r outcome) := by
  match outcome, took with
  | .ok (told, next), took => exact took told next rfl
  | .error _, _ => exact .refused

/-- A change registers all that it brings or nothing, removes a root, or adjusts a command. -/
theorem applied (change : Change σ) (r : Registry σ) : Applied change r (change.apply r) := by
  cases change with
  | register d =>
    refine applied_afterwards fun told next succeeds => ?_
    obtain ⟨c, built, taken⟩ := bind_eq_ok succeeds
    exact .took (List.forall_mem_singleton.2 built) (register_eq_ok taken)
  | registerGroup d =>
    refine applied_afterwards fun told next succeeds => ?_
    obtain ⟨c, built, taken⟩ := bind_eq_ok succeeds
    unfold Registry.registerGroup at taken
    split at taken
    · exact .took (List.forall_mem_singleton.2 built) (register_eq_ok taken)
    · contradiction
  | registerMany owner ds =>
    refine applied_afterwards fun told next succeeds => ?_
    obtain ⟨cs, built, taken⟩ := bind_eq_ok succeeds
    refine .took (fun c member => ?_) taken
    obtain ⟨e, listed, rfl⟩ := List.mem_map.1 member
    obtain ⟨d, declared, same⟩ := built_of_mapM built e listed
    exact ⟨d, declared, e, same, rfl⟩
  | registerAgain cs made => exact applied_afterwards fun told next taken => .took (fun _ => id) taken
  | remove name =>
    cases found : r.remove name with
    | none => simpa [Change.apply, found] using Applied.refused
    | some e => simpa [Change.apply, found] using Applied.removed found
  | adjust serial c standing => exact .adjusted serial c standing

theorem made_of_brings {change : Change σ} (brings : change.Brings c) : Made c := by
  cases change with
  | register d | registerGroup d => exact .built brings
  | registerMany owner ds =>
    obtain ⟨d, -, e, built, rfl⟩ := brings
    exact (Made.built built).marked owner e.serial
  | registerAgain cs made => exact made c brings
  | remove name | adjust serial c standing => contradiction

/-! ## Order -/

/-- The names at the root and everywhere below it are in order, with `ci` for whether case is
ignored, and no two roots have one number. -/
structure Orderly (ci : Bool) (r : Registry σ) : Prop where
  mode : r.caseInsensitive = ci
  roots : InOrder ci r.root
  made : ∀ c ∈ r.root.ordered, Proper ci c
  serials : (r.root.ordered.map Command.serial).Nodup
  issued : ∀ c ∈ r.root.ordered, c.serial < r.nextSerial

theorem insertAll_inOrder {s t : Siblings (Command σ)} {cs : List (Command σ)}
    (inOrder : InOrder ci s) (taken : s.insertAll ci cs = .ok t) :
    InOrder ci t ∧ t.ordered = s.ordered ++ cs := by
  induction cs generalizing s with
  | nil =>
    cases taken
    exact ⟨inOrder, (List.append_nil _).symm⟩
  | cons c rest ih =>
    rw [Siblings.insertAll] at taken
    split at taken
    · contradiction
    · rename_i next first
      obtain ⟨after, ordered⟩ := ih (insert_inOrder inOrder first) taken
      obtain ⟨-, rfl⟩ := insert_eq_ok first
      exact ⟨after, ordered.trans (List.append_assoc ..)⟩

theorem proper_of_quiet {cs : List (Command σ)} (mode : r.caseInsensitive = ci)
    (quiet : r.caseConflict? cs = none) (proper : ∀ c ∈ cs, Proper false c) :
    ∀ c ∈ cs, Proper ci c := by
  intro c member
  unfold Registry.caseConflict? at quiet
  cases ci with
  | false => exact proper c member
  | true =>
    rw [mode, if_pos rfl] at quiet
    obtain ⟨parent, made⟩ := proper c member
    exact ⟨parent, wellMade_of_caseConflict? made (List.findSome?_eq_none_iff.1 quiet c member)⟩

/-- Commands as a registry numbers them have the next numbers, one after another. -/
theorem serials_numbered (serial : Nat) (cs : List (Command σ)) :
    (cs.zipIdx.map fun e => { e.1 with serial := serial + e.2 }).map Command.serial =
      List.range' serial cs.length := by
  calc (cs.zipIdx.map fun e => { e.1 with serial := serial + e.2 }).map Command.serial
      = (cs.zipIdx.map (·.2)).map (serial + ·) := by rw [List.map_map, List.map_map]; rfl
    _ = List.range' serial cs.length := by rw [List.zipIdx_map_snd, List.map_add_range', Nat.add_zero]

/-- What a registry takes stands behind the roots that it has. -/
theorem registerMany_roots {cs numbered : List (Command σ)} {next : Registry σ}
    (orderly : Orderly ci r) (taken : r.registerMany cs = .ok (numbered, next)) :
    InOrder ci next.root ∧ next.root.ordered = r.root.ordered ++ numbered ∧
      numbered = cs.zipIdx.map (fun e => { e.1 with serial := r.nextSerial + e.2 }) ∧
      r.caseConflict? cs = none ∧ next.caseInsensitive = r.caseInsensitive ∧
      next.nextSerial = r.nextSerial + cs.length := by
  unfold Registry.registerMany at taken
  split at taken
  · contradiction
  · rename_i quiet
    simp only [] at taken
    split at taken
    · contradiction
    · rename_i root inserted
      cases taken
      rw [orderly.mode] at inserted
      obtain ⟨inOrder, ordered⟩ := insertAll_inOrder orderly.roots inserted
      exact ⟨inOrder, ordered, rfl, quiet, rfl, rfl⟩

theorem registerMany_orderly {cs numbered : List (Command σ)} {next : Registry σ}
    (orderly : Orderly ci r) (proper : ∀ c ∈ cs, Proper false c)
    (taken : r.registerMany cs = .ok (numbered, next)) : Orderly ci next := by
  obtain ⟨inOrder, ordered, rfl, quiet, mode, issues⟩ := registerMany_roots orderly taken
  have fit := proper_of_quiet orderly.mode quiet proper
  have given := serials_numbered r.nextSerial cs
  refine ⟨mode.trans orderly.mode, inOrder, ?_, ?_, ?_⟩
  · rw [ordered]
    refine List.forall_mem_append.2 ⟨orderly.made, fun c member => ?_⟩
    obtain ⟨e, entry, rfl⟩ := List.mem_map.1 member
    exact (fit e.1 (List.fst_mem_of_mem_zipIdx entry)).marked e.1.owner _
  · rw [ordered, List.map_append, given]
    refine List.nodup_append.2 ⟨orderly.serials, List.nodup_range', ?_⟩
    rintro serial old other new rfl
    obtain ⟨c, member, rfl⟩ := List.mem_map.1 old
    have later := (List.mem_range'_1.1 new).1
    exact absurd (orderly.issued c member) (Nat.not_lt.2 later)
  · rw [ordered, issues]
    refine List.forall_mem_append.2 ⟨fun c member => ?_, fun c member => ?_⟩
    · exact Nat.lt_of_lt_of_le (orderly.issued c member) (Nat.le_add_right _ _)
    · have among := List.mem_map_of_mem (f := Command.serial) member
      rw [given] at among
      exact (List.mem_range'_1.1 among).2

theorem remove_orderly {next : Registry σ} {name : String} {removed : Command σ}
    (orderly : Orderly ci r) (found : r.remove name = some (removed, next)) : Orderly ci next := by
  unfold Registry.remove Siblings.remove at found
  simp only [Option.map_map, Option.map_eq_some_iff, Function.comp_apply, Prod.mk.injEq] at found
  obtain ⟨c, -, rfl, rfl⟩ := found
  have kept {d : Command σ} (member : d ∈ (r.root.erase c).ordered) : d ∈ r.root.ordered :=
    (List.mem_filter.1 member).1
  exact ⟨orderly.mode, erase_inOrder orderly.roots c, fun d member => orderly.made d (kept member),
    orderly.serials.sublist (List.filter_sublist.map _),
    fun d member => orderly.issued d (kept member)⟩

/-- One change keeps a registry in order. -/
theorem orderly_of_applied {change : Change σ} {next : Registry σ} (orderly : Orderly ci r)
    (applied : Applied change r next) : Orderly ci next := by
  cases applied with
  | refused => exact orderly
  | took brings taken =>
    exact registerMany_orderly orderly
      (fun c member => proper_of_made (made_of_brings (brings c member))) taken
  | removed found => exact remove_orderly orderly found
  | adjusted serial c standing => exact ⟨orderly.mode, orderly.roots, orderly.made, orderly.serials,
      orderly.issued⟩

theorem empty_orderly (ci : Bool) : Orderly ci (Registry.empty ci : Registry σ) where
  mode := rfl
  roots := nobody_inOrder ci
  made := by simp [Registry.empty]
  serials := by simp [Registry.empty]
  issued := by simp [Registry.empty]

/-- Whatever changes a registry went through, its names are in order. -/
theorem grown_orderly (ci : Bool) (changes : List (Change σ)) : Orderly ci (grown ci changes) := by
  suffices kept : ∀ r : Registry σ, Orderly ci r → Orderly ci (changes.foldl Change.apply r) from
    kept _ (empty_orderly ci)
  induction changes with
  | nil => exact fun r orderly => orderly
  | cons change rest ih => exact fun r orderly => ih _ (orderly_of_applied orderly (applied change r))

/-! ## Roots that were below another command -/

/-- No root was built below another command, so its qualified name is its name. -/
def Unmoved (r : Registry σ) : Prop := ∀ c ∈ r.root.ordered, c.qualified = c.name

/-- A change brings no command that was built below another one. -/
def Change.BringsRoots : Change σ → Prop
  | .registerAgain cs _ => ∀ c ∈ cs, c.qualified = c.name
  | _ => True

theorem qualified_of_brings {change : Change σ} (roots : change.BringsRoots)
    (brings : change.Brings c) : c.qualified = c.name := by
  cases change with
  | register d | registerGroup d => exact (wellMade_of_buildUnder d brings).path
  | registerMany owner ds =>
    obtain ⟨d, -, e, built, rfl⟩ := brings
    exact (wellMade_of_buildUnder d built).path
  | registerAgain cs made => exact roots c brings
  | remove name | adjust serial c standing => contradiction

theorem unmoved_of_applied {change : Change σ} {next : Registry σ} (orderly : Orderly ci r)
    (unmoved : Unmoved r) (roots : change.BringsRoots) (applied : Applied change r next) :
    Unmoved next := by
  cases applied with
  | refused => exact unmoved
  | took brings taken =>
    obtain ⟨-, ordered, rfl, -⟩ := registerMany_roots orderly taken
    intro c member
    rw [ordered] at member
    rcases List.mem_append.1 member with old | new
    · exact unmoved c old
    · obtain ⟨e, entry, rfl⟩ := List.mem_map.1 new
      have named := qualified_of_brings roots (brings e.1 (List.fst_mem_of_mem_zipIdx entry))
      exact named
  | removed found =>
    unfold Registry.remove Siblings.remove at found
    simp only [Option.map_map, Option.map_eq_some_iff, Function.comp_apply, Prod.mk.injEq] at found
    obtain ⟨c, -, rfl, rfl⟩ := found
    exact fun d member => unmoved d (List.mem_filter.1 member).1
  | adjusted serial c standing => exact unmoved

/-- As long as only roots come to a registry it has no others. -/
theorem grown_unmoved (ci : Bool) {changes : List (Change σ)}
    (roots : ∀ change ∈ changes, change.BringsRoots) : Unmoved (grown ci changes) := by
  suffices kept : ∀ r : Registry σ, Orderly ci r → Unmoved r →
      Unmoved (changes.foldl Change.apply r) from
    kept _ (empty_orderly ci) (by simp [Unmoved, Registry.empty])
  induction changes with
  | nil => exact fun r _ unmoved => unmoved
  | cons change rest ih =>
    obtain ⟨first, later⟩ := List.forall_mem_cons.1 roots
    exact fun r orderly unmoved => ih later _ (orderly_of_applied orderly (applied change r))
      (unmoved_of_applied orderly unmoved first (applied change r))

end ChatCommands.RegistryGrowth
