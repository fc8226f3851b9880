import ChatCommands.Command.Siblings
import Mathlib.Data.List.Pairwise

/-! Siblings and their names. The index of a set of siblings is kept apart from
the siblings themselves, so what makes a look-up right is that both tell of the
same names and that no two siblings share one (`InOrder`). Adding a command,
where the set takes it, and removing one keep this. A look-up then finds exactly
the sibling that a word names. -/
namespace ChatCommands.NamedSiblings

variable {σ : Type} {ci : Bool} {s : Siblings (Command σ)} {c d : Command σ}

/-- Two names are one where `ci` says whether case is ignored. -/
def Same (ci : Bool) (a b : String) : Prop :=
  if ci then Text.lower a = Text.lower b else a = b

/-- A word names a command by its name or by an alias. -/
def Named (ci : Bool) (word : String) (c : Command σ) : Prop :=
  ∃ name ∈ c.names, Same ci name word

/-- No name of one command is a name of the other. -/
def Apart (ci : Bool) (c d : Command σ) : Prop :=
  ∀ name ∈ c.names, ∀ other ∈ d.names, ¬ Same ci name other

/-- The index tells each name of each sibling and nothing else, and no two siblings share a name. -/
structure InOrder (ci : Bool) (s : Siblings (Command σ)) : Prop where
  index_iff : ∀ name owner, (name, owner) ∈ s.index ↔
    ∃ c ∈ s.ordered, name ∈ c.names ∧ owner = c.name
  apart : s.ordered.Pairwise (Apart ci)

theorem Same.refl (ci : Bool) (a : String) : Same ci a a := by
  unfold Same
  split <;> rfl

theorem Same.symm {a b : String} (same : Same ci a b) : Same ci b a := by
  unfold Same at *
  split at same
  · rw [if_pos ‹_›, same]
  · rw [if_neg ‹_›, same]

theorem Same.trans {a b e : String} (first : Same ci a b) (second : Same ci b e) :
    Same ci a e := by
  unfold Same at *
  split at first
  · rw [if_pos ‹_›] at *
    exact first.trans second
  · rw [if_neg ‹_›] at *
    exact first.trans second

theorem Apart.symm (apart : Apart ci c d) : Apart ci d c :=
  fun name member other otherMember same => apart other otherMember name member same.symm

theorem name_mem_names (c : Command σ) : c.name ∈ c.names := List.mem_cons_self

/-- A name that two siblings share is a name of one sibling. -/
theorem eq_of_shared (inOrder : InOrder ci s) (first : c ∈ s.ordered) (second : d ∈ s.ordered)
    {name other : String} (own : name ∈ c.names) (others : other ∈ d.names)
    (same : Same ci name other) : c = d := by
  by_contra different
  have : Std.Symm (Apart (σ := σ) ci) := ⟨fun _ _ => Apart.symm⟩
  exact inOrder.apart.forall first second different name own other others same

theorem eq_of_named (inOrder : InOrder ci s) (first : c ∈ s.ordered) (second : d ∈ s.ordered)
    {word : String} (names : Named ci word c) (alsoNames : Named ci word d) : c = d := by
  obtain ⟨name, own, same⟩ := names
  obtain ⟨other, others, alsoSame⟩ := alsoNames
  exact eq_of_shared inOrder first second own others (same.trans alsoSame.symm)

/-! ## Looking up -/

/-- What only one element of a list fulfils is found by looking for it. -/
theorem find?_eq_some_iff_of_unique {α : Type} {l : List α} {p : α → Bool} {x : α}
    (unique : ∀ y ∈ l, ∀ z ∈ l, p y → p z → y = z) :
    l.find? p = some x ↔ x ∈ l ∧ p x := by
  constructor
  · intro found
    exact ⟨List.mem_of_find?_eq_some found, List.find?_some found⟩
  · rintro ⟨member, fits⟩
    cases first : l.find? p with
    | none => exact absurd fits (List.find?_eq_none.1 first x member)
    | some y =>
      have same := unique y (List.mem_of_find?_eq_some first) x member (List.find?_some first) fits
      rw [same]

theorem find?_owner_iff (inOrder : InOrder ci s) {owner : String} :
    s.ordered.find? (·.name == owner) = some c ↔ c ∈ s.ordered ∧ c.name = owner := by
  rw [find?_eq_some_iff_of_unique, beq_iff_eq]
  intro d first e second isOwner alsoOwner
  have nameIs : d.name = e.name := (beq_iff_eq.1 isOwner).trans (beq_iff_eq.1 alsoOwner).symm
  exact eq_of_shared inOrder first second (name_mem_names d) (name_mem_names e)
    (nameIs ▸ Same.refl ci _)

/-- A name is looked up exactly as its owner's. -/
theorem owner?_eq_some_iff (inOrder : InOrder ci s) {name : String} :
    s.owner? name = some c ↔ c ∈ s.ordered ∧ name ∈ c.names := by
  unfold Siblings.owner?
  constructor
  · intro found
    obtain ⟨owner, listed, first⟩ := Option.bind_eq_some_iff.1 found
    obtain ⟨member, isOwner⟩ := (find?_owner_iff inOrder).1 first
    obtain ⟨before, after, shape, -⟩ := List.lookup_eq_some_iff.1 listed
    have entry : (name, owner) ∈ s.index := by simp [shape]
    obtain ⟨d, there, own, rfl⟩ := (inOrder.index_iff name owner).1 entry
    have isSame : c = d := eq_of_shared inOrder member there (name_mem_names c) (name_mem_names d)
      (isOwner ▸ Same.refl ci _)
    exact ⟨member, isSame ▸ own⟩
  · rintro ⟨member, own⟩
    have entry := (inOrder.index_iff name c.name).2 ⟨c, member, own, rfl⟩
    cases listed : s.index.lookup name with
    | none =>
      have missing := List.lookup_eq_none_iff.1 listed _ entry
      simp at missing
    | some owner =>
      obtain ⟨before, after, shape, -⟩ := List.lookup_eq_some_iff.1 listed
      have listedEntry : (name, owner) ∈ s.index := by simp [shape]
      obtain ⟨d, there, alsoOwn, rfl⟩ := (inOrder.index_iff name owner).1 listedEntry
      have isSame : d = c := eq_of_shared inOrder there member alsoOwn own (Same.refl ci name)
      exact (find?_owner_iff inOrder).2 ⟨member, isSame ▸ rfl⟩

/-- The index finds what a scan of the siblings finds. -/
theorem owner?_eq_find? (inOrder : InOrder ci s) (name : String) :
    s.owner? name = s.ordered.find? (·.names.contains name) := by
  apply Option.ext
  intro c
  rw [owner?_eq_some_iff inOrder, find?_eq_some_iff_of_unique, List.contains_iff_mem]
  intro d first e second own alsoOwn
  exact eq_of_shared inOrder first second (List.contains_iff_mem.1 own)
    (List.contains_iff_mem.1 alsoOwn) (Same.refl ci name)

theorem named_iff_any (word : String) (c : Command σ) :
    Named true word c ↔ (c.names.any fun name => sameFolded name word) = true := by
  simp [Named, Same, sameFolded]

theorem scan_iff (inOrder : InOrder true s) {word : String} :
    (s.ordered.find? fun e => e.names.any fun n => sameFolded n word) = some c ↔
      c ∈ s.ordered ∧ Named true word c := by
  rw [find?_eq_some_iff_of_unique, named_iff_any]
  intro d first e second names alsoNames
  exact eq_of_named inOrder first second ((named_iff_any word d).2 names)
    ((named_iff_any word e).2 alsoNames)

/-- A look-up finds exactly the sibling that the word names. -/
theorem get?_eq_some_iff (inOrder : InOrder ci s) {word : String} :
    s.get? word ci = some c ↔ c ∈ s.ordered ∧ Named ci word c := by
  unfold Siblings.get?
  cases owns : s.owner? word with
  | some d =>
    obtain ⟨there, own⟩ := (owner?_eq_some_iff inOrder).1 owns
    have names : Named ci word d := ⟨word, own, Same.refl ci word⟩
    constructor
    · rintro ⟨⟩
      exact ⟨there, names⟩
    · rintro ⟨member, alsoNames⟩
      rw [eq_of_named inOrder member there alsoNames names]
  | none =>
    cases ci with
    | true => exact scan_iff inOrder
    | false =>
      simp only [Bool.false_eq_true, if_false, reduceCtorEq, false_iff, not_and]
      rintro member ⟨name, own, same⟩
      have isWord : name = word := by simpa [Same] using same
      have found := (owner?_eq_some_iff inOrder).2 ⟨member, isWord ▸ own⟩
      rw [owns] at found
      contradiction

theorem get?_eq_none_iff (inOrder : InOrder ci s) {word : String} :
    s.get? word ci = none ↔ ∀ c ∈ s.ordered, ¬ Named ci word c := by
  rw [Option.eq_none_iff_forall_ne_some]
  constructor
  · intro missing c member names
    exact missing c ((get?_eq_some_iff inOrder).2 ⟨member, names⟩)
  · intro unnamed c found
    obtain ⟨member, names⟩ := (get?_eq_some_iff inOrder).1 found
    exact unnamed c member names

/-! ## Adding and removing -/

theorem nobody_inOrder (ci : Bool) : InOrder ci ({} : Siblings (Command σ)) where
  index_iff := by simp
  apart := .nil

theorem insert_eq_ok (accepted : s.insert c ci = .ok t) :
    s.conflict? c ci = none ∧ t = ⟨s.ordered ++ [c], s.index ++ c.names.map (·, c.name)⟩ := by
  unfold Siblings.insert at accepted
  split at accepted
  · contradiction
  · cases accepted
    exact ⟨‹_›, rfl⟩

/-- A set that takes a command has no sibling with one of its names. -/
theorem apart_of_accepted (inOrder : InOrder ci s) (free : s.conflict? c ci = none) :
    ∀ d ∈ s.ordered, Apart ci d c := by
  intro d member name own other others same
  have untaken : s.get? other ci = none := by
    unfold Siblings.conflict? at free
    simpa using List.find?_eq_none.1 (Option.map_eq_none_iff.1 free) other others
  exact (get?_eq_none_iff inOrder).1 untaken d member ⟨name, own, same⟩

theorem insert_inOrder (inOrder : InOrder ci s) (accepted : s.insert c ci = .ok t) :
    InOrder ci t := by
  obtain ⟨free, rfl⟩ := insert_eq_ok accepted
  refine ⟨fun name owner => ?_, ?_⟩
  · simp only [List.mem_append, List.mem_map, Prod.mk.injEq, inOrder.index_iff]
    constructor
    · rintro (⟨d, member, own, rfl⟩ | ⟨other, others, rfl, rfl⟩)
      · exact ⟨d, .inl member, own, rfl⟩
      · exact ⟨c, .inr List.mem_cons_self, others, rfl⟩
    · rintro ⟨d, member | new, own, rfl⟩
      · exact .inl ⟨d, member, own, rfl⟩
      · cases List.mem_singleton.1 new
        exact .inr ⟨name, own, rfl, rfl⟩
  · rw [List.pairwise_append]
    refine ⟨inOrder.apart, List.pairwise_singleton _ _, ?_⟩
    intro d member e new
    cases List.mem_singleton.1 new
    exact apart_of_accepted inOrder free d member

theorem erase_inOrder (inOrder : InOrder ci s) (c : Command σ) : InOrder ci (s.erase c) := by
  refine ⟨fun name owner => ?_, inOrder.apart.filter _⟩
  simp only [Siblings.erase, List.mem_filter, bne_iff_ne, inOrder.index_iff]
  constructor
  · rintro ⟨⟨d, member, own, rfl⟩, kept⟩
    exact ⟨d, ⟨member, kept⟩, own, rfl⟩
  · rintro ⟨d, ⟨member, kept⟩, own, rfl⟩
    exact ⟨⟨d, member, own, rfl⟩, kept⟩

end ChatCommands.NamedSiblings
