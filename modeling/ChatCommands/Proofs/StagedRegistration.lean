import ChatCommands.Proofs.RegistryGrowth

/-! Registering several commands at once. They are added to a copy of the roots one after another, so
the registry takes them all or stays as it is. It takes them exactly if they could be registered one
by one (`registerEach_eq_ok_iff`), and both come to the same registry: the new roots stand behind the
old ones, and their names behind the old names. What is taken depends on the names of the commands
only, not on who owns them (`takes_congr`). -/
namespace ChatCommands.StagedRegistration
open NamedSiblings RegistryGrowth

variable {σ : Type} {ci : Bool} {s t : Siblings (Command σ)} {c : Command σ}
  {cs told : List (Command σ)} {r next : Registry σ}

/-! ## Siblings -/

/-- No two of the siblings that there are and those that come share a name. -/
structure Room (ci : Bool) (s : Siblings (Command σ)) (cs : List (Command σ)) : Prop where
  unused : ∀ c ∈ cs, ∀ d ∈ s.ordered, Apart ci d c
  apart : cs.Pairwise (Apart ci)

/-- Each name of each command with the name of the command. -/
def entries (cs : List (Command σ)) : List (String × String) :=
  cs.flatMap fun c => c.names.map (·, c.name)

/-- Siblings with more of them behind. -/
def extended (s : Siblings (Command σ)) (cs : List (Command σ)) : Siblings (Command σ) :=
  ⟨s.ordered ++ cs, s.index ++ entries cs⟩

theorem conflict?_eq_none_iff (inOrder : InOrder ci s) :
    s.conflict? c ci = none ↔ ∀ d ∈ s.ordered, Apart ci d c := by
  constructor
  · exact apart_of_accepted inOrder
  · intro apart
    refine Option.map_eq_none_iff.2 (List.find?_eq_none.2 fun other others => ?_)
    have untaken : s.get? other ci = none := by
      refine (get?_eq_none_iff inOrder).2 fun d member ⟨name, own, same⟩ => ?_
      exact apart d member name own other others same
    simp [untaken]

theorem insert_of_apart (inOrder : InOrder ci s) (apart : ∀ d ∈ s.ordered, Apart ci d c) :
    s.insert c ci = .ok (extended s [c]) := by
  rw [Siblings.insert, (conflict?_eq_none_iff inOrder).2 apart]
  simp [extended, entries]

theorem extended_extended (s : Siblings (Command σ)) (cs ds : List (Command σ)) :
    extended (extended s cs) ds = extended s (cs ++ ds) := by
  simp [extended, entries]

theorem room_cons : Room ci s (c :: cs) ↔
    (∀ d ∈ s.ordered, Apart ci d c) ∧ (∀ e ∈ cs, Apart ci c e) ∧ Room ci s cs := by
  constructor
  · rintro ⟨unused, apart⟩
    obtain ⟨here, later⟩ := List.forall_mem_cons.1 unused
    obtain ⟨others, rest⟩ := List.pairwise_cons.1 apart
    exact ⟨here, others, later, rest⟩
  · rintro ⟨here, others, later, rest⟩
    exact ⟨List.forall_mem_cons.2 ⟨here, later⟩, List.pairwise_cons.2 ⟨others, rest⟩⟩

/-- There is room behind some siblings if there is without them, and they share no name either. -/
theorem room_extended {ds : List (Command σ)} :
    Room ci (extended s ds) cs ↔ (∀ c ∈ cs, ∀ d ∈ ds, Apart ci d c) ∧ Room ci s cs := by
  constructor
  · rintro ⟨unused, apart⟩
    exact ⟨fun c member d new => unused c member d (List.mem_append_right _ new),
      fun c member d old => unused c member d (List.mem_append_left _ old), apart⟩
  · rintro ⟨new, old, apart⟩
    exact ⟨fun c member => List.forall_mem_append.2 ⟨old c member, new c member⟩, apart⟩

/-- Commands are added all or none: all of them where there is room for all. -/
theorem insertAll_eq_ok_iff (inOrder : InOrder ci s) :
    s.insertAll ci cs = .ok t ↔ Room ci s cs ∧ t = extended s cs := by
  induction cs generalizing s with
  | nil =>
    have room : Room ci s [] := ⟨nofun, .nil⟩
    simp [Siblings.insertAll, extended, entries, room, eq_comm]
  | cons c rest ih =>
    rw [Siblings.insertAll, room_cons]
    by_cases apart : ∀ d ∈ s.ordered, Apart ci d c
    · have taken := insert_of_apart inOrder apart
      rw [taken]
      dsimp only
      rw [ih (insert_inOrder inOrder taken), extended_extended, room_extended,
        List.singleton_append, and_iff_right apart]
      simp only [List.forall_mem_singleton]
    · have refused : s.conflict? c ci ≠ none := (conflict?_eq_none_iff inOrder).not.2 apart
      obtain ⟨e, conflict⟩ := Option.ne_none_iff_exists'.1 refused
      rw [Siblings.insert, conflict]
      simp [apart]

theorem room_congr {ds : List (Command σ)} (same : cs.map Command.names = ds.map Command.names) :
    Room ci s cs ↔ Room ci s ds := by
  have seen (es : List (Command σ)) : Room ci s es ↔
      (∀ names ∈ es.map Command.names, ∀ d ∈ s.ordered, ∀ name ∈ d.names, ∀ other ∈ names,
        ¬ Same ci name other) ∧
      (es.map Command.names).Pairwise fun one another => ∀ name ∈ one, ∀ other ∈ another,
        ¬ Same ci name other := by
    rw [List.forall_mem_map, List.pairwise_map]
    exact ⟨fun ⟨unused, apart⟩ => ⟨unused, apart⟩, fun ⟨unused, apart⟩ => ⟨unused, apart⟩⟩
  rw [seen, same, ← seen]

/-! ## Registries -/

/-- Where case is ignored, none of the commands has siblings below it that differ by case only, and
there is room for all at the root. -/
structure Takes (r : Registry σ) (cs : List (Command σ)) : Prop where
  quiet : r.caseInsensitive = true → ∀ c ∈ cs, c.caseConflict? = none
  room : Room r.caseInsensitive r.root cs

/-- The commands as the registry numbers them. -/
def numberedFrom (serial : Nat) (cs : List (Command σ)) : List (Command σ) :=
  cs.zipIdx.map fun e => { e.1 with serial := serial + e.2 }

/-- The registry with more roots behind those it has. -/
def stockedWith (r : Registry σ) (cs : List (Command σ)) : Registry σ :=
  { r with
    root := extended r.root (numberedFrom r.nextSerial cs)
    nextSerial := r.nextSerial + cs.length }

theorem names_numbered (serial : Nat) (cs : List (Command σ)) :
    (numberedFrom serial cs).map Command.names = cs.map Command.names := by
  rw [numberedFrom, List.map_map]
  calc cs.zipIdx.map (fun e => e.1.names)
      = (cs.zipIdx.map (·.1)).map Command.names := by rw [List.map_map]; rfl
    _ = cs.map Command.names := by rw [List.zipIdx_map_fst]

theorem caseConflict?_eq_none_iff :
    r.caseConflict? cs = none ↔ (r.caseInsensitive = true → ∀ c ∈ cs, c.caseConflict? = none) := by
  unfold Registry.caseConflict?
  cases r.caseInsensitive with
  | true => simp
  | false => simp

theorem registerMany_eq (r : Registry σ) (cs : List (Command σ)) :
    r.registerMany cs =
      match r.caseConflict? cs with
      | some e => .error e
      | none =>
        (r.root.insertAll r.caseInsensitive (numberedFrom r.nextSerial cs)).map fun root =>
          (numberedFrom r.nextSerial cs,
            { r with root := root, nextSerial := r.nextSerial + cs.length }) := by
  unfold Registry.registerMany
  cases r.caseConflict? cs with
  | some e => rfl
  | none =>
    simp only [numberedFrom]
    split <;> simp_all [Except.map]

/-- A registry registers several commands if it takes them all, and puts them behind its roots. -/
theorem registerMany_eq_ok_iff (orderly : Orderly ci r) :
    r.registerMany cs = .ok (told, next) ↔
      Takes r cs ∧ told = numberedFrom r.nextSerial cs ∧ next = stockedWith r cs := by
  have inOrder : InOrder r.caseInsensitive r.root := orderly.mode ▸ orderly.roots
  have room : Room r.caseInsensitive r.root (numberedFrom r.nextSerial cs) ↔
      Room r.caseInsensitive r.root cs := room_congr (names_numbered r.nextSerial cs)
  rw [registerMany_eq]
  cases conflict : r.caseConflict? cs with
  | some e =>
    have loud : ¬ Takes r cs := fun takes => by
      have quiet := caseConflict?_eq_none_iff.2 takes.quiet
      rw [conflict] at quiet
      contradiction
    simp [loud]
  | none =>
    have quiet := caseConflict?_eq_none_iff.1 conflict
    dsimp only
    constructor
    · intro taken
      cases inserted : r.root.insertAll r.caseInsensitive (numberedFrom r.nextSerial cs) with
      | error e =>
        rw [inserted] at taken
        cases taken
      | ok root =>
        rw [inserted] at taken
        cases taken
        obtain ⟨fits, rfl⟩ := (insertAll_eq_ok_iff inOrder).1 inserted
        exact ⟨⟨quiet, room.1 fits⟩, rfl, rfl⟩
    · rintro ⟨takes, rfl, rfl⟩
      rw [(insertAll_eq_ok_iff inOrder).2 ⟨room.2 takes.room, rfl⟩]
      rfl

theorem registerMany_of_takes (orderly : Orderly ci r) (takes : Takes r cs) :
    r.registerMany cs = .ok (numberedFrom r.nextSerial cs, stockedWith r cs) :=
  (registerMany_eq_ok_iff orderly).2 ⟨takes, rfl, rfl⟩

theorem orderly_stockedWith (orderly : Orderly ci r) (proper : ∀ c ∈ cs, Proper false c)
    (takes : Takes r cs) : Orderly ci (stockedWith r cs) :=
  registerMany_orderly orderly proper (registerMany_of_takes orderly takes)

theorem registerMany_singleton (r : Registry σ) (c : Command σ) :
    r.registerMany [c] = (r.register c).map fun e => ([e.1], e.2) := by
  have one : numberedFrom r.nextSerial [c] = [{ c with serial := r.nextSerial }] := rfl
  rw [registerMany_eq, one]
  unfold Registry.register
  cases r.caseConflict? [c] with
  | some e => rfl
  | none =>
    simp only [Siblings.insertAll]
    cases r.root.insert { c with serial := r.nextSerial } r.caseInsensitive <;> rfl

end ChatCommands.StagedRegistration
