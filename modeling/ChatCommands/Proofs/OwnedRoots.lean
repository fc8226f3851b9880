import ChatCommands.Dispatch.Service
import ChatCommands.Proofs.QualifiedNames

/-! Unregistering the roots of a module. A module keeps the names of the roots it brought, and each of
them is looked up again when the module is unloaded, since the name may have gone to another owner in
the meantime. What is unregistered are the roots of that owner that the names lead to
(`unregisterOwned_all`), with the windows kept under their qualified names, and nothing else
changes. -/
namespace ChatCommands.OwnedRoots
open NamedSiblings RegistryGrowth QualifiedNames

variable {σ : Type} {ci : Bool} {r : Registry σ} {s t : Service σ} {c : Command σ}
  {owner name : String}

/-- The registry without the roots that have certain names. -/
def without (r : Registry σ) (gone : List String) : Registry σ :=
  { r with
    root := ⟨r.root.ordered.filter fun c => !gone.contains c.name,
      r.root.index.filter fun e => !gone.contains e.2⟩ }

/-- The cooldowns without the windows kept under certain names. -/
def forgetting (cd : Cooldowns) (gone : List String) : Cooldowns :=
  ⟨cd.windows.filter fun e => !gone.contains e.1.command⟩

theorem not_contains_append (first second : List String) (name : String) :
    (!second.contains name && !first.contains name) = !(first ++ second).contains name := by
  rw [List.contains_append, Bool.not_or, Bool.and_comm]

theorem without_without (r : Registry σ) (first second : List String) :
    without (without r first) second = without r (first ++ second) := by
  simp only [without, List.filter_filter, not_contains_append]

theorem forgetting_forgetting (cd : Cooldowns) (first second : List String) :
    forgetting (forgetting cd first) second = forgetting cd (first ++ second) := by
  simp only [forgetting, List.filter_filter, not_contains_append]

theorem without_nil (r : Registry σ) : without r [] = r := by simp [without]

theorem forgetting_nil (cd : Cooldowns) : forgetting cd [] = cd := by simp [forgetting]

theorem mem_without {gone : List String} :
    c ∈ (without r gone).root.ordered ↔ c ∈ r.root.ordered ∧ c.name ∉ gone := by
  simp [without]

/-! ## One name -/

/-- A name of one word is looked up at the root. -/
theorem get?_of_isWord (r : Registry σ) (word : IsWord name) :
    r.get? name = r.root.get? name r.caseInsensitive := by
  unfold Registry.get? Registry.find?
  rw [words_of_isWord word]
  cases found : r.root.get? name r.caseInsensitive <;> simp [found, Registry.descend]

theorem bne_eq_not_contains (one other : String) : (other != one) = !([one].contains other) := by
  rw [List.contains_cons, List.contains_nil, Bool.or_false]
  rfl

theorem remove_of_get? {word : String} (found : r.root.get? word r.caseInsensitive = some c) :
    r.remove word = some (c, without r [c.name]) := by
  unfold Registry.remove Siblings.remove
  rw [found]
  simp only [Option.map_some, Siblings.erase, without, bne_eq_not_contains]

theorem without_of_remove {word : String} {next : Registry σ}
    (removed : r.remove word = some (c, next)) : next = without r [c.name] := by
  have found : r.root.get? word r.caseInsensitive = some c := by
    unfold Registry.remove Siblings.remove at removed
    cases found : r.root.get? word r.caseInsensitive with
    | none => simp [found] at removed
    | some d => simp_all
  rw [remove_of_get? found] at removed
  exact (Prod.mk.inj (Option.some.inj removed)).2.symm

/-- The service without certain roots and the windows kept under their qualified names. -/
def unregistered (s : Service σ) (gone : List (Command σ)) : Service σ :=
  { s with
    registry := without s.registry (gone.map Command.name)
    cooldowns := forgetting s.cooldowns (gone.map Command.qualified) }

theorem unregistered_unregistered (s : Service σ) (first second : List (Command σ)) :
    unregistered (unregistered s first) second = unregistered s (first ++ second) := by
  simp only [unregistered, without_without, forgetting_forgetting, List.map_append]

theorem unregisterOwned_of_own (orderly : Orderly ci s.registry) (word : IsWord name)
    (member : c ∈ s.registry.root.ordered) (names : Named ci name c) (own : c.owner = some owner) :
    s.unregisterOwned owner name = unregistered s [c] := by
  have found : s.registry.root.get? name s.registry.caseInsensitive = some c := by
    rw [orderly.mode]
    exact (get?_eq_some_iff orderly.roots).2 ⟨member, names⟩
  unfold Service.unregisterOwned
  rw [get?_of_isWord _ word, found]
  simp only [own, beq_self_eq_true, if_true, remove_of_get? found, Cooldowns.clearCommand,
    bne_eq_not_contains]
  rfl

theorem unregisterOwned_of_others (orderly : Orderly ci s.registry) (word : IsWord name)
    (others : ∀ c ∈ s.registry.root.ordered, Named ci name c → c.owner ≠ some owner) :
    s.unregisterOwned owner name = s := by
  unfold Service.unregisterOwned
  rw [get?_of_isWord _ word, orderly.mode]
  cases found : s.registry.root.get? name ci with
  | none => rfl
  | some c =>
    obtain ⟨member, names⟩ := (get?_eq_some_iff orderly.roots).1 found
    simp [others c member names]

/-! ## All names of a module -/

theorem orderly_without (orderly : Orderly ci r) (gone : List String) :
    Orderly ci (without r gone) := by
  refine ⟨orderly.mode, ⟨fun name owner => ?_, orderly.roots.apart.filter _⟩, fun c member => ?_,
    orderly.serials.sublist (List.filter_sublist.map _), fun c member => ?_⟩
  · simp only [without, List.mem_filter, orderly.roots.index_iff]
    constructor
    · rintro ⟨⟨d, member, own, rfl⟩, kept⟩
      exact ⟨d, ⟨member, kept⟩, own, rfl⟩
    · rintro ⟨d, ⟨member, kept⟩, own, rfl⟩
      exact ⟨⟨d, member, own, rfl⟩, kept⟩
  · exact orderly.made c (mem_without.1 member).1
  · exact orderly.issued c (mem_without.1 member).1

/-- The roots of an owner that names lead to. -/
def Leads (ci : Bool) (r : Registry σ) (owner : String) (names : List String) (c : Command σ) :
    Prop :=
  c ∈ r.root.ordered ∧ c.owner = some owner ∧ ∃ name ∈ names, Named ci name c

/-- Each name is looked up among the roots that those before it left, which loses none: a root that a
name leads to is led to by it as long as it is there. -/
theorem unregisterOwned_all (s : Service σ) (owner : String) {names : List String}
    (orderly : Orderly ci s.registry) (words : ∀ name ∈ names, IsWord name) : ∃ gone : List (Command σ),
    (∀ c, c ∈ gone ↔ Leads ci s.registry owner names c) ∧
      names.foldl (Service.unregisterOwned owner) s = unregistered s gone := by
  induction names generalizing s with
  | nil =>
    refine ⟨[], fun c => ?_, ?_⟩
    · simp [Leads]
    · simp [unregistered, without_nil, forgetting_nil]
  | cons name rest ih =>
    obtain ⟨word, restWords⟩ := List.forall_mem_cons.1 words
    rw [List.foldl_cons]
    by_cases leads : ∃ c ∈ s.registry.root.ordered, Named ci name c ∧ c.owner = some owner
    · obtain ⟨c, member, names, own⟩ := leads
      rw [unregisterOwned_of_own orderly word member names own]
      obtain ⟨gone, members, result⟩ :=
        ih (unregistered s [c]) (orderly_without orderly [c.name]) restWords
      refine ⟨c :: gone, fun e => ?_, ?_⟩
      · rw [List.mem_cons, members]
        constructor
        · rintro (rfl | ⟨left, also, other, listed, alsoNames⟩)
          · exact ⟨member, own, name, List.mem_cons_self, names⟩
          · exact ⟨(mem_without.1 left).1, also, other, List.mem_cons_of_mem _ listed, alsoNames⟩
        · rintro ⟨there, also, other, listed, alsoNames⟩
          by_cases same : e = c
          · exact .inl same
          · right
            have apart : e.name ∉ [c.name] := fun sameName => by
              have isName := List.mem_singleton.1 sameName
              exact same (eq_of_shared orderly.roots there member (name_mem_names e)
                (name_mem_names c) (isName ▸ Same.refl ci _))
            refine ⟨mem_without.2 ⟨there, apart⟩, also, other, ?_, alsoNames⟩
            rcases List.mem_cons.1 listed with rfl | later
            · exact absurd (eq_of_named orderly.roots there member alsoNames names) same
            · exact later
      · rw [result, unregistered_unregistered]
        rfl
    · have others : ∀ c ∈ s.registry.root.ordered, Named ci name c → c.owner ≠ some owner :=
        fun c member names own => leads ⟨c, member, names, own⟩
      rw [unregisterOwned_of_others orderly word others]
      obtain ⟨gone, members, result⟩ := ih s orderly restWords
      refine ⟨gone, fun e => ?_, result⟩
      rw [members]
      constructor
      · rintro ⟨there, own, other, listed, names⟩
        exact ⟨there, own, other, List.mem_cons_of_mem _ listed, names⟩
      · rintro ⟨there, own, other, listed, names⟩
        rcases List.mem_cons.1 listed with rfl | later
        · exact absurd own (others e there names)
        · exact ⟨there, own, other, later, names⟩

/-- What unloading a module does. -/
structure Unloads (ci : Bool) (s : Service σ) (loaded : LoadedModule σ) (t : Service σ)
    (gone : List (Command σ)) : Prop where
  members : ∀ c, c ∈ gone ↔ Leads ci s.registry loaded.name loaded.commands c
  registry : t.registry = without s.registry (gone.map Command.name)
  cooldowns : t.cooldowns = forgetting s.cooldowns (gone.map Command.qualified)
  modules : t.modules = s.modules.filter (·.name != loaded.name)
  slots : t.slots = s.slots

theorem name_of_module? {loaded : LoadedModule σ} (found : s.module? name = some loaded) :
    loaded ∈ s.modules ∧ loaded.name = name := by
  unfold Service.module? at found
  have named := List.find?_some found
  exact ⟨List.mem_of_find?_eq_some found, beq_iff_eq.1 named⟩

theorem unloads_of_removeModule (orderly : Orderly ci s.registry)
    (words : ∀ loaded ∈ s.modules, ∀ name ∈ loaded.commands, IsWord name)
    (removed : s.removeModule name = .ok t) :
    ∃ loaded gone, s.module? name = some loaded ∧ Unloads ci s loaded t gone := by
  unfold Service.removeModule at removed
  cases found : s.module? name with
  | none =>
    rw [found] at removed
    cases removed
  | some loaded =>
    obtain ⟨member, rfl⟩ := name_of_module? found
    rw [found] at removed
    obtain ⟨gone, members, result⟩ := unregisterOwned_all
      { s with modules := s.modules.filter (·.name != loaded.name) } loaded.name orderly
      (words loaded member)
    simp only [result] at removed
    cases removed
    exact ⟨loaded, gone, rfl, members, rfl, rfl, rfl, rfl⟩

end ChatCommands.OwnedRoots
