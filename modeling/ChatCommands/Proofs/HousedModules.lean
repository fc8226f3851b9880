import ChatCommands.Proofs.OwnedRoots
import ChatCommands.Proofs.StagedRegistration

/-! Modules and the roots they brought. A root is marked with the name of its module and the module is
kept apart from it. Loading, unloading, registering and removing keep the names of modules apart
(`Housed`). A root that its module brought stays with it: the module is loaded as long as the root is
there (`AtHome`), since unloading takes all of them away (`leads_of_brought`). A command that was
removed keeps its mark, so one that is registered again on its own may be marked with a module that
is not loaded, or with another module of that name. -/
namespace ChatCommands.HousedModules
open NamedSiblings RegistryGrowth QualifiedNames StagedRegistration OwnedRoots

variable {σ : Type} {ci : Bool} {s t : Service σ} {c root : Command σ} {m : Module σ}
  {loaded : LoadedModule σ} {name : String} {cs : List (Command σ)}

/-- A root is one of the commands of a module. -/
def Brought (m : Module σ) (root : Command σ) : Prop :=
  ∃ c ∈ m.commands, root = { c with owner := some m.name, serial := root.serial }

/-- No two modules that are loaded have one name, and their commands can be registered. -/
structure Housed (s : Service σ) : Prop where
  apart : (s.modules.map (·.name)).Nodup
  loaded : ∀ loaded ∈ s.modules, ∃ m : Module σ, loaded = m.loaded ∧ ∀ c ∈ m.commands, Made c

/-- If a root is marked, the module that brought it is loaded. -/
def AtHome (s : Service σ) (root : Command σ) : Prop :=
  ∀ name, root.owner = some name →
    ∃ m : Module σ, m.loaded ∈ s.modules ∧ m.name = name ∧ Brought m root

theorem housed_words (housed : Housed s) : ∀ loaded ∈ s.modules, ∀ name ∈ loaded.commands,
    IsWord name := by
  intro loaded member name listed
  obtain ⟨m, rfl, made⟩ := housed.loaded loaded member
  obtain ⟨c, own, rfl⟩ := List.mem_map.1 listed
  obtain ⟨_, wellMade⟩ := proper_of_made (made c own)
  exact name_isWord wellMade

theorem module?_eq_some_iff (housed : Housed s) :
    s.module? name = some loaded ↔ loaded ∈ s.modules ∧ loaded.name = name := by
  rw [Service.module?, find?_eq_some_iff_of_unique, beq_iff_eq]
  intro one first other second isName alsoName
  have same : one.name = other.name := (beq_iff_eq.1 isName).trans (beq_iff_eq.1 alsoName).symm
  exact List.inj_on_of_nodup_map housed.apart first second same

theorem module?_eq_none_iff : s.module? name = none ↔ name ∉ s.modules.map (·.name) := by
  simp [Service.module?, List.find?_eq_none]

/-- The module of a marked root that is at home is found. -/
theorem moduleOf?_of_owner (housed : Housed s) (home : AtHome s root)
    (own : root.owner = some name) :
    ∃ m : Module σ, m.name = name ∧ s.moduleOf? root = some m.loaded ∧ Brought m root := by
  obtain ⟨m, kept, rfl, brought⟩ := home name own
  refine ⟨m, rfl, ?_, brought⟩
  rw [Service.moduleOf?, own, Option.bind_some]
  exact (module?_eq_some_iff housed).2 ⟨kept, rfl⟩

/-- The names that a module kept lead to the roots that it brought. -/
theorem leads_of_brought (brought : Brought m root) (member : root ∈ s.registry.root.ordered) :
    Leads ci s.registry m.name m.loaded.commands root := by
  obtain ⟨c, listed, shape⟩ := brought
  have own : root.owner = some m.name := by rw [shape]
  refine ⟨member, own, c.name, List.mem_map_of_mem listed, ?_⟩
  rw [shape]
  exact named_by_name ci c

theorem name_mem_gone_iff {gone : List (Command σ)} (unloads : Unloads ci s loaded t gone)
    (orderly : Orderly ci s.registry) (member : root ∈ s.registry.root.ordered) :
    root.name ∈ gone.map Command.name ↔ root ∈ gone := by
  constructor
  · intro listed
    obtain ⟨other, left, same⟩ := List.mem_map.1 listed
    obtain ⟨there, -⟩ := (unloads.members other).1 left
    have here : other = root := eq_of_shared orderly.roots there member (name_mem_names other)
      (name_mem_names root) (same ▸ Same.refl ci _)
    exact here ▸ left
  · exact List.mem_map_of_mem

/-! ## What keeps modules housed -/

theorem housed_of_modules (housed : Housed s) (modules : t.modules = s.modules) : Housed t :=
  ⟨modules ▸ housed.apart, modules ▸ housed.loaded⟩

/-- Loading a module. -/
theorem housed_of_loaded (housed : Housed s) (new : s.module? m.name = none)
    (made : ∀ c ∈ m.commands, Made c) (modules : t.modules = s.modules ++ [m.loaded]) :
    Housed t := by
  refine ⟨?_, fun loaded member => ?_⟩
  · rw [modules, List.map_append, List.map_singleton]
    refine List.nodup_append.2 ⟨housed.apart, List.nodup_singleton _, ?_⟩
    rintro name known other isNew rfl
    obtain rfl := List.mem_singleton.1 isNew
    exact module?_eq_none_iff.1 new known
  · rw [modules] at member
    rcases List.mem_append.1 member with old | isNew
    · exact housed.loaded loaded old
    · obtain rfl := List.mem_singleton.1 isNew
      exact ⟨m, rfl, made⟩

/-- Unloading a module. -/
theorem housed_of_unloaded {gone : List (Command σ)} (housed : Housed s)
    (unloads : Unloads ci s loaded t gone) : Housed t := by
  refine ⟨?_, fun other member => housed.loaded other ?_⟩
  · rw [unloads.modules]
    exact housed.apart.sublist (List.filter_sublist.map _)
  · rw [unloads.modules] at member
    exact (List.mem_filter.1 member).1

/-! ## What keeps roots at home -/

end ChatCommands.HousedModules
