import ChatCommands.Proofs.Lifetimes

/-! Cooldown windows of commands that are gone. Unloading a module unregisters its roots and
everything below them, but forgets the windows of the roots alone: those are the names it removes,
and windows are kept under the full name of a command. A window of a subcommand stays until a
clean-up finds it idle, and a module that is loaded again goes on counting in it. -/
namespace ChatCommands.ForgottenWindows
open InvocationCourse CourseEffects RegistryGrowth QualifiedNames NamedSiblings Interleavings
open SlotDiaries OwnedRoots HousedModules ModuleFrame Lifetimes Dispatcher
open LegalCourses hiding plain

variable {σ : Type} {d : Dispatcher σ} {s t : Service σ} {ci : Bool} {c e root : Command σ}
  {registry : Registry σ} {m : Moment σ} {r : List Mark × Moment σ} {w now next : World σ}
  {past : List (World σ)} {key : WindowKey} {name : String} {loaded : LoadedModule σ}
  {gone : List (Command σ)}

/-! ## What is unregistered and forgotten -/

/-- A command, with the number of its root, that was registered and is not any more. -/
def Gone (s t : Service σ) (e : Nat × Command σ) : Prop :=
  e ∈ s.registry.walk ∧ e ∉ t.registry.walk

theorem mem_walk_iff_below {entry : Nat × Command σ} : entry ∈ registry.walk ↔
    ∃ root ∈ registry.root.ordered, root.serial = entry.1 ∧ entry.2 ∈ root.walk := by
  obtain ⟨serial, c⟩ := entry
  simp only [Registry.walk, List.mem_flatMap, List.mem_map, Prod.mk.injEq]
  constructor
  · rintro ⟨root, member, _, below, numbered, rfl⟩
    exact ⟨root, member, numbered, below⟩
  · rintro ⟨root, member, numbered, below⟩
    exact ⟨root, member, c, below, numbered, rfl⟩

theorem window_forgotten (unique : s.cooldowns.windows.Unique) (gone : List String)
    (key : WindowKey) :
    (forgetting s.cooldowns gone).windows.get? key =
      if key.command ∈ gone then none else s.cooldowns.windows.get? key := by
  rw [forgetting, Table.get?_filter unique]
  by_cases listed : key.command ∈ gone
  · rw [if_pos listed]
    cases s.cooldowns.windows.get? key <;> simp [Option.filter, listed]
  · rw [if_neg listed]
    cases s.cooldowns.windows.get? key <;> simp [Option.filter, listed]

section unloading

variable (unloads : Unloads ci s loaded t gone)
include unloads

/-- The roots that the names of the module lead to are unregistered, and everything below them. -/
theorem gone_iff (orderly : Orderly ci s.registry) {entry : Nat × Command σ} :
    Gone s t entry ↔ ∃ root ∈ gone, root.serial = entry.1 ∧ entry.2 ∈ root.walk := by
  have kept (root : Command σ) : root ∈ t.registry.root.ordered ↔
      root ∈ s.registry.root.ordered ∧ root ∉ gone := by
    rw [unloads.registry, mem_without]
    exact and_congr_right fun member => not_congr (name_mem_gone_iff unloads orderly member)
  have there {root : Command σ} (left : root ∈ gone) : root ∈ s.registry.root.ordered :=
    ((unloads.members root).1 left).1
  rw [Gone, mem_walk_iff_below, mem_walk_iff_below]
  constructor
  · rintro ⟨⟨root, member, numbered, below⟩, left⟩
    refine ⟨root, ?_, numbered, below⟩
    by_contra others
    exact left ⟨root, (kept root).2 ⟨member, others⟩, numbered, below⟩
  · rintro ⟨root, left, numbered, below⟩
    refine ⟨⟨root, there left, numbered, below⟩, ?_⟩
    -- A root that stays and has the same number would be the one that is gone.
    rintro ⟨other, stays, alsoNumbered, -⟩
    obtain ⟨known, others⟩ := (kept other).1 stays
    have same : other = root := List.inj_on_of_nodup_map orderly.serials known (there left)
      (alsoNumbered.trans numbered.symm)
    exact others (same ▸ left)

theorem window_of_gone_root (unique : s.cooldowns.windows.Unique) (left : root ∈ gone)
    (here : key.command = root.qualified) : t.cooldowns.windows.get? key = none := by
  rw [unloads.cooldowns, window_forgotten unique, here, if_pos (List.mem_map_of_mem left)]

/-- Whatever is not kept under the name of a root that is gone stays as it is. -/
theorem window_of_others (unique : s.cooldowns.windows.Unique)
    (others : ∀ root ∈ gone, key.command ≠ root.qualified) :
    t.cooldowns.windows.get? key = s.cooldowns.windows.get? key := by
  rw [unloads.cooldowns, window_forgotten unique, if_neg]
  intro listed
  obtain ⟨root, left, isName⟩ := List.mem_map.1 listed
  exact others root left isName.symm

/-- A command below a root keeps its windows, since the root has another qualified name. -/
theorem window_of_gone_below (orderly : Orderly ci s.registry)
    (unique : s.cooldowns.windows.Unique) (unmoved : Unmoved s.registry)
    {entry : Nat × Command σ} (left : Gone s t entry) (below : entry.2 ∉ gone)
    (here : key.command = entry.2.qualified) :
    t.cooldowns.windows.get? key = s.cooldowns.windows.get? key := by
  have known : Registered s.registry entry.2 :=
    (mem_walk_iff_registered orderly).1 (List.mem_map_of_mem left.1)
  refine window_of_others unloads unique fun root isGone named => below ?_
  have isRoot : Registered s.registry root := .root ((unloads.members root).1 isGone).1
  exact eq_of_qualified orderly unmoved isRoot known (named.symm.trans here) ▸ isGone

end unloading

/-- A root at home goes when its module does. -/
theorem gone_of_atHome (housed : Housed s) (found : s.module? name = some loaded)
    (unloads : Unloads ci s loaded t gone) (member : root ∈ s.registry.root.ordered)
    (own : root.owner = some name) (home : AtHome s root) : root ∈ gone := by
  obtain ⟨m, rfl, isModule, brought⟩ := moduleOf?_of_owner housed home own
  rw [Service.moduleOf?, own, Option.bind_some, found] at isModule
  obtain rfl := Option.some.inj isModule
  exact (unloads.members root).2 (leads_of_brought brought member)

/-! ## What comes back -/

/-- An invocation has not been counted against the cooldowns. -/
def uncounted : Point σ → Bool
  | .arrived | .left .onCommand _ | .waiting .onCommand _ => true
  | _ => false

theorem uncounted_of_step (step : Step d m r) (still : uncounted r.2.point = true) :
    uncounted m.point = true := by
  have onlyFirst {held : Invocation σ} {stage : Stage} {p : Progress σ × Service σ}
      (still : uncounted (staged held stage p).2.point = true) : stage = .onCommand := by
    obtain ⟨progress, s⟩ := p
    cases progress <;> cases stage <;> first | rfl | cases still
  cases step with
  | beforeCommand | beforeGlobal | body | afterCommand | afterGlobal | completion | commandHandler
  | moduleHandler | globalHandler => cases onlyFirst still
  | woken =>
    cases onlyFirst still
    rfl
  | passed => rfl
  | _ => cases still

theorem absent_of_cooled {cd after : Cooldowns} (unique : cd.windows.Unique)
    (cooled : Cooled registry cd after) (absent : cd.windows.get? key = none)
    (unused : ∀ c, Registered registry c → ¬ UsesWindow c key) :
    after.windows.get? key = none := by
  cases cooled with
  | thinned thinned =>
    obtain ⟨keep, rfl⟩ := thinned
    rw [Table.get?_filter unique, absent]
    rfl
  | @counted c known ctx now =>
    by_contra counts
    exact unused c known (usesWindow_of_changed (absent ▸ counts))

/-- A window appears only where a command is counted that uses it. -/
theorem absent_of_turn (stable : Stable ci w) (turn : Lifetimes.Turn d w next)
    (absent : w.service.cooldowns.windows.get? key = none)
    (unused : ∀ c, Registered w.service.registry c → ¬ UsesWindow c key)
    (counted : ∀ strand ∈ w.strands, uncounted strand.point = true →
      ¬ UsesWindow strand.inv.command key) :
    next.service.cooldowns.windows.get? key = none := by
  cases turn with
  | begins => exact absent
  | @steps s front back strand r step =>
    rcases cooldowns_of_step step with same | ⟨⟨outcome, leaves⟩, counts⟩
    · rw [same]
      exact absent
    · rw [counts]
      by_contra changed
      have member : strand ∈ front ++ strand :: back :=
        List.mem_append_right _ List.mem_cons_self
      have still : uncounted strand.point = true := by
        rw [show strand.point = .left .onCommand outcome from leaves]
        rfl
      exact counted strand member still (usesWindow_of_changed (absent ▸ changed))
  | @dropped s front back strand rests =>
    rw [cancel_cooldowns]
    exact absent
  | @changed s t strands change =>
    cases effect_of_change stable.orderly stable.housed change with
    | stocked _ _ _ _ cooldowns | removed _ _ cooldowns | loaded _ _ _ _ _ cooldowns =>
      rw [cooldowns]
      exact absent
    | unloaded _ unloads =>
      rw [unloads.cooldowns, window_forgotten stable.unique, absent, ite_self]
    | limited _ _ cooled => exact absent_of_cooled stable.unique cooled absent unused

/-- So none appears on the way where no command uses it that is known there. -/
theorem absent_of_lives (stable : Stable ci w) (lives : Lives d w past now)
    (absent : w.service.cooldowns.windows.get? key = none)
    (unused : ∀ c, Known uncounted w past c → ¬ UsesWindow c key) :
    now.service.cooldowns.windows.get? key = none := by
  induction lives with
  | start => exact absent
  | @turn past now next lives turn ih =>
    have before : ∀ c, Known uncounted w past c → ¬ UsesWindow c key :=
      fun c known => unused c (known_later known)
    refine absent_of_turn (stable_of_lives stable lives) turn (ih before) ?_ ?_
    · exact fun c registered => unused c (.inr ⟨now, List.mem_cons_self, registered⟩)
    · intro strand member still
      exact before _ (known_of_lives rfl uncounted_of_step stable lives strand member still)

/-- What unloading a module leaves, if `gone` are the roots that go with it. -/
structure Departed (s : Service σ) (gone : List (Command σ)) (t : Service σ) : Prop where
  /-- With the roots goes everything below them. -/
  commands : ∀ entry, Gone s t entry ↔ ∃ root ∈ gone, root.serial = entry.1 ∧ entry.2 ∈ root.walk
  roots : ∀ root ∈ gone, ∀ key, key.command = root.qualified → t.cooldowns.windows.get? key = none
  others : ∀ key, (∀ root ∈ gone, key.command ≠ root.qualified) →
    t.cooldowns.windows.get? key = s.cooldowns.windows.get? key
  /-- A command below a root can have the qualified name of another root only if that was moved. -/
  below : Unmoved s.registry → ∀ entry, Gone s t entry → entry.2 ∉ gone →
    ∀ key, key.command = entry.2.qualified →
      t.cooldowns.windows.get? key = s.cooldowns.windows.get? key

/-- Unloading a module unregisters the roots marked with it that its names lead to, which are all that
it brought, and everything below them. The windows of these roots are forgotten, those of the commands
below them stay, and so do all others. A window that is not there then stays away unless a command is
counted that uses it, so a module that is loaded again starts anew, but for its subcommands. -/
theorem roots_alone_start_anew (d : Dispatcher σ) (w : World σ) (t : Service σ) (name : String)
    (reached : Reached d w) (removed : w.service.removeModule name = .ok t) :
    (∃ loaded gone, w.service.module? name = some loaded ∧ Departed w.service gone t ∧
      (∀ root, root ∈ gone ↔ Leads d.settings.dispatch.caseInsensitive w.service.registry name
        loaded.commands root) ∧
      ∀ root ∈ w.service.registry.root.ordered, root.owner = some name → AtHome w.service root →
        root ∈ gone) ∧
    ∀ past now m u key, Lives d ⟨t, w.strands⟩ past now → now.service.addModule m = .ok u →
      t.cooldowns.windows.get? key = none →
      (∀ c, Known uncounted ⟨t, w.strands⟩ past c → ¬ UsesWindow c key) →
        u.cooldowns.windows.get? key = none := by
  have stable := stable_of_reached reached
  have orderly := stable.orderly
  have housed := stable.housed
  have unique := stable.unique
  obtain ⟨loaded, gone, found, unloads⟩ :=
    unloads_of_removeModule orderly (housed_words housed) removed
  refine ⟨⟨loaded, gone, found, ?_, fun root => ?_, fun root member own home => ?_⟩, ?_⟩
  · exact {
      commands := fun entry => gone_iff unloads orderly
      roots := fun root left key here => window_of_gone_root unloads unique left here
      others := fun key others => window_of_others unloads unique others
      below := fun unmoved entry left below key here =>
        window_of_gone_below unloads orderly unique unmoved left below here }
  · rw [unloads.members, (name_of_module? found).2]
  · exact gone_of_atHome housed found unloads member own home
  · intro past now m u key lives added absent unused
    have after : Stable _ ⟨t, w.strands⟩ :=
      stable_of_turn (d := d) stable (.changed (.unloaded removed))
    have there := stable_of_lives after lives
    obtain ⟨-, -, rfl⟩ := loads_of_addModule there.orderly added
    exact absent_of_lives after lives absent unused

/-! ## A group that is unloaded -/

/-- Once a minute for each user. -/
def run : CommandParts Unit where
  name := "run"
  cooldowns := [⟨1, 60000000000, .user⟩]
  body := some fun _ _ => .done

def running : Command Unit := { qualified := "job run", parts := run }

/-- A group with that command. -/
def job : Command Unit where
  qualified := "job"
  parts := { name := "job" }
  children := some ⟨[running], [("run", "run")]⟩

def jobs : Module Unit := { name := "jobs", commands := [job] }

def offered : Service Unit :=
  (Service.addModule (.start plain ()) jobs).toOption.getD (.start plain ())

/-- The group as it is registered. -/
def owned : Command Unit := { job with owner := some "jobs" }

def order : Event := { ask with content := "!job run" }

def ordered : Resolved Unit := ⟨running, [owned], "run", ["job"], ""⟩

/-- The service after one invocation. -/
def used : Service Unit := (plain.invoke (begunBy plain offered order "!" ordered) (met offered)).2

def unloaded : Service Unit := (used.removeModule "jobs").toOption.getD used

theorem used_reached : ∃ strand : Strand Unit, Reached plain ⟨used, [strand]⟩ ∧
    strand.point = .ended := by
  have loads : Change (.start plain ()) offered :=
    .loaded (m := jobs) (List.forall_mem_singleton.2
      (.built (d := .declare { name := "job" } true [.declare run false []]) rfl)) rfl
  have loaded : Reached plain ⟨offered, []⟩ := ⟨(), _, lives_of_turn (.changed loads)⟩
  have addressed : splitLead? plain.leads plain.settings.dispatch.stripAfterLead order.content =
      some ("!", "job run") := by
    simp only [leads, plain, List.mergeSort_singleton]
    decide
  have resolved : offered.registry.resolve "job run" = .ok ordered := rfl
  obtain ⟨strand, past, lives, -, rests, same⟩ :=
    lives_of_begun (stable_of_reached loaded) rfl addressed resolved
  rw [dispatch_of_resolved rfl addressed resolved] at lives same
  exact ⟨strand, reached_of_lives loaded lives, ended_of_handling rests same⟩

theorem running_gone : Gone used unloaded (0, running) := by
  constructor
  · exact mem_walk_iff_below.2 ⟨owned, List.mem_singleton.2 rfl, rfl,
      mem_walk_iff.2 (.inr ⟨running, List.mem_singleton.2 rfl, mem_walk_iff.2 (.inl rfl)⟩)⟩
  · rw [mem_walk_iff_below]
    rintro ⟨root, member, -⟩
    cases member

/-- The window of a subcommand outlives its module. -/
theorem window_of_gone_subcommand_stays :
    ¬ ∀ (w : World Unit) (name : String) (t : Service Unit), Reached plain w →
      w.service.removeModule name = .ok t → ∀ entry, Gone w.service t entry → ∀ key : WindowKey,
        key.command = entry.2.qualified → t.cooldowns.windows.get? key = none := by
  intro forgets
  obtain ⟨strand, reached, -⟩ := used_reached
  have absent := forgets _ "jobs" unloaded reached rfl (0, running) running_gone
    ⟨"job run", 0, .user 1⟩ rfl
  cases absent

/-- A user who has not asked for the subcommand before finds it anew after reloading. -/
theorem other_window_anew_after_reload :
    ∃ w u, Reached plain w ∧ w.service = used ∧ used.removeModule "jobs" = .ok unloaded ∧
      unloaded.addModule jobs = .ok u ∧ Gone used unloaded (0, running) ∧
      unloaded.cooldowns.windows.get? ⟨"job run", 0, .user 1⟩ =
        used.cooldowns.windows.get? ⟨"job run", 0, .user 1⟩ ∧
      u.cooldowns.windows.get? ⟨"job run", 0, .user 2⟩ = none := by
  obtain ⟨strand, reached, ended⟩ := used_reached
  obtain ⟨⟨loaded, gone, -, left, leads, -⟩, anew⟩ :=
    roots_alone_start_anew plain _ unloaded "jobs" reached rfl
  have below : running ∉ gone := by
    intro isGone
    have same := congrArg Command.qualified (List.mem_singleton.1 ((leads running).1 isGone).1)
    exact absurd same (by decide)
  have unmoved : Unmoved used.registry := List.forall_mem_singleton.2 rfl
  refine ⟨_, (unloaded.addModule jobs).toOption.getD unloaded, reached, rfl, rfl, rfl, running_gone,
    left.below unmoved (0, running) running_gone below ⟨"job run", 0, .user 1⟩ rfl, ?_⟩
  refine anew [] _ jobs _ _ .start rfl rfl ?_
  rintro c (⟨first, member, still, -⟩ | ⟨earlier, member, -⟩)
  · rw [List.mem_singleton.1 member, ended] at still
    cases still
  · cases member

end ChatCommands.ForgottenWindows
