import ChatCommands.Proofs.HousedModules
import ChatCommands.Proofs.Interleavings
import ChatCommands.Proofs.InvisibleEviction
import ChatCommands.Proofs.ModuleFrame

/-! Dispatchers over time. Commands and modules come and go, windows and buckets are dropped and the
clock moves on while invocations are under way, in any order (`Turn`). A change of the dispatcher is
one of a few things to its registry, its modules and its limits (`effect_of_change`), and from that
follows what is kept by every turn (`stable_of_turn`) and what a turn can do about slots
(`onward_of_turn`). A program takes no other ways than these (`covered_of_reached`). -/
namespace ChatCommands.Lifetimes
open InvocationCourse CourseEffects SlotTraffic FairSlots SlotDeals SlotDiaries SlotHolders ScriptFrame
open UnbegunEvents RegistryGrowth QualifiedNames NamedSiblings Interleavings Dispatcher
open StagedRegistration OwnedRoots HousedModules ModuleFrame LegalCourses

variable {σ : Type} {d : Dispatcher σ} {s t : Service σ} {ci : Bool} {c : Command σ}
  {front back : List (Strand σ)} {strand : Strand σ} {r : List Mark × Moment σ}
  {w next later : World σ} {past : List (World σ)}

/-! ## Changes -/

/-- What may happen besides: to the state of the application, the journal, the counters, replies,
permits and the clock. -/
structure Aside (s t : Service σ) : Prop where
  commands : SameCommands s t
  modules : t.modules = s.modules
  cooldowns : t.cooldowns = s.cooldowns
  slots : t.slots = s.slots

/-- What is done to a dispatcher from outside. Commands come as they were built, or after they were
removed, with their old marks or from below another command. -/
inductive Change : Service σ → Service σ → Prop where
  | registered {s t : Service σ} {c told : Command σ} (made : Made c)
      (taken : s.register c = .ok (told, t)) : Change s t
  | registeredGroup {s t : Service σ} {c told : Command σ} (made : Made c)
      (taken : s.registerGroup c = .ok (told, t)) : Change s t
  | registeredMany {s : Service σ} {cs told : List (Command σ)} {registry : Registry σ}
      (made : ∀ c ∈ cs, Made c) (taken : s.registry.registerMany cs = .ok (told, registry)) :
      Change s { s with registry := registry }
  | removed {s : Service σ} {name : String} {gone : Command σ} {registry : Registry σ}
      (taken : s.registry.remove name = some (gone, registry)) :
      Change s { s with registry := registry }
  | loaded {s t : Service σ} {m : Module σ} (made : ∀ c ∈ m.commands, Made c)
      (taken : s.addModule m = .ok t) : Change s t
  | unloaded {s t : Service σ} {name : String} (taken : s.removeModule name = .ok t) : Change s t
  /-- A command is enabled, disabled or given a check. -/
  | adjusted {s : Service σ} (serial : Nat) (c : Command σ) (change : Standing → Standing) :
      Change s { s with registry := s.registry.adjust serial c change }
  /-- A command is counted without being run. -/
  | asked {s : Service σ} (span : Option Span) {c : Command σ} (known : Registered s.registry c)
      (ctx : Context) : Change s (s.acquire span c ctx).2
  | reset {s : Service σ} (c : Command σ) (ctx : Context) : Change s (s.resetCooldown c ctx)
  | cleared {s : Service σ} (command : String) :
      Change s { s with cooldowns := s.cooldowns.clearCommand command }
  | cleaned {s : Service σ} (retention : Decimal.Duration) : Change s (s.cleanup retention).2
  | maintained {s : Service σ} (retention : Decimal.Duration) : Change s (s.maintain retention)
  | aside {s t : Service σ} (others : Aside s t) : Change s t

/-- Some windows are dropped. -/
def Thinned (cd later : Cooldowns) : Prop :=
  ∃ keep : WindowKey × Window → Bool, later = ⟨cd.windows.filter keep⟩

/-- What can become of the cooldowns. -/
inductive Cooled (registry : Registry σ) (cd : Cooldowns) : Cooldowns → Prop where
  | thinned {later : Cooldowns} (thinned : Thinned cd later) : Cooled registry cd later
  | counted {c : Command σ} (known : Registered registry c) (ctx : Context) (now : Instant) :
      Cooled registry cd (cd.acquire c.qualified c.parts.cooldowns ctx now).1

/-- What a change comes to. -/
inductive Effect (ci : Bool) (s t : Service σ) : Prop where
  | stocked {cs : List (Command σ)} (made : ∀ c ∈ cs, Made c) (takes : Takes s.registry cs)
      (registry : t.registry = stockedWith s.registry cs) (modules : t.modules = s.modules)
      (cooldowns : t.cooldowns = s.cooldowns) (slots : t.slots = s.slots) : Effect ci s t
  | removed {gone : List String} (registry : t.registry = without s.registry gone)
      (modules : t.modules = s.modules) (cooldowns : t.cooldowns = s.cooldowns)
      (slots : t.slots = s.slots) : Effect ci s t
  | loaded {m : Module σ} (made : ∀ c ∈ m.commands, Made c) (new : s.module? m.name = none)
      (takes : Takes s.registry m.ownedCommands)
      (registry : t.registry = stockedWith s.registry m.ownedCommands)
      (modules : t.modules = s.modules ++ [m.loaded]) (cooldowns : t.cooldowns = s.cooldowns)
      (slots : t.slots = s.slots) : Effect ci s t
  | unloaded {loaded : LoadedModule σ} {gone : List (Command σ)}
      (found : s.module? loaded.name = some loaded) (unloads : Unloads ci s loaded t gone) :
      Effect ci s t
  | limited (commands : SameCommands s t) (modules : t.modules = s.modules)
      (cooldowns : Cooled s.registry s.cooldowns t.cooldowns)
      (slots : t.slots = s.slots ∨ t.slots = s.slots.cleanup.1) : Effect ci s t

theorem thinned_refl (cd : Cooldowns) : Thinned cd cd := ⟨fun _ => true, by simp⟩

theorem Thinned.trans {cd one two : Cooldowns} (first : Thinned cd one) (second : Thinned one two) :
    Thinned cd two := by
  obtain ⟨keep, rfl⟩ := first
  obtain ⟨also, rfl⟩ := second
  exact ⟨_, congrArg Cooldowns.mk (List.filter_filter ..)⟩

theorem thinned_of_resetFrom (command : String) (ctx : Context) (rules : List Cooldown)
    (cd : Cooldowns) (position : Nat) :
    Thinned cd (Cooldowns.resetFrom command ctx cd position rules) := by
  induction rules generalizing cd position with
  | nil => exact thinned_refl cd
  | cons rule rest ih =>
    have dropped : Thinned cd ⟨cd.windows.erase ⟨command, position, rule.bucket.key ctx⟩⟩ := ⟨_, rfl⟩
    exact dropped.trans (ih _ _)

/-- What a module's loading does. -/
theorem loads_of_addModule {m : Module σ} (orderly : Orderly ci s.registry)
    (added : s.addModule m = .ok t) :
    s.module? m.name = none ∧ Takes s.registry m.ownedCommands ∧
      t = { s with
        registry := stockedWith s.registry m.ownedCommands
        modules := s.modules ++ [m.loaded] }.note none
          ⟨.info, .dispatcher, "Module loaded",
            [("module", m.name), ("commands", toString m.commands.length)]⟩ := by
  unfold Service.addModule at added
  split at added
  · cases added
  · rename_i fresh
    split at added
    · cases added
    · rename_i told registry taken
      obtain ⟨takes, -, rfl⟩ := (registerMany_eq_ok_iff orderly).1 taken
      cases added
      exact ⟨Option.not_isSome_iff_eq_none.1 fresh, takes, rfl⟩

theorem effect_of_register {told : Command σ} (orderly : Orderly ci s.registry) (made : Made c)
    (taken : s.register c = .ok (told, t)) : Effect ci s t := by
  unfold Service.register at taken
  split at taken
  · cases taken
  · rename_i numbered registry registered
    obtain ⟨takes, -, rfl⟩ := (registerMany_eq_ok_iff orderly).1 (register_eq_ok registered)
    cases taken
    exact .stocked (List.forall_mem_singleton.2 made) takes rfl rfl rfl rfl

theorem effect_of_registerGroup {told : Command σ} (orderly : Orderly ci s.registry)
    (made : Made c) (taken : s.registerGroup c = .ok (told, t)) : Effect ci s t := by
  unfold Service.registerGroup Registry.registerGroup at taken
  by_cases group : c.isGroup = true
  · rw [if_pos group] at taken
    split at taken
    · cases taken
    · rename_i numbered registry registered
      obtain ⟨takes, -, rfl⟩ := (registerMany_eq_ok_iff orderly).1 (register_eq_ok registered)
      cases taken
      exact .stocked (List.forall_mem_singleton.2 made) takes rfl rfl rfl rfl
  · rw [if_neg group] at taken
    cases taken

theorem effect_of_cleanup (s : Service σ) (retention : Decimal.Duration) :
    Effect ci s (s.cleanup retention).2 := by
  have thinned : Thinned s.cooldowns (s.cooldowns.cleanup retention s.now).1 := ⟨_, rfl⟩
  unfold Service.cleanup
  dsimp only
  split <;> exact .limited ⟨rfl, rfl, rfl⟩ rfl (.thinned thinned) (.inr rfl)

theorem effect_of_maintain (s : Service σ) (retention : Decimal.Duration) :
    Effect ci s (s.maintain retention) := by
  have thinned : Thinned s.cooldowns (s.cooldowns.cleanup retention s.now).1 := ⟨_, rfl⟩
  unfold Service.maintain Service.cleanup
  dsimp only
  split <;> split <;> exact .limited ⟨rfl, rfl, rfl⟩ rfl (.thinned thinned) (.inr rfl)

theorem effect_of_acquire (span : Option Span) (known : Registered s.registry c) (ctx : Context) :
    Effect ci s (s.acquire span c ctx).2 := by
  rcases counts : s.acquire span c ctx with ⟨denial, t⟩
  have spares := spares_of_acquire counts
  refine .limited (.of_same spares.registry) spares.modules ?_ (.inl spares.slots)
  rw [cooldowns_of_acquire counts]
  exact .counted known ctx s.now

theorem effect_of_change (orderly : Orderly ci s.registry) (housed : Housed s)
    (change : Change s t) : Effect ci s t := by
  cases change with
  | registered made taken => exact effect_of_register orderly made taken
  | registeredGroup made taken => exact effect_of_registerGroup orderly made taken
  | registeredMany made taken =>
    obtain ⟨takes, -, rfl⟩ := (registerMany_eq_ok_iff orderly).1 taken
    exact .stocked made takes rfl rfl rfl rfl
  | removed taken => exact .removed (without_of_remove taken) rfl rfl rfl
  | loaded made taken =>
    obtain ⟨new, takes, rfl⟩ := loads_of_addModule orderly taken
    exact .loaded made new takes rfl rfl rfl rfl
  | unloaded taken =>
    obtain ⟨loaded, gone, found, unloads⟩ :=
      unloads_of_removeModule orderly (housed_words housed) taken
    obtain ⟨-, rfl⟩ := name_of_module? found
    exact .unloaded found unloads
  | adjusted => exact .limited ⟨rfl, rfl, rfl⟩ rfl (.thinned (thinned_refl _)) (.inl rfl)
  | asked span known ctx => exact effect_of_acquire span known ctx
  | reset c ctx =>
    exact .limited ⟨rfl, rfl, rfl⟩ rfl (.thinned (thinned_of_resetFrom _ _ _ _ _)) (.inl rfl)
  | cleared command => exact .limited ⟨rfl, rfl, rfl⟩ rfl (.thinned ⟨_, rfl⟩) (.inl rfl)
  | cleaned retention => exact effect_of_cleanup s retention
  | maintained retention => exact effect_of_maintain s retention
  | aside others =>
    refine .limited others.commands others.modules ?_ (.inl others.slots)
    rw [others.cooldowns]
    exact .thinned (thinned_refl _)

/-! ## Turns -/

/-- What can happen next to a dispatcher and the invocations that were begun there. -/
inductive Turn (d : Dispatcher σ) : World σ → World σ → Prop where
  | begins {s : Service σ} {strands : List (Strand σ)} {e : Event} {lead line : String}
      {target : Resolved σ} (heard : (d.settings.dispatch.ignoreBots && e.author.bot) = false)
      (addressed : splitLead? d.leads d.settings.dispatch.stripAfterLead e.content =
        some (lead, line))
      (resolved : s.registry.resolve line = .ok target) :
      Turn d ⟨s, strands⟩ ⟨met s, strands ++ [⟨begunBy d s e lead target, .arrived, []⟩]⟩
  | steps {s : Service σ} {front back : List (Strand σ)} {strand : Strand σ}
      {r : List Mark × Moment σ} (step : Step d ⟨strand.inv, strand.point, s⟩ r) :
      Turn d ⟨s, front ++ strand :: back⟩ ⟨r.2.service, front ++ strand.after r :: back⟩
  | dropped {s : Service σ} {front back : List (Strand σ)} {strand : Strand σ}
      (suspends : strand.point.Suspends) :
      Turn d ⟨s, front ++ strand :: back⟩
        ⟨(handling strand).cancel s, front ++ strand.dropped s.slots :: back⟩
  | changed {s t : Service σ} {strands : List (Strand σ)} (change : Change s t) :
      Turn d ⟨s, strands⟩ ⟨t, strands⟩

/-- Turns lead from one world to another, past the worlds between them, the first one included. -/
inductive Lives (d : Dispatcher σ) (w : World σ) : List (World σ) → World σ → Prop where
  | start : Lives d w [] w
  | turn {past : List (World σ)} {now next : World σ} (lives : Lives d w past now)
      (turn : Turn d now next) : Lives d w (now :: past) next

/-- The worlds that turns lead to from a dispatcher that was just set up. -/
def Reached (d : Dispatcher σ) (w : World σ) : Prop :=
  ∃ app past, Lives d ⟨.start d app, []⟩ past w

theorem Lives.append {more : List (World σ)} (first : Lives d w past next)
    (second : Lives d next more later) : Lives d w (more ++ past) later := by
  induction second with
  | start => exact first
  | turn _ turn ih => exact ih.turn turn

theorem reached_of_lives (reached : Reached d w) (lives : Lives d w past next) : Reached d next := by
  obtain ⟨app, before, first⟩ := reached
  exact ⟨app, past ++ before, first.append lives⟩

/-! ## Slots -/

/-- What an invocation asks for that has not come past the slots. -/
def MayAsk (strand : Strand σ) (key : SlotKey) (rule : Concurrency) : Prop :=
  outside strand.point = true ∧ Asks strand.inv key rule

/-- What one of some invocations may ask for. -/
def AnyAsks (strands : List (Strand σ)) (key : SlotKey) (rule : Concurrency) : Prop :=
  ∃ strand ∈ strands, MayAsk strand key rule

theorem onward_perm {asks : SlotKey → Concurrency → Prop} {u : Traffic} {moves : List Move}
    {slots : Slots} {stakes same : List Stake} (onward : Onward asks u moves slots stakes)
    (perm : stakes.Perm same) : Onward asks u moves slots same :=
  ⟨onward.reached, attends_perm onward.attends perm, onward.asked⟩

theorem onward_mono {asks also : SlotKey → Concurrency → Prop} {u : Traffic} {moves : List Move}
    {slots : Slots} {stakes : List Stake} (onward : Onward asks u moves slots stakes)
    (weaker : ∀ key rule, asks key rule → also key rule) : Onward also u moves slots stakes :=
  ⟨onward.reached, onward.attends,
    fun key rule member => weaker key rule (onward.asked key rule member)⟩

theorem onward_of_one {next : Strand σ} {before after : Slots}
    (one : ∀ u others, Sound u → Attends u (strand.stake :: others) → u.slots = before →
      ∃ more, Onward (MayAsk strand) u more after (next.stake :: others))
    {u : Traffic} (sound : Sound u)
    (attends : Attends u ((front ++ strand :: back).map Strand.stake)) (here : u.slots = before) :
    ∃ more, Onward (AnyAsks (front ++ strand :: back)) u more after
      ((front ++ next :: back).map Strand.stake) := by
  have first := attends_perm attends (List.perm_middle.map Strand.stake)
  obtain ⟨more, onward⟩ := one u _ sound first here
  have among : Onward (AnyAsks (front ++ strand :: back)) u more after
      ((next :: (front ++ back)).map Strand.stake) :=
    onward_mono onward fun key rule asks =>
      ⟨strand, List.mem_append_right _ List.mem_cons_self, asks⟩
  exact ⟨more, onward_perm among (List.perm_middle.map Strand.stake).symm⟩

theorem moves_of_quiet {inv : Invocation σ} {asks : SlotKey → Concurrency → Prop} {u : Traffic}
    {before kept : Stake} {others : List Stake} {marks : List Mark} {after : Slots}
    (attends : Attends u (before :: others)) (deals : Deals inv u.slots before marks after kept)
    (quiet : ∀ mark ∈ marks, asksSlot mark = false) :
    ∃ moves, Onward asks u moves after (kept :: others) := by
  cases deals with
  | keeps => exact ⟨[], rfl, attends, nofun⟩
  | @gaveBack admission =>
    obtain ⟨caller, moved⟩ := attends_released attends
    exact onward_of_move (.release caller admission) moved nofun
  | _ => cases quiet _ (List.mem_singleton.2 rfl)

/-- Whoever has come past the slots asks for none. -/
theorem onward_of_step (step : Step d ⟨strand.inv, strand.point, s⟩ r)
    (kept : Kept strand.inv strand.point) {u : Traffic} {others : List Stake} (sound : Sound u)
    (attends : Attends u (strand.stake :: others)) (here : u.slots = s.slots) :
    ∃ more, Onward (MayAsk strand) u more r.2.service.slots ((strand.after r).stake :: others) := by
  have deals := deals_of_step step kept.fresh
  rw [← here] at deals
  by_cases still : outside strand.point = true
  · obtain ⟨more, onward⟩ := moves_of_deals sound attends deals
    exact ⟨more, onward_mono onward fun key rule asks => ⟨still, asks⟩⟩
  -- Past the slots an invocation can only give back what it holds.
  · refine moves_of_quiet attends deals fun mark told => ?_
    exact Bool.eq_false_iff.2 fun asks => still (outside_of_asks step told asks)

/-- Whatever happens in a turn is moves of invocations in the books of their slots. -/
theorem onward_of_turn (turn : Turn d w next)
    (effect : ∀ t, Change w.service t → Effect ci w.service t)
    (accounted : ∀ strand ∈ w.strands, Accounted strand) {u : Traffic} (sound : Sound u)
    (attends : Attends u (w.strands.map Strand.stake)) (here : u.slots = w.service.slots) :
    ∃ more, Onward (AnyAsks w.strands) u more next.service.slots
      (next.strands.map Strand.stake) := by
  cases turn with
  | @begins s strands e lead line target heard addressed resolved =>
    have more : Attends u (.nothing :: strands.map Strand.stake) := ⟨attends.held, attends.stands⟩
    refine ⟨[], here, ?_, nofun⟩
    rw [List.map_append]
    exact attends_perm more (List.perm_append_singleton _ _).symm
  | @steps s front back strand r step =>
    have kept := (accounted strand (List.mem_append_right _ List.mem_cons_self)).kept
    exact onward_of_one (fun u others => onward_of_step step kept) sound attends here
  | @dropped s front back strand suspends =>
    refine onward_of_one (fun u others sound attends same => ?_) sound attends here
    rw [slots_of_cancel suspends s, ← same]
    exact moves_of_withdrawn sound attends
  | @changed s t strands change =>
    have still (same : t.slots = s.slots) : ∃ more, Onward (AnyAsks strands) u more t.slots
        (strands.map Strand.stake) := ⟨[], here.trans same.symm, attends, nofun⟩
    cases effect t change with
    | stocked _ _ _ _ _ slots | removed _ _ _ slots | loaded _ _ _ _ _ _ slots => exact still slots
    | unloaded _ unloads => exact still unloads.slots
    | limited _ _ _ slots =>
      rcases slots with same | cleaned
      · exact still same
      · refine ⟨[.cleanup], ?_, ⟨attends.held, attends.stands⟩, by simp⟩
        rw [cleaned, ← here]
        rfl

/-! ## What holds in every world -/

structure Stable (ci : Bool) (w : World σ) : Prop where
  orderly : Orderly ci w.service.registry
  housed : Housed w.service
  unique : w.service.cooldowns.windows.Unique
  runs : ∀ strand ∈ w.strands, strand.inv.command.parts.body.isSome
  accounted : ∀ strand ∈ w.strands, Accounted strand
  booked : ∃ u, Sound u ∧ u.slots = w.service.slots ∧ Attends u (w.strands.map Strand.stake)

theorem sound_of_moves {u : Traffic} (sound : Sound u) (moves : List Move) :
    Sound (moves.foldl Traffic.step u) := by
  induction moves generalizing u with
  | nil => exact sound
  | cons move rest ih => exact ih (step_sound sound move)

theorem stable_start (d : Dispatcher σ) (app : σ) :
    Stable d.settings.dispatch.caseInsensitive ⟨.start d app, []⟩ where
  orderly := empty_orderly d.settings.dispatch.caseInsensitive
  housed := ⟨List.nodup_nil, List.forall_mem_nil _⟩
  unique := List.nodup_nil
  runs := List.forall_mem_nil _
  accounted := List.forall_mem_nil _
  booked := ⟨{}, nothing_sound, rfl, fun _ => List.Perm.nil, fun _ => List.Perm.nil⟩

theorem unique_of_cooled {registry : Registry σ} {cd after : Cooldowns}
    (unique : cd.windows.Unique) (cooled : Cooled registry cd after) : after.windows.Unique := by
  cases cooled with
  | thinned thinned =>
    obtain ⟨keep, rfl⟩ := thinned
    exact Table.unique_filter unique keep
  | counted known ctx now => exact InvisibleEviction.unique_of_attempts _ _ _ _ unique 0

/-- A change keeps the registry in order, the modules housed and the windows apart. -/
theorem kept_of_effect (effect : Effect ci s t) (orderly : Orderly ci s.registry)
    (housed : Housed s) (unique : s.cooldowns.windows.Unique) :
    Orderly ci t.registry ∧ Housed t ∧ t.cooldowns.windows.Unique := by
  cases effect with
  | stocked made takes registry modules cooldowns =>
    refine ⟨?_, housed_of_modules housed modules, cooldowns ▸ unique⟩
    rw [registry]
    exact orderly_stockedWith orderly (fun c member => proper_of_made (made c member)) takes
  | removed registry modules cooldowns =>
    exact ⟨registry ▸ orderly_without orderly _, housed_of_modules housed modules,
      cooldowns ▸ unique⟩
  | @loaded m made new takes registry modules cooldowns =>
    refine ⟨?_, housed_of_loaded housed new made modules, cooldowns ▸ unique⟩
    rw [registry]
    refine orderly_stockedWith orderly (fun c member => ?_) takes
    obtain ⟨e, listed, rfl⟩ := List.mem_map.1 member
    exact (proper_of_made (made e listed)).marked _ _
  | unloaded found unloads =>
    refine ⟨unloads.registry ▸ orderly_without orderly _, housed_of_unloaded housed unloads, ?_⟩
    rw [unloads.cooldowns]
    exact Table.unique_filter unique _
  | limited commands modules cooldowns =>
    exact ⟨orderly_of_same commands orderly, housed_of_modules housed modules,
      unique_of_cooled unique cooldowns⟩

theorem kept_of_same (orderly : Orderly ci s.registry) (housed : Housed s)
    (commands : SameCommands s t) (modules : t.modules = s.modules) :
    Orderly ci t.registry ∧ Housed t :=
  ⟨orderly_of_same commands orderly, housed_of_modules housed modules⟩

theorem forall_of_one {P : Strand σ → Prop} {next : Strand σ}
    (all : ∀ x ∈ front ++ strand :: back, P x) (one : P strand → P next) :
    ∀ x ∈ front ++ next :: back, P x := by
  obtain ⟨before, here⟩ := List.forall_mem_append.1 all
  obtain ⟨old, after⟩ := List.forall_mem_cons.1 here
  exact List.forall_mem_append.2 ⟨before, List.forall_mem_cons.2 ⟨one old, after⟩⟩

/-- Every turn keeps a world stable. -/
theorem stable_of_turn (stable : Stable ci w) (turn : Turn d w next) : Stable ci next := by
  have effect (t : Service σ) (change : Change w.service t) : Effect ci w.service t :=
    effect_of_change stable.orderly stable.housed change
  have booked : ∃ u, Sound u ∧ u.slots = next.service.slots ∧
      Attends u (next.strands.map Strand.stake) := by
    obtain ⟨u, sound, here, attends⟩ := stable.booked
    obtain ⟨more, onward⟩ := onward_of_turn turn effect stable.accounted sound attends here
    exact ⟨_, sound_of_moves sound more, onward.reached, onward.attends⟩
  cases turn with
  | @begins s strands e lead line target heard addressed resolved =>
    have runs := LongestDescent.body_of_resolve stable.orderly resolved
    have accounted : Accounted ⟨begunBy d s e lead target, .arrived, []⟩ := accounted_begun rfl
    exact ⟨stable.orderly, ⟨stable.housed.apart, stable.housed.loaded⟩, stable.unique,
      List.forall_mem_append.2 ⟨stable.runs, List.forall_mem_singleton.2 runs⟩,
      List.forall_mem_append.2 ⟨stable.accounted, List.forall_mem_singleton.2 accounted⟩, booked⟩
  | @steps s front back strand r step =>
    obtain ⟨orderly, housed⟩ := kept_of_same stable.orderly stable.housed (commands_of_step step)
      (modules_of_step step)
    have unique : r.2.service.cooldowns.windows.Unique := by
      rcases cooldowns_of_step step with same | ⟨-, counts⟩
      · rw [same]
        exact stable.unique
      · rw [counts]
        exact InvisibleEviction.unique_of_attempts _ _ _ _ stable.unique 0
    have command := command_of_step step
    exact ⟨orderly, housed, unique, forall_of_one stable.runs fun runs => command ▸ runs,
      forall_of_one stable.accounted (accounted_of_step step), booked⟩
  | @dropped s front back strand suspends =>
    obtain ⟨orderly, housed⟩ := kept_of_same stable.orderly stable.housed
      (commands_of_cancel strand s) (cancel_modules (handling strand) s)
    have unique : ((handling strand).cancel s).cooldowns.windows.Unique := by
      rw [cancel_cooldowns]
      exact stable.unique
    exact ⟨orderly, housed, unique, forall_of_one stable.runs id,
      forall_of_one stable.accounted (accounted_dropped s.slots), booked⟩
  | @changed s t strands change =>
    obtain ⟨orderly, housed, unique⟩ :=
      kept_of_effect (effect t change) stable.orderly stable.housed stable.unique
    exact ⟨orderly, housed, unique, stable.runs, stable.accounted, booked⟩

theorem stable_of_lives (stable : Stable ci w) (lives : Lives d w past next) : Stable ci next := by
  induction lives with
  | start => exact stable
  | turn _ turn ih => exact stable_of_turn ih turn

theorem stable_of_reached (reached : Reached d w) :
    Stable d.settings.dispatch.caseInsensitive w := by
  obtain ⟨app, past, lives⟩ := reached
  exact stable_of_lives (stable_start d app) lives

/-! ## Commands that are known on the way -/

/-- A command that has invocations in an early part of their course, or that is registered in a world
that was passed. -/
def Known (early : Point σ → Bool) (w : World σ) (past : List (World σ)) (c : Command σ) : Prop :=
  (∃ strand ∈ w.strands, early strand.point = true ∧ strand.inv.command = c) ∨
    ∃ earlier ∈ past, Registered earlier.service.registry c

theorem known_later {early : Point σ → Bool} (known : Known early w past c) :
    Known early w (next :: past) c :=
  known.imp_right fun ⟨earlier, passed, registered⟩ =>
    ⟨earlier, List.mem_cons_of_mem _ passed, registered⟩

section early

-- No step leads back to the early part, and those that are torn down have left it.
variable {early : Point σ → Bool} (left : early .ended = false)
  (onward : ∀ {m : Moment σ} {r : List Mark × Moment σ}, Step d m r → early r.2.point = true →
    early m.point = true)
include left onward

theorem known_of_turn {now : World σ} (stable : Stable ci now) (turn : Turn d now next)
    (before : ∀ strand ∈ now.strands, early strand.point = true →
      Known early w past strand.inv.command) :
    ∀ strand ∈ next.strands, early strand.point = true →
      Known early w (now :: past) strand.inv.command := by
  have earlier : ∀ strand ∈ now.strands, early strand.point = true →
      Known early w (now :: past) strand.inv.command :=
    fun strand member still => known_later (before strand member still)
  cases turn with
  | begins heard addressed resolved =>
    refine List.forall_mem_append.2 ⟨earlier, List.forall_mem_singleton.2 fun _ => ?_⟩
    exact .inr ⟨_, List.mem_cons_self, registered_of_resolve stable.orderly resolved⟩
  | steps step =>
    refine forall_of_one earlier fun known still => ?_
    have command := command_of_step step
    exact command ▸ known (onward step still)
  | dropped suspends =>
    refine forall_of_one earlier fun _ still => ?_
    cases left.symm.trans still
  | changed change => exact earlier

theorem known_of_lives {now : World σ} (stable : Stable ci w) (lives : Lives d w past now) :
    ∀ strand ∈ now.strands, early strand.point = true →
      Known early w past strand.inv.command := by
  induction lives with
  | start => exact fun strand member still => .inl ⟨strand, member, still, rfl⟩
  | turn lives turn ih => exact known_of_turn left onward (stable_of_lives stable lives) turn ih

end early

/-! ## Turns of the program -/

theorem lives_of_turn (turn : Turn d w next) : Lives d w [w] next := Lives.start.turn turn

theorem aside_of_gates (gates : SameGates s t) (modules : t.modules = s.modules) : Aside s t :=
  ⟨.of_same gates.registry, modules, gates.cooldowns, gates.slots⟩

/-- The same commands are registered in all worlds that were passed. -/
def Steady (s : Service σ) (past : List (World σ)) : Prop :=
  ∀ earlier ∈ past, SameCommands s earlier.service

theorem steady_here (strands : List (Strand σ)) :
    Steady s [⟨s, strands⟩] :=
  List.forall_mem_singleton.2 ⟨rfl, rfl, rfl⟩

theorem steady_append (first : Steady s past) (more : Steady s past') :
    Steady s (past' ++ past) := List.forall_mem_append.2 ⟨more, first⟩

theorem steady_from {t : Service σ} (same : SameCommands s t) (steady : Steady t past) :
    Steady s past := by
  intro earlier member
  have onward := steady earlier member
  exact ⟨onward.mode.trans same.mode, onward.root.trans same.root, onward.issued.trans same.issued⟩

theorem lives_of_goes (front back : List (Strand σ)) (strand : Strand σ) {m last : Moment σ}
    {marks : List Mark} (goes : Goes d m marks last) (inv : strand.inv = m.inv)
    (point : strand.point = m.point) :
    ∃ later past, Lives d ⟨m.service, front ++ strand :: back⟩ past
        ⟨last.service, front ++ later :: back⟩ ∧ Steady m.service past ∧
      later.point.AtRest ∧ m.perform d = (handling later, last.service) := by
  induction goes generalizing strand with
  | @stop m rests =>
    have performs := perform_of_rests (d := d) (point ▸ rests : strand.point.AtRest) m.service
    rw [inv, point] at performs
    exact ⟨strand, [], .start, nofun, point ▸ rests, performs⟩
  | @step m last r more moves first _ ih =>
    have here : Step d ⟨strand.inv, strand.point, m.service⟩ r := by
      rw [inv, point]
      exact first
    obtain ⟨later, past, lives, steady, rests, performs⟩ := ih (strand.after r) rfl rfl
    refine ⟨later, _, (lives_of_turn (.steps here)).append lives, ?_, rests,
      (perform_of_step first moves).trans performs⟩
    exact steady_append (steady_here _) (steady_from (commands_of_step first) steady)

theorem ended_of_handling (rests : strand.point.AtRest) (finished : handling strand = .finished) :
    strand.point = .ended := by
  obtain ⟨inv, point, diary⟩ := strand
  cases point with
  | ended => rfl
  | waiting | queued => nomatch finished
  | _ => exact absurd rests id

/-- An event whose line resolves leads to a world with one more invocation. -/
theorem lives_of_begun (stable : Stable ci w) {e : Event} {lead line : String} {target : Resolved σ}
    (heard : (d.settings.dispatch.ignoreBots && e.author.bot) = false)
    (addressed : splitLead? d.leads d.settings.dispatch.stripAfterLead e.content =
      some (lead, line))
    (resolved : w.service.registry.resolve line = .ok target) :
    ∃ later past, Lives d w past ⟨(d.dispatch e w.service).2, w.strands ++ [later]⟩ ∧
      Steady w.service past ∧ later.point.AtRest ∧
      handling later = (d.dispatch e w.service).1 := by
  obtain ⟨s, strands⟩ := w
  obtain ⟨marks, last, goes⟩ := exists_goes d ⟨begunBy d s e lead target, .arrived, met s⟩
    (LongestDescent.body_of_resolve stable.orderly resolved)
  obtain ⟨later, past, lives, steady, rests, performs⟩ :=
    lives_of_goes strands [] ⟨begunBy d s e lead target, .arrived, []⟩ goes rfl rfl
  have answer : d.dispatch e s = (handling later, last.service) :=
    (dispatch_of_resolved heard addressed resolved).trans performs
  have onward : Steady s past := steady_from (t := met s) ⟨rfl, rfl, rfl⟩ steady
  rw [answer]
  exact ⟨later, _, (lives_of_turn (.begins heard addressed resolved)).append lives,
    steady_append (steady_here strands) onward, rests, rfl⟩

theorem lives_of_resume (stable : Stable ci w) (d : Dispatcher σ)
    (split : w.strands = front ++ strand :: back) (suspends : strand.point.Suspends) :
    ∃ later past, Lives d w past
        ⟨(d.resume (handling strand) w.service).2, front ++ later :: back⟩ ∧
      later.point.AtRest ∧ handling later = (d.resume (handling strand) w.service).1 := by
  have runs := stable.runs strand (split ▸ List.mem_append_right _ List.mem_cons_self)
  obtain ⟨s, strands⟩ := w
  cases split
  obtain ⟨r, first⟩ := exists_step d ⟨strand.inv, strand.point, s⟩ runs
  obtain ⟨marks, last, goes⟩ := exists_goes d r.2 (by rw [command_of_step first]; exact runs)
  obtain ⟨later, past, lives, -, still, performs⟩ :=
    lives_of_goes front back (strand.after r) goes rfl rfl
  have answer : d.resume (handling strand) s = (handling later, last.service) :=
    (resume_of_suspends suspends first).trans performs
  rw [answer]
  exact ⟨later, _, (lives_of_turn (.steps first)).append lives, still, rfl⟩

/-- Handling that is no invocation leaves the world as it is, but for what is `Aside`. -/
theorem lives_of_gates (gates : SameGates w.service t) (modules : t.modules = w.service.modules) :
    Lives d w [w] ⟨t, w.strands⟩ :=
  lives_of_turn (.changed (.aside (aside_of_gates gates modules)))

/-- The world in which a program has begun the handling of an event, if one began. -/
def Begins (d : Dispatcher σ) (w : World σ) (h : Handling σ) (t : Service σ) : Prop :=
  (AtMostReporting h ∧ ∃ past, Lives d w past ⟨t, w.strands⟩) ∨
    ∃ strand past, strand.point.AtRest ∧ handling strand = h ∧
      Lives d w past ⟨t, w.strands ++ [strand]⟩

theorem begins_of_dispatch (stable : Stable ci w) (d : Dispatcher σ) (e : Event) :
    Begins d w (d.dispatch e w.service).1 (d.dispatch e w.service).2 := by
  cases heard : d.settings.dispatch.ignoreBots && e.author.bot with
  | true =>
    have unheard : Unheard d e := .ignored heard
    obtain ⟨finished, gates⟩ := dispatch_of_unheard unheard w.service
    rw [finished]
    exact .inl ⟨.finished, _, lives_of_gates gates (modules_of_unheard unheard w.service)⟩
  | false =>
    cases addressed : splitLead? d.leads d.settings.dispatch.stripAfterLead e.content with
    | none =>
      have unheard : Unheard d e := .unaddressed heard addressed
      obtain ⟨finished, gates⟩ := dispatch_of_unheard unheard w.service
      rw [finished]
      exact .inl ⟨.finished, _, lives_of_gates gates (modules_of_unheard unheard w.service)⟩
    | some split =>
      obtain ⟨lead, line⟩ := split
      cases resolved : w.service.registry.resolve line with
      | error error =>
        rw [dispatch_of_unresolved (d := d) ⟨heard, addressed, resolved⟩]
        obtain ⟨reporting, gates⟩ :=
          refuseLine_gates d (openContext d w.service e lead) error (met w.service)
        have modules := refuseLine_modules d (openContext d w.service e lead) error (met w.service)
        have same : SameGates w.service _ := ⟨gates.registry, gates.cooldowns, gates.slots⟩
        exact .inl ⟨reporting, _, lives_of_gates same modules⟩
      | ok target =>
        obtain ⟨later, past, lives, -, rests, same⟩ :=
          lives_of_begun stable heard addressed resolved
        exact .inr ⟨later, past, rests, same, lives⟩

/-- What a program can do in a world: dispatch an event, go on with an invocation that is suspended or
tear it down, and go on with the error handler for a line that names no command or give it up. -/
structure Covered (d : Dispatcher σ) (w : World σ) : Prop where
  dispatched : ∀ e, Begins d w (d.dispatch e w.service).1 (d.dispatch e w.service).2
  resumed : ∀ front strand back, w.strands = front ++ strand :: back → strand.point.Suspends →
    ∃ later past, Lives d w past
        ⟨(d.resume (handling strand) w.service).2, front ++ later :: back⟩ ∧
      later.point.AtRest ∧ handling later = (d.resume (handling strand) w.service).1
  cancelled : ∀ front strand back, w.strands = front ++ strand :: back → strand.point.Suspends →
    Lives d w [w] ⟨(handling strand).cancel w.service,
      front ++ strand.dropped w.service.slots :: back⟩
  reported : ∀ h, AtMostReporting h → Lives d w [w] ⟨(d.resume h w.service).2, w.strands⟩
  unreported : ∀ h, AtMostReporting h → Lives d w [w] ⟨h.cancel w.service, w.strands⟩

/-- Turns lead wherever a program does. -/
theorem covered_of_reached (reached : Reached d w) : Covered d w where
  dispatched e := begins_of_dispatch (stable_of_reached reached) d e
  resumed front strand back split suspends :=
    lives_of_resume (stable_of_reached reached) d split suspends
  cancelled front strand back split suspends := by
    obtain ⟨s, strands⟩ := w
    cases split
    exact lives_of_turn (.dropped suspends)
  reported h reporting := by
    have gates := (resume_gates d reporting w.service).2
    exact lives_of_gates gates (reporting_modules d reporting w.service)
  unreported h reporting := by
    refine lives_of_gates ?_ (cancel_modules h w.service)
    cases reporting with
    | finished => exact ⟨rfl, rfl, rfl⟩
    | @unresolved ctx error pause => exact (drop_spares pause w.service).gates

end ChatCommands.Lifetimes
