import ChatCommands.Proofs.CourseEffects
import ChatCommands.Proofs.LeftHooks
import ChatCommands.Proofs.LongestDescent
import ChatCommands.Proofs.QualifiedNames
import ChatCommands.Proofs.SlotHolders
import ChatCommands.Proofs.UnbegunEvents

/-! Many invocations at once. A world is a service and all invocations that were begun there. They
take turns in any order: an event begins another one, one of them makes a step or is torn down where
it may be suspended, or something happens elsewhere that leaves the registered commands alone. In
every world that is reached so, the slots in flight are those that invocations have or are about to
receive (`slots_with_invocations`). After hooks that a torn-down invocation leaves are run without a
slot, beside the next invocation, and commands of one qualified name have their slots together. -/
namespace ChatCommands.Interleavings
open InvocationCourse CourseEffects LegalCourses SlotTraffic FairSlots SlotDeals SlotDiaries
open SlotHolders LeftHooks ScriptFrame UnbegunEvents RegistryGrowth QualifiedNames Dispatcher

variable {σ : Type} {d : Dispatcher σ} {s t : Service σ} {ci : Bool} {changes : List (Change σ)}
  {registry : Registry σ} {front back : List (Strand σ)} {strand : Strand σ}
  {r : List Mark × Moment σ}

/-- The handling of an event that an invocation is kept as where it may be suspended. -/
def handling (strand : Strand σ) : Handling σ :=
  match strand.point with
  | .arrived => .checking strand.inv
  | .binding => .binding strand.inv
  | .waiting stage pause => .staged strand.inv stage pause
  | .queued place => .queued strand.inv place
  | _ => .finished

/-- A service, with all invocations that were begun there, those that are over included. -/
structure World (σ : Type) where
  service : Service σ
  strands : List (Strand σ)

/-- The same commands are registered. -/
structure SameCommands (s t : Service σ) : Prop where
  mode : t.registry.caseInsensitive = s.registry.caseInsensitive
  root : t.registry.root = s.registry.root
  issued : t.registry.nextSerial = s.registry.nextSerial

/-- What may happen elsewhere: anything but registering commands and dealing with slots. Idle buckets
may be dropped. -/
structure Elsewhere (s t : Service σ) : Prop where
  commands : SameCommands s t
  slots : t.slots = s.slots ∨ t.slots = s.slots.cleanup.1

/-- What can happen next in a world. -/
inductive Turn (d : Dispatcher σ) : World σ → World σ → Prop where
  | begins {s : Service σ} {strands : List (Strand σ)} {e : Event} {lead line : String}
      {target : Resolved σ} (heard : (d.settings.dispatch.ignoreBots && e.author.bot) = false)
      (addressed : splitLead? d.leads d.settings.dispatch.stripAfterLead e.content =
        some (lead, line))
      (resolved : s.registry.resolve line = .ok target) :
      Turn d ⟨s, strands⟩ ⟨met s, strands ++ [⟨begunBy d s e lead target, .arrived, []⟩]⟩
  | steps {s : Service σ} {front back : List (Strand σ)} {strand : Strand σ}
      {r : List Mark × Moment σ} (step : Step d ⟨strand.inv, strand.point, s⟩ r) :
      Turn d ⟨s, front ++ strand :: back⟩ ⟨r.2.service, front ++ strand.after r :: back⟩
  | dropped {s : Service σ} {front back : List (Strand σ)} {strand : Strand σ}
      (suspends : strand.point.Suspends) :
      Turn d ⟨s, front ++ strand :: back⟩
        ⟨(handling strand).cancel s, front ++ strand.dropped s.slots :: back⟩
  | elsewhere {s t : Service σ} {strands : List (Strand σ)} (others : Elsewhere s t) :
      Turn d ⟨s, strands⟩ ⟨t, strands⟩

/-- The worlds that turns lead to from a service without invocations, whose commands are those that
some changes of a registry led to. -/
inductive Reached (d : Dispatcher σ) (ci : Bool) (changes : List (Change σ)) : World σ → Prop where
  | start {s : Service σ} (built : s.registry = grown ci changes) (unused : s.slots = {}) :
      Reached d ci changes ⟨s, []⟩
  | turn {w next : World σ} (reached : Reached d ci changes w) (turn : Turn d w next) :
      Reached d ci changes next

/-! ## Commands -/

theorem SameCommands.of_same (same : t.registry = s.registry) : SameCommands s t :=
  ⟨by rw [same], by rw [same], by rw [same]⟩

theorem orderly_of_same (same : SameCommands s t) (orderly : Orderly ci s.registry) :
    Orderly ci t.registry where
  mode := same.mode.trans orderly.mode
  roots := same.root ▸ orderly.roots
  made := same.root ▸ orderly.made
  serials := same.root ▸ orderly.serials
  issued := by
    rw [same.root, same.issued]
    exact orderly.issued

theorem registered_of_same (same : SameCommands s t) {c : Command σ}
    (known : Registered s.registry c) : Registered t.registry c := by
  induction known with
  | root member => exact .root (same.root ▸ member)
  | child _ member ih => exact .child ih member

theorem registered_of_resolve (orderly : Orderly ci registry) {line : String}
    {target : Resolved σ} (resolved : registry.resolve line = .ok target) :
    Registered registry target.command := by
  obtain ⟨follows, -⟩ := (LongestDescent.resolve_eq_ok_iff orderly line target).1 resolved
  refine follows.chain.induction (Registered registry) _ (fun _ _ member known => .child known member)
    (fun full => .root (follows.start _ ?_)) target.command (by simp)
  rw [List.head?_eq_some_head full]
  rfl

theorem commands_of_step {m : Moment σ} (step : Step d m r) :
    SameCommands m.service r.2.service := by
  cases touches_of_step step with
  | neither _ _ same | cooled _ _ same => exact .of_same same
  | bound _ same => exact ⟨by rw [same]; rfl, by rw [same]; rfl, by rw [same]; rfl⟩

theorem commands_of_cancel (strand : Strand σ) (s : Service σ) :
    SameCommands s ((handling strand).cancel s) := by
  obtain ⟨inv, point, diary⟩ := strand
  cases point with
  | waiting stage pause =>
    exact .of_same ((abandon_commands stage).1.trans (drop_spares pause s).registry)
  | queued place =>
    obtain ⟨_, shape⟩ := handOver_eq s (s.slots.abandon place)
    have same := congrArg Service.registry shape
    exact .of_same same
  | binding => exact .of_same releaseSlot_commands.1
  | _ => exact .of_same rfl

/-! ## Tearing down -/

theorem slots_of_abandon (inv : Invocation σ) (stage : Stage) (s : Service σ) :
    (s.abandon inv stage).slots =
      withdrawn s.slots (if surrounds stage then stakeOf inv.admission else .nothing) := by
  have deals : Deals inv s.slots (if surrounds stage then stakeOf inv.admission else .nothing) []
    (s.abandon inv stage).slots .nothing := deals_of_abandon stage
  generalize (if surrounds stage then stakeOf inv.admission else .nothing) = stake at deals
  generalize (s.abandon inv stage).slots = after at deals
  cases deals <;> rfl

theorem slots_of_releaseSlot (inv : Invocation σ) (s : Service σ) :
    (s.releaseSlot inv).slots = withdrawn s.slots (stakeOf inv.admission) := by
  unfold Service.releaseSlot
  cases inv.admission with
  | none => rfl
  | some admission => exact slots_handOver _

theorem slots_of_cancel (suspends : strand.point.Suspends) (s : Service σ) :
    ((handling strand).cancel s).slots = withdrawn s.slots strand.stake := by
  obtain ⟨inv, point, diary⟩ := strand
  cases point with
  | waiting stage pause =>
    have dropped := slots_of_abandon inv stage (pause.drop s)
    rw [(drop_spares pause s).slots] at dropped
    exact dropped
  | queued place => exact slots_handOver _
  | binding => exact slots_of_releaseSlot inv s
  | arrived | ended => rfl
  | _ => exact absurd suspends id

/-! ## What holds in every world -/

/-- The rule of a registered command for slots at a key. -/
def OwnRule (registry : Registry σ) (key : SlotKey) (rule : Concurrency) : Prop :=
  ∃ c, Registered registry c ∧ c.qualified = key.command ∧ c.parts.concurrency = some rule

/-- Moves that lead to the slots as they are, and to the invocations' stakes in them. -/
structure Booked (registry : Registry σ) (slots : Slots) (stakes : List Stake)
    (moves : List Move) : Prop where
  slots : (Traffic.run moves).slots = slots
  attends : Attends (Traffic.run moves) stakes
  asked : ∀ key rule, .enter key rule ∈ moves → OwnRule registry key rule

/-- An invocation of a registered command whose diary is in order. -/
structure Sane (registry : Registry σ) (strand : Strand σ) : Prop where
  known : Registered registry strand.inv.command
  runs : strand.inv.command.parts.body.isSome
  accounted : Accounted strand

structure Settled (ci : Bool) (w : World σ) : Prop where
  orderly : Orderly ci w.service.registry
  sane : ∀ strand ∈ w.strands, Sane w.service.registry strand
  booked : ∃ moves, Booked w.service.registry w.service.slots (w.strands.map Strand.stake) moves

theorem sane_of_same (same : SameCommands s t) (sane : Sane s.registry strand) :
    Sane t.registry strand :=
  ⟨registered_of_same same sane.known, sane.runs, sane.accounted⟩

theorem ownRule_of_same (same : SameCommands s t) {key : SlotKey} {rule : Concurrency}
    (own : OwnRule s.registry key rule) : OwnRule t.registry key rule := by
  obtain ⟨c, known, here, limited⟩ := own
  exact ⟨c, registered_of_same same known, here, limited⟩

theorem booked_front {slots : Slots} (booked : ∃ moves, Booked registry slots
    ((front ++ strand :: back).map Strand.stake) moves) :
    ∃ moves, Booked registry slots (strand.stake :: (front ++ back).map Strand.stake) moves := by
  obtain ⟨moves, here, attends, asked⟩ := booked
  exact ⟨moves, here, attends_perm attends (List.perm_middle.map Strand.stake), asked⟩

theorem booked_back {slots : Slots} (booked : ∃ moves, Booked registry slots
    (strand.stake :: (front ++ back).map Strand.stake) moves) :
    ∃ moves, Booked registry slots ((front ++ strand :: back).map Strand.stake) moves := by
  obtain ⟨moves, here, attends, asked⟩ := booked
  exact ⟨moves, here, attends_perm attends (List.perm_middle.map Strand.stake).symm, asked⟩

theorem booked_of_onward {slots : Slots} {before kept : Stake} {others : List Stake}
    (same : SameCommands s t) (known : Registered t.registry strand.inv.command)
    (booked : ∃ moves, Booked s.registry s.slots (before :: others) moves)
    (onward : ∀ u, Sound u → Attends u (before :: others) → u.slots = s.slots →
      ∃ more, Onward (Asks strand.inv) u more slots (kept :: others)) :
    ∃ moves, Booked t.registry slots (kept :: others) moves := by
  obtain ⟨moves, here, attends, asked⟩ := booked
  obtain ⟨more, reached, after, also⟩ := onward _ (run_sound moves) attends here
  have whole : Traffic.run (moves ++ more) = more.foldl Traffic.step (Traffic.run moves) :=
    List.foldl_append ..
  refine ⟨moves ++ more, by rw [whole]; exact reached, by rw [whole]; exact after, ?_⟩
  intro key rule member
  rcases List.mem_append.1 member with old | new
  · exact ownRule_of_same same (asked key rule old)
  · obtain ⟨limited, rfl⟩ := also key rule new
    exact ⟨strand.inv.command, known, rfl, limited⟩

/-- What one invocation does keeps a world settled, if it keeps its own diary in order and does
nothing about slots but moves. -/
theorem settled_of_one {next : Strand σ} (settled : Settled ci ⟨s, front ++ strand :: back⟩)
    (same : SameCommands s t) (command : next.inv.command = strand.inv.command)
    (after : Accounted strand → Accounted next)
    (onward : ∀ u others, Sound u → Attends u (strand.stake :: others) → u.slots = s.slots →
      ∃ more, Onward (Asks strand.inv) u more t.slots (next.stake :: others)) :
    Settled ci ⟨t, front ++ next :: back⟩ := by
  have sane : Sane t.registry strand := sane_of_same same
    (settled.sane strand (List.mem_append_right _ List.mem_cons_self))
  refine ⟨orderly_of_same same settled.orderly, fun other member => ?_, ?_⟩
  · rcases List.mem_append.1 member with before | later
    · exact sane_of_same same (settled.sane other (List.mem_append_left _ before))
    · rcases List.mem_cons.1 later with rfl | later
      · exact ⟨command ▸ sane.known, command ▸ sane.runs, after sane.accounted⟩
      · exact sane_of_same same
          (settled.sane other (List.mem_append_right _ (List.mem_cons_of_mem _ later)))
  · exact booked_back (booked_of_onward same sane.known (booked_front settled.booked)
      fun u sound attends here => onward u _ sound attends here)

theorem settled_of_step (settled : Settled ci ⟨s, front ++ strand :: back⟩)
    (step : Step d ⟨strand.inv, strand.point, s⟩ r) :
    Settled ci ⟨r.2.service, front ++ strand.after r :: back⟩ := by
  have sane := settled.sane strand (List.mem_append_right _ List.mem_cons_self)
  have deals := deals_of_step step sane.accounted.kept.fresh
  refine settled_of_one settled (commands_of_step step) (command_of_step step)
    (accounted_of_step step) fun u others sound attends here => ?_
  rw [← here] at deals
  exact moves_of_deals sound attends deals

theorem settled_of_dropped (settled : Settled ci ⟨s, front ++ strand :: back⟩)
    (suspends : strand.point.Suspends) :
    Settled ci ⟨(handling strand).cancel s, front ++ strand.dropped s.slots :: back⟩ := by
  refine settled_of_one settled (commands_of_cancel strand s) rfl (accounted_dropped s.slots)
    fun u others sound attends here => ?_
  rw [slots_of_cancel suspends s, ← here]
  exact moves_of_withdrawn sound attends

theorem settled_of_begun {e : Event} {lead line : String} {target : Resolved σ}
    {strands : List (Strand σ)} (settled : Settled ci ⟨s, strands⟩)
    (resolved : s.registry.resolve line = .ok target) :
    Settled ci ⟨met s, strands ++ [⟨begunBy d s e lead target, .arrived, []⟩]⟩ := by
  refine ⟨settled.orderly, fun other member => ?_, ?_⟩
  · rcases List.mem_append.1 member with old | new
    · exact settled.sane other old
    · cases List.mem_singleton.1 new
      exact ⟨registered_of_resolve settled.orderly resolved,
        LongestDescent.body_of_resolve settled.orderly resolved, accounted_begun rfl⟩
  · obtain ⟨moves, here, attends, asked⟩ := settled.booked
    refine ⟨moves, here, ?_, asked⟩
    rw [List.map_append]
    have more : Attends (Traffic.run moves) (.nothing :: strands.map Strand.stake) :=
      ⟨attends.held, attends.stands⟩
    exact attends_perm more (List.perm_append_singleton _ _).symm

theorem settled_of_elsewhere {strands : List (Strand σ)} (settled : Settled ci ⟨s, strands⟩)
    (others : Elsewhere s t) : Settled ci ⟨t, strands⟩ := by
  have same := others.commands
  refine ⟨orderly_of_same same settled.orderly,
    fun other member => sane_of_same same (settled.sane other member), ?_⟩
  obtain ⟨moves, here, attends, asked⟩ := settled.booked
  have own : ∀ key rule, .enter key rule ∈ moves → OwnRule t.registry key rule :=
    fun key rule member => ownRule_of_same same (asked key rule member)
  rcases others.slots with kept | cleaned
  · exact ⟨moves, here.trans kept.symm, attends, own⟩
  · refine ⟨moves ++ [.cleanup], ?_, ?_, fun key rule member => own key rule (by simpa using member)⟩
    · rw [run_snoc, Traffic.step, here]
      exact cleaned.symm
    · rw [run_snoc]
      exact ⟨attends.held, attends.stands⟩

/-- Every turn keeps a world settled. -/
theorem settled_of_turn {w next : World σ} (settled : Settled ci w) (turn : Turn d w next) :
    Settled ci next := by
  cases turn with
  | begins _ _ resolved => exact settled_of_begun settled resolved
  | steps step => exact settled_of_step settled step
  | dropped suspends => exact settled_of_dropped settled suspends
  | elsewhere others => exact settled_of_elsewhere settled others

theorem settled_of_reached {w : World σ} (reached : Reached d ci changes w) : Settled ci w := by
  induction reached with
  | @start s built unused =>
    have orderly : Orderly ci s.registry := built ▸ grown_orderly ci changes
    have nobody : Attends (Traffic.run []) [] := ⟨fun _ => .nil, fun _ => .nil⟩
    exact ⟨orderly, List.forall_mem_nil _, [], unused.symm, nobody, nofun⟩
  | turn _ turn ih => exact settled_of_turn ih turn

/-! ## Slots in flight -/

/-- An invocation between its slot and the end of its after hooks, in the bucket at a key. -/
def occupies (key : SlotKey) (strand : Strand σ) : Bool :=
  inside strand.point && decide ((strand.inv.command.parts.concurrency.map fun rule =>
    Slots.keyFor strand.inv.name rule strand.inv.ctx) = some key)

/-- No registered command with the qualified name of `c` has a rule of more slots. -/
def Leading (registry : Registry σ) (c : Command σ) (rule : Concurrency) : Prop :=
  ∀ e other, Registered registry e → e.qualified = c.qualified →
    e.parts.concurrency = some other → other.number ≤ rule.number

/-- The slots of a world are with its invocations. -/
structure Balanced (w : World σ) : Prop where
  /-- A slot is in flight for each invocation that has one, or has one on its way to it. -/
  counted : ∀ key, w.service.slots.inFlight key =
    w.strands.countP fun strand => holdsAt w.service.slots key strand.stake
  /-- Between their slot and the end of their after hooks there are never more invocations than the
  rule of their command says, unless another command has the same qualified name and a rule of more
  slots. An invocation that was torn down is over, and the after hooks it leaves behind run on their
  own, without a slot. -/
  bounded : ∀ c rule, Registered w.service.registry c → c.parts.concurrency = some rule →
    Unmoved w.service.registry ∨ Leading w.service.registry c rule →
      ∀ key, key.command = c.qualified → w.service.slots.inFlight key ≤ rule.number ∧
        w.strands.countP (occupies key) ≤ rule.number
  accounted : ∀ strand ∈ w.strands, Accounted strand
  /-- From the completion hook or the first error handler on, and after the end, a slot that was taken
  has been given back, once. -/
  returned : ∀ strand ∈ w.strands, concluded strand.point = true → dealings strand.diary = [] ∨
    ∃ admission, dealings strand.diary = [.took admission, .gaveBack admission]
  idle : (∀ strand ∈ w.strands, strand.point = .ended) → ∀ key, w.service.slots.inFlight key = 0

theorem leading_of_unmoved (orderly : Orderly ci registry) (unmoved : Unmoved registry)
    {c : Command σ} {rule : Concurrency} (known : Registered registry c)
    (limited : c.parts.concurrency = some rule) : Leading registry c rule := by
  intro e other registered named also
  rw [eq_of_qualified orderly unmoved registered known named, limited] at also
  rw [Option.some.inj also]

/-- An invocation that is past the slots has one at the bucket of its command's rule. -/
theorem holdsAt_of_inside {slots : Slots} {key : SlotKey} {rule : Concurrency}
    (accounted : Accounted strand) (within : inside strand.point = true)
    (limited : strand.inv.command.parts.concurrency = some rule)
    (here : Slots.keyFor strand.inv.name rule strand.inv.ctx = key) :
    holdsAt slots key strand.stake = true := by
  obtain ⟨admission, holds⟩ := accounted.kept.held within rule limited
  obtain ⟨_, same, place⟩ := accounted.kept.slot admission holds
  cases limited.symm.trans same
  have stake : strand.stake = .slot admission := by
    rw [Strand.stake, stakeAt_of_inside within, holds]
    rfl
  rw [stake, holdsAt]
  exact decide_eq_true (place.trans here)

theorem balanced_of_settled {w : World σ} (settled : Settled ci w) : Balanced w := by
  have counted : ∀ key, w.service.slots.inFlight key =
      w.strands.countP fun strand => holdsAt w.service.slots key strand.stake := by
    intro key
    obtain ⟨moves, here, attends, -⟩ := settled.booked
    have count := inFlight_of_attends (run_sound moves) attends key
    rw [here, List.countP_map] at count
    exact count
  have accounted : ∀ strand ∈ w.strands, Accounted strand :=
    fun strand member => (settled.sane strand member).accounted
  refine ⟨counted, fun c rule known limited fits key here => ?_, accounted,
    fun strand member done => returned_of_concluded (accounted strand member) done,
    fun ended key => ?_⟩
  · have leading : Leading w.service.registry c rule :=
      fits.elim (fun unmoved => leading_of_unmoved settled.orderly unmoved known limited) id
    have most : w.service.slots.inFlight key ≤ rule.number := by
      obtain ⟨moves, same, -, asked⟩ := settled.booked
      rw [← same]
      refine inFlight_le fun other member => ?_
      obtain ⟨owner, registered, named, also⟩ := asked key other member
      exact leading owner other registered (named.trans here) also
    refine ⟨most, Nat.le_trans ?_ most⟩
    rw [counted]
    refine List.countP_mono_left fun strand member occupied => ?_
    obtain ⟨within, place⟩ := Bool.and_eq_true_iff.1 occupied
    obtain ⟨own, limited, bucket⟩ := Option.map_eq_some_iff.1 (of_decide_eq_true place)
    exact holdsAt_of_inside (accounted strand member) within limited bucket
  · rw [counted, List.countP_eq_zero]
    intro strand member holds
    have done : concluded strand.point = true := by
      rw [ended strand member]
      rfl
    have nothing : strand.stake = .nothing := stakeAt_of_concluded done
    rw [nothing] at holds
    cases holds

/-! ## What diaries tell -/

/-- Diaries tell what is done to the slots. -/
structure Truthful (d : Dispatcher σ) (w : World σ) : Prop where
  steps : ∀ strand ∈ w.strands, ∀ r, Step d ⟨strand.inv, strand.point, w.service⟩ r →
    Deals strand.inv w.service.slots strand.stake r.1 r.2.service.slots (strand.after r).stake
  drops : ∀ strand ∈ w.strands, strand.point.Suspends →
    ((handling strand).cancel w.service).slots = withdrawn w.service.slots strand.stake
  /-- The slot is back when the completion hook begins. -/
  completes : ∀ strand ∈ w.strands, strand.point = .concluding (.ok ()) →
    ∀ r, Step d ⟨strand.inv, strand.point, w.service⟩ r →
      ∃ s, s.slots = withdrawn w.service.slots strand.stake ∧
        r = launch { strand.inv with admission := none } .completion
          (d.hooks.onCompletion strand.inv.ctx) s

theorem truthful_of_settled {w : World σ} (settled : Settled ci w) : Truthful d w where
  steps strand member r step := deals_of_step step (settled.sane strand member).accounted.kept.fresh
  drops strand member suspends := slots_of_cancel suspends w.service
  completes strand member here r step := by
    obtain ⟨inv, point, diary⟩ := strand
    cases here
    cases step with
    | completion =>
      exact ⟨(w.service.releaseSlot inv).note (some inv.span)
        ⟨.debug, .dispatcher, "Command completed", []⟩, slots_of_releaseSlot inv w.service, rfl⟩

/-! ## Turns of the program -/

theorem perform_of_rests (rests : strand.point.AtRest) (s : Service σ) :
    (Moment.mk strand.inv strand.point s).perform d = (handling strand, s) := by
  obtain ⟨inv, point, diary⟩ := strand
  cases point with
  | waiting | queued | ended => rfl
  | _ => exact absurd rests id

/-- An invocation that was suspended is taken up by a step. -/
theorem resume_of_suspends {s : Service σ} (suspends : strand.point.Suspends)
    (step : Step d ⟨strand.inv, strand.point, s⟩ r) :
    d.resume (handling strand) s = r.2.perform d := by
  obtain ⟨inv, point, diary⟩ := strand
  cases point with
  | arrived | binding => exact perform_of_step step id
  | waiting | queued | ended => exact resume_of_step (m := ⟨inv, _, s⟩) step trivial
  | _ => exact absurd suspends id

/-- An invocation at a later time. -/
structure Continues (strand later : Strand σ) : Prop where
  inv : later.inv = { strand.inv with admission := later.inv.admission }
  diary : strand.diary <+: later.diary

theorem Continues.trans {first second third : Strand σ} (before : Continues first second)
    (after : Continues second third) : Continues first third where
  inv := by rw [after.inv, before.inv]
  diary := before.diary.trans after.diary

theorem continues_after {m : Moment σ} (step : Step d m r) (inv : strand.inv = m.inv) :
    Continues strand (strand.after r) where
  inv := by
    rw [inv]
    exact inv_of_step step
  diary := List.prefix_append _ _

theorem reached_of_goes {m last : Moment σ} {marks : List Mark} (goes : Goes d m marks last)
    (reached : Reached d ci changes ⟨m.service, front ++ strand :: back⟩)
    (inv : strand.inv = m.inv) (point : strand.point = m.point) :
    ∃ later, Reached d ci changes ⟨last.service, front ++ later :: back⟩ ∧
      Continues strand later ∧ later.point.AtRest ∧ m.perform d = (handling later, last.service) := by
  induction goes generalizing strand with
  | @stop m rests =>
    refine ⟨strand, reached, ⟨rfl, List.prefix_rfl⟩, point ▸ rests, ?_⟩
    have performs := perform_of_rests (d := d) (point ▸ rests : strand.point.AtRest) m.service
    rwa [inv, point] at performs
  | @step m last r more moves first _ ih =>
    have here : Step d ⟨strand.inv, strand.point, m.service⟩ r := by
      rw [inv, point]
      exact first
    obtain ⟨later, whole, continues, rests, performs⟩ := ih (reached.turn (.steps here)) rfl rfl
    exact ⟨later, whole, (continues_after first inv).trans continues, rests,
      (perform_of_step first moves).trans performs⟩

/-- What the program does with an event, and with what waits, leads from a reached world to a reached
one. -/
structure Covered (d : Dispatcher σ) (ci : Bool) (changes : List (Change σ)) (w : World σ) :
    Prop where
  dispatched : ∀ e, ∃ more,
    Reached d ci changes ⟨(d.dispatch e w.service).2, w.strands ++ more⟩ ∧
      ((more = [] ∧ AtMostReporting (d.dispatch e w.service).1) ∨
        ∃ strand, more = [strand] ∧ strand.point.AtRest ∧
          handling strand = (d.dispatch e w.service).1)
  resumed : ∀ front strand back, w.strands = front ++ strand :: back → strand.point.Suspends →
    ∃ later, Reached d ci changes
        ⟨(d.resume (handling strand) w.service).2, front ++ later :: back⟩ ∧
      Continues strand later ∧ later.point.AtRest ∧
      handling later = (d.resume (handling strand) w.service).1
  cancelled : ∀ front strand back, w.strands = front ++ strand :: back → strand.point.Suspends →
    Reached d ci changes ⟨(handling strand).cancel w.service,
      front ++ strand.dropped w.service.slots :: back⟩
  reported : ∀ reporting, AtMostReporting reporting →
    Reached d ci changes ⟨(d.resume reporting w.service).2, w.strands⟩ ∧
      Reached d ci changes ⟨reporting.cancel w.service, w.strands⟩

theorem elsewhere_of_gates (gates : SameGates s t) : Elsewhere s t :=
  ⟨.of_same gates.registry, .inl gates.slots⟩

/-- An event whose line resolves begins one more invocation. -/
theorem reached_of_begun {w : World σ} (reached : Reached d ci changes w) {e : Event}
    {lead line : String} {target : Resolved σ}
    (heard : (d.settings.dispatch.ignoreBots && e.author.bot) = false)
    (addressed : splitLead? d.leads d.settings.dispatch.stripAfterLead e.content =
      some (lead, line))
    (resolved : w.service.registry.resolve line = .ok target) :
    ∃ later, Reached d ci changes ⟨(d.dispatch e w.service).2, w.strands ++ [later]⟩ ∧
      later.point.AtRest ∧ handling later = (d.dispatch e w.service).1 := by
  have orderly := (settled_of_reached reached).orderly
  obtain ⟨s, strands⟩ := w
  obtain ⟨marks, last, goes⟩ := exists_goes d ⟨begunBy d s e lead target, .arrived, met s⟩
    (LongestDescent.body_of_resolve orderly resolved)
  have begun := reached.turn (.begins heard addressed resolved)
  obtain ⟨later, whole, -, rests, performs⟩ := reached_of_goes goes begun rfl rfl
  have answer : d.dispatch e s = (handling later, last.service) :=
    (dispatch_of_resolved heard addressed resolved).trans performs
  rw [answer]
  exact ⟨later, whole, rests, rfl⟩

theorem reached_of_dispatch {w : World σ} (reached : Reached d ci changes w) (e : Event) :
    ∃ more, Reached d ci changes ⟨(d.dispatch e w.service).2, w.strands ++ more⟩ ∧
      ((more = [] ∧ AtMostReporting (d.dispatch e w.service).1) ∨
        ∃ strand, more = [strand] ∧ strand.point.AtRest ∧
          handling strand = (d.dispatch e w.service).1) := by
  have silent (reporting : AtMostReporting (d.dispatch e w.service).1)
      (gates : SameGates w.service (d.dispatch e w.service).2) : ∃ more,
      Reached d ci changes ⟨(d.dispatch e w.service).2, w.strands ++ more⟩ ∧
        ((more = [] ∧ AtMostReporting (d.dispatch e w.service).1) ∨
          ∃ strand, more = [strand] ∧ strand.point.AtRest ∧
            handling strand = (d.dispatch e w.service).1) := by
    refine ⟨[], ?_, .inl ⟨rfl, reporting⟩⟩
    rw [List.append_nil]
    exact reached.turn (.elsewhere (elsewhere_of_gates gates))
  cases heard : d.settings.dispatch.ignoreBots && e.author.bot with
  | true =>
    obtain ⟨finished, gates⟩ := dispatch_of_unheard (.ignored heard) w.service
    exact silent (finished ▸ .finished) gates
  | false =>
    cases addressed : splitLead? d.leads d.settings.dispatch.stripAfterLead e.content with
    | none =>
      obtain ⟨finished, gates⟩ := dispatch_of_unheard (.unaddressed heard addressed) w.service
      exact silent (finished ▸ .finished) gates
    | some split =>
      obtain ⟨lead, line⟩ := split
      cases resolved : w.service.registry.resolve line with
      | error error =>
        have answer := dispatch_of_unresolved (d := d) (s := w.service) ⟨heard, addressed, resolved⟩
        obtain ⟨reporting, gates⟩ :=
          refuseLine_gates d (openContext d w.service e lead) error (met w.service)
        rw [← answer] at reporting gates
        exact silent reporting ⟨gates.registry, gates.cooldowns, gates.slots⟩
      | ok target =>
        obtain ⟨later, whole, rests, same⟩ := reached_of_begun reached heard addressed resolved
        exact ⟨[later], whole, .inr ⟨later, rfl, rests, same⟩⟩

theorem reached_of_resume {w : World σ} (reached : Reached d ci changes w)
    (split : w.strands = front ++ strand :: back) (suspends : strand.point.Suspends) :
    ∃ later, Reached d ci changes
        ⟨(d.resume (handling strand) w.service).2, front ++ later :: back⟩ ∧
      Continues strand later ∧ later.point.AtRest ∧
      handling later = (d.resume (handling strand) w.service).1 := by
  have sane := (settled_of_reached reached).sane strand
    (split ▸ List.mem_append_right _ List.mem_cons_self)
  obtain ⟨s, strands⟩ := w
  cases split
  obtain ⟨r, first⟩ := exists_step d ⟨strand.inv, strand.point, s⟩ sane.runs
  obtain ⟨marks, last, goes⟩ := exists_goes d r.2 (by rw [command_of_step first]; exact sane.runs)
  have stepped := reached.turn (.steps first)
  obtain ⟨later, whole, continues, still, performs⟩ := reached_of_goes goes stepped rfl rfl
  have answer : d.resume (handling strand) s = (handling later, last.service) :=
    (resume_of_suspends suspends first).trans performs
  rw [answer]
  exact ⟨later, whole, (continues_after first rfl).trans continues, still, rfl⟩

theorem covered_of_reached {w : World σ} (reached : Reached d ci changes w) :
    Covered d ci changes w where
  dispatched := reached_of_dispatch reached
  resumed front strand back split suspends := reached_of_resume reached split suspends
  cancelled front strand back split suspends := by
    obtain ⟨s, strands⟩ := w
    cases split
    exact reached.turn (.dropped suspends)
  reported reporting waits := by
    refine ⟨reached.turn (.elsewhere (elsewhere_of_gates (resume_gates d waits w.service).2)), ?_⟩
    refine reached.turn (.elsewhere (elsewhere_of_gates ?_))
    cases waits with
    | finished => exact ⟨rfl, rfl, rfl⟩
    | @unresolved ctx error pause => exact (drop_spares pause w.service).gates

/-- In every world that invocations come to, however their steps and ends are interleaved, the slots
in flight at a key are those that invocations there have or are about to receive; no command's
invocations exceed its rule between their slots and the end of their after hooks; and every slot is
given back once, before the completion hook or the first error handler. Whatever the program does
with an event, with what waits, and in tearing down leads from such worlds to such worlds. -/
theorem slots_with_invocations (d : Dispatcher σ) (ci : Bool) (changes : List (Change σ))
    (w : World σ) (reached : Reached d ci changes w) :
    Balanced w ∧ Truthful d w ∧ Covered d ci changes w :=
  have settled := settled_of_reached reached
  ⟨balanced_of_settled settled, truthful_of_settled settled, covered_of_reached reached⟩

/-- One invocation at a time in a channel, which waits for a permit. -/
def work : CommandParts Unit where
  name := "work"
  concurrency := some ⟨1, .channel, true⟩
  body := some fun _ _ => .permit .done

def plain : Dispatcher Unit where
  directory := .ofLists [] [] [] []

def works : List (Change Unit) := [.register (.declare work false [])]

def ready : Service Unit where
  app := ()
  registry := grown false works

def ask : Event where
  author := { id := 1, name := "" }
  origin := ⟨.direct, none, { id := 9, name := "" }⟩
  content := "!work"
  responder := .discard

def found : Resolved Unit := ⟨{ qualified := "work", parts := work }, [], "work", [], ""⟩

/-- An invocation that is torn down in its body gives its slot back. -/
theorem slot_back_after_teardown :
    let busy := plain.dispatch ask ready
    let key : SlotKey := ⟨"work", .channel 9⟩
    busy.2.slots.inFlight key = 1 ∧ (busy.1.cancel busy.2).slots.inFlight key = 0 ∧
      ∃ strand, Reached plain false works ⟨busy.2, [strand]⟩ ∧ Balanced ⟨busy.2, [strand]⟩ ∧
        handling strand = busy.1 ∧
        Reached plain false works ⟨busy.1.cancel busy.2, [strand.dropped busy.2.slots]⟩ := by
  intro busy key
  have addressed : splitLead? plain.leads plain.settings.dispatch.stripAfterLead ask.content =
      some ("!", "work") := by
    simp only [leads, plain, List.mergeSort_singleton]
    decide
  have resolved : ready.registry.resolve "work" = .ok found := rfl
  have answer : busy = plain.invoke (begunBy plain ready ask "!" found) (met ready) :=
    dispatch_of_resolved rfl addressed resolved
  have one : busy.2.slots.inFlight key = 1 := by
    rw [answer]
    rfl
  have free : (busy.1.cancel busy.2).slots.inFlight key = 0 := by
    rw [answer]
    rfl
  have start : Reached plain false works ⟨ready, []⟩ := .start rfl rfl
  obtain ⟨-, -, covered⟩ := slots_with_invocations plain false works ⟨ready, []⟩ start
  obtain ⟨more, reached, ⟨-, silent⟩ | ⟨strand, rfl, rests, same⟩⟩ := covered.dispatched ask
  · change AtMostReporting busy.1 at silent
    rw [answer] at silent
    cases silent
  · obtain ⟨balanced, -, onward⟩ := slots_with_invocations plain false works _ reached
    have torn := onward.cancelled [] strand [] rfl rests.suspends
    rw [same] at torn
    exact ⟨one, free, strand, reached, balanced, same, torn⟩

/-! ## Hooks that are left -/

/-- What asking for a command with a text begins. -/
def asked (e : Event) (target : Resolved Unit) (s : Service Unit) : Handling Unit × Service Unit :=
  plain.invoke (begunBy plain s e "!" target) (met s)

theorem reached_of_asked {changes : List (Change Unit)} {w : World Unit}
    (reached : Reached plain false changes w) {e : Event} {line : String} {target : Resolved Unit}
    (heard : (plain.settings.dispatch.ignoreBots && e.author.bot) = false)
    (addressed : splitLead? plain.leads plain.settings.dispatch.stripAfterLead e.content =
      some ("!", line))
    (resolved : w.service.registry.resolve line = .ok target) :
    ∃ later, Reached plain false changes ⟨(asked e target w.service).2, w.strands ++ [later]⟩ ∧
      later.point.AtRest ∧ handling later = (asked e target w.service).1 := by
  have begun := reached_of_begun reached heard addressed resolved
  rwa [dispatch_of_resolved heard addressed resolved] at begun

theorem occupies_of_handling {inv : Invocation σ} {pause : Pause σ} (rests : strand.point.AtRest)
    (same : handling strand = .staged inv .body pause) (key : SlotKey) :
    occupies key strand = occupies key ⟨inv, .waiting .body pause, []⟩ := by
  obtain ⟨inv, point, diary⟩ := strand
  cases point with
  | waiting stage pause =>
    cases same
    rfl
  | queued | ended => cases same
  | _ => exact absurd rests id

/-- One invocation at a time, which waits for a permit. Its after hook has to wait, too. -/
def tidied : CommandParts Unit where
  name := "work"
  concurrency := some ⟨1, .channel, false⟩
  body := some fun _ _ => .permit .done
  after := some fun _ => .permit .done

def tidying : List (Change Unit) := [.register (.declare tidied false [])]

def tidy : Service Unit := { app := (), registry := grown false tidying }

def tidyWork : Resolved Unit := ⟨{ qualified := "work", parts := tidied }, [], "work", [], ""⟩

/-- The first invocation is torn down in its body, and another one begun. -/
def tornDown : Service Unit := (asked ask tidyWork tidy).1.cancel (asked ask tidyWork tidy).2

def goneOn : Service Unit := (asked ask tidyWork tornDown).2

theorem goneOn_reached : ∃ first second : Strand Unit,
    Reached plain false tidying ⟨goneOn, [first, second]⟩ ∧
      occupies ⟨"work", .channel 9⟩ second = true := by
  have addressed : splitLead? plain.leads plain.settings.dispatch.stripAfterLead ask.content =
      some ("!", "work") := by
    simp only [leads, plain, List.mergeSort_singleton]
    decide
  have start : Reached plain false tidying ⟨tidy, []⟩ := .start rfl rfl
  have resolved : tidy.registry.resolve "work" = .ok tidyWork := rfl
  obtain ⟨first, reached, rests, same⟩ := reached_of_asked start rfl addressed resolved
  have torn := (covered_of_reached reached).cancelled [] first [] rfl rests.suspends
  rw [same] at torn
  have stillResolved : tornDown.registry.resolve "work" = .ok tidyWork := rfl
  obtain ⟨second, again, alsoRests, alsoSame⟩ :=
    reached_of_asked (w := ⟨tornDown, _⟩) torn rfl addressed stillResolved
  refine ⟨_, second, again, ?_⟩
  rw [occupies_of_handling alsoRests (alsoSame.trans rfl)]
  rfl

/-! ## Slots of one name -/

/-- Two invocations at a time, which are done at once. -/
def wideGet : CommandParts Unit where
  name := "get"
  concurrency := some ⟨2, .channel, false⟩
  body := some fun _ _ => .done

/-- One invocation at a time, which waits for a permit. -/
def narrowGet : CommandParts Unit where
  name := "get"
  concurrency := some ⟨1, .channel, false⟩
  body := some fun _ _ => .permit .done

def grouped (parts : CommandParts Unit) : Declaration Unit :=
  .declare { name := "tag" } true [.declare parts false []]

def nested (parts : CommandParts Unit) : Command Unit := { qualified := "tag get", parts := parts }

theorem nested_made : Made (nested wideGet) :=
  .under (.built (d := grouped wideGet) rfl) (List.mem_singleton.2 rfl)

/-- The wide command is taken out of its group and registered as a root, and a group with the narrow
one takes the place of its own. -/
def rearranging : List (Change Unit) :=
  [.register (grouped wideGet), .remove "tag",
    .registerAgain [nested wideGet] (List.forall_mem_singleton.2 nested_made),
    .register (grouped narrowGet)]

def rearranged : Service Unit := { app := (), registry := grown false rearranging }

def rootGet : Resolved Unit := ⟨{ nested wideGet with serial := 1 }, [], "get", [], ""⟩

def group : Command Unit where
  qualified := "tag"
  parts := { name := "tag" }
  children := some ⟨[nested narrowGet], [("get", "get")]⟩
  serial := 2

def groupGet : Resolved Unit := ⟨nested narrowGet, [group], "get", ["tag"], ""⟩

def askRoot : Event := { ask with content := "!get" }

def askGroup : Event := { ask with content := "!tag get" }

/-- The wide command is asked for once, and the narrow one twice. -/
def crowded : Service Unit :=
  (asked askGroup groupGet (asked askGroup groupGet (asked askRoot rootGet rearranged).2).2).2

theorem crowded_reached : ∃ strands, Reached plain false rearranging ⟨crowded, strands⟩ := by
  have atRoot : splitLead? plain.leads plain.settings.dispatch.stripAfterLead askRoot.content =
      some ("!", "get") := by
    simp only [leads, plain, List.mergeSort_singleton]
    decide
  have inGroup : splitLead? plain.leads plain.settings.dispatch.stripAfterLead askGroup.content =
      some ("!", "tag get") := by
    simp only [leads, plain, List.mergeSort_singleton]
    decide
  have start : Reached plain false rearranging ⟨rearranged, []⟩ := .start rfl rfl
  let once : Service Unit := (asked askRoot rootGet rearranged).2
  let twice : Service Unit := (asked askGroup groupGet once).2
  have first : rearranged.registry.resolve "get" = .ok rootGet := rfl
  have second : once.registry.resolve "tag get" = .ok groupGet := rfl
  have third : twice.registry.resolve "tag get" = .ok groupGet := rfl
  obtain ⟨_, wide, -⟩ := reached_of_asked start rfl atRoot first
  obtain ⟨_, narrow, -⟩ := reached_of_asked wide rfl inGroup second
  obtain ⟨_, again, -⟩ := reached_of_asked narrow rfl inGroup third
  exact ⟨_, again⟩

/-- The after hooks of an invocation that was torn down have not ended when the next one is in its
body. And the bucket of a command that lets one invocation run at a time has two in flight, if it was
begun by another command of its qualified name that lets two run. -/
theorem more_invocations_than_slots :
    (¬ ∀ (w : World Unit) (c : Command Unit) (rule : Concurrency) (key : SlotKey),
      Reached plain false tidying w → Registered w.service.registry c →
        c.parts.concurrency = some rule → key.command = c.qualified →
          w.strands.countP (occupies key) + (left w.service).countP (fun hooks =>
            decide (Slots.keyFor hooks.id.qualified rule hooks.ctx = key)) ≤ rule.number) ∧
    ¬ ∀ (w : World Unit) (c : Command Unit) (rule : Concurrency) (key : SlotKey),
      Reached plain false rearranging w → Registered w.service.registry c →
        c.parts.concurrency = some rule → key.command = c.qualified →
          w.service.slots.inFlight key ≤ rule.number := by
  constructor
  · intro bounded
    obtain ⟨first, second, reached, running⟩ := goneOn_reached
    have known : Registered goneOn.registry tidyWork.command := .root (List.mem_singleton.2 rfl)
    have most := bounded _ _ ⟨1, .channel, false⟩ ⟨"work", .channel 9⟩ reached known rfl rfl
    have hooks : (left goneOn).countP (fun hooks =>
        decide (Slots.keyFor hooks.id.qualified ⟨1, .channel, false⟩ hooks.ctx =
          ⟨"work", .channel 9⟩)) = 1 := rfl
    have among : 1 ≤ [first, second].countP (occupies ⟨"work", .channel 9⟩) :=
      List.countP_pos_iff.2 ⟨second, List.mem_cons_of_mem _ List.mem_cons_self, running⟩
    rw [hooks] at most
    exact absurd (Nat.le_sub_of_add_le most) (Nat.not_le.2 among)
  · intro bounded
    obtain ⟨strands, reached⟩ := crowded_reached
    have known : Registered crowded.registry (nested narrowGet) :=
      .child (.root (List.mem_cons_of_mem _ List.mem_cons_self)) (List.mem_singleton.2 rfl)
    have most := bounded _ _ ⟨1, .channel, false⟩ ⟨"tag get", .channel 9⟩ reached known rfl rfl
    have two : crowded.slots.inFlight ⟨"tag get", .channel 9⟩ = 2 := rfl
    exact absurd (two ▸ most) (by decide)

end ChatCommands.Interleavings
