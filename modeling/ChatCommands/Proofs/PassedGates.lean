import ChatCommands.Proofs.UnbegunEvents
import ChatCommands.Proofs.UnboundSlots

/-! What handling an event does to the gates on its way: the checks, the cooldowns, the slots and the
binding of arguments. An invocation that is refused at one of them has done to those before it what
any invocation does, and nothing to those behind. A use is counted where arguments are bound and
nowhere else; a slot that was taken for arguments that cannot be bound is given back at once. -/
namespace ChatCommands.PassedGates
open InvocationCourse CourseLegs CourseEffects SlotDeals UnboundSlots LegalMarks
open LegalCourses CourseOrder UnbegunEvents ScriptFrame RegistryGrowth Dispatcher

variable {σ : Type} {d : Dispatcher σ} {inv : Invocation σ} {s : Service σ}
  {m start : Moment σ} {r : List Mark × Moment σ} {legs : List (Leg σ)} {leg : Leg σ}
  {error : CommandError}

/-! ## Uses -/

/-- The arguments were bound. -/
def binds : Mark → Bool
  | .bound none => true
  | _ => false

theorem usesOf_recordUse (registry : Registry σ) (target : Resolved σ) (id : CommandId) :
    (registry.recordUse target.root.serial target.command).usesOf id =
      registry.usesOf id + if id = target.id then 1 else 0 := by
  unfold Registry.recordUse Registry.adjust Registry.usesOf
  rw [Table.get?_set]
  by_cases same : target.id = id
  · subst same
    have here : (⟨target.root.serial, target.command.qualified⟩ : CommandId) = target.id := rfl
    cases kept : registry.standings.get? target.id <;> simp [here, Registry.standing, kept]
  · have elsewhere : (⟨target.root.serial, target.command.qualified⟩ : CommandId) ≠ id := same
    simp [elsewhere, Ne.symm same]

/-- A use of the command is counted for each time that arguments are bound, and for no other
command. -/
def Used (m : Moment σ) (marks : List Mark) (last : Moment σ) : Prop :=
  last.inv.target = m.inv.target ∧ ∀ id, last.service.registry.usesOf id =
    m.service.registry.usesOf id + if id = m.inv.target.id then marks.countP binds else 0

theorem used_of_step (step : Step d m r) : Used m r.1 r.2 := by
  refine ⟨by rw [inv_of_step step], fun id => ?_⟩
  cases touches_of_step step with
  | neither unbound _ registry =>
    have none : r.1.countP binds = 0 := by
      refine List.countP_eq_zero.2 fun mark told counts => unbound ?_
      cases mark with
      | bound refusal => cases refusal <;> first | exact told | cases counts
      | _ => cases counts
    simp [registry, none]
  | cooled refusal told registry => simp [registry, told, binds]
  | bound told registry =>
    rw [registry, told]
    exact usesOf_recordUse m.service.registry m.inv.target id

theorem used_of_stretch (stretch : Stretch d start leg) : Used start leg.marks leg.after := by
  refine Stretch.lift (fun _ => ⟨rfl, by simp⟩) (fun before after => ⟨?_, fun id => ?_⟩)
    used_of_step stretch
  · exact after.1.trans before.1
  · rw [after.2 id, before.2 id, before.1, List.countP_append, Nat.add_assoc]
    split <;> rfl

/-- Where no arguments are bound what is known of the commands stays as it is. -/
def Unbound (m : Moment σ) (marks : List Mark) (last : Moment σ) : Prop :=
  .bound none ∉ marks → last.service.registry = m.service.registry

theorem unbound_of_stretch (stretch : Stretch d start leg) :
    Unbound start leg.marks leg.after := by
  refine Stretch.lift (fun _ _ => rfl) (fun before after none => ?_) (fun step none => ?_) stretch
  · rw [List.mem_append, not_or] at none
    exact (after none.2).trans (before none.1)
  · cases touches_of_step step with
    | neither _ _ registry | cooled _ _ registry => exact registry
    | bound told => exact absurd (told ▸ List.mem_singleton.2 rfl) none

/-- A use is counted on every leg on which arguments are bound, and that is one at most. -/
theorem uses_of_course (course : Course d inv legs m) :
    (∀ leg ∈ legs, ∀ id, leg.after.service.registry.usesOf id = leg.before.registry.usesOf id +
      if id = inv.target.id then leg.marks.countP binds else 0) ∧
    (trace legs).countP binds ≤ 1 := by
  constructor
  · intro leg member id
    obtain ⟨earlier, later, split⟩ := List.append_of_mem member
    obtain ⟨start, begins, stretch⟩ := leg_of_course course split
    have used := (used_of_stretch stretch).2 id
    rwa [stretch.service, target_of_begins begins] at used
  · have apart := (ordered_of_course course).filter binds
    rw [List.countP_eq_length_filter]
    rcases shape : (trace legs).filter binds with _ | ⟨one, _ | ⟨other, rest⟩⟩
    · simp
    · simp
    · have both : ∀ mark ∈ [one, other], mark = .bound none := by
        intro mark member
        have kept : mark ∈ (trace legs).filter binds := by
          rw [shape]
          exact (List.sublist_append_left [one, other] rest).subset member
        have counts := (List.mem_filter.1 kept).2
        cases mark with
        | bound refusal => cases refusal <;> first | rfl | cases counts
        | _ => cases counts
      rw [shape, both one (by simp), both other (by simp)] at apart
      have beyond := (List.pairwise_cons.1 apart).1 (.bound none) List.mem_cons_self
      cases Nat.lt_irrefl _ beyond

/-! ## Refusals -/

/-- After a refusal, and before it, nothing is told of the gates behind. -/
theorem not_told_behind (course : Course d inv legs m) {refusal other : Mark}
    (told : refusal ∈ trace legs) (refuses : reach refusal = 12)
    (behind : stationOf refusal < stationOf other) (gate : stationOf other ≤ 12) :
    other ∉ trace legs := by
  intro also
  rcases before_or_beyond course told also with before | beyond <;> omega

theorem registry_of_refusal (course : Course d inv legs m)
    (none : .bound none ∉ trace legs) (member : leg ∈ legs) :
    leg.after.service.registry = leg.before.registry := by
  obtain ⟨earlier, later, split⟩ := List.append_of_mem member
  obtain ⟨start, -, stretch⟩ := leg_of_course course split
  rw [← stretch.service]
  exact unbound_of_stretch stretch fun told => none (List.mem_flatMap.2 ⟨leg, member, told⟩)

theorem sameGates_of_refusal (course : Course d inv legs m) (free : inv.admission = none)
    (told : .checked (some error) ∈ trace legs) (member : leg ∈ legs) :
    SameGates leg.before leg.after.service := by
  have behind {other : Mark} : 1 < stationOf other → stationOf other ≤ 12 → other ∉ trace legs :=
    not_told_behind course told rfl
  have unasked : ∀ mark ∈ trace legs, asksLimit mark = false := by
    intro mark also
    cases mark with
    | cooled | inLine | slot => exact absurd also (behind (by simp [stationOf]) (by simp [stationOf]))
    | _ => rfl
  obtain ⟨cooldowns, slots⟩ := (limits_of_course course free unasked).2 leg member
  exact ⟨registry_of_refusal course (behind (by decide) (by decide)) member, cooldowns, slots⟩

/-- Of an invocation that is refused by the checks the hook for commands never hears. -/
theorem onCommand_of_refusal (course : Course d inv legs m)
    (told : .checked (some error) ∈ trace legs) (member : leg ∈ legs) :
    (∀ outcome, .ran .onCommand outcome ∉ leg.marks) ∧
      ∀ pause, leg.after.point ≠ .waiting .onCommand pause := by
  constructor
  · intro outcome also
    exact not_told_behind course told rfl (by simp [stationOf, station])
      (by simp [stationOf, station]) (List.mem_flatMap.2 ⟨leg, member, also⟩)
  · intro pause waits
    obtain ⟨earlier, later, split⟩ := List.append_of_mem member
    have upto := course_upto course split
    obtain ⟨_, _, refusal, -, begins, -⟩ := checked_of_course upto
    have first : .checked refusal ∈ trace (earlier ++ [leg]) := List.mem_of_mem_head? begins
    have also : .checked refusal ∈ trace legs := by
      rw [split, ← List.singleton_append, ← List.append_assoc, trace, List.flatMap_append]
      exact List.mem_append_left _ first
    have same := sole_of_course course told also rfl
    have passed := reach_le_behind upto _ first
    rw [same, waits] at passed
    simp [reach, behind, station, partOf] at passed

/-! ## Gates on the way -/

/-- What handling does to the gates, leg by leg. -/
structure Frames (inv : Invocation σ) (legs : List (Leg σ)) : Prop where
  /-- A use of the command is counted where arguments are bound, once at most, and for no other. -/
  uses : (∀ leg ∈ legs, ∀ id, leg.after.service.registry.usesOf id =
      leg.before.registry.usesOf id + if id = inv.target.id then leg.marks.countP binds else 0) ∧
    (trace legs).countP binds ≤ 1
  /-- Behind a refusal by the checks nothing is touched, and the hook for commands does not run. -/
  refused : ∀ error, .checked (some error) ∈ trace legs → ∀ leg ∈ legs,
    SameGates leg.before leg.after.service ∧ (∀ outcome, .ran .onCommand outcome ∉ leg.marks) ∧
      ∀ pause, leg.after.point ≠ .waiting .onCommand pause
  denied : ∀ error, .cooled (some error) ∈ trace legs → ∀ leg ∈ legs,
    leg.after.service.slots = leg.before.slots ∧
      leg.after.service.registry = leg.before.registry
  turnedAway : ∀ error, .slot (some error) ∈ trace legs → ∀ leg ∈ legs,
    (∀ key, leg.after.service.slots.inFlight key = leg.before.slots.inFlight key) ∧
      leg.after.service.registry = leg.before.registry
  unbound : ∀ error, .bound (some error) ∈ trace legs →
    ∀ earlier leg later, legs = earlier ++ leg :: later →
      Unspent earlier leg.before.slots leg.after.service.slots ∧
        leg.after.service.registry = leg.before.registry

theorem frames_of_course (course : Course d inv legs m) (free : inv.admission = none) :
    Frames inv legs where
  uses := uses_of_course course
  refused error told leg member :=
    ⟨sameGates_of_refusal course free told member, onCommand_of_refusal course told member⟩
  denied error told leg member := by
    have behind {other : Mark} : 3 < stationOf other → stationOf other ≤ 12 → other ∉ trace legs :=
      not_told_behind course told rfl
    have unasked : ∀ mark ∈ trace legs, asksSlot mark = false := by
      intro mark also
      cases mark with
      | inLine | slot => exact absurd also (behind (by simp [stationOf]) (by simp [stationOf]))
      | _ => rfl
    exact ⟨(law_of_course unasked_law course free unasked).2 leg member,
      registry_of_refusal course (behind (by decide) (by decide)) member⟩
  turnedAway error told leg member := by
    have ungiven : ∀ mark ∈ trace legs, mark ≠ .slot none := by
      rintro mark also rfl
      cases sole_of_course course told also rfl
    have unbound : .bound none ∉ trace legs := not_told_behind course told rfl
      (by simp [stationOf]) (by simp [stationOf])
    exact ⟨(law_of_course ungranted_law course free ungiven).2 leg member,
      registry_of_refusal course unbound member⟩
  unbound error told earlier leg later split := by
    have unbound : .bound none ∉ trace legs := fun also => by
      cases sole_of_course course told also rfl
    have member : leg ∈ legs := split ▸ List.mem_append_right _ List.mem_cons_self
    exact ⟨unspent_of_course course free told split, registry_of_refusal course unbound member⟩

/-! ### The checks -/

theorem firstDisabled_eq {target : Resolved σ} {outer inner : List (Command σ)} {c : Command σ}
    (path : target.parents ++ [target.command] = outer ++ c :: inner)
    (enabled : ∀ other ∈ outer, (s.registry.standing target.root.serial other).enabled)
    (off : (s.registry.standing target.root.serial c).enabled = false) :
    firstDisabled? s target = some c := by
  rw [firstDisabled?, path, List.find?_eq_some_iff_append]
  exact ⟨by simp [off], outer, inner, rfl, fun other member => by simp [enabled other member]⟩

/-- The first that is told of an invocation whose checks fail is how they failed. -/
theorem head_of_refusal (course : Course d inv legs m) {times : List (Service σ)}
    (served : legs.map Leg.before = s :: times) (fails : d.passChecks inv s = .error error) :
    (trace legs).head? = some (.checked (some error)) := by
  induction course generalizing times with
  | @begun s marks m goes =>
    cases served
    rw [trace, List.flatMap_singleton]
    cases goes with
    | stop rests => exact absurd rests id
    | step _ first _ =>
      cases first with
      | refused checks =>
        cases checks.symm.trans fails
        rfl
      | passed checks => cases checks.symm.trans fails
  | @resumed legs m last later r more earlier first goes ih =>
    obtain ⟨began, before, same, -⟩ := perform_of_course earlier
    rw [List.map_append, same] at served
    cases served
    rw [trace, List.flatMap_append, List.head?_append, ← trace, ih same, Option.some_or]

/-- Handling touches the gates it came past and no others. An event that nobody is meant by, or whose
line names no command, leaves commands, cooldowns and slots alone, and no hook runs for it but the
dispatcher's error handler if such lines are reported. An invocation, taken up as often as it takes,
does at every gate what it does on the way past it. Where a command on its path is disabled it is
refused for the outermost one, and otherwise for the first check that fails. -/
theorem only_passed_gates_touched {ci : Bool} {changes : List (Change σ)} (d : Dispatcher σ)
    (s : Service σ) (e : Event) (built : s.registry = grown ci changes) :
    (Unheard d e → (d.dispatch e s).1 = .finished ∧ SameGates s (d.dispatch e s).2 ∧
      ∀ hooks, ({ d with hooks := hooks } : Dispatcher σ).dispatch e s = d.dispatch e s) ∧
    (∀ lead line error, Unresolved d s e lead line error →
      AtMostReporting (d.dispatch e s).1 ∧ SameGates s (d.dispatch e s).2 ∧
      (∀ hooks, (d.settings.dispatch.reportNotFound = true → hooks.onError = d.hooks.onError) →
        ({ d with hooks := hooks } : Dispatcher σ).dispatch e s = d.dispatch e s) ∧
      ∀ reporting later, AtMostReporting reporting →
        AtMostReporting (d.resume reporting later).1 ∧
          SameGates later (d.resume reporting later).2 ∧
          ∀ hooks, ({ d with hooks := hooks } : Dispatcher σ).resume reporting later =
            d.resume reporting later) ∧
    ∀ lead line target, (d.settings.dispatch.ignoreBots && e.author.bot) = false →
      splitLead? d.leads d.settings.dispatch.stripAfterLead e.content = some (lead, line) →
      s.registry.resolve line = .ok target → ∀ times,
        let inv := begunBy d s e lead target
        let path := target.parents ++ [target.command]
        let isEnabled (c : Command σ) := (s.registry.standing target.root.serial c).enabled
        (∃ legs m, Course d inv legs m ∧ legs.map Leg.before = met s :: times) ∧
        ∀ legs m, Course d inv legs m → legs.map Leg.before = met s :: times →
          times.foldl (fun r later => d.resume r.1 later) (d.dispatch e s) = m.perform d ∧
          Frames inv legs ∧
          (∀ outer c inner, path = outer ++ c :: inner →
            (∀ other ∈ outer, isEnabled other) → isEnabled c = false →
            (trace legs).head? = some (.checked (some (.disabledCommand c.qualified)))) ∧
          ((∀ c ∈ path, isEnabled c) → ∀ passed check rest failure,
            d.checksFor s target = passed ++ check :: rest →
            (∀ other ∈ passed, other.evaluate inv.ctx = .ok ()) →
            check.evaluate inv.ctx = .error failure →
            (trace legs).head? = some (.checked (some (.check failure)))) := by
  refine ⟨fun unheard => ?_, fun lead line error unresolved => ?_, ?_⟩
  · obtain ⟨finished, gates⟩ := dispatch_of_unheard unheard s
    exact ⟨finished, gates, dispatch_unheard_hooks unheard s⟩
  · obtain ⟨reporting, gates⟩ := refuseLine_gates d (openContext d s e lead) error (met s)
    rw [← dispatch_of_unresolved unresolved] at reporting gates
    refine ⟨reporting, ⟨gates.registry, gates.cooldowns, gates.slots⟩,
      dispatch_unresolved_hooks unresolved, fun waits later reports => ?_⟩
    obtain ⟨still, kept⟩ := resume_gates d reports later
    exact ⟨still, kept, fun hooks => resume_hooks reports hooks later⟩
  · intro lead line target heard addressed resolved times inv path isEnabled
    have orderly : Orderly ci s.registry := built ▸ grown_orderly ci changes
    have runs : inv.command.parts.body.isSome := LongestDescent.body_of_resolve orderly resolved
    refine ⟨exists_course d inv runs (met s) times, fun legs m course served => ?_⟩
    obtain ⟨began, later, same, comes⟩ := perform_of_course course
    cases served.symm.trans same
    rw [dispatch_of_resolved heard addressed resolved]
    refine ⟨comes, frames_of_course course rfl, ?_, ?_⟩
    · intro outer c inner split enabled off
      have disabled : firstDisabled? s target = some c := firstDisabled_eq split enabled off
      have fails : d.passChecks inv (met s) = .error (.disabledCommand c.qualified) := by
        change d.passChecks inv s = _
        simp only [passChecks, inv, begunBy, disabled]
      exact head_of_refusal course served fails
    · intro enabled passed check rest failure split passes failed
      have disabled : firstDisabled? s target = none :=
        List.find?_eq_none.2 fun c member => by simpa using enabled c member
      have asked : Check.evaluateAll (d.checksFor s target) inv.ctx = .error failure :=
        Check.evaluateAll_eq_error_iff.2 ⟨_, _, _, split, passes, failed⟩
      have fails : d.passChecks inv (met s) = .error (.check failure) := by
        change d.passChecks inv s = _
        simp only [passChecks, show inv.target = target from rfl, disabled, asked]
      exact head_of_refusal course served fails

/-- It takes a number, and one invocation at a time. -/
def count : CommandParts Unit where
  name := "count"
  params := [{ name := "to", shape := .of .int }]
  concurrency := some ⟨1, .channel, false⟩
  body := some fun _ _ => .done

def plain : Dispatcher Unit where
  directory := .ofLists [] [] [] []

def ready : Service Unit where
  app := ()
  registry := grown false [.register (.declare count false [])]

def ask : Event where
  author := { id := 1, name := "" }
  origin := ⟨.direct, none, { id := 9, name := "" }⟩
  content := "!count"
  responder := .discard

def found : Resolved Unit := ⟨{ qualified := "count", parts := count }, [], "count", [], ""⟩

def missing : CommandError := .userInput (.missingRequiredArgument "to")

/-- Without its number the command gets a slot, gives it back, and is not used. -/
theorem slot_of_unbound_given_back :
    ready.registry.resolve "count" = .ok found ∧
      ∃ leg m, Course plain (begunBy plain ready ask "!" found) [leg] m ∧
        plain.dispatch ask ready = m.perform plain ∧ .slot none ∈ leg.marks ∧
        .bound (some missing) ∈ leg.marks ∧ leg.after.service.registry = ready.registry ∧
        ∀ key, leg.after.service.slots.inFlight key = ready.slots.inFlight key := by
  have addressed : splitLead? plain.leads plain.settings.dispatch.stripAfterLead ask.content =
      some ("!", "count") := by
    simp only [leads, plain, List.mergeSort_singleton]
    decide
  have resolved : ready.registry.resolve "count" = .ok found := rfl
  obtain ⟨marks, m, goes, given, told⟩ :
      ∃ marks m, Goes plain ⟨begunBy plain ready ask "!" found, .arrived, met ready⟩ marks m ∧
        .slot none ∈ marks ∧ .bound (some missing) ∈ marks := by
    refine ⟨_, _, .step id (.passed rfl) <| .step id (.cooled returns_done rfl) <|
      .step id (.admitted rfl rfl) <| .step id (.unbound rfl rfl) <| .step id .reported <|
      .step id (.noCommandHandler rfl) <| .step id (.noModuleHandler rfl) <|
      .step id .globalHandler <| .step id .settled <| .stop trivial, ?_, ?_⟩
    · exact List.mem_append_right _ (List.mem_append_right _ (List.mem_append_left _
        (List.mem_singleton.2 rfl)))
    · exact List.mem_append_right _ (List.mem_append_right _ (List.mem_append_right _
        (List.mem_append_left _ (List.mem_singleton.2 rfl))))
  have whole : trace [⟨met ready, marks, m⟩] = marks := List.flatMap_singleton ..
  obtain ⟨comes, frames, -⟩ := ((only_passed_gates_touched plain ready ask rfl).2.2 "!" "count"
    found rfl addressed resolved []).2 _ m (.begun goes) rfl
  obtain ⟨unspent, registry⟩ := frames.unbound missing (by rwa [whole]) [] _ [] rfl
  refine ⟨resolved, _, m, .begun goes, comes, given, told, registry, ?_⟩
  cases unspent with
  | counted same => exact same [] rfl
  | passedOn stood => cases stood

end ChatCommands.PassedGates
