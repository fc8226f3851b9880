import ChatCommands.Proofs.CourseOrder
import ChatCommands.Proofs.UnbegunEvents

/-! What becomes of failures. An invocation fails with the first failure that is told of it, a panic
of its body included. As long as no hook and no error handler panics, nor the binding of the arguments,
that failure is routed to the handlers once, and a failure of a handler goes to the journal. A panic
in one of these ends the handling where it stands: nobody hears of it. -/
namespace ChatCommands.RoutedFailures
open InvocationCourse CourseLegs CourseEffects LegalMarks LegalCourses CourseOrder ScriptFrame
open UnbegunEvents RegistryGrowth Dispatcher

variable {σ : Type} {d : Dispatcher σ} {c : Command σ} {bare : Prop} {inv : Invocation σ}
  {s t : Service σ} {m last : Moment σ} {r : List Mark × Moment σ} {marks rest : List Mark}
  {legs : List (Leg σ)}

/-! ## The first failure -/

/-- What an invocation of the command with a name fails with if a mark is the first to tell of a
failure. The hook for commands, the completion hook and the error handlers do not make it fail. -/
def failureOf (name : String) : Mark → Option CommandError
  | .checked refusal | .cooled refusal | .slot refusal | .bound refusal => refusal
  | .ran .body outcome => (bodyFault outcome).map (.invoke name)
  | .ran .beforeCommand outcome | .ran .beforeGlobal outcome | .ran .afterCommand outcome
  | .ran .afterGlobal outcome => (faultOf outcome).map (.invoke name)
  | _ => none

def firstFailure (name : String) (marks : List Mark) : Option CommandError :=
  marks.findSome? (failureOf name)

/-- An error handler is asked, or would be if there were one. -/
def asksHandler : Mark → Bool
  | .ran (.handler _ _) _ | .lacks (.handler _ _) => true
  | _ => false

/-- No handler is asked without a failure, and a failure is reported once, at the end. -/
def Settled (c : Command σ) (bare : Prop) (marks : List Mark) : Option CommandError → Prop
  | none => ∀ mark ∈ marks, asksHandler mark = false
  | some error => ∃ before routing, marks = before ++ routing ∧
      (∀ mark ∈ before, asksHandler mark = false) ∧ Reported c bare error routing

theorem settled_cons {mark : Mark} {failure : Option CommandError}
    (quiet : asksHandler mark = false) (settled : Settled c bare rest failure) :
    Settled c bare (mark :: rest) failure := by
  cases failure with
  | none => exact List.forall_mem_cons.2 ⟨quiet, settled⟩
  | some error =>
    obtain ⟨before, routing, rfl, others, reported⟩ := settled
    exact ⟨mark :: before, routing, rfl, List.forall_mem_cons.2 ⟨quiet, others⟩, reported⟩

theorem settled_append {failure : Option CommandError}
    (quiet : ∀ mark ∈ marks, asksHandler mark = false) (settled : Settled c bare rest failure) :
    Settled c bare (marks ++ rest) failure := by
  induction marks with
  | nil => exact settled
  | cons mark more ih =>
    obtain ⟨here, later⟩ := List.forall_mem_cons.1 quiet
    exact settled_cons here (ih later)

theorem settled_of_reported {error : CommandError} (reported : Reported c bare error rest) :
    Settled c bare rest (some error) := ⟨[], rest, rfl, by simp, reported⟩

@[simp] theorem firstFailure_cons (name : String) (mark : Mark) (rest : List Mark) :
    firstFailure name (mark :: rest) = (failureOf name mark).or (firstFailure name rest) := by
  cases fails : failureOf name mark <;> simp [firstFailure, fails]

@[simp] theorem firstFailure_append (name : String) (first second : List Mark) :
    firstFailure name (first ++ second) =
      (firstFailure name first).or (firstFailure name second) :=
  List.findSome?_append

theorem firstFailure_routed {error : CommandError} {levels : List HandlerLevel}
    (routed : Routed c bare error levels rest) (name : String) : firstFailure name rest = none := by
  induction routed with
  | nobody => rfl
  | settled => rfl
  | failed _ _ ih | lacking _ _ ih | unhandled _ _ ih => simpa [failureOf] using ih

/-- The hooks around the body. -/
def surrounds : Part → Bool
  | .beforeCommand | .beforeGlobal | .afterCommand | .afterGlobal => true
  | _ => false

theorem failureOf_hooked {part : Part} {failure : Option Fault} {mark : Mark}
    (hooked : Hooked c part failure mark) (around : surrounds part = true) (name : String) :
    failureOf name mark = failure.map (.invoke name) := by
  cases part <;> first | contradiction | (cases hooked <;> rfl)

theorem asksHandler_hooked {part : Part} {failure : Option Fault} {mark : Mark}
    (hooked : Hooked c part failure mark) (hook : ∀ level error, part ≠ .handler level error) :
    asksHandler mark = false := by
  cases part with
  | handler level error => exact absurd rfl (hook level error)
  | _ => cases hooked <;> rfl

/-! ## Routing -/

theorem settled_of_ending {failure : Option Fault} (ending : Ending c bare failure rest) :
    Settled c bare rest (failure.map (.invoke c.qualified)) ∧
      firstFailure c.qualified rest = none := by
  cases ending with
  | completed hook =>
    refine ⟨settled_cons (asksHandler_hooked hook nofun) (by simp [Settled]), ?_⟩
    cases hook <;> rfl
  | failed reported => exact ⟨settled_of_reported reported, firstFailure_routed reported _⟩

theorem settled_of_leaving {failure : Option Fault} (leaving : Leaving c bare failure rest) :
    Settled c bare rest
      ((failure.map (.invoke c.qualified)).or (firstFailure c.qualified rest)) := by
  cases leaving with
  | both command global ending =>
    obtain ⟨settled, noOther⟩ := settled_of_ending ending
    rw [firstFailure_cons, firstFailure_cons, failureOf_hooked command rfl,
      failureOf_hooked global rfl, noOther, Option.or_none, ← Option.map_or, ← Option.map_or,
      ← Option.or_assoc]
    exact settled_cons (asksHandler_hooked command nofun)
      (settled_cons (asksHandler_hooked global nofun) settled)

theorem prepared_failure {early : Option Fault} (prepared : Prepared c early marks) :
    firstFailure c.qualified marks = early.map (.invoke c.qualified) ∧
      ∀ mark ∈ marks, asksHandler mark = false := by
  cases prepared with
  | stopped command =>
    exact ⟨by simp [failureOf_hooked command rfl, firstFailure],
      by simpa using asksHandler_hooked command nofun⟩
  | through command global =>
    exact ⟨by simp [failureOf_hooked command rfl, failureOf_hooked global rfl, firstFailure],
      by simpa using ⟨asksHandler_hooked command nofun, asksHandler_hooked global nofun⟩⟩

theorem settled_of_armed (armed : Armed c bare rest) :
    Settled c bare rest (firstFailure c.qualified rest) := by
  obtain ⟨prepared, worked, leaving⟩ := armed
  obtain ⟨told, quiet⟩ := prepared_failure prepared
  have settled := settled_of_leaving leaving
  rw [firstFailure_append, firstFailure_append, told]
  cases worked with
  | skipped => exact settled_append quiet settled
  | ran => exact settled_append quiet (settled_cons rfl (by simpa [failureOf, firstFailure]))

theorem settled_of_bound (bound : Bound c bare rest) :
    Settled c bare rest (firstFailure c.qualified rest) := by
  cases bound with
  | refused reported => exact settled_cons rfl (settled_of_reported reported)
  | accepted armed => exact settled_cons rfl (settled_of_armed armed)

theorem settled_of_admitted (admitted : Admitted c bare rest) :
    Settled c bare rest (firstFailure c.qualified rest) := by
  cases admitted with
  | refused _ reported => exact settled_cons rfl (settled_of_reported reported)
  | unlimited _ bound | atOnce _ bound => exact settled_cons rfl (settled_of_bound bound)
  | afterWaiting _ bound =>
    exact settled_cons rfl (settled_cons rfl (settled_of_bound bound))

/-- Legal marks that are complete settle the first failure they tell of. -/
theorem settled_of_legal (legal : Legal c bare marks) :
    Settled c bare marks (firstFailure c.qualified marks) := by
  cases legal with
  | refused reported => exact settled_cons rfl (settled_of_reported reported)
  | @passed _ hook _ hooked limited =>
    have quiet := asksHandler_hooked hooked nofun
    have fine : failureOf c.qualified hook = none := by cases hooked <;> rfl
    rw [firstFailure_cons, firstFailure_cons, fine]
    refine settled_cons rfl (settled_cons quiet ?_)
    cases limited with
    | denied reported => exact settled_cons rfl (settled_of_reported reported)
    | counted admitted => exact settled_cons rfl (settled_of_admitted admitted)

theorem legal_of_finished (course : Course d inv legs m) (returns : HooksReturn (trace legs))
    (finished : (m.perform d).1 = .finished) :
    Legal inv.command (Unhandled inv legs) (trace legs) := by
  have ended := ended_of_finished (rests_of_course course) finished
  have nothing : Completes inv.command (Unhandled inv legs) m.point [] := ended ▸ rfl
  simpa using legal_of_course course returns (unhandled_of_course course) nothing

/-! ## The journal -/

/-- What the journal is told when an error handler fails. -/
def entryOf (inv : Invocation σ) : Mark → Option JournalEntry
  | .ran (.handler _ error) (.failed failure) =>
    some ⟨fallbackNote inv.ctx error failure, some inv.span⟩
  | _ => none

/-- What the journal is still to be told. -/
def owed (m : Moment σ) : List JournalEntry :=
  match m.point with
  | .left stage outcome => (entryOf m.inv (.ran (partOf stage) outcome)).toList
  | _ => []

/-- From one moment to another nothing is struck from the journal, and it is told of every error
handler that failed, in order. -/
def Noted (m : Moment σ) (marks : List Mark) (last : Moment σ) : Prop :=
  ∃ written, last.service.journal.toList = m.service.journal.toList ++ written ∧
    (owed m ++ marks.filterMap (entryOf m.inv)).Sublist (written ++ owed last)

theorem entryOf_of_step (step : Step d m r) : entryOf r.2.inv = entryOf m.inv := by
  rw [inv_of_step step]
  rfl

theorem noted_trans {middle : Moment σ} {first second : List Mark}
    (same : entryOf middle.inv = entryOf m.inv) (before : Noted m first middle)
    (after : Noted middle second last) : Noted m (first ++ second) last := by
  obtain ⟨written, grows, told⟩ := before
  obtain ⟨more, growsOn, toldOn⟩ := after
  refine ⟨written ++ more, by rw [growsOn, grows, List.append_assoc], ?_⟩
  rw [List.filterMap_append, ← List.append_assoc, List.append_assoc written]
  rw [same] at toldOn
  refine (told.append_right _).trans ?_
  rw [List.append_assoc]
  exact toldOn.append_left _

theorem noted_of_quiet (settled : owed m = []) (quiet : marks.filterMap (entryOf m.inv) = [])
    (grows : m.service.journal.toList <+: last.service.journal.toList) : Noted m marks last := by
  obtain ⟨written, whole⟩ := grows
  refine ⟨written, whole.symm, ?_⟩
  rw [settled, quiet]
  exact List.nil_sublist _

theorem noted_staged (settled : owed m = []) (same : entryOf m.inv = entryOf inv) (stage : Stage)
    {p : Progress σ × Service σ} (grows : m.service.journal.toList <+: p.2.journal.toList) :
    Noted m (staged inv stage p).1 (staged inv stage p).2 := by
  obtain ⟨progress, t⟩ := p
  obtain ⟨written, whole⟩ := grows
  have owing : (staged inv stage (progress, t)).1.filterMap (entryOf inv) =
      owed (staged inv stage (progress, t)).2 := by
    cases progress with
    | paused pause => rfl
    | ended outcome =>
      cases entry : entryOf inv (.ran (partOf stage) outcome) <;> simp [staged, owed, entry]
  refine ⟨written, ?_, ?_⟩
  · cases progress <;> exact whole.symm
  · rw [settled, same, owing]
    exact List.sublist_append_right _ _

theorem noted_launch (settled : owed m = []) (same : entryOf m.inv = entryOf inv) (stage : Stage)
    (script : Script σ) (grows : m.service.journal.toList <+: s.journal.toList) :
    Noted m (launch inv stage script s).1 (launch inv stage script s).2 :=
  noted_staged settled same stage (grows.trans (run_spares inv.runner script s).journal)

@[simp] theorem journal_releaseSlot : (s.releaseSlot inv).journal = s.journal := by
  obtain ⟨_, _, shape⟩ := SlotDeals.releaseSlot_eq s inv
  rw [shape]

theorem journal_abandon (stage : Stage) : (s.abandon inv stage).journal = s.journal := by
  cases stage <;> simp [Service.abandon, Service.countCommand, Service.signal]

/-- A failure of an error handler is noted by the step after it. -/
theorem noted_of_step (step : Step d m r) : Noted m r.1 r.2 := by
  cases step with
  | commandHandlerFailed | moduleHandlerFailed | globalHandlerFailed =>
    exact ⟨[_], by simp [Service.handlerFailed, Service.note], List.Sublist.refl _⟩
  | @passed inv s =>
    have ran : Noted ⟨inv, .arrived, s⟩ _ _ :=
      noted_launch rfl rfl .onCommand (d.hooks.onCommand inv.ctx) List.prefix_rfl
    exact ran
  | beforeCommand | beforeGlobal | body | afterCommand | afterGlobal | commandHandler
  | moduleHandler | globalHandler => exact noted_launch rfl rfl _ _ List.prefix_rfl
  | @completion inv s =>
    have noted := (note_spares (s.releaseSlot inv) (some inv.span)
      ⟨.debug, .dispatcher, "Command completed", []⟩).journal
    rw [journal_releaseSlot] at noted
    have settled : owed ⟨inv, .concluding (.ok ()), s⟩ = [] := rfl
    have same : entryOf inv = entryOf { inv with admission := none } := rfl
    exact noted_launch settled same .completion _ noted
  | @woken inv s stage pause =>
    exact noted_staged rfl rfl stage (resume_spares inv.runner pause s).journal
  | cooled _ counts | denied _ counts =>
    exact noted_of_quiet rfl rfl (spares_of_acquire counts).journal
  | saturated | queued => exact noted_of_quiet rfl rfl (note_spares _ _ _).journal
  | reported | broken => exact noted_of_quiet rfl rfl (by rw [journal_releaseSlot])
  | @panicked inv s stage message =>
    refine noted_of_quiet ?_ rfl (by rw [journal_abandon])
    cases stage <;> rfl
  | @settled inv s level error => exact noted_of_quiet rfl rfl List.prefix_rfl
  | _ => exact noted_of_quiet rfl rfl List.prefix_rfl

theorem noted_of_goes (goes : Goes d m marks last) : Noted m marks last := by
  induction goes with
  | @stop m => exact ⟨[], by simp, by simp⟩
  | step _ first _ ih => exact noted_trans (entryOf_of_step first) (noted_of_step first) ih

theorem owed_at_rest (rests : m.point.AtRest) : owed m = [] := by
  obtain ⟨inv, point, s⟩ := m
  cases point with
  | left => exact absurd rests id
  | _ => rfl

theorem entryOf_of_begins {start : Moment σ} {earlier : List (Leg σ)}
    (begins : Begins d inv earlier start) : entryOf start.inv = entryOf inv := by
  refine invariant_of_begins (P := fun other _ => entryOf other = entryOf inv) rfl
    (fun step before => ?_) begins
  exact (entryOf_of_step step).trans before

/-- On every leg the journal is told of the error handlers that failed, in order. -/
theorem noted_of_course (course : Course d inv legs m) : ∀ leg ∈ legs, ∃ written,
    leg.after.service.journal.toList = leg.before.journal.toList ++ written ∧
      (leg.marks.filterMap (entryOf inv)).Sublist written := by
  intro leg member
  obtain ⟨earlier, later, split⟩ := List.append_of_mem member
  obtain ⟨start, begins, stretch⟩ := leg_of_course course split
  obtain ⟨r, more, first, goes, whole⟩ := stretch.steps
  obtain ⟨written, grows, told⟩ :=
    noted_trans (entryOf_of_step first) (noted_of_step first) (noted_of_goes goes)
  rw [owed_at_rest (rests_of_goes goes), List.append_nil, ← whole,
    entryOf_of_begins begins] at told
  rw [stretch.service] at grows
  exact ⟨written, grows, (List.sublist_append_right _ _).trans told⟩

/-! ## Panics -/

theorem stationOf_le (mark : Mark) : stationOf mark ≤ 15 := by
  have part_le (part : Part) : station part ≤ 15 := by
    rcases part with _ | _ | _ | _ | _ | _ | _ | ⟨_ | _ | _⟩ <;> simp [station, rank]
  cases mark with
  | ran part | lacks part => exact part_le part
  | _ => simp [stationOf]

theorem reach_panicked {part : Part} (hook : part ≠ .body) (message : Option String) :
    reach (.ran part (.panicked message)) = 15 := by
  cases part with
  | body => exact absurd rfl hook
  | _ => rfl

theorem rank_of_asksHandler {mark : Mark} (asks : asksHandler mark = true) :
    13 ≤ stationOf mark := by
  cases mark with
  | ran part | lacks part =>
    cases part with
    | handler level => cases level <;> simp [stationOf, station, rank]
    | _ => cases asks
  | _ => cases asks

/-- Where a mark that rules out all others is told, nothing is told after it. -/
theorem last_of_final (course : Course d inv legs m) {final : Mark} (told : final ∈ trace legs)
    (rulesOut : reach final = 15) :
    m.point = .ended ∧ ∃ before, trace legs = before ++ [final] ∧
      (stationOf final ≤ 12 → ∀ mark ∈ before, asksHandler mark = false) := by
  obtain ⟨before, after, shape⟩ := List.append_of_mem told
  have ordered := ordered_of_course course
  rw [shape] at ordered
  obtain ⟨-, onward, earlier⟩ := List.pairwise_append.1 ordered
  have nothing : after = [] := by
    refine List.eq_nil_iff_forall_not_mem.2 fun mark member => ?_
    have beyond := (List.pairwise_cons.1 onward).1 mark member
    have within := stationOf_le mark
    omega
  subst nothing
  refine ⟨?_, before, shape, fun low mark member => ?_⟩
  · have passed := reach_le_behind course _ told
    rw [rulesOut] at passed
    have rests := rests_of_course course
    obtain ⟨inv, point, s⟩ := m
    cases point with
    | ended => rfl
    | queued => simp [behind] at passed
    | waiting stage =>
      have within := stationOf_le (.lacks (partOf stage))
      have positive := station_pos (partOf stage)
      simp only [behind, stationOf] at passed within
      omega
    | _ => exact absurd rests id
  · by_contra asks
    have late := rank_of_asksHandler (Bool.not_eq_false _ ▸ asks)
    have soon := earlier mark member _ (List.mem_singleton.2 rfl)
    have here := stationOf_le_reach mark
    omega

theorem last_of_panic (course : Course d inv legs m) {part : Part} {message : Option String}
    (panics : Mark.ran part (.panicked message) ∈ trace legs) (hook : part ≠ .body) :
    m.point = .ended ∧ ∃ before, trace legs = before ++ [.ran part (.panicked message)] ∧
      ((∀ level error, part ≠ .handler level error) →
        ∀ mark ∈ before, asksHandler mark = false) := by
  obtain ⟨ended, before, shape, quiet⟩ :=
    last_of_final course panics (reach_panicked hook message)
  refine ⟨ended, before, shape, fun noHandler => quiet ?_⟩
  cases part with
  | handler level error => exact absurd rfl (noHandler level error)
  | _ => simp [station]

/-! ## From an event on -/

/-- What becomes of failures on a course. -/
structure Contained (d : Dispatcher σ) (inv : Invocation σ) (legs : List (Leg σ))
    (m : Moment σ) : Prop where
  /-- If no hook, no error handler and no binding panics, handling that is over has routed the first
  failure once, and has routed nothing if there was none. -/
  routed : HooksReturn (trace legs) → (m.perform d).1 = .finished →
    Settled inv.command (Unhandled inv legs) (trace legs) (firstFailure inv.name (trace legs))
  /-- The journal is told of every error handler that failed. -/
  noted : ∀ leg ∈ legs, ∃ written,
    leg.after.service.journal.toList = leg.before.journal.toList ++ written ∧
      (leg.marks.filterMap (entryOf inv)).Sublist written
  counted : ∀ leg ∈ legs, leg.after.service.metrics.handlerFailures =
    leg.before.metrics.handlerFailures + failures leg.marks
  /-- A hook or an error handler that panics ends the handling, and no handler is asked about it. -/
  escapes : ∀ part message, Mark.ran part (.panicked message) ∈ trace legs → part ≠ .body →
    (m.perform d).1 = .finished ∧
      ∃ before, trace legs = before ++ [.ran part (.panicked message)] ∧
        ((∀ level error, part ≠ .handler level error) →
          ∀ mark ∈ before, asksHandler mark = false)
  /-- So does a panic while the arguments are bound. -/
  breaks : Mark.bound (some .panicked) ∈ trace legs →
    (m.perform d).1 = .finished ∧ ∃ before, trace legs = before ++ [.bound (some .panicked)] ∧
      ∀ mark ∈ before, asksHandler mark = false

theorem contained_of_course (course : Course d inv legs m) : Contained d inv legs m where
  routed returns finished := settled_of_legal (legal_of_finished course returns finished)
  noted := noted_of_course course
  counted := failures_of_course course
  escapes part message panics hook := by
    obtain ⟨ended, last⟩ := last_of_panic course panics hook
    obtain ⟨inv, point, s⟩ := m
    cases ended
    exact ⟨rfl, last⟩
  breaks told := by
    obtain ⟨ended, before, shape, quiet⟩ := last_of_final course told rfl
    obtain ⟨inv, point, s⟩ := m
    cases ended
    exact ⟨rfl, before, shape, quiet (by decide)⟩

/-- Whatever the event, handling comes to its end unless code has to wait. An event that nobody is
meant by ends at once, and so does a line that names no command unless such lines are reported; then
the end of the dispatcher's handler is the end, and its failure is noted. An invocation, taken up as
often as it takes, routes its first failure to the handlers once and notes their failures, as long
as no hook and no error handler panics, nor the binding of the arguments. -/
theorem failures_routed_unless_hook_panics {ci : Bool} {changes : List (Change σ)}
    (d : Dispatcher σ) (s : Service σ) (e : Event) (built : s.registry = grown ci changes) :
    (Unheard d e → (d.dispatch e s).1 = .finished) ∧
    (∀ lead line error, Unresolved d s e lead line error →
      let ctx := openContext d s e lead
      let asked := refused ctx error (met s)
      (d.settings.dispatch.reportNotFound = false → d.dispatch e s = (.finished, asked)) ∧
      (d.settings.dispatch.reportNotFound = true → ∀ times outcome t,
        Ends (openRunner ctx) ((d.hooks.onError ctx error).run (openRunner ctx) asked)
            times outcome t →
          times.foldl (fun r later => d.resume r.1 later) (d.dispatch e s) =
            (.finished, afterReport ctx error outcome t))) ∧
    ∀ lead line target, (d.settings.dispatch.ignoreBots && e.author.bot) = false →
      splitLead? d.leads d.settings.dispatch.stripAfterLead e.content = some (lead, line) →
      s.registry.resolve line = .ok target → ∀ times,
        let inv := begunBy d s e lead target
        (∃ legs m, Course d inv legs m ∧ legs.map Leg.before = met s :: times) ∧
        ∀ legs m, Course d inv legs m → legs.map Leg.before = met s :: times →
          times.foldl (fun r later => d.resume r.1 later) (d.dispatch e s) = m.perform d ∧
            Contained d inv legs m := by
  refine ⟨fun unheard => (dispatch_of_unheard unheard s).1, ?_, ?_⟩
  · intro lead line error unresolved ctx asked
    have answer : d.dispatch e s = d.refuseLine ctx error (met s) :=
      dispatch_of_unresolved unresolved
    rw [refuseLine_eq] at answer
    refine ⟨fun silent => by simpa [silent] using answer, fun reports times outcome t ends => ?_⟩
    rw [reports, if_pos rfl] at answer
    rw [answer]
    exact goOnUnresolved_of_ends ends
  · intro lead line target heard addressed resolved times inv
    have orderly : Orderly ci s.registry := built ▸ grown_orderly ci changes
    have runs : inv.command.parts.body.isSome := LongestDescent.body_of_resolve orderly resolved
    refine ⟨exists_course d inv runs (met s) times, fun legs m course served => ?_⟩
    obtain ⟨began, later, same, comes⟩ := perform_of_course course
    cases served.symm.trans same
    rw [dispatch_of_resolved heard addressed resolved]
    exact ⟨comes, contained_of_course course⟩

/-- Its hook before the body ends in some way, and its own handler settles every error. -/
def ping (before : Outcome) : CommandParts Unit where
  name := "ping"
  before := some fun _ => .stop before
  body := some fun _ _ => .done
  onError := some fun _ _ => .done

def plain : Dispatcher Unit where
  directory := .ofLists [] [] [] []

def ready (before : Outcome) : Service Unit where
  app := ()
  registry := grown false [.register (.declare (ping before) false [])]

def call : Event where
  author := { id := 1, name := "" }
  origin := ⟨.direct, none, { id := 9, name := "" }⟩
  content := "!ping"
  responder := .discard

def found (before : Outcome) : Resolved Unit :=
  ⟨{ qualified := "ping", parts := ping before }, [], "ping", [], ""⟩

theorem call_addressed :
    splitLead? plain.leads plain.settings.dispatch.stripAfterLead call.content =
      some ("!", "ping") := by
  simp only [Dispatcher.leads, plain, List.mergeSort_singleton]
  decide

/-- The invocation that the call begins. -/
def begun (before : Outcome) : Invocation Unit :=
  begunBy plain (ready before) call "!" (found before)

def boom : Fault := ⟨"boom", []⟩

/-- A hook that fails is reported to the command's own handler. -/
theorem failing_hook_reported_once :
    (ready (.failed boom)).registry.resolve "ping" = .ok (found (.failed boom)) ∧
      ∃ legs m, Course plain (begun (.failed boom)) legs m ∧
        plain.dispatch call (ready (.failed boom)) = m.perform plain ∧
        (m.perform plain).1 = .finished ∧
        Settled (begun (.failed boom)).command (Unhandled (begun (.failed boom)) legs)
          (trace legs) (some (.invoke "ping" boom)) := by
  have resolved : (ready (.failed boom)).registry.resolve "ping" = .ok (found (.failed boom)) := rfl
  obtain ⟨marks, m, goes, returns, finished, fails⟩ :
      ∃ marks m, Goes plain ⟨begun (.failed boom), .arrived, met (ready (.failed boom))⟩ marks m ∧
        (∀ mark ∈ marks, panicsInHook mark = false) ∧ (m.perform plain).1 = .finished ∧
        firstFailure "ping" marks = some (.invoke "ping" boom) := by
    refine ⟨_, _, .step id (.passed rfl) <| .step id (.cooled returns_done rfl) <|
      .step id (.unlimited rfl) <| .step id (.bound rfl rfl) <| .step id (.beforeCommand rfl) <|
      .step id .beforeCommandFailed <| .step id (.noAfterCommand rfl) <|
      .step id (.afterGlobal returns_done) <| .step id (.failed returns_done rfl) <|
      .step id .reported <| .step id (.commandHandler rfl) <| .step id .settled <|
      .stop trivial, ?_, rfl, rfl⟩
    decide
  have whole : trace [⟨met (ready (.failed boom)), marks, m⟩] = marks := List.flatMap_singleton ..
  obtain ⟨comes, contained⟩ := ((failures_routed_unless_hook_panics plain (ready (.failed boom))
    call rfl).2.2 "!" "ping" (found (.failed boom)) rfl call_addressed resolved []).2 _ m
    (.begun goes) rfl
  have settled := contained.routed (by rwa [whole]) finished
  refine ⟨resolved, _, m, .begun goes, comes, finished, ?_⟩
  rw [whole] at settled ⊢
  rw [← fails]
  exact settled

/-- A hook that panics ends the call. Its command's handler is not asked, and the journal is told
nothing. -/
theorem panicking_hook_reaches_nobody :
    let panic : Outcome := .panicked (some "boom")
    ∃ legs m, Course plain (begun panic) legs m ∧
      plain.dispatch call (ready panic) = m.perform plain ∧ (m.perform plain).1 = .finished ∧
      Mark.ran .beforeCommand panic ∈ trace legs ∧
      (∀ mark ∈ trace legs, asksHandler mark = false) ∧ (m.perform plain).2.journal = #[] := by
  have resolved : (ready (.panicked (some "boom"))).registry.resolve "ping" =
      .ok (found (.panicked (some "boom"))) := rfl
  obtain ⟨marks, m, goes, finished, panics, quiet, silent⟩ :
      ∃ marks m, Goes plain ⟨begun (.panicked (some "boom")), .arrived,
          met (ready (.panicked (some "boom")))⟩ marks m ∧ (m.perform plain).1 = .finished ∧
        Mark.ran .beforeCommand (.panicked (some "boom")) ∈ marks ∧
        (∀ mark ∈ marks, asksHandler mark = false) ∧ (m.perform plain).2.journal = #[] := by
    refine ⟨_, _, .step id (.passed rfl) <| .step id (.cooled returns_done rfl) <|
      .step id (.unlimited rfl) <| .step id (.bound rfl rfl) <| .step id (.beforeCommand rfl) <|
      .step id (.panicked nofun) <| .stop trivial, rfl, ?_, ?_, rfl⟩
    · simp [told, launch, staged, Script.run, partOf]
    · decide
  have whole : trace [⟨met (ready (.panicked (some "boom"))), marks, m⟩] = marks :=
    List.flatMap_singleton ..
  refine ⟨_, m, .begun goes, ?_, finished, by rwa [whole], by rwa [whole], silent⟩
  rw [dispatch_of_resolved rfl call_addressed resolved]
  exact perform_of_goes goes

end ChatCommands.RoutedFailures
