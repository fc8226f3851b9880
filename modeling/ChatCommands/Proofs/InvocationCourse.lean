import ChatCommands.Dispatch.Invocation
import Mathlib.Data.List.Induction
import Mathlib.Order.WellFounded

/-! The course of an invocation. The functions that handle an event call one another until a script
has to wait. Here the points between their calls have names. One step leads from a point to the
next and leaves marks of what was decided and what was run (`Step`), and each function does what
the step at its point does (`perform_of_step`). A leg is made of the steps up to a wait, and a
course of the legs from the event on, whatever others do to the service in between. -/
namespace ChatCommands.InvocationCourse
open Dispatcher

variable {σ : Type} {d : Dispatcher σ}

/-- Code that an invocation runs on its way. -/
inductive Part where
  | onCommand
  | beforeCommand
  | beforeGlobal
  | body
  | afterCommand
  | afterGlobal
  | completion
  /-- A handler is asked about one error. -/
  | handler (level : HandlerLevel) (error : CommandError)

/-- The part that a stage runs. -/
def partOf : Stage → Part
  | .onCommand => .onCommand
  | .beforeCommand _ => .beforeCommand
  | .beforeGlobal _ => .beforeGlobal
  | .body => .body
  | .afterCommand _ => .afterCommand
  | .afterGlobal _ _ => .afterGlobal
  | .completion => .completion
  | .handler level error => .handler level error

/-- What can be told of an invocation. A refusal is the error that it is reported with, unless that is
a panic. -/
inductive Mark where
  /-- Whether commands are enabled was tested, and all checks asked. -/
  | checked (refusal : Option CommandError)
  /-- A part ran and ended. -/
  | ran (part : Part) (outcome : Outcome)
  /-- There is no such part. -/
  | lacks (part : Part)
  /-- The cooldowns counted the invocation. -/
  | cooled (refusal : Option CommandError)
  /-- The command has no rule for slots. -/
  | unlimited
  /-- It took a place in line. -/
  | inLine
  /-- A slot was given or refused. -/
  | slot (refusal : Option CommandError)
  /-- The arguments were bound. -/
  | bound (refusal : Option CommandError)

/-- Where an invocation stands. -/
inductive Point (σ : Type) where
  /-- Before the checks. -/
  | arrived
  /-- A stage's script has ended. -/
  | left (stage : Stage) (outcome : Outcome)
  /-- Before the slots. -/
  | entering
  /-- Before the binding of arguments. -/
  | binding
  /-- Before the hooks before the body. -/
  | preparing (args : Args)
  /-- Before the hooks after the body, which failed with `failure` if at all. -/
  | leaving (failure : Option Fault)
  /-- Before the end, with what the invocation came to. -/
  | concluding (result : Except CommandError Unit)
  /-- Before an error handler. -/
  | asking (level : HandlerLevel) (error : CommandError)
  /-- A stage's script waits. -/
  | waiting (stage : Stage) (pause : Pause σ)
  /-- In line for a slot. -/
  | queued (place : Place)
  /-- The handling is over. -/
  | ended

/-- An invocation at a point, with the service. -/
structure Moment (σ : Type) where
  inv : Invocation σ
  point : Point σ
  service : Service σ

/-- What handling does from a moment on. -/
def Moment.perform (d : Dispatcher σ) : Moment σ → Handling σ × Service σ
  | ⟨inv, .arrived, s⟩ => d.invoke inv s
  | ⟨inv, .left stage outcome, s⟩ => d.nextOf inv stage outcome s
  | ⟨inv, .entering, s⟩ => d.enterSlot inv s
  | ⟨inv, .binding, s⟩ => d.bindArguments inv s
  | ⟨inv, .preparing args, s⟩ => d.runBefore inv args s
  | ⟨inv, .leaving failure, s⟩ => d.runAfter inv failure s
  | ⟨inv, .concluding result, s⟩ => d.conclude inv result s
  | ⟨inv, .asking .command error, s⟩ => d.report inv error s
  | ⟨inv, .asking .module error, s⟩ => d.askModule inv error s
  | ⟨inv, .asking .global error, s⟩ => d.askGlobal inv error s
  | ⟨inv, .waiting stage pause, s⟩ => (.staged inv stage pause, s)
  | ⟨inv, .queued place, s⟩ => (.queued inv place, s)
  | ⟨_, .ended, s⟩ => (.finished, s)

/-- Nothing goes on by itself. -/
def Point.AtRest : Point σ → Prop
  | .waiting _ _ | .queued _ | .ended => True
  | _ => False

/-- The handling of an event may be kept at a point, for something to wait for or because it is over.
Apart from where nothing goes on by itself that is where checks are asked and where arguments are
bound. -/
def Point.Suspends : Point σ → Prop
  | .arrived | .binding | .waiting _ _ | .queued _ | .ended => True
  | _ => False

theorem Point.AtRest.suspends {point : Point σ} (rests : point.AtRest) : point.Suspends := by
  cases point with
  | waiting | queued | ended => trivial
  | _ => exact absurd rests id

/-! ## Steps -/

/-- A part ends without a panic. -/
def Returns (outcome : Outcome) : Prop := ∀ message, outcome ≠ .panicked message

/-- The failure that a body's end counts as, if at all. -/
def bodyFault : Outcome → Option Fault
  | .done => none
  | .failed fault => some fault
  | .panicked message => some (panicFault message)

/-- A stage whose script got as far as `progress`. -/
def staged (inv : Invocation σ) (stage : Stage) : Progress σ × Service σ → List Mark × Moment σ
  | (.ended outcome, s) => ([.ran (partOf stage) outcome], ⟨inv, .left stage outcome, s⟩)
  | (.paused pause, s) => ([], ⟨inv, .waiting stage pause, s⟩)

/-- A stage that begins with its script. -/
def launch (inv : Invocation σ) (stage : Stage) (script : Script σ) (s : Service σ) :
    List Mark × Moment σ :=
  staged inv stage (script.run inv.runner s)

/-- A step with one more mark before it. -/
def told (mark : Mark) (step : List Mark × Moment σ) : List Mark × Moment σ :=
  (mark :: step.1, step.2)

/-- The service of an invocation that found no slot. -/
def turnedAway (inv : Invocation σ) (max : Nat) (s : Service σ) : Service σ :=
  { s with metrics := s.metrics.rejection inv.name }.note (some inv.span)
    ⟨.debug, .concurrency, "concurrency limit reached",
      [("command", inv.name), ("max", toString max)]⟩

/-- The service of an invocation that took a place in line. -/
def lined (inv : Invocation σ) (s : Service σ) : Service σ :=
  s.note (some inv.span)
    ⟨.debug, .concurrency, "waiting for concurrency slot", [("command", inv.name)]⟩

/-- The steps of an invocation, with the marks they leave. At a wait the step is what follows if the
wait is over. -/
inductive Step (d : Dispatcher σ) : Moment σ → List Mark × Moment σ → Prop where
  | refused {inv s error} (checks : d.passChecks inv s = .error error) :
      Step d ⟨inv, .arrived, s⟩
        ([.checked (some error)], ⟨inv, .concluding (.error error), s⟩)
  | passed {inv s} (checks : d.passChecks inv s = .ok ()) :
      Step d ⟨inv, .arrived, s⟩
        (told (.checked none) (launch inv .onCommand (d.hooks.onCommand inv.ctx) s))
  | cooled {inv s t outcome} (returns : Returns outcome)
      (counts : s.acquire (some inv.span) inv.command inv.ctx = (none, t)) :
      Step d ⟨inv, .left .onCommand outcome, s⟩ ([.cooled none], ⟨inv, .entering, t⟩)
  | denied {inv s t outcome denial} (returns : Returns outcome)
      (counts : s.acquire (some inv.span) inv.command inv.ctx = (some denial, t)) :
      Step d ⟨inv, .left .onCommand outcome, s⟩
        ([.cooled (some (.onCooldown inv.name denial.rule.terms denial.wait))],
          ⟨inv, .concluding (.error (.onCooldown inv.name denial.rule.terms denial.wait)),
            { t with metrics := t.metrics.denial inv.name }⟩)
  | unlimited {inv s} (rule : inv.command.parts.concurrency = none) :
      Step d ⟨inv, .entering, s⟩ ([.unlimited], ⟨inv, .binding, s⟩)
  | admitted {inv s rule admission slots} (limited : inv.command.parts.concurrency = some rule)
      (enters : s.slots.enter (Slots.keyFor inv.name rule inv.ctx) rule =
        (.admitted admission, slots)) :
      Step d ⟨inv, .entering, s⟩
        ([.slot none],
          ⟨{ inv with admission := some admission }, .binding, { s with slots := slots }⟩)
  | saturated {inv s rule max slots} (limited : inv.command.parts.concurrency = some rule)
      (enters : s.slots.enter (Slots.keyFor inv.name rule inv.ctx) rule = (.saturated max, slots)) :
      Step d ⟨inv, .entering, s⟩
        ([.slot (some (.maxConcurrencyReached inv.name rule.number rule.per.name))],
          ⟨inv, .concluding (.error (.maxConcurrencyReached inv.name rule.number rule.per.name)),
            turnedAway inv max { s with slots := slots }⟩)
  | queued {inv s rule place slots} (limited : inv.command.parts.concurrency = some rule)
      (enters : s.slots.enter (Slots.keyFor inv.name rule inv.ctx) rule = (.queued place, slots)) :
      Step d ⟨inv, .entering, s⟩
        ([.inLine], ⟨inv, .queued place, lined inv { s with slots := slots }⟩)
  | unbound {inv s error}
      (binds : Binding.bind d.converters d.quotes inv.ctx inv.name inv.command.parts.params
        inv.command.parts.ignoreExtra = .error error) (handled : error.isPanic = false) :
      Step d ⟨inv, .binding, s⟩ ([.bound (some error)], ⟨inv, .concluding (.error error), s⟩)
  | broken {inv s}
      (binds : Binding.bind d.converters d.quotes inv.ctx inv.name inv.command.parts.params
        inv.command.parts.ignoreExtra = .error .panicked) :
      Step d ⟨inv, .binding, s⟩
        ([.bound (some .panicked)], ⟨{ inv with admission := none }, .ended, s.releaseSlot inv⟩)
  | bound {inv s args} (body : inv.command.parts.body.isSome)
      (binds : Binding.bind d.converters d.quotes inv.ctx inv.name inv.command.parts.params
        inv.command.parts.ignoreExtra = .ok args) :
      Step d ⟨inv, .binding, s⟩
        ([.bound none], ⟨inv, .preparing args,
          { s with registry := s.registry.recordUse inv.target.root.serial inv.command }⟩)
  | beforeCommand {inv s args hook} (has : inv.command.parts.before = some hook) :
      Step d ⟨inv, .preparing args, s⟩ (launch inv (.beforeCommand args) (hook inv.ctx) s)
  | noBeforeCommand {inv s args} (lacks : inv.command.parts.before = none) :
      Step d ⟨inv, .preparing args, s⟩
        ([.lacks .beforeCommand], ⟨inv, .left (.beforeCommand args) .done, s⟩)
  | beforeCommandFailed {inv s args fault} :
      Step d ⟨inv, .left (.beforeCommand args) (.failed fault), s⟩
        ([], ⟨inv, .leaving (some fault), s⟩)
  | beforeGlobal {inv s args} :
      Step d ⟨inv, .left (.beforeCommand args) .done, s⟩
        (launch inv (.beforeGlobal args) (d.hooks.before inv.ctx) s)
  | beforeGlobalFailed {inv s args fault} :
      Step d ⟨inv, .left (.beforeGlobal args) (.failed fault), s⟩
        ([], ⟨inv, .leaving (some fault), s⟩)
  | body {inv s args body} (has : inv.command.parts.body = some body) :
      Step d ⟨inv, .left (.beforeGlobal args) .done, s⟩ (launch inv .body (body inv.ctx args) s)
  | worked {inv s outcome} :
      Step d ⟨inv, .left .body outcome, s⟩ ([], ⟨inv, .leaving (bodyFault outcome), s⟩)
  | afterCommand {inv s failure hook} (has : inv.command.parts.after = some hook) :
      Step d ⟨inv, .leaving failure, s⟩ (launch inv (.afterCommand failure) (hook inv.ctx) s)
  | noAfterCommand {inv s failure} (lacks : inv.command.parts.after = none) :
      Step d ⟨inv, .leaving failure, s⟩
        ([.lacks .afterCommand], ⟨inv, .left (.afterCommand failure) .done, s⟩)
  | afterGlobal {inv s failure outcome} (returns : Returns outcome) :
      Step d ⟨inv, .left (.afterCommand failure) outcome, s⟩
        (launch inv (.afterGlobal failure (faultOf outcome)) (d.hooks.after inv.ctx) s)
  | failed {inv s failure hook outcome fault} (returns : Returns outcome)
      (fails : (failure.or hook).or (faultOf outcome) = some fault) :
      Step d ⟨inv, .left (.afterGlobal failure hook) outcome, s⟩
        ([], ⟨inv, .concluding (.error (.invoke inv.name fault)), s.countCommand inv⟩)
  | succeeded {inv s failure hook outcome} (returns : Returns outcome)
      (succeeds : (failure.or hook).or (faultOf outcome) = none) :
      Step d ⟨inv, .left (.afterGlobal failure hook) outcome, s⟩
        ([], ⟨inv, .concluding (.ok ()), s.countCommand inv⟩)
  | completion {inv s} :
      Step d ⟨inv, .concluding (.ok ()), s⟩
        (launch { inv with admission := none } .completion (d.hooks.onCompletion inv.ctx)
          ((s.releaseSlot inv).note (some inv.span)
            ⟨.debug, .dispatcher, "Command completed", []⟩))
  | reported {inv s error} :
      Step d ⟨inv, .concluding (.error error), s⟩
        ([], ⟨{ inv with admission := none }, .asking .command error, s.releaseSlot inv⟩)
  | completed {inv s outcome} (returns : Returns outcome) :
      Step d ⟨inv, .left .completion outcome, s⟩ ([], ⟨inv, .ended, s⟩)
  | commandHandler {inv s error handler} (has : inv.command.parts.onError = some handler) :
      Step d ⟨inv, .asking .command error, s⟩
        (launch inv (.handler .command error) (handler inv.ctx error)
          { s with metrics := s.metrics.error inv.name error.code })
  | noCommandHandler {inv s error} (lacks : inv.command.parts.onError = none) :
      Step d ⟨inv, .asking .command error, s⟩
        ([.lacks (.handler .command error)],
          ⟨inv, .asking .module error, { s with metrics := s.metrics.error inv.name error.code }⟩)
  | moduleHandler {inv s error handler}
      (has : (s.moduleOf? inv.target.root).bind (·.onError) = some handler) :
      Step d ⟨inv, .asking .module error, s⟩
        (launch inv (.handler .module error) (handler inv.ctx error) s)
  | noModuleHandler {inv s error}
      (lacks : (s.moduleOf? inv.target.root).bind (·.onError) = none) :
      Step d ⟨inv, .asking .module error, s⟩
        ([.lacks (.handler .module error)], ⟨inv, .asking .global error, s⟩)
  | globalHandler {inv s error} :
      Step d ⟨inv, .asking .global error, s⟩
        (launch inv (.handler .global error) (d.hooks.onError inv.ctx error) s)
  | settled {inv s level error} :
      Step d ⟨inv, .left (.handler level error) .done, s⟩ ([], ⟨inv, .ended, s⟩)
  | commandHandlerFailed {inv s error failure} :
      Step d ⟨inv, .left (.handler .command error) (.failed failure), s⟩
        ([], ⟨inv, .asking .module error, s.handlerFailed inv.span inv.ctx error failure⟩)
  | moduleHandlerFailed {inv s error failure} :
      Step d ⟨inv, .left (.handler .module error) (.failed failure), s⟩
        ([], ⟨inv, .asking .global error, s.handlerFailed inv.span inv.ctx error failure⟩)
  | globalHandlerFailed {inv s error failure} :
      Step d ⟨inv, .left (.handler .global error) (.failed failure), s⟩
        ([], ⟨inv, .ended, s.handlerFailed inv.span inv.ctx error failure⟩)
  | panicked {inv s stage message} (hook : stage ≠ .body) :
      Step d ⟨inv, .left stage (.panicked message), s⟩ ([], ⟨inv, .ended, s.abandon inv stage⟩)
  | woken {inv s stage pause} :
      Step d ⟨inv, .waiting stage pause, s⟩ (staged inv stage (pause.resume inv.runner s))
  | called {inv s place admission slots}
      (receives : s.slots.receive place = some (admission, slots)) :
      Step d ⟨inv, .queued place, s⟩
        ([.slot none],
          ⟨{ inv with admission := some admission }, .binding, { s.spend with slots := slots }⟩)
  | inLine {inv s place} (receives : s.slots.receive place = none) :
      Step d ⟨inv, .queued place, s⟩ ([], ⟨inv, .queued place, s⟩)
  | ended {inv s} : Step d ⟨inv, .ended, s⟩ ([], ⟨inv, .ended, s⟩)

/-! ## Steps and the code -/

/-- An end without a panic is success or failure. -/
@[elab_as_elim] theorem Returns.cases {motive : Outcome → Prop} {outcome : Outcome}
    (returns : Returns outcome) (done : motive .done)
    (failed : ∀ fault, motive (.failed fault)) : motive outcome := by
  cases outcome with
  | done => exact done
  | failed fault => exact failed fault
  | panicked message => exact absurd rfl (returns message)

theorem returns_or_panics (outcome : Outcome) :
    Returns outcome ∨ ∃ message, outcome = .panicked message := by
  cases outcome with
  | panicked message => exact .inr ⟨message, rfl⟩
  | _ => exact .inl fun _ => nofun

theorem exists_step_left (inv : Invocation σ) (runs : inv.command.parts.body.isSome)
    (stage : Stage) (outcome : Outcome) (s : Service σ) :
    ∃ r, Step d ⟨inv, .left stage outcome, s⟩ r := by
  cases stage with
  | body => exact ⟨_, .worked⟩
  | onCommand =>
    rcases returns_or_panics outcome with returns | ⟨message, rfl⟩
    · rcases counts : s.acquire (some inv.span) inv.command inv.ctx with ⟨_ | denial, t⟩
      · exact ⟨_, .cooled returns counts⟩
      · exact ⟨_, .denied returns counts⟩
    · exact ⟨_, .panicked nofun⟩
  | beforeCommand args =>
    cases outcome with
    | done => exact ⟨_, .beforeGlobal⟩
    | failed fault => exact ⟨_, .beforeCommandFailed⟩
    | panicked message => exact ⟨_, .panicked nofun⟩
  | beforeGlobal args =>
    cases outcome with
    | done =>
      obtain ⟨body, has⟩ := Option.isSome_iff_exists.1 runs
      exact ⟨_, .body has⟩
    | failed fault => exact ⟨_, .beforeGlobalFailed⟩
    | panicked message => exact ⟨_, .panicked nofun⟩
  | afterCommand failure =>
    rcases returns_or_panics outcome with returns | ⟨message, rfl⟩
    · exact ⟨_, .afterGlobal returns⟩
    · exact ⟨_, .panicked nofun⟩
  | afterGlobal failure hook =>
    rcases returns_or_panics outcome with returns | ⟨message, rfl⟩
    · cases ends : (failure.or hook).or (faultOf outcome) with
      | some fault => exact ⟨_, .failed returns ends⟩
      | none => exact ⟨_, .succeeded returns ends⟩
    · exact ⟨_, .panicked nofun⟩
  | completion =>
    rcases returns_or_panics outcome with returns | ⟨message, rfl⟩
    · exact ⟨_, .completed returns⟩
    · exact ⟨_, .panicked nofun⟩
  | handler level error =>
    cases outcome with
    | done => exact ⟨_, .settled⟩
    | failed failure =>
      cases level with
      | command => exact ⟨_, .commandHandlerFailed⟩
      | module => exact ⟨_, .moduleHandlerFailed⟩
      | global => exact ⟨_, .globalHandlerFailed⟩
    | panicked message => exact ⟨_, .panicked nofun⟩

/-- There is a step at every moment of an invocation whose command has a body. -/
theorem exists_step (d : Dispatcher σ) (m : Moment σ) (runs : m.inv.command.parts.body.isSome) :
    ∃ r, Step d m r := by
  obtain ⟨inv, point, s⟩ := m
  cases point with
  | arrived =>
    cases checks : d.passChecks inv s with
    | error error => exact ⟨_, .refused checks⟩
    | ok => exact ⟨_, .passed checks⟩
  | left stage outcome => exact exists_step_left inv runs stage outcome s
  | entering =>
    cases rule : inv.command.parts.concurrency with
    | none => exact ⟨_, .unlimited rule⟩
    | some limit =>
      rcases enters : s.slots.enter (Slots.keyFor inv.name limit inv.ctx) limit with
        ⟨admission | max | place, slots⟩
      · exact ⟨_, .admitted rule enters⟩
      · exact ⟨_, .saturated rule enters⟩
      · exact ⟨_, .queued rule enters⟩
  | binding =>
    cases binds : Binding.bind d.converters d.quotes inv.ctx inv.name inv.command.parts.params
        inv.command.parts.ignoreExtra with
    | error error =>
      cases error with
      | panicked => exact ⟨_, .broken binds⟩
      | _ => exact ⟨_, .unbound binds rfl⟩
    | ok args => exact ⟨_, .bound runs binds⟩
  | preparing args =>
    cases has : inv.command.parts.before with
    | some hook => exact ⟨_, .beforeCommand has⟩
    | none => exact ⟨_, .noBeforeCommand has⟩
  | leaving failure =>
    cases has : inv.command.parts.after with
    | some hook => exact ⟨_, .afterCommand has⟩
    | none => exact ⟨_, .noAfterCommand has⟩
  | concluding result =>
    cases result with
    | ok => exact ⟨_, .completion⟩
    | error error => exact ⟨_, .reported⟩
  | asking level error =>
    cases level with
    | command =>
      cases has : inv.command.parts.onError with
      | some handler => exact ⟨_, .commandHandler has⟩
      | none => exact ⟨_, .noCommandHandler has⟩
    | module =>
      cases has : (s.moduleOf? inv.target.root).bind (·.onError) with
      | some handler => exact ⟨_, .moduleHandler has⟩
      | none => exact ⟨_, .noModuleHandler has⟩
    | global => exact ⟨_, .globalHandler⟩
  | waiting stage pause => exact ⟨_, .woken⟩
  | queued place =>
    rcases receives : s.slots.receive place with _ | ⟨admission, slots⟩
    · exact ⟨_, .inLine receives⟩
    · exact ⟨_, .called receives⟩
  | ended => exact ⟨_, .ended⟩

theorem perform_staged (inv : Invocation σ) (stage : Stage) (r : Progress σ × Service σ) :
    (staged inv stage r).2.perform d = goOn inv stage (d.nextOf inv stage) r := by
  obtain ⟨progress, s⟩ := r
  cases progress <;> rfl

theorem perform_launch (inv : Invocation σ) (stage : Stage) (script : Script σ) (s : Service σ) :
    (launch inv stage script s).2.perform d = begin inv stage script (d.nextOf inv stage) s :=
  perform_staged inv stage _

theorem afterOnCommand_of_returns {inv : Invocation σ} {outcome : Outcome}
    (returns : Returns outcome) (s : Service σ) :
    d.afterOnCommand inv outcome s = d.passCooldowns inv s :=
  returns.cases rfl fun _ => rfl

theorem runAfterGlobal_of_returns {inv : Invocation σ} {outcome : Outcome}
    (returns : Returns outcome) (failure : Option Fault) (s : Service σ) :
    d.runAfterGlobal inv failure outcome s =
      begin inv (.afterGlobal failure (faultOf outcome)) (d.hooks.after inv.ctx)
        (d.finishBody inv failure (faultOf outcome)) s :=
  returns.cases rfl fun _ => rfl

theorem finishBody_of_returns {inv : Invocation σ} {outcome : Outcome}
    (returns : Returns outcome) (failure hook : Option Fault) (s : Service σ) :
    d.finishBody inv failure hook outcome s =
      match (failure.or hook).or (faultOf outcome) with
      | some fault => d.conclude inv (.error (.invoke inv.name fault)) (s.countCommand inv)
      | none => d.conclude inv (.ok ()) (s.countCommand inv) :=
  returns.cases rfl fun _ => rfl

/-- Handling comes to what it comes to after the step. -/
theorem perform_of_step {m : Moment σ} {r : List Mark × Moment σ} (step : Step d m r)
    (moves : ¬ m.point.AtRest) : m.perform d = r.2.perform d := by
  cases step with
  | woken | called | inLine | ended => exact absurd trivial moves
  | beforeCommandFailed | beforeGlobalFailed | reported | completed | commandHandlerFailed
  | moduleHandlerFailed | globalHandlerFailed => rfl
  | @settled inv s level error => cases level <;> rfl
  | @worked inv s outcome => cases outcome <;> rfl
  | @panicked inv s stage message hook =>
    rcases stage with _ | _ | _ | _ | _ | _ | _ | ⟨_ | _ | _⟩ <;>
      first | rfl | exact absurd rfl hook
  | refused checks => simp only [Moment.perform, invoke, checks]
  | passed checks =>
    refine Eq.trans ?_ (perform_launch _ _ _ _).symm
    simp only [Moment.perform, invoke, checks]
    rfl
  | cooled returns counts | denied returns counts =>
    simp only [Moment.perform, nextOf, afterOnCommand_of_returns returns, passCooldowns, counts]
  | unlimited rule => simp only [Moment.perform, enterSlot, rule]
  | admitted limited enters | saturated limited enters | queued limited enters =>
    simp only [Moment.perform, enterSlot, limited, enters, turnedAway, lined]
  | @unbound inv s error binds handled =>
    simp only [Moment.perform, bindArguments, binds]
    cases error with
    | panicked => contradiction
    | _ => rfl
  | broken binds => simp only [Moment.perform, bindArguments, binds]
  | bound runs binds =>
    obtain ⟨body, has⟩ := Option.isSome_iff_exists.1 runs
    simp [Moment.perform, bindArguments, binds, has]
  | beforeGlobal | completion | globalHandler =>
    refine Eq.trans ?_ (perform_launch _ _ _ _).symm
    rfl
  | beforeCommand has | body has | afterCommand has | commandHandler has | moduleHandler has =>
    refine Eq.trans ?_ (perform_launch _ _ _ _).symm
    simp only [Moment.perform, nextOf, runBefore, runBody, runAfter, report, askModule, has]
  | noBeforeCommand lacks | noAfterCommand lacks | noCommandHandler lacks | noModuleHandler lacks =>
    simp only [Moment.perform, nextOf, runBefore, runAfter, report, askModule, lacks]
  | afterGlobal returns =>
    refine Eq.trans ?_ (perform_launch _ _ _ _).symm
    exact runAfterGlobal_of_returns returns _ _
  | failed returns ends | succeeded returns ends =>
    simp only [Moment.perform, nextOf, finishBody_of_returns returns, ends]

/-- What waits is taken up by the step. -/
theorem resume_of_step {m : Moment σ} {r : List Mark × Moment σ} {later : Service σ}
    (step : Step d { m with service := later } r) (rests : m.point.AtRest) :
    d.resume (m.perform d).1 later = r.2.perform d := by
  obtain ⟨inv, point, s⟩ := m
  cases step with
  | woken => exact (perform_staged _ _ _).symm
  | called receives | inLine receives => simp only [Moment.perform, resume, receives]
  | ended => rfl
  | _ => exact absurd rests id

theorem inv_staged (inv : Invocation σ) (stage : Stage) (r : Progress σ × Service σ) :
    (staged inv stage r).2.inv = inv := by
  obtain ⟨progress, s⟩ := r
  cases progress <;> rfl

/-- An invocation changes nothing about itself but the slot it holds. -/
theorem inv_of_step {m : Moment σ} {r : List Mark × Moment σ} (step : Step d m r) :
    r.2.inv = { m.inv with admission := r.2.inv.admission } := by
  cases step <;> simp [told, launch, inv_staged]

/-- An invocation keeps its command. -/
theorem command_of_step {m : Moment σ} {r : List Mark × Moment σ} (step : Step d m r) :
    r.2.inv.command = m.inv.command := by
  cases step <;> simp [told, launch, inv_staged, Invocation.command]

/-! ## Legs and courses -/

/-- Steps lead from a moment up to the next wait, with their marks. -/
inductive Goes (d : Dispatcher σ) : Moment σ → List Mark → Moment σ → Prop where
  | stop {m : Moment σ} (rests : m.point.AtRest) : Goes d m [] m
  | step {m last : Moment σ} {r : List Mark × Moment σ} {more : List Mark}
      (moves : ¬ m.point.AtRest) (first : Step d m r) (onward : Goes d r.2 more last) :
      Goes d m (r.1 ++ more) last

/-- A part of a course without a wait: the service it finds, its marks, and where it ends. -/
structure Leg (σ : Type) where
  before : Service σ
  marks : List Mark
  after : Moment σ

/-- The legs of an invocation up to a moment. What others do to the service between two legs is left
open. -/
inductive Course (d : Dispatcher σ) (inv : Invocation σ) : List (Leg σ) → Moment σ → Prop where
  | begun {s : Service σ} {marks : List Mark} {m : Moment σ}
      (goes : Goes d ⟨inv, .arrived, s⟩ marks m) : Course d inv [⟨s, marks, m⟩] m
  | resumed {legs : List (Leg σ)} {m last : Moment σ} {later : Service σ}
      {r : List Mark × Moment σ} {more : List Mark} (earlier : Course d inv legs m)
      (first : Step d { m with service := later } r) (goes : Goes d r.2 more last) :
      Course d inv (legs ++ [⟨later, r.1 ++ more, last⟩]) last

/-- All that is told of legs. -/
def trace (legs : List (Leg σ)) : List Mark := legs.flatMap Leg.marks

/-- How many stages can still follow. -/
def stagesFrom : Stage → Nat
  | .onCommand => 9
  | .beforeCommand _ => 7
  | .beforeGlobal _ => 6
  | .body => 5
  | .afterCommand _ => 4
  | .afterGlobal _ _ => 3
  | .completion => 2
  | .handler .command _ => 2
  | .handler .module _ => 1
  | .handler .global _ => 0

/-- A bound on the steps that can still follow. -/
def Point.steps : Point σ → Nat
  | .arrived => 30
  | .left stage _ => 3 * stagesFrom stage + 1
  | .entering => 27
  | .binding => 26
  | .preparing _ => 23
  | .leaving _ => 14
  | .concluding _ => 9
  | .asking .command _ => 8
  | .asking .module _ => 5
  | .asking .global _ => 2
  | .waiting _ _ | .queued _ | .ended => 0

theorem steps_staged (inv : Invocation σ) (stage : Stage) (r : Progress σ × Service σ) :
    (staged inv stage r).2.point.steps ≤ 3 * stagesFrom stage + 1 := by
  obtain ⟨progress, s⟩ := r
  cases progress <;> simp [staged, Point.steps]

theorem steps_of_step {m : Moment σ} {r : List Mark × Moment σ} (step : Step d m r)
    (moves : ¬ m.point.AtRest) : r.2.point.steps < m.point.steps := by
  cases step with
  | woken | called | inLine | ended => exact absurd trivial moves
  | passed | beforeGlobal | completion | globalHandler | beforeCommand | body | afterCommand
  | commandHandler | moduleHandler | afterGlobal =>
    exact (steps_staged _ _ _).trans_lt (by simp [Point.steps, stagesFrom])
  | _ => simp [Point.steps, stagesFrom]

/-- An invocation whose command has a body goes on from every moment up to a wait. -/
theorem exists_goes (d : Dispatcher σ) (m : Moment σ) (runs : m.inv.command.parts.body.isSome) :
    ∃ marks last, Goes d m marks last := by
  induction size : m.point.steps using Nat.strong_induction_on generalizing m with
  | _ size ih =>
    by_cases rests : m.point.AtRest
    · exact ⟨[], m, .stop rests⟩
    · obtain ⟨r, first⟩ := exists_step d m runs
      have still : r.2.inv.command.parts.body.isSome := by rwa [command_of_step first]
      obtain ⟨more, last, onward⟩ := ih _ (size ▸ steps_of_step first rests) r.2 still rfl
      exact ⟨_, last, .step rests first onward⟩

theorem rests_of_goes {m last : Moment σ} {marks : List Mark} (goes : Goes d m marks last) :
    last.point.AtRest := by
  induction goes with
  | stop rests => exact rests
  | step _ _ _ ih => exact ih

theorem command_of_goes {m last : Moment σ} {marks : List Mark} (goes : Goes d m marks last) :
    last.inv.command = m.inv.command := by
  induction goes with
  | stop => rfl
  | step _ first _ ih => exact ih.trans (command_of_step first)

theorem perform_of_goes {m last : Moment σ} {marks : List Mark} (goes : Goes d m marks last) :
    m.perform d = last.perform d := by
  induction goes with
  | stop => rfl
  | step moves first _ ih => exact (perform_of_step first moves).trans ih

variable {inv : Invocation σ} {legs : List (Leg σ)} {m : Moment σ}

theorem rests_of_course (course : Course d inv legs m) : m.point.AtRest := by
  cases course with
  | begun goes | resumed _ _ goes => exact rests_of_goes goes

theorem command_of_course (course : Course d inv legs m) : m.inv.command = inv.command := by
  induction course with
  | begun goes => exact command_of_goes goes
  | resumed _ first goes ih =>
    exact (command_of_goes goes).trans ((command_of_step first).trans ih)

/-- An invocation whose command has a body has a course for whatever services it is taken up at. -/
theorem exists_course (d : Dispatcher σ) (inv : Invocation σ)
    (runs : inv.command.parts.body.isSome) (s : Service σ) (times : List (Service σ)) :
    ∃ legs m, Course d inv legs m ∧ legs.map Leg.before = s :: times := by
  induction times using List.reverseRecOn with
  | nil =>
    obtain ⟨marks, m, goes⟩ := exists_goes d ⟨inv, .arrived, s⟩ runs
    exact ⟨_, m, .begun goes, rfl⟩
  | append_singleton times later ih =>
    obtain ⟨legs, m, earlier, served⟩ := ih
    have still : m.inv.command.parts.body.isSome := by rwa [command_of_course earlier]
    obtain ⟨r, first⟩ := exists_step d { m with service := later } still
    obtain ⟨more, last, goes⟩ := exists_goes d r.2 (by rwa [command_of_step first])
    exact ⟨_, last, .resumed earlier first goes, by simp [served]⟩

/-- A course comes to what beginning an invocation and taking it up again comes to. -/
theorem perform_of_course (course : Course d inv legs m) :
    ∃ s times, legs.map Leg.before = s :: times ∧
      times.foldl (fun r later => d.resume r.1 later) (d.invoke inv s) = m.perform d := by
  induction course with
  | @begun s marks m goes => exact ⟨s, [], rfl, perform_of_goes goes⟩
  | @resumed legs m last later r more earlier first goes ih =>
    obtain ⟨s, times, served, comes⟩ := ih
    refine ⟨s, times ++ [later], by simp [served], ?_⟩
    rw [List.foldl_append, comes, List.foldl_cons, List.foldl_nil,
      resume_of_step first (rests_of_course earlier), perform_of_goes goes]

end ChatCommands.InvocationCourse
