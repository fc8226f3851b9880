import ChatCommands.Proofs.CourseEffects
import ChatCommands.Proofs.LegalMarks
import ChatCommands.Proofs.LongestDescent

/-! Legal courses. If no hook and no error handler panics, nor the binding of the arguments, the marks
on a course that is over are legal, and those on any other can still become so. The proof is that
whatever completes the marks from a point on, put behind the marks of a step to that point, completes
them from the point before it. That a root's module has no error handler is told only where it has
none (`unhandled_of_course`). -/
namespace ChatCommands.LegalCourses
open InvocationCourse CourseLegs CourseEffects LegalMarks RegistryGrowth Dispatcher

variable {σ : Type} {d : Dispatcher σ} {c : Command σ} {bare : Prop}

/-! ## Completing marks -/

/-- What completes the marks after a stage. A hook that panics ends the handling. -/
def AfterStage (c : Command σ) (bare : Prop) : Stage → Outcome → List Mark → Prop
  | .body, outcome, rest => Leaving c bare (bodyFault outcome) rest
  | _, .panicked _, rest => rest = []
  | .onCommand, _, rest => Limited c bare rest
  | .beforeCommand _, .done, rest =>
    ∃ early failure mark run final, Hooked c .beforeGlobal early mark ∧
      Worked early failure run ∧ Leaving c bare failure final ∧ rest = mark :: (run ++ final)
  | .beforeGlobal _, .done, rest =>
    ∃ failure run final, Worked none failure run ∧ Leaving c bare failure final ∧ rest = run ++ final
  | .beforeCommand _, .failed fault, rest | .beforeGlobal _, .failed fault, rest =>
    Leaving c bare (some fault) rest
  | .afterCommand failure, outcome, rest =>
    ∃ shared mark final, Hooked c .afterGlobal shared mark ∧
      Ending c bare ((failure.or (faultOf outcome)).or shared) final ∧ rest = mark :: final
  | .afterGlobal failure hook, outcome, rest =>
    Ending c bare ((failure.or hook).or (faultOf outcome)) rest
  | .handler .command error, .failed _, rest => Routed c bare error (onwards .module) rest
  | .handler .module error, .failed _, rest => Routed c bare error (onwards .global) rest
  | _, _, rest => rest = []

/-- What completes the marks from a stage on that is under way. -/
def Runs (c : Command σ) (bare : Prop) (stage : Stage) (rest : List Mark) : Prop :=
  ∃ outcome final, (stage = .body ∨ Returns outcome) ∧ AfterStage c bare stage outcome final ∧
    rest = .ran (partOf stage) outcome :: final

/-- What completes the marks from a point on. -/
def Completes (c : Command σ) (bare : Prop) : Point σ → List Mark → Prop
  | .arrived, rest => Legal c bare rest
  | .left stage outcome, rest => AfterStage c bare stage outcome rest
  | .entering, rest => Admitted c bare rest
  | .binding, rest => Bound c bare rest
  | .preparing _, rest => Armed c bare rest
  | .leaving failure, rest => Leaving c bare failure rest
  | .concluding (.ok ()), rest => Ending c bare none rest
  | .concluding (.error error), rest => Reported c bare error rest
  | .asking level error, rest => Routed c bare error (onwards level) rest
  | .waiting stage _, rest => Runs c bare stage rest
  | .queued _, rest => ∃ final, Bound c bare final ∧ rest = .slot none :: final
  | .ended, rest => rest = []

/-- A hook or an error handler panicked, or the binding of the arguments did. -/
def panicsInHook : Mark → Bool
  | .ran .body _ => false
  | .ran _ (.panicked _) => true
  | .bound (some .panicked) => true
  | _ => false

/-- Of all parts only the body may panic, and binding the arguments does not. -/
def HooksReturn (marks : List Mark) : Prop := ∀ mark ∈ marks, panicsInHook mark = false

theorem runs_of_staged {inv : Invocation σ} {stage : Stage} {p : Progress σ × Service σ}
    {rest : List Mark} (returns : HooksReturn (staged inv stage p).1)
    (completes : Completes c bare (staged inv stage p).2.point rest) :
    Runs c bare stage ((staged inv stage p).1 ++ rest) := by
  obtain ⟨progress, s⟩ := p
  cases progress with
  | paused pause => exact completes
  | ended outcome =>
    refine ⟨outcome, rest, ?_, completes, rfl⟩
    rcases returns_or_panics outcome with fine | ⟨message, rfl⟩
    · exact .inr fine
    · have quiet := returns (.ran (partOf stage) (.panicked message)) (by simp [staged])
      cases stage with
      | body => exact .inl rfl
      | _ => cases quiet

theorem hooksReturn_append {first second : List Mark} :
    HooksReturn (first ++ second) ↔ HooksReturn first ∧ HooksReturn second :=
  List.forall_mem_append

theorem hooksReturn_told {mark : Mark} {r : List Mark × Moment σ} :
    HooksReturn (told mark r).1 → HooksReturn r.1 :=
  List.forall_mem_of_forall_mem_cons

/-- The error handler of the root's module was looked for, and there is none. -/
def lacksModule : Mark → Bool
  | .lacks (.handler .module _) => true
  | _ => false

/-- Where the marks tell that the root's module has no error handler, `bare` holds. -/
def Bared (bare : Prop) (marks : List Mark) : Prop := ∀ mark ∈ marks, lacksModule mark = true → bare

theorem bared_append {first second : List Mark} :
    Bared bare (first ++ second) ↔ Bared bare first ∧ Bared bare second := List.forall_mem_append

/-- A hook's stage that is under way ends without a panic. -/
theorem runs_hook {stage : Stage} {rest : List Mark} (runs : Runs c bare stage rest)
    (hook : stage ≠ .body) : ∃ outcome final, Returns outcome ∧
      AfterStage c bare stage outcome final ∧ rest = .ran (partOf stage) outcome :: final := by
  obtain ⟨outcome, final, isBody | returns, after, shape⟩ := runs
  · exact absurd isBody hook
  · exact ⟨outcome, final, returns, after, shape⟩

section Returning

variable {outcome : Outcome} (returns : Returns outcome) {rest : List Mark}
include returns

theorem afterStage_onCommand : AfterStage c bare .onCommand outcome rest ↔ Limited c bare rest :=
  returns.cases .rfl fun _ => .rfl

theorem afterStage_afterCommand {failure : Option Fault} :
    AfterStage c bare (.afterCommand failure) outcome rest ↔
      ∃ shared mark final, Hooked c .afterGlobal shared mark ∧
        Ending c bare ((failure.or (faultOf outcome)).or shared) final ∧ rest = mark :: final :=
  returns.cases .rfl fun _ => .rfl

theorem afterStage_afterGlobal {failure hook : Option Fault} :
    AfterStage c bare (.afterGlobal failure hook) outcome rest ↔
      Ending c bare ((failure.or hook).or (faultOf outcome)) rest :=
  returns.cases .rfl fun _ => .rfl

end Returning

theorem afterStage_completion {outcome : Outcome} {rest : List Mark} :
    AfterStage c bare .completion outcome rest ↔ rest = [] := by
  cases outcome <;> rfl

theorem afterStage_handler {level : HandlerLevel} {error : CommandError} {rest : List Mark} :
    AfterStage c bare (.handler level error) .done rest ↔ rest = [] := by
  cases level <;> rfl

/-- The hook for commands that passed their checks, with what follows it. -/
theorem legal_of_runs {rest : List Mark} (runs : Runs c bare .onCommand rest) :
    Legal c bare (.checked none :: rest) := by
  obtain ⟨outcome, final, returns, after, rfl⟩ := runs_hook runs nofun
  exact .passed (.ran id returns) ((afterStage_onCommand returns).1 after)

/-- Hooks before the body that begin with the command's own. -/
theorem armed_of_runs {args : Args} {rest : List Mark} (has : ¬ Without c .beforeCommand)
    (runs : Runs c bare (.beforeCommand args) rest) : Armed c bare rest := by
  obtain ⟨outcome, final, returns, after, rfl⟩ := runs_hook runs nofun
  cases outcome with
  | done =>
    obtain ⟨early, failure, mark, run, final, global, worked, leaving, rfl⟩ := after
    exact .all (.through (.ran has returns) global) worked leaving
  | failed fault => exact .all (.stopped (.ran has returns)) .skipped after
  | panicked message => exact absurd rfl (returns message)

/-- The dispatcher's hook before the body, with what follows it. -/
theorem afterStage_of_runs {args : Args} {rest : List Mark}
    (runs : Runs c bare (.beforeGlobal args) rest) :
    AfterStage c bare (.beforeCommand args) .done rest := by
  obtain ⟨outcome, final, returns, after, rfl⟩ := runs_hook runs nofun
  cases outcome with
  | done =>
    obtain ⟨failure, run, final, worked, leaving, rfl⟩ := after
    exact ⟨_, failure, _, run, final, .ran id returns, worked, leaving, rfl⟩
  | failed fault => exact ⟨_, _, _, [], final, .ran id returns, .skipped, after, rfl⟩
  | panicked message => exact absurd rfl (returns message)

theorem leaving_of_runs {failure : Option Fault} {rest : List Mark}
    (has : ¬ Without c .afterCommand) (runs : Runs c bare (.afterCommand failure) rest) :
    Leaving c bare failure rest := by
  obtain ⟨outcome, final, returns, after, rfl⟩ := runs_hook runs nofun
  obtain ⟨shared, mark, final, global, ending, rfl⟩ := (afterStage_afterCommand returns).1 after
  exact .both (.ran has returns) global ending

/-- A handler that is asked, with those asked after it. -/
theorem routed_of_runs {level : HandlerLevel} {error : CommandError} {rest : List Mark}
    (has : ¬ Without c (.handler level error)) (runs : Runs c bare (.handler level error) rest) :
    Routed c bare error (onwards level) rest := by
  obtain ⟨outcome, final, returns, after, rfl⟩ := runs_hook runs nofun
  cases outcome with
  | done =>
    rw [afterStage_handler.1 after]
    cases level <;> exact .settled has
  | failed failure =>
    cases level with
    | command | module => exact .failed has after
    | global =>
      cases after
      exact .failed has .nobody
  | panicked message => exact absurd rfl (returns message)

/-- What completes the marks after a step completes them before it, behind those of the step. -/
theorem completes_of_step {m : Moment σ} {r : List Mark × Moment σ} (step : Step d m r)
    (returns : HooksReturn r.1) (known : Bared bare r.1) {rest : List Mark}
    (completes : Completes m.inv.command bare r.2.point rest) :
    Completes m.inv.command bare m.point (r.1 ++ rest) := by
  -- Where a step begins a stage, the stage's mark is among those of the step or, if the script has
  -- to wait, the first of `rest`; `runs_of_staged` puts the two together.
  cases step with
  | refused => exact .refused completes
  | passed => exact legal_of_runs (runs_of_staged (hooksReturn_told returns) completes)
  | cooled fine => exact (afterStage_onCommand fine).2 (.counted completes)
  | denied fine => exact (afterStage_onCommand fine).2 (.denied completes)
  | unlimited rule => exact .unlimited rule completes
  | admitted limited => exact .atOnce (by simp [limited]) completes
  | saturated limited => exact .refused (by simp [limited]) completes
  | queued limited =>
    obtain ⟨final, bound, rfl⟩ := completes
    exact .afterWaiting (by simp [limited]) bound
  | unbound => exact .refused completes
  | broken => exact absurd (returns _ List.mem_cons_self) Bool.noConfusion
  | bound => exact .accepted completes
  | beforeCommand has =>
    exact armed_of_runs (by simp [Without, has]) (runs_of_staged returns completes)
  | noBeforeCommand lacks =>
    obtain ⟨early, failure, mark, run, final, global, worked, leaving, rfl⟩ := completes
    exact .all (.through (.lacking lacks) global) worked leaving
  | beforeCommandFailed | beforeGlobalFailed | worked | reported | commandHandlerFailed
  | moduleHandlerFailed | globalHandlerFailed | inLine | ended => exact completes
  | beforeGlobal => exact afterStage_of_runs (runs_of_staged returns completes)
  | body =>
    obtain ⟨outcome, final, -, leaving, shape⟩ := runs_of_staged returns completes
    exact ⟨_, _, final, .ran, leaving, shape⟩
  | afterCommand has =>
    exact leaving_of_runs (by simp [Without, has]) (runs_of_staged returns completes)
  | noAfterCommand lacks =>
    obtain ⟨shared, mark, final, global, ending, rfl⟩ := completes
    exact .both (.lacking lacks) global ending
  | afterGlobal fine =>
    obtain ⟨outcome, final, ends, after, shape⟩ :=
      runs_hook (runs_of_staged returns completes) nofun
    exact (afterStage_afterCommand fine).2
      ⟨_, _, final, .ran id ends, (afterStage_afterGlobal ends).1 after, shape⟩
  | failed fine fails => exact (afterStage_afterGlobal fine).2 (fails ▸ .failed completes)
  | succeeded fine succeeds => exact (afterStage_afterGlobal fine).2 (succeeds ▸ completes)
  | completion =>
    obtain ⟨outcome, final, ends, after, shape⟩ :=
      runs_hook (runs_of_staged returns completes) nofun
    rw [afterStage_completion.1 after] at shape
    exact shape ▸ .completed (.ran id ends)
  | completed => exact afterStage_completion.2 completes
  | commandHandler has | moduleHandler has =>
    exact routed_of_runs (by simp [Without, has]) (runs_of_staged returns completes)
  | globalHandler => exact routed_of_runs id (runs_of_staged returns completes)
  | noCommandHandler lacks => exact .lacking lacks completes
  | noModuleHandler => exact .unhandled (known _ List.mem_cons_self rfl) completes
  | @settled inv s level error => cases level <;> exact completes
  | @panicked inv s stage message hook =>
    cases completes
    cases stage <;> first | rfl | exact absurd rfl hook
  | woken => exact runs_of_staged returns completes
  | called => exact ⟨rest, completes, rfl⟩

theorem completes_of_goes {m last : Moment σ} {marks : List Mark} (goes : Goes d m marks last)
    (returns : HooksReturn marks) (known : Bared bare marks) {rest : List Mark}
    (completes : Completes m.inv.command bare last.point rest) :
    Completes m.inv.command bare m.point (marks ++ rest) := by
  induction goes with
  | stop => exact completes
  | @step m last r more _ first _ ih =>
    obtain ⟨now, later⟩ := hooksReturn_append.1 returns
    obtain ⟨here, onward⟩ := bared_append.1 known
    rw [command_of_step first] at ih
    rw [List.append_assoc]
    exact completes_of_step first now here (ih later onward completes)

/-- If neither a hook nor the binding panics, whatever completes the marks from a course's last point
on makes all of them legal. -/
theorem legal_of_course {inv : Invocation σ} {legs : List (Leg σ)} {m : Moment σ}
    (course : Course d inv legs m) (returns : HooksReturn (trace legs))
    (known : Bared bare (trace legs)) {rest : List Mark}
    (completes : Completes inv.command bare m.point rest) :
    Legal inv.command bare (trace legs ++ rest) := by
  induction course generalizing rest with
  | begun goes =>
    rw [trace, List.flatMap_singleton] at returns known ⊢
    exact completes_of_goes goes returns known completes
  | @resumed legs m last later r more earlier first goes ih =>
    rw [trace, List.flatMap_append, List.flatMap_singleton] at returns known ⊢
    obtain ⟨before, after⟩ := hooksReturn_append.1 returns
    obtain ⟨woken, onward⟩ := hooksReturn_append.1 after
    obtain ⟨old, new⟩ := bared_append.1 known
    obtain ⟨here, there⟩ := bared_append.1 new
    have same := command_of_step first
    rw [← command_of_course earlier] at completes ih ⊢
    rw [← same] at completes
    have following := completes_of_goes goes onward there completes
    rw [same] at following
    rw [List.append_assoc, List.append_assoc]
    -- The marks of the last leg, from the wait on, are what completes those of the legs before it.
    exact ih before old (completes_of_step first woken here following)

/-! ## The module's handler -/

/-- On some leg the error handler of the root's module was looked for, and there was none. -/
def Unhandled (inv : Invocation σ) (legs : List (Leg σ)) : Prop :=
  ∃ leg ∈ legs, (∃ mark ∈ leg.marks, lacksModule mark = true) ∧
    (leg.before.moduleOf? inv.target.root).bind (·.onError) = none

/-- From one moment to another no module is loaded or unloaded, and where the marks tell that the
root's module has no error handler it has none. -/
structure Truthful (m : Moment σ) (marks : List Mark) (last : Moment σ) : Prop where
  modules : last.service.modules = m.service.modules
  target : last.inv.target = m.inv.target
  told : Bared ((m.service.moduleOf? m.inv.target.root).bind (·.onError) = none) marks

theorem bared_staged (inv : Invocation σ) (stage : Stage) (p : Progress σ × Service σ) :
    Bared bare (staged inv stage p).1 := by
  obtain ⟨progress, s⟩ := p
  cases progress <;> simp [Bared, staged, lacksModule]

theorem truthful_of_step {m : Moment σ} {r : List Mark × Moment σ} (step : Step d m r) :
    Truthful m r.1 r.2 := by
  refine ⟨modules_of_step step, target_of_step step, ?_⟩
  cases step with
  | noModuleHandler lacks => exact fun _ _ _ => lacks
  | passed => exact List.forall_mem_cons.2 ⟨Bool.noConfusion, bared_staged _ _ _⟩
  | beforeCommand | beforeGlobal | body | afterCommand | afterGlobal | completion
  | commandHandler | moduleHandler | globalHandler | woken => exact bared_staged _ _ _
  | _ => simp [Bared, lacksModule]

theorem unhandled_of_course {inv : Invocation σ} {legs : List (Leg σ)} {m : Moment σ}
    (course : Course d inv legs m) : Bared (Unhandled inv legs) (trace legs) := by
  intro mark told lacks
  obtain ⟨leg, member, among⟩ := List.mem_flatMap.1 told
  obtain ⟨earlier, later, split⟩ := List.append_of_mem member
  obtain ⟨start, begins, stretch⟩ := leg_of_course course split
  have truthful : Truthful start leg.marks leg.after := by
    refine Stretch.lift (fun m => ⟨rfl, rfl, by simp [Bared]⟩) ?_ truthful_of_step stretch
    intro m middle last first second before after
    refine ⟨after.modules.trans before.modules, after.target.trans before.target, ?_⟩
    refine bared_append.2 ⟨before.told, ?_⟩
    have onward := after.told
    rwa [moduleOf?_of_modules before.modules, before.target] at onward
  refine ⟨leg, member, ⟨mark, among, lacks⟩, ?_⟩
  rw [← stretch.service, ← target_of_begins begins]
  exact truthful.told mark among lacks

/-! ## Every course can be completed -/

theorem exists_afterStage (c : Command σ) (bare : Prop) (stage : Stage) :
    ∃ rest, AfterStage c bare stage .done rest := by
  cases stage with
  | onCommand => exact exists_limited c bare
  | beforeCommand args =>
    obtain ⟨mark, global⟩ := exists_hooked c .beforeGlobal
    obtain ⟨final, leaving⟩ := exists_leaving c bare (bodyFault .done)
    exact ⟨_, _, _, _, _, final, global, .ran, leaving, rfl⟩
  | beforeGlobal args =>
    obtain ⟨final, leaving⟩ := exists_leaving c bare (bodyFault .done)
    exact ⟨_, _, _, final, .ran, leaving, rfl⟩
  | body => exact exists_leaving c bare none
  | afterCommand failure =>
    obtain ⟨mark, global⟩ := exists_hooked c .afterGlobal
    obtain ⟨final, ending⟩ := exists_ending c bare ((failure.or none).or none)
    exact ⟨_, _, mark, final, global, ending, rfl⟩
  | afterGlobal failure hook => exact exists_ending c bare _
  | completion => exact ⟨[], afterStage_completion.2 rfl⟩
  | handler level error => exact ⟨[], afterStage_handler.2 rfl⟩

/-- Whatever an invocation waits for, its marks can be completed. -/
theorem exists_completion (c : Command σ) (bare : Prop) {point : Point σ} (rests : point.AtRest) :
    ∃ rest, Completes c bare point rest := by
  cases point with
  | waiting stage pause =>
    obtain ⟨final, after⟩ := exists_afterStage c bare stage
    exact ⟨_, .done, final, .inr returns_done, after, rfl⟩
  | queued place =>
    obtain ⟨final, bound⟩ := exists_bound c bare
    exact ⟨_, final, bound, rfl⟩
  | ended => exact ⟨[], rfl⟩
  | _ => exact absurd rests id

/-! ## The checks -/

/-- The command, its ancestors and all checks allow an invocation. -/
def Allowed (d : Dispatcher σ) (ctx : Context) (target : Resolved σ) (s : Service σ) : Prop :=
  (∀ c ∈ target.parents ++ [target.command],
      (s.registry.standing target.root.serial c).enabled) ∧
    ∀ check ∈ d.checksFor s target, check.evaluate ctx = .ok ()

theorem passChecks_eq_ok_iff {inv : Invocation σ} {s : Service σ} :
    d.passChecks inv s = .ok () ↔ Allowed d inv.ctx inv.target s := by
  unfold passChecks Allowed
  cases disabled : firstDisabled? s inv.target with
  | some c =>
    have member := List.mem_of_find?_eq_some disabled
    have off := List.find?_some disabled
    simp only [reduceCtorEq, false_iff, not_and]
    intro enabled
    simp [enabled c member] at off
  | none =>
    have enabled : ∀ c ∈ inv.target.parents ++ [inv.target.command],
        (s.registry.standing inv.target.root.serial c).enabled := by
      simpa using List.find?_eq_none.1 disabled
    rw [← Check.evaluateAll_eq_ok_iff]
    cases passes : Check.evaluateAll (d.checksFor s inv.target) inv.ctx with
    | ok => simpa using enabled
    | error failure => simp

/-- The first mark tells of the checks. -/
theorem checked_of_goes {inv : Invocation σ} {s : Service σ} {marks : List Mark} {last : Moment σ}
    (goes : Goes d ⟨inv, .arrived, s⟩ marks last) :
    ∃ refusal, marks.head? = some (.checked refusal) ∧
      (refusal = none ↔ Allowed d inv.ctx inv.target s) := by
  simp only [← passChecks_eq_ok_iff]
  cases goes with
  | stop rests => exact absurd rests id
  | step _ first _ =>
    cases first with
    | refused checks => exact ⟨_, rfl, by simp [checks]⟩
    | passed checks => exact ⟨none, rfl, by simp [checks]⟩

theorem checked_of_course {inv : Invocation σ} {legs : List (Leg σ)} {m : Moment σ}
    (course : Course d inv legs m) : ∃ s times refusal, legs.map Leg.before = s :: times ∧
      (trace legs).head? = some (.checked refusal) ∧
      (refusal = none ↔ Allowed d inv.ctx inv.target s) := by
  induction course with
  | begun goes =>
    obtain ⟨refusal, begins, passes⟩ := checked_of_goes goes
    exact ⟨_, _, refusal, rfl, by simpa [trace] using begins, passes⟩
  | @resumed _ _ _ later _ _ _ _ _ ih =>
    obtain ⟨s, times, refusal, served, begins, passes⟩ := ih
    refine ⟨s, times ++ [later], refusal, by simp [served], ?_, passes⟩
    rw [trace, List.flatMap_append, List.head?_append, ← trace, begins, Option.some_or]

/-! ## From an event on -/

/-- The service once an event is counted that addresses the agent. -/
def met (s : Service σ) : Service σ :=
  { s with metrics := s.metrics.event, invocations := s.invocations + 1 }

/-- The invocation of what an event's line is resolved to. -/
def begunBy (d : Dispatcher σ) (s : Service σ) (e : Event) (lead : String) (target : Resolved σ) :
    Invocation σ where
  ctx := resolvedContext
    { Context.ofEvent e d.directory d.settings.dispatch.owners with
      lead := lead, serial := (met s).invocations } target
  target := target

theorem dispatch_of_resolved {s : Service σ} {e : Event} {lead line : String} {target : Resolved σ}
    (heard : (d.settings.dispatch.ignoreBots && e.author.bot) = false)
    (addressed : splitLead? d.leads d.settings.dispatch.stripAfterLead e.content =
      some (lead, line))
    (resolved : s.registry.resolve line = .ok target) :
    d.dispatch e s = d.invoke (begunBy d s e lead target) (met s) := by
  simp only [dispatch, heard, addressed, resolved]
  rfl

theorem ended_of_finished {m : Moment σ} (rests : m.point.AtRest)
    (finished : (m.perform d).1 = .finished) : m.point = .ended := by
  obtain ⟨inv, point, s⟩ := m
  cases point with
  | ended => rfl
  | waiting | queued => nomatch finished
  | _ => exact absurd rests id

/-- An event whose line resolves to a command begins an invocation, and whenever that is taken up
again, it has a course. If no hook, no error handler and no binding panics, its marks are legal as
far as they come, and completely so when it is over: no two of them are of one station, and a root's
module is passed by only where it has no error handler. It begins with the checks, which tell whether
commands are enabled and all checks pass. Every failure of an error handler counts once, and the
limits are as they were until one of them is asked. -/
theorem invocation_runs_legally {ci : Bool} {changes : List (Change σ)} (d : Dispatcher σ)
    (s : Service σ) (e : Event) {lead line : String} {target : Resolved σ}
    (built : s.registry = grown ci changes)
    (heard : (d.settings.dispatch.ignoreBots && e.author.bot) = false)
    (addressed : splitLead? d.leads d.settings.dispatch.stripAfterLead e.content =
      some (lead, line))
    (resolved : s.registry.resolve line = .ok target) (times : List (Service σ)) :
    let inv := begunBy d s e lead target
    (∃ legs m, Course d inv legs m ∧ legs.map Leg.before = met s :: times) ∧
    ∀ legs m, Course d inv legs m → legs.map Leg.before = met s :: times →
      times.foldl (fun r later => d.resume r.1 later) (d.dispatch e s) = m.perform d ∧
      (HooksReturn (trace legs) →
        (∃ rest, Legal target.command (Unhandled inv legs) (trace legs ++ rest)) ∧
        ((m.perform d).1 = .finished →
          Legal target.command (Unhandled inv legs) (trace legs)) ∧
        (trace legs).Pairwise fun early late => stationOf early < stationOf late) ∧
      ((trace legs).head? = some (.checked none) ↔ Allowed d inv.ctx target s) ∧
      (∀ leg ∈ legs, leg.after.service.metrics.handlerFailures =
        leg.before.metrics.handlerFailures + failures leg.marks) ∧
      ((∀ mark ∈ trace legs, asksLimit mark = false) → ∀ leg ∈ legs,
        leg.after.service.cooldowns = leg.before.cooldowns ∧
          leg.after.service.slots = leg.before.slots) := by
  intro inv
  have orderly : Orderly ci s.registry := built ▸ grown_orderly ci changes
  refine ⟨exists_course d inv (LongestDescent.body_of_resolve orderly resolved) (met s) times, ?_⟩
  intro legs m course served
  have rests := rests_of_course course
  refine ⟨?_, fun returns => ?_, ?_, failures_of_course course,
    fun unasked => (limits_of_course course rfl unasked).2⟩
  · obtain ⟨began, later, same, comes⟩ := perform_of_course course
    cases served.symm.trans same
    rw [dispatch_of_resolved heard addressed resolved, comes]
  · have known := unhandled_of_course course
    obtain ⟨rest, completes⟩ := exists_completion target.command (Unhandled inv legs) rests
    have legal := legal_of_course course returns known completes
    refine ⟨⟨rest, legal⟩, fun finished => ?_, pairwise_of_legal legal⟩
    have ended : Completes target.command (Unhandled inv legs) m.point [] :=
      ended_of_finished rests finished ▸ rfl
    have whole : Legal target.command (Unhandled inv legs) (trace legs ++ []) :=
      legal_of_course course returns known ended
    rwa [List.append_nil] at whole
  · obtain ⟨began, later, refusal, same, begins, passes⟩ := checked_of_course course
    cases served.symm.trans same
    rw [begins, Option.some.injEq, Mark.checked.injEq]
    exact passes

/-- Its body panics, and its own handler fails. -/
def ping : CommandParts Unit where
  name := "ping"
  body := some fun _ _ => .stop (.panicked none)
  onError := some fun _ _ => .fail ⟨"unsettled", []⟩

def plain : Dispatcher Unit where
  directory := .ofLists [] [] [] []

def ready : Service Unit where
  app := ()
  registry := grown false [.register (.declare ping false [])]

def message : Event where
  author := { id := 1, name := "" }
  origin := ⟨.direct, none, { id := 9, name := "" }⟩
  content := "!ping"
  responder := .discard

def found : Resolved Unit := ⟨{ qualified := "ping", parts := ping }, [], "ping", [], ""⟩

/-- The panic of a body is told to the command's handler, which fails, and to the dispatcher's. -/
theorem panic_settled_by_last_handler :
    splitLead? plain.leads plain.settings.dispatch.stripAfterLead message.content =
        some ("!", "ping") ∧
      ready.registry.resolve "ping" = .ok found ∧
      ∃ legs m, Course plain (begunBy plain ready message "!" found) legs m ∧
        plain.dispatch message ready = m.perform plain ∧ (m.perform plain).1 = .finished ∧
        (trace legs).length = 13 ∧ m.service.metrics.handlerFailures = 1 ∧
        Legal found.command (Unhandled (begunBy plain ready message "!" found) legs)
          (trace legs) := by
  have addressed : splitLead? plain.leads plain.settings.dispatch.stripAfterLead message.content =
      some ("!", "ping") := by
    simp only [leads, plain, List.mergeSort_singleton]
    decide
  have resolved : ready.registry.resolve "ping" = .ok found := rfl
  obtain ⟨marks, m, goes, returns, finished, long, failed⟩ :
      ∃ marks m, Goes plain ⟨begunBy plain ready message "!" found, .arrived, met ready⟩ marks m ∧
        (∀ mark ∈ marks, panicsInHook mark = false) ∧ (m.perform plain).1 = .finished ∧
        marks.length = 13 ∧ m.service.metrics.handlerFailures = 1 := by
    refine ⟨_, _, .step id (.passed rfl) <| .step id (.cooled returns_done rfl) <|
      .step id (.unlimited rfl) <| .step id (.bound rfl rfl) <| .step id (.noBeforeCommand rfl) <|
      .step id .beforeGlobal <| .step id (.body rfl) <| .step id .worked <|
      .step id (.noAfterCommand rfl) <| .step id (.afterGlobal returns_done) <|
      .step id (.failed returns_done rfl) <| .step id .reported <|
      .step id (.commandHandler rfl) <| .step id .commandHandlerFailed <|
      .step id (.noModuleHandler rfl) <| .step id .globalHandler <| .step id .settled <|
      .stop trivial, ?_, rfl, rfl, rfl⟩
    decide
  have whole : trace [⟨met ready, marks, m⟩] = marks := List.flatMap_singleton ..
  obtain ⟨comes, legal, -⟩ := (invocation_runs_legally plain ready message rfl rfl addressed
    resolved []).2 _ m (.begun goes) rfl
  rw [whole] at legal
  refine ⟨addressed, resolved, _, m, .begun goes, comes, finished, ?_, failed, ?_⟩
  · rwa [whole]
  · rw [whole]
    exact (legal returns).2.1 finished

/-- Takes two flags, of which one has the name that the dispatcher writes between names and
values. -/
def adjust : CommandParts Unit where
  name := "adjust"
  params := [{
    name := "options"
    shape := .flags
      { flags := [{ name := "a", shape := .of .str }, { name := "is", shape := .of .str }] } }]
  body := some fun _ _ => .done

def wordy : Dispatcher Unit where
  converters := { Converters.builtin with flagStyle := { delimiter := " is " } }
  directory := .ofLists [] [] [] []

def adjustable : Service Unit where
  app := ()
  registry := grown false [.register (.declare adjust false [])]

def request : Event := { message with content := "!adjust a is is b" }

def wanted : Resolved Unit :=
  ⟨{ qualified := "adjust", parts := adjust }, [], "adjust", [], "a is is b"⟩

/-- A panic while the arguments are bound is the end: no hook or handler has panicked, and neither
completion nor a handler follows. -/
theorem panicking_binding_settled_by_nobody :
    ∃ legs m, Course wordy (begunBy wordy adjustable request "!" wanted) legs m ∧
      wordy.dispatch request adjustable = m.perform wordy ∧ (m.perform wordy).1 = .finished ∧
      (∀ part message, .ran part (.panicked message) ∉ trace legs) ∧
      ∀ bare, ¬ Legal wanted.command bare (trace legs) := by
  have addressed : splitLead? wordy.leads wordy.settings.dispatch.stripAfterLead request.content =
      some ("!", "adjust a is is b") := by
    simp only [leads, wordy, List.mergeSort_singleton]
    decide
  have resolved : adjustable.registry.resolve "adjust a is is b" = .ok wanted := rfl
  obtain ⟨m, goes, finished⟩ : ∃ m,
      Goes wordy ⟨begunBy wordy adjustable request "!" wanted, .arrived, met adjustable⟩
        [.checked none, .ran .onCommand .done, .cooled none, .unlimited, .bound (some .panicked)] m ∧
      (m.perform wordy).1 = .finished :=
    ⟨_, .step id (.passed rfl) <| .step id (.cooled returns_done rfl) <|
      .step id (.unlimited rfl) <| .step id (.broken rfl) <| .stop trivial, rfl⟩
  refine ⟨_, m, .begun goes, ?_, finished, ?_, ?_⟩
  · rw [dispatch_of_resolved rfl addressed resolved]
    exact perform_of_goes goes
  · simp [trace]
  · rw [trace, List.flatMap_singleton]
    intro bare legal
    cases legal with
    | passed _ limited =>
      cases limited with
      | counted admitted =>
        cases admitted with
        | unlimited _ bound =>
          cases bound with
          | refused reported => cases reported

end ChatCommands.LegalCourses
