import ChatCommands.Proofs.LegalMarks
import Mathlib.Data.List.Basic

/-! When the body of a command is called. One point lies between the last hook before the body and
the body's own stage, and the arguments kept there are those of the call: the step from it runs the
body with them (`launch_of_call`), and no other step begins the body (`call_of_step`). A course is
told here with the arguments of its calls (`Calling`). An invocation that nothing but the hooks
before its body could stop is ahead of the call until it makes it, and past it ever after. -/
namespace ChatCommands.BodyCalls
open InvocationCourse LegalMarks Dispatcher

variable {σ : Type} {d : Dispatcher σ} {inv : Invocation σ} {args : Args} {m last : Moment σ}
  {r : List Mark × Moment σ} {marks : List Mark} {calls : List Args} {legs : List (Leg σ)}

/-- The arguments that the step from a point calls the body with, if it does. -/
def callsAt : Point σ → List Args
  | .left (.beforeGlobal args) .done => [args]
  | _ => []

/-- Steps up to the next wait, with their marks and with the arguments of each call of the body. -/
inductive GoesCalling (d : Dispatcher σ) :
    Moment σ → List Mark → List Args → Moment σ → Prop where
  | stop {m : Moment σ} (rests : m.point.AtRest) : GoesCalling d m [] [] m
  | step {m last : Moment σ} {r : List Mark × Moment σ} {more : List Mark} {calls : List Args}
      (moves : ¬ m.point.AtRest) (first : Step d m r) (onward : GoesCalling d r.2 more calls last) :
      GoesCalling d m (r.1 ++ more) (callsAt m.point ++ calls) last

/-- A course with the arguments of each call of the body. Nothing is called where a wait is over. -/
inductive Calling (d : Dispatcher σ) (inv : Invocation σ) :
    List (Leg σ) → List Args → Moment σ → Prop where
  | begun {s : Service σ} {marks : List Mark} {calls : List Args} {m : Moment σ}
      (goes : GoesCalling d ⟨inv, .arrived, s⟩ marks calls m) :
      Calling d inv [⟨s, marks, m⟩] calls m
  | resumed {legs : List (Leg σ)} {m last : Moment σ} {later : Service σ}
      {r : List Mark × Moment σ} {more : List Mark} {calls further : List Args}
      (earlier : Calling d inv legs calls m) (first : Step d { m with service := later } r)
      (goes : GoesCalling d r.2 more further last) :
      Calling d inv (legs ++ [⟨later, r.1 ++ more, last⟩]) (calls ++ further) last

/-! ## Calls and courses -/

theorem exists_goesCalling (goes : Goes d m marks last) :
    ∃ calls, GoesCalling d m marks calls last := by
  induction goes with
  | stop rests => exact ⟨[], .stop rests⟩
  | step moves first _ ih =>
    obtain ⟨calls, onward⟩ := ih
    exact ⟨_, .step moves first onward⟩

theorem goes_of_goesCalling (goes : GoesCalling d m marks calls last) : Goes d m marks last := by
  induction goes with
  | stop rests => exact .stop rests
  | step moves first _ ih => exact .step moves first ih

/-- Every course makes some calls. -/
theorem exists_calling (course : Course d inv legs m) : ∃ calls, Calling d inv legs calls m := by
  induction course with
  | begun goes =>
    obtain ⟨calls, goes⟩ := exists_goesCalling goes
    exact ⟨calls, .begun goes⟩
  | resumed _ first goes ih =>
    obtain ⟨calls, earlier⟩ := ih
    obtain ⟨further, goes⟩ := exists_goesCalling goes
    exact ⟨calls ++ further, .resumed earlier first goes⟩

theorem course_of_calling (calling : Calling d inv legs calls m) : Course d inv legs m := by
  induction calling with
  | begun goes => exact .begun (goes_of_goesCalling goes)
  | resumed _ first goes ih => exact .resumed ih first (goes_of_goesCalling goes)

theorem callsAt_eq_singleton_iff {point : Point σ} :
    callsAt point = [args] ↔ point = .left (.beforeGlobal args) .done := by
  constructor
  · intro called
    unfold callsAt at called
    split at called
    · cases called
      rfl
    · cases called
  · rintro rfl
    rfl

/-- A step that calls the body runs it with the arguments of the call. -/
theorem launch_of_call (step : Step d m r) (called : callsAt m.point = [args]) :
    ∃ body, m.inv.command.parts.body = some body ∧
      r = launch m.inv .body (body m.inv.ctx args) m.service := by
  obtain ⟨inv, point, s⟩ := m
  obtain rfl := callsAt_eq_singleton_iff.1 called
  cases step with
  | body has => exact ⟨_, has, rfl⟩

/-- The body is under way or has just ended. -/
def InBody : Point σ → Prop
  | .left .body _ | .waiting .body _ => True
  | _ => False

theorem inBody_staged {stage : Stage} {p : Progress σ × Service σ}
    (inBody : InBody (staged inv stage p).2.point) : stage = .body := by
  obtain ⟨progress, s⟩ := p
  cases progress <;> cases stage <;> first | rfl | exact absurd inBody id

/-- The body is begun where it is called, and nowhere else. -/
theorem call_of_step (step : Step d m r) (inBody : InBody r.2.point) (before : ¬ InBody m.point) :
    ∃ args, callsAt m.point = [args] := by
  cases step with
  | body => exact ⟨_, rfl⟩
  | passed | beforeCommand | beforeGlobal | afterCommand | afterGlobal | completion
  | commandHandler | moduleHandler | globalHandler => cases inBody_staged inBody
  | woken => cases inBody_staged inBody; exact absurd trivial before
  | _ => exact absurd inBody id

/-! ## Past the body -/

/-- A stage before the body. -/
def isEarly : Stage → Bool
  | .onCommand | .beforeCommand _ | .beforeGlobal _ => true
  | _ => false

/-- A hook before the body waits. -/
def WaitsEarly : Point σ → Prop
  | .waiting stage _ => isEarly stage = true
  | _ => False

/-- The body was called, or never will be. -/
def Past : Point σ → Prop
  | .left stage _ | .waiting stage _ => isEarly stage = false
  | .leaving _ | .concluding _ | .asking _ _ | .ended => True
  | _ => False

theorem past_staged {stage : Stage} (late : isEarly stage = false) (p : Progress σ × Service σ) :
    Past (staged inv stage p).2.point := by
  obtain ⟨progress, s⟩ := p
  cases progress <;> exact late

theorem callsAt_of_past {point : Point σ} (past : Past point) : callsAt point = [] := by
  unfold callsAt
  split
  · cases past
  · rfl

theorem moves_of_past {point : Point σ} (past : Past point) : ¬ WaitsEarly point := by
  cases point with
  | waiting stage pause => exact fun early => Bool.false_ne_true (past.symm.trans early)
  | _ => exact id

theorem past_of_step (step : Step d m r) (past : Past m.point) : Past r.2.point := by
  cases step with
  | body | afterCommand | afterGlobal | completion | commandHandler | moduleHandler
  | globalHandler => exact past_staged rfl _
  | woken => exact past_staged past _
  | noAfterCommand => rfl
  | cooled | denied | passed | beforeCommand | noBeforeCommand | beforeGlobal => cases past
  | _ => first | exact trivial | exact past

theorem past_of_goes (goes : GoesCalling d m marks calls last) (past : Past m.point) :
    calls = [] ∧ Past last.point := by
  induction goes with
  | stop => exact ⟨rfl, past⟩
  | step _ first _ ih =>
    obtain ⟨none, still⟩ := ih (past_of_step first past)
    exact ⟨by rw [callsAt_of_past past, none, List.nil_append], still⟩

/-! ## Ahead of the body -/

/-- A hook before the body kept it from being called. -/
def blocks : Mark → Bool
  | .ran .onCommand (.panicked _) => true
  | .ran .beforeCommand .done | .ran .beforeGlobal .done => false
  | .ran .beforeCommand _ | .ran .beforeGlobal _ => true
  | _ => false

/-- Every hook before the body that ended let the body's turn come: the first did not panic, and
those behind the binding succeeded. -/
def HooksLetPass (marks : List Mark) : Prop := ∀ mark ∈ marks, blocks mark = false

/-- A hook before the body that let its turn come, where the arguments were bound to `args`. -/
inductive Lets (args : Args) : Stage → Outcome → Prop where
  | onCommand {outcome : Outcome} (returns : Returns outcome) : Lets args .onCommand outcome
  | beforeCommand : Lets args (.beforeCommand args) .done
  | beforeGlobal : Lets args (.beforeGlobal args) .done

/-- The body is not called yet, and nothing but hooks can keep it from being called with `args`. -/
inductive Ahead (d : Dispatcher σ) (inv : Invocation σ) (args : Args) : Moment σ → Prop where
  | arrived {s : Service σ} (passes : d.passChecks inv s = .ok ()) :
      Ahead d inv args ⟨inv, .arrived, s⟩
  | left {stage : Stage} {outcome : Outcome} {s : Service σ} (lets : Lets args stage outcome) :
      Ahead d inv args ⟨inv, .left stage outcome, s⟩
  | entering {s : Service σ} : Ahead d inv args ⟨inv, .entering, s⟩
  | binding {s : Service σ} : Ahead d inv args ⟨inv, .binding, s⟩
  | preparing {s : Service σ} : Ahead d inv args ⟨inv, .preparing args, s⟩
  | waiting {stage : Stage} {pause : Pause σ} {s : Service σ} (hook : Lets args stage .done) :
      Ahead d inv args ⟨inv, .waiting stage pause, s⟩

/-- Behind its checks, nothing but hooks is in an invocation's way to its body. -/
structure Cleared (d : Dispatcher σ) (inv : Invocation σ) (args : Args) : Prop where
  cooldowns : inv.command.parts.cooldowns = []
  concurrency : inv.command.parts.concurrency = none
  binds : Binding.bind d.converters d.quotes inv.ctx inv.name inv.command.parts.params
    inv.command.parts.ignoreExtra = .ok args

theorem hooksLetPass_append {first second : List Mark} :
    HooksLetPass (first ++ second) ↔ HooksLetPass first ∧ HooksLetPass second :=
  List.forall_mem_append

theorem lets_of_passed {stage : Stage} {outcome : Outcome} (hook : Lets args stage .done)
    (passed : blocks (.ran (partOf stage) outcome) = false) : Lets args stage outcome := by
  cases hook with
  | onCommand =>
    refine .onCommand fun message panicked => ?_
    subst panicked
    cases passed
  | beforeCommand =>
    cases outcome with
    | done => exact .beforeCommand
    | _ => cases passed
  | beforeGlobal =>
    cases outcome with
    | done => exact .beforeGlobal
    | _ => cases passed

theorem ahead_staged {stage : Stage} {p : Progress σ × Service σ} (hook : Lets args stage .done)
    (pass : HooksLetPass (staged inv stage p).1) : Ahead d inv args (staged inv stage p).2 := by
  obtain ⟨progress, s⟩ := p
  cases progress with
  | ended outcome => exact .left (lets_of_passed hook (pass _ List.mem_cons_self))
  | paused pause => exact .waiting hook

theorem acquire_of_unruled {c : Command σ} (unruled : c.parts.cooldowns = []) (s : Service σ)
    (span : Option Span) (ctx : Context) : (s.acquire span c ctx).1 = none := by
  simp [Service.acquire, Cooldowns.acquire, unruled, Cooldowns.attemptAll, Cooldowns.longest?]

/-- A step from ahead of the body stays ahead of it, or is the call. -/
theorem ahead_of_step (cleared : Cleared d inv args) (step : Step d m r)
    (ahead : Ahead d inv args m) (pass : HooksLetPass r.1) :
    callsAt m.point = [] ∧ Ahead d inv args r.2 ∨
      callsAt m.point = [args] ∧ Past r.2.point := by
  cases ahead with
  | arrived passes =>
    cases step with
    | refused checks => cases passes.symm.trans checks
    | passed =>
      exact .inl ⟨rfl, ahead_staged (.onCommand fun _ => nofun)
        (List.forall_mem_of_forall_mem_cons pass)⟩
  | left lets =>
    cases lets with
    | onCommand returns =>
      cases step with
      | cooled => exact .inl ⟨rfl, .entering⟩
      | denied _ counts =>
        have verdict := congrArg Prod.fst counts
        rw [acquire_of_unruled cleared.cooldowns] at verdict
        cases verdict
      | panicked => exact absurd rfl (returns _)
    | beforeCommand =>
      cases step with
      | beforeGlobal => exact .inl ⟨rfl, ahead_staged .beforeGlobal pass⟩
    | beforeGlobal =>
      cases step with
      | body => exact .inr ⟨rfl, past_staged rfl _⟩
  | entering =>
    cases step with
    | unlimited => exact .inl ⟨rfl, .binding⟩
    | admitted limited | saturated limited | queued limited =>
      cases cleared.concurrency.symm.trans limited
  | binding =>
    cases step with
    | unbound binds | broken binds => cases cleared.binds.symm.trans binds
    | bound _ binds =>
      cases cleared.binds.symm.trans binds
      exact .inl ⟨rfl, .preparing⟩
  | preparing =>
    cases step with
    | beforeCommand => exact .inl ⟨rfl, ahead_staged .beforeCommand pass⟩
    | noBeforeCommand => exact .inl ⟨rfl, .left .beforeCommand⟩
  | waiting hook =>
    cases step with
    | woken => exact .inl ⟨rfl, ahead_staged hook pass⟩

theorem ahead_of_goes (cleared : Cleared d inv args) (goes : GoesCalling d m marks calls last)
    (ahead : Ahead d inv args m) (pass : HooksLetPass marks) :
    calls = [] ∧ Ahead d inv args last ∨ calls = [args] ∧ Past last.point := by
  induction goes with
  | stop => exact .inl ⟨rfl, ahead⟩
  | step _ first onward ih =>
    obtain ⟨now, later⟩ := hooksLetPass_append.1 pass
    rcases ahead_of_step cleared first ahead now with ⟨none, still⟩ | ⟨called, past⟩
    · rw [none, List.nil_append]
      exact ih still later
    · obtain ⟨rfl, still⟩ := past_of_goes onward past
      exact .inr ⟨by rw [called, List.append_nil], still⟩

/-- What others do to the service changes nothing for an invocation that waits. -/
theorem ahead_of_wait (ahead : Ahead d inv args m) (rests : m.point.AtRest) (later : Service σ) :
    Ahead d inv args { m with service := later } := by
  cases ahead with
  | waiting hook => exact .waiting hook
  | _ => exact absurd rests id

/-- If the hooks before it let its turn come, the body of a cleared invocation that passed its
checks is called once, and the invocation is ahead of the call until then. -/
theorem calls_of_calling (cleared : Cleared d inv args) (calling : Calling d inv legs calls m)
    (passes : ∀ leg ∈ legs.head?, d.passChecks inv leg.before = .ok ())
    (pass : HooksLetPass (trace legs)) :
    calls = [] ∧ Ahead d inv args m ∨ calls = [args] ∧ Past m.point := by
  induction calling with
  | begun goes =>
    rw [trace, List.flatMap_singleton] at pass
    exact ahead_of_goes cleared goes (.arrived (passes _ rfl)) pass
  | @resumed legs m last later r more calls further earlier first goes ih =>
    rw [trace, List.flatMap_append, List.flatMap_singleton] at pass
    obtain ⟨before, after⟩ := hooksLetPass_append.1 pass
    obtain ⟨woken, onward⟩ := hooksLetPass_append.1 after
    have rests := rests_of_course (course_of_calling earlier)
    have begins : ∀ leg ∈ legs.head?, d.passChecks inv leg.before = .ok () := fun leg begin =>
      passes leg (List.mem_head?_append_of_mem_head? begin)
    rcases ih begins before with ⟨rfl, ahead⟩ | ⟨rfl, past⟩
    -- A leg that takes up a wait begins with a step from there, and nothing is called at a wait.
    · rcases ahead_of_step cleared first (ahead_of_wait ahead rests later) woken with
        ⟨-, still⟩ | ⟨called, -⟩
      · exact ahead_of_goes cleared goes still onward
      · rw [callsAt_eq_singleton_iff.1 called] at rests
        exact absurd rests id
    · obtain ⟨rfl, still⟩ := past_of_goes goes (past_of_step first past)
      exact .inr ⟨List.append_nil _, still⟩

/-- An invocation that waits ahead of the body waits in a hook. -/
theorem waits_of_ahead (ahead : Ahead d inv args m) (rests : m.point.AtRest) :
    WaitsEarly m.point := by
  cases ahead with
  | waiting hook => cases hook <;> rfl
  | _ => exact absurd rests id

/-! ## Hooks that never wait -/

/-- A script that never waits. -/
def Prompt (script : Script σ) : Prop :=
  ∀ runner s, ∃ outcome t, script.run runner s = (.ended outcome, t)

/-- The hooks before the body of an invocation. -/
def hooksBefore (d : Dispatcher σ) (inv : Invocation σ) : List (Script σ) :=
  [d.hooks.onCommand inv.ctx, d.hooks.before inv.ctx] ++
    (inv.command.parts.before.map fun hook => hook inv.ctx).toList

theorem moves_of_launch {stage : Stage} {script : Script σ} (prompt : Prompt script)
    (s : Service σ) : ¬ WaitsEarly (launch inv stage script s).2.point := by
  obtain ⟨outcome, t, ended⟩ := prompt inv.runner s
  rw [launch, ended]
  exact id

theorem moves_of_step (prompt : ∀ script ∈ hooksBefore d inv, Prompt script) (step : Step d m r)
    (ahead : Ahead d inv args m) (moves : ¬ WaitsEarly m.point) : ¬ WaitsEarly r.2.point := by
  cases ahead with
  | waiting hook => cases hook <;> exact absurd rfl moves
  | arrived =>
    cases step with
    | refused => exact id
    | passed => exact moves_of_launch (prompt _ (by simp [hooksBefore])) _
  | left lets =>
    cases lets with
    | onCommand => cases step <;> exact id
    | beforeCommand =>
      cases step with
      | beforeGlobal => exact moves_of_launch (prompt _ (by simp [hooksBefore])) _
    | beforeGlobal =>
      cases step with
      | body => exact moves_of_past (past_staged rfl _)
  | entering => cases step <;> exact id
  | binding => cases step <;> exact id
  | preparing =>
    cases step with
    | beforeCommand has => exact moves_of_launch (prompt _ (by simp [hooksBefore, has])) _
    | noBeforeCommand => exact id

theorem called_of_goes (cleared : Cleared d inv args)
    (prompt : ∀ script ∈ hooksBefore d inv, Prompt script)
    (goes : GoesCalling d m marks calls last) (ahead : Ahead d inv args m)
    (moves : ¬ WaitsEarly m.point) (pass : HooksLetPass marks) :
    calls = [args] ∧ Past last.point := by
  induction goes with
  | stop rests => exact absurd (waits_of_ahead ahead rests) moves
  | step _ first onward ih =>
    obtain ⟨now, later⟩ := hooksLetPass_append.1 pass
    rcases ahead_of_step cleared first ahead now with ⟨none, still⟩ | ⟨called, past⟩
    · rw [none, List.nil_append]
      exact ih still (moves_of_step prompt first ahead moves) later
    · obtain ⟨rfl, still⟩ := past_of_goes onward past
      exact ⟨by rw [called, List.append_nil], still⟩

/-- Where the hooks before it never wait, the body is called on the first leg. -/
theorem called_of_calling (cleared : Cleared d inv args)
    (prompt : ∀ script ∈ hooksBefore d inv, Prompt script) (calling : Calling d inv legs calls m)
    (passes : ∀ leg ∈ legs.head?, d.passChecks inv leg.before = .ok ())
    (pass : HooksLetPass (trace legs)) : calls = [args] ∧ Past m.point := by
  induction calling with
  | begun goes =>
    rw [trace, List.flatMap_singleton] at pass
    exact called_of_goes cleared prompt goes (.arrived (passes _ rfl)) id pass
  | @resumed legs m last later r more calls further _ first goes ih =>
    rw [trace, List.flatMap_append] at pass
    obtain ⟨rfl, past⟩ := ih
      (fun leg begin => passes leg (List.mem_head?_append_of_mem_head? begin))
      (hooksLetPass_append.1 pass).1
    obtain ⟨rfl, still⟩ := past_of_goes goes (past_of_step first past)
    exact ⟨List.append_nil _, still⟩

/-! ## Hooks that do nothing -/

/-- The hooks around the body do nothing, and the body succeeds at once. -/
structure Swift (d : Dispatcher σ) (c : Command σ) : Prop where
  hooks : d.hooks = {}
  before : c.parts.before = none
  body : c.parts.body = some fun _ _ => .done
  after : c.parts.after = none

/-- With such hooks and such a body, a cleared invocation that passes its checks is over after one
leg. -/
theorem exists_swift_goes (cleared : Cleared d inv args) (swift : Swift d inv.command)
    {s : Service σ} (passes : d.passChecks inv s = .ok ()) :
    ∃ marks m, GoesCalling d ⟨inv, .arrived, s⟩ marks [args] m ∧ HooksLetPass marks ∧
      (m.perform d).1 = .finished := by
  obtain ⟨settings, converters, hooks, checks, directory⟩ := d
  obtain ⟨rfl, before, body, after⟩ := swift
  refine ⟨_, _, .step id (.passed passes) <|
    .step id (.cooled returns_done (Prod.ext (acquire_of_unruled cleared.cooldowns _ _ _) rfl)) <|
    .step id (.unlimited cleared.concurrency) <|
    .step id (.bound (by rw [body]; rfl) cleared.binds) <| .step id (.noBeforeCommand before) <|
    .step id .beforeGlobal <| .step id (.body body) <| .step id .worked <|
    .step id (.noAfterCommand after) <| .step id (.afterGlobal returns_done) <|
    .step id (.succeeded returns_done rfl) <| .step id .completion <|
    .step id (.completed returns_done) <| .stop trivial, fun mark told => ?_, rfl⟩
  have quiet := (List.all_eq_true (p := fun mark => !blocks mark)).1 rfl mark told
  simpa using quiet

end ChatCommands.BodyCalls
