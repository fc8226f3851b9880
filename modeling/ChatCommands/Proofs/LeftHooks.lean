import ChatCommands.Proofs.InvocationCourse
import Mathlib.Tactic.SplitIfs

/-! After hooks that are left. An invocation that is torn down before its after hooks begin leaves
them to be run on their own. Nothing else does: scripts leave none, nor does any step of an
invocation as long as the hooks around its body do not panic. -/
namespace ChatCommands.LeftHooks
open InvocationCourse Dispatcher

variable {σ : Type} {d : Dispatcher σ} {c : Command σ} {inv : Invocation σ} {m last : Moment σ}
  {r : List Mark × Moment σ} {marks : List Mark} {legs : List (Leg σ)} {s : Service σ}

/-- The after hooks that are left to be run on their own. -/
def left (s : Service σ) : List (Aftermath σ) :=
  s.signals.filterMap fun
    | .aftermath w => some w
    | _ => none

theorem left_passTray (change : List Nat × Gate) : left (s.passTray change) = left s := by
  simp [left, Service.passTray, List.filterMap_map]

theorem left_passGate (change : List Nat × Gate) : left (s.passGate change) = left s := by
  simp [left, Service.passGate, List.filterMap_map]

theorem left_handOver (change : Slots × Option Nat) : left (s.handOver change) = left s := by
  unfold Service.handOver
  cases change.2 with
  | none => rfl
  | some ticket => simp [left, Service.signal]

theorem left_submit (responder : Responder) (reply : Reply) :
    left (s.submit responder reply).2 = left s := by
  cases responder with
  | discard => rfl
  | capture =>
    simp only [Service.submit]
    obtain ⟨_ | ticket, turn, tray⟩ := s.tray.enter s.turn
    · exact left_passTray _
    · rfl
  | mailbox index =>
    simp only [Service.submit]
    split
    · rfl
    · obtain ⟨_ | _ | _, post⟩ := s.post.deliver (.mailbox index) reply <;> rfl

/-- Scripts leave no hooks behind. -/
theorem left_run (runner : Runner) (script : Script σ) (s : Service σ) :
    left (script.run runner s).2 = left s := by
  induction script generalizing s with
  | stop => rfl
  | update change next ih => exact ih _
  | read next ih => exact ih _ s
  | usage next ih => exact ih _ s
  | note n next ih => exact ih _
  | reply content next ih =>
    have hands := left_submit (s := s) runner.ctx.responder
      ⟨runner.ctx.origin.channel.id, content⟩
    simp only [Script.run]
    split
    · rename_i result after submitted
      rw [submitted] at hands
      exact (ih result after).trans hands
    · rename_i wait after submitted
      rw [submitted] at hands
      exact hands
  | sleep span next ih =>
    simp only [Script.run]
    split_ifs
    · rfl
    · exact ih _
    · rfl
  | permit next ih =>
    simp only [Script.run]
    obtain ⟨_ | ticket, turn, gate⟩ := s.gate.enter s.turn
    · exact ih _
    · rfl

theorem left_resume (runner : Runner) (pause : Pause σ) (s : Service σ) :
    left (pause.resume runner s).2 = left s := by
  cases pause with
  | sleeping due next =>
    simp only [Pause.resume]
    split_ifs
    · exact left_run runner next _
    · rfl
  | replying wait reply next =>
    cases wait with
    | tray ticket =>
      simp only [Pause.resume]
      cases s.tray.receive ticket with
      | none => rfl
      | some tray => exact (left_run runner _ _).trans (left_passTray _)
    | room due =>
      simp only [Pause.resume]
      split_ifs
      · exact left_run runner _ _
      · rfl
    | turn =>
      have hands := left_submit (s := s) runner.ctx.responder reply
      simp only [Pause.resume, Pause.answered]
      split
      · rename_i result after submitted
        rw [submitted] at hands
        exact (left_run runner _ _).trans hands
      · rename_i wait after submitted
        rw [submitted] at hands
        exact hands
  | atGate ticket next =>
    simp only [Pause.resume]
    cases s.gate.receive ticket with
    | none => rfl
    | some gate => exact left_run runner next _

theorem left_drop (pause : Pause σ) (s : Service σ) : left (pause.drop s) = left s := by
  rcases pause with _ | ⟨_ | _ | _, _, _⟩ | _
  · rfl
  · exact left_passTray _
  · rfl
  · rfl
  · exact left_passGate _

theorem left_releaseSlot (inv : Invocation σ) : left (s.releaseSlot inv) = left s := by
  unfold Service.releaseSlot
  cases inv.admission with
  | none => rfl
  | some admission => exact left_handOver _

theorem left_of_acquire {span : Option Span} {ctx : Context} {denial : Option Denial}
    {t : Service σ} (counts : s.acquire span c ctx = (denial, t)) : left t = left s := by
  have notes (denials : List Denial) (s : Service σ) :
      left (denials.foldl (fun s denial =>
        s.note span (Service.denialNote c.qualified denial)) s) = left s := by
    induction denials generalizing s with
    | nil => rfl
    | cons denial rest ih => exact ih _
  cases counts
  exact notes _ _

/-- The hooks that an invocation leaves. -/
def owed (inv : Invocation σ) : Aftermath σ := ⟨inv.ctx, inv.command.parts.after, inv.target.id⟩

/-- From the hooks before the body to the body itself, both after hooks are still to begin. -/
def Stage.owing : Stage → Bool
  | .beforeCommand _ | .beforeGlobal _ | .body => true
  | _ => false

/-- An invocation that is torn down leaves the hooks that are still to begin. -/
theorem left_abandon (inv : Invocation σ) (stage : Stage) :
    left (s.abandon inv stage) = left s ++ if Stage.owing stage then [owed inv] else [] := by
  cases stage with
  | onCommand | completion | handler => simp [Service.abandon, Stage.owing]
  | afterCommand | afterGlobal =>
    have same : left (s.countCommand inv) = left s := rfl
    simp [Service.abandon, Stage.owing, left_releaseSlot, same]
  | beforeCommand | beforeGlobal | body =>
    rw [Service.abandon, left_releaseSlot]
    simp [left, Service.countCommand, Service.signal, Stage.owing, owed]

/-- The hooks around the body. -/
def Part.isAround : Part → Bool
  | .beforeCommand | .beforeGlobal | .afterCommand | .afterGlobal => true
  | _ => false

/-- The hooks around the body end without a panic. -/
def Calm (marks : List Mark) : Prop :=
  ∀ part message, .ran part (.panicked message) ∈ marks → Part.isAround part = false

/-- No panic of a hook around the body has just ended. -/
def CalmAt (point : Point σ) : Prop :=
  ∀ stage message, point = .left stage (.panicked message) → Part.isAround (partOf stage) = false

theorem calm_append {first second : List Mark} :
    Calm (first ++ second) ↔ Calm first ∧ Calm second := by
  simp only [Calm, List.mem_append, or_imp, forall_and]

theorem calm_told {mark : Mark} (calm : Calm (told mark r).1) : Calm r.1 :=
  fun part message member => calm part message (List.mem_cons_of_mem mark member)

theorem calmAt_staged {stage : Stage} {p : Progress σ × Service σ}
    (calm : Calm (staged inv stage p).1) : CalmAt (staged inv stage p).2.point := by
  obtain ⟨progress, t⟩ := p
  rintro other message same
  cases progress with
  | paused pause => cases same
  | ended outcome =>
    cases same
    exact calm (partOf stage) message List.mem_cons_self

theorem calmAt_of_step (step : Step d m r) (calm : Calm r.1) : CalmAt r.2.point := by
  cases step with
  | passed => exact calmAt_staged (calm_told calm)
  | beforeCommand | beforeGlobal | body | afterCommand | afterGlobal | completion | commandHandler
  | moduleHandler | globalHandler | woken => exact calmAt_staged calm
  | _ => exact fun _ _ => nofun

theorem calmAt_rest (rests : m.point.AtRest) : CalmAt m.point := by
  intro stage message same
  rw [same] at rests
  exact absurd rests id

theorem left_staged (inv : Invocation σ) (stage : Stage) (p : Progress σ × Service σ) :
    left (staged inv stage p).2.service = left p.2 := by
  obtain ⟨progress, t⟩ := p
  cases progress <;> rfl

theorem left_launch (inv : Invocation σ) (stage : Stage) (script : Script σ) (s : Service σ) :
    left (launch inv stage script s).2.service = left s :=
  (left_staged inv stage _).trans (left_run inv.runner script s)

/-- As long as no hook around the body panics, steps leave no hooks. -/
theorem left_of_step (step : Step d m r) (calm : CalmAt m.point) :
    left r.2.service = left m.service := by
  cases step with
  | passed | beforeCommand | beforeGlobal | body | afterCommand | afterGlobal | commandHandler
  | moduleHandler | globalHandler => exact left_launch _ _ _ _
  | completion => exact (left_launch _ _ _ _).trans (left_releaseSlot _)
  | woken => exact (left_staged _ _ _).trans (left_resume _ _ _)
  | cooled _ counts => exact left_of_acquire counts
  | denied _ counts =>
    have same := left_of_acquire counts
    exact same
  | broken | reported => exact left_releaseSlot _
  | @panicked inv s stage message hook =>
    have quiet := calm stage message rfl
    have nothing : Stage.owing stage = false := by
      cases stage with
      | body => exact absurd rfl hook
      | beforeCommand | beforeGlobal => cases quiet
      | _ => rfl
    simp [left_abandon, nothing]
  | _ => rfl

theorem left_of_goes (goes : Goes d m marks last) (calmAt : CalmAt m.point) (calm : Calm marks) :
    left last.service = left m.service := by
  induction goes with
  | stop => rfl
  | step _ first _ ih =>
    obtain ⟨now, later⟩ := calm_append.1 calm
    exact (ih (calmAt_of_step first now) later).trans (left_of_step first calmAt)

/-- A course leaves no hooks, unless one around the body panics. -/
theorem left_of_course (course : Course d inv legs m) (calm : Calm (trace legs)) :
    ∀ leg ∈ legs, left leg.after.service = left leg.before := by
  induction course with
  | begun goes =>
    rw [trace, List.flatMap_singleton] at calm
    exact List.forall_mem_singleton.2 (left_of_goes goes (fun _ _ => nofun) calm)
  | @resumed legs m last later r more earlier first goes ih =>
    rw [trace, List.flatMap_append, List.flatMap_singleton] at calm
    obtain ⟨before, after⟩ := calm_append.1 calm
    obtain ⟨woken, onward⟩ := calm_append.1 after
    have resting : CalmAt m.point := calmAt_rest (rests_of_course earlier)
    refine List.forall_mem_append.2 ⟨ih before, List.forall_mem_singleton.2 ?_⟩
    exact (left_of_goes goes (calmAt_of_step first woken) onward).trans (left_of_step first resting)

end ChatCommands.LeftHooks
