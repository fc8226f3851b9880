import ChatCommands.Dispatch.Aftermath
import ChatCommands.Proofs.CourseLegs
import ChatCommands.Proofs.LeftHooks
import ChatCommands.Proofs.RegistryGrowth
import Mathlib.Data.List.Forall2

/-! The hooks after the body. An invocation whose arguments are bound owes both of them, the
command's own and the dispatcher's. It begins them itself on its way out, or, if it is torn down
before, leaves them to be run on their own (`Alone`). Either way each is begun once, with one
exception: torn down while the command's own hook waits, an invocation leaves nothing, and the
dispatcher's hook is never begun (`hook_skipped_while_own_waits`). -/
namespace ChatCommands.AfterHooks
open InvocationCourse LeftHooks Dispatcher

variable {σ : Type} {d : Dispatcher σ} {own : Option (Hook σ)} {inv : Invocation σ}
  {m last : Moment σ} {r : List Mark × Moment σ} {marks : List Mark} {legs : List (Leg σ)}

/-- Which of the hooks after the body. -/
inductive AfterHook where
  | command
  | global

namespace AfterHook

/-- The mark tells that the hook ran. -/
def isRun : AfterHook → Mark → Bool
  | .command, .ran .afterCommand _ => true
  | .global, .ran .afterGlobal _ => true
  | _, _ => false

/-- How often the hook has ended, as far as the marks tell. -/
def ended (hook : AfterHook) (marks : List Mark) : Nat := marks.countP hook.isRun

/-- How often the hook is under way in a stage. -/
def runsIn : AfterHook → Stage → Nat
  | .command, .afterCommand _ => 1
  | .global, .afterGlobal _ _ => 1
  | _, _ => 0

/-- How often the hook is under way at a point. -/
def waitsAt (hook : AfterHook) : Point σ → Nat
  | .waiting stage _ => hook.runsIn stage
  | _ => 0

/-- How often the hook was begun by the time an invocation is at a point. -/
def begun (hook : AfterHook) (marks : List Mark) (point : Point σ) : Nat :=
  hook.ended marks + hook.waitsAt point

/-- How often the hook is owed by a command with a hook of its own, or none. -/
def due (own : Option (Hook σ)) : AfterHook → Nat
  | .command => if own.isSome then 1 else 0
  | .global => 1

theorem ended_append (hook : AfterHook) (first second : List Mark) :
    hook.ended (first ++ second) = hook.ended first + hook.ended second := List.countP_append

@[simp] theorem ended_nil (hook : AfterHook) : hook.ended [] = 0 := rfl

@[simp] theorem ended_cons (hook : AfterHook) (mark : Mark) (rest : List Mark) :
    hook.ended (mark :: rest) = hook.ended rest + if hook.isRun mark then 1 else 0 :=
  List.countP_cons

end AfterHook

variable {hook : AfterHook}

/-! ## Hooks along a course -/

/-- How often a hook has ended between the two of them. -/
def endedBetween (own : Option (Hook σ)) : AfterHook → Nat
  | .command => AfterHook.command.due own
  | .global => 0

/-- How often a hook has ended when a stage begins. -/
def endedBefore (own : Option (Hook σ)) (hook : AfterHook) : Stage → Nat
  | .onCommand | .beforeCommand _ | .beforeGlobal _ | .body | .afterCommand _ => 0
  | .afterGlobal _ _ => endedBetween own hook
  | .completion | .handler _ _ => hook.due own

/-- How often a hook has ended when a stage is left. -/
def endedAfter (own : Option (Hook σ)) (hook : AfterHook) : Stage → Nat
  | .onCommand | .beforeCommand _ | .beforeGlobal _ | .body => 0
  | .afterCommand _ => endedBetween own hook
  | .afterGlobal _ _ | .completion | .handler _ _ => hook.due own

/-- How often a hook has ended at a point, once the arguments are bound. -/
def endedAt (own : Option (Hook σ)) (hook : AfterHook) : Point σ → Nat
  | .arrived | .entering | .queued _ | .binding | .preparing _ | .leaving _ => 0
  | .waiting stage _ => endedBefore own hook stage
  | .left stage _ => endedAfter own hook stage
  | .concluding _ | .asking _ _ | .ended => hook.due own

/-- The arguments are still to be bound. -/
def Point.isOpen : Point σ → Bool
  | .arrived | .entering | .queued _ | .binding | .left .onCommand _ | .waiting .onCommand _ => true
  | _ => false

/-- What the marks tell of the after hooks when an invocation is at a point. -/
structure Reckoned (own : Option (Hook σ)) (marks : List Mark) (point : Point σ) : Prop where
  unbound : Point.isOpen point = true →
    .bound none ∉ marks ∧ ∀ hook : AfterHook, hook.ended marks = 0
  ended : Point.isOpen point = false → .bound none ∈ marks →
    ∀ hook : AfterHook, hook.ended marks = endedAt own hook point
  has : ∀ failure pause, point = .waiting (.afterCommand failure) pause → own.isSome

theorem reckoned_staged {stage : Stage} {p : Progress σ × Service σ}
    (later : stage ≠ .onCommand) (has : ∀ failure, stage = .afterCommand failure → own.isSome)
    (before : .bound none ∈ marks →
      ∀ hook : AfterHook, hook.ended marks = endedBefore own hook stage) :
    Reckoned own (marks ++ (staged inv stage p).1) (staged inv stage p).2.point := by
  obtain ⟨progress, t⟩ := p
  cases progress with
  | paused pause =>
    rw [staged, List.append_nil]
    refine ⟨fun isOpen => ?_, fun _ => before, fun failure _ waits => ?_⟩
    · cases stage with
      | onCommand => exact absurd rfl later
      | _ => cases isOpen
    · cases waits
      exact has failure rfl
  | ended outcome =>
    refine ⟨fun isOpen => ?_, fun _ bound hook => ?_, by simp [staged]⟩
    · cases stage with
      | onCommand => exact absurd rfl later
      | _ => cases isOpen
    · have earlier : .bound none ∈ marks := by simpa [staged] using bound
      rw [staged, AfterHook.ended_append, before earlier, endedAt]
      cases stage with
      | onCommand => exact absurd rfl later
      | afterCommand failure =>
        have some := has failure rfl
        cases hook <;> simp [AfterHook.isRun, endedBefore, endedAfter, endedBetween, AfterHook.due,
          partOf, some]
      | _ => cases hook <;> simp [AfterHook.isRun, endedBefore, endedAfter, endedBetween,
          AfterHook.due, partOf]

/-- As long as the arguments are still to be bound, no hook has run. -/
theorem reckoned_open {more : List Mark} {next : Point σ} (opens : Point.isOpen next = true)
    (fresh : .bound none ∉ marks ∧ ∀ hook : AfterHook, hook.ended marks = 0)
    (unbound : .bound none ∉ more) (silent : ∀ hook : AfterHook, hook.ended more = 0) :
    Reckoned own (marks ++ more) next := by
  refine ⟨fun _ => ⟨?_, fun hook => ?_⟩, fun closed => ?_, fun failure pause waits => ?_⟩
  · rw [List.mem_append, not_or]
    exact ⟨fresh.1, unbound⟩
  · rw [AfterHook.ended_append, fresh.2, silent]
  · rw [opens] at closed
    cases closed
  · rw [waits] at opens
    cases opens

/-- Past the binding, marks of no after hook leave as many of them as there were. -/
theorem reckoned_closed {more : List Mark} {next : Point σ} (closed : Point.isOpen next = false)
    (rests : ∀ failure pause, next ≠ .waiting (.afterCommand failure) pause)
    (ended : .bound none ∈ marks → ∀ hook : AfterHook, hook.ended marks = endedAt own hook next)
    (unbound : .bound none ∉ more) (silent : ∀ hook : AfterHook, hook.ended more = 0) :
    Reckoned own (marks ++ more) next := by
  refine ⟨fun opens => ?_, fun _ bound hook => ?_, fun failure pause waits => ?_⟩
  · rw [closed] at opens
    cases opens
  · have earlier := (List.mem_append.1 bound).resolve_right unbound
    rw [AfterHook.ended_append, silent, Nat.add_zero, ended earlier]
  · exact absurd waits (rests failure pause)

theorem reckoned_onCommand {p : Progress σ × Service σ}
    (fresh : .bound none ∉ marks ∧ ∀ hook : AfterHook, hook.ended marks = 0) :
    Reckoned own (marks ++ (staged inv .onCommand p).1) (staged inv .onCommand p).2.point := by
  obtain ⟨progress, t⟩ := p
  cases progress with
  | paused pause => exact reckoned_open rfl fresh List.not_mem_nil fun _ => rfl
  | ended outcome =>
    exact reckoned_open rfl fresh (by simp [staged]) fun hook => by cases hook <;> rfl

/-- A step keeps count of the after hooks. -/
theorem reckoned_of_step (step : Step d m r) (calmAt : CalmAt m.point)
    (reckoned : Reckoned m.inv.command.parts.after marks m.point) :
    Reckoned m.inv.command.parts.after (marks ++ r.1) r.2.point := by
  obtain ⟨unbound, ended, has⟩ := reckoned
  cases step with
  | @passed inv s checks =>
    have checked : Reckoned inv.command.parts.after (marks ++ [.checked none])
        (.arrived : Point σ) :=
      reckoned_open rfl (unbound rfl) (by simp) fun hook => by cases hook <;> rfl
    rw [told, List.append_cons]
    exact reckoned_onCommand (checked.unbound rfl)
  | cooled | unlimited | admitted | queued | called | inLine =>
    exact reckoned_open rfl (unbound rfl) (by simp) fun hook => by cases hook <;> rfl
  | refused | denied | saturated | unbound | broken =>
    exact reckoned_closed rfl (by simp) (fun bound => absurd bound (unbound rfl).1)
      (by simp) fun hook => by cases hook <;> rfl
  | bound =>
    refine ⟨by simp [Point.isOpen], fun _ _ hook => ?_, by simp⟩
    rw [AfterHook.ended_append, (unbound rfl).2]
    cases hook <;> rfl
  | beforeCommand | beforeGlobal | body | afterGlobal | completion | commandHandler | moduleHandler
  | globalHandler => exact reckoned_staged (by simp) (by simp) (ended rfl)
  | afterCommand own =>
    exact reckoned_staged (by simp) (fun _ _ => Option.isSome_of_eq_some own) (ended rfl)
  | noBeforeCommand | beforeCommandFailed | beforeGlobalFailed | worked | failed | succeeded
  | reported | ended | noCommandHandler | noModuleHandler | completed | settled
  | commandHandlerFailed | moduleHandlerFailed | globalHandlerFailed =>
    exact reckoned_closed rfl (by simp) (ended rfl) (by simp)
      fun hook => by cases hook <;> rfl
  | noAfterCommand lacks =>
    refine reckoned_closed rfl (by simp) (fun bound hook => ?_) (by simp)
      fun hook => by cases hook <;> rfl
    rw [ended rfl bound]
    cases hook <;> simp [endedAt, endedAfter, endedBetween, AfterHook.due, lacks]
  | @panicked inv s stage message hook =>
    have quiet := calmAt stage message rfl
    cases stage with
    | body => exact absurd rfl hook
    | beforeCommand | beforeGlobal | afterCommand | afterGlobal => cases quiet
    | onCommand =>
      exact reckoned_closed rfl (by simp) (fun bound => absurd bound (unbound rfl).1)
        List.not_mem_nil fun _ => rfl
    | completion | handler =>
      exact reckoned_closed rfl (by simp) (ended rfl) List.not_mem_nil fun _ => rfl
  | @woken inv s stage pause =>
    cases stage with
    | onCommand => exact reckoned_onCommand (unbound rfl)
    | afterCommand failure =>
      exact reckoned_staged (by simp) (fun _ _ => has failure pause rfl) (ended rfl)
    | _ => exact reckoned_staged (by simp) (by simp) (ended rfl)

theorem reckoned_of_goes (goes : Goes d m marks last) (calmAt : CalmAt m.point) (calm : Calm marks)
    {before : List Mark} (reckoned : Reckoned m.inv.command.parts.after before m.point) :
    Reckoned m.inv.command.parts.after (before ++ marks) last.point := by
  induction goes generalizing before with
  | stop =>
    rw [List.append_nil]
    exact reckoned
  | step _ first _ ih =>
    obtain ⟨now, later⟩ := calm_append.1 calm
    have onward := reckoned_of_step first calmAt reckoned
    rw [← command_of_step first] at onward ⊢
    rw [← List.append_assoc]
    exact ih (calmAt_of_step first now) later onward

/-- Along every course, the marks tell how often the after hooks ran. -/
theorem reckoned_of_course (course : Course d inv legs m) (calm : Calm (trace legs)) :
    Reckoned inv.command.parts.after (trace legs) m.point := by
  have arrived : Reckoned inv.command.parts.after [] (.arrived : Point σ) :=
    ⟨fun _ => ⟨List.not_mem_nil, fun _ => rfl⟩, by simp [Point.isOpen], by simp⟩
  induction course with
  | begun goes =>
    rw [trace, List.flatMap_singleton] at calm ⊢
    exact reckoned_of_goes goes (by simp [CalmAt]) calm arrived
  | @resumed legs m last later r more earlier first goes ih =>
    rw [trace, List.flatMap_append, List.flatMap_singleton] at calm ⊢
    obtain ⟨before, after⟩ := calm_append.1 calm
    obtain ⟨woken, onward⟩ := calm_append.1 after
    have resting : CalmAt m.point := calmAt_rest (rests_of_course earlier)
    have here := ih before
    rw [← command_of_course earlier] at here ⊢
    have next := reckoned_of_step first resting here
    rw [← command_of_step first] at next
    have final := reckoned_of_goes goes (calmAt_of_step first woken) onward next
    rw [command_of_step first, List.append_assoc] at final
    exact final

/-! ## Hooks on their own -/

/-- Hooks on their own go on from where the script of one of them got to, with the marks of those
that end, and then wait or are over. -/
inductive GoesOn (d : Dispatcher σ) (w : Aftermath σ) :
    AftermathStage → Progress σ × Service σ → List Mark → Option (AftermathStage × Pause σ) →
      Prop where
  | commandWaits {pause s} : GoesOn d w .command (.paused pause, s) [] (some (.command, pause))
  | commandPanics {message s} : GoesOn d w .command (.ended (.panicked message), s)
      [.ran .afterCommand (.panicked message)] none
  | commandEnds {outcome s marks wait} (returns : Returns outcome)
      (onward : GoesOn d w (.global (faultOf outcome)) ((d.hooks.after w.ctx).run w.runner s)
        marks wait) :
      GoesOn d w .command (.ended outcome, s) (.ran .afterCommand outcome :: marks) wait
  | globalWaits {failure pause s} :
      GoesOn d w (.global failure) (.paused pause, s) [] (some (.global failure, pause))
  | globalEnds {failure outcome s} :
      GoesOn d w (.global failure) (.ended outcome, s) [.ran .afterGlobal outcome] none

/-- Hooks on their own up to a wait or, with nothing to wait for, to their end, whatever others do
to the service in between. -/
inductive Alone (d : Dispatcher σ) (w : Aftermath σ) :
    List Mark → Option (AftermathStage × Pause σ) → Prop where
  | begun {own s marks wait} (has : w.hook = some own)
      (goes : GoesOn d w .command ((own w.ctx).run w.runner s) marks wait) : Alone d w marks wait
  | begunWithout {s marks wait} (lacks : w.hook = none)
      (goes : GoesOn d w (.global none) ((d.hooks.after w.ctx).run w.runner s) marks wait) :
      Alone d w (.lacks .afterCommand :: marks) wait
  | resumed {stage pause s marks more wait} (earlier : Alone d w marks (some (stage, pause)))
      (goes : GoesOn d w stage (pause.resume w.runner s) more wait) : Alone d w (marks ++ more) wait

variable {w : Aftermath σ}

theorem goesOn_global (failure : Option Fault) (p : Progress σ × Service σ) :
    ∃ marks, GoesOn d w (.global failure) p marks (Aftermath.goOnGlobal failure p).1 := by
  obtain ⟨progress, s⟩ := p
  cases progress with
  | ended outcome => exact ⟨_, .globalEnds⟩
  | paused pause => exact ⟨_, .globalWaits⟩

theorem goesOn_command (p : Progress σ × Service σ) :
    ∃ marks, GoesOn d w .command p marks (w.goOnCommand d p).1 := by
  obtain ⟨progress, s⟩ := p
  cases progress with
  | paused pause => exact ⟨_, .commandWaits⟩
  | ended outcome =>
    cases outcome with
    | panicked message => exact ⟨_, .commandPanics⟩
    | done =>
      obtain ⟨marks, goes⟩ := goesOn_global none ((d.hooks.after w.ctx).run w.runner s)
      exact ⟨_, .commandEnds (fun _ => nofun) goes⟩
    | failed fault =>
      obtain ⟨marks, goes⟩ := goesOn_global (some fault) ((d.hooks.after w.ctx).run w.runner s)
      exact ⟨_, .commandEnds (fun _ => nofun) goes⟩

/-- Hooks that begin on their own, whatever service they find, are on a way of theirs. -/
theorem exists_alone (d : Dispatcher σ) (w : Aftermath σ) (s : Service σ) :
    ∃ marks, Alone d w marks (w.begin d s).1 := by
  unfold Aftermath.begin
  cases has : w.hook with
  | some own =>
    obtain ⟨marks, goes⟩ := goesOn_command (d := d) (w := w) ((own w.ctx).run w.runner s)
    exact ⟨marks, .begun has goes⟩
  | none =>
    obtain ⟨marks, goes⟩ := goesOn_global none ((d.hooks.after w.ctx).run w.runner s)
    exact ⟨_, .begunWithout has goes⟩

/-- Hooks on their own that are taken up again stay on their way. -/
theorem exists_alone_resumed {stage : AftermathStage} {pause : Pause σ}
    (earlier : Alone d w marks (some (stage, pause))) (s : Service σ) :
    ∃ more, Alone d w (marks ++ more) (w.resume d stage pause s).1 := by
  cases stage with
  | command =>
    obtain ⟨more, goes⟩ := goesOn_command (d := d) (w := w) (pause.resume w.runner s)
    exact ⟨more, .resumed earlier goes⟩
  | global failure =>
    obtain ⟨more, goes⟩ := goesOn_global failure (pause.resume w.runner s)
    exact ⟨more, .resumed earlier goes⟩

/-- How often hooks on their own have ended when they wait in a stage. -/
def endedAlone (own : Option (Hook σ)) (hook : AfterHook) : AftermathStage → Nat
  | .command => 0
  | .global _ => endedBetween own hook

/-- How often hooks on their own have ended by the time of a wait, or by the end. -/
def endedBy (own : Option (Hook σ)) (hook : AfterHook) :
    Option (AftermathStage × Pause σ) → Nat
  | some (stage, _) => endedAlone own hook stage
  | none => hook.due own

theorem ended_of_goesOn {stage : AftermathStage} {p : Progress σ × Service σ}
    {wait : Option (AftermathStage × Pause σ)} (goes : GoesOn d w stage p marks wait)
    (own : stage = .command → w.hook.isSome) (calm : Calm marks) :
    endedAlone w.hook hook stage + hook.ended marks = endedBy w.hook hook wait := by
  induction goes with
  | commandWaits | globalWaits => rfl
  | commandPanics => cases calm .afterCommand _ List.mem_cons_self
  | commandEnds returns onward ih =>
    have later := ih nofun fun part message member =>
      calm part message (List.mem_cons_of_mem _ member)
    rw [← later, AfterHook.ended_cons]
    cases hook <;>
      simp [endedAlone, endedBetween, AfterHook.isRun, AfterHook.due, own rfl, Nat.add_comm]
  | globalEnds =>
    cases hook <;> simp [endedAlone, endedBetween, endedBy, AfterHook.isRun, AfterHook.due]

theorem command_of_goesOn {stage : AftermathStage} {p : Progress σ × Service σ} {pause : Pause σ}
    (goes : GoesOn d w stage p marks (some (.command, pause))) : stage = .command := by
  generalize waits : some (AftermathStage.command, pause) = wait at goes
  induction goes with
  | commandWaits | commandEnds => rfl
  | globalWaits | globalEnds | commandPanics => cases waits

/-- Only a hook that there is can wait. -/
theorem own_of_alone {wait : Option (AftermathStage × Pause σ)} (alone : Alone d w marks wait) :
    ∀ pause, wait = some (.command, pause) → w.hook.isSome := by
  induction alone with
  | begun has => exact fun _ _ => Option.isSome_of_eq_some has
  | begunWithout lacks goes =>
    rintro pause rfl
    cases command_of_goesOn goes
  | @resumed stage before s marks more wait earlier goes ih =>
    rintro pause rfl
    cases command_of_goesOn goes
    exact ih before rfl

/-- Hooks on their own that are over ran each hook as often as it was owed. -/
theorem ended_of_alone {wait : Option (AftermathStage × Pause σ)} (alone : Alone d w marks wait)
    (calm : Calm marks) : hook.ended marks = endedBy w.hook hook wait := by
  induction alone with
  | begun has goes =>
    rw [← ended_of_goesOn goes (fun _ => Option.isSome_of_eq_some has) calm, endedAlone,
      Nat.zero_add]
  | begunWithout lacks goes =>
    have later : Calm _ := fun part message member =>
      calm part message (List.mem_cons_of_mem _ member)
    rw [← ended_of_goesOn goes nofun later, AfterHook.ended_cons]
    cases hook <;> simp [endedAlone, endedBetween, AfterHook.isRun, AfterHook.due, lacks]
  | @resumed stage pause s marks more wait earlier goes ih =>
    obtain ⟨before, after⟩ := calm_append.1 calm
    rw [AfterHook.ended_append, ih before]
    refine ended_of_goesOn goes (fun own => ?_) after
    cases own
    exact own_of_alone earlier pause rfl

/-! ## Every end -/

/-- Both after hooks are still to begin at a point. -/
def Point.owing : Point σ → Bool
  | .waiting stage _ => Stage.owing stage
  | _ => false

theorem owed_of_course (course : Course d inv legs m) : owed m.inv = owed inv := by
  refine CourseLegs.invariant_of_course (P := fun other _ => owed other = owed inv) rfl
    (fun step same => ?_) course
  rw [inv_of_step step]
  exact same

theorem left_of_cancel (course : Course d inv legs m) (later : Service σ) :
    left ((m.perform d).1.cancel later) =
      left later ++ if Point.owing m.point then [owed inv] else [] := by
  have rests := rests_of_course course
  rw [← owed_of_course course]
  obtain ⟨inv, point, s⟩ := m
  cases point with
  | waiting stage pause => exact (left_abandon inv stage).trans (by rw [left_drop]; rfl)
  | queued place => simp [Moment.perform, Handling.cancel, left_handOver, Point.owing]
  | ended => simp [Moment.perform, Handling.cancel, Point.owing]
  | _ => exact absurd rests id

/-- What an invocation with bound arguments has begun wherever it rests, except while the command's
hook waits: neither hook, if they are still to begin, and else both. -/
theorem begun_of_course (course : Course d inv legs m) (bound : .bound none ∈ trace legs)
    (calm : Calm (trace legs))
    (elsewhere : ∀ failure pause, m.point ≠ .waiting (.afterCommand failure) pause) :
    hook.begun (trace legs) m.point =
      if Point.owing m.point then 0 else hook.due inv.command.parts.after := by
  have rests := rests_of_course course
  obtain ⟨unbound, ended, -⟩ := reckoned_of_course course calm
  obtain ⟨other, point, s⟩ := m
  rw [AfterHook.begun]
  cases point with
  | queued place => exact absurd bound (unbound rfl).1
  | ended => exact ended rfl bound hook
  | waiting stage pause =>
    cases stage with
    | onCommand => exact absurd bound (unbound rfl).1
    | afterCommand failure => exact absurd rfl (elsewhere failure pause)
    | beforeCommand | beforeGlobal | body | completion | handler =>
      rw [ended rfl bound]
      cases hook <;> rfl
    | afterGlobal body own =>
      rw [ended rfl bound]
      cases hook <;> rfl
  | _ => exact absurd rests id

/-- An invocation whose arguments are bound begins each after hook that it owes once, if no hook
around the body panics. It does so itself if nobody tears it down. If it is torn down wherever it
rests, other than while the command's own hook waits, each hook is either begun already or left and
begun by those that run what is left; and whoever begins that and takes it up again is on a way that
the hooks have on their own. -/
theorem after_hooks_begin_once (course : Course d inv legs m) (bound : .bound none ∈ trace legs)
    (calm : Calm (trace legs)) :
    (∀ leg ∈ legs, left leg.after.service = left leg.before) ∧
    (m.point = .ended → ∀ hook : AfterHook,
      hook.begun (trace legs) m.point = hook.due inv.command.parts.after) ∧
    ((∀ failure pause, m.point ≠ .waiting (.afterCommand failure) pause) → ∀ later, ∃ ws,
      left ((m.perform d).1.cancel later) = left later ++ ws ∧ (∀ w ∈ ws, w = owed inv) ∧
      ∀ runs, List.Forall₂ (fun w marks => Alone d w marks none) ws runs → Calm runs.flatten →
        ∀ hook : AfterHook, hook.begun (trace legs) m.point + hook.ended runs.flatten =
          hook.due inv.command.parts.after) ∧
    (∀ w s, ∃ marks, Alone d w marks (w.begin d s).1) ∧
    ∀ w marks stage pause s, Alone d w marks (some (stage, pause)) →
      ∃ more, Alone d w (marks ++ more) (w.resume d stage pause s).1 := by
  refine ⟨left_of_course course calm, fun finished hook => ?_, fun elsewhere later => ?_,
    exists_alone d, fun w marks stage pause s earlier => exists_alone_resumed earlier s⟩
  · rw [begun_of_course course bound calm fun _ _ waits => by rw [finished] at waits; cases waits]
    rw [finished]
    rfl
  · refine ⟨_, left_of_cancel course later, fun w member => ?_, fun runs run quiet hook => ?_⟩
    · split at member
      · exact List.mem_singleton.1 member
      · cases member
    · rw [begun_of_course course bound calm elsewhere]
      split at run
      · rename_i owing
        obtain ⟨marks, _, alone, nothing, rfl⟩ := List.forall₂_cons_left_iff.1 run
        cases nothing
        rw [List.flatten_singleton] at quiet
        rw [if_pos owing, Nat.zero_add, List.flatten_singleton]
        exact ended_of_alone alone quiet
      · rename_i begun
        cases run
        rw [if_neg begun]
        rfl

/-- A job that does one thing and then another on its way out. -/
def job (work tidying : Script Unit) : CommandParts Unit where
  name := "job"
  body := some fun _ _ => work
  after := some fun _ => tidying

def bare : Dispatcher Unit where
  directory := .ofLists [] [] [] []

def working (work tidying : Script Unit) : Invocation Unit where
  ctx :=
    { author := ⟨1, "alice", false, [], Permissions.none⟩
      origin := ⟨.direct, none, { id := 9, name := "" }⟩
      content := "!job", responder := .discard, directory := bare.directory }
  target := ⟨{ qualified := "job", parts := job work tidying }, [], "job", [], ""⟩

def offering (work tidying : Script Unit) : Service Unit where
  app := ()
  registry := RegistryGrowth.grown false [.register (.declare (job work tidying) false [])]

/-- Torn down while it waits for a permit to do its work, a job leaves both hooks, and they run. -/
theorem torn_down_work_is_tidied :
    ∃ legs m marks, Course bare (working (.permit .done) .done) legs m ∧
      .bound none ∈ trace legs ∧ Calm (trace legs) ∧
      left ((m.perform bare).1.cancel m.service) = [owed (working (.permit .done) .done)] ∧
      Alone bare (owed (working (.permit .done) .done)) marks none ∧ Calm marks ∧
      ∀ hook : AfterHook, hook.begun (trace legs) m.point + hook.ended marks = 1 := by
  obtain ⟨marks, m, goes, told, ⟨pause, waits⟩, nothing, leaves⟩ :
      ∃ marks m, Goes bare ⟨working (.permit .done) .done, .arrived, offering (.permit .done) .done⟩
          marks m ∧
        marks = [.checked none, .ran .onCommand .done, .cooled none, .unlimited, .bound none,
          .lacks .beforeCommand, .ran .beforeGlobal .done] ∧
        (∃ pause, m.point = .waiting .body pause) ∧ left m.service = [] ∧
        left ((m.perform bare).1.cancel m.service) = [owed (working (.permit .done) .done)] :=
    ⟨_, _, .step id (.passed rfl) <| .step id (.cooled (fun _ => nofun) rfl) <|
      .step id (.unlimited rfl) <| .step id (.bound rfl rfl) <| .step id (.noBeforeCommand rfl) <|
      .step id .beforeGlobal <| .step id (.body rfl) <| .stop trivial, rfl, ⟨_, rfl⟩, rfl, rfl⟩
  have course : Course bare (working (.permit .done) .done) [⟨_, marks, m⟩] m := .begun goes
  have bound : .bound none ∈ trace [⟨offering (.permit .done) .done, marks, m⟩] := by
    simp [trace, told]
  have calm : Calm (trace [⟨offering (.permit .done) .done, marks, m⟩]) := by
    simp [trace, told, Calm]
  have run : Alone bare (owed (working (.permit .done) .done))
      [.ran .afterCommand .done, .ran .afterGlobal .done] none :=
    .begun (s := m.service) rfl (.commandEnds (fun _ => nofun) .globalEnds)
  have quiet : Calm [.ran .afterCommand .done, .ran .afterGlobal .done] := by simp [Calm]
  obtain ⟨-, -, torn, -⟩ := after_hooks_begin_once course bound calm
  obtain ⟨ws, left, -, counts⟩ :=
    torn (fun _ _ other => by rw [waits] at other; cases other) m.service
  rw [leaves, nothing, List.nil_append] at left
  subst left
  refine ⟨_, m, _, course, bound, calm, leaves, run, quiet, fun hook => ?_⟩
  exact (counts [_] (.cons run .nil) quiet hook).trans (by cases hook <;> rfl)

/-- Torn down while the job's own hook waits for a permit, nothing is left, and the dispatcher's
hook never begins. -/
theorem hook_skipped_while_own_waits :
    ∃ legs m, Course bare (working .done (.permit .done)) legs m ∧
      .bound none ∈ trace legs ∧ Calm (trace legs) ∧
      left ((m.perform bare).1.cancel m.service) = [] ∧
      AfterHook.command.begun (trace legs) m.point = 1 ∧
      AfterHook.global.begun (trace legs) m.point = 0 := by
  obtain ⟨marks, m, goes, told, leaves, own, shared⟩ :
      ∃ marks m, Goes bare ⟨working .done (.permit .done), .arrived, offering .done (.permit .done)⟩
          marks m ∧
        marks = [.checked none, .ran .onCommand .done, .cooled none, .unlimited, .bound none,
          .lacks .beforeCommand, .ran .beforeGlobal .done, .ran .body .done] ∧
        left ((m.perform bare).1.cancel m.service) = [] ∧
        AfterHook.command.begun marks m.point = 1 ∧ AfterHook.global.begun marks m.point = 0 :=
    ⟨_, _, .step id (.passed rfl) <| .step id (.cooled (fun _ => nofun) rfl) <|
      .step id (.unlimited rfl) <| .step id (.bound rfl rfl) <| .step id (.noBeforeCommand rfl) <|
      .step id .beforeGlobal <| .step id (.body rfl) <| .step id .worked <|
      .step id (.afterCommand rfl) <| .stop trivial, rfl, rfl, rfl, rfl⟩
  have whole : trace [⟨offering .done (.permit .done), marks, m⟩] = marks :=
    List.flatMap_singleton ..
  refine ⟨_, m, .begun goes, ?_, ?_, leaves, ?_, ?_⟩
  · simp [trace, told]
  · simp [trace, told, Calm]
  · rwa [whole]
  · rwa [whole]

end ChatCommands.AfterHooks
