import ChatCommands.Proofs.SlotDeals

/-! What an invocation does to the counters, the limits and the modules on its course. Scripts touch
none of them. So the counter of handler failures grows by the handlers that failed, no cooldown and
no slot changes as long as none was asked, and no module is loaded or unloaded. -/
namespace ChatCommands.CourseEffects
open InvocationCourse CourseLegs SlotDeals

variable {σ : Type} {d : Dispatcher σ} {inv : Invocation σ} {s t : Service σ} {m : Moment σ}
  {r : List Mark × Moment σ}

/-! ## Scripts -/

/-- The counters and the limits of one service are those of another. -/
structure Untouched (s t : Service σ) : Prop where
  metrics : t.metrics = s.metrics
  cooldowns : t.cooldowns = s.cooldowns
  slots : t.slots = s.slots

theorem Untouched.refl (s : Service σ) : Untouched s s := ⟨rfl, rfl, rfl⟩

theorem Untouched.trans {u : Service σ} (first : Untouched s t) (second : Untouched t u) :
    Untouched s u :=
  ⟨second.metrics.trans first.metrics, second.cooldowns.trans first.cooldowns,
    second.slots.trans first.slots⟩

theorem untouched_of_spares (spares : ScriptFrame.Spares s t) : Untouched s t :=
  ⟨spares.metrics, spares.cooldowns, spares.slots⟩

theorem run_untouched (runner : Runner) (script : Script σ) (s : Service σ) :
    Untouched s (script.run runner s).2 :=
  untouched_of_spares (ScriptFrame.run_spares runner script s)

theorem resume_untouched (runner : Runner) (pause : Pause σ) (s : Service σ) :
    Untouched s (pause.resume runner s).2 :=
  untouched_of_spares (ScriptFrame.resume_spares runner pause s)

/-! ## Failures of error handlers -/

/-- An error handler failed. -/
def failsHandling : Mark → Bool
  | .ran (.handler _ _) (.failed _) => true
  | _ => false

/-- How many error handlers failed. -/
def failures (marks : List Mark) : Nat := marks.countP failsHandling

/-- A failure of an error handler that is still to be counted. -/
def uncounted : Point σ → Nat
  | .left (.handler _ _) (.failed _) => 1
  | _ => 0

/-- How many failures of error handlers are counted once those known of are. -/
def reckoned (m : Moment σ) : Nat := m.service.metrics.handlerFailures + uncounted m.point

theorem reckoned_staged (stage : Stage) {p : Progress σ × Service σ}
    (kept : Untouched s p.2) :
    reckoned (staged inv stage p).2 =
      s.metrics.handlerFailures + failures (staged inv stage p).1 := by
  obtain ⟨progress, t⟩ := p
  have same : t.metrics = s.metrics := kept.metrics
  cases progress with
  | paused => simp [staged, reckoned, uncounted, failures, same]
  | ended outcome =>
    cases stage <;> cases outcome <;>
      simp [staged, partOf, reckoned, uncounted, failures, failsHandling, same]

theorem reckoned_launch (stage : Stage) (script : Script σ) :
    reckoned (launch inv stage script s).2 =
      s.metrics.handlerFailures + failures (launch inv stage script s).1 :=
  reckoned_staged stage (run_untouched inv.runner script s)

@[simp] theorem failures_told (mark : Mark) (r : List Mark × Moment σ) :
    failures (told mark r).1 = failures r.1 + failures [mark] := by
  simp [told, failures, List.countP_cons]

theorem metrics_of_acquire {span : Option Span} {c : Command σ} {ctx : Context}
    {denial : Option Denial} (counts : s.acquire span c ctx = (denial, t)) :
    t.metrics = s.metrics :=
  (ScriptFrame.spares_of_acquire counts).metrics

@[simp] theorem metrics_releaseSlot : (s.releaseSlot inv).metrics = s.metrics := by
  obtain ⟨_, _, shape⟩ := releaseSlot_eq s inv
  rw [shape]

@[simp] theorem handlerFailures_abandon (stage : Stage) :
    (s.abandon inv stage).metrics.handlerFailures = s.metrics.handlerFailures := by
  cases stage <;> simp [Service.abandon, Service.countCommand, Metrics.command, Service.signal]

theorem reckoned_of_step (step : Step d m r) : reckoned r.2 = reckoned m + failures r.1 := by
  cases step with
  | @panicked inv s stage message hook =>
    cases stage <;> simp [reckoned, uncounted, failures]
  | passed =>
    rw [failures_told]
    refine (reckoned_launch _ _).trans ?_
    simp [reckoned, uncounted, failures, failsHandling]
  | afterGlobal returns =>
    refine (reckoned_launch _ _).trans ?_
    simp [reckoned, uncounted]
  | beforeGlobal | completion | globalHandler | beforeCommand | body | afterCommand
  | commandHandler | moduleHandler =>
    refine (reckoned_launch _ _).trans ?_
    simp [reckoned, uncounted, Metrics.error, Service.note]
  | @woken inv s stage pause => exact reckoned_staged stage (resume_untouched _ _ s)
  | cooled _ counts | denied _ counts =>
    have same := metrics_of_acquire counts
    simp [reckoned, uncounted, failures, failsHandling, same, Metrics.denial]
  | _ => simp [reckoned, uncounted, failures, failsHandling, turnedAway, lined, Service.note,
      Metrics.rejection, Service.countCommand, Metrics.command, Metrics.error,
      Service.handlerFailed, Metrics.handlerFailure, Service.spend]

theorem uncounted_at_rest (rests : m.point.AtRest) : uncounted m.point = 0 := by
  obtain ⟨inv, point, s⟩ := m
  cases point with
  | left => exact absurd rests id
  | _ => rfl

theorem failures_append (first second : List Mark) :
    failures (first ++ second) = failures first + failures second := List.countP_append

theorem reckoned_of_goes {last : Moment σ} {marks : List Mark} (goes : Goes d m marks last) :
    reckoned last = reckoned m + failures marks := by
  induction goes with
  | stop => rfl
  | step _ first _ ih => rw [ih, reckoned_of_step first, failures_append, Nat.add_assoc]

/-- On every leg the counter grows by the handlers that failed on it. -/
theorem failures_of_course {legs : List (Leg σ)} (course : Course d inv legs m) :
    ∀ leg ∈ legs, leg.after.service.metrics.handlerFailures =
      leg.before.metrics.handlerFailures + failures leg.marks := by
  induction course with
  | @begun s marks m goes =>
    have counts := reckoned_of_goes goes
    rw [reckoned, uncounted_at_rest (rests_of_goes goes)] at counts
    simpa [reckoned, uncounted] using counts
  | @resumed legs m last later r more earlier first goes ih =>
    intro leg member
    rcases List.mem_append.1 member with old | new
    · exact ih leg old
    · cases List.mem_singleton.1 new
      have counts := (reckoned_of_goes goes).trans (congrArg (· + _) (reckoned_of_step first))
      rw [reckoned, uncounted_at_rest (rests_of_goes goes), reckoned,
        uncounted_at_rest (rests_of_course earlier)] at counts
      simpa [failures_append, Nat.add_assoc] using counts

/-! ## Limits -/

/-- The cooldowns or the slots were asked. -/
def asksLimit : Mark → Bool
  | .cooled _ | .inLine | .slot _ => true
  | _ => false

/-- What a step does to the commands and the cooldowns: nothing, unless the cooldowns count the
invocation or its arguments are bound. -/
inductive Touches (m : Moment σ) (r : List Mark × Moment σ) : Prop where
  | neither (unbound : .bound none ∉ r.1) (uncooled : ∀ refusal, .cooled refusal ∉ r.1)
      (registry : r.2.service.registry = m.service.registry)
      (cooldowns : r.2.service.cooldowns = m.service.cooldowns) : Touches m r
  | cooled (refusal : Option CommandError) (told : r.1 = [.cooled refusal])
      (registry : r.2.service.registry = m.service.registry) : Touches m r
  | bound (told : r.1 = [.bound none])
      (registry : r.2.service.registry =
        m.service.registry.recordUse m.inv.target.root.serial m.inv.command)
      (cooldowns : r.2.service.cooldowns = m.service.cooldowns) : Touches m r

/-- No stage tells of cooldowns or of bound arguments. -/
theorem untold_staged (inv : Invocation σ) (stage : Stage) (p : Progress σ × Service σ) :
    .bound none ∉ (staged inv stage p).1 ∧ ∀ refusal, .cooled refusal ∉ (staged inv stage p).1 := by
  obtain ⟨progress, t⟩ := p
  cases progress <;> simp [staged]

theorem touches_staged (stage : Stage) {p : Progress σ × Service σ}
    (registry : p.2.registry = m.service.registry)
    (cooldowns : p.2.cooldowns = m.service.cooldowns) : Touches m (staged inv stage p) := by
  obtain ⟨unbound, uncooled⟩ := untold_staged inv stage p
  have served : (staged inv stage p).2.service = p.2 := service_staged stage p
  rw [← served] at registry cooldowns
  exact .neither unbound uncooled registry cooldowns

theorem touches_launch (stage : Stage) (script : Script σ)
    (registry : s.registry = m.service.registry)
    (cooldowns : s.cooldowns = m.service.cooldowns) : Touches m (launch inv stage script s) :=
  have spares := ScriptFrame.run_spares inv.runner script s
  touches_staged stage (spares.registry.trans registry) (spares.cooldowns.trans cooldowns)

theorem releaseSlot_commands : (s.releaseSlot inv).registry = s.registry ∧
    (s.releaseSlot inv).cooldowns = s.cooldowns := by
  obtain ⟨_, _, shape⟩ := releaseSlot_eq s inv
  rw [shape]
  exact ⟨rfl, rfl⟩

theorem abandon_commands (stage : Stage) : (s.abandon inv stage).registry = s.registry ∧
    (s.abandon inv stage).cooldowns = s.cooldowns := by
  cases stage with
  | onCommand | completion | handler => exact ⟨rfl, rfl⟩
  | _ => exact releaseSlot_commands

theorem touches_of_step (step : Step d m r) : Touches m r := by
  cases step with
  | @passed inv s =>
    have ran := ScriptFrame.run_spares inv.runner (d.hooks.onCommand inv.ctx) s
    obtain ⟨unbound, uncooled⟩ := untold_staged inv .onCommand
      ((d.hooks.onCommand inv.ctx).run inv.runner s)
    refine .neither (by simpa [told, launch] using unbound) (by simpa [told, launch] using uncooled)
      ?_ ?_
    · exact (congrArg Service.registry (service_staged _ _)).trans ran.registry
    · exact (congrArg Service.cooldowns (service_staged _ _)).trans ran.cooldowns
  | cooled _ counts | denied _ counts =>
    exact .cooled _ rfl (ScriptFrame.spares_of_acquire counts).registry
  | bound => exact .bound rfl rfl rfl
  | beforeCommand | beforeGlobal | body | afterCommand | afterGlobal | commandHandler
  | moduleHandler | globalHandler => exact touches_launch _ _ rfl rfl
  | completion =>
    exact touches_launch _ _ releaseSlot_commands.1 releaseSlot_commands.2
  | reported | broken =>
    exact .neither (by simp) (by simp) releaseSlot_commands.1 releaseSlot_commands.2
  | panicked => exact .neither (by simp) (by simp) (abandon_commands _).1 (abandon_commands _).2
  | @woken inv s stage pause =>
    have spares := ScriptFrame.resume_spares inv.runner pause s
    exact touches_staged stage spares.registry spares.cooldowns
  | _ => exact .neither (by simp) (by simp) rfl rfl

/-- Where the cooldowns are not asked they stay as they are. -/
def Uncooled (m : Moment σ) (marks : List Mark) (last : Moment σ) : Prop :=
  (∀ refusal, .cooled refusal ∉ marks) → last.service.cooldowns = m.service.cooldowns

theorem uncooled_of_stretch {start : Moment σ} {leg : Leg σ} (stretch : Stretch d start leg) :
    Uncooled start leg.marks leg.after := by
  refine Stretch.lift (fun _ _ => rfl) (fun {_ _ _ first second} before after none => ?_)
    (fun {m r} step none => ?_) stretch
  · have now : ∀ refusal, .cooled refusal ∉ first := fun refusal member =>
      none refusal (List.mem_append_left _ member)
    have later : ∀ refusal, .cooled refusal ∉ second := fun refusal member =>
      none refusal (List.mem_append_right _ member)
    exact (after later).trans (before now)
  · cases touches_of_step step with
    | neither _ _ _ cooldowns | bound _ _ cooldowns => exact cooldowns
    | cooled refusal told => exact absurd (told ▸ List.mem_singleton.2 rfl) (none refusal)

/-- As long as no limit was asked, no leg changes one. -/
theorem limits_of_course {legs : List (Leg σ)} (course : Course d inv legs m)
    (fresh : inv.admission = none) (unasked : ∀ mark ∈ trace legs, asksLimit mark = false) :
    stakeAt m.inv m.point = .nothing ∧ ∀ leg ∈ legs,
      leg.after.service.cooldowns = leg.before.cooldowns ∧
        leg.after.service.slots = leg.before.slots := by
  have unasked' : ∀ mark ∈ trace legs, asksSlot mark = false := by
    intro mark member
    have quiet := unasked mark member
    cases mark <;> first | rfl | cases quiet
  obtain ⟨nothing, kept⟩ := law_of_course unasked_law course fresh unasked'
  refine ⟨nothing, fun leg member => ⟨?_, kept leg member⟩⟩
  obtain ⟨earlier, later, split⟩ := List.append_of_mem member
  obtain ⟨start, -, stretch⟩ := leg_of_course course split
  rw [← stretch.service]
  refine uncooled_of_stretch stretch fun refusal told => ?_
  cases unasked _ (List.mem_flatMap.2 ⟨leg, member, told⟩)

/-! ## Modules -/

theorem moduleOf?_of_modules (same : t.modules = s.modules) (root : Command σ) :
    t.moduleOf? root = s.moduleOf? root := by
  unfold Service.moduleOf? Service.module?
  rw [same]

theorem releaseSlot_modules : (s.releaseSlot inv).modules = s.modules := by
  obtain ⟨_, _, shape⟩ := releaseSlot_eq s inv
  rw [shape]

theorem abandon_modules (stage : Stage) : (s.abandon inv stage).modules = s.modules := by
  cases stage with
  | onCommand | completion | handler => rfl
  | _ => exact releaseSlot_modules

theorem modules_of_step (step : Step d m r) : r.2.service.modules = m.service.modules := by
  have launched {held : Invocation σ} {stage : Stage} {script : Script σ} {s : Service σ} :
      (launch held stage script s).2.service.modules = s.modules :=
    (congrArg Service.modules (service_staged _ _)).trans
      (ScriptFrame.run_spares held.runner script s).modules
  cases step with
  | passed | beforeCommand | beforeGlobal | body | afterCommand | afterGlobal | commandHandler
  | moduleHandler | globalHandler => exact launched
  | completion => exact launched.trans releaseSlot_modules
  | reported | broken => exact releaseSlot_modules
  | panicked => exact abandon_modules _
  | cooled _ counts | denied _ counts =>
    have kept := (ScriptFrame.spares_of_acquire counts).modules
    exact kept
  | @woken inv s stage pause =>
    exact (congrArg Service.modules (service_staged _ _)).trans
      (ScriptFrame.resume_spares inv.runner pause s).modules
  | _ => rfl

end ChatCommands.CourseEffects
