import ChatCommands.Proofs.CourseEffects
import ChatCommands.Proofs.FailureKinds
import Mathlib.Algebra.GroupWithZero.Nat

/-! What the steps of an invocation count. On its way an invocation passes through a few phases, and
it counts something only where one phase ends: a use where the arguments are bound, the command
where the after hooks are over, an error where it is reported. Every step goes from one phase to the
next in one of a few ways and counts what belongs to that way (`advances_of_step`), and each way
keeps the counters in balance with what is still to come (`balances_of_moves`). -/
namespace ChatCommands.CountedSteps
open InvocationCourse CourseEffects FailureKinds Dispatcher

/-! ## Sums over tables -/

section tables

variable {κ ν : Type}

/-- The sum of the amounts under some keys. -/
def total (t : Table κ ν) (keys : κ → Bool) (amount : ν → Nat) : Nat :=
  ((t.filter fun e => keys e.1).map fun e => amount e.2).sum

theorem total_cons (e : κ × ν) (t : Table κ ν) (keys : κ → Bool) (amount : ν → Nat) :
    total (e :: t) keys amount = (if keys e.1 then amount e.2 else 0) + total t keys amount := by
  unfold total
  rw [List.filter_cons]
  split <;> simp

theorem total_set [DecidableEq κ] {t : Table κ ν} {k : κ} {v : ν} {amount : ν → Nat} {n : Nat}
    (more : amount v = (t.get? k).elim 0 amount + n) (keys : κ → Bool) :
    total (t.set k v) keys amount = total t keys amount + if keys k then n else 0 := by
  induction t with
  | nil =>
    simp only [Table.get?, Option.elim_none, Nat.zero_add] at more
    simp [Table.set, total_cons, more, Nat.add_comm]
  | cons e rest ih =>
    obtain ⟨other, w⟩ := e
    by_cases same : other = k
    · subst same
      simp only [Table.get?, if_true, Option.elim_some] at more
      simp only [Table.set, if_true, total_cons, more]
      split <;> omega
    · simp only [Table.get?, same, if_false] at more
      simp only [Table.set, same, if_false, total_cons, ih more, Nat.add_assoc]

theorem total_bump [DecidableEq κ] (t : Table κ Nat) (k : κ) (keys : κ → Bool) :
    total (Metrics.bump t k) keys id = total t keys id + if keys k then 1 else 0 := by
  refine total_set ?_ keys
  simp only [Metrics.count, id]
  cases t.get? k <;> rfl

end tables

variable {σ : Type} {d : Dispatcher σ} {inv : Invocation σ} {s t u : Service σ} {m : Moment σ}
  {r : List Mark × Moment σ} {name : String} {entries : List Entry}

/-! ## Counters -/

/-- What is counted. -/
inductive Counter where
  | events
  | denied
  | rejected
  | uses
  | commands
  | errors (kind : String)
  /-- Errors of every kind but that of commands that are not found. -/
  | failures

/-- What a step can count. -/
inductive Entry where
  | denial
  | rejection
  | use
  | command
  | error (kind : String)

/-- How far a counter has got for the commands with a name. -/
def reading (s : Service σ) (name : String) : Counter → Nat
  | .events => s.metrics.events
  | .denied => Metrics.count s.metrics.denied name
  | .rejected => Metrics.count s.metrics.rejected name
  | .uses => total s.registry.standings (fun id => id.qualified == name) Standing.uses
  | .commands => Metrics.count s.metrics.commands name
  | .errors kind => Metrics.count s.metrics.errors (name, kind)
  | .failures =>
    total s.metrics.errors (fun key => key.1 == name && key.2 != "command_not_found") id

/-- Whether an entry is counted there. -/
def Counter.counts : Counter → Entry → Bool
  | .denied, .denial | .rejected, .rejection | .uses, .use | .commands, .command => true
  | .errors kind, .error other => other == kind
  | .failures, .error kind => kind != "command_not_found"
  | _, _ => false

/-- From one service to another some entries were made for a name, and nothing else was counted. -/
def Counted (s t : Service σ) (name : String) (entries : List Entry) : Prop :=
  ∀ other c, reading t other c =
    reading s other c + if name = other then entries.countP c.counts else 0

theorem count_bump {κ : Type} [DecidableEq κ] (t : Table κ Nat) (k l : κ) :
    Metrics.count (Metrics.bump t k) l = Metrics.count t l + if k = l then 1 else 0 := by
  rw [Metrics.count_bump]
  split <;> simp_all

theorem counted_nothing (name : String) (same : reading t = reading s) : Counted s t name [] := by
  intro other c
  simp [same]

theorem counted_congr (counted : Counted s t name entries) (same : reading u = reading t) :
    Counted s u name entries := by
  intro other c
  rw [same]
  exact counted other c

theorem reading_congr (metrics : t.metrics = s.metrics)
    (standings : t.registry.standings = s.registry.standings) : reading t = reading s := by
  funext other c
  cases c <;> simp [reading, metrics, standings]

theorem reading_of_spares (spares : ScriptFrame.Spares s t) : reading t = reading s :=
  reading_congr spares.metrics (congrArg Registry.standings spares.registry)

theorem reading_releaseSlot (inv : Invocation σ) (s : Service σ) :
    reading (s.releaseSlot inv) = reading s :=
  reading_congr metrics_releaseSlot (congrArg Registry.standings releaseSlot_commands.1)

theorem reading_of_acquire {span : Option Span} {c : Command σ} {ctx : Context}
    {denial : Option Denial} (counts : s.acquire span c ctx = (denial, t)) :
    reading t = reading s :=
  have spares := ScriptFrame.spares_of_acquire counts
  reading_congr spares.metrics (congrArg Registry.standings spares.registry)

theorem reading_handlerFailed (s : Service σ) (span : Span) (ctx : Context) (error : CommandError)
    (failure : Fault) : reading (s.handlerFailed span ctx error failure) = reading s := by
  funext other c
  cases c <;> rfl

theorem counted_denial (s : Service σ) (name : String) :
    Counted s { s with metrics := s.metrics.denial name } name [.denial] := by
  intro other c
  cases c <;> simp [reading, Metrics.denial, count_bump, Counter.counts]

theorem counted_rejection (s : Service σ) (name : String) :
    Counted s { s with metrics := s.metrics.rejection name } name [.rejection] := by
  intro other c
  cases c <;> simp [reading, Metrics.rejection, count_bump, Counter.counts]

theorem counted_command (s : Service σ) (name : String) :
    Counted s { s with metrics := s.metrics.command name } name [.command] := by
  intro other c
  cases c <;> simp [reading, Metrics.command, count_bump, Counter.counts]

theorem counted_error (s : Service σ) (name kind : String) :
    Counted s { s with metrics := s.metrics.error name kind } name [.error kind] := by
  intro other c
  cases c with
  | errors among =>
    simp only [reading, Metrics.error, count_bump, Prod.mk.injEq]
    by_cases here : name = other <;> by_cases same : kind = among <;>
      simp [Counter.counts, here, same]
  | failures =>
    simp only [reading, Metrics.error, total_bump]
    by_cases here : name = other <;> simp [Counter.counts, here]
  | _ => simp [reading, Metrics.error, Counter.counts]

/-- The uses of a command that its standing tells, if it has one. -/
theorem uses_standing (r : Registry σ) (serial : Nat) (c : Command σ) :
    (r.standing serial c).uses =
      (r.standings.get? ⟨serial, c.qualified⟩).elim 0 Standing.uses := by
  rw [Registry.standing]
  cases r.standings.get? ⟨serial, c.qualified⟩ <;> rfl

theorem counted_use (s : Service σ) (serial : Nat) (c : Command σ) :
    Counted s { s with registry := s.registry.recordUse serial c } c.qualified [.use] := by
  intro other counter
  cases counter with
  | uses =>
    have more := congrArg (· + 1) (uses_standing s.registry serial c)
    simp only [reading, Registry.recordUse, Registry.adjust]
    rw [total_set more]
    by_cases here : c.qualified = other <;> simp [Counter.counts, here]
  | _ => simp [reading, Counter.counts]

/-- To enable, disable or check a command counts nothing. -/
theorem reading_adjust (s : Service σ) (serial : Nat) (c : Command σ)
    {change : Standing → Standing} (keeps : ∀ standing, (change standing).uses = standing.uses) :
    reading { s with registry := s.registry.adjust serial c change } = reading s := by
  funext other counter
  cases counter with
  | uses =>
    have same := (keeps _).trans (uses_standing s.registry serial c)
    simp only [reading, Registry.adjust]
    rw [total_set (n := 0) same, ite_self, Nat.add_zero]
  | _ => rfl

/-! ## Phases -/

/-- How far an invocation has come. -/
inductive Phase where
  /-- Its arguments are not bound. -/
  | fresh
  /-- Its arguments are bound, and its after hooks are not over. -/
  | begun
  /-- It has succeeded, and its completion hook is not over. -/
  | finishing
  /-- It has failed, and the failure is not reported. -/
  | failing (kind : String)
  /-- It is reported or completed, or nothing will come of it. -/
  | closed

def Stage.phase : Stage → Phase
  | .onCommand => .fresh
  | .completion => .finishing
  | .handler _ _ => .closed
  | _ => .begun

def phaseOf : Point σ → Phase
  | .arrived | .entering | .binding | .queued _ => .fresh
  | .preparing _ | .leaving _ => .begun
  | .left .completion _ => .closed
  | .left stage _ | .waiting stage _ => Stage.phase stage
  | .concluding (.ok ()) => .finishing
  | .concluding (.error error) | .asking .command error => .failing error.code
  | .asking _ _ | .ended => .closed

/-- The completion hook is over. -/
def completes : Mark → Bool
  | .ran .completion _ => true
  | _ => false

/-- The arguments broke the binding. -/
def breaks : Mark → Bool
  | .bound (some error) => error.isPanic
  | _ => false

/-- The ways from one phase to the next, with what is counted on them, how often a completion hook
was over then and how often the binding of arguments broke. -/
inductive Moves : Phase → List Entry → Nat → Nat → Phase → Prop where
  | stays {phase : Phase} : Moves phase [] 0 0 phase
  | refused {kind : String} (own : kind ∉ ownKinds) : Moves .fresh [] 0 0 (.failing kind)
  | denied : Moves .fresh [.denial] 0 0 (.failing "command_on_cooldown")
  | rejected : Moves .fresh [.rejection] 0 0 (.failing "max_concurrency_reached")
  | broke : Moves .fresh [] 0 1 .closed
  | bound : Moves .fresh [.use] 0 0 .begun
  | succeeded : Moves .begun [.command] 0 0 .finishing
  | failed : Moves .begun [.command] 0 0 (.failing "command_invoke_error")
  | completed : Moves .finishing [] 1 0 .closed
  | reported {kind : String} : Moves (.failing kind) [.error kind] 0 0 .closed

/-- A step goes one of these ways, and counts what is counted on it. -/
def Advances (m : Moment σ) (r : List Mark × Moment σ) : Prop :=
  ∃ entries, Counted m.service r.2.service m.inv.name entries ∧
    Moves (phaseOf m.point) entries (r.1.countP completes) (r.1.countP breaks) (phaseOf r.2.point)

/-- No script but a body has just panicked. -/
def Composed (point : Point σ) : Prop :=
  ∀ stage message, point = .left stage (.panicked message) → stage = .body

theorem moves_staged (inv : Invocation σ) (stage : Stage) (p : Progress σ × Service σ) :
    Moves (Stage.phase stage) [] ((staged inv stage p).1.countP completes)
      ((staged inv stage p).1.countP breaks) (phaseOf (staged inv stage p).2.point) := by
  obtain ⟨progress, t⟩ := p
  cases progress with
  | paused => cases stage <;> exact .stays
  | ended outcome =>
    cases stage with
    | completion => exact .completed
    | _ => exact .stays

theorem advances_staged {stage : Stage} {p : Progress σ × Service σ}
    (phase : phaseOf m.point = Stage.phase stage) (same : reading p.2 = reading m.service) :
    Advances m (staged inv stage p) := by
  refine ⟨[], counted_nothing _ ?_, phase ▸ moves_staged inv stage p⟩
  rw [SlotDeals.service_staged, same]

theorem advances_launch {stage : Stage} {script : Script σ}
    (phase : phaseOf m.point = Stage.phase stage) (same : reading s = reading m.service) :
    Advances m (launch inv stage script s) :=
  have spares := ScriptFrame.run_spares inv.runner script s
  advances_staged phase ((reading_of_spares spares).trans same)

/-- An error is counted, and the command's own handler is asked. -/
theorem advances_handler {script : Script σ} {error : CommandError}
    (phase : phaseOf m.point = .failing error.code)
    (counted : Counted m.service s m.inv.name [.error error.code]) :
    Advances m (launch inv (.handler .command error) script s) := by
  have spares := ScriptFrame.run_spares inv.runner script s
  rw [launch]
  generalize script.run inv.runner s = p at spares
  obtain ⟨progress, t⟩ := p
  refine ⟨_, counted_congr counted (u := (staged _ _ (progress, t)).2.service) ?_, ?_⟩
  · rw [SlotDeals.service_staged]
    exact reading_of_spares spares
  · rw [phase]
    cases progress <;> exact .reported

/-- As long as no script but a body panics, every step goes one of the ways there are. -/
theorem advances_of_step (step : Step d m r) (composed : Composed m.point) : Advances m r := by
  cases step with
  | refused checks => exact ⟨[], counted_nothing _ rfl, .refused (code_of_passChecks checks)⟩
  | @passed inv s checks =>
    -- The mark that tells of the checks is neither a completion nor a break.
    have launches : Advances ⟨inv, .arrived, s⟩
        (launch inv .onCommand (d.hooks.onCommand inv.ctx) s) := advances_launch rfl rfl
    obtain ⟨entries, counted, moves⟩ := launches
    exact ⟨entries, counted, moves⟩
  | cooled returns counts => exact ⟨[], counted_nothing _ (reading_of_acquire counts), .stays⟩
  | @denied inv s t outcome denial returns counts =>
    have same : reading t = reading s := reading_of_acquire counts
    refine ⟨[.denial], fun other c => ?_, .denied⟩
    rw [counted_denial t inv.name other c, same]
  | saturated => exact ⟨_, counted_rejection _ _, .rejected⟩
  | @unbound inv s error binds handled =>
    have unbroken : [Mark.bound (some error)].countP breaks = 0 := by simp [breaks, handled]
    refine ⟨[], counted_nothing _ rfl, ?_⟩
    change Moves .fresh [] 0 ([Mark.bound (some error)].countP breaks) (.failing error.code)
    rw [unbroken]
    exact .refused (code_of_bind binds)
  | broken => exact ⟨[], counted_nothing _ (reading_releaseSlot _ _), .broke⟩
  | @bound inv s => exact ⟨_, counted_use s inv.target.root.serial inv.command, .bound⟩
  | failed => exact ⟨_, counted_command _ _, .failed⟩
  | succeeded => exact ⟨_, counted_command _ _, .succeeded⟩
  | completion => exact advances_launch rfl (reading_releaseSlot _ _)
  | reported => exact ⟨[], counted_nothing _ (reading_releaseSlot _ _), .stays⟩
  | commandHandler => exact advances_handler rfl (counted_error _ _ _)
  | noCommandHandler => exact ⟨_, counted_error _ _ _, .reported⟩
  | beforeCommand | beforeGlobal | body | afterCommand | afterGlobal | moduleHandler
  | globalHandler => exact advances_launch rfl rfl
  | @woken inv s stage pause =>
    exact advances_staged (by cases stage <;> rfl)
      (reading_of_spares (ScriptFrame.resume_spares inv.runner pause s))
  | commandHandlerFailed | moduleHandlerFailed | globalHandlerFailed =>
    exact ⟨[], counted_nothing _ (reading_handlerFailed _ _ _ _ _), .stays⟩
  | panicked hook => exact absurd (composed _ _ rfl) hook
  | _ => exact ⟨[], counted_nothing _ rfl, .stays⟩

/-- A hook or an error handler panicked. -/
def shaken : Mark → Bool
  | .ran .body _ => false
  | .ran _ (.panicked _) => true
  | _ => false

theorem composed_staged {stage : Stage} {p : Progress σ × Service σ}
    (calm : ∀ mark ∈ (staged inv stage p).1, shaken mark = false) :
    Composed (staged inv stage p).2.point := by
  obtain ⟨progress, t⟩ := p
  cases progress with
  | paused => exact fun _ _ => nofun
  | ended outcome =>
    rintro other message same
    cases same
    have quiet := calm _ List.mem_cons_self
    cases stage <;> first | rfl | cases quiet

theorem composed_of_step (step : Step d m r) (calm : ∀ mark ∈ r.1, shaken mark = false) :
    Composed r.2.point := by
  cases step with
  | passed => exact composed_staged (List.forall_mem_of_forall_mem_cons calm)
  | beforeCommand | beforeGlobal | body | afterCommand | afterGlobal | completion | commandHandler
  | moduleHandler | globalHandler | woken => exact composed_staged calm
  | _ => exact fun _ _ => nofun

/-! ## Balance -/

namespace Phase

def isBegun : Phase → Bool
  | .begun => true
  | _ => false

def isOpen : Phase → Bool
  | .closed => false
  | _ => true

/-- A failure of a kind is still to be reported. -/
def fails (kind : String) : Phase → Bool
  | .failing other => other == kind
  | _ => false

/-- The command is counted, and its end is not. -/
def concludes : Phase → Bool
  | .finishing => true
  | phase => phase.fails "command_invoke_error"

end Phase

/-- What is counted on the way from one phase to another weighs up what is still to come in either
of them. -/
structure Balances (before : Phase) (entries : List Entry) (completed broken : Nat)
    (after : Phase) : Prop where
  cooldowns : entries.countP Counter.denied.counts +
      (before.fails "command_on_cooldown").toNat =
    entries.countP (Counter.errors "command_on_cooldown").counts +
      (after.fails "command_on_cooldown").toNat
  slots : entries.countP Counter.rejected.counts +
      (before.fails "max_concurrency_reached").toNat =
    entries.countP (Counter.errors "max_concurrency_reached").counts +
      (after.fails "max_concurrency_reached").toNat
  uses : entries.countP Counter.uses.counts + before.isBegun.toNat =
    entries.countP Counter.commands.counts + after.isBegun.toNat
  commands : entries.countP Counter.commands.counts + before.concludes.toNat =
    completed + entries.countP (Counter.errors "command_invoke_error").counts +
      after.concludes.toNat
  ends : before.isOpen.toNat =
    completed + entries.countP Counter.failures.counts + broken + after.isOpen.toNat

theorem fails_of_refused {kind : String} (refused : kind ∉ ownKinds) :
    ∀ own ∈ ownKinds, (Phase.failing kind).fails own = false := by
  intro own listed
  exact beq_eq_false_iff_ne.2 fun same => refused (same ▸ listed)

theorem found_of_moves {before after : Phase} {completed broken : Nat}
    (moves : Moves before entries completed broken after)
    (found : before.fails "command_not_found" = false) :
    after.fails "command_not_found" = false := by
  cases moves with
  | stays => exact found
  | refused own => exact fails_of_refused own _ (by simp [ownKinds])
  | _ => rfl

theorem toNat_beq (kind other : String) :
    (kind == other).toNat = if kind = other then 1 else 0 := by
  by_cases same : kind = other <;> simp [same]

theorem balances_of_moves {before after : Phase} {completed broken : Nat}
    (moves : Moves before entries completed broken after)
    (found : before.fails "command_not_found" = false) :
    Balances before entries completed broken after := by
  cases moves with
  | stays => constructor <;> simp
  | @refused kind own =>
    -- Nothing is counted yet, and the kind is none that a limit or a body is counted under.
    have others := fails_of_refused own
    simp only [ownKinds, List.forall_mem_cons] at others
    obtain ⟨cooldowns, slots, invoke, -⟩ := others
    have concludes : (Phase.failing kind).concludes = false := invoke
    exact ⟨by rw [cooldowns]; rfl, by rw [slots]; rfl, rfl, by rw [concludes]; rfl, rfl⟩
  | @reported kind =>
    have named : (kind != "command_not_found") = true := by simpa [Phase.fails] using found
    constructor <;>
      simp [Counter.counts, Phase.fails, Phase.isBegun, Phase.concludes, Phase.isOpen, named,
        toNat_beq]
  | _ =>
    constructor <;>
      simp [Counter.counts, Phase.fails, Phase.isBegun, Phase.concludes, Phase.isOpen]

end ChatCommands.CountedSteps
