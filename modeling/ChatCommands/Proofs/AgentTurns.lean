import ChatCommands.Proofs.CollectedReplies

/-! An agent that is given one thing at a time to do. Apart from what is in front it has one task, the
one that cleans up now and then, and that task is in the queue only after time has passed. So what is
put in front has all turns to itself until it is done, and leaves the agent as it found it but for
the service (`inFront_of_settles`); and while time passes, nothing happens but clean-ups. -/
namespace ChatCommands.AgentTurns
open CollectedReplies Agent

variable {σ : Type} {d : Dispatcher σ} {a : Agent σ} {s t : Service σ} {w : Work σ}
  {P : Service σ → Prop} {κ ν : Type} [DecidableEq κ]

/-- Nobody is in front of a dispatcher's agent, and there is no task but the first one, which cleans
up. -/
structure Tended (d : Dispatcher σ) (a : Agent σ) : Prop where
  dispatcher : a.dispatcher = d
  held : a.isHeld = true
  task : ∀ e ∈ a.tasks, e.1 = 0 ∧ ∃ due, e.2 = ⟨.upkeep due, false⟩
  later : 0 < a.nextTask
  alarms : ∀ alarm ∈ a.alarms, alarm.task = 0
  queue : a.queue = [] ∨ a.queue = [0]
  aside : a.aside = []
  front : a.front = none
  unready : a.frontReady = false
  silent : a.service.signals = []

/-- Nobody can go on before time passes. -/
structure AtRest (d : Dispatcher σ) (a : Agent σ) : Prop extends Tended d a where
  idle : a.queue = []
  fresh : a.frontTurn.givesWay = false

/-- Something that is not touched by turns, by the time and by clean-ups. -/
structure Lasting (P : Service σ → Prop) : Prop where
  turn : ∀ s turn, P s → P { s with turn := turn }
  now : ∀ s time, P s → P { s with now := time }
  maintain : ∀ s retention, P s → P (s.maintain retention)

/-! ## Tables and signals -/

theorem mem_set {table : Table κ ν} {k : κ} {v : ν} {e : κ × ν} (member : e ∈ table.set k v) :
    e = (k, v) ∨ e ∈ table := by
  induction table with
  | nil => exact .inl (List.mem_singleton.1 member)
  | cons first rest ih =>
    obtain ⟨other, w⟩ := first
    unfold Table.set at member
    split at member
    · rename_i same
      subst same
      rcases List.mem_cons.1 member with rfl | later
      · exact .inl rfl
      · exact .inr (List.mem_cons_of_mem _ later)
    · rcases List.mem_cons.1 member with rfl | later
      · exact .inr List.mem_cons_self
      · exact (ih later).imp_right (List.mem_cons_of_mem _)

theorem erase_set {table : Table κ ν} {k : κ} (fresh : ∀ e ∈ table, e.1 ≠ k) (v : ν) :
    (table.set k v).erase k = table := by
  induction table with
  | nil => simp [Table.set, Table.erase]
  | cons first rest ih =>
    obtain ⟨other, w⟩ := first
    obtain ⟨different, others⟩ := List.forall_mem_cons.1 fresh
    have dropped := ih others
    unfold Table.erase at dropped ⊢
    rw [Table.set, if_neg different, List.filter_cons_of_pos (by simpa using different), dropped]

theorem mem_of_get? {table : Table κ ν} {k : κ} {v : ν} (found : table.get? k = some v) :
    (k, v) ∈ table := by
  induction table with
  | nil => cases found
  | cons first rest ih =>
    obtain ⟨other, w⟩ := first
    rw [Table.get?] at found
    split at found
    · rename_i same
      cases found
      exact same ▸ List.mem_cons_self
    · exact List.mem_cons_of_mem _ (ih found)

/-- Where nothing is left to be acted on, a change of the service is all that happens. -/
theorem change_of_silent (silent : s.signals = []) : a.change s = { a with service := s } := by
  obtain ⟨app, registry, modules, cooldowns, slots, metrics, journal, post, tray, gate, now, turn,
    signals, invocations⟩ := s
  cases silent
  rfl

/-! ## What is in front -/

/-- The agent with work in front that can go on. -/
def busy (a : Agent σ) (w : Work σ) (turn : Turn) (s : Service σ) : Agent σ :=
  { a with
    service := s
    tasks := a.tasks.set a.nextTask ⟨w, false⟩
    nextTask := a.nextTask + 1
    front := some a.nextTask
    frontReady := true
    frontTurn := turn }

/-- The agent after that work is done. -/
def done (a : Agent σ) (s : Service σ) : Agent σ :=
  { a with service := s, nextTask := a.nextTask + 1, frontTurn := s.turn }

theorem tasks_fresh (tended : Tended d a) : ∀ e ∈ a.tasks, e.1 ≠ a.nextTask := fun e member => by
  rw [(tended.task e member).1]
  exact Nat.ne_of_lt tended.later

theorem setAlarm_fresh (tended : Tended d a) : setAlarm a.alarms a.nextTask none = a.alarms := by
  refine List.filter_eq_self.2 fun alarm member => ?_
  rw [tended.alarms alarm member]
  simpa using Nat.ne_of_lt tended.later

theorem holdsDispatcher_of_held (held : a.isHeld = true) : a.holdsDispatcher = true := by
  rw [holdsDispatcher, held, Bool.true_or]

theorem get?_front (a : Agent σ) (w : Work σ) :
    (a.tasks.set a.nextTask ⟨w, false⟩).get? a.nextTask = some ⟨w, false⟩ := by
  rw [Table.get?_set, if_pos rfl]

/-- A turn in which the work in front gets done. -/
theorem turnFront_of_done (rest : AtRest d a) {turn : Turn} (ready : Ready t)
    (goes : w.goOn a.dispatcher true { s with turn := turn } = (none, t)) :
    (busy a w turn s).turnFront a.nextTask = done a t := by
  have found := get?_front a w
  have holds : ({ busy a w turn s with frontReady := false } : Agent σ).holdsDispatcher = true :=
    holdsDispatcher_of_held rest.held
  have gone : (a.tasks.set a.nextTask ⟨w, false⟩).erase a.nextTask = a.tasks :=
    erase_set (tasks_fresh rest.toTended) _
  have left : a.tasks.get? a.nextTask = none := by
    rw [← gone, Table.get?_erase, if_pos rfl]
  obtain ⟨dispatcher, service, isHeld, tasks, nextTask, names, queue, aside, alarms, front,
    frontReady, frontTurn⟩ := a
  cases rest.front
  cases rest.unready
  have kept := setAlarm_fresh rest.toTended
  simp only [busy] at found holds gone left kept goes
  simp only [turnFront, busy, Agent.turn, found, if_true, holds, goes, Bool.false_eq_true, if_false]
  rw [change_of_silent ready.silent]
  simp [keep, gone, kept, left, done]

/-- A turn after which the work in front goes on in another one. -/
theorem turnFront_of_waiting (rest : AtRest d a) {turn : Turn} {next : Work σ}
    (silent : t.signals = []) (way : t.turn.givesWay = true)
    (goes : w.goOn a.dispatcher true { s with turn := turn } = (some next, t)) :
    (busy a w turn s).turnFront a.nextTask =
      { busy a next {} t with frontReady := false, aside := [a.nextTask] } := by
  have found := get?_front a w
  have holds : ({ busy a w turn s with frontReady := false } : Agent σ).holdsDispatcher = true :=
    holdsDispatcher_of_held rest.held
  have still := get?_front a next
  obtain ⟨dispatcher, service, isHeld, tasks, nextTask, names, queue, aside, alarms, front,
    frontReady, frontTurn⟩ := a
  cases rest.aside
  have kept := setAlarm_fresh rest.toTended
  simp only [busy] at found holds still kept goes
  simp only [turnFront, busy, Agent.turn, found, if_true, holds, goes, Bool.false_eq_true, if_false]
  rw [change_of_silent silent]
  simp [keep, Table.set_set, kept, still, way]

theorem drain_of_idle (idle : a.queue = []) (turns : Nat) : a.drain turns = a := by
  cases turns with
  | zero => rfl
  | succ turns => rw [drain, idle]

theorem bringBack_of_waiting (rest : AtRest d a) :
    ({ busy a w {} t with frontReady := false, aside := [a.nextTask] } : Agent σ).bringBack =
      busy a w {} t := by
  have found := get?_front a w
  obtain ⟨dispatcher, service, isHeld, tasks, nextTask, names, queue, aside, alarms, front,
    frontReady, frontTurn⟩ := a
  cases rest.aside
  simp only at found
  simp [bringBack, wake, busy, found]

/-- The round in which the work in front gets done is the last. -/
theorem await_of_done (rest : AtRest d a) {turn : Turn} (ready : Ready t)
    (goes : w.goOn a.dispatcher true { s with turn := turn } = (none, t)) (rounds : Nat) :
    (busy a w turn s).await (rounds + 1) = done a t := by
  have front : (busy a w turn s).front = some a.nextTask := rfl
  simp only [await, front, turnFront_of_done rest ready goes]
  simp [done, rest.front]

/-- The work in front is in front again in the next round if it went on for another turn. -/
theorem await_of_waiting (rest : AtRest d a) {turn : Turn} {next : Work σ}
    (silent : t.signals = []) (way : t.turn.givesWay = true)
    (goes : w.goOn a.dispatcher true { s with turn := turn } = (some next, t)) (rounds : Nat) :
    (busy a w turn s).await (rounds + 1) = (busy a next {} t).await rounds := by
  have front : (busy a w turn s).front = some a.nextTask := rfl
  have back := bringBack_of_waiting (w := next) (t := t) rest
  have nobody : ({ busy a next {} t with frontReady := false, aside := [a.nextTask] } :
      Agent σ).queue = [] := rest.idle
  simp only [await, front, turnFront_of_waiting rest silent way goes, drain_of_idle nobody]
  simpa [busy, isIdle] using congrArg (await rounds) back

theorem await_of_settles {ends : Service σ → Prop} {n rounds : Nat} {turn : Turn}
    (rest : AtRest d a)
    (settles : Settles a.dispatcher ends n (w.goOn a.dispatcher true { s with turn := turn }))
    (few : n < rounds) :
    ∃ t, Ready t ∧ ends t ∧ (busy a w turn s).await rounds = done a t := by
  obtain ⟨rounds, rfl⟩ : ∃ less, rounds = less + 1 := ⟨rounds - 1, by omega⟩
  generalize goes : w.goOn a.dispatcher true { s with turn := turn } = work at settles
  -- Each turn in front is one round, and what is left of the work is in front in the next.
  induction settles generalizing w s turn rounds with
  | @done n t ready holds => exact ⟨t, ready, holds, await_of_done rest ready goes rounds⟩
  | @givesWay n next t way silent _ ih =>
    obtain ⟨rounds, rfl⟩ : ∃ less, rounds = less + 1 := ⟨rounds - 1, by omega⟩
    rw [await_of_waiting rest silent way goes]
    exact ih rounds (by omega) rfl

/-- Work that is put in front gets done, and but for the service the agent is as before. -/
theorem inFront_of_settles {ends : Service σ → Prop} {n : Nat} (rest : AtRest d a)
    (settles : Settles a.dispatcher ends n
      (w.goOn a.dispatcher true { a.service with turn := a.frontTurn })) (few : n < patience) :
    ∃ t, Ready t ∧ ends t ∧ a.inFront w = done a t :=
  await_of_settles rest settles few

theorem atRest_done (rest : AtRest d a) (ready : Ready t) : AtRest d (done a t) where
  dispatcher := rest.dispatcher
  held := rest.held
  task := rest.task
  later := Nat.succ_pos _
  alarms := rest.alarms
  queue := rest.queue
  aside := rest.aside
  front := rest.front
  unready := rest.unready
  silent := ready.silent
  idle := rest.idle
  fresh := ready.stays

/-! ## Clean-ups -/

/-- A clean-up drops windows and buckets and may write to the journal. -/
theorem maintain_eq (s : Service σ) (retention : Decimal.Duration) :
    ∃ cooldowns journal, s.maintain retention =
      { s with cooldowns := cooldowns, slots := s.slots.cleanup.1, journal := journal } := by
  unfold Service.maintain Service.cleanup
  dsimp only
  split <;> split <;> exact ⟨_, _, rfl⟩

/-- The task that cleans up waits again, or ends. -/
theorem cleanUp_cases (limits : LimitSettings) (isHeld : Bool) (due : Option Instant)
    (s : Service σ) :
    ∃ work t, Work.cleanUp limits isHeld due s = (work, t) ∧
      (work = none ∨ ∃ next, work = some (.upkeep next)) ∧
      (t = s ∨ ∃ retention, t = s.maintain retention) := by
  unfold Work.cleanUp
  split
  · exact ⟨_, _, rfl, .inr ⟨_, rfl⟩, .inl rfl⟩
  · split
    · exact ⟨_, _, rfl, .inr ⟨_, rfl⟩, .inl rfl⟩
    · split
      · exact ⟨_, _, rfl, .inr ⟨_, rfl⟩, .inr ⟨_, rfl⟩⟩
      · exact ⟨_, _, rfl, .inl rfl, .inl rfl⟩

theorem mem_setAlarm {alarms : List Alarm} {id : Nat} {due : Option Instant} {alarm : Alarm}
    (member : alarm ∈ setAlarm alarms id due) : alarm.task = id ∨ alarm ∈ alarms := by
  unfold setAlarm at member
  split at member
  · split at member
    · exact .inr member
    · rcases List.mem_append.1 member with old | new
      · exact .inr (List.mem_filter.1 old).1
      · exact .inl (congrArg Alarm.task (List.mem_singleton.1 new))
  · exact .inr (List.mem_filter.1 member).1

theorem tended_keep (tended : Tended d a) {work : Option (Work σ)}
    (upkeep : work = none ∨ ∃ next, work = some (.upkeep next)) {turn : Turn}
    (stays : turn.givesWay = false) : Tended d (a.keep 0 work turn) := by
  have alarms (due : Option Instant) : ∀ alarm ∈ setAlarm a.alarms 0 due, alarm.task = 0 :=
    fun alarm member => (mem_setAlarm member).elim id (tended.alarms alarm)
  rcases upkeep with rfl | ⟨next, rfl⟩
  · refine { tended with task := fun e member => ?_, alarms := alarms none }
    exact tended.task e (List.mem_filter.1 member).1
  · refine { tended with task := fun e member => ?_, alarms := alarms _, aside := ?_ }
    · rcases mem_set member with rfl | old
      · exact ⟨rfl, next, rfl⟩
      · exact tended.task e old
    · simp [keep, stays, tended.aside]

/-- A turn of the task that cleans up. -/
theorem turn_tended (lasting : Lasting P) (tended : Tended d a) (holds : P a.service) :
    Tended d (a.turn 0 {}) ∧ P (a.turn 0 {}).service ∧ (a.turn 0 {}).queue = a.queue := by
  unfold Agent.turn
  cases found : a.tasks.get? 0 with
  | none => exact ⟨tended, holds, rfl⟩
  | some task =>
    obtain ⟨-, due, rfl⟩ := tended.task _ (mem_of_get? found)
    obtain ⟨work, t, cleans, upkeep, changed⟩ := cleanUp_cases a.dispatcher.settings.limits
      a.holdsDispatcher due { a.service with turn := {} }
    have before : P { a.service with turn := {} } := lasting.turn _ _ holds
    have after : P t ∧ t.turn = {} ∧ t.signals = [] := by
      rcases changed with rfl | ⟨retention, rfl⟩
      · exact ⟨before, rfl, tended.silent⟩
      · refine ⟨lasting.maintain _ _ before, ?_⟩
        obtain ⟨cooldowns, journal, same⟩ :=
          maintain_eq { a.service with turn := {} } retention
        rw [same]
        exact ⟨rfl, tended.silent⟩
    obtain ⟨still, fresh, silent⟩ := after
    have stays : t.turn.givesWay = false := by rw [fresh]
    have kept := tended_keep tended upkeep stays
    simp only [Bool.false_eq_true, if_false, Work.goOn, cleans]
    rw [change_of_silent silent]
    refine ⟨{ kept with silent := silent }, still, ?_⟩
    cases work <;> rfl

theorem drain_tended (lasting : Lasting P) (tended : Tended d a) (holds : P a.service)
    (turns : Nat) : Tended d (a.drain turns) ∧ P (a.drain turns).service ∧
      (0 < turns → (a.drain turns).queue = []) := by
  cases turns with
  | zero => exact ⟨tended, holds, fun some => absurd some (Nat.lt_irrefl 0)⟩
  | succ turns =>
    rcases tended.queue with idle | one
    · rw [drain_of_idle idle]
      exact ⟨tended, holds, fun _ => idle⟩
    · have rested : Tended d { a with queue := [] } := { tended with queue := .inl rfl }
      obtain ⟨later, still, idle⟩ := turn_tended lasting rested holds
      have drained : a.drain (turns + 1) = ({ a with queue := [] } : Agent σ).turn 0 {} := by
        rw [drain, one]
        exact drain_of_idle idle turns
      rw [drained]
      exact ⟨later, still, fun _ => idle⟩

theorem bringBack_tended (tended : Tended d a) : a.bringBack = a := by
  have aside := tended.aside
  cases a
  cases aside
  rfl

theorem settleIn_tended (lasting : Lasting P) (tended : Tended d a) (holds : P a.service)
    {rounds : Nat} (enough : 1 < rounds) :
    Tended d (a.settleIn rounds) ∧ P (a.settleIn rounds).service ∧
      (a.settleIn rounds).queue = [] := by
  obtain ⟨rounds, rfl⟩ : ∃ less, rounds = less + 2 := ⟨rounds - 2, by omega⟩
  obtain ⟨later, still, idle⟩ := drain_tended lasting tended holds turnsPerRound
  rw [settleIn]
  split
  · rename_i empty
    rw [Bool.and_eq_true, List.isEmpty_iff] at empty
    exact ⟨tended, holds, empty.1⟩
  · rw [bringBack_tended later, settleIn, idle (by decide), later.aside]
    exact ⟨later, still, idle (by decide)⟩

theorem settle_tended (lasting : Lasting P) (tended : Tended d a) (holds : P a.service) :
    AtRest d a.settle ∧ P a.settle.service := by
  obtain ⟨later, still, idle⟩ := settleIn_tended lasting tended holds (by decide : 1 < patience)
  exact ⟨{ later with idle := idle, fresh := rfl }, still⟩

/-! ## Time -/

theorem wake_tended (tended : Tended d a) :
    Tended d (a.wake 0) ∧ (a.wake 0).service = a.service := by
  unfold wake
  have apart : (a.front == some 0) = false := by rw [tended.front]; rfl
  split
  · exact ⟨tended, rfl⟩
  · rw [apart]
    simp only [Bool.false_eq_true, if_false]
    split
    · exact ⟨tended, rfl⟩
    · rename_i away
      refine ⟨{ tended with queue := ?_ }, rfl⟩
      rcases tended.queue with idle | one
      · exact .inr (by rw [idle]; rfl)
      · simp [one] at away

theorem wakeAll_tended {fired : List Alarm} (ours : ∀ alarm ∈ fired, alarm.task = 0)
    (tended : Tended d a) :
    Tended d (fired.foldl (fun a alarm => a.wake alarm.task) a) ∧
      (fired.foldl (fun a alarm => a.wake alarm.task) a).service = a.service := by
  induction fired generalizing a with
  | nil => exact ⟨tended, rfl⟩
  | cons alarm fired ih =>
    obtain ⟨first, others⟩ := List.forall_mem_cons.1 ours
    obtain ⟨woken, same⟩ := wake_tended tended
    rw [List.foldl_cons, first, ← same]
    exact ih others woken

theorem passTo_tended (lasting : Lasting P) (tended : Tended d a) (holds : P a.service)
    (time : Instant) : Tended d (a.passTo time) ∧ P (a.passTo time).service := by
  unfold passTo
  rw [List.partition_eq_filter_filter]
  dsimp only
  have later : Tended d { a with
      service := { a.service with now := time }
      alarms := a.alarms.filter (not ∘ fun alarm => decide (alarm.due ≤ time)) } :=
    { tended with alarms := fun alarm member => tended.alarms alarm (List.mem_filter.1 member).1 }
  have ours : ∀ alarm ∈ a.alarms.filter (fun alarm => decide (alarm.due ≤ time)), alarm.task = 0 :=
    fun alarm member => tended.alarms alarm (List.mem_filter.1 member).1
  obtain ⟨woken, same⟩ := wakeAll_tended ours later
  refine ⟨woken, ?_⟩
  rw [same]
  exact lasting.now _ _ holds

theorem advanceTo_tended (lasting : Lasting P) (tended : Tended d a) (holds : P a.service)
    (target : Instant) (rounds : Nat) :
    Tended d (a.advanceTo target rounds) ∧ P (a.advanceTo target rounds).service := by
  induction rounds generalizing a with
  | zero => exact ⟨tended, holds⟩
  | succ rounds ih =>
    obtain ⟨later, still, -⟩ := drain_tended lasting tended holds turnsPerRound
    rw [advanceTo]
    dsimp only
    split
    · split
      · obtain ⟨passed, kept⟩ := passTo_tended lasting later still _
        exact ih passed kept
      · exact passTo_tended lasting later still _
    · rw [bringBack_tended later]
      exact ih later still

/-- While time passes at an agent at rest, clean-ups are all that happens. -/
theorem advance_atRest (lasting : Lasting P) (rest : AtRest d a) (holds : P a.service)
    (span : Decimal.Duration) : AtRest d (a.advance span) ∧ P (a.advance span).service := by
  obtain ⟨later, still⟩ := advanceTo_tended lasting rest.toTended holds
    (sleepEnd a.service.now span) patience
  exact settle_tended lasting later still

/-- The agent that begins to clean up is at rest. -/
theorem spawn_upkeep (lasting : Lasting P) (d : Dispatcher σ) (silent : s.signals = [])
    (holds : P s) (name : String) (state : σ) :
    let a := ({ start d state with service := s } : Agent σ).spawn name (.upkeep none)
    AtRest d a ∧ P a.service :=
  settle_tended lasting
    { dispatcher := rfl
      held := rfl
      task := fun _ member => ⟨congrArg Prod.fst (List.mem_singleton.1 member), none,
        congrArg Prod.snd (List.mem_singleton.1 member)⟩
      later := Nat.zero_lt_one
      alarms := fun _ member => absurd member List.not_mem_nil
      queue := .inr rfl
      aside := rfl
      front := rfl
      unready := rfl
      silent := silent } holds

end ChatCommands.AgentTurns
