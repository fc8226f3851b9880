import ChatCommands.Dispatch.Aftermath

/-!
An agent at work: a dispatcher, its service, and tasks that take turns. A task
takes its turn when it is in the queue, and then goes on until it ends, has to
wait or gives way; what it waits for puts it back into the queue. One task at a
time can be in front: somebody outside waits for it.

Turns are given in rounds. A round begins with the task in front, if it can go
on, and goes on with the queue until that is empty or enough turns were given.
After it those that gave way come back into the queue, the last one first. The
clock stands still while anybody can go on or gave way, and else moves on to the
earliest time that a task waits for.
-/

namespace ChatCommands

/-- What a task has to do next. -/
inductive Work (σ : Type) where
  /-- An event that is not begun. -/
  | event (e : Event)
  /-- An event under way. -/
  | handling (h : Handling σ)
  /-- After hooks that are not begun. -/
  | aftermath (w : Aftermath σ)
  /-- After hooks under way. -/
  | afterHook (w : Aftermath σ) (stage : AftermathStage) (pause : Pause σ)
  /-- Regular clean-ups: the time of the next one, once there was a first turn. -/
  | upkeep (due : Option Instant)
  /-- Collected replies are fetched: the ticket for the tray, once there was a first turn. -/
  | fetching (ticket : Option Nat)

namespace Work

variable {σ : Type}

/-- The time that the work waits for. -/
def due? : Work σ → Option Instant
  | .handling h => h.due?
  | .afterHook _ _ pause => pause.due?
  | .upkeep due => due
  | .event _ | .aftermath _ | .fetching _ => none

/-- Whether the work waits at a place in the line for a slot. -/
def awaitsSlot (ticket : Nat) : Work σ → Bool
  | .handling (.queued _ place) => place.ticket == ticket
  | _ => false

/-- Whether the work waits for the permit of a ticket. -/
def awaitsPermit (ticket : Nat) : Work σ → Bool
  | .handling (.staged _ _ pause) | .handling (.unresolved _ _ pause) | .afterHook _ _ pause =>
    pause.awaitsPermit ticket
  | _ => false

/-- Whether the work waits for the tray with a ticket. -/
def awaitsTray (ticket : Nat) : Work σ → Bool
  | .handling (.staged _ _ pause) | .handling (.unresolved _ _ pause) | .afterHook _ _ pause =>
    pause.awaitsTray ticket
  | .fetching (some t) => t == ticket
  | _ => false

/-- Whether the work keeps the dispatcher from going away. -/
def keepsDispatcher : Work σ → Bool
  | .event _ | .handling _ => true
  | _ => false

/-- Gives the work up. -/
def cancel (w : Work σ) (s : Service σ) : Service σ :=
  match w with
  | .handling h => h.cancel s
  | .afterHook _ _ pause => pause.drop s
  | .fetching (some ticket) => s.passTray (s.tray.abandon ticket)
  | .event _ | .aftermath _ | .upkeep _ | .fetching none => s

/-- The work that remains of the handling of an event. -/
def ofHandling : Handling σ × Service σ → Option (Work σ) × Service σ
  | (.finished, s) => (none, s)
  | (h, s) => (some (.handling h), s)

/-- The work that remains of after hooks. -/
def ofAftermath (w : Aftermath σ) :
    Option (AftermathStage × Pause σ) × Service σ → Option (Work σ) × Service σ
  | (some (stage, pause), s) => (some (.afterHook w stage pause), s)
  | (none, s) => (none, s)

/-- When the clean-up after one at a time is due. An interval that leads out of the clock's range, 63
bits of seconds, is cut to the longest sleep. -/
def nextCleanUp (limits : LimitSettings) (time : Instant) : Instant :=
  if limits.interval < 9223372036854775807 * Decimal.Duration.second then time + limits.interval
  else sleepEnd time limits.interval

/-- Clean-ups that are due; `isHeld` says whether anybody still holds the dispatcher. -/
def cleanUp (limits : LimitSettings) (isHeld : Bool) (due : Option Instant) (s : Service σ) :
    Option (Work σ) × Service σ :=
  match due with
  | none => (some (.upkeep (some (nextCleanUp limits s.now))), s)
  | some due =>
    if s.now < due then (some (.upkeep (some due)), s)
    else if isHeld then
      (some (.upkeep (some (nextCleanUp limits due))), s.maintain limits.retention)
    else (none, s)

/-- Fetches the collected replies when the tray is free. -/
def fetch (ticket : Option Nat) (s : Service σ) : Option (Work σ) × Service σ :=
  match ticket with
  | none =>
    match s.tray.enter s.turn with
    | (none, turn, tray) => (none, { s with turn := turn, tray := tray }.fetch)
    | (some ticket, turn, tray) =>
      (some (.fetching (some ticket)), { s with turn := turn, tray := tray })
  | some ticket =>
    match s.tray.receive ticket with
    | some tray => (none, { s.spend with tray := tray }.fetch)
    | none => (some (.fetching (some ticket)), s)

/-- Goes on with the work until it ends, has to wait or gives way. -/
def goOn (d : Dispatcher σ) (isHeld : Bool) (w : Work σ) (s : Service σ) :
    Option (Work σ) × Service σ :=
  match w with
  | .event e => ofHandling (d.dispatch e s)
  | .handling h => ofHandling (d.resume h s)
  | .aftermath w => ofAftermath w (w.begin d s)
  | .afterHook w stage pause => ofAftermath w (w.resume d stage pause s)
  | .upkeep due => cleanUp d.settings.limits isHeld due s
  | .fetching ticket => fetch ticket s

end Work

/-- A task. -/
structure Task (σ : Type) where
  /-- What it has to do. -/
  work : Work σ
  /-- Whether it is given up on its next turn. -/
  isCancelled : Bool := false

/-- A time that a task waits for. -/
structure Alarm where
  /-- The time. -/
  due : Instant
  /-- The task. -/
  task : Nat
  deriving DecidableEq

/-- A dispatcher at work. -/
structure Agent (σ : Type) where
  /-- The dispatcher. -/
  dispatcher : Dispatcher σ
  /-- What changes while it works. -/
  service : Service σ
  /-- Whether the dispatcher is held by more than its tasks. -/
  isHeld : Bool := true
  /-- The unfinished tasks by number. -/
  tasks : Table Nat (Task σ) := []
  /-- The number of the next task. -/
  nextTask : Nat := 0
  /-- The numbers of the tasks that were given names. -/
  names : Table String Nat := []
  /-- The tasks in the queue, the one whose turn is next first. -/
  queue : List Nat := []
  /-- The tasks that gave way, the last one first. -/
  aside : List Nat := []
  /-- The times that tasks wait for, in the order in which they were set. -/
  alarms : List Alarm := []
  /-- The task in front. -/
  front : Option Nat := none
  /-- Whether the task in front can go on. -/
  frontReady : Bool := false
  /-- The turn of those in front: tasks that follow each other there share it until one waits. -/
  frontTurn : Turn := {}

namespace Agent

variable {σ : Type}

/-- The agent of a dispatcher before anything happens. -/
def start (d : Dispatcher σ) (app : σ) : Agent σ := { dispatcher := d, service := .start d app }

/-- Lets an unfinished task take a turn, unless it is going to. -/
def wake (a : Agent σ) (id : Nat) : Agent σ :=
  if (a.tasks.get? id).isNone then a
  else if a.front == some id then { a with frontReady := true }
  else if a.queue.contains id then a
  else { a with queue := a.queue ++ [id] }

/-- The first task whose work has a property. -/
def taskWhere (a : Agent σ) (holds : Work σ → Bool) : Option Nat :=
  (a.tasks.find? fun e => holds e.2.work).map (·.1)

/-- Wakes the first task whose work has a property. -/
def wakeWhere (a : Agent σ) (holds : Work σ → Bool) : Agent σ :=
  match a.taskWhere holds with
  | some id => a.wake id
  | none => a

/-- Adds a task, and puts it into the queue. -/
def add (a : Agent σ) (work : Work σ) : Nat × Agent σ :=
  (a.nextTask,
    { a with
      tasks := a.tasks.set a.nextTask ⟨work, false⟩
      nextTask := a.nextTask + 1
      queue := a.queue ++ [a.nextTask] })

/-- Acts on what an invocation left to be acted on. -/
def heed (a : Agent σ) : Signal σ → Agent σ
  | .slot ticket => a.wakeWhere (Work.awaitsSlot ticket)
  | .permit ticket => a.wakeWhere (Work.awaitsPermit ticket)
  | .tray ticket => a.wakeWhere (Work.awaitsTray ticket)
  | .aftermath w => (a.add (.aftermath w)).2

/-- Acts on everything that was left to be acted on, in order. -/
def heedAll (a : Agent σ) : Agent σ :=
  let signals := a.service.signals
  signals.foldl heed { a with service := { a.service with signals := [] } }

/-- Changes the service, and acts on what that leaves. -/
def change (a : Agent σ) (service : Service σ) : Agent σ := heedAll { a with service := service }

/-- Sets the time that a task waits for. One that stays the same keeps its place among the
others. -/
def setAlarm (alarms : List Alarm) (id : Nat) (due : Option Instant) : List Alarm :=
  match due with
  | some due =>
    if alarms.contains ⟨due, id⟩ then alarms
    else alarms.filter (·.task != id) ++ [⟨due, id⟩]
  | none => alarms.filter (·.task != id)

/-- Whether anything holds the dispatcher. -/
def holdsDispatcher (a : Agent σ) : Bool :=
  a.isHeld || a.tasks.any fun e => e.2.work.keepsDispatcher

/-- Keeps what remains of a task after its turn. A time is waited for only by a task that did not
give way. -/
def keep (a : Agent σ) (id : Nat) (work : Option (Work σ)) (turn : Turn) : Agent σ :=
  match work with
  | some work =>
    { a with
      tasks := a.tasks.set id ⟨work, false⟩
      aside := if turn.givesWay then id :: a.aside else a.aside
      alarms := setAlarm a.alarms id (if turn.givesWay then none else work.due?) }
  | none => { a with tasks := a.tasks.erase id, alarms := setAlarm a.alarms id none }

/-- Gives a task its turn. -/
def turn (a : Agent σ) (id : Nat) (turn : Turn) : Agent σ :=
  match a.tasks.get? id with
  | none => a
  | some task =>
    if task.isCancelled then (a.keep id none turn).change (task.work.cancel a.service)
    else
      let (work, service) :=
        task.work.goOn a.dispatcher a.holdsDispatcher { a.service with turn := turn }
      (a.keep id work service.turn).change service

/-- Gives at most `turns` turns to the tasks in the queue. -/
def drain : Nat → Agent σ → Agent σ
  | 0, a => a
  | turns + 1, a =>
    match a.queue with
    | [] => a
    | id :: rest => drain turns ({ a with queue := rest }.turn id {})

/-- How many tasks of the queue take their turn in a round. -/
def turnsPerRound : Nat := 61

/-- How many rounds are given at most before somebody else is heard. -/
def patience : Nat := 1000000

/-- Lets the tasks that gave way come back into the queue, the last one first. -/
def bringBack (a : Agent σ) : Agent σ := a.aside.foldl wake { a with aside := [] }

/-- Gives rounds of turns until no task is in the queue and none gave way. -/
def settleIn : Nat → Agent σ → Agent σ
  | 0, a => a
  | rounds + 1, a =>
    if a.queue.isEmpty && a.aside.isEmpty then a
    else settleIn rounds (a.drain turnsPerRound).bringBack

/-- Lets the tasks go on as far as they get without time passing. -/
def settle (a : Agent σ) : Agent σ := { a.settleIn patience with frontTurn := {} }

/-- The earliest time that a task waits for. -/
def nextDue? (a : Agent σ) : Option Instant :=
  a.alarms.foldl (fun least alarm => some (least.elim alarm.due (min alarm.due))) none

/-- Moves the clock to a time, and wakes the tasks that wait for it. -/
def passTo (a : Agent σ) (time : Instant) : Agent σ :=
  let (fired, alarms) := a.alarms.partition (·.due ≤ time)
  let a := { a with service := { a.service with now := time }, alarms := alarms }
  fired.foldl (fun a alarm => a.wake alarm.task) a

/-- Whether nobody can go on before time passes. -/
def isIdle (a : Agent σ) : Bool := a.queue.isEmpty && a.aside.isEmpty && !a.frontReady

/-- Gives the task in front its turn, if it can go on. -/
def turnFront (a : Agent σ) (id : Nat) : Agent σ :=
  if a.frontReady then
    let a := { a with frontReady := false }.turn id a.frontTurn
    if (a.tasks.get? id).isNone then { a with front := none, frontTurn := a.service.turn }
    else { a with frontTurn := {} }
  else a

/-- Gives rounds of turns until the task in front has ended, and lets time pass when nobody can go
on, at most `rounds` times. -/
def await : Nat → Agent σ → Agent σ
  | 0, a => a
  | rounds + 1, a =>
    match a.front with
    | none => a
    | some id =>
      let a := a.turnFront id
      if a.front.isNone then a
      else
        let a := a.drain turnsPerRound
        if a.isIdle then
          match a.nextDue? with
          | some due => await rounds (a.passTo due)
          | none => { a with front := none }
        else await rounds a.bringBack

/-- Puts work in front, and waits until it is done. -/
def inFront (a : Agent σ) (work : Work σ) : Agent σ :=
  { a with
    tasks := a.tasks.set a.nextTask ⟨work, false⟩
    nextTask := a.nextTask + 1
    front := some a.nextTask
    frontReady := true }.await patience

/-- Hands an event over, and waits until it is handled. -/
def send (a : Agent σ) (e : Event) : Agent σ := a.inFront (.event e)

/-- Fetches the replies that were collected, oldest first. -/
def fetchReplies (a : Agent σ) : List Reply × Agent σ :=
  let a := a.inFront (.fetching none)
  (a.service.post.fetched,
    { a with service := { a.service with post := { a.service.post with fetched := [] } } })

/-- Hands work over under a name, and lets it be done meanwhile. -/
def spawn (a : Agent σ) (name : String) (work : Work σ) : Agent σ :=
  let (id, a) := a.add work
  { a with names := a.names.set name id }.settle

/-- Gives up the task with a name. -/
def abort (a : Agent σ) (name : String) : Agent σ :=
  match a.names.get? name with
  | none => a.settle
  | some id =>
    match a.tasks.get? id with
    | none => a.settle
    | some task =>
      ({ a with tasks := a.tasks.set id { task with isCancelled := true } }.wake id).settle

/-- Adds permits at the gate. -/
def release (a : Agent σ) (permits : Nat) : Agent σ :=
  (a.change (a.service.passGate (a.service.gate.add permits))).settle

/-- Gives rounds of turns, and lets time pass when nobody can go on, until the clock shows a time;
at most `rounds` rounds. -/
def advanceTo (target : Instant) : Nat → Agent σ → Agent σ
  | 0, a => a
  | rounds + 1, a =>
    let a := a.drain turnsPerRound
    if a.isIdle then
      let time := a.nextDue?.elim target (min target)
      if time < target then advanceTo target rounds (a.passTo time) else a.passTo target
    else advanceTo target rounds a.bringBack

/-- Lets a span of time pass, as long as a sleep of that span. -/
def advance (a : Agent σ) (span : Decimal.Duration) : Agent σ :=
  (a.advanceTo (sleepEnd a.service.now span) patience).settle

/-- Lets go of the dispatcher; tasks under way keep it until they end. -/
def letGo (a : Agent σ) : Agent σ := { a with isHeld := false }.settle

/-- Whether each task that was given a name has ended. -/
def finished (a : Agent σ) : List (String × Bool) :=
  a.names.map fun e => (e.1, (a.tasks.get? e.2).isNone)

end Agent

end ChatCommands
