import ChatCommands.Limit.Slots
import Mathlib.Data.List.Nodup
import Mathlib.Logic.Function.Basic

/-! Slots together with everyone who uses them. `Slots` alone cannot say whether
a caller still holds what it was given, so the callers of every key are kept
beside it, in books that only note what each caller was told. A caller asks,
receives a slot that was handed to it, gives up its place, or gives its slot
back; idle buckets may be dropped at any time. `Traffic.run` takes any such moves
in any order. `Serves` is what one bucket and its callers agree on, and each
change of a bucket that a move consists of keeps it. -/
namespace ChatCommands.SlotTraffic

/-- The callers at one key, numbered in the order in which they asked. -/
structure Callers where
  /-- How many asked so far, which is the number of the next. -/
  arrived : Nat := 0
  held : List (Nat × Admission) := []
  handed : List (Nat × Place) := []
  waiting : List (Nat × Place) := []
  /-- Who was granted a slot, at once or by hand-over, in the order of the grants. -/
  granted : List Nat := []

namespace Callers

def hold (c : Callers) (caller : Nat) (a : Admission) : Callers :=
  { c with held := (caller, a) :: c.held }

/-- Nobody is at a place any more. -/
def vacate (c : Callers) (p : Place) : Callers :=
  { c with
    handed := c.handed.filter fun e => e.2 ≠ p
    waiting := c.waiting.filter fun e => e.2 ≠ p }

/-- A slot is on its way to the place with a ticket, if there is one. -/
def grant (c : Callers) : Option Nat → Callers
  | none => c
  | some ticket =>
    let chosen := c.waiting.filter fun e => e.2.ticket = ticket
    { c with
      handed := c.handed ++ chosen
      waiting := c.waiting.filter fun e => e.2.ticket ≠ ticket
      granted := c.granted ++ chosen.map (·.1) }

end Callers

/-- Slots, and the callers at every key. -/
structure Traffic where
  slots : Slots := {}
  callers : SlotKey → Callers := fun _ => {}

/-- What can happen next. -/
inductive Move where
  | enter (key : SlotKey) (rule : Concurrency)
  | release (caller : Nat) (admission : Admission)
  | receive (caller : Nat) (place : Place)
  /-- A caller in line gives up, whether or not a slot is on its way to it. -/
  | cancel (caller : Nat) (place : Place)
  | cleanup

namespace Traffic

def put (u : Traffic) (key : SlotKey) (slots : Slots) (callers : Callers) : Traffic :=
  ⟨slots, Function.update u.callers key callers⟩

def enter (u : Traffic) (key : SlotKey) (rule : Concurrency) : Traffic :=
  let c := u.callers key
  let next := { c with arrived := c.arrived + 1 }
  match u.slots.enter key rule with
  | (.admitted a, s) =>
    u.put key s ({ next with granted := c.granted ++ [c.arrived] }.hold c.arrived a)
  | (.saturated _, s) => u.put key s next
  | (.queued p, s) => u.put key s { next with waiting := c.waiting ++ [(c.arrived, p)] }

def release (u : Traffic) (caller : Nat) (a : Admission) : Traffic :=
  let c := u.callers a.key
  if (caller, a) ∈ c.held then
    let (s, ticket) := u.slots.release a
    u.put a.key s ({ c with held := c.held.erase (caller, a) }.grant ticket)
  else u

def receive (u : Traffic) (caller : Nat) (p : Place) : Traffic :=
  let c := u.callers p.key
  if (caller, p) ∈ c.handed ++ c.waiting then
    match u.slots.receive p with
    | some (a, s) => u.put p.key s ((c.vacate p).hold caller a)
    | none => u
  else u

def cancel (u : Traffic) (caller : Nat) (p : Place) : Traffic :=
  let c := u.callers p.key
  if (caller, p) ∈ c.handed ++ c.waiting then
    let (s, ticket) := u.slots.abandon p
    u.put p.key s ((c.vacate p).grant ticket)
  else u

/-- One move. A move of a caller that is not where the move needs it changes nothing. -/
def step (u : Traffic) : Move → Traffic
  | .enter key rule => u.enter key rule
  | .release caller a => u.release caller a
  | .receive caller p => u.receive caller p
  | .cancel caller p => u.cancel caller p
  | .cleanup => { u with slots := u.slots.cleanup.1 }

def run (moves : List Move) : Traffic := moves.foldl step {}

end Traffic

/-! ## One bucket -/

/-- The places at which somebody still stands, first in line first. -/
def liveTickets (line : List Waiter) : List Nat := (line.filter (·.live)).map (·.ticket)

/-- The places a bucket knows of. -/
def tickets (b : SlotBucket) : List Nat := b.handed ++ b.waiters.map (·.ticket)

/-- A bucket agrees with the callers at its key, and lets no slot idle while there is a line. Places
that were given up may stay in line, but `liveTickets` skips them. Of the slots taken, `returning`
were given back by their callers and are neither free nor on their way to somebody yet. -/
structure Serves (key : SlotKey) (b : SlotBucket) (c : Callers) (returning : Nat) : Prop where
  held_here : ∀ e ∈ c.held, e.2 = ⟨key, b.serial⟩
  /-- Slots are on their way to exactly those who were handed one. -/
  handed_places : c.handed.map (·.2) = b.handed.map (⟨key, b.serial, ·⟩)
  /-- Those who wait stand in line as they came. -/
  waiting_places : c.waiting.map (·.2) = (liveTickets b.waiters).map (⟨key, b.serial, ·⟩)
  /-- Every slot taken is held, on its way or returning. -/
  in_flight : b.inFlight = c.held.length + c.handed.length + returning
  within : b.inFlight ≤ b.max
  /-- There is no line, not even of places given up, while a slot is free. -/
  busy : b.inFlight < b.max → b.waiters = []
  distinct : (tickets b).Nodup

/-- Callers are granted slots in the order in which they asked: those granted so far came before
all who wait, and everybody who has a slot is among them. -/
structure Callers.Ordered (c : Callers) : Prop where
  in_order : (c.granted ++ c.waiting.map (·.1)).Pairwise (· < ·)
  arrived : ∀ n ∈ c.granted ++ c.waiting.map (·.1), n < c.arrived
  held_granted : ∀ e ∈ c.held, e.1 ∈ c.granted
  handed_granted : ∀ e ∈ c.handed, e.1 ∈ c.granted

/-! ### The line -/

theorem mem_line_of_live {line : List Waiter} (standing : ticket ∈ liveTickets line) :
    ticket ∈ line.map (·.ticket) :=
  (List.filter_sublist.map _).subset standing

theorem place_of_handed (serves : Serves key b c returning) (member : e ∈ c.handed) :
    ∃ ticket ∈ b.handed, e.2 = ⟨key, b.serial, ticket⟩ := by
  have place : e.2 ∈ c.handed.map (·.2) := List.mem_map_of_mem member
  rw [serves.handed_places] at place
  obtain ⟨ticket, onItsWay, same⟩ := List.mem_map.1 place
  exact ⟨ticket, onItsWay, same.symm⟩

/-- No slot is on its way to a caller that still waits. -/
theorem place_of_waiting (serves : Serves key b c returning) (member : e ∈ c.waiting) :
    ∃ ticket ∉ b.handed, e.2 = ⟨key, b.serial, ticket⟩ := by
  have place : e.2 ∈ c.waiting.map (·.2) := List.mem_map_of_mem member
  rw [serves.waiting_places] at place
  obtain ⟨ticket, standing, same⟩ := List.mem_map.1 place
  refine ⟨ticket, fun onItsWay => ?_, same.symm⟩
  have apart := (List.nodup_append.1 serves.distinct).2.2
  exact apart ticket onItsWay ticket (mem_line_of_live standing) rfl

theorem nextInLine_eq_none {line : List Waiter} (empty : liveTickets line = []) :
    SlotBucket.nextInLine line = none := by
  induction line with
  | nil => rfl
  | cons w rest ih =>
    cases live : w.live with
    | true => simp [liveTickets, live] at empty
    | false =>
      simp only [SlotBucket.nextInLine, live, Bool.false_eq_true, if_false]
      exact ih (by simpa [liveTickets, live] using empty)

/-- A slot goes to the first place at which somebody still stands. The line after it is an end of the
line before. -/
theorem nextInLine_eq_some {line : List Waiter} {ticket : Nat} {later : List Nat}
    (first : liveTickets line = ticket :: later) :
    ∃ rest, SlotBucket.nextInLine line = some (ticket, rest) ∧ liveTickets rest = later ∧
      ∃ skipped, line.map (·.ticket) = skipped ++ ticket :: rest.map (·.ticket) := by
  induction line with
  | nil => simp [liveTickets] at first
  | cons w rest ih =>
    cases live : w.live with
    | true =>
      simp only [liveTickets, List.filter_cons_of_pos live, List.map_cons, List.cons.injEq] at first
      obtain ⟨rfl, here⟩ := first
      refine ⟨rest, ?_, here, [], rfl⟩
      simp [SlotBucket.nextInLine, live]
    | false =>
      have skip : liveTickets rest = ticket :: later := by simpa [liveTickets, live] using first
      obtain ⟨left, found, liveLeft, skipped, shape⟩ := ih skip
      refine ⟨left, ?_, liveLeft, w.ticket :: skipped, ?_⟩
      · simpa [SlotBucket.nextInLine, live] using found
      · rw [List.map_cons, shape, List.cons_append]

/-- The first in line, as the bucket and as the callers see it. Passing it over leaves a line that both
agree on. -/
theorem first_in_line (serves : Serves key b c returning)
    (live : liveTickets b.waiters = ticket :: later) :
    ∃ entry others rest, c.waiting = entry :: others ∧ entry.2 = ⟨key, b.serial, ticket⟩ ∧
      (∀ e ∈ others, e.2.ticket ≠ ticket) ∧
      SlotBucket.nextInLine b.waiters = some (ticket, rest) ∧
      others.map (·.2) = (liveTickets rest).map (⟨key, b.serial, ·⟩) := by
  obtain ⟨rest, found, liveRest, skipped, shape⟩ := nextInLine_eq_some live
  have places := serves.waiting_places
  rw [live, List.map_cons, ← liveRest] at places
  obtain ⟨entry, others, line, here, there⟩ := List.map_eq_cons_iff.1 places
  have fresh : ticket ∉ rest.map (·.ticket) := by
    have distinct := (List.nodup_append.1 serves.distinct).2.1
    rw [shape] at distinct
    exact (List.nodup_cons.1 (List.nodup_append.1 distinct).2.1).1
  refine ⟨entry, others, rest, line, here, ?_, found, there⟩
  intro e member same
  have place : e.2 ∈ others.map (·.2) := List.mem_map_of_mem member
  rw [there] at place
  obtain ⟨t, standing, isPlace⟩ := List.mem_map.1 place
  have isTicket : t = ticket := by rw [← same, ← isPlace]
  exact fresh (isTicket ▸ mem_line_of_live standing)

/-- A slot that is on its way to a place goes to the caller who stands there. -/
theorem grant_first {c : Callers} {entry : Nat × Place} {others : List (Nat × Place)}
    (line : c.waiting = entry :: others) (here : entry.2.ticket = ticket)
    (notAgain : ∀ e ∈ others, e.2.ticket ≠ ticket) :
    c.grant (some ticket) =
      { c with
        handed := c.handed ++ [entry]
        waiting := others
        granted := c.granted ++ [entry.1] } := by
  have chosen : c.waiting.filter (fun e => e.2.ticket = ticket) = [entry] := by
    rw [line, List.filter_cons_of_pos (by simpa using here)]
    congr 1
    exact List.filter_eq_nil_iff.2 fun e member => by simpa using notAgain e member
  have left : c.waiting.filter (fun e => e.2.ticket ≠ ticket) = others := by
    rw [line, List.filter_cons_of_neg (by simpa using here)]
    exact List.filter_eq_self.2 fun e member => by simpa using notAgain e member
  simp only [Callers.grant, chosen, left, List.map_cons, List.map_nil]

theorem tickets_queue (b : SlotBucket) (ticket : Nat) :
    tickets { b with waiters := b.waiters ++ [⟨ticket, true⟩] } = tickets b ++ [ticket] := by
  simp [tickets]

theorem max_release (b : SlotBucket) : b.release.1.max = b.max := by
  unfold SlotBucket.release
  split <;> rfl

theorem tickets_release (b : SlotBucket) : (tickets b.release.1).Sublist (tickets b) := by
  cases live : liveTickets b.waiters with
  | nil => simp [SlotBucket.release, nextInLine_eq_none live, tickets]
  | cons ticket later =>
    obtain ⟨rest, found, -, skipped, shape⟩ := nextInLine_eq_some live
    simp only [SlotBucket.release, found, tickets, shape, List.append_assoc, List.singleton_append]
    exact (List.sublist_append_right _ _).append_left _

/-! ### What each change keeps -/

/-- Numbers of arrivals and grants play no part in what a bucket and its callers agree on. -/
theorem serves_same_callers {c c' : Callers} (serves : Serves key b c returning)
    (held : c'.held = c.held) (handed : c'.handed = c.handed) (waiting : c'.waiting = c.waiting) :
    Serves key b c' returning where
  held_here := by rw [held]; exact serves.held_here
  handed_places := by rw [handed]; exact serves.handed_places
  waiting_places := by rw [waiting]; exact serves.waiting_places
  in_flight := by rw [held, handed]; exact serves.in_flight
  within := serves.within
  busy := serves.busy
  distinct := serves.distinct

theorem new_bucket_serves {c : Callers} (held : c.held = []) (handed : c.handed = [])
    (waiting : c.waiting = []) : Serves key { serial := serial, max := number } c 0 where
  held_here := by simp [held]
  handed_places := by simp [handed]
  waiting_places := by simp [waiting, liveTickets]
  in_flight := by simp [held, handed]
  within := Nat.zero_le _
  busy := fun _ => rfl
  distinct := List.nodup_nil

/-- A bucket that may be dropped has nobody attached to it. -/
theorem idle_bucket_unused (serves : Serves key b c 0) (idle : b.isIdle = true) :
    c.held = [] ∧ c.handed = [] ∧ c.waiting = [] := by
  simp only [SlotBucket.isIdle, Bool.and_eq_true, beq_iff_eq, List.isEmpty_iff] at idle
  have total := serves.in_flight
  have places := serves.waiting_places
  rw [idle.1] at total
  simp only [idle.2, liveTickets, List.filter_nil, List.map_nil, List.map_eq_nil_iff] at places
  exact ⟨List.eq_nil_of_length_eq_zero (by omega), List.eq_nil_of_length_eq_zero (by omega), places⟩

/-- A free slot is taken, and is nobody's yet. -/
theorem take_serves (serves : Serves key b c 0) (free : b.inFlight < b.max) :
    Serves key { b with inFlight := b.inFlight + 1 } c 1 where
  held_here := serves.held_here
  handed_places := serves.handed_places
  waiting_places := serves.waiting_places
  in_flight := congrArg (· + 1) serves.in_flight
  within := free
  busy := fun _ => serves.busy free
  distinct := serves.distinct

theorem hold_serves (serves : Serves key b c 1) (caller : Nat) :
    Serves key b (c.hold caller ⟨key, b.serial⟩) 0 where
  held_here := by
    intro e member
    rcases List.mem_cons.1 member with rfl | earlier
    · rfl
    · exact serves.held_here e earlier
  handed_places := serves.handed_places
  waiting_places := serves.waiting_places
  in_flight := by
    have total := serves.in_flight
    simp only [Callers.hold, List.length_cons]
    omega
  within := serves.within
  busy := serves.busy
  distinct := serves.distinct

/-- A caller joins the line only when no slot is free, and at a place nobody had. -/
theorem queue_serves (serves : Serves key b c 0) (full : ¬ b.inFlight < b.max)
    (fresh : ∀ t ∈ tickets b, t < ticket) (caller : Nat) :
    Serves key { b with waiters := b.waiters ++ [⟨ticket, true⟩] }
      { c with waiting := c.waiting ++ [(caller, ⟨key, b.serial, ticket⟩)] } 0 where
  held_here := serves.held_here
  handed_places := serves.handed_places
  waiting_places := by simp [liveTickets, serves.waiting_places]
  in_flight := serves.in_flight
  within := serves.within
  busy := fun free => absurd free full
  distinct := by
    rw [tickets_queue]
    refine List.nodup_append.2 ⟨serves.distinct, List.nodup_singleton _, ?_⟩
    intro t member other isTicket
    rw [List.mem_singleton.1 isTicket]
    exact Nat.ne_of_lt (fresh t member)

theorem give_back_serves (serves : Serves key b c 0) (holds : e ∈ c.held) :
    Serves key b { c with held := c.held.erase e } 1 where
  held_here := fun other member => serves.held_here other (List.mem_of_mem_erase member)
  handed_places := serves.handed_places
  waiting_places := serves.waiting_places
  in_flight := by
    have total := serves.in_flight
    have positive := List.length_pos_of_mem holds
    simp only [List.length_erase_of_mem holds]
    omega
  within := serves.within
  busy := serves.busy
  distinct := serves.distinct

/-- A returning slot goes to the first in line, or becomes free when nobody stands there. -/
theorem pass_on_serves (serves : Serves key b c 1) :
    Serves key b.release.1 (c.grant b.release.2) 0 := by
  have total := serves.in_flight
  have distinct := serves.distinct.sublist (tickets_release b)
  cases live : liveTickets b.waiters with
  | nil =>
    have nobody : c.waiting = [] := by simpa [live] using serves.waiting_places
    simp only [SlotBucket.release, nextInLine_eq_none live, Callers.grant] at distinct ⊢
    refine ⟨serves.held_here, serves.handed_places, ?_, ?_, ?_, fun _ => rfl, distinct⟩
    · simp [nobody, liveTickets]
    · simp only [total]
      omega
    · exact Nat.le_trans (Nat.sub_le _ _) serves.within
  | cons ticket later =>
    obtain ⟨entry, others, rest, line, here, notAgain, found, places⟩ := first_in_line serves live
    simp only [SlotBucket.release, found, grant_first line (by rw [here]) notAgain] at distinct ⊢
    refine ⟨serves.held_here, ?_, places, ?_, serves.within, ?_, distinct⟩
    · simp [serves.handed_places, here]
    · simp only [List.length_append, List.length_singleton]
      omega
    · intro free
      rw [serves.busy free] at live
      cases live

theorem places_without {entries : List (Nat × Place)} {known : List Nat}
    (places : entries.map (·.2) = known.map (⟨key, serial, ·⟩)) (ticket : Nat) :
    (entries.filter fun e => e.2 ≠ ⟨key, serial, ticket⟩).map (·.2) =
      (known.filter (· ≠ ticket)).map (⟨key, serial, ·⟩) := by
  calc (entries.filter fun e => e.2 ≠ ⟨key, serial, ticket⟩).map (·.2)
      = (entries.map (·.2)).filter (· ≠ ⟨key, serial, ticket⟩) := by
        rw [List.filter_map]
        rfl
    _ = (known.map (⟨key, serial, ·⟩)).filter (· ≠ ⟨key, serial, ticket⟩) := by rw [places]
    _ = (known.filter (· ≠ ticket)).map (⟨key, serial, ·⟩) := by
        rw [List.filter_map]
        simp [Function.comp_def]

theorem handed_without (serves : Serves key b c returning) (ticket : Nat) :
    (c.vacate ⟨key, b.serial, ticket⟩).handed.map (·.2) =
      (b.handed.erase ticket).map (⟨key, b.serial, ·⟩) := by
  have sameTest : (fun t : Nat => t != ticket) = fun t => decide (t ≠ ticket) := by
    funext t
    simp [bne, beq_eq_decide]
  rw [List.Nodup.erase_eq_filter (List.nodup_append.1 serves.distinct).1, sameTest]
  exact places_without serves.handed_places ticket

/-- A place that is given up while a slot is on its way to it leaves that slot to be passed on. -/
theorem vacate_handed_serves (serves : Serves key b c 0) (onItsWay : ticket ∈ b.handed) :
    Serves key { b with handed := b.handed.erase ticket }
      (c.vacate ⟨key, b.serial, ticket⟩) 1 where
  held_here := serves.held_here
  handed_places := handed_without serves ticket
  waiting_places := by
    have apart := (List.nodup_append.1 serves.distinct).2.2
    have absent : ∀ t ∈ liveTickets b.waiters, t ≠ ticket := fun t member same =>
      apart ticket onItsWay t (mem_line_of_live member) same.symm
    have kept : (liveTickets b.waiters).filter (· ≠ ticket) = liveTickets b.waiters :=
      List.filter_eq_self.2 (by simpa using absent)
    have places := places_without serves.waiting_places ticket
    rwa [kept] at places
  in_flight := by
    have after := congrArg List.length (handed_without serves ticket)
    have before := congrArg List.length serves.handed_places
    have erased := List.length_erase_of_mem onItsWay
    have positive := List.length_pos_of_mem onItsWay
    have total := serves.in_flight
    rw [List.length_map, List.length_map] at after before
    change b.inFlight = c.held.length + (c.vacate _).handed.length + 1
    omega
  within := serves.within
  busy := serves.busy
  distinct := serves.distinct.sublist (List.erase_sublist.append_right _)

theorem live_leaveLine (b : SlotBucket) (ticket : Nat) :
    liveTickets (b.leaveLine ticket).waiters = (liveTickets b.waiters).filter (· ≠ ticket) := by
  simp only [SlotBucket.leaveLine, liveTickets]
  induction b.waiters with
  | nil => rfl
  | cons w rest ih =>
    by_cases same : w.ticket = ticket <;> cases live : w.live <;> simp_all

theorem tickets_leaveLine (b : SlotBucket) (ticket : Nat) :
    tickets (b.leaveLine ticket) = tickets b := by
  simp only [SlotBucket.leaveLine, tickets, List.map_map]
  congr 1
  apply List.map_congr_left
  intro w _
  simp only [Function.comp_apply]
  split <;> rfl

/-- A place in line that is given up is skipped from then on. -/
theorem vacate_waiting_serves (serves : Serves key b c 0) (notOnItsWay : ticket ∉ b.handed) :
    Serves key (b.leaveLine ticket) (c.vacate ⟨key, b.serial, ticket⟩) 0 where
  held_here := serves.held_here
  handed_places := by
    rw [handed_without serves, List.erase_of_not_mem notOnItsWay]
    rfl
  waiting_places := by
    rw [live_leaveLine]
    exact places_without serves.waiting_places ticket
  in_flight := by
    have after := congrArg List.length (handed_without serves ticket)
    have before := congrArg List.length serves.handed_places
    rw [List.erase_of_not_mem notOnItsWay, List.length_map, List.length_map] at after
    rw [List.length_map, List.length_map, ← after] at before
    have total := serves.in_flight
    rw [before] at total
    exact total
  within := serves.within
  busy := fun free => by simp [SlotBucket.leaveLine, serves.busy free]
  distinct := by
    rw [tickets_leaveLine]
    exact serves.distinct

/-! ### The order of grants -/

theorem arrive_ordered {c : Callers} (ordered : c.Ordered) :
    { c with arrived := c.arrived + 1 }.Ordered :=
  ⟨ordered.in_order, fun n member => Nat.lt_succ_of_lt (ordered.arrived n member),
    ordered.held_granted, ordered.handed_granted⟩

/-- A caller that is granted a slot at once overtakes nobody, since nobody waits. -/
theorem grant_arriving_ordered {c : Callers} (ordered : c.Ordered) (nobody : c.waiting = [])
    (a : Admission) :
    ({ c with arrived := c.arrived + 1, granted := c.granted ++ [c.arrived] }.hold
      c.arrived a).Ordered := by
  have order := ordered.in_order
  have arrived := ordered.arrived
  simp only [nobody, List.map_nil, List.append_nil] at order arrived
  refine ⟨?_, ?_, ?_, fun e member => List.mem_append_left _ (ordered.handed_granted e member)⟩
  · simp only [Callers.hold, nobody, List.map_nil, List.append_nil]
    refine List.pairwise_append.2 ⟨order, List.pairwise_singleton _ _, ?_⟩
    intro n member last isLast
    rw [List.mem_singleton.1 isLast]
    exact arrived n member
  · intro n member
    simp only [Callers.hold, nobody, List.map_nil, List.append_nil, List.mem_append,
      List.mem_singleton] at member ⊢
    rcases member with earlier | rfl
    · exact Nat.lt_succ_of_lt (arrived n earlier)
    · exact Nat.lt_succ_self _
  · intro e member
    rcases List.mem_cons.1 member with rfl | earlier
    · exact List.mem_append_right _ (List.mem_singleton.2 rfl)
    · exact List.mem_append_left _ (ordered.held_granted e earlier)

theorem queue_ordered {c : Callers} (ordered : c.Ordered) (p : Place) :
    { c with arrived := c.arrived + 1, waiting := c.waiting ++ [(c.arrived, p)] }.Ordered := by
  refine ⟨?_, ?_, ordered.held_granted, ordered.handed_granted⟩
  · simp only [List.map_append, List.map_cons, List.map_nil, ← List.append_assoc]
    refine List.pairwise_append.2 ⟨ordered.in_order, List.pairwise_singleton _ _, ?_⟩
    intro n member last isLast
    rw [List.mem_singleton.1 isLast]
    exact ordered.arrived n member
  · intro n member
    simp only [List.map_append, List.map_cons, List.map_nil, ← List.append_assoc] at member
    rcases List.mem_append.1 member with earlier | now
    · exact Nat.lt_succ_of_lt (ordered.arrived n earlier)
    · rw [List.mem_singleton.1 now]
      exact Nat.lt_succ_self _

theorem give_back_ordered {c : Callers} (ordered : c.Ordered) (e : Nat × Admission) :
    { c with held := c.held.erase e }.Ordered :=
  ⟨ordered.in_order, ordered.arrived,
    fun other member => ordered.held_granted other (List.mem_of_mem_erase member),
    ordered.handed_granted⟩

theorem hold_ordered {c : Callers} (ordered : c.Ordered) (granted : caller ∈ c.granted)
    (a : Admission) : (c.hold caller a).Ordered := by
  refine ⟨ordered.in_order, ordered.arrived, ?_, ordered.handed_granted⟩
  intro e member
  rcases List.mem_cons.1 member with rfl | earlier
  · exact granted
  · exact ordered.held_granted e earlier

theorem pass_on_ordered (serves : Serves key b c 1) (ordered : c.Ordered) :
    (c.grant b.release.2).Ordered := by
  cases live : liveTickets b.waiters with
  | nil =>
    simp only [SlotBucket.release, nextInLine_eq_none live, Callers.grant]
    exact ordered
  | cons ticket later =>
    obtain ⟨entry, others, rest, line, here, notAgain, found, -⟩ := first_in_line serves live
    simp only [SlotBucket.release, found, grant_first line (by rw [here]) notAgain]
    have order := ordered.in_order
    have arrived := ordered.arrived
    rw [line, List.map_cons] at order arrived
    refine ⟨by simpa using order, by simpa using arrived,
      fun e member => List.mem_append_left _ (ordered.held_granted e member), ?_⟩
    intro e member
    rcases List.mem_append.1 member with earlier | now
    · exact List.mem_append_left _ (ordered.handed_granted e earlier)
    · rw [List.mem_singleton.1 now]
      exact List.mem_append_right _ (List.mem_singleton.2 rfl)

theorem vacate_ordered {c : Callers} (ordered : c.Ordered) (p : Place) : (c.vacate p).Ordered := by
  have shorter : (c.granted ++ (c.vacate p).waiting.map (·.1)).Sublist
      (c.granted ++ c.waiting.map (·.1)) :=
    (List.filter_sublist.map _).append_left _
  exact ⟨ordered.in_order.sublist shorter, fun n member => ordered.arrived n (shorter.subset member),
    ordered.held_granted, fun e member => ordered.handed_granted e (List.mem_of_mem_filter member)⟩

end ChatCommands.SlotTraffic
