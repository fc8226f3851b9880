import ChatCommands.Limit.Slots

/-!
Callers at a set of slots. A caller makes a request for a slot; the request is
granted, turned away, or waits in line, and a granted slot is held for the
caller. A caller may leave or withdraw at any time, and may ask again: each
request goes its own way, and a slot that is granted takes the place of the one
held before, which is given back.

Requests act in turns, in the order in which they became able to. Every hand-over
makes one waiting request able to act once, so `settle` comes to rest after as
many turns as there are requests that are ready or unfinished.
-/

namespace ChatCommands

/-- What was last heard of a caller. -/
inductive CallerStatus where
  /-- It asked for a slot. -/
  | waiting
  /-- It was given a slot. -/
  | admitted
  /-- It was turned away. -/
  | turnedAway
  /-- It left. -/
  | left
  /-- It withdrew. -/
  | withdrawn
  deriving DecidableEq

/-- The word for a status. -/
def CallerStatus.name : CallerStatus → String
  | .waiting => "waiting"
  | .admitted => "admitted"
  | .turnedAway => "saturated"
  | .left => "left"
  | .withdrawn => "aborted"

/-- How far a request for a slot came. -/
inductive RequestStage where
  /-- It has not had its first turn. -/
  | arriving (key : SlotKey) (rule : Concurrency)
  /-- It waits in line. -/
  | inLine (place : Place)

/-- An unfinished request for a slot. -/
structure Request where
  /-- Who asks. -/
  caller : String
  /-- How far it came. -/
  stage : RequestStage
  /-- Whether it is given up on its next turn. -/
  isWithdrawn : Bool := false

/-- Callers at a set of slots. -/
structure Lobby where
  /-- The slots. -/
  slots : Slots := {}
  /-- What was last heard of each caller. -/
  statuses : Table String CallerStatus := []
  /-- The unfinished requests by number. -/
  requests : Table Nat Request := []
  /-- The number of the next request. -/
  nextRequest : Nat := 0
  /-- The latest request of each caller. -/
  latest : Table String Nat := []
  /-- The slot that is held for a caller. -/
  held : Table String Admission := []
  /-- Requests that can act, first to act first. -/
  ready : List Nat := []
  /-- Callers that were given a slot, in that order. -/
  admitted : List String := []

namespace Lobby

/-- The request at a place in line. -/
def requestAt (l : Lobby) (ticket : Nat) : Option Nat :=
  (l.requests.find? fun e =>
    match e.2.stage with
    | .inLine place => place.ticket == ticket
    | .arriving _ _ => false).map (·.1)

/-- Makes a request able to act, unless it is already. -/
def wake (l : Lobby) (id : Nat) : Lobby :=
  if l.ready.contains id then l else { l with ready := l.ready ++ [id] }

/-- Slots after a change that handed a slot to a place. -/
def handOver (l : Lobby) (change : Slots × Option Nat) : Lobby :=
  let l := { l with slots := change.1 }
  match change.2.bind l.requestAt with
  | some id => l.wake id
  | none => l

/-- Notes what was heard of a caller. -/
def hear (l : Lobby) (caller : String) (status : CallerStatus) : Lobby :=
  { l with statuses := l.statuses.set caller status }

/-- Gives a slot back. -/
def giveBack (l : Lobby) (admission : Admission) : Lobby := l.handOver (l.slots.release admission)

/-- Gives the slot of a caller back, if one is held for it. -/
def clear (l : Lobby) (caller : String) : Lobby :=
  match l.held.get? caller with
  | some admission => { l with held := l.held.erase caller }.giveBack admission
  | none => l

/-- A caller asks for a slot. -/
def arrive (l : Lobby) (caller : String) (key : SlotKey) (rule : Concurrency) : Lobby :=
  { l with
    requests := l.requests.set l.nextRequest ⟨caller, .arriving key rule, false⟩
    nextRequest := l.nextRequest + 1
    latest := l.latest.set caller l.nextRequest
    ready := l.ready ++ [l.nextRequest] }.hear caller .waiting

/-- A caller leaves: its slot is given back. A request that is unfinished stays. -/
def leave (l : Lobby) (caller : String) : Lobby := (l.clear caller).hear caller .left

/-- The latest request of a caller, if it is unfinished. -/
def openRequest? (l : Lobby) (caller : String) : Option (Nat × Request) :=
  (l.latest.get? caller).bind fun id => (l.requests.get? id).map ((id, ·))

/-- A caller withdraws: its latest request is given up on its next turn, and its slot is given back
at once. -/
def withdraw (l : Lobby) (caller : String) : Lobby :=
  let l := match l.openRequest? caller with
    | some (id, request) =>
      { l with requests := l.requests.set id { request with isWithdrawn := true } }.wake id
    | none => l
  (l.clear caller).hear caller .withdrawn

/-- Ends a request. -/
def finish (l : Lobby) (id : Nat) : Lobby := { l with requests := l.requests.erase id }

/-- Grants a request: the slot is held for its caller, and one held before is given back. -/
def grant (l : Lobby) (id : Nat) (caller : String) (admission : Admission) : Lobby :=
  let l := ((l.finish id).clear caller).hear caller .admitted
  { l with held := l.held.set caller admission, admitted := l.admitted ++ [caller] }

/-- A request acts. -/
def act (l : Lobby) (id : Nat) : Lobby :=
  match l.requests.get? id with
  | none => l
  | some ⟨_, .arriving _ _, true⟩ => l.finish id
  | some ⟨_, .inLine place, true⟩ =>
    let l := l.finish id
    l.handOver (l.slots.abandon place)
  | some ⟨caller, .arriving key rule, false⟩ =>
    match l.slots.enter key rule with
    | (.admitted admission, slots) => { l with slots := slots }.grant id caller admission
    | (.saturated _, slots) => ({ l with slots := slots }.finish id).hear caller .turnedAway
    | (.queued place, slots) =>
      { l with slots := slots, requests := l.requests.set id ⟨caller, .inLine place, false⟩ }
  | some ⟨caller, .inLine place, false⟩ =>
    match l.slots.receive place with
    | some (admission, slots) => { l with slots := slots }.grant id caller admission
    | none => l

/-- Lets requests take `turns` turns at most. -/
def run : Nat → Lobby → Lobby
  | 0, l => l
  | turns + 1, l =>
    match l.ready with
    | [] => l
    | id :: rest => run turns ({ l with ready := rest }.act id)

/-- Lets requests act until none can. -/
def settle (l : Lobby) : Lobby := l.run (l.ready.length + l.requests.length)

/-- Drops idle buckets, and tells how many. -/
def cleanup (l : Lobby) : Lobby × Nat :=
  let (slots, evicted) := l.slots.cleanup
  ({ l with slots := slots }, evicted)

end Lobby

end ChatCommands
