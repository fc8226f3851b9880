import ChatCommands.Limit.Bucket
import ChatCommands.Limit.Table

/-!
Slots: at most so many invocations at the same time for each bucket. Where a
rule says so, an invocation that finds no free slot waits in line. A slot that
is given back goes straight to the first in line who still waits, without being
free in between; only a slot nobody waits for becomes free. A bucket is kept as
long as slots are taken.
-/

namespace ChatCommands

/-- A rule of at most `number` invocations at the same time for each bucket. -/
structure Concurrency where
  /-- How many may run. -/
  number : Nat
  /-- How invocations are partitioned. -/
  per : Bucket
  /-- Whether others wait in line. -/
  wait : Bool

/-- The rule, where a number of zero counts as one. -/
def Concurrency.ofNumber (number : Nat) (per : Bucket) (wait : Bool) : Concurrency :=
  ⟨max number 1, per, wait⟩

/-- What a set of slots belongs to: a command and a bucket. -/
structure SlotKey where
  /-- The qualified name of the command. -/
  command : String
  /-- The bucket. -/
  bucket : BucketKey
  deriving DecidableEq

/-- A place in line. -/
structure Waiter where
  /-- Tells the place from all others. -/
  ticket : Nat
  /-- Whether somebody still stands there. -/
  live : Bool

/-- The slots of one bucket. -/
structure SlotBucket where
  /-- Tells the bucket from earlier ones with the same key. -/
  serial : Nat
  /-- How many slots there are. -/
  max : Nat
  /-- How many are taken or on their way to somebody. -/
  inFlight : Nat := 0
  /-- The line, first in line first. -/
  waiters : List Waiter := []
  /-- Places whose slot is on its way. -/
  handed : List Nat := []

/-- A slot that is held. -/
structure Admission where
  /-- What the slot belongs to. -/
  key : SlotKey
  /-- The bucket it came from. -/
  serial : Nat
  deriving DecidableEq

/-- A place in the line of one bucket. -/
structure Place where
  /-- What the slots belong to. -/
  key : SlotKey
  /-- The bucket. -/
  serial : Nat
  /-- The place. -/
  ticket : Nat
  deriving DecidableEq

namespace SlotBucket

/-- The first in line who still waits, and the line after. -/
def nextInLine : List Waiter → Option (Nat × List Waiter)
  | [] => none
  | w :: rest => if w.live then some (w.ticket, rest) else nextInLine rest

/-- Gives a slot back, and tells the place it is handed to. -/
def release (b : SlotBucket) : SlotBucket × Option Nat :=
  match nextInLine b.waiters with
  | some (ticket, rest) =>
    ({ b with waiters := rest, handed := b.handed ++ [ticket] }, some ticket)
  | none => ({ b with waiters := [], inFlight := b.inFlight - 1 }, none)

/-- Leaves a place in line. -/
def leaveLine (b : SlotBucket) (ticket : Nat) : SlotBucket :=
  { b with
    waiters := b.waiters.map fun w => if w.ticket == ticket then { w with live := false } else w }

/-- Whether nobody holds or awaits a slot. -/
def isIdle (b : SlotBucket) : Bool := b.inFlight == 0 && b.waiters.isEmpty

end SlotBucket

/-- The slots of all commands. -/
structure Slots where
  /-- Buckets by what they belong to. -/
  buckets : Table SlotKey SlotBucket := []
  /-- The number of the next bucket. -/
  nextSerial : Nat := 0
  /-- The number of the next place in line. -/
  nextTicket : Nat := 0

/-- What asking for a slot leads to. -/
inductive Entry where
  /-- A slot was free. -/
  | admitted (admission : Admission)
  /-- No slot of `max` was free, and nobody waits. -/
  | saturated (max : Nat)
  /-- No slot was free; the place in line. -/
  | queued (place : Place)

namespace Slots

/-- What the slots of a command's rule belong to for an invocation. -/
def keyFor (command : String) (rule : Concurrency) (ctx : Context) : SlotKey :=
  ⟨command, rule.per.key ctx⟩

/-- The bucket of a key, new if there is none. -/
def bucketFor (s : Slots) (key : SlotKey) (rule : Concurrency) : SlotBucket × Slots :=
  match s.buckets.get? key with
  | some b => (b, s)
  | none =>
    let b : SlotBucket := { serial := s.nextSerial, max := rule.number }
    (b, { s with buckets := s.buckets.set key b, nextSerial := s.nextSerial + 1 })

/-- Asks for a slot. -/
def enter (s : Slots) (key : SlotKey) (rule : Concurrency) : Entry × Slots :=
  let (b, s) := s.bucketFor key rule
  if b.inFlight < b.max then
    (.admitted ⟨key, b.serial⟩,
      { s with buckets := s.buckets.set key { b with inFlight := b.inFlight + 1 } })
  else if !rule.wait then (.saturated b.max, s)
  else
    let line := b.waiters ++ [⟨s.nextTicket, true⟩]
    (.queued ⟨key, b.serial, s.nextTicket⟩,
      { s with
        buckets := s.buckets.set key { b with waiters := line }
        nextTicket := s.nextTicket + 1 })

/-- The bucket with a key and a serial number, if it is still kept. -/
def bucket? (s : Slots) (key : SlotKey) (serial : Nat) : Option SlotBucket :=
  (s.buckets.get? key).filter (·.serial == serial)

/-- Gives a slot back, and tells the place it is handed to. -/
def release (s : Slots) (a : Admission) : Slots × Option Nat :=
  match s.bucket? a.key a.serial with
  | none => (s, none)
  | some b =>
    let (b, handed) := b.release
    ({ s with buckets := s.buckets.set a.key b }, handed)

/-- Takes the slot that was handed to a place. -/
def receive (s : Slots) (p : Place) : Option (Admission × Slots) :=
  match s.bucket? p.key p.serial with
  | none => none
  | some b =>
    if b.handed.contains p.ticket then
      some (⟨p.key, p.serial⟩,
        { s with buckets := s.buckets.set p.key { b with handed := b.handed.erase p.ticket } })
    else none

/-- Gives up a place in line. A slot already on its way to it goes on to the next in line. -/
def abandon (s : Slots) (p : Place) : Slots × Option Nat :=
  match s.receive p with
  | some (admission, s) => s.release admission
  | none =>
    match s.bucket? p.key p.serial with
    | none => (s, none)
    | some b => ({ s with buckets := s.buckets.set p.key (b.leaveLine p.ticket) }, none)

/-- How many slots are taken in the bucket of a key. -/
def inFlight (s : Slots) (key : SlotKey) : Nat := ((s.buckets.get? key).map (·.inFlight)).getD 0

/-- Drops idle buckets, and tells how many. -/
def cleanup (s : Slots) : Slots × Nat :=
  let kept := s.buckets.filter fun e => !e.2.isIdle
  ({ s with buckets := kept }, s.buckets.length - kept.length)

/-- How many buckets there are. -/
def size (s : Slots) : Nat := s.buckets.length

end Slots

end ChatCommands
