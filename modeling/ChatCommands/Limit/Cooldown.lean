import ChatCommands.Decimal.Fixed
import ChatCommands.Failure.Command
import ChatCommands.Limit.Bucket
import ChatCommands.Limit.Table

/-!
Cooldowns: at most so many invocations in a span of time for each bucket. Every
rule keeps one window for each bucket. Nothing runs in the background: a window
that is over starts anew with the next attempt. Every rule of a command counts
every attempt, and a denial tells of the rule with the longest wait.
-/

namespace ChatCommands

/-- A reading of the clock in nanoseconds. -/
abbrev Instant := Int

/-- The time from one reading to a later one, none if the other is not later. -/
def Instant.since (now earlier : Instant) : Decimal.Duration := (now - earlier).toNat

/-- A rule of at most `rate` invocations in a span `per` for each bucket. -/
structure Cooldown where
  /-- How many attempts a window allows. -/
  rate : Nat
  /-- The length of a window. -/
  per : Decimal.Duration
  /-- How invocations are partitioned. -/
  bucket : Bucket

namespace Cooldown

/-- The rule, where a rate of zero counts as one. -/
def ofRate (rate : Nat) (per : Decimal.Duration) (bucket : Bucket) : Cooldown :=
  ⟨max rate 1, per, bucket⟩

/-- The rule as failures tell it. -/
def terms (rule : Cooldown) : CooldownTerms := ⟨rule.rate, rule.per, rule.bucket.name⟩

end Cooldown

/-- The span of time in which attempts are counted together. -/
structure Window where
  /-- When the window began. -/
  started : Instant
  /-- The attempts counted in it. -/
  count : Nat
  /-- When the last attempt was made. -/
  lastUsed : Instant
  /-- The length of the window. -/
  per : Decimal.Duration

namespace Window

/-- A window without attempts. -/
def fresh (now : Instant) (per : Decimal.Duration) : Window := ⟨now, 0, now, per⟩

/-- The greatest count a window can hold. -/
def maxCount : Nat := 4294967295

/-- The window as of `now`: begun anew if it is over. -/
def renew (w : Window) (now : Instant) : Window :=
  if Instant.since now w.started ≥ w.per then { w with started := now, count := 0 } else w

/-- Counts one attempt, and tells the wait if there were too many. The count stops one above the
rate, so that no number of denials exceeds what a window can hold. -/
def attempt (w : Window) (rate : Nat) (now : Instant) : Window × Option Decimal.Duration :=
  let w := w.renew now
  let count := min (min (w.count + 1) maxCount) (min (rate + 1) maxCount)
  let counted := { w with count := count, lastUsed := now }
  (counted, if count > rate then some (w.per - Instant.since now w.started) else none)

/-- Whether the window is over and was not used for a time. -/
def isIdle (w : Window) (now : Instant) (retention : Decimal.Duration) : Bool :=
  Instant.since now w.started ≥ w.per && Instant.since now w.lastUsed ≥ retention

end Window

/-- What a window belongs to. -/
structure WindowKey where
  /-- The qualified name of the command. -/
  command : String
  /-- The position of the rule among the command's. -/
  rule : Nat
  /-- The bucket. -/
  bucket : BucketKey
  deriving DecidableEq

/-- A rule that denies an attempt. -/
structure Denial where
  /-- The rule. -/
  rule : Cooldown
  /-- How long until it allows again. -/
  wait : Decimal.Duration

/-- The windows of all commands. -/
structure Cooldowns where
  /-- Windows by what they belong to. -/
  windows : Table WindowKey Window := []

namespace Cooldowns

/-- Counts one attempt against one window. -/
def attempt (cd : Cooldowns) (key : WindowKey) (rule : Cooldown) (now : Instant) :
    Cooldowns × Option Decimal.Duration :=
  let window := (cd.windows.get? key).getD (.fresh now rule.per)
  let (counted, wait) := window.attempt rule.rate now
  (⟨cd.windows.set key counted⟩, wait)

/-- Counts one attempt against each rule, the first of them at `position`; the denials come in the
order of the rules. -/
def attemptAll (command : String) (ctx : Context) (now : Instant) :
    Cooldowns → Nat → List Cooldown → Cooldowns × List Denial
  | cd, _, [] => (cd, [])
  | cd, position, rule :: rest =>
    let (next, wait) := cd.attempt ⟨command, position, rule.bucket.key ctx⟩ rule now
    let (last, denials) := attemptAll command ctx now next (position + 1) rest
    match wait with
    | some wait => (last, ⟨rule, wait⟩ :: denials)
    | none => (last, denials)

/-- The first denial with the longest wait. -/
def longest? : List Denial → Option Denial
  | [] => none
  | d :: rest =>
    match longest? rest with
    | some e => if e.wait > d.wait then some e else some d
    | none => some d

/-- Counts an invocation against all rules of a command. -/
def acquire (cd : Cooldowns) (command : String) (rules : List Cooldown) (ctx : Context)
    (now : Instant) : Cooldowns × List Denial :=
  attemptAll command ctx now cd 0 rules

/-- Forgets the windows, from the rule at `position` on, that an invocation falls into. -/
def resetFrom (command : String) (ctx : Context) : Cooldowns → Nat → List Cooldown → Cooldowns
  | cd, _, [] => cd
  | cd, position, rule :: rest =>
    resetFrom command ctx ⟨cd.windows.erase ⟨command, position, rule.bucket.key ctx⟩⟩
      (position + 1) rest

/-- Forgets the windows that an invocation falls into. -/
def reset (cd : Cooldowns) (command : String) (rules : List Cooldown) (ctx : Context) : Cooldowns :=
  resetFrom command ctx cd 0 rules

/-- Forgets every window of a command. -/
def clearCommand (cd : Cooldowns) (command : String) : Cooldowns :=
  ⟨cd.windows.filter fun e => e.1.command != command⟩

/-- Drops idle windows, and tells how many. -/
def cleanup (cd : Cooldowns) (retention : Decimal.Duration) (now : Instant) : Cooldowns × Nat :=
  let kept := cd.windows.filter fun e => !e.2.isIdle now retention
  (⟨kept⟩, cd.windows.length - kept.length)

/-- How many windows there are. -/
def size (cd : Cooldowns) : Nat := cd.windows.length

end Cooldowns

end ChatCommands
