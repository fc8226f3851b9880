import ChatCommands.Dispatch.Service

/-!
Running scripts. A script runs against the service until it ends, has to wait or
gives way; what it waits for is kept with what it does afterwards, so it can be
taken up again (`Pause.resume`) or dropped (`Pause.drop`).
-/

namespace ChatCommands

/-- For whom a script runs. -/
structure Runner where
  /-- The invocation. -/
  ctx : Context
  /-- The identity of its command, once it is resolved. -/
  id : Option CommandId
  /-- What the journal is told it is written for. -/
  span : Option Span

/-- What a reply waits for. -/
inductive ReplyWait where
  /-- The tray. -/
  | tray (ticket : Nat)
  /-- Room in a mailbox, until the reply is given up. -/
  | room (due : Instant)
  /-- Another turn. -/
  | turn

/-- What a script waits for, and what it does afterwards. -/
inductive Pause (σ : Type) where
  /-- A time. -/
  | sleeping (due : Instant) (next : Script σ)
  /-- A reply. -/
  | replying (wait : ReplyWait) (reply : Reply) (next : Except ReplyError Unit → Script σ)
  /-- A permit. -/
  | atGate (ticket : Nat) (next : Script σ)

/-- Where a script stands. -/
inductive Progress (σ : Type) where
  /-- It ended. -/
  | ended (outcome : Outcome)
  /-- It waits. -/
  | paused (pause : Pause σ)

/-- The note about a reply that was given up. -/
def lostReplyNote : Note :=
  ⟨.warn, .responder,
    "reply dropped: transport not reading (timeout after " ++
      Decimal.Duration.exact Post.patience ++ ")", []⟩

/-- The longest sleep: thirty years of 365 days. A script that asks for more sleeps as long. -/
def longestSleep : Decimal.Duration := 946080000 * Decimal.Duration.second

/-- When a sleep that begins at a time ends. -/
def sleepEnd (now : Instant) (span : Decimal.Duration) : Instant := now + min span longestSleep

namespace Service

variable {σ : Type}

/-- Hands a reply over: the result, or what it waits for. -/
def submit (s : Service σ) (responder : Responder) (reply : Reply) :
    (ReplyWait ⊕ Except ReplyError Unit) × Service σ :=
  match responder with
  | .discard => (.inr (.ok ()), s)
  | .capture =>
    match s.tray.enter s.turn with
    | (none, turn, tray) => (.inr (.ok ()), { s with turn := turn, tray := tray }.file reply)
    | (some ticket, turn, tray) => (.inl (.tray ticket), { s with turn := turn, tray := tray })
  | .mailbox _ =>
    if s.turn.isSpent then (.inl .turn, s.giveWay)
    else
      match s.post.deliver responder reply with
      | (.delivered, post) => (.inr (.ok ()), { s.spend with post := post })
      | (.closed, post) => (.inr (.error .closed), { s.spend with post := post })
      | (.full, _) => (.inl (.room (s.now + Post.patience)), s)

end Service

namespace Script

variable {σ : Type}

/-- Runs a script until it ends, has to wait or gives way. -/
def run (runner : Runner) : Script σ → Service σ → Progress σ × Service σ
  | .stop outcome, s => (.ended outcome, s)
  | .update change next, s => run runner next { s with app := change s.app }
  | .read next, s => run runner (next s.app) s
  | .usage next, s =>
    run runner (next ⟨(runner.id.map s.registry.usesOf).getD 0, s.registry.stats⟩) s
  | .note n next, s => run runner next (s.note runner.span n)
  | .reply content next, s =>
    let reply : Reply := ⟨runner.ctx.origin.channel.id, content⟩
    match s.submit runner.ctx.responder reply with
    | (.inr result, s) => run runner (next result) s
    | (.inl wait, s) => (.paused (.replying wait reply next), s)
  | .sleep span next, s =>
    if s.turn.isSpent then (.paused (.sleeping (sleepEnd s.now span) next), s.giveWay)
    else if span == 0 then run runner next s.spend
    else (.paused (.sleeping (sleepEnd s.now span) next), s)
  | .permit next, s =>
    match s.gate.enter s.turn with
    | (none, turn, gate) => run runner next { s with turn := turn, gate := gate }
    | (some ticket, turn, gate) =>
      (.paused (.atGate ticket next), { s with turn := turn, gate := gate })

end Script

namespace Pause

variable {σ : Type}

/-- When the wait ends by itself. -/
def due? : Pause σ → Option Instant
  | .sleeping due _ | .replying (.room due) _ _ => some due
  | _ => none

/-- Whether a permit for a ticket ends the wait. -/
def awaitsPermit (ticket : Nat) : Pause σ → Bool
  | .atGate t _ => t == ticket
  | _ => false

/-- Whether the tray for a ticket ends the wait. -/
def awaitsTray (ticket : Nat) : Pause σ → Bool
  | .replying (.tray t) _ _ => t == ticket
  | _ => false

/-- Goes on with a script after a reply, or waits for the reply. -/
def answered (runner : Runner) (reply : Reply) (next : Except ReplyError Unit → Script σ) :
    (ReplyWait ⊕ Except ReplyError Unit) × Service σ → Progress σ × Service σ
  | (.inr result, s) => (next result).run runner s
  | (.inl wait, s) => (.paused (.replying wait reply next), s)

/-- Takes up a script whose wait is over; the service is unchanged if it is not. -/
def resume (runner : Runner) (p : Pause σ) (s : Service σ) : Progress σ × Service σ :=
  match p with
  | .sleeping due next => if due ≤ s.now then next.run runner s.spend else (.paused p, s)
  | .replying (.tray ticket) reply next =>
    match s.tray.receive ticket with
    | some tray => (next (.ok ())).run runner ({ s.spend with tray := tray }.file reply)
    | none => (.paused p, s)
  | .replying (.room due) _ next =>
    if due ≤ s.now then
      (next (.error (.timeout Post.patience))).run runner (s.spend.note runner.span lostReplyNote)
    else (.paused p, s)
  | .replying .turn reply next => answered runner reply next (s.submit runner.ctx.responder reply)
  | .atGate ticket next =>
    match s.gate.receive ticket with
    | some gate => next.run runner { s.spend with gate := gate }
    | none => (.paused p, s)

/-- Gives up the wait. -/
def drop (p : Pause σ) (s : Service σ) : Service σ :=
  match p with
  | .atGate ticket _ => s.passGate (s.gate.abandon ticket)
  | .replying (.tray ticket) _ _ => s.passTray (s.tray.abandon ticket)
  | _ => s

end Pause

end ChatCommands
