import ChatCommands.Dispatch.Agent

/-! Replies that are collected. A script that does nothing but reply, note things and use the
application's state never waits for anybody: the tray is free whenever it comes there. Still it may
have to give way, since a turn allows only so many replies, and then it goes on in a turn of its own.
That makes no difference to what it does: after a few turns it has come to what it comes to without
any (`play`), and so has whatever goes on from there (`settles_of_run`). -/
namespace ChatCommands.CollectedReplies
open Dispatcher

variable {σ : Type} {d : Dispatcher σ} {s t : Service σ} {ends : Service σ → Prop} {n m : Nat}
  {work : Option (Work σ) × Service σ}

/-- A script replies at most so many times, and waits for nothing else. -/
inductive Replies : Nat → Script σ → Prop where
  | stop {n : Nat} {outcome : Outcome} : Replies n (.stop outcome)
  | update {n : Nat} {change : σ → σ} {next : Script σ} (on : Replies n next) :
      Replies n (.update change next)
  | read {n : Nat} {next : σ → Script σ} (on : ∀ state, Replies n (next state)) :
      Replies n (.read next)
  | usage {n : Nat} {next : Usage → Script σ} (on : ∀ usage, Replies n (next usage)) :
      Replies n (.usage next)
  | note {n : Nat} {note : Note} {next : Script σ} (on : Replies n next) :
      Replies n (.note note next)
  | reply {n : Nat} {content : String} {next : Except ReplyError Unit → Script σ}
      (on : ∀ result, Replies n (next result)) : Replies (n + 1) (.reply content next)

/-- What a script comes to where every reply is taken at once: how it ends, the state it leaves, and
its replies. -/
def play (usage : Usage) : Script σ → σ → Outcome × σ × List String
  | .stop outcome, state => (outcome, state, [])
  | .update change next, state => play usage next (change state)
  | .read next, state => play usage (next state) state
  | .usage next, state => play usage (next usage) state
  | .note _ next, state => play usage next state
  | .reply content next, state =>
    let (outcome, state, said) := play usage (next (.ok ())) state
    (outcome, state, content :: said)
  | .sleep _ next, state => play usage next state
  | .permit next, state => play usage next state

/-- What a script is told about the use of commands. -/
def usageFor (runner : Runner) (s : Service σ) : Usage :=
  ⟨(runner.id.map s.registry.usesOf).getD 0, s.registry.stats⟩

/-- Nobody is at the tray. -/
structure Free (tray : Gate) : Prop where
  permits : tray.permits = 1
  line : tray.line = []
  handed : tray.handed = []

/-- A task has its turn, and nobody else has anything to do with the service. -/
structure Ready (s : Service σ) : Prop where
  free : Free s.tray
  stays : s.turn.givesWay = false
  silent : s.signals = []

/-- One service became another by a script that left a state and replied. -/
structure Played (s : Service σ) (state : σ) (said : List String) (t : Service σ) : Prop where
  state : t.app = state
  said : t.post.captured.map (·.content) = s.post.captured.map (·.content) ++ said
  fetched : t.post.fetched = s.post.fetched
  registry : t.registry = s.registry
  modules : t.modules = s.modules
  slots : t.slots = s.slots

/-- After so many further turns at most, in a row, work is done, and the service is as wanted. -/
inductive Settles (d : Dispatcher σ) (ends : Service σ → Prop) :
    Nat → Option (Work σ) × Service σ → Prop where
  | done {n : Nat} {s : Service σ} (ready : Ready s) (holds : ends s) : Settles d ends n (none, s)
  | givesWay {n : Nat} {w : Work σ} {s : Service σ} (way : s.turn.givesWay = true)
      (silent : s.signals = []) (later : Settles d ends n (w.goOn d true { s with turn := {} })) :
      Settles d ends (n + 1) (some w, s)

/-- Work that goes on with the outcome of a script, and keeps its pauses in between. -/
structure Carries (d : Dispatcher σ) (runner : Runner)
    (onward : Progress σ × Service σ → Option (Work σ) × Service σ) (keep : Pause σ → Work σ) :
    Prop where
  paused : ∀ pause s, onward (.paused pause, s) = (some (keep pause), s)
  resumed : ∀ pause s, (keep pause).goOn d true s = onward (pause.resume runner s)

theorem Settles.more (settles : Settles d ends m work) (n : Nat) :
    Settles d ends (n + m) work := by
  induction settles with
  | done ready holds => exact .done ready holds
  | givesWay way silent _ ih => exact .givesWay way silent ih

theorem Settles.imp {wanted : Service σ → Prop} (settles : Settles d ends m work)
    (implies : ∀ s, ends s → wanted s) : Settles d wanted m work := by
  induction settles with
  | done ready holds => exact .done ready (implies _ holds)
  | givesWay way silent _ ih => exact .givesWay way silent ih

/-! ## One reply -/

/-- The service with a reply in the tray, in a turn. -/
def filed (s : Service σ) (reply : Reply) (turn : Turn) (ticket : Nat) : Service σ :=
  { s with
    turn := turn
    tray := { permits := 1, line := [], handed := [], nextTicket := ticket }
    post := s.post.capture reply
    signals := [] }

theorem ready_filed (reply : Reply) {turn : Turn} (stays : turn.givesWay = false) (ticket : Nat) :
    Ready (filed s reply turn ticket) :=
  ⟨⟨rfl, rfl, rfl⟩, stays, rfl⟩

theorem played_filed {reply : Reply} {turn : Turn} {ticket : Nat} {state : σ} {said : List String}
    (played : Played (filed s reply turn ticket) state said t) :
    Played s state (reply.content :: said) t where
  state := played.state
  said := by simpa [filed, Post.capture] using played.said
  fetched := played.fetched
  registry := played.registry
  modules := played.modules
  slots := played.slots

/-- A reply is taken at once, or in the next turn if this one allows nothing more. -/
theorem submit_cases (ready : Ready s) (reply : Reply) :
    (∃ ticket, s.submit .capture reply =
        (.inr (.ok ()), filed s reply s.turn.spend ticket)) ∨
      ∃ ticket waiting, s.submit .capture reply = (.inl (.tray ticket), waiting) ∧
        waiting.turn.givesWay = true ∧ waiting.signals = [] ∧
        ∀ (runner : Runner) next,
          (Pause.replying (.tray ticket) reply next).resume runner { waiting with turn := {} } =
            (next (.ok ())).run runner (filed s reply ({} : Turn).spend (ticket + 1)) := by
  obtain ⟨⟨permits, line, handed⟩, stays, silent⟩ := ready
  obtain ⟨app, registry, modules, cooldowns, slots, metrics, journal, post,
    ⟨free, inLine, onWay, nextTicket⟩, gate, now, turn, signals, invocations⟩ := s
  cases permits
  cases line
  cases handed
  cases silent
  cases spent : turn.isSpent with
  | false =>
    refine .inl ⟨nextTicket, ?_⟩
    simp [Service.submit, Gate.enter, spent, Service.file, Service.passTray, Gate.add, filed]
  | true =>
    refine .inr ⟨nextTicket, _, by simp only [Service.submit, Gate.enter, spent, if_true]; rfl, rfl,
      rfl, fun runner next => ?_⟩
    simp [Pause.resume, Gate.receive, Service.spend, Service.file, Service.passTray, Gate.add, filed]

/-! ## Scripts -/

/-- Whatever goes on from a script settles if it settles from what the script comes to. -/
theorem settles_of_run {runner : Runner} {script : Script σ}
    {onward : Progress σ × Service σ → Option (Work σ) × Service σ} {keep : Pause σ → Work σ}
    (carries : Carries d runner onward keep) (captures : runner.ctx.responder = .capture)
    (replies : Replies n script) (ready : Ready s)
    (next : ∀ t, Ready t →
      Played s (play (usageFor runner s) script s.app).2.1
        (play (usageFor runner s) script s.app).2.2 t →
      Settles d ends m (onward (.ended (play (usageFor runner s) script s.app).1, t))) :
    Settles d ends (n + m) (onward (script.run runner s)) := by
  induction replies generalizing s with
  | stop =>
    exact (next s ready ⟨rfl, (List.append_nil _).symm, rfl, rfl, rfl, rfl⟩).more _
  | update _ ih =>
    refine ih ⟨ready.free, ready.stays, ready.silent⟩ fun t later played => next t later ?_
    exact ⟨played.state, played.said, played.fetched, played.registry, played.modules,
      played.slots⟩
  | read _ ih => exact ih s.app ready next
  | usage _ ih => exact ih (usageFor runner s) ready next
  | note _ ih =>
    refine ih ⟨ready.free, ready.stays, ready.silent⟩ fun t later played => next t later ?_
    exact ⟨played.state, played.said, played.fetched, played.registry, played.modules,
      played.slots⟩
  | @reply n content script on ih =>
    have onwards (turn : Turn) (stays : turn.givesWay = false) (ticket : Nat) :
        Settles d ends (n + m) (onward ((script (.ok ())).run runner
          (filed s ⟨runner.ctx.origin.channel.id, content⟩ turn ticket))) :=
      ih _ (ready_filed _ stays ticket) fun t later played => next t later (played_filed played)
    rw [Script.run, captures]
    rcases submit_cases ready ⟨runner.ctx.origin.channel.id, content⟩ with
      ⟨ticket, taken⟩ | ⟨ticket, waiting, kept, way, silent, resumed⟩
    · rw [taken, Nat.add_right_comm]
      have settles := (onwards s.turn.spend ready.stays ticket).more 1
      rwa [Nat.add_comm 1] at settles
    · rw [kept, Nat.add_right_comm]
      refine (carries.paused _ _).symm ▸ .givesWay way silent ?_
      rw [carries.resumed, resumed]
      exact onwards _ rfl _

end ChatCommands.CollectedReplies
