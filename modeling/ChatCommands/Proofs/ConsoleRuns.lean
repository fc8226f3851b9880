import ChatCommands.Proofs.ConsoleEvents

/-! Runs of the console: lines that come one after another, with some time before each. Between two
lines the console is at rest and has nothing left to say, whatever came before (`Attends`), so the
replies to a line are what the line comes to by itself (`attends_respond`). -/
namespace ChatCommands.ConsoleRuns
open Console ConsoleCommands ConsoleEvents CollectedReplies AgentTurns Agent

variable {ci : Bool} {settings : Settings} {a : Agent Tags} {s : Service Tags} {tags : Tags}
  {said : List String}

/-- The console waits for a line, with some tags and with nothing left to say. -/
structure Attends (settings : Settings) (tags : Tags) (a : Agent Tags) : Prop where
  rest : AtRest (dispatcherOf settings) a
  stands : Stands settings.dispatch.caseInsensitive none tags [] a.service

/-- The console after lines, each of which came some time after what was before it. -/
def after (a : Agent Tags) (inputs : List (Decimal.Duration × String)) : Agent Tags :=
  inputs.foldl (fun a input => (respond (a.advance input.1) input.2).2) a

theorem after_concat (a : Agent Tags) (inputs : List (Decimal.Duration × String))
    (input : Decimal.Duration × String) :
    after a (inputs ++ [input]) = (respond ((after a inputs).advance input.1) input.2).2 :=
  List.foldl_concat _ _ _ _

/-! ## The start -/

theorem idle_cleanup {slots : Slots} (idle : Idle slots) : Idle slots.cleanup.1 :=
  fun e member => idle e (List.mem_filter.1 member).1

theorem lasting_stands : Lasting (Stands ci none tags said) where
  turn _ _ stands := { stands with }
  now _ _ stands := { stands with }
  maintain s retention stands := by
    obtain ⟨cooldowns, journal, same⟩ := maintain_eq s retention
    rw [same]
    exact { stands with slots := idle_cleanup stands.slots }

theorem stands_firstService (settings : Settings) (journal : Array JournalEntry) :
    Stands settings.dispatch.caseInsensitive none [] [] (firstService settings journal) where
  free := ⟨rfl, rfl, rfl⟩
  tags := rfl
  said := rfl
  fetched := rfl
  slots := nofun
  orderly := orderly_roots _
  roots := rfl
  untouched := nofun
  modules := rfl

/-- The console starts without tags, and waits for lines. -/
theorem attends_start {settings : Settings} (valid : settings.problems = []) :
    ∃ a, agent settings = .ok a ∧ Attends settings [] a := by
  obtain ⟨journal, started⟩ := agent_ok valid
  obtain ⟨rest, stands⟩ := spawn_upkeep lasting_stands (dispatcherOf settings) rfl
    (stands_firstService settings journal) "upkeep" []
  exact ⟨_, started, rest, stands⟩

/-! ## One line -/

/-- While time passes, the console goes on waiting. -/
theorem attends_advance (attends : Attends settings tags a) (span : Decimal.Duration) :
    Attends settings tags (a.advance span) := by
  obtain ⟨rest, stands⟩ := advance_atRest lasting_stands attends.rest attends.stands span
  exact ⟨rest, stands⟩

/-- The replies that there were are fetched. -/
def Fetched (ci : Bool) (tags : Tags) (said : List String) (s : Service Tags) : Prop :=
  s.post.fetched.map (·.content) = said ∧
    Stands ci none tags [] { s with post := { s.post with fetched := [] } }

theorem fetched_of_stands (stands : Stands ci none tags said s) (turn : Turn) (ticket : Nat) :
    Fetched ci tags said
      { s with
        turn := turn
        tray := { permits := 1, line := [], handed := [], nextTicket := ticket }
        post := s.post.fetch
        signals := [] } := by
  refine ⟨?_, { stands with free := ⟨rfl, rfl, rfl⟩, said := rfl, fetched := rfl }⟩
  simp only [Post.fetch, stands.fetched, List.nil_append, stands.said]

/-- The replies are fetched at once, or in the next turn if this one allows nothing more. -/
theorem settles_of_fetch (d : Dispatcher Tags) (ready : Ready s)
    (stands : Stands ci none tags said s) :
    Settles d (Fetched ci tags said) 1 (Work.fetch none s) := by
  have fetched := fetched_of_stands stands
  obtain ⟨⟨permits, line, handed⟩, stays, silent⟩ := ready
  obtain ⟨app, registry, modules, cooldowns, slots, metrics, journal, post,
    ⟨free, inLine, onWay, nextTicket⟩, gate, now, turn, signals, invocations⟩ := s
  cases permits
  cases line
  cases handed
  cases silent
  cases spent : turn.isSpent with
  | false =>
    simp only [Work.fetch, Gate.enter, spent, Bool.false_eq_true, if_false]
    exact .done ⟨⟨rfl, rfl, rfl⟩, stays, rfl⟩ (fetched turn.spend nextTicket)
  | true =>
    -- A spent turn has to line up at the tray, where nobody else is, and is let in by the next one.
    simp only [Work.fetch, Gate.enter, spent, if_true]
    refine .givesWay rfl rfl ?_
    simp only [Work.goOn, Work.fetch, Gate.receive, List.nil_append, List.contains_cons,
      beq_self_eq_true, Bool.true_or, if_true, List.erase_cons_head]
    exact .done ⟨⟨rfl, rfl, rfl⟩, rfl, rfl⟩ (fetched ({} : Turn).spend (nextTicket + 1))

/-- The replies to a line are what the line comes to, and the console goes on waiting, with the tags
that it comes to. -/
theorem attends_respond (attends : Attends settings tags a) (line : String) :
    (respond a line).1 = (comesTo (dispatcherOf settings) a.service line).2 ∧
      Attends settings (comesTo (dispatcherOf settings) a.service line).1 (respond a line).2 := by
  obtain ⟨rest, stands⟩ := attends
  -- First the line is all that is in front, and then fetching what was replied to it.
  let begun : Service Tags := { a.service with turn := a.frontTurn }
  have free : Ready begun := ⟨stands.free, rest.fresh, rest.silent⟩
  have waits : Stands settings.dispatch.caseInsensitive none tags [] begun := { stands with }
  have handles := settles_of_dispatch (d := dispatcherOf settings) rfl free waits line
  rw [← rest.dispatcher] at handles ⊢
  obtain ⟨s, ready, came, handled⟩ := inFront_of_settles (w := .event (event line)) rest handles
    (by decide)
  have ended := atRest_done rest ready
  have gathers := settles_of_fetch (done a s).dispatcher (s := { s with turn := s.turn }) ready came
  obtain ⟨t, still, ⟨fetched, stood⟩, collected⟩ := inFront_of_settles (w := .fetching none) ended
    gathers (by decide)
  have replied : respond a line = (t.post.fetched.map (·.content),
      { done (done a s) t with
        service := { t with post := { t.post with fetched := [] }, journal := #[] } }) := by
    unfold respond send fetchReplies
    rw [handled, collected]
    rfl
  rw [replied]
  refine ⟨fetched, ?_, { stood with }⟩
  exact { atRest_done ended still with silent := still.silent }

/-- Whatever lines there were, the console goes on waiting. -/
theorem attends_after (attends : Attends settings tags a)
    (inputs : List (Decimal.Duration × String)) :
    ∃ left, Attends settings left (after a inputs) := by
  induction inputs using List.reverseRecOn with
  | nil => exact ⟨tags, attends⟩
  | append_singleton inputs input ih =>
    obtain ⟨_, before⟩ := ih
    rw [after_concat]
    exact ⟨_, (attends_respond (attends_advance before input.1) input.2).2⟩

end ChatCommands.ConsoleRuns
