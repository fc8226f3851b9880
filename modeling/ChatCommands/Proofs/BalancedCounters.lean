import ChatCommands.Proofs.CountedRuns

/-! Counters that balance. A dispatcher counts in five places what becomes of its invocations. In
every world that a run comes to, what is counted and what is still to come of the invocations under
way weigh each other up (`kept_of_runs`), however these take turns. So the counters agree once all
invocations are over (`counters_balance`). -/
namespace ChatCommands.BalancedCounters
open InvocationCourse CountedSteps CountedRuns LegalCourses LegalMarks SlotDiaries Interleavings
open Lifetimes UnbegunEvents ScriptFrame Dispatcher

variable {σ : Type} {d : Dispatcher σ} {s t : Service σ} {w : World σ} {calls : Nat}
  {name : String} {front back strands : List (Strand σ)} {strand : Strand σ}
  {r : List Mark × Moment σ}

/-! ## Sums over invocations -/

/-- The sum over the invocations of the commands with a name. -/
def among (name : String) (amount : Strand σ → Nat) (strands : List (Strand σ)) : Nat :=
  ((strands.filter fun strand => strand.inv.name == name).map amount).sum

theorem among_middle (name : String) (amount : Strand σ → Nat) :
    among name amount (front ++ strand :: back) =
      among name amount (front ++ back) + if strand.inv.name = name then amount strand else 0 := by
  simp only [among, List.filter_append, List.filter_cons, List.map_append, List.sum_append,
    beq_iff_eq]
  split
  · simp only [List.map_cons, List.sum_cons]
    omega
  · rfl

def completions (strand : Strand σ) : Nat := (told strand).countP completes

/-- How often the arguments of an invocation broke their binding. -/
def breakages (strand : Strand σ) : Nat := (told strand).countP breaks

def pending (phases : Phase → Bool) (strand : Strand σ) : Nat :=
  (phases (phaseOf strand.point)).toNat

/-- Hooks and error handlers end without a panic. -/
def Calm (strand : Strand σ) : Prop := ∀ mark ∈ told strand, shaken mark = false

/-! ## The books -/

structure Books (s : Service σ) (strands : List (Strand σ)) (name : String) : Prop where
  cooldowns : reading s name .denied = reading s name (.errors "command_on_cooldown") +
    among name (pending (Phase.fails "command_on_cooldown")) strands
  slots : reading s name .rejected = reading s name (.errors "max_concurrency_reached") +
    among name (pending (Phase.fails "max_concurrency_reached")) strands
  uses : reading s name .uses = reading s name .commands +
    among name (pending Phase.isBegun) strands
  commands : reading s name .commands = among name completions strands +
    reading s name (.errors "command_invoke_error") + among name (pending Phase.concludes) strands
  ends : among name (fun _ => 1) strands = among name completions strands +
    reading s name .failures + among name breakages strands +
      among name (pending Phase.isOpen) strands

theorem books_of_step (books : Books s (front ++ strand :: back) name)
    (found : (phaseOf strand.point).fails "command_not_found" = false)
    (composed : Composed strand.point) (step : Step d ⟨strand.inv, strand.point, s⟩ r) :
    Books r.2.service (front ++ strand.after r :: back) name := by
  obtain ⟨entries, counted, moves⟩ := advances_of_step step composed
  have balances : Balances (phaseOf strand.point) entries (r.1.countP completes)
      (r.1.countP breaks) (phaseOf r.2.point) := balances_of_moves moves found
  have named : (strand.after r).inv.name = strand.inv.name :=
    congrArg Command.qualified (command_of_step step)
  have completed : completions (strand.after r) = completions strand + r.1.countP completes := by
    rw [completions, told_after, List.countP_append]
    rfl
  have broken : breakages (strand.after r) = breakages strand + r.1.countP breaks := by
    rw [breakages, told_after, List.countP_append]
    rfl
  obtain ⟨cooldowns, slots, uses, commands, ends⟩ := books
  obtain ⟨onCooldown, saturated, begun, concludes, settled⟩ := balances
  have now (phases : Phase → Bool) : pending phases (strand.after r) =
      (phases (phaseOf r.2.point)).toNat := rfl
  simp only [among_middle] at cooldowns slots uses commands ends
  -- The books of other names see neither the invocation nor what it counts.
  by_cases here : strand.inv.name = name
  · simp only [here, if_true, pending] at cooldowns slots uses commands ends
    constructor <;>
      simp only [among_middle, named, completed, broken, counted name, here, if_true, now] <;>
      omega
  · simp only [here, if_false] at cooldowns slots uses commands ends
    constructor <;> simp only [among_middle, named, counted name, here, if_false] <;> omega

/-! ## Events -/

/-- Whether the books are about a counter. -/
def audited : Counter → Bool
  | .events => false
  | .errors kind => kind != "command_not_found"
  | _ => true

theorem books_congr (books : Books s strands name)
    (same : ∀ c, audited c = true → reading t name c = reading s name c) :
    Books t strands name := by
  constructor
  · rw [same .denied rfl, same (.errors _) rfl]
    exact books.cooldowns
  · rw [same .rejected rfl, same (.errors _) rfl]
    exact books.slots
  · rw [same .uses rfl, same .commands rfl]
    exact books.uses
  · rw [same .commands rfl, same (.errors _) rfl]
    exact books.commands
  · rw [same .failures rfl]
    exact books.ends

/-- An event is counted, and nothing that the books are about. -/
structure Received (s t : Service σ) : Prop where
  events : t.metrics.events = s.metrics.events + 1
  others : ∀ name c, audited c = true → reading t name c = reading s name c

theorem received_met (s : Service σ) : Received s (met s) where
  events := rfl
  others name c about := by
    cases c with
    | events => cases about
    | _ => rfl

theorem received_congr (received : Received s t) {u : Service σ} (same : reading u = reading t) :
    Received s u where
  events := by
    have here : u.metrics.events = t.metrics.events := congrFun (congrFun same "") .events
    exact here.trans received.events
  others name c about := by
    rw [same]
    exact received.others name c about

theorem received_of_unheard {e : Event} (unheard : Unheard d e) (s : Service σ) :
    Received s (d.dispatch e s).2 := by
  refine received_congr (received_met s) ?_
  cases unheard with
  | ignored bot =>
    simp only [dispatch, bot, if_true]
    exact reading_congr rfl rfl
  | unaddressed heard nobody =>
    simp only [dispatch, heard, nobody, Bool.false_eq_true, if_false]
    exact reading_congr rfl rfl

theorem reading_goOnUnresolved (ctx : Context) (error : CommandError) {p : Progress σ × Service σ}
    (spares : Spares s p.2) : reading (goOnUnresolved ctx error p).2 = reading s := by
  obtain ⟨progress, t⟩ := p
  have same : reading t = reading s := reading_of_spares spares
  cases progress with
  | paused => exact same
  | ended outcome =>
    cases outcome with
    | failed failure => exact (reading_handlerFailed t ctx.openSpan ctx error failure).trans same
    | done | panicked => exact same

theorem reading_reported {h : Handling σ} (reporting : AtMostReporting h) (s : Service σ) :
    reading (d.resume h s).2 = reading s := by
  cases reporting with
  | finished => rfl
  | @unresolved ctx error pause =>
    exact reading_goOnUnresolved ctx error (resume_spares (openRunner ctx) pause s)

theorem reading_refuseLine (d : Dispatcher σ) (ctx : Context) (error : CommandError)
    (s : Service σ) : reading (d.refuseLine ctx error s).2 = reading (refused ctx error s) := by
  rw [refuseLine_eq]
  split
  · exact reading_goOnUnresolved ctx error
      (run_spares (openRunner ctx) (d.hooks.onError ctx error) (refused ctx error s))
  · rfl

/-- A line that names no command is counted under a kind that the books leave out. -/
theorem received_of_unresolved {e : Event} {lead line : String} {error : CommandError}
    (unresolved : Unresolved d s e lead line error) (kind : error.code = "command_not_found") :
    Received s (d.dispatch e s).2 := by
  rw [dispatch_of_unresolved unresolved]
  have answered := reading_refuseLine d (openContext d s e lead) error (met s)
  refine received_congr ⟨rfl, fun name c about => ?_⟩ answered
  -- A command may be called "unknown" itself, so that the name alone does not keep this apart.
  have counted := counted_error (met s) "unknown" error.code name c
  have nothing : [Entry.error error.code].countP c.counts = 0 := by
    rw [kind]
    cases c with
    | errors other =>
      have differs : ("command_not_found" == other) = false :=
        beq_eq_false_iff_ne.2 (bne_iff_ne.1 about).symm
      simp [Counter.counts, differs]
    | _ => rfl
  rw [nothing, ite_self, Nat.add_zero, (received_met s).others name c about] at counted
  exact counted

theorem code_of_unresolved {ci : Bool} {e : Event} {lead line : String} {error : CommandError}
    (stable : Stable ci w) (unresolved : Unresolved d w.service e lead line error) :
    error.code = "command_not_found" := by
  obtain ⟨words, -, -, failing, -, -, -, -, rfl⟩ :=
    (LongestDescent.resolve_eq_error_iff stable.orderly line error).1 unresolved.unknown
  rfl

/-! ## What runs keep -/

structure Kept (calls : Nat) (w : World σ) : Prop where
  events : w.service.metrics.events = calls
  composed : ∀ strand ∈ w.strands, Composed strand.point
  found : ∀ strand ∈ w.strands, (phaseOf strand.point).fails "command_not_found" = false
  books : ∀ name, Books w.service w.strands name

theorem kept_of_received (kept : Kept calls ⟨s, strands⟩) (received : Received s t) :
    Kept (calls + 1) ⟨t, strands⟩ where
  events := received.events.trans (congrArg (· + 1) kept.events)
  composed := kept.composed
  found := kept.found
  books name := books_congr (kept.books name) (received.others name)

theorem kept_of_same (kept : Kept calls ⟨s, strands⟩) (same : reading t = reading s) :
    Kept calls ⟨t, strands⟩ where
  events := by
    have here : t.metrics.events = s.metrics.events := congrFun (congrFun same "") .events
    exact here.trans kept.events
  composed := kept.composed
  found := kept.found
  books name := books_congr (kept.books name) fun c _ => congrFun (congrFun same name) c

theorem books_of_begun (books : Books s strands name) (inv : Invocation σ) :
    Books s (strands ++ [⟨inv, .arrived, []⟩]) name := by
  have grown (amount : Strand σ → Nat) : among name amount (strands ++ [⟨inv, .arrived, []⟩]) =
      among name amount strands + if inv.name = name then amount ⟨inv, .arrived, []⟩ else 0 := by
    have whole := @among_middle σ strands [] ⟨inv, .arrived, []⟩ name amount
    rwa [List.append_nil] at whole
  have nothing (amount : Strand σ → Nat) (none : amount ⟨inv, .arrived, []⟩ = 0) :
      among name amount (strands ++ [⟨inv, .arrived, []⟩]) = among name amount strands := by
    rw [grown, none, ite_self, Nat.add_zero]
  constructor
  · rw [nothing _ rfl]
    exact books.cooldowns
  · rw [nothing _ rfl]
    exact books.slots
  · rw [nothing _ rfl]
    exact books.uses
  · rw [nothing completions rfl, nothing _ rfl]
    exact books.commands
  · rw [nothing completions rfl, nothing breakages rfl, grown, grown, books.ends, Nat.add_assoc]
    rfl

theorem kept_of_begun (kept : Kept calls ⟨s, strands⟩) (inv : Invocation σ) :
    Kept calls ⟨s, strands ++ [⟨inv, .arrived, []⟩]⟩ where
  events := kept.events
  composed := List.forall_mem_append.2 ⟨kept.composed, List.forall_mem_singleton.2 fun _ _ => nofun⟩
  found := List.forall_mem_append.2 ⟨kept.found, List.forall_mem_singleton.2 rfl⟩
  books name := books_of_begun (kept.books name) inv

theorem kept_of_step (kept : Kept calls ⟨s, front ++ strand :: back⟩)
    (step : Step d ⟨strand.inv, strand.point, s⟩ r) (calm : ∀ mark ∈ r.1, shaken mark = false) :
    Kept calls ⟨r.2.service, front ++ strand.after r :: back⟩ := by
  have member : strand ∈ front ++ strand :: back := List.mem_append_right _ List.mem_cons_self
  have composed := kept.composed strand member
  have found := kept.found strand member
  obtain ⟨entries, counted, moves⟩ := advances_of_step step composed
  refine ⟨?_, forall_of_one kept.composed fun _ => composed_of_step step calm,
    forall_of_one kept.found (found_of_moves moves),
    fun name => books_of_step (kept.books name) found composed step⟩
  have same := counted "" .events
  have none : entries.countP Counter.events.counts = 0 := by
    simp [Counter.counts]
  rw [none, ite_self] at same
  exact same.trans kept.events

theorem calm_of_after (calm : Calm (strand.after r)) :
    Calm strand ∧ ∀ mark ∈ r.1, shaken mark = false := by
  rw [Calm, told_after] at calm
  exact List.forall_mem_append.1 calm

/-- In every world that a run comes to, if neither a hook nor an error handler has panicked. -/
theorem kept_of_runs (runs : Runs d calls w) (calm : ∀ strand ∈ w.strands, Calm strand) :
    Kept calls w := by
  induction runs with
  | start app =>
    refine ⟨rfl, List.forall_mem_nil _, List.forall_mem_nil _, fun name => ?_⟩
    constructor <;> rfl
  | begins _ heard addressed resolved ih =>
    obtain ⟨old, -⟩ := List.forall_mem_append.1 calm
    exact kept_of_begun (kept_of_received (ih old) (received_met _)) _
  | unheard _ unheard ih => exact kept_of_received (ih calm) (received_of_unheard unheard _)
  | unresolved runs unresolved ih =>
    have kind := code_of_unresolved (stable_of_reached (reached_of_runs runs)) unresolved
    exact kept_of_received (ih calm) (received_of_unresolved unresolved kind)
  | steps _ step ih =>
    -- What is told only grows: whoever is calm after the step was calm before it.
    obtain ⟨now, marks⟩ := calm_of_after (calm _ (List.mem_append_right _ List.mem_cons_self))
    exact kept_of_step (ih (forall_of_one calm fun _ => now)) step marks
  | reported _ reporting ih => exact kept_of_same (ih calm) (reading_reported reporting _)
  | changed _ change same ih => exact kept_of_same (ih calm) same

/-! ## Balance -/

/-- The counters agree about the commands with a name, and with what became of their invocations. -/
structure Balanced (calls : Nat) (w : World σ) (name : String) : Prop where
  cooldowns : reading w.service name .denied =
    reading w.service name (.errors "command_on_cooldown")
  slots : reading w.service name .rejected =
    reading w.service name (.errors "max_concurrency_reached")
  uses : reading w.service name .commands = reading w.service name .uses
  commands : reading w.service name .commands =
    among name completions w.strands + reading w.service name (.errors "command_invoke_error")
  /-- Nothing is counted for an invocation whose arguments broke their binding. -/
  resolved : w.strands.countP (fun strand => strand.inv.name == name) =
    among name completions w.strands + reading w.service name .failures +
      among name breakages w.strands
  events : w.service.metrics.events = calls

theorem among_eq_zero {amount : Strand σ → Nat} (none : ∀ strand ∈ strands, amount strand = 0) :
    among name amount strands = 0 := by
  refine List.sum_eq_zero_iff_forall_eq_nat.2 fun n member => ?_
  obtain ⟨strand, chosen, rfl⟩ := List.mem_map.1 member
  exact none strand (List.mem_filter.1 chosen).1

theorem among_one (name : String) (strands : List (Strand σ)) :
    among name (fun _ => 1) strands = strands.countP fun strand => strand.inv.name == name := by
  rw [among, List.map_const', List.sum_replicate_nat, Nat.mul_one, List.countP_eq_length_filter]

theorem balanced_of_kept (kept : Kept calls w)
    (finished : ∀ strand ∈ w.strands, strand.point = .ended) (name : String) :
    Balanced calls w name := by
  have nothing (phases : Phase → Bool) (closed : phases .closed = false) :
      among name (pending phases) w.strands = 0 := by
    refine among_eq_zero fun strand member => ?_
    rw [pending, finished strand member, phaseOf, closed]
    rfl
  obtain ⟨cooldowns, slots, uses, commands, ends⟩ := kept.books name
  rw [nothing _ rfl, Nat.add_zero] at cooldowns slots uses commands ends
  rw [among_one] at ends
  exact ⟨cooldowns, slots, uses.symm, commands, ends, kept.events⟩

/-- However the invocations of a dispatcher take turns, if none is torn down and neither a hook nor
an error handler panics, the counters balance once all are over. A denial by a cooldown and a
rejection for want of a slot are errors of their kinds; a command is counted for each use, and each
is completed or an error of its body; every invocation is completed or an error of some kind, unless
its arguments broke their binding; and every event is counted. Whatever the program does with an
event, with what waits, and with its commands, modules and limits leads along such runs. -/
theorem counters_balance (runs : Runs d calls w) :
    ((∀ strand ∈ w.strands, strand.point = .ended) → (∀ strand ∈ w.strands, Calm strand) →
      ∀ name, Balanced calls w name) ∧ Covered d calls w :=
  ⟨fun finished calm => balanced_of_kept (kept_of_runs runs calm) finished, covered_of_runs runs⟩

/-- A command that everybody may use once in a while. -/
def ping : CommandParts Unit where
  name := "ping"
  cooldowns := [⟨1, 60, .user⟩]
  body := some fun _ _ => .done

def plain : Dispatcher Unit where
  directory := .ofLists [] [] [] []

/-- A dispatcher with one command. -/
def offering (d : Dispatcher Unit) (parts : CommandParts Unit) : Service Unit :=
  ((Service.start d ()).register { qualified := parts.name, parts := parts }).toOption.elim
    (.start d ()) (·.2)

def message : Event where
  author := { id := 1, name := "" }
  origin := ⟨.direct, none, { id := 9, name := "" }⟩
  content := "!ping"
  responder := .discard

def found : Resolved Unit := ⟨{ qualified := "ping", parts := ping }, [], "ping", [], ""⟩

theorem runs_offering {d : Dispatcher Unit} {parts : CommandParts Unit} {told : Command Unit}
    (built : (Declaration.declare parts false []).build =
      .ok ({ qualified := parts.name, parts := parts } : Command Unit))
    (taken : (Service.start d ()).register { qualified := parts.name, parts := parts } =
      .ok (told, offering d parts)) : Runs d 0 ⟨offering d parts, []⟩ :=
  (Runs.start ()).changed (.registered (.built built) taken) (reading_of_register taken)

def pinging : Service Unit := offering plain ping

/-- An invocation that begins. -/
def asking (s : Service Unit) : Strand Unit := ⟨begunBy plain s message "!" found, .arrived, []⟩

/-- Of two invocations that have begun one after the other the second is denied. -/
theorem second_ping_denied :
    ∃ w : World Unit, Runs plain 2 w ∧ (∀ strand ∈ w.strands, strand.point = .ended) ∧
      (∀ strand ∈ w.strands, Calm strand) ∧ Balanced 2 w "ping" ∧
      reading w.service "ping" .commands = 1 ∧ reading w.service "ping" .denied = 1 := by
  have addressed : splitLead? plain.leads plain.settings.dispatch.stripAfterLead message.content =
      some ("!", "ping") := by
    simp only [leads, plain, List.mergeSort_singleton]
    decide
  have first : Runs plain 1 ⟨met pinging, [asking pinging]⟩ :=
    (runs_offering rfl rfl).begins rfl addressed rfl
  have both : Runs plain 2 ⟨met (met pinging), [asking pinging, asking (met pinging)]⟩ :=
    first.begins rfl addressed rfl
  obtain ⟨marks, m, more, n, one, other, calm, also, ended, finished, once, denied⟩ :
      ∃ marks m more n, Goes plain ⟨(asking pinging).inv, .arrived, met (met pinging)⟩ marks m ∧
        Goes plain ⟨(asking (met pinging)).inv, .arrived, m.service⟩ more n ∧
        (∀ mark ∈ marks, shaken mark = false) ∧ (∀ mark ∈ more, shaken mark = false) ∧
        m.point = .ended ∧ n.point = .ended ∧
        reading n.service "ping" .commands = 1 ∧ reading n.service "ping" .denied = 1 := by
    -- The first goes all the way to its completion, the second as far as the error handlers.
    refine ⟨_, _, _, _, .step id (.passed rfl) <| .step id (.cooled returns_done rfl) <|
      .step id (.unlimited rfl) <| .step id (.bound rfl rfl) <| .step id (.noBeforeCommand rfl) <|
      .step id .beforeGlobal <| .step id (.body rfl) <| .step id .worked <|
      .step id (.noAfterCommand rfl) <| .step id (.afterGlobal returns_done) <|
      .step id (.succeeded returns_done rfl) <| .step id .completion <|
      .step id (.completed returns_done) <| .stop trivial, .step id (.passed rfl) <|
      .step id (.denied returns_done rfl) <| .step id .reported <|
      .step id (.noCommandHandler rfl) <| .step id (.noModuleHandler rfl) <|
      .step id .globalHandler <| .step id .settled <| .stop trivial, ?_, ?_, rfl, rfl, ?_, ?_⟩
    · decide
    · decide
    · decide +kernel
    · decide +kernel
  obtain ⟨early, onward, -, left, tells⟩ := runs_of_goes [] [asking (met pinging)] one both rfl rfl
  obtain ⟨late, whole, -, alsoLeft, alsoTells⟩ :=
    runs_of_goes [early] [] other onward rfl rfl
  have gone : ∀ strand ∈ [early, late], strand.point = .ended := by
    simp [left, ended, alsoLeft, finished]
  have quiet : ∀ strand ∈ [early, late], Calm strand := by
    have nothing (s : Service Unit) : told (asking s) = [] := rfl
    refine List.forall_mem_cons.2 ⟨?_, List.forall_mem_singleton.2 ?_⟩
    · rwa [Calm, tells, nothing, List.nil_append]
    · rwa [Calm, alsoTells, nothing, List.nil_append]
  exact ⟨_, whole, gone, quiet, (counters_balance whole).1 gone quiet "ping", once, denied⟩

/-- Takes two flags. One is called what the dispatcher writes between names and values. -/
def adjust : CommandParts Unit where
  name := "adjust"
  params := [{
    name := "options"
    shape := .flags {
      flags := [{ name := "a", shape := .of .str }, { name := "is", shape := .of .str }] } }]
  body := some fun _ _ => .done

def wordy : Dispatcher Unit where
  converters := { Converters.builtin with flagStyle := { delimiter := " is " } }
  directory := .ofLists [] [] [] []

def request : Event := { message with content := "!adjust a is is b" }

def wanted : Resolved Unit :=
  ⟨{ qualified := "adjust", parts := adjust }, [], "adjust", [], "a is is b"⟩

/-- An invocation whose arguments break their binding is neither completed nor an error. -/
theorem broken_binding_counts_nowhere :
    ∃ w : World Unit, Runs wordy 1 w ∧ (∀ strand ∈ w.strands, strand.point = .ended) ∧
      (∀ strand ∈ w.strands, Calm strand) ∧
      w.strands.countP (fun strand => strand.inv.name == "adjust") ≠
        among "adjust" completions w.strands + reading w.service "adjust" .failures := by
  have addressed : splitLead? wordy.leads wordy.settings.dispatch.stripAfterLead request.content =
      some ("!", "adjust a is is b") := by
    simp only [leads, wordy, List.mergeSort_singleton]
    decide
  have begun : Runs wordy 1 ⟨met (offering wordy adjust),
      [⟨begunBy wordy (offering wordy adjust) request "!" wanted, .arrived, []⟩]⟩ :=
    (runs_offering rfl rfl).begins rfl addressed rfl
  obtain ⟨m, goes, ended, named, nothing⟩ : ∃ m,
      Goes wordy ⟨begunBy wordy (offering wordy adjust) request "!" wanted, .arrived,
          met (offering wordy adjust)⟩
        [.checked none, .ran .onCommand .done, .cooled none, .unlimited,
          .bound (some .panicked)] m ∧
      m.point = .ended ∧ m.inv.name = "adjust" ∧ reading m.service "adjust" .failures = 0 :=
    ⟨_, .step id (.passed rfl) <| .step id (.cooled returns_done rfl) <|
      .step id (.unlimited rfl) <| .step id (.broken rfl) <| .stop trivial, rfl, rfl, rfl⟩
  obtain ⟨later, whole, inv, point, tells⟩ := runs_of_goes [] [] goes begun rfl rfl
  have here : later.inv.name = "adjust" := by rw [inv, named]
  have none : completions later = 0 := by
    rw [completions, tells]
    rfl
  refine ⟨_, whole, by simp [point, ended], ?_, ?_⟩
  · refine List.forall_mem_singleton.2 ?_
    rw [Calm, tells]
    decide
  · simp [among, here, none, nothing]

end ChatCommands.BalancedCounters
