import ChatCommands.Proofs.LegalCourses
import ChatCommands.Proofs.ScriptFrame

/-! Events that begin no invocation: those of bots that are ignored, those that do not address the
agent, and those whose line names no command. Nothing but the dispatcher's error handler can run for
them, and that only for the last kind. Whatever it does, commands and limits stay as they are. -/
namespace ChatCommands.UnbegunEvents
open InvocationCourse LegalCourses ScriptFrame Dispatcher

variable {σ : Type} {d : Dispatcher σ} {s : Service σ} {e : Event}

/-- The context of an event that addresses the agent, before its line is resolved. -/
def openContext (d : Dispatcher σ) (s : Service σ) (e : Event) (lead : String) : Context :=
  { Context.ofEvent e d.directory d.settings.dispatch.owners with
    lead := lead, serial := (met s).invocations }

/-- Nobody is meant by an event. -/
inductive Unheard (d : Dispatcher σ) (e : Event) : Prop where
  | ignored (bot : (d.settings.dispatch.ignoreBots && e.author.bot) = true) : Unheard d e
  | unaddressed (heard : (d.settings.dispatch.ignoreBots && e.author.bot) = false)
      (nobody : splitLead? d.leads d.settings.dispatch.stripAfterLead e.content = none) :
      Unheard d e

/-- The line of an event names no command. -/
structure Unresolved (d : Dispatcher σ) (s : Service σ) (e : Event) (lead line : String)
    (error : CommandError) : Prop where
  heard : (d.settings.dispatch.ignoreBots && e.author.bot) = false
  addressed : splitLead? d.leads d.settings.dispatch.stripAfterLead e.content = some (lead, line)
  unknown : s.registry.resolve line = .error error

/-- Nothing is left to be done but what the dispatcher's error handler waits for. -/
inductive AtMostReporting : Handling σ → Prop where
  | finished : AtMostReporting .finished
  | unresolved {ctx : Context} {error : CommandError} {pause : Pause σ} :
      AtMostReporting (.unresolved ctx error pause)

/-! ## What comes of them -/

theorem dispatch_of_unheard (unheard : Unheard d e) (s : Service σ) :
    (d.dispatch e s).1 = .finished ∧ SameGates s (d.dispatch e s).2 := by
  cases unheard with
  | ignored bot =>
    simp only [dispatch, bot, if_true]
    exact ⟨trivial, rfl, rfl, rfl⟩
  | unaddressed heard nobody =>
    simp only [dispatch, heard, nobody, Bool.false_eq_true, if_false]
    exact ⟨trivial, rfl, rfl, rfl⟩

theorem dispatch_of_unresolved {lead line : String} {error : CommandError}
    (unresolved : Unresolved d s e lead line error) :
    d.dispatch e s = d.refuseLine (openContext d s e lead) error (met s) := by
  simp only [dispatch, unresolved.heard, unresolved.addressed, unresolved.unknown]
  rfl

/-- The service once a line is counted and noted that names no command. -/
def refused (ctx : Context) (error : CommandError) (s : Service σ) : Service σ :=
  { s with metrics := s.metrics.error "unknown" error.code }.note (some ctx.openSpan)
    ⟨.trace, .dispatcher, "No command matched", [("error", error.message)]⟩

theorem refuseLine_eq (d : Dispatcher σ) (ctx : Context) (error : CommandError) (s : Service σ) :
    d.refuseLine ctx error s =
      if d.settings.dispatch.reportNotFound then
        goOnUnresolved ctx error
          ((d.hooks.onError ctx error).run (openRunner ctx) (refused ctx error s))
      else (.finished, refused ctx error s) := rfl

theorem handlerFailed_gates (s : Service σ) (span : Span) (ctx : Context) (error : CommandError)
    (failure : Fault) : SameGates s (s.handlerFailed span ctx error failure) := ⟨rfl, rfl, rfl⟩

theorem goOnUnresolved_gates (ctx : Context) (error : CommandError) {p : Progress σ × Service σ}
    (spares : Spares s p.2) : AtMostReporting (goOnUnresolved ctx error p).1 ∧
      SameGates s (goOnUnresolved ctx error p).2 := by
  obtain ⟨progress, t⟩ := p
  have gates : SameGates s t := spares.gates
  cases progress with
  | paused pause => exact ⟨.unresolved, gates⟩
  | ended outcome =>
    cases outcome with
    | failed failure =>
      have noted := handlerFailed_gates t ctx.openSpan ctx error failure
      exact ⟨.finished, noted.registry.trans gates.registry,
        noted.cooldowns.trans gates.cooldowns, noted.slots.trans gates.slots⟩
    | done | panicked => exact ⟨.finished, gates⟩

theorem refuseLine_gates (d : Dispatcher σ) (ctx : Context) (error : CommandError)
    (s : Service σ) :
    AtMostReporting (d.refuseLine ctx error s).1 ∧ SameGates s (d.refuseLine ctx error s).2 := by
  rw [refuseLine_eq]
  split
  · have ran := run_spares (openRunner ctx) (d.hooks.onError ctx error) (refused ctx error s)
    obtain ⟨reporting, gates⟩ := goOnUnresolved_gates ctx error ran
    exact ⟨reporting, gates.registry, gates.cooldowns, gates.slots⟩
  · exact ⟨.finished, rfl, rfl, rfl⟩

theorem resume_gates (d : Dispatcher σ) {h : Handling σ} (reporting : AtMostReporting h)
    (later : Service σ) :
    AtMostReporting (d.resume h later).1 ∧ SameGates later (d.resume h later).2 := by
  cases reporting with
  | finished => exact ⟨.finished, rfl, rfl, rfl⟩
  | @unresolved ctx error pause =>
    exact goOnUnresolved_gates ctx error (resume_spares (openRunner ctx) pause later)

/-! ## Whose code runs for them -/

theorem dispatch_unheard_hooks (unheard : Unheard d e) (s : Service σ) (hooks : Hooks σ) :
    ({ d with hooks := hooks } : Dispatcher σ).dispatch e s = d.dispatch e s := by
  have leads : ({ d with hooks := hooks } : Dispatcher σ).leads = d.leads := rfl
  cases unheard with
  | ignored bot => simp only [dispatch, bot, if_true]
  | unaddressed heard nobody => simp only [dispatch, heard, leads, nobody]

/-- Of all hooks a line that names no command comes to the error handler only, and that if such
lines are reported. -/
theorem dispatch_unresolved_hooks {lead line : String} {error : CommandError}
    (unresolved : Unresolved d s e lead line error) (hooks : Hooks σ)
    (same : d.settings.dispatch.reportNotFound = true → hooks.onError = d.hooks.onError) :
    ({ d with hooks := hooks } : Dispatcher σ).dispatch e s = d.dispatch e s := by
  have also : Unresolved ({ d with hooks := hooks } : Dispatcher σ) s e lead line error :=
    ⟨unresolved.heard, unresolved.addressed, unresolved.unknown⟩
  rw [dispatch_of_unresolved also, dispatch_of_unresolved unresolved]
  simp only [refuseLine, openContext]
  cases reports : d.settings.dispatch.reportNotFound with
  | false => rfl
  | true => rw [same reports]

/-- A handler that was asked is taken up with nothing but what it waits for. -/
theorem resume_hooks {h : Handling σ} (reporting : AtMostReporting h) (hooks : Hooks σ)
    (later : Service σ) :
    ({ d with hooks := hooks } : Dispatcher σ).resume h later = d.resume h later := by
  cases reporting <;> rfl

/-! ## How their handler ends -/

/-- A script that got as far as some progress is taken up at one service after another until it
ends. -/
inductive Ends (runner : Runner) :
    Progress σ × Service σ → List (Service σ) → Outcome → Service σ → Prop where
  | now {outcome : Outcome} {t : Service σ} : Ends runner (.ended outcome, t) [] outcome t
  | later {pause : Pause σ} {s u : Service σ} {times : List (Service σ)} {outcome : Outcome}
      {t : Service σ} (onward : Ends runner (pause.resume runner u) times outcome t) :
      Ends runner (.paused pause, s) (u :: times) outcome t

/-- The service once the handler of a line that names no command has ended. Its failure is noted. -/
def afterReport (ctx : Context) (error : CommandError) (outcome : Outcome) (t : Service σ) :
    Service σ :=
  match outcome with
  | .failed failure => t.handlerFailed ctx.openSpan ctx error failure
  | _ => t

theorem goOnUnresolved_of_ends {ctx : Context} {error : CommandError} {p : Progress σ × Service σ}
    {times : List (Service σ)} {outcome : Outcome} {t : Service σ}
    (ends : Ends (openRunner ctx) p times outcome t) :
    times.foldl (fun r later => d.resume r.1 later) (goOnUnresolved ctx error p) =
      (.finished, afterReport ctx error outcome t) := by
  induction ends with
  | @now outcome t => cases outcome <;> rfl
  | later _ ih => exact ih

end ChatCommands.UnbegunEvents
