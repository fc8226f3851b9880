import ChatCommands.Binding
import ChatCommands.Dispatch.Address
import ChatCommands.Script.Running

/-!
The way of an invocation from an event to a body and back. It passes the checks,
the hook for commands, the cooldowns, the slots and the binding of its
arguments; runs the hooks before the body, the body, and the hooks after it;
gives its slot back; and ends with the completion hook or with the error
handlers, of which the first to succeed settles the error.

Each stage that runs a script may have to wait there. A stage is therefore two
functions: one that begins it, and one that goes on with the outcome of its
script; what is kept in between is the stage and the pause of the script. An
invocation that is torn down while it waits (`abandon`) leaves its after hooks
to be run on their own and gives its slot back.

Checks and converters may also have to wait, for objects that are looked up.
What they come to depends on what the invocation knows, so nothing is kept of
them in between: an invocation that is taken up there is checked, or its
arguments are bound, and one that is torn down gives back what it holds.
-/

namespace ChatCommands

/-- Which of the three error handlers is asked. -/
inductive HandlerLevel where
  /-- The command's own. -/
  | command
  /-- The one of the root command's module. -/
  | module
  /-- The dispatcher's. -/
  | global
  deriving DecidableEq

/-- The stage whose script is under way. -/
inductive Stage where
  /-- The hook for commands that passed their checks. -/
  | onCommand
  /-- The command's hook before the body. -/
  | beforeCommand (args : Args)
  /-- The dispatcher's hook before the body. -/
  | beforeGlobal (args : Args)
  /-- The body. -/
  | body
  /-- The command's hook after the body, which failed with `body` if at all. -/
  | afterCommand (body : Option Fault)
  /-- The dispatcher's hook after the body; `hook` is the failure of the hook before it. -/
  | afterGlobal (body hook : Option Fault)
  /-- The hook for success. -/
  | completion
  /-- An error handler. -/
  | handler (level : HandlerLevel) (error : CommandError)

/-- An invocation of a resolved command. -/
structure Invocation (σ : Type) where
  /-- What it knows about itself. -/
  ctx : Context
  /-- What its line was resolved to. -/
  target : Resolved σ
  /-- The slot it holds. -/
  admission : Option Admission := none

namespace Invocation

variable {σ : Type}

/-- The command. -/
def command (inv : Invocation σ) : Command σ := inv.target.command

/-- The qualified name of the command. -/
def name (inv : Invocation σ) : String := inv.target.command.qualified

/-- What the journal is told about the invocation. -/
def span (inv : Invocation σ) : Span :=
  ⟨toString inv.ctx.author.id, inv.ctx.origin.kind.name, some inv.name⟩

/-- For whom its scripts run. -/
def runner (inv : Invocation σ) : Runner := ⟨inv.ctx, some inv.target.id, some inv.span⟩

end Invocation

/-- What the journal is told about an event whose line is not resolved. -/
def Context.openSpan (ctx : Context) : Span := ⟨toString ctx.author.id, ctx.origin.kind.name, none⟩

/-- Where the handling of an event stands. -/
inductive Handling (σ : Type) where
  /-- It is over. -/
  | finished
  /-- A check waits. -/
  | checking (inv : Invocation σ)
  /-- A converter waits. -/
  | binding (inv : Invocation σ)
  /-- A stage's script waits. -/
  | staged (inv : Invocation σ) (stage : Stage) (pause : Pause σ)
  /-- The invocation waits in line for a slot. -/
  | queued (inv : Invocation σ) (place : Place)
  /-- The last error handler of an unresolved line waits. -/
  | unresolved (ctx : Context) (error : CommandError) (pause : Pause σ)

/-- The note about a failure of an error handler. -/
def fallbackNote (ctx : Context) (error : CommandError) (failure : Fault) : Note :=
  ⟨.error, .fallback, "Error handler failed",
    [("command", ctx.commandName), ("original", error.message), ("failure", failure.text)]⟩

/-- The failure that a panic of a body counts as. -/
def panicFault (message : Option String) : Fault :=
  ⟨"panicked: " ++ message.getD "command panicked", []⟩

namespace Service

variable {σ : Type}

/-- Notes and counts the failure of an error handler. -/
def handlerFailed (s : Service σ) (span : Span) (ctx : Context) (error : CommandError)
    (failure : Fault) : Service σ :=
  { s with metrics := s.metrics.handlerFailure }.note (some span) (fallbackNote ctx error failure)

/-- Gives the slot of an invocation back. -/
def releaseSlot (s : Service σ) (inv : Invocation σ) : Service σ :=
  match inv.admission with
  | some admission => s.handOver (s.slots.release admission)
  | none => s

/-- Counts an invocation that came as far as the hooks around the body. -/
def countCommand (s : Service σ) (inv : Invocation σ) : Service σ :=
  { s with metrics := s.metrics.command inv.name }

/-- Tears an invocation down at a stage. After hooks that have not begun are left to be run on their
own; those that have begun are not taken up again. -/
def abandon (s : Service σ) (inv : Invocation σ) : Stage → Service σ
  | .onCommand | .completion | .handler _ _ => s
  | .beforeCommand _ | .beforeGlobal _ | .body =>
    let s := s.signal (.aftermath ⟨inv.ctx, inv.command.parts.after, inv.target.id⟩)
    (s.countCommand inv).releaseSlot inv
  | .afterCommand _ | .afterGlobal _ _ => (s.countCommand inv).releaseSlot inv

end Service

namespace Dispatcher

variable {σ : Type}

/-- Goes on with a stage whose script got as far as `progress`. -/
def goOn (inv : Invocation σ) (stage : Stage)
    (next : Outcome → Service σ → Handling σ × Service σ) :
    Progress σ × Service σ → Handling σ × Service σ
  | (.ended outcome, s) => next outcome s
  | (.paused pause, s) => (.staged inv stage pause, s)

/-- Begins a stage with its script. -/
def begin (inv : Invocation σ) (stage : Stage) (script : Script σ)
    (next : Outcome → Service σ → Handling σ × Service σ) (s : Service σ) :
    Handling σ × Service σ :=
  goOn inv stage next (script.run inv.runner s)

/-- Goes on after the dispatcher's error handler. -/
def afterGlobalHandler (inv : Invocation σ) (error : CommandError) (outcome : Outcome)
    (s : Service σ) : Handling σ × Service σ :=
  match outcome with
  | .failed failure => (.finished, s.handlerFailed inv.span inv.ctx error failure)
  | _ => (.finished, s)

/-- Asks the dispatcher's error handler. -/
def askGlobal (d : Dispatcher σ) (inv : Invocation σ) (error : CommandError) (s : Service σ) :
    Handling σ × Service σ :=
  begin inv (.handler .global error) (d.hooks.onError inv.ctx error)
    (afterGlobalHandler inv error) s

/-- Goes on after the error handler of the module. -/
def afterModuleHandler (d : Dispatcher σ) (inv : Invocation σ) (error : CommandError)
    (outcome : Outcome) (s : Service σ) : Handling σ × Service σ :=
  match outcome with
  | .failed failure => d.askGlobal inv error (s.handlerFailed inv.span inv.ctx error failure)
  | _ => (.finished, s)

/-- Asks the error handler of the root command's module, if it has one. -/
def askModule (d : Dispatcher σ) (inv : Invocation σ) (error : CommandError) (s : Service σ) :
    Handling σ × Service σ :=
  match (s.moduleOf? inv.target.root).bind (·.onError) with
  | some handler =>
    begin inv (.handler .module error) (handler inv.ctx error) (d.afterModuleHandler inv error) s
  | none => d.askGlobal inv error s

/-- Goes on after the command's own error handler. -/
def afterCommandHandler (d : Dispatcher σ) (inv : Invocation σ) (error : CommandError)
    (outcome : Outcome) (s : Service σ) : Handling σ × Service σ :=
  match outcome with
  | .failed failure => d.askModule inv error (s.handlerFailed inv.span inv.ctx error failure)
  | _ => (.finished, s)

/-- Counts an error and asks the error handlers, the command's own first. -/
def report (d : Dispatcher σ) (inv : Invocation σ) (error : CommandError) (s : Service σ) :
    Handling σ × Service σ :=
  let s := { s with metrics := s.metrics.error inv.name error.code }
  match inv.command.parts.onError with
  | some handler =>
    begin inv (.handler .command error) (handler inv.ctx error) (d.afterCommandHandler inv error) s
  | none => d.askModule inv error s

/-- Goes on after the hook for success. -/
def afterCompletion (_ : Outcome) (s : Service σ) : Handling σ × Service σ := (.finished, s)

/-- Gives the slot back, and ends in success or with the error handlers. -/
def conclude (d : Dispatcher σ) (inv : Invocation σ) (result : Except CommandError Unit)
    (s : Service σ) : Handling σ × Service σ :=
  let s := s.releaseSlot inv
  let inv := { inv with admission := none }
  match result with
  | .ok () =>
    begin inv .completion (d.hooks.onCompletion inv.ctx) afterCompletion
      (s.note (some inv.span) ⟨.debug, .dispatcher, "Command completed", []⟩)
  | .error error => d.report inv error s

/-- The failure of a script, if it ended in one. -/
def faultOf : Outcome → Option Fault
  | .failed fault => some fault
  | _ => none

/-- Goes on after the dispatcher's hook after the body: the body's failure counts before that of a
hook. -/
def finishBody (d : Dispatcher σ) (inv : Invocation σ) (body hook : Option Fault)
    (outcome : Outcome) (s : Service σ) : Handling σ × Service σ :=
  match outcome with
  | .panicked _ => (.finished, s.abandon inv (.afterGlobal body hook))
  | _ =>
    let s := s.countCommand inv
    match (body.or hook).or (faultOf outcome) with
    | some fault => d.conclude inv (.error (.invoke inv.name fault)) s
    | none => d.conclude inv (.ok ()) s

/-- Runs the dispatcher's hook after the body. -/
def runAfterGlobal (d : Dispatcher σ) (inv : Invocation σ) (body : Option Fault)
    (outcome : Outcome) (s : Service σ) : Handling σ × Service σ :=
  match outcome with
  | .panicked _ => (.finished, s.abandon inv (.afterCommand body))
  | _ =>
    begin inv (.afterGlobal body (faultOf outcome)) (d.hooks.after inv.ctx)
      (d.finishBody inv body (faultOf outcome)) s

/-- Runs the command's hook after the body, which failed with `body` if at all. -/
def runAfter (d : Dispatcher σ) (inv : Invocation σ) (body : Option Fault) (s : Service σ) :
    Handling σ × Service σ :=
  match inv.command.parts.after with
  | some hook =>
    begin inv (.afterCommand body) (hook inv.ctx) (d.runAfterGlobal inv body) s
  | none => d.runAfterGlobal inv body .done s

/-- Goes on after the body. A panic of the body counts as a failure. -/
def afterBody (d : Dispatcher σ) (inv : Invocation σ) (outcome : Outcome) (s : Service σ) :
    Handling σ × Service σ :=
  match outcome with
  | .done => d.runAfter inv none s
  | .failed fault => d.runAfter inv (some fault) s
  | .panicked message => d.runAfter inv (some (panicFault message)) s

/-- Goes on after the dispatcher's hook before the body. -/
def runBody (d : Dispatcher σ) (inv : Invocation σ) (args : Args) (outcome : Outcome)
    (s : Service σ) : Handling σ × Service σ :=
  match outcome with
  | .done =>
    match inv.command.parts.body with
    | some body => begin inv .body (body inv.ctx args) (d.afterBody inv) s
    | none => d.afterBody inv .done s
  | .failed fault => d.runAfter inv (some fault) s
  | .panicked _ => (.finished, s.abandon inv (.beforeGlobal args))

/-- Goes on after the command's hook before the body. -/
def runBeforeGlobal (d : Dispatcher σ) (inv : Invocation σ) (args : Args) (outcome : Outcome)
    (s : Service σ) : Handling σ × Service σ :=
  match outcome with
  | .done => begin inv (.beforeGlobal args) (d.hooks.before inv.ctx) (d.runBody inv args) s
  | .failed fault => d.runAfter inv (some fault) s
  | .panicked _ => (.finished, s.abandon inv (.beforeCommand args))

/-- Runs the command's hook before the body. -/
def runBefore (d : Dispatcher σ) (inv : Invocation σ) (args : Args) (s : Service σ) :
    Handling σ × Service σ :=
  match inv.command.parts.before with
  | some hook =>
    begin inv (.beforeCommand args) (hook inv.ctx) (d.runBeforeGlobal inv args) s
  | none => d.runBeforeGlobal inv args .done s

/-- Binds the arguments and counts the use. A panic ends the handling, and the slot goes back. -/
def bindArguments (d : Dispatcher σ) (inv : Invocation σ) (s : Service σ) :
    Handling σ × Service σ :=
  let parts := inv.command.parts
  match Binding.bind d.converters d.quotes inv.ctx inv.name parts.params parts.ignoreExtra with
  | .error .panicked => (.finished, s.releaseSlot inv)
  | .error error => d.conclude inv (.error error) s
  | .ok args =>
    let s := { s with registry := s.registry.recordUse inv.target.root.serial inv.command }
    if parts.body.isNone then d.conclude inv (.error (.commandNotFound inv.name)) s
    else d.runBefore inv args s

/-- Asks for a slot if the command has a rule for it. -/
def enterSlot (d : Dispatcher σ) (inv : Invocation σ) (s : Service σ) : Handling σ × Service σ :=
  match inv.command.parts.concurrency with
  | none => d.bindArguments inv s
  | some rule =>
    match s.slots.enter (Slots.keyFor inv.name rule inv.ctx) rule with
    | (.admitted admission, slots) =>
      d.bindArguments { inv with admission := some admission } { s with slots := slots }
    | (.saturated max, slots) =>
      let s := { s with slots := slots, metrics := s.metrics.rejection inv.name }.note
        (some inv.span)
        ⟨.debug, .concurrency, "concurrency limit reached",
          [("command", inv.name), ("max", toString max)]⟩
      d.conclude inv (.error (.maxConcurrencyReached inv.name rule.number rule.per.name)) s
    | (.queued place, slots) =>
      (.queued inv place,
        { s with slots := slots }.note (some inv.span)
          ⟨.debug, .concurrency, "waiting for concurrency slot", [("command", inv.name)]⟩)

/-- Counts the invocation against the cooldowns. -/
def passCooldowns (d : Dispatcher σ) (inv : Invocation σ) (s : Service σ) :
    Handling σ × Service σ :=
  match s.acquire (some inv.span) inv.command inv.ctx with
  | (none, s) => d.enterSlot inv s
  | (some denial, s) =>
    d.conclude inv (.error (.onCooldown inv.name denial.rule.terms denial.wait))
      { s with metrics := s.metrics.denial inv.name }

/-- Goes on after the hook for commands that passed their checks. -/
def afterOnCommand (d : Dispatcher σ) (inv : Invocation σ) (outcome : Outcome) (s : Service σ) :
    Handling σ × Service σ :=
  match outcome with
  | .panicked _ => (.finished, s.abandon inv .onCommand)
  | _ => d.passCooldowns inv s

/-- The outermost command that is disabled, among the ancestors and the command. -/
def firstDisabled? (s : Service σ) (target : Resolved σ) : Option (Command σ) :=
  (target.parents ++ [target.command]).find? fun c =>
    !(s.registry.standing target.root.serial c).enabled

/-- Every check of an invocation, in the order in which they are asked. -/
def checksFor (d : Dispatcher σ) (s : Service σ) (target : Resolved σ) : List Check :=
  d.checks ++ ((s.moduleOf? target.root).bind (·.check)).toList ++
    (target.parents ++ [target.command]).flatMap (s.registry.checksOf target.root.serial)

/-- Whether an invocation may go on to the limits. -/
def passChecks (d : Dispatcher σ) (inv : Invocation σ) (s : Service σ) : Except CommandError Unit :=
  match firstDisabled? s inv.target with
  | some c => .error (.disabledCommand c.qualified)
  | none =>
    match Check.evaluateAll (d.checksFor s inv.target) inv.ctx with
    | .ok () => .ok ()
    | .error failure => .error (.check failure)

/-- Begins an invocation. -/
def invoke (d : Dispatcher σ) (inv : Invocation σ) (s : Service σ) : Handling σ × Service σ :=
  match d.passChecks inv s with
  | .error error => d.conclude inv (.error error) s
  | .ok () => begin inv .onCommand (d.hooks.onCommand inv.ctx) (d.afterOnCommand inv) s

/-- Goes on after the handler of an unresolved line. -/
def goOnUnresolved (ctx : Context) (error : CommandError) :
    Progress σ × Service σ → Handling σ × Service σ
  | (.ended (.failed failure), s) =>
    (.finished, s.handlerFailed ctx.openSpan ctx error failure)
  | (.ended _, s) => (.finished, s)
  | (.paused pause, s) => (.unresolved ctx error pause, s)

/-- For whom the handler of an unresolved line runs. -/
def openRunner (ctx : Context) : Runner := ⟨ctx, none, some ctx.openSpan⟩

/-- Counts and notes a line that names no command, and reports it if that is wanted. -/
def refuseLine (d : Dispatcher σ) (ctx : Context) (error : CommandError) (s : Service σ) :
    Handling σ × Service σ :=
  let s := { s with metrics := s.metrics.error "unknown" error.code }.note (some ctx.openSpan)
    ⟨.trace, .dispatcher, "No command matched", [("error", error.message)]⟩
  if d.settings.dispatch.reportNotFound then
    goOnUnresolved ctx error ((d.hooks.onError ctx error).run (openRunner ctx) s)
  else (.finished, s)

/-- The context of an event that was resolved. -/
def resolvedContext (ctx : Context) (target : Resolved σ) : Context :=
  { ctx with
    command := some target.command.qualified
    invokedWith := some target.invokedWith
    invokedParents := target.invokedParents
    remaining := target.remaining }

/-- Handles an event as far as it gets without waiting. -/
def dispatch (d : Dispatcher σ) (e : Event) (s : Service σ) : Handling σ × Service σ :=
  let s := { s with metrics := s.metrics.event }
  if d.settings.dispatch.ignoreBots && e.author.bot then
    (.finished, s.note none
      ⟨.trace, .dispatcher, "Ignoring bot author", [("author", toString e.author.id)]⟩)
  else
    match splitLead? d.leads d.settings.dispatch.stripAfterLead e.content with
    | none => (.finished, s)
    | some (lead, line) =>
      let s := { s with invocations := s.invocations + 1 }
      let ctx := { Context.ofEvent e d.directory d.settings.dispatch.owners with
        lead := lead, serial := s.invocations }
      match s.registry.resolve line with
      | .error error => d.refuseLine ctx error s
      | .ok target => d.invoke { ctx := resolvedContext ctx target, target := target } s

/-- What a stage goes on with after its script. -/
def nextOf (d : Dispatcher σ) (inv : Invocation σ) :
    Stage → Outcome → Service σ → Handling σ × Service σ
  | .onCommand => d.afterOnCommand inv
  | .beforeCommand args => d.runBeforeGlobal inv args
  | .beforeGlobal args => d.runBody inv args
  | .body => d.afterBody inv
  | .afterCommand body => d.runAfterGlobal inv body
  | .afterGlobal body hook => d.finishBody inv body hook
  | .completion => afterCompletion
  | .handler .command error => d.afterCommandHandler inv error
  | .handler .module error => d.afterModuleHandler inv error
  | .handler .global error => afterGlobalHandler inv error

/-- Takes up the handling of an event whose wait is over. -/
def resume (d : Dispatcher σ) (h : Handling σ) (s : Service σ) : Handling σ × Service σ :=
  match h with
  | .finished => (.finished, s)
  | .checking inv => d.invoke inv s
  | .binding inv => d.bindArguments inv s
  | .staged inv stage pause => goOn inv stage (d.nextOf inv stage) (pause.resume inv.runner s)
  | .queued inv place =>
    match s.slots.receive place with
    | some (admission, slots) =>
      d.bindArguments { inv with admission := some admission } { s.spend with slots := slots }
    | none => (.queued inv place, s)
  | .unresolved ctx error pause => goOnUnresolved ctx error (pause.resume (openRunner ctx) s)

end Dispatcher

namespace Handling

variable {σ : Type}

/-- Tears the handling of an event down. -/
def cancel (h : Handling σ) (s : Service σ) : Service σ :=
  match h with
  | .finished | .checking _ => s
  | .binding inv => s.releaseSlot inv
  | .staged inv stage pause => (pause.drop s).abandon inv stage
  | .queued _ place => s.handOver (s.slots.abandon place)
  | .unresolved _ _ pause => pause.drop s

/-- When the wait ends by itself. -/
def due? : Handling σ → Option Instant
  | .staged _ _ pause | .unresolved _ _ pause => pause.due?
  | _ => none

end Handling

end ChatCommands
