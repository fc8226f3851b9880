import ChatCommands.Dispatch.Invocation

/-!
The after hooks of an invocation that was torn down before they began. The
command's own hook runs first and the dispatcher's after it, whatever became of
the first; the first failure is noted, and nothing else comes of it.
-/

namespace ChatCommands

/-- Where the after hooks of a torn-down invocation stand. -/
inductive AftermathStage where
  /-- The command's own hook is under way. -/
  | command
  /-- The dispatcher's hook is under way; `failure` is the failure of the hook before it. -/
  | global (failure : Option Fault)

namespace Aftermath

variable {σ : Type}

/-- For whom the hooks run. The journal is told of no invocation. -/
def runner (w : Aftermath σ) : Runner := ⟨w.ctx, some w.id, none⟩

/-- Notes the first failure of the hooks. A hook that panics ends them without a note. -/
def conclude (failure : Option Fault) (outcome : Outcome) (s : Service σ) : Service σ :=
  match outcome with
  | .panicked _ => s
  | _ =>
    match failure.or (Dispatcher.faultOf outcome) with
    | some fault =>
      s.note none ⟨.warn, .dispatcher, "After-invoke hook failed on a cancelled invocation",
        [("error", fault.message)]⟩
    | none => s

/-- Goes on with the dispatcher's hook. -/
def goOnGlobal (failure : Option Fault) :
    Progress σ × Service σ → Option (AftermathStage × Pause σ) × Service σ
  | (.ended outcome, s) => (none, conclude failure outcome s)
  | (.paused pause, s) => (some (.global failure, pause), s)

/-- Goes on with the command's own hook. -/
def goOnCommand (d : Dispatcher σ) (w : Aftermath σ) :
    Progress σ × Service σ → Option (AftermathStage × Pause σ) × Service σ
  | (.ended (.panicked _), s) => (none, s)
  | (.ended outcome, s) =>
    goOnGlobal (Dispatcher.faultOf outcome) ((d.hooks.after w.ctx).run w.runner s)
  | (.paused pause, s) => (some (.command, pause), s)

/-- Runs the hooks as far as they get without waiting, and tells what they wait for. -/
def begin (d : Dispatcher σ) (w : Aftermath σ) (s : Service σ) :
    Option (AftermathStage × Pause σ) × Service σ :=
  match w.hook with
  | some hook => w.goOnCommand d ((hook w.ctx).run w.runner s)
  | none => w.goOnCommand d (.ended .done, s)

/-- Takes up the hooks when their wait is over. -/
def resume (d : Dispatcher σ) (w : Aftermath σ) (stage : AftermathStage) (pause : Pause σ)
    (s : Service σ) : Option (AftermathStage × Pause σ) × Service σ :=
  match stage with
  | .command => w.goOnCommand d (pause.resume w.runner s)
  | .global failure => goOnGlobal failure (pause.resume w.runner s)

end Aftermath

end ChatCommands
