import ChatCommands.Limit.Table

/-!
Counters of events, invocations and failures, and their exposition as lines of
text. A family without any counted label is left out; labels are listed in
ascending order of their values.
-/

namespace ChatCommands

/-- The counters. -/
structure Metrics where
  /-- Events received. -/
  events : Nat := 0
  /-- Failures of error handlers. -/
  handlerFailures : Nat := 0
  /-- Invocations that came as far as the hooks around the body, by command. -/
  commands : Table String Nat := []
  /-- Failures by command and kind. -/
  errors : Table (String × String) Nat := []
  /-- Invocations denied by a cooldown, by command. -/
  denied : Table String Nat := []
  /-- Invocations that found no slot, by command. -/
  rejected : Table String Nat := []

namespace Metrics

/-- How often a key was counted. -/
def count {κ : Type} [DecidableEq κ] (t : Table κ Nat) (k : κ) : Nat := (t.get? k).getD 0

/-- Counts a key once more. -/
def bump {κ : Type} [DecidableEq κ] (t : Table κ Nat) (k : κ) : Table κ Nat :=
  t.set k (count t k + 1)

/-- Counts an event. -/
def event (m : Metrics) : Metrics := { m with events := m.events + 1 }

/-- Counts a failure of an error handler. -/
def handlerFailure (m : Metrics) : Metrics := { m with handlerFailures := m.handlerFailures + 1 }

/-- Counts an invocation. -/
def command (m : Metrics) (name : String) : Metrics :=
  { m with commands := bump m.commands name }

/-- Counts a failure. -/
def error (m : Metrics) (name kind : String) : Metrics :=
  { m with errors := bump m.errors (name, kind) }

/-- Counts a denial by a cooldown. -/
def denial (m : Metrics) (name : String) : Metrics := { m with denied := bump m.denied name }

/-- Counts a rejection for want of a slot. -/
def rejection (m : Metrics) (name : String) : Metrics :=
  { m with rejected := bump m.rejected name }

theorem count_bump {κ : Type} [DecidableEq κ] (t : Table κ Nat) (k l : κ) :
    count (bump t k) l = if k = l then count t k + 1 else count t l := by
  unfold count bump
  rw [Table.get?_set]
  split <;> rfl

/-- A label's value inside quotation marks. -/
def labelValue (s : String) : String :=
  String.ofList (s.toList.flatMap fun c =>
    if c == '\n' then ['\\', 'n'] else if c == '\\' || c == '"' then ['\\', c] else [c])

/-- A label with its value. -/
def label (name value : String) : String := name ++ "=\"" ++ labelValue value ++ "\""

/-- A counter without labels. -/
structure Family where
  /-- The name of the family. -/
  name : String
  /-- What is counted. -/
  help : String
  /-- How it is counted. -/
  kind : String := "counter"
  /-- What is put after the name on a counter's line. -/
  suffix : String := ""
  /-- The counters by their labels. -/
  rows : List (String × Nat)

/-- The lines of a family, none if it has no counters. -/
def Family.lines (f : Family) : List String :=
  if f.rows.isEmpty then []
  else
    ["# HELP " ++ f.name ++ " " ++ f.help, "# TYPE " ++ f.name ++ " " ++ f.kind] ++
      f.rows.map fun r => f.name ++ f.suffix ++ r.1 ++ " " ++ toString r.2

/-- Counters by one label. -/
def byCommand (t : Table String Nat) : List (String × Nat) :=
  (t.mergeSort fun a b => a.1 ≤ b.1).map fun e => ("\x7b" ++ label "command" e.1 ++ "\x7d", e.2)

/-- Counters by two labels. -/
def byCommandAndKind (t : Table (String × String) Nat) : List (String × Nat) :=
  let before (a b : (String × String) × Nat) : Bool :=
    a.1.1 < b.1.1 || (a.1.1 == b.1.1 && a.1.2 ≤ b.1.2)
  (t.mergeSort before).map fun e =>
    ("\x7b" ++ label "command" e.1.1 ++ "," ++ label "kind" e.1.2 ++ "\x7d", e.2)

/-- All families in ascending order of their names. -/
def families (m : Metrics) : List Family := [
  { name := "dispatch_command_duration_seconds", help := "Command latency by name"
    kind := "histogram", suffix := "_count", rows := byCommand m.commands },
  { name := "dispatch_command_errors_total", help := "Command errors by name and kind"
    rows := byCommandAndKind m.errors },
  { name := "dispatch_command_total", help := "Commands invoked by name"
    rows := byCommand m.commands },
  { name := "dispatch_concurrency_rejected_total"
    help := "Invocations rejected by a concurrency limit", rows := byCommand m.rejected },
  { name := "dispatch_cooldown_denied_total", help := "Invocations denied by a cooldown"
    rows := byCommand m.denied },
  { name := "dispatch_error_handler_failures_total"
    help := "Failures raised inside error handlers", rows := [("", m.handlerFailures)] },
  { name := "dispatch_events_total", help := "Events received by the dispatcher"
    rows := [("", m.events)] }]

/-- The exposition of all counters. -/
def lines (m : Metrics) : List String := m.families.flatMap Family.lines

end Metrics

end ChatCommands
