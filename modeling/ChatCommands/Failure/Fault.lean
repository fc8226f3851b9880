import ChatCommands.Decimal.Fixed

/-!
Failures of code that a command brings along: a text and the texts of its
causes, outermost first. A reply that cannot be delivered is such a failure
too.
-/

namespace ChatCommands

/-- A failure and what caused it. -/
structure Fault where
  /-- What failed. -/
  message : String
  /-- Its causes, the direct one first. -/
  causes : List String := []
  deriving DecidableEq

namespace Fault

/-- The failure followed by its causes. -/
def chain (f : Fault) : List String := f.message :: f.causes

/-- The failure and its causes in one line. -/
def text (f : Fault) : String := ": ".intercalate f.chain

end Fault

/-- Why a reply was not delivered. -/
inductive ReplyError where
  /-- Nobody reads the mailbox any more. -/
  | closed
  /-- The mailbox stayed full for the whole time. -/
  | timeout (waited : Decimal.Duration)
  deriving DecidableEq

namespace ReplyError

/-- What the failure says. -/
def message : ReplyError → String
  | .closed => "reply channel closed"
  | .timeout waited => "reply timed out after " ++ Decimal.Duration.exact waited

/-- The failure of a body that gives up when a reply fails. -/
def toFault (e : ReplyError) : Fault := ⟨e.message, []⟩

end ReplyError

end ChatCommands
