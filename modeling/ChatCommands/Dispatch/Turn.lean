/-!
Turns. A task that has its turn goes on until it ends or has to wait. It does
not keep the others waiting for ever: a turn allows so many operations that could
have made the task wait, and a task that comes to the next one gives way, and
goes on with it in another turn.
-/

namespace ChatCommands

/-- How many operations that could have made the task wait a turn allows. -/
def turnAllowance : Nat := 128

/-- A turn of a task. -/
structure Turn where
  /-- How many operations that could have made the task wait are still allowed. -/
  left : Nat := turnAllowance
  /-- Whether the task gives way. -/
  givesWay : Bool := false
  deriving DecidableEq

namespace Turn

/-- Whether nothing is allowed any more. -/
def isSpent (t : Turn) : Bool := t.left == 0

/-- The turn after an operation that did not make the task wait. -/
def spend (t : Turn) : Turn := { t with left := t.left - 1 }

/-- The turn of a task that gives way. -/
def giveWay (t : Turn) : Turn := { t with givesWay := true }

end Turn

end ChatCommands
