import ChatCommands.Dispatch.Turn

/-!
A gate with permits: whoever comes takes one or waits for one, first come first
served. A permit that is added goes to the first in line; one that is taken back
from somebody who left goes on to the next. Whoever finds a permit in a turn that
allows nothing more gives way with the permit on its way.
-/

namespace ChatCommands

/-- Permits and those who wait for them. -/
structure Gate where
  /-- Permits nobody waits for. -/
  permits : Nat := 0
  /-- Tickets of those who wait, first come first. -/
  line : List Nat := []
  /-- Tickets whose permit is on its way. -/
  handed : List Nat := []
  /-- The next ticket. -/
  nextTicket : Nat := 0

namespace Gate

/-- Takes a permit, or a ticket to wait with. -/
def enter (g : Gate) (turn : Turn) : Option Nat × Turn × Gate :=
  match g.permits with
  | permits + 1 =>
    if turn.isSpent then
      (some g.nextTicket, turn.giveWay,
        { g with
          permits := permits
          handed := g.handed ++ [g.nextTicket]
          nextTicket := g.nextTicket + 1 })
    else (none, turn.spend, { g with permits := permits })
  | 0 =>
    (some g.nextTicket, turn,
      { g with line := g.line ++ [g.nextTicket], nextTicket := g.nextTicket + 1 })

/-- Adds permits, and tells the tickets they go to. -/
def add (g : Gate) (n : Nat) : List Nat × Gate :=
  let served := g.line.take n
  (served,
    { g with
      permits := g.permits + (n - served.length)
      line := g.line.drop n
      handed := g.handed ++ served })

/-- Takes the permit that went to a ticket. -/
def receive (g : Gate) (ticket : Nat) : Option Gate :=
  if g.handed.contains ticket then some { g with handed := g.handed.erase ticket } else none

/-- Leaves the line. -/
def abandon (g : Gate) (ticket : Nat) : List Nat × Gate :=
  match g.receive ticket with
  | some g => g.add 1
  | none => ([], { g with line := g.line.erase ticket })

end Gate

end ChatCommands
