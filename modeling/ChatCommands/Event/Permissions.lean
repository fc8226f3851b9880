/-!
Permissions as a mask of 64 bits, ten of which have names. A requirement is
granted when all its bits are, and to administrators in any case; what is
missing is told by name, so a missing bit without a name is never told.
-/

namespace ChatCommands

/-- A set of permissions. -/
structure Permissions where
  /-- One bit for each permission. -/
  bits : BitVec 64
  deriving DecidableEq

namespace Permissions

/-- No permission. -/
def none : Permissions := ⟨0⟩

/-- Implies every other permission. -/
def administrator : Permissions := ⟨1 <<< 3⟩

/-- The permissions with names, and the positions of their bits, lowest first. -/
def named : List (String × Nat) := [
  ("kick_members", 1), ("ban_members", 2), ("administrator", 3), ("manage_channels", 4),
  ("manage_scope", 5), ("send_messages", 11), ("manage_messages", 13), ("mention_everyone", 17),
  ("manage_nicknames", 27), ("manage_roles", 28)]

/-- The permission with a name alone. -/
def ofName? (name : String) : Option Permissions :=
  (named.lookup name).map fun position => ⟨1 <<< position⟩

/-- Everything in either set. -/
def union (p q : Permissions) : Permissions := ⟨p.bits ||| q.bits⟩

/-- The permissions with any of the names; a name that none has adds nothing. -/
def ofNames (names : List String) : Permissions := (names.filterMap ofName?).foldl union none

/-- Whether every bit of `q` is in `p`. -/
def contains (p q : Permissions) : Bool := p.bits &&& q.bits == q.bits

/-- Whether `required` is granted to a holder of `p`. -/
def grants (p required : Permissions) : Bool := p.contains administrator || p.contains required

/-- What is in `p` and not in `q`. -/
def without (p q : Permissions) : Permissions := ⟨p.bits &&& ~~~q.bits⟩

/-- The names of the bits that are set, lowest first. -/
def names (p : Permissions) : List String :=
  (named.filter fun entry => p.bits.getLsbD entry.2).map (·.1)

/-- The names of required permissions that a holder of `p` lacks. -/
def missing (p required : Permissions) : List String :=
  if p.grants required then [] else (required.without p).names

end Permissions

end ChatCommands
