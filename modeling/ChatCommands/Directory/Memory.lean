import ChatCommands.Directory.Basic

/-!
A directory kept in memory. Its tables are sorted by the objects' own numbers
and hold one object for each number, so every listing comes in ascending order;
adding an object whose number is taken replaces the old one (`mem_put`).
-/

namespace ChatCommands

namespace Memory

/-- The order of a table's keys: by scope, then by number. -/
def keyBefore (a b : Id × Id) : Bool := a.1 < b.1 || (a.1 == b.1 && a.2 < b.2)

/-- Puts `x` at its place in a sorted table, in place of an object with the same key. -/
def put {α : Type} (key : α → Id × Id) (x : α) : List α → List α
  | [] => [x]
  | y :: rest =>
    if keyBefore (key x) (key y) then x :: y :: rest
    else if key x == key y then x :: rest
    else y :: put key x rest

theorem mem_put {α : Type} {key : α → Id × Id} {x y : α} {table : List α} :
    y ∈ put key x table → y = x ∨ y ∈ table := by
  induction table with
  | nil => simp [put]
  | cons z rest ih =>
    unfold put
    split
    · simp
    · split
      · intro member
        rcases List.mem_cons.1 member with same | later
        · exact .inl same
        · exact .inr (List.mem_cons_of_mem _ later)
      · intro member
        rcases List.mem_cons.1 member with same | later
        · exact .inr (same ▸ List.mem_cons_self)
        · rcases ih later with same | old
          · exact .inl same
          · exact .inr (List.mem_cons_of_mem _ old)

end Memory

/-- A directory kept in memory. -/
structure MemoryDirectory where
  /-- Users by number. -/
  users : List User := []
  /-- Members by scope and user's number. -/
  members : List Member := []
  /-- Channels by number. -/
  channels : List Channel := []
  /-- Roles by number. -/
  roles : List Role := []

namespace MemoryDirectory

/-- Adds a user. -/
def addUser (d : MemoryDirectory) (u : User) : MemoryDirectory :=
  { d with users := Memory.put (fun u => (0, u.id)) u d.users }

/-- Adds a member and the user behind it. -/
def addMember (d : MemoryDirectory) (m : Member) : MemoryDirectory :=
  { d.addUser m.user with members := Memory.put (fun m => (m.scopeId, m.id)) m d.members }

/-- Adds a channel. -/
def addChannel (d : MemoryDirectory) (c : Channel) : MemoryDirectory :=
  { d with channels := Memory.put (fun c => (0, c.id)) c d.channels }

/-- Adds a role. -/
def addRole (d : MemoryDirectory) (r : Role) : MemoryDirectory :=
  { d with roles := Memory.put (fun r => (0, r.id)) r d.roles }

/-- The user with a number. -/
def user (d : MemoryDirectory) (id : Id) : Option User := d.users.find? (·.id == id)

/-- The member of a scope with a user's number. -/
def member (d : MemoryDirectory) (scope id : Id) : Option Member :=
  d.members.find? fun m => m.scopeId == scope && m.id == id

/-- Removes a user and all its memberships. -/
def removeUser (d : MemoryDirectory) (id : Id) : MemoryDirectory :=
  { d with
    users := d.users.filter (·.id != id)
    members := d.members.filter (·.id != id) }

/-- What the tables answer. -/
def toDirectory (d : MemoryDirectory) : Directory :=
  { Directory.ofLists d.users d.members d.channels d.roles with
    user := d.user
    member := d.member }

end MemoryDirectory

end ChatCommands
