import ChatCommands.Directory.Object

/-!
A directory answers what can be seen: all users, and the members, channels and
roles of a scope. A directory that only lists its objects finds one by searching
the listing (`Directory.ofListings`).
-/

namespace ChatCommands

/-- What converters and checks ask about users, members, channels and roles. -/
structure Directory where
  /-- Every user that can be seen. -/
  users : List User
  /-- The members of a scope. -/
  members : Id → List Member
  /-- The channels of a scope. -/
  channels : Id → List Channel
  /-- The roles of a scope. -/
  roles : Id → List Role
  /-- The user with a number. -/
  user : Id → Option User
  /-- The member of a scope with a user's number. -/
  member : Id → Id → Option Member
  /-- The channel of a scope with a number. -/
  channel : Id → Id → Option Channel
  /-- The role of a scope with a number. -/
  role : Id → Id → Option Role

namespace Directory

/-- The directory that searches its listings. -/
def ofListings (users : List User) (members : Id → List Member) (channels : Id → List Channel)
    (roles : Id → List Role) : Directory where
  users := users
  members := members
  channels := channels
  roles := roles
  user id := users.find? (·.id == id)
  member scope id := (members scope).find? (·.id == id)
  channel scope id := (channels scope).find? (·.id == id)
  role scope id := (roles scope).find? (·.id == id)

/-- The directory of given objects, listed in the given order. -/
def ofLists (users : List User) (members : List Member) (channels : List Channel)
    (roles : List Role) : Directory :=
  ofListings users
    (fun scope => members.filter (·.scopeId == scope))
    (fun scope => channels.filter (·.scopeId == some scope))
    (fun scope => roles.filter (·.scopeId == scope))

end Directory

end ChatCommands
