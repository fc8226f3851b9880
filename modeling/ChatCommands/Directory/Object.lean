/-!
The objects of a chat service that a command can name: users, members (a user
as seen inside one scope), channels and roles. Each is identified by a number.
-/

namespace ChatCommands

/-- The number that identifies an object. -/
abbrev Id := Nat

/-- A person or a bot. -/
structure User where
  /-- Identifies the user. -/
  id : Id
  /-- The unique name. -/
  name : String
  /-- A name of the user's choice, shown in place of the unique one. -/
  globalName : Option String := none
  /-- Whether a program is behind the account. -/
  bot : Bool := false
  deriving DecidableEq

/-- The name shown to others. -/
def User.displayName (u : User) : String := u.globalName.getD u.name

/-- A user inside one scope. -/
structure Member where
  /-- The user. -/
  user : User
  /-- The scope. -/
  scopeId : Id
  /-- The name used in this scope only. -/
  nick : Option String := none
  /-- The roles held, highest first. -/
  roles : List Id := []
  deriving DecidableEq

/-- The number of the user behind a member. -/
def Member.id (m : Member) : Id := m.user.id

/-- The name shown to others in the scope. -/
def Member.displayName (m : Member) : String := m.nick.getD m.user.displayName

/-- A place where messages are written. -/
structure Channel where
  /-- Identifies the channel. -/
  id : Id
  /-- The name without any sigil. -/
  name : String
  /-- The scope the channel is in; private channels are in none. -/
  scopeId : Option Id := none
  /-- The group of channels it is listed under. -/
  categoryId : Option Id := none
  /-- Whether it is marked as not safe for work. -/
  nsfw : Bool := false
  deriving DecidableEq

/-- A set of members with a name. -/
structure Role where
  /-- Identifies the role. -/
  id : Id
  /-- The name without any sigil. -/
  name : String
  /-- The scope the role is in. -/
  scopeId : Id
  deriving DecidableEq

end ChatCommands
