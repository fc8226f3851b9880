import ChatCommands.Directory.Object
import ChatCommands.Event.Permissions

/-!
What arrives from the chat service: a text, who wrote it, where, and a way to
answer.
-/

namespace ChatCommands

/-- The kinds of places an event can come from. -/
inductive OriginKind where
  /-- A shared space with members, channels and roles. -/
  | shared
  /-- A conversation of two. -/
  | direct
  /-- A shared space with limited visibility. -/
  | restricted
  deriving DecidableEq

namespace OriginKind

/-- The name used in records and bucket keys. -/
def name : OriginKind → String
  | .shared => "generic"
  | .direct => "private"
  | .restricted => "restricted"

/-- The name with a capital. -/
def title : OriginKind → String
  | .shared => "Generic"
  | .direct => "Private"
  | .restricted => "Restricted"

end OriginKind

/-- Who wrote an event. -/
structure Author where
  /-- Identifies the author. -/
  id : Id
  /-- The author's name. -/
  name : String
  /-- Whether a program wrote it. -/
  bot : Bool := false
  /-- The roles held in the origin scope, highest first. -/
  roles : List Id := []
  /-- The permissions held in the origin channel. -/
  permissions : Permissions := Permissions.none

/-- Where an event was written. -/
structure Origin where
  /-- The kind of place. -/
  kind : OriginKind
  /-- The scope, absent in conversations of two. -/
  scopeId : Option Id
  /-- The channel. -/
  channel : Channel

/-- Whether the event was written in a conversation of two. -/
def Origin.isDirect (o : Origin) : Bool := o.kind == .direct

/-- Where replies to an event go. -/
inductive Responder where
  /-- Nowhere. -/
  | discard
  /-- Into the collection of captured replies. -/
  | capture
  /-- Into the mailbox with a number. -/
  | mailbox (index : Nat)
  deriving DecidableEq

/-- An inbound message. -/
structure Event where
  /-- Who wrote it. -/
  author : Author
  /-- Where it was written. -/
  origin : Origin
  /-- The whole text. -/
  content : String
  /-- Where replies go. -/
  responder : Responder

end ChatCommands
