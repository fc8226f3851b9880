import ChatCommands.Event.Basic
import ChatCommands.Failure.Fault

/-!
Delivery of replies. A mailbox holds as many replies as it has room for until
somebody takes them; a reply to a full mailbox is given up after a while, and
one to a mailbox nobody reads fails at once.
-/

namespace ChatCommands

/-- An answer to an event. -/
structure Reply where
  /-- The channel it goes to. -/
  channelId : Id
  /-- The text. -/
  content : String
  deriving DecidableEq

/-- Replies on their way to a reader. -/
structure Mailbox where
  /-- How many replies fit. -/
  capacity : Nat
  /-- Those not taken yet, oldest first. -/
  queue : List Reply := []
  /-- Whether somebody reads it. -/
  isOpen : Bool := true

/-- Everything replies can go to. -/
structure Post where
  /-- Replies collected in place of sending them. -/
  captured : List Reply := []
  /-- Collected replies that were fetched. -/
  fetched : List Reply := []
  /-- Mailboxes by number. -/
  mailboxes : List Mailbox := []

/-- What became of a reply at once. -/
inductive Delivery where
  /-- It was taken. -/
  | delivered
  /-- Nobody reads the mailbox. -/
  | closed
  /-- There is no room for it. -/
  | full
  deriving DecidableEq

namespace Post

/-- How long a reply waits for room. -/
def patience : Decimal.Duration := 5 * Decimal.Duration.second

/-- Collects a reply. -/
def capture (p : Post) (reply : Reply) : Post := { p with captured := p.captured ++ [reply] }

/-- Fetches the replies that were collected. -/
def fetch (p : Post) : Post := { p with captured := [], fetched := p.fetched ++ p.captured }

/-- Hands a reply over if that is possible at once. -/
def deliver (p : Post) (responder : Responder) (reply : Reply) : Delivery × Post :=
  match responder with
  | .discard => (.delivered, p)
  | .capture => (.delivered, p.capture reply)
  | .mailbox index =>
    match p.mailboxes[index]? with
    | none => (.closed, p)
    | some box =>
      if !box.isOpen then (.closed, p)
      else if box.queue.length < box.capacity then
        (.delivered,
          { p with mailboxes := p.mailboxes.set index { box with queue := box.queue ++ [reply] } })
      else (.full, p)

/-- Sends a reply while nobody takes any: the result and the time it took. -/
def send (p : Post) (responder : Responder) (reply : Reply) :
    Except ReplyError Unit × Decimal.Duration × Post :=
  match p.deliver responder reply with
  | (.delivered, p) => (.ok (), 0, p)
  | (.closed, p) => (.error .closed, 0, p)
  | (.full, p) => (.error (.timeout patience), patience, p)

/-- Takes the oldest reply out of a mailbox. -/
def take (p : Post) (index : Nat) : Option (Reply × Post) :=
  match p.mailboxes[index]? with
  | some box =>
    match box.queue with
    | reply :: rest =>
      some (reply, { p with mailboxes := p.mailboxes.set index { box with queue := rest } })
    | [] => none
  | none => none

/-- Stops reading a mailbox; its replies are lost. -/
def close (p : Post) (index : Nat) : Post :=
  match p.mailboxes[index]? with
  | some box =>
    { p with mailboxes := p.mailboxes.set index { box with queue := [], isOpen := false } }
  | none => p

end Post

end ChatCommands
