import ChatCommands.Directory.Basic
import ChatCommands.Event.Basic
import ChatCommands.Text.Quoted

/-!
The context of one invocation: the event, what was resolved from its text, and
what checks and converters may ask. It is complete before any check runs and
does not change afterwards.
-/

namespace ChatCommands

/-- What one invocation knows about itself. -/
structure Context where
  /-- Numbers the invocation in records. -/
  serial : Nat := 0
  /-- Who wrote the event. -/
  author : Author
  /-- Where it was written. -/
  origin : Origin
  /-- The whole text. -/
  content : String
  /-- Where replies go. -/
  responder : Responder
  /-- Answers questions about users, members, channels and roles. -/
  directory : Directory
  /-- The owners of the agent. -/
  owners : List Id := []
  /-- The start of the text that addressed the agent. -/
  lead : String := ""
  /-- The qualified name of the resolved command. -/
  command : Option String := none
  /-- The name or alias the command was invoked with. -/
  invokedWith : Option String := none
  /-- The words its ancestors were invoked with, outermost first. -/
  invokedParents : List String := []
  /-- The text after the command's name. -/
  remaining : String := ""

namespace Context

/-- The context of an event before anything is resolved. -/
def ofEvent (e : Event) (directory : Directory) (owners : List Id) : Context where
  author := e.author
  origin := e.origin
  content := e.content
  responder := e.responder
  directory := directory
  owners := owners

/-- Whether the author owns the agent. -/
def isOwner (ctx : Context) : Bool := ctx.owners.contains ctx.author.id

/-- The scope the invocation is in. -/
def scope (ctx : Context) : Option Id := ctx.origin.scopeId

/-- The command's qualified name, or a dash. -/
def commandName (ctx : Context) : String := ctx.command.getD "-"

/-- A number as 32 hexadecimal digits in groups of 8, 4, 4, 4 and 12. -/
def serialText (n : Nat) : String :=
  let digits := Nat.toDigits 16 n
  let padded := List.replicate (32 - digits.length) '0' ++ digits
  let part (start count : Nat) : String := String.ofList ((padded.drop start).take count)
  "-".intercalate [part 0 8, part 8 4, part 12 4, part 16 4, part 20 12]

/-- A short record of the context. -/
def summary (ctx : Context) : String :=
  let command := match ctx.command with
    | some name => "Some(" ++ Text.quoted name ++ ")"
    | none => "None"
  "Context \x7b id: " ++ serialText ctx.serial ++ ", author: " ++ toString ctx.author.id ++
    ", scope: " ++ ctx.origin.kind.title ++ ", command: " ++ command ++
    ", remaining: " ++ Text.quoted ctx.remaining ++ ", .. \x7d"

end Context

end ChatCommands
