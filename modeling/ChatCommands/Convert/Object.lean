import ChatCommands.Convert.Basic
import ChatCommands.Convert.Name

/-!
Converters of users, members, channels and roles. A number or a mention is
looked up and never taken for a name; any other text is matched against the
names that can be seen. Members and roles exist only inside a scope, and a
conversation of two knows no channel but its own.
-/

namespace ChatCommands.Convert

/-- What precedes the number in a mention of a user. -/
def userSigils : List String := ["@", "@!"]

/-- What precedes the number in a mention of a channel. -/
def channelSigils : List String := ["#"]

/-- What precedes the number in a mention of a role. -/
def roleSigils : List String := ["@&"]

/-- A found object as a value, or the failure that says it was not found. -/
def found {α : Type} (wrap : α → Value) (notFound : UserInputError) :
    Option α → Except ConvertFailure Value
  | some x => .ok (wrap x)
  | none => .error (.input notFound)

/-- The names a user goes by. -/
def userNames (u : User) : List String := u.name :: u.globalName.toList

/-- The names a member goes by. -/
def memberNames (m : Member) : List String :=
  m.user.name :: (m.nick.toList ++ m.user.globalName.toList)

/-- A user. -/
def user : Converter := fun ctx argument =>
  found .user (.userNotFound argument) <|
    match readId? userSigils argument with
    | some id => ctx.directory.user id
    | none => matchName? userNames ctx.directory.users argument

/-- A member of the origin scope. -/
def member : Converter := fun ctx argument =>
  found .member (.memberNotFound argument) <|
    match ctx.scope with
    | none => none
    | some scope =>
      match readId? userSigils argument with
      | some id => ctx.directory.member scope id
      | none => matchName? memberNames (ctx.directory.members scope) argument

/-- A name with one leading number sign taken off. -/
def withoutHash (argument : String) : String :=
  match argument.toList with
  | '#' :: rest => String.ofList rest
  | _ => argument

/-- A channel of the origin scope, or the channel of a conversation of two. -/
def channel : Converter := fun ctx argument =>
  found .channel (.channelNotFound argument) <|
    match ctx.scope with
    | none =>
      if readId? channelSigils argument == some ctx.origin.channel.id then some ctx.origin.channel
      else none
    | some scope =>
      match readId? channelSigils argument with
      | some id => ctx.directory.channel scope id
      | none =>
        matchName? (fun c => [c.name]) (ctx.directory.channels scope) (withoutHash argument)

/-- A role of the origin scope. -/
def role : Converter := fun ctx argument =>
  found .role (.roleNotFound argument) <|
    match ctx.scope with
    | none => none
    | some scope =>
      match readId? roleSigils argument with
      | some id => ctx.directory.role scope id
      | none => matchName? (fun r => [r.name]) (ctx.directory.roles scope) argument

end ChatCommands.Convert
