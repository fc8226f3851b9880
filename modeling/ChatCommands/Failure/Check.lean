import ChatCommands.Text.Quoted

/-!
Failures of checks: conditions on who may run a command, and where. A group of
checks of which one would suffice fails with the failures of all of them.
-/

namespace ChatCommands

/-- Why a check did not pass. -/
inductive CheckFailure where
  /-- A condition without a failure of its own. -/
  | failed (message : String)
  /-- Every member of an any-of group failed. -/
  | checkAny (errors : List CheckFailure)
  /-- The author does not own the agent. -/
  | notOwner
  /-- Permissions are missing in the channel. -/
  | missingPermissions (missing : List String)
  /-- A role is missing. -/
  | missingRole (role : String)
  /-- All of several roles are missing. -/
  | missingAnyRole (roles : List String)
  /-- The command does not work in conversations of two. -/
  | noPrivateMessage
  /-- The command works in conversations of two only. -/
  | privateMessageOnly
  /-- The channel is not marked as not safe for work. -/
  | nsfwChannelRequired (channel : String)

namespace CheckFailure

/-- The failure of a condition that gives no reason. -/
def unexplained : CheckFailure := .failed "the check functions for this command failed"

/-- What the user is told. -/
def message : CheckFailure → String
  | .failed message => message
  | .checkAny _ => "you do not have permission to run this command"
  | .notOwner => "you do not own this bot"
  | .missingPermissions missing =>
    "you are missing " ++ ", ".intercalate missing ++ " permission(s) to run this command"
  | .missingRole role => "role " ++ Text.quoted role ++ " is required to run this command"
  | .missingAnyRole roles =>
    "you are missing at least one of the required roles: " ++ ", ".intercalate roles
  | .noPrivateMessage => "this command cannot be used in private messages"
  | .privateMessageOnly => "this command can only be used in private messages"
  | .nsfwChannelRequired channel =>
    "channel " ++ Text.quoted channel ++ " needs to be NSFW for this command to work"

/-- The kind of the failure, as counted and recorded. -/
def code : CheckFailure → String
  | .failed _ => "check_failure"
  | .checkAny _ => "check_any_failure"
  | .notOwner => "not_owner"
  | .missingPermissions _ => "missing_permissions"
  | .missingRole _ => "missing_role"
  | .missingAnyRole _ => "missing_any_role"
  | .noPrivateMessage => "no_private_message"
  | .privateMessageOnly => "private_message_only"
  | .nsfwChannelRequired _ => "nsfw_channel_required"

end CheckFailure

end ChatCommands
