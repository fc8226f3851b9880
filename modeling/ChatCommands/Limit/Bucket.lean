import ChatCommands.Event.Context

/-!
Buckets: how invocations are partitioned for limits. A limit counts the
invocations of each bucket on their own; the key of an invocation's bucket is
derived from its context.
-/

namespace ChatCommands

/-- How invocations are partitioned. -/
inductive Bucket where
  /-- All together. -/
  | everyone
  /-- By author. -/
  | user
  /-- By scope, and by author in conversations of two. -/
  | scope
  /-- By channel. -/
  | channel
  /-- By author within a scope. -/
  | member
  /-- By category of the channel, or by channel where there is none. -/
  | category
  /-- By the author's highest role, and by channel in conversations of two. -/
  | role
  /-- By a key of its own. -/
  | custom (name : String) (key : Context → String)

/-- The key of a bucket. -/
inductive BucketKey where
  /-- The only bucket. -/
  | everyone
  /-- An author. -/
  | user (id : Id)
  /-- A scope. -/
  | scope (id : Id)
  /-- A channel. -/
  | channel (id : Id)
  /-- An author within a scope, if any. -/
  | member (scope : Option Id) (user : Id)
  /-- A category of channels. -/
  | category (id : Id)
  /-- A role. -/
  | role (id : Id)
  /-- A key of its own. -/
  | custom (key : String)
  deriving DecidableEq

namespace Bucket

/-- The name of a partition. -/
def name : Bucket → String
  | .everyone => "default"
  | .user => "user"
  | .scope => "scope"
  | .channel => "channel"
  | .member => "member"
  | .category => "category"
  | .role => "role"
  | .custom name _ => name

/-- A partition as records show it. -/
def inspect : Bucket → String
  | .custom name _ => "Custom(" ++ Text.quoted name ++ ")"
  | bucket => bucket.name

/-- The key of an invocation's bucket. Everyone in a scope holds the role with the scope's own
number, which stands in for authors without roles. -/
def key (bucket : Bucket) (ctx : Context) : BucketKey :=
  let channel := ctx.origin.channel
  match bucket with
  | .everyone => .everyone
  | .user => .user ctx.author.id
  | .scope =>
    match ctx.scope with
    | some home => if ctx.origin.isDirect then .user ctx.author.id else .scope home
    | none => .user ctx.author.id
  | .channel => .channel channel.id
  | .member => .member ctx.scope ctx.author.id
  | .category => .category (channel.categoryId.getD channel.id)
  | .role =>
    if ctx.origin.isDirect then .channel channel.id
    else .role ((ctx.author.roles.head?.or ctx.scope).getD channel.id)
  | .custom _ key => .custom (key ctx)

end Bucket

/-- A key as records show it. -/
def BucketKey.inspect : BucketKey → String
  | .everyone => "Global"
  | .user id => "User(" ++ toString id ++ ")"
  | .scope id => "Scope(" ++ toString id ++ ")"
  | .channel id => "Channel(" ++ toString id ++ ")"
  | .member home author =>
    let shown := match home with
      | some id => "Some(" ++ toString id ++ ")"
      | none => "None"
    "Member(" ++ shown ++ ", " ++ toString author ++ ")"
  | .category id => "Category(" ++ toString id ++ ")"
  | .role id => "Role(" ++ toString id ++ ")"
  | .custom key => "Custom(" ++ Text.quoted key ++ ")"

end ChatCommands
