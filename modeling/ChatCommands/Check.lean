import ChatCommands.Event.Context
import ChatCommands.Failure.Check

/-!
Checks: conditions on an invocation that must hold before a command runs. A
check is a single test or a group of which one member must pass; a list of
checks passes when all do, and stops at the first that does not. How a test is
put to the invocation is open (`evaluateBy`), so that what an evaluation asks
can be told apart from its answer.
-/

namespace ChatCommands

/-- A condition on an invocation that stands on its own. -/
abbrev CheckTest := Context → Except CheckFailure Unit

/-- A condition on an invocation. -/
inductive Check where
  /-- A test of its own. -/
  | one (test : CheckTest)
  /-- Passes when a member passes. -/
  | any (members : List Check)

namespace Check

section Asking
variable {m : Type → Type} [Monad m] (ask : CheckTest → m (Except CheckFailure Unit))

mutual

/-- Whether a check passes, by asking the tests in it. -/
def evaluateBy : Check → m (Except CheckFailure Unit)
  | .one test => ask test
  | .any members => do
    match ← evaluateAnyBy members with
    | none => return .ok ()
    | some errors => return .error (.checkAny errors)

/-- The failures of all members, unless one passes. -/
def evaluateAnyBy : List Check → m (Option (List CheckFailure))
  | [] => return some []
  | check :: rest => do
    match ← evaluateBy check with
    | .ok () => return none
    | .error e => return (← evaluateAnyBy rest).map (e :: ·)

end

/-- Whether all checks pass, in order. -/
def evaluateAllBy : List Check → m (Except CheckFailure Unit)
  | [] => return .ok ()
  | check :: rest => do
    match ← evaluateBy ask check with
    | .ok () => evaluateAllBy rest
    | .error e => return .error e

end Asking

/-- Whether a check passes. -/
def evaluate (check : Check) (ctx : Context) : Except CheckFailure Unit :=
  Id.run (check.evaluateBy fun test => pure (test ctx))

/-- The failures of all members, unless one passes. -/
def evaluateAny (members : List Check) (ctx : Context) : Option (List CheckFailure) :=
  Id.run (evaluateAnyBy (fun test => pure (test ctx)) members)

/-- Whether all checks pass, in order. -/
def evaluateAll (checks : List Check) (ctx : Context) : Except CheckFailure Unit :=
  Id.run (evaluateAllBy (fun test => pure (test ctx)) checks)

section Evaluation
variable {ctx : Context} {check : Check} {rest members : List Check}

@[simp] theorem evaluate_one (test : CheckTest) : (one test).evaluate ctx = test ctx := rfl

@[simp] theorem evaluate_any :
    (any members).evaluate ctx =
      match evaluateAny members ctx with
      | none => .ok ()
      | some errors => .error (.checkAny errors) := by
  rw [evaluate, evaluateBy, evaluateAny]
  simp only [Id.run, bind]
  split <;> rfl

@[simp] theorem evaluateAny_nil : evaluateAny [] ctx = some [] := rfl

@[simp] theorem evaluateAny_cons :
    evaluateAny (check :: rest) ctx =
      match check.evaluate ctx with
      | .ok () => none
      | .error e => (evaluateAny rest ctx).map (e :: ·) := by
  rw [evaluateAny, evaluateAnyBy, evaluate]
  simp only [Id.run, bind]
  split <;> rfl

@[simp] theorem evaluateAll_nil : evaluateAll [] ctx = .ok () := rfl

@[simp] theorem evaluateAll_cons :
    evaluateAll (check :: rest) ctx =
      match check.evaluate ctx with
      | .ok () => evaluateAll rest ctx
      | .error e => .error e := by
  rw [evaluateAll, evaluateAllBy, evaluate]
  simp only [Id.run, bind]
  split <;> rfl

theorem evaluateAll_eq_ok_iff (checks : List Check) (ctx : Context) :
    evaluateAll checks ctx = .ok () ↔ ∀ check ∈ checks, check.evaluate ctx = .ok () := by
  induction checks with
  | nil => simp
  | cons check rest ih =>
    cases passes : check.evaluate ctx with
    | ok => simp [passes, ih]
    | error failure => simp [passes]

/-- A list fails as its first failing check does. -/
theorem evaluateAll_eq_error_iff {checks : List Check} {failure : CheckFailure} :
    evaluateAll checks ctx = .error failure ↔
      ∃ passed check rest, checks = passed ++ check :: rest ∧
        (∀ other ∈ passed, other.evaluate ctx = .ok ()) ∧ check.evaluate ctx = .error failure := by
  constructor
  · intro failed
    induction checks with
    | nil => contradiction
    | cons check rest ih =>
      rw [evaluateAll_cons] at failed
      cases answer : check.evaluate ctx with
      | error e =>
        rw [answer] at failed
        cases failed
        exact ⟨[], check, rest, rfl, by simp, answer⟩
      | ok =>
        rw [answer] at failed
        obtain ⟨passed, first, later, rfl, passes, fails⟩ := ih failed
        exact ⟨check :: passed, first, later, rfl, List.forall_mem_cons.2 ⟨answer, passes⟩, fails⟩
  · rintro ⟨passed, check, rest, rfl, passes, fails⟩
    induction passed with
    | nil => simp [fails]
    | cons first others ih =>
      obtain ⟨passesFirst, passesOthers⟩ := List.forall_mem_cons.1 passes
      simpa [passesFirst] using ih passesOthers

end Evaluation

mutual

/-- A check as records show it. -/
def inspect : Check → String
  | .one _ => "Check(..)"
  | .any members => "Any([" ++ ", ".intercalate (inspectAll members) ++ "])"

/-- Checks as records show them. -/
def inspectAll : List Check → List String
  | [] => []
  | check :: rest => check.inspect :: inspectAll rest

end

/-- A check that passes when a condition holds. -/
def ofTest (test : Context → Bool) (failure : CheckFailure) : Check :=
  .one fun ctx => if test ctx then .ok () else .error failure

/-- A condition that gives no reason of its own. -/
def custom (test : Context → Bool) : Check := ofTest test .unexplained

/-- Always fails with a reason. -/
def refusal (message : String) : Check := ofTest (fun _ => false) (.failed message)

/-- The author owns the agent. -/
def isOwner : Check := ofTest Context.isOwner .notOwner

end Check

/-- A role named by number or by name. -/
inductive RoleRef where
  /-- By number. -/
  | byId (id : Id)
  /-- By name. -/
  | byName (name : String)

namespace RoleRef

/-- The role as failures tell it. -/
def display : RoleRef → String
  | .byId id => toString id
  | .byName name => name

/-- Whether the author of an invocation in a scope holds the role. -/
def heldIn (role : RoleRef) (ctx : Context) (scope : Id) : Bool :=
  match role with
  | .byId id => ctx.author.roles.contains id
  | .byName name =>
    (ctx.directory.roles scope).any fun r => r.name == name && ctx.author.roles.contains r.id

end RoleRef

namespace Check

/-- The author holds a role. -/
def hasRole (role : RoleRef) : Check :=
  .one fun ctx =>
    match ctx.scope with
    | none => .error .noPrivateMessage
    | some scope =>
      if role.heldIn ctx scope then .ok () else .error (.missingRole role.display)

/-- The author holds one of several roles. -/
def hasAnyRole (roles : List RoleRef) : Check :=
  .one fun ctx =>
    match ctx.scope with
    | none => .error .noPrivateMessage
    | some scope =>
      if roles.any fun role => role.heldIn ctx scope then .ok ()
      else .error (.missingAnyRole (roles.map RoleRef.display))

/-- The author has permissions in the origin channel. -/
def hasPermissions (required : Permissions) : Check :=
  .one fun ctx =>
    let missing := ctx.author.permissions.missing required
    if missing.isEmpty then .ok () else .error (.missingPermissions missing)

/-- The invocation comes from a kind of place. -/
def originOnly (wanted : OriginKind) : Check :=
  ofTest (fun ctx => ctx.origin.kind == wanted)
    (if wanted == .direct then .privateMessageOnly else .noPrivateMessage)

/-- Only in a shared space. -/
def sharedOnly : Check := originOnly .shared

/-- Only in a conversation of two. -/
def directOnly : Check := originOnly .direct

/-- Only in a conversation of two or in a channel marked as not safe for work. -/
def isNsfw : Check :=
  .one fun ctx =>
    if ctx.origin.isDirect || ctx.origin.channel.nsfw then .ok ()
    else .error (.nsfwChannelRequired ctx.origin.channel.name)

end Check

end ChatCommands
