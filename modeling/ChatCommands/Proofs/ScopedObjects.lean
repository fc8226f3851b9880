import ChatCommands.Check
import ChatCommands.Convert.Object
import ChatCommands.Directory.Memory
import Mathlib.Data.List.Sort
import Mathlib.Tactic.SplitIfs

/-! What a scope shows. The tables of a directory in memory stay sorted with one object for a key,
so what is listed of a scope depends on which objects of that scope there are, and on nothing else.
Converters and checks see a scope through its listings only (`scope_isolated`). -/
namespace ChatCommands.ScopedObjects
open Memory MemoryDirectory

/-! ## Sorted tables -/

section Tables
variable {α : Type} {key : α → Nat × Nat} {x y z : α} {table other : List α}

/-- One object stands before another in a table. -/
def Before (key : α → Nat × Nat) (x y : α) : Prop := keyBefore (key x) (key y) = true

theorem before_iff : Before key x y ↔
    (key x).1 < (key y).1 ∨ (key x).1 = (key y).1 ∧ (key x).2 < (key y).2 := by
  simp [Before, keyBefore]

instance : Std.Irrefl (Before key) where
  irrefl x := by
    intro before
    rw [before_iff] at before
    omega

instance : Std.Antisymm (Before key) where
  antisymm x y := by
    intro before after
    rw [before_iff] at before after
    omega

theorem before_trans (first : Before key x y) (second : Before key y z) : Before key x z := by
  rw [before_iff] at first second ⊢
  omega

theorem before_of_key (same : key x = key y) (before : Before key y z) :
    Before key x z := by
  rw [before_iff] at before ⊢
  rwa [same]

theorem before_of_not (notBefore : ¬ Before key x y) (differ : key x ≠ key y) : Before key y x := by
  rw [before_iff] at notBefore ⊢
  have parts : (key x).1 ≠ (key y).1 ∨ (key x).2 ≠ (key y).2 := by
    by_contra same
    rw [not_or, not_not, not_not] at same
    exact differ (Prod.ext same.1 same.2)
  omega

/-- Putting an object into a sorted table leaves it sorted. -/
theorem sorted_put (x : α) (sorted : table.Pairwise (Before key)) :
    (put key x table).Pairwise (Before key) := by
  induction table with
  | nil => exact List.pairwise_singleton _ x
  | cons y table ih =>
    obtain ⟨first, rest⟩ := List.pairwise_cons.1 sorted
    unfold put
    split_ifs with before same
    · refine List.pairwise_cons.2 ⟨?_, sorted⟩
      intro z member
      rcases List.mem_cons.1 member with rfl | later
      · exact before
      · exact before_trans before (first z later)
    · refine List.pairwise_cons.2 ⟨?_, rest⟩
      intro z member
      exact before_of_key (beq_iff_eq.1 same) (first z member)
    · refine List.pairwise_cons.2 ⟨?_, ih rest⟩
      intro z member
      rcases mem_put member with rfl | old
      · exact before_of_not before fun equal => same (beq_iff_eq.2 equal)
      · exact first z old

/-- Sorted tables that agree on some objects list the same of these. -/
theorem filter_eq_of_mem_iff {shown : α → Bool} (sorted : table.Pairwise (Before key))
    (also : other.Pairwise (Before key))
    (same : ∀ x, shown x = true → (x ∈ table ↔ x ∈ other)) :
    table.filter shown = other.filter shown := by
  apply List.Pairwise.eq_of_mem_iff (sorted.filter shown) (also.filter shown)
  intro x
  rw [List.mem_filter, List.mem_filter]
  constructor
  · rintro ⟨member, visible⟩
    exact ⟨(same x visible).1 member, visible⟩
  · rintro ⟨member, visible⟩
    exact ⟨(same x visible).2 member, visible⟩

end Tables

/-! ## Directories in memory -/

/-- What can happen to a directory in memory. -/
inductive Change where
  | user (u : User)
  | member (m : Member)
  | channel (c : Channel)
  | role (r : Role)
  | removal (id : Id)

def apply (d : MemoryDirectory) : Change → MemoryDirectory
  | .user u => d.addUser u
  | .member m => d.addMember m
  | .channel c => d.addChannel c
  | .role r => d.addRole r
  | .removal id => d.removeUser id

/-- The directory after changes to an empty one. -/
def after (changes : List Change) : MemoryDirectory := changes.foldl apply {}

/-- The tables that scopes are listed from are sorted. -/
structure Sorted (d : MemoryDirectory) : Prop where
  members : d.members.Pairwise (Before fun m => (m.scopeId, m.id))
  channels : d.channels.Pairwise (Before fun c => (0, c.id))
  roles : d.roles.Pairwise (Before fun r => (0, r.id))

theorem sorted_apply {d : MemoryDirectory} (sorted : Sorted d) (change : Change) :
    Sorted (apply d change) := by
  cases change with
  | user u => exact ⟨sorted.members, sorted.channels, sorted.roles⟩
  | member m => exact ⟨sorted_put m sorted.members, sorted.channels, sorted.roles⟩
  | channel c => exact ⟨sorted.members, sorted_put c sorted.channels, sorted.roles⟩
  | role r => exact ⟨sorted.members, sorted.channels, sorted_put r sorted.roles⟩
  | removal id => exact ⟨sorted.members.filter _, sorted.channels, sorted.roles⟩

theorem sorted_after (changes : List Change) : Sorted (after changes) := by
  have run : ∀ d, Sorted d → Sorted (changes.foldl apply d) := by
    induction changes with
    | nil => exact fun d sorted => sorted
    | cons change changes ih => exact fun d sorted => ih _ (sorted_apply sorted change)
  exact run {} ⟨.nil, .nil, .nil⟩

/-! ## What is seen of a scope -/

variable {d e : MemoryDirectory} {scope : Id} {ctx : Context} {argument : String} {v : Value}

/-- Two directories hold the same objects of a scope. -/
structure SameScope (d e : MemoryDirectory) (scope : Id) : Prop where
  members : ∀ m : Member, m.scopeId = scope → (m ∈ d.members ↔ m ∈ e.members)
  channels : ∀ c : Channel, c.scopeId = some scope → (c ∈ d.channels ↔ c ∈ e.channels)
  roles : ∀ r : Role, r.scopeId = scope → (r ∈ d.roles ↔ r ∈ e.roles)

/-- Two directories answer alike about a scope. -/
structure Alike (d e : Directory) (scope : Id) : Prop where
  members : d.members scope = e.members scope
  channels : d.channels scope = e.channels scope
  roles : d.roles scope = e.roles scope
  member : d.member scope = e.member scope
  channel : d.channel scope = e.channel scope
  role : d.role scope = e.role scope

theorem member_eq_find? (d : MemoryDirectory) (scope id : Id) :
    d.toDirectory.member scope id = (d.toDirectory.members scope).find? (·.id == id) := by
  change d.members.find? _ = (d.members.filter _).find? _
  rw [List.find?_filter]
  congr 1
  funext m
  rw [Bool.decide_and, Bool.decide_eq_true, Bool.decide_eq_true]

theorem alike_of_sameScope (sorted : Sorted d) (also : Sorted e) (same : SameScope d e scope) :
    Alike d.toDirectory e.toDirectory scope := by
  have members : d.toDirectory.members scope = e.toDirectory.members scope := by
    apply filter_eq_of_mem_iff sorted.members also.members
    intro m visible
    exact same.members m (beq_iff_eq.1 visible)
  have channels : d.toDirectory.channels scope = e.toDirectory.channels scope := by
    apply filter_eq_of_mem_iff sorted.channels also.channels
    intro c visible
    exact same.channels c (beq_iff_eq.1 visible)
  have roles : d.toDirectory.roles scope = e.toDirectory.roles scope := by
    apply filter_eq_of_mem_iff sorted.roles also.roles
    intro r visible
    exact same.roles r (beq_iff_eq.1 visible)
  refine ⟨members, channels, roles, ?_, ?_, ?_⟩
  · funext id
    rw [member_eq_find?, member_eq_find?, members]
  · funext id
    exact congrArg (List.find? fun c => c.id == id) channels
  · funext id
    exact congrArg (List.find? fun r => r.id == id) roles

/-- An invocation that asks a directory. -/
def asking (ctx : Context) (d : Directory) : Context := { ctx with directory := d }

@[simp] theorem scope_asking (ctx : Context) (d : Directory) :
    (asking ctx d).scope = ctx.scope := rfl

@[simp] theorem directory_asking (ctx : Context) (d : Directory) :
    (asking ctx d).directory = d := rfl

@[simp] theorem author_asking (ctx : Context) (d : Directory) :
    (asking ctx d).author = ctx.author := rfl

section Alike
variable {here there : Directory}

theorem member_of_alike (inScope : ctx.scope = some scope) (alike : Alike here there scope) :
    Convert.member (asking ctx here) argument = Convert.member (asking ctx there) argument := by
  unfold Convert.member
  simp only [scope_asking, directory_asking, inScope, alike.members, alike.member]

theorem channel_of_alike (inScope : ctx.scope = some scope) (alike : Alike here there scope) :
    Convert.channel (asking ctx here) argument = Convert.channel (asking ctx there) argument := by
  unfold Convert.channel
  simp only [scope_asking, directory_asking, inScope, alike.channels, alike.channel]

theorem role_of_alike (inScope : ctx.scope = some scope) (alike : Alike here there scope) :
    Convert.role (asking ctx here) argument = Convert.role (asking ctx there) argument := by
  unfold Convert.role
  simp only [scope_asking, directory_asking, inScope, alike.roles, alike.role]

theorem heldIn_of_alike (alike : Alike here there scope) (role : RoleRef) :
    role.heldIn (asking ctx here) scope = role.heldIn (asking ctx there) scope := by
  cases role with
  | byId id => rfl
  | byName name =>
    unfold RoleRef.heldIn
    simp only [author_asking, directory_asking, alike.roles]

theorem hasRole_of_alike (inScope : ctx.scope = some scope) (alike : Alike here there scope)
    (role : RoleRef) :
    (Check.hasRole role).evaluate (asking ctx here) =
      (Check.hasRole role).evaluate (asking ctx there) := by
  simp only [Check.hasRole, Check.evaluate_one, scope_asking, inScope, heldIn_of_alike alike role]

theorem hasAnyRole_of_alike (inScope : ctx.scope = some scope) (alike : Alike here there scope)
    (roles : List RoleRef) :
    (Check.hasAnyRole roles).evaluate (asking ctx here) =
      (Check.hasAnyRole roles).evaluate (asking ctx there) := by
  simp only [Check.hasAnyRole, Check.evaluate_one, scope_asking, inScope, heldIn_of_alike alike]

end Alike

/-! ## What is found belongs to the scope -/

section Found
variable {α : Type} {x : α}

theorem found_eq_ok {wrap : α → Value} {notFound : UserInputError} {o : Option α} :
    Convert.found wrap notFound o = .ok v ↔ ∃ x, o = some x ∧ v = wrap x := by
  cases o with
  | none => simp [Convert.found]
  | some x => simp [Convert.found, eq_comm]

theorem mem_of_only? {candidates : List α} (single : Convert.only? candidates = some x) :
    x ∈ candidates := by
  unfold Convert.only? at single
  split at single
  · cases single
    exact List.mem_singleton_self _
  · contradiction

/-- Whichever way a name is matched, it names one of the candidates. -/
theorem mem_of_matchName? {names : α → List String} {candidates : List α}
    (named : Convert.matchName? names candidates argument = some x) : x ∈ candidates := by
  unfold Convert.matchName? at named
  split at named
  case isTrue => contradiction
  case isFalse =>
    split at named
    case h_1 spelled =>
      cases named
      exact List.mem_of_find?_eq_some spelled
    case h_2 =>
      dsimp only at named
      split at named
      case h_1 folded =>
        cases named
        exact List.mem_of_find?_eq_some folded
      case h_2 => exact List.mem_of_mem_filter (mem_of_only? named)

/-- What is found by number or by name is in the listing that both search. -/
theorem mem_of_place {names : α → List String} {listing : List α} {lookup : Id → Option α}
    {number : Option Id} (searches : ∀ id, lookup id = some x → x ∈ listing)
    (place : (match number with
      | some id => lookup id
      | none => Convert.matchName? names listing argument) = some x) : x ∈ listing := by
  cases number with
  | none => exact mem_of_matchName? place
  | some id => exact searches id place

end Found

theorem mem_of_member (inScope : ctx.scope = some scope)
    (made : Convert.member (asking ctx d.toDirectory) argument = .ok v) :
    ∃ m ∈ d.members, m.scopeId = scope ∧ v = .member m := by
  obtain ⟨m, place, rfl⟩ := found_eq_ok.1 made
  rw [scope_asking, inScope] at place
  have listed : m ∈ d.toDirectory.members scope := by
    refine mem_of_place ?_ place
    intro id found
    rw [directory_asking, member_eq_find?] at found
    exact List.mem_of_find?_eq_some found
  obtain ⟨member, own⟩ := List.mem_filter.1 listed
  exact ⟨m, member, beq_iff_eq.1 own, rfl⟩

theorem mem_of_channel (inScope : ctx.scope = some scope)
    (made : Convert.channel (asking ctx d.toDirectory) argument = .ok v) :
    ∃ c ∈ d.channels, c.scopeId = some scope ∧ v = .channel c := by
  obtain ⟨c, place, rfl⟩ := found_eq_ok.1 made
  rw [scope_asking, inScope] at place
  have listed : c ∈ d.toDirectory.channels scope :=
    mem_of_place (fun _ found => List.mem_of_find?_eq_some found) place
  obtain ⟨member, own⟩ := List.mem_filter.1 listed
  exact ⟨c, member, beq_iff_eq.1 own, rfl⟩

theorem mem_of_role (inScope : ctx.scope = some scope)
    (made : Convert.role (asking ctx d.toDirectory) argument = .ok v) :
    ∃ r ∈ d.roles, r.scopeId = scope ∧ v = .role r := by
  obtain ⟨r, place, rfl⟩ := found_eq_ok.1 made
  rw [scope_asking, inScope] at place
  have listed : r ∈ d.toDirectory.roles scope :=
    mem_of_place (fun _ found => List.mem_of_find?_eq_some found) place
  obtain ⟨member, own⟩ := List.mem_filter.1 listed
  exact ⟨r, member, beq_iff_eq.1 own, rfl⟩

/-! ## Outside every scope -/

/-- Without a scope only the channel of the conversation can be named, by its number. -/
theorem channel_outside (outside : ctx.scope = none) :
    Convert.channel ctx argument = .ok v ↔
      Convert.readId? Convert.channelSigils argument = some ctx.origin.channel.id ∧
        v = .channel ctx.origin.channel := by
  unfold Convert.channel
  rw [found_eq_ok, outside]
  by_cases names : Convert.readId? Convert.channelSigils argument = some ctx.origin.channel.id
  · simp [names]
  · simp [names]

theorem member_outside (outside : ctx.scope = none) :
    Convert.member ctx argument = .error (.input (.memberNotFound argument)) := by
  unfold Convert.member
  rw [outside]
  rfl

theorem role_outside (outside : ctx.scope = none) :
    Convert.role ctx argument = .error (.input (.roleNotFound argument)) := by
  unfold Convert.role
  rw [outside]
  rfl

theorem hasRole_outside (outside : ctx.scope = none) (role : RoleRef) :
    (Check.hasRole role).evaluate ctx = .error .noPrivateMessage := by
  simp only [Check.hasRole, Check.evaluate_one, outside]

theorem hasAnyRole_outside (outside : ctx.scope = none) (roles : List RoleRef) :
    (Check.hasAnyRole roles).evaluate ctx = .error .noPrivateMessage := by
  simp only [Check.hasAnyRole, Check.evaluate_one, outside]

/-! ## Isolation -/

/-- Two invocations get the same objects for the same texts, and the same answers about roles. -/
structure SeesAlike (here there : Context) : Prop where
  member : ∀ argument, Convert.member here argument = Convert.member there argument
  channel : ∀ argument, Convert.channel here argument = Convert.channel there argument
  role : ∀ argument, Convert.role here argument = Convert.role there argument
  hasRole : ∀ role, (Check.hasRole role).evaluate here = (Check.hasRole role).evaluate there
  hasAnyRole : ∀ roles,
    (Check.hasAnyRole roles).evaluate here = (Check.hasAnyRole roles).evaluate there

/-- Whatever an invocation gets from a directory is one of its objects in the scope. -/
structure FindsOwn (ctx : Context) (d : MemoryDirectory) (scope : Id) : Prop where
  member : ∀ argument v, Convert.member (asking ctx d.toDirectory) argument = .ok v →
    ∃ m ∈ d.members, m.scopeId = scope ∧ v = .member m
  channel : ∀ argument v, Convert.channel (asking ctx d.toDirectory) argument = .ok v →
    ∃ c ∈ d.channels, c.scopeId = some scope ∧ v = .channel c
  role : ∀ argument v, Convert.role (asking ctx d.toDirectory) argument = .ok v →
    ∃ r ∈ d.roles, r.scopeId = scope ∧ v = .role r

/-- An invocation that gets no object but the channel it came from. -/
structure Confined (ctx : Context) : Prop where
  member : ∀ argument, Convert.member ctx argument = .error (.input (.memberNotFound argument))
  channel : ∀ argument v, Convert.channel ctx argument = .ok v ↔
    Convert.readId? Convert.channelSigils argument = some ctx.origin.channel.id ∧
      v = .channel ctx.origin.channel
  role : ∀ argument, Convert.role ctx argument = .error (.input (.roleNotFound argument))
  hasRole : ∀ role, (Check.hasRole role).evaluate ctx = .error .noPrivateMessage
  hasAnyRole : ∀ roles, (Check.hasAnyRole roles).evaluate ctx = .error .noPrivateMessage

/-- Scopes are isolated. An invocation in a scope gets objects of that scope only, and what it gets
depends on the members, channels and roles of that scope alone; one outside every scope gets nothing
but its own channel, and holds no role. -/
theorem scope_isolated (changes others : List Change) (ctx : Context) :
    (∀ scope, ctx.scope = some scope →
      FindsOwn ctx (after changes) scope ∧
        (SameScope (after changes) (after others) scope →
          SeesAlike (asking ctx (after changes).toDirectory)
            (asking ctx (after others).toDirectory))) ∧
    (ctx.scope = none → Confined ctx) := by
  constructor
  · intro scope inScope
    constructor
    · exact ⟨fun _ _ => mem_of_member inScope, fun _ _ => mem_of_channel inScope,
        fun _ _ => mem_of_role inScope⟩
    · intro same
      have alike := alike_of_sameScope (sorted_after changes) (sorted_after others) same
      exact ⟨fun _ => member_of_alike inScope alike, fun _ => channel_of_alike inScope alike,
        fun _ => role_of_alike inScope alike, hasRole_of_alike inScope alike,
        hasAnyRole_of_alike inScope alike⟩
  · intro outside
    exact ⟨fun _ => member_outside outside, fun _ _ => channel_outside outside,
      fun _ => role_outside outside, hasRole_outside outside, hasAnyRole_outside outside⟩

/-- Two communities have a channel and a role of the same names. In the first, nothing changes when
the second comes to be, and the author does not hold the role for holding its namesake. -/
theorem namesake_role_unseen :
    let home : List Change := [.channel { id := 50, name := "general", scopeId := some 10 },
      .role ⟨70, "mods", 10⟩, .member { user := { id := 1, name := "alice" }, scopeId := 10 }]
    let crowded : List Change := .channel { id := 40, name := "general", scopeId := some 11 } ::
      .role ⟨60, "mods", 11⟩ :: home ++
        [.member { user := { id := 1, name := "alice" }, scopeId := 11, nick := some "root" }]
    let ctx : Context :=
      { author := ⟨1, "alice", false, [60], Permissions.none⟩
        origin := ⟨.shared, some 10, { id := 50, name := "general", scopeId := some 10 }⟩
        content := "", responder := .discard, directory := .ofLists [] [] [] [] }
    ctx.scope = some 10 ∧ SameScope (after home) (after crowded) 10 ∧
      SeesAlike (asking ctx (after home).toDirectory) (asking ctx (after crowded).toDirectory) ∧
      (Check.hasRole (.byName "mods")).evaluate (asking ctx (after crowded).toDirectory) =
        .error (.missingRole "mods") := by
  intro home crowded ctx
  have inScope : ctx.scope = some 10 := rfl
  have same : SameScope (after home) (after crowded) 10 := by
    constructor
    · intro m own
      constructor
      · exact List.mem_append_left [_]
      · intro member
        rcases List.mem_cons.1 member with here | there
        · exact List.mem_singleton.2 here
        · cases List.mem_singleton.1 there
          contradiction
    · intro c own
      constructor
      · exact List.mem_cons_of_mem _
      · intro member
        rcases List.mem_cons.1 member with rfl | here
        · contradiction
        · exact here
    · intro r own
      constructor
      · exact List.mem_cons_of_mem _
      · intro member
        rcases List.mem_cons.1 member with rfl | here
        · contradiction
        · exact here
  exact ⟨inScope, same, ((scope_isolated home crowded ctx).1 10 inScope).2 same, rfl⟩

end ChatCommands.ScopedObjects
