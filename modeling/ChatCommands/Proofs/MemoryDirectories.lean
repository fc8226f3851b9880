import ChatCommands.Proofs.ScopedObjects

/-! Directories in memory as maps. A directory keeps its objects in sorted tables; what it answers
is what four maps hold that are written to by key and never listed (`Maps`). So each object stands
under its own key, every member's user is known, and each listing holds the objects of its scope in
ascending order (`directory_follows_maps`). Writes under different keys commute, hence additions
that do not touch each other may come in any order. -/
namespace ChatCommands.MemoryDirectories
open Memory MemoryDirectory ScopedObjects

/-! ## Tables of a map -/

section Tables
variable {α κ : Type} {key : α → Id × Id} {index : α → κ} {map : κ → Option α}
  {table other : List α} {x y : α} {gone : κ → Prop} [DecidablePred gone]

theorem key_ne_of_before (before : Before key x y) : key y ≠ key x := by
  intro same
  rw [before_iff, same] at before
  omega

/-- Putting an object into a sorted table takes out the one with its key, and no other. -/
theorem mem_put_iff (sorted : table.Pairwise (Before key)) :
    y ∈ put key x table ↔ y = x ∨ y ∈ table ∧ key y ≠ key x := by
  induction table with
  | nil => simp [put]
  | cons z rest ih =>
    obtain ⟨first, rest'⟩ := List.pairwise_cons.1 sorted
    unfold put
    split_ifs with before same
    · have others : ∀ y ∈ z :: rest, key y ≠ key x := fun y member => by
        rcases List.mem_cons.1 member with rfl | later
        · exact key_ne_of_before before
        · exact key_ne_of_before (before_trans before (first y later))
      rw [List.mem_cons]
      exact or_congr_right ⟨fun member => ⟨member, others y member⟩, And.left⟩
    · have equal : key x = key z := beq_iff_eq.1 same
      rw [List.mem_cons, List.mem_cons]
      refine or_congr_right ⟨fun later => ⟨.inr later, ?_⟩, ?_⟩
      · rw [equal]
        exact key_ne_of_before (first y later)
      · rintro ⟨rfl | later, differ⟩
        · exact absurd equal.symm differ
        · exact later
    · have differ : key z ≠ key x := fun equal => same (beq_iff_eq.2 equal.symm)
      rw [List.mem_cons, ih rest', List.mem_cons]
      constructor
      · rintro (rfl | rfl | ⟨later, apart⟩)
        · exact .inr ⟨.inl rfl, differ⟩
        · exact .inl rfl
        · exact .inr ⟨.inr later, apart⟩
      · rintro (rfl | ⟨rfl | later, apart⟩)
        · exact .inr (.inl rfl)
        · exact .inl rfl
        · exact .inr (.inr ⟨later, apart⟩)

/-- A sorted table holds the objects of a map, each of which stands under its own key there. -/
structure Tabulates (key : α → Id × Id) (index : α → κ) (map : κ → Option α) (table : List α) :
    Prop where
  sorted : table.Pairwise (Before key)
  own : ∀ k x, map k = some x → index x = k
  mem_iff : ∀ x, x ∈ table ↔ map (index x) = some x

/-- A map without the objects under some keys. -/
def without (gone : κ → Prop) [DecidablePred gone] (map : κ → Option α) (k : κ) : Option α :=
  if gone k then none else map k

theorem tabulates_nil : Tabulates key index (fun _ => none) [] :=
  ⟨.nil, nofun, fun _ => ⟨nofun, nofun⟩⟩

theorem Tabulates.put [DecidableEq κ] (tabulates : Tabulates key index map table)
    (agree : ∀ x y, index x = index y ↔ key x = key y) (x : α) :
    Tabulates key index (Function.update map (index x) (some x)) (put key x table) := by
  refine ⟨sorted_put x tabulates.sorted, fun k y held => ?_, fun y => ?_⟩
  · by_cases here : k = index x
    · rw [here, Function.update_self] at held
      rw [here, Option.some.inj held]
    · rw [Function.update_of_ne here] at held
      exact tabulates.own k y held
  · rw [mem_put_iff tabulates.sorted, ne_eq, ← agree]
    by_cases here : index y = index x
    · rw [here, Function.update_self]
      simp [eq_comm]
    · have other : y ≠ x := fun same => here (congrArg index same)
      rw [Function.update_of_ne here, ← tabulates.mem_iff]
      simp [here, other]

theorem Tabulates.remove (tabulates : Tabulates key index map table) {keeps : α → Bool}
    (decides : ∀ x, keeps x = true ↔ ¬ gone (index x)) :
    Tabulates key index (without gone map) (table.filter keeps) := by
  refine ⟨tabulates.sorted.filter keeps, fun k y held => ?_, fun y => ?_⟩
  · unfold without at held
    split at held
    · cases held
    · exact tabulates.own k y held
  · rw [List.mem_filter, decides, tabulates.mem_iff, without]
    by_cases left : gone (index y) <;> simp [left]

/-- Searching the table for a key is looking it up in the map. -/
theorem Tabulates.find? (tabulates : Tabulates key index map table) {named : α → Bool} {k : κ}
    (decides : ∀ x, named x = true ↔ index x = k) : table.find? named = map k := by
  cases found : table.find? named with
  | some x =>
    have here := (decides x).1 (List.find?_some found)
    rw [← here]
    exact ((tabulates.mem_iff x).1 (List.mem_of_find?_eq_some found)).symm
  | none =>
    cases held : map k with
    | none => rfl
    | some x =>
      have here := tabulates.own k x held
      have member : x ∈ table := (tabulates.mem_iff x).2 (here.symm ▸ held)
      exact absurd ((decides x).2 here) (List.find?_eq_none.1 found x member)

theorem Tabulates.unique (tabulates : Tabulates key index map table)
    (also : Tabulates key index map other) : table = other := by
  apply List.Pairwise.eq_of_mem_iff tabulates.sorted also.sorted
  intro x
  rw [tabulates.mem_iff, also.mem_iff]

end Tables

/-! ## The maps of a directory -/

/-- Users, channels and roles by number, and members by scope and user's number. -/
structure Maps where
  users : Id → Option User
  members : Id × Id → Option Member
  channels : Id → Option Channel
  roles : Id → Option Role

variable {maps : Maps} {d : MemoryDirectory} {changes additions others : List Change}

/-- A member comes with its user, and a user leaves with its memberships. -/
def Maps.change (maps : Maps) : Change → Maps
  | .user u => { maps with users := Function.update maps.users u.id (some u) }
  | .member m => { maps with
      users := Function.update maps.users m.user.id (some m.user)
      members := Function.update maps.members (m.scopeId, m.user.id) (some m) }
  | .channel c => { maps with channels := Function.update maps.channels c.id (some c) }
  | .role r => { maps with roles := Function.update maps.roles r.id (some r) }
  | .removal id => { maps with
      users := without (· = id) maps.users
      members := without (·.2 = id) maps.members }

/-- The maps after changes to empty ones. -/
def following (changes : List Change) : Maps :=
  changes.foldl Maps.change ⟨fun _ => none, fun _ => none, fun _ => none, fun _ => none⟩

/-- The tables of a directory are tables of the maps. -/
structure Holds (maps : Maps) (d : MemoryDirectory) : Prop where
  users : Tabulates (fun u => (0, u.id)) User.id maps.users d.users
  members : Tabulates (fun m => (m.scopeId, m.id)) (fun m => (m.scopeId, m.id)) maps.members
    d.members
  channels : Tabulates (fun c => (0, c.id)) Channel.id maps.channels d.channels
  roles : Tabulates (fun r => (0, r.id)) Role.id maps.roles d.roles

theorem Holds.addUser (holds : Holds maps d) (u : User) :
    Holds { maps with users := Function.update maps.users u.id (some u) } (d.addUser u) :=
  { holds with users := holds.users.put (by simp) u }

theorem holds_change (holds : Holds maps d) (change : Change) :
    Holds (maps.change change) (apply d change) := by
  cases change with
  | user u => exact holds.addUser u
  | member m => exact { holds.addUser m.user with members := holds.members.put (by simp) m }
  | channel c => exact { holds with channels := holds.channels.put (by simp) c }
  | role r => exact { holds with roles := holds.roles.put (by simp) r }
  | removal id =>
    exact { holds with
      users := holds.users.remove (by simp)
      members := holds.members.remove (by simp) }

theorem holds_after (changes : List Change) : Holds (following changes) (after changes) := by
  have run : ∀ maps d, Holds maps d →
      Holds (changes.foldl Maps.change maps) (changes.foldl apply d) := by
    induction changes with
    | nil => exact fun maps d holds => holds
    | cons change changes ih => exact fun maps d holds => ih _ _ (holds_change holds change)
  exact run _ {} ⟨tabulates_nil, tabulates_nil, tabulates_nil, tabulates_nil⟩

/-- The user of each member is there. -/
def KnowsUsers (maps : Maps) : Prop :=
  ∀ key m, maps.members key = some m → (maps.users key.2).isSome

theorem knowsUsers_change (knows : KnowsUsers maps) (change : Change) :
    KnowsUsers (maps.change change) := by
  have stays (key : Id) (u : User) (known : (maps.users key).isSome) :
      (Function.update maps.users u.id (some u) key).isSome := by
    by_cases here : key = u.id
    · rw [here, Function.update_self]
      rfl
    · rwa [Function.update_of_ne here]
  intro key m held
  cases change with
  | user u => exact stays key.2 u (knows key m held)
  | member other =>
    by_cases here : key = (other.scopeId, other.user.id)
    · rw [here]
      simp [Maps.change]
    · have before : maps.members key = some m := (Function.update_of_ne here ..).symm.trans held
      exact stays key.2 other.user (knows key m before)
  | channel c => exact knows key m held
  | role r => exact knows key m held
  | removal id =>
    simp only [Maps.change, without] at held ⊢
    split at held
    · cases held
    · rename_i others
      rw [if_neg others]
      exact knows key m held

theorem knowsUsers_following (changes : List Change) : KnowsUsers (following changes) := by
  have run : ∀ maps, KnowsUsers maps → KnowsUsers (changes.foldl Maps.change maps) := by
    induction changes with
    | nil => exact fun maps knows => knows
    | cons change changes ih => exact fun maps knows => ih _ (knowsUsers_change knows change)
  exact run _ nofun

/-! ## Answers -/

/-- Each object of the maps stands under its own key, and each member's user is there. -/
structure Keyed (maps : Maps) : Prop where
  users : ∀ id u, maps.users id = some u → u.id = id
  members : ∀ key m, maps.members key = some m → (m.scopeId, m.user.id) = key
  channels : ∀ id c, maps.channels id = some c → c.id = id
  roles : ∀ id r, maps.roles id = some r → r.id = id
  known : KnowsUsers maps

/-- A directory lists and finds what the maps hold: each listing has the objects of its scope in
ascending order, and each lookup is a search of the listing. -/
structure Answers (maps : Maps) (d : Directory) : Prop where
  users : ∀ u, u ∈ d.users ↔ maps.users u.id = some u
  members : ∀ scope m, m ∈ d.members scope ↔
    maps.members (m.scopeId, m.id) = some m ∧ m.scopeId = scope
  channels : ∀ scope c, c ∈ d.channels scope ↔
    maps.channels c.id = some c ∧ c.scopeId = some scope
  roles : ∀ scope r, r ∈ d.roles scope ↔ maps.roles r.id = some r ∧ r.scopeId = scope
  usersAscend : d.users.Pairwise (·.id < ·.id)
  membersAscend : ∀ scope, (d.members scope).Pairwise (·.id < ·.id)
  channelsAscend : ∀ scope, (d.channels scope).Pairwise (·.id < ·.id)
  rolesAscend : ∀ scope, (d.roles scope).Pairwise (·.id < ·.id)
  user : ∀ id, d.user id = maps.users id
  member : ∀ scope id, d.member scope id = maps.members (scope, id)
  searches : d = .ofListings d.users d.members d.channels d.roles

theorem keyed_of_holds (holds : Holds maps d) (knows : KnowsUsers maps) : Keyed maps where
  users := holds.users.own
  members := holds.members.own
  channels := holds.channels.own
  roles := holds.roles.own
  known := knows

theorem lt_of_before {α : Type} {index : α → Id} {x y : α}
    (before : Before (fun x => (0, index x)) x y) : index x < index y := by
  rw [before_iff] at before
  simpa using before

theorem members_ascend (holds : Holds maps d) (scope : Id) :
    (d.toDirectory.members scope).Pairwise (·.id < ·.id) := by
  refine (holds.members.sorted.filter _).imp_of_mem fun {m n} first second before => ?_
  have scopes : m.scopeId = n.scopeId :=
    (beq_iff_eq.1 (List.mem_filter.1 first).2).trans
      (beq_iff_eq.1 (List.mem_filter.1 second).2).symm
  rw [before_iff] at before
  simpa [scopes] using before

theorem answers_of_holds (holds : Holds maps d) : Answers maps d.toDirectory where
  users := holds.users.mem_iff
  members scope m := by
    rw [← holds.members.mem_iff m, ← beq_iff_eq (a := m.scopeId)]
    exact List.mem_filter
  channels scope c := by
    rw [← holds.channels.mem_iff c, ← beq_iff_eq (a := c.scopeId)]
    exact List.mem_filter
  roles scope r := by
    rw [← holds.roles.mem_iff r, ← beq_iff_eq (a := r.scopeId)]
    exact List.mem_filter
  usersAscend := holds.users.sorted.imp lt_of_before
  membersAscend := members_ascend holds
  channelsAscend _ := (holds.channels.sorted.filter _).imp lt_of_before
  rolesAscend _ := (holds.roles.sorted.filter _).imp lt_of_before
  user id := holds.users.find? (by simp)
  member scope id := holds.members.find? (by simp)
  searches := by
    have member : d.member = fun scope id => (d.toDirectory.members scope).find? (·.id == id) := by
      funext scope id
      exact member_eq_find? d scope id
    exact congrArg (fun lookup => { d.toDirectory with member := lookup }) member

/-! ## Additions in any order -/

/-- What an addition is written under. -/
inductive Key where
  | user (id : Id)
  | member (scope id : Id)
  | channel (id : Id)
  | role (id : Id)
  deriving DecidableEq

def keyOf? : Change → Option Key
  | .user u => some (.user u.id)
  | .member m => some (.member m.scopeId m.id)
  | .channel c => some (.channel c.id)
  | .role r => some (.role r.id)
  | .removal _ => none

/-- Additions of which none replaces what another one adds: their keys differ, and what they bring
of one user is the same. -/
structure Independent (additions : List Change) : Prop where
  adds : ∀ change ∈ additions, (keyOf? change).isSome
  distinct : (additions.map keyOf?).Nodup
  users : ∀ u m, .user u ∈ additions → .member m ∈ additions → u.id ≠ m.id
  same : ∀ m n, .member m ∈ additions → .member n ∈ additions → m.id = n.id → m.user = n.user

theorem keyOf?_ne {a b : Change} (independent : Independent additions) (first : a ∈ additions)
    (second : b ∈ additions) (differ : a ≠ b) : keyOf? a ≠ keyOf? b :=
  fun same => differ (List.inj_on_of_nodup_map independent.distinct first second same)

/-- Two members bring one user, or two. -/
theorem users_commute {m n : Member} (users : Id → Option User)
    (same : m.id = n.id → m.user = n.user) :
    Function.update (Function.update users m.user.id (some m.user)) n.user.id (some n.user) =
      Function.update (Function.update users n.user.id (some n.user)) m.user.id (some m.user) := by
  by_cases one : m.id = n.id
  · rw [same one]
  · exact Function.update_comm one _ _ users

theorem change_comm (independent : Independent additions) {a b : Change} (first : a ∈ additions)
    (second : b ∈ additions) (maps : Maps) :
    (maps.change a).change b = (maps.change b).change a := by
  by_cases equal : a = b
  · rw [equal]
  have differ := keyOf?_ne independent first second equal
  have adds := independent.adds a first
  have alsoAdds := independent.adds b second
  cases a with
  | user u =>
    cases b with
    | user v =>
      have apart : u.id ≠ v.id := fun same => differ (congrArg (some ∘ Key.user) same)
      simp only [Maps.change, Function.update_comm apart]
    | member n =>
      have apart : u.id ≠ n.user.id := independent.users u n first second
      simp only [Maps.change, Function.update_comm apart]
    | removal id => cases alsoAdds
    | _ => rfl
  | member m =>
    cases b with
    | user v =>
      have apart : m.user.id ≠ v.id := (independent.users v m second first).symm
      simp only [Maps.change, Function.update_comm apart]
    | member n =>
      have apart : (m.scopeId, m.user.id) ≠ (n.scopeId, n.user.id) := fun same =>
        differ (congrArg (fun key : Id × Id => some (Key.member key.1 key.2)) same)
      simp only [Maps.change, Function.update_comm apart,
        users_commute maps.users (independent.same m n first second)]
    | removal id => cases alsoAdds
    | _ => rfl
  | channel c =>
    cases b with
    | channel c' =>
      have apart : c.id ≠ c'.id := fun same => differ (congrArg (some ∘ Key.channel) same)
      simp only [Maps.change, Function.update_comm apart]
    | removal id => cases alsoAdds
    | _ => rfl
  | role r =>
    cases b with
    | role r' =>
      have apart : r.id ≠ r'.id := fun same => differ (congrArg (some ∘ Key.role) same)
      simp only [Maps.change, Function.update_comm apart]
    | removal id => cases alsoAdds
    | _ => rfl
  | removal id => cases adds

theorem following_perm (independent : Independent additions) (perm : additions.Perm others)
    (changes : List Change) : following (changes ++ additions) = following (changes ++ others) := by
  rw [following, following, List.foldl_append, List.foldl_append]
  exact perm.foldl_eq' (fun a first b second maps => change_comm independent first second maps) _

theorem eq_of_holds {e : MemoryDirectory} (holds : Holds maps d) (also : Holds maps e) : d = e := by
  cases d
  cases e
  rw [MemoryDirectory.mk.injEq]
  exact ⟨holds.users.unique also.users, holds.members.unique also.members,
    holds.channels.unique also.channels, holds.roles.unique also.roles⟩

/-- Whatever was added and removed, each object stands under its own key, each member's user is
known, listings hold the objects of their scope in ascending order, and lookups are searches of the
listings. Additions that do not touch each other lead to the same listings, lookups and conversions
in any order. -/
theorem directory_follows_maps (changes : List Change) :
    Keyed (following changes) ∧ Answers (following changes) (after changes).toDirectory ∧
    ∀ additions others, Independent additions → additions.Perm others →
      let here := (after (changes ++ additions)).toDirectory
      let there := (after (changes ++ others)).toDirectory
      here = there ∧ ∀ ctx,
        Convert.user (asking ctx here) = Convert.user (asking ctx there) ∧
        Convert.member (asking ctx here) = Convert.member (asking ctx there) ∧
        Convert.channel (asking ctx here) = Convert.channel (asking ctx there) ∧
        Convert.role (asking ctx here) = Convert.role (asking ctx there) := by
  have holds := holds_after changes
  refine ⟨keyed_of_holds holds (knowsUsers_following changes), answers_of_holds holds,
    fun additions others independent perm => ?_⟩
  have reached := holds_after (changes ++ additions)
  rw [following_perm independent perm changes] at reached
  rw [eq_of_holds reached (holds_after (changes ++ others))]
  exact ⟨rfl, fun ctx => ⟨rfl, rfl, rfl, rfl⟩⟩

/-- One user joins two communities beside another user; which comes first does not matter. -/
theorem joining_in_any_order :
    let bob : User := { id := 2, name := "bob" }
    let additions : List Change := [.user { id := 1, name := "alice" },
      .member { user := bob, scopeId := 11, nick := some "rob" },
      .member { user := bob, scopeId := 10 }]
    (after (.removal 2 :: additions)).toDirectory =
        (after (.removal 2 :: additions.reverse)).toDirectory ∧
      (after (.removal 2 :: additions.reverse)).toDirectory.user 2 = some bob := by
  intro bob additions
  have independent : Independent additions := by
    refine ⟨by decide, by decide, fun u m added also => ?_, fun m n added also _ => ?_⟩
    · simp only [additions, List.mem_cons, Change.user.injEq, Change.member.injEq, reduceCtorEq,
        List.not_mem_nil, or_false, false_or] at added also
      rcases also with rfl | rfl
      · rw [added]
        decide
      · rw [added]
        decide
    · simp only [additions, List.mem_cons, Change.member.injEq, reduceCtorEq, List.not_mem_nil,
        or_false, false_or] at added also
      rcases added with rfl | rfl
      · rcases also with rfl | rfl <;> rfl
      · rcases also with rfl | rfl <;> rfl
  exact ⟨((directory_follows_maps [.removal 2]).2.2 additions additions.reverse independent
    additions.reverse_perm.symm).1, rfl⟩

end ChatCommands.MemoryDirectories
