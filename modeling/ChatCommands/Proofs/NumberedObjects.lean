import ChatCommands.Proofs.ScopedObjects
import Mathlib.Data.Nat.Digits.Defs

/-! Objects named by their numbers. A text of 15 to 20 digits, bare or inside a mention, is looked
up by the number it writes if that fits 64 bits: what it names is the object with that number or
nothing, whatever names there are. A larger number is taken for a name
(`number_too_large_is_a_name`). -/
namespace ChatCommands.NumberedObjects
open ChatCommands.Convert

variable {α : Type} {sigils : List String} {sigil argument : String} {text cs rest : List Char}
  {n : Nat} {ctx : Context}

/-! ## Texts that write a number -/

/-- As many digits as the number of an object can have. -/
structure Digits (cs : List Char) : Prop where
  atLeast : 15 ≤ cs.length
  atMost : cs.length ≤ 20
  digits : cs.all Char.isDigit = true

/-- The number that digits write, the last of them counting ones. -/
def number (cs : List Char) : Nat := Nat.ofDigits 10 (cs.reverse.map Decimal.digitValue)

/-- A text is the digits alone, or a mention of what they number. -/
inductive Spelled (sigils : List String) : List Char → List Char → Prop
  | bare {cs : List Char} : Spelled sigils cs cs
  | mention {sigil : String} {cs : List Char} (known : sigil ∈ sigils) :
    Spelled sigils ('<' :: (sigil.toList ++ cs ++ ['>'])) cs

/-- A text writes a number of 15 to 20 digits, bare or in a mention. -/
def Writes (sigils : List String) (argument : String) (n : Nat) : Prop :=
  ∃ cs, Digits cs ∧ number cs = n ∧ Spelled sigils argument.toList cs

theorem isIdText_iff : isIdText cs = true ↔ Digits cs := by
  simp only [isIdText, Bool.and_eq_true, decide_eq_true_iff]
  constructor
  · rintro ⟨⟨atLeast, atMost⟩, digits⟩
    exact ⟨atLeast, atMost, digits⟩
  · rintro ⟨atLeast, atMost, digits⟩
    exact ⟨⟨atLeast, atMost⟩, digits⟩

theorem digitsValue_eq_number (cs : List Char) : Decimal.digitsValue cs = number cs := by
  rw [number, Nat.ofDigits_eq_foldr, List.foldr_map, List.foldr_reverse, Decimal.digitsValue]
  congr 1
  funext n c
  exact Nat.add_comm (10 * n) (Decimal.digitValue c)

theorem not_isIdText_bracket : ¬ isIdText ('<' :: rest) = true := by
  intro bare
  have digits := (isIdText_iff.1 bare).digits
  contradiction

theorem insideBrackets?_mention (inside : List Char) :
    insideBrackets? ('<' :: (inside ++ ['>'])) = some inside := by
  simp [insideBrackets?]

/-- What stands behind a sigil without digits is all of the digits. -/
theorem dropWhile_sigil (plain : sigil.toList.all (!·.isDigit) = true) (digits : Digits cs) :
    (sigil.toList ++ cs).dropWhile (fun c => !c.isDigit) = cs := by
  rw [List.dropWhile_append_of_pos]
  · cases cs with
    | nil => rfl
    | cons c cs => simp [List.all_eq_true.1 digits.digits c List.mem_cons_self]
  · exact List.all_eq_true.1 plain

theorem head?_of_forall_eq {found : List α} {x : α} (taken : x ∈ found)
    (alone : ∀ y ∈ found, y = x) : found.head? = some x := by
  cases found with
  | nil => contradiction
  | cons first others => rw [List.head?_cons, alone first List.mem_cons_self]

section Reading
variable (plain : ∀ sigil ∈ sigils, sigil.toList.all (!·.isDigit) = true)
include plain

/-- One sigil may begin another, but digits follow only one of them. -/
theorem mentionDigits?_mention (known : sigil ∈ sigils) (digits : Digits cs) :
    mentionDigits? sigils ('<' :: (sigil.toList ++ cs ++ ['>'])) = some cs := by
  unfold mentionDigits?
  rw [insideBrackets?_mention]
  apply head?_of_forall_eq
  · refine List.mem_filterMap.2 ⟨sigil, known, ?_⟩
    rw [Text.stripStart_eq_some_iff.2 rfl, Option.filter_some, if_pos (isIdText_iff.2 digits)]
  · intro rest member
    obtain ⟨other, otherKnown, cut⟩ := List.mem_filterMap.1 member
    obtain ⟨stripped, also⟩ := Option.filter_eq_some_iff.1 cut
    rw [← dropWhile_sigil (plain other otherKnown) (isIdText_iff.1 also),
      ← Text.stripStart_eq_some_iff.1 stripped, dropWhile_sigil (plain sigil known) digits]

theorem idDigits?_of_spelled (digits : Digits cs) (spelled : Spelled sigils text cs) :
    idDigits? sigils text = some cs := by
  cases spelled with
  | bare => rw [idDigits?, if_pos (isIdText_iff.2 digits)]
  | mention known =>
    rw [idDigits?, if_neg not_isIdText_bracket, mentionDigits?_mention plain known digits]

/-- A number is read if it fits 64 bits, and else it is as if there were none. -/
theorem readId?_of_writes (writes : Writes sigils argument n) :
    readId? sigils argument = if n < 2 ^ 64 then some n else none := by
  obtain ⟨cs, digits, rfl, spelled⟩ := writes
  have given : cs ≠ [] := by
    rintro rfl
    exact absurd digits.atLeast (by decide)
  have read : Decimal.readDigits? cs = some (number cs) := by
    rw [Decimal.readDigits?, digitsValue_eq_number, if_pos]
    rw [Bool.and_eq_true, Bool.not_eq_true', List.isEmpty_eq_false_iff]
    exact ⟨given, digits.digits⟩
  rw [readId?, idDigits?_of_spelled plain digits spelled, Option.bind_some, Decimal.readNat64?,
    read]
  rfl

end Reading

theorem eq_mention_of_insideBrackets? {inside : List Char}
    (found : insideBrackets? text = some inside) : text = '<' :: (inside ++ ['>']) := by
  unfold insideBrackets? at found
  split at found
  · rename_i rest
    split at found
    · rename_i reversed closed
      cases found
      rw [← List.reverse_reverse rest, closed, List.reverse_cons]
    · contradiction
  · contradiction

theorem spelled_of_idDigits? (found : idDigits? sigils text = some cs) :
    Digits cs ∧ Spelled sigils text cs := by
  unfold idDigits? at found
  split_ifs at found with bare
  · cases found
    exact ⟨isIdText_iff.1 bare, .bare⟩
  · unfold mentionDigits? at found
    split at found
    · contradiction
    · rename_i inside brackets
      obtain ⟨sigil, known, cut⟩ := List.mem_filterMap.1 (List.mem_of_mem_head? found)
      obtain ⟨stripped, digits⟩ := Option.filter_eq_some_iff.1 cut
      rw [Text.stripStart_eq_some_iff] at stripped
      rw [eq_mention_of_insideBrackets? brackets, stripped]
      exact ⟨isIdText_iff.1 digits, .mention known⟩

/-- Only what a text writes is read as its number, and only if it fits 64 bits. -/
theorem writes_of_readId? (read : readId? sigils argument = some n) :
    n < 2 ^ 64 ∧ Writes sigils argument n := by
  obtain ⟨cs, found, value⟩ := Option.bind_eq_some_iff.1 read
  obtain ⟨digits, spelled⟩ := spelled_of_idDigits? found
  unfold Decimal.readNat64? Decimal.readDigits? at value
  split at value
  · rename_i m whole
    split_ifs at whole value with _ fits
    cases whole
    cases value
    exact ⟨fits, cs, digits, (digitsValue_eq_number cs).symm, spelled⟩
  · contradiction

/-! ## What an invocation sees -/

/-- What an invocation sees of one kind of object. -/
structure Sight (α : Type) where
  /-- The objects seen. -/
  seen : List α
  /-- The one with a number. -/
  numbered : Id → Option α
  /-- The one that a text names. -/
  named : String → Option α

def usersInSight (ctx : Context) : Sight User where
  seen := ctx.directory.users
  numbered := ctx.directory.user
  named := matchName? userNames ctx.directory.users

/-- Nothing is seen outside every scope. -/
def membersInSight (ctx : Context) : Sight Member :=
  match ctx.scope with
  | none => ⟨[], fun _ => none, fun _ => none⟩
  | some scope => ⟨ctx.directory.members scope, ctx.directory.member scope,
      matchName? memberNames (ctx.directory.members scope)⟩

/-- Outside every scope the only channel is the one written in, and it goes by no name. -/
def channelsInSight (ctx : Context) : Sight Channel :=
  match ctx.scope with
  | none => ⟨[ctx.origin.channel], fun id => [ctx.origin.channel].find? (·.id == id), fun _ => none⟩
  | some scope => ⟨ctx.directory.channels scope, ctx.directory.channel scope,
      fun argument => matchName? (fun c => [c.name]) (ctx.directory.channels scope)
        (withoutHash argument)⟩

/-- Nothing is seen outside every scope. -/
def rolesInSight (ctx : Context) : Sight Role :=
  match ctx.scope with
  | none => ⟨[], fun _ => none, fun _ => none⟩
  | some scope => ⟨ctx.directory.roles scope, ctx.directory.role scope,
      matchName? (fun r => [r.name]) (ctx.directory.roles scope)⟩

/-- The object that a text names by its number or, if it has none, by name. -/
def Sight.place (sight : Sight α) (sigils : List String) (argument : String) : Option α :=
  match readId? sigils argument with
  | some id => sight.numbered id
  | none => sight.named argument

theorem user_eq : Convert.user ctx argument =
    found .user (.userNotFound argument) ((usersInSight ctx).place userSigils argument) := rfl

theorem member_eq : Convert.member ctx argument =
    found .member (.memberNotFound argument) ((membersInSight ctx).place userSigils argument) := by
  unfold Convert.member membersInSight Sight.place
  cases ctx.scope with
  | none => cases readId? userSigils argument <;> rfl
  | some scope => rfl

theorem channel_eq : Convert.channel ctx argument =
    found .channel (.channelNotFound argument)
      ((channelsInSight ctx).place channelSigils argument) := by
  unfold Convert.channel channelsInSight Sight.place
  cases ctx.scope with
  | none =>
    cases readId? channelSigils argument with
    | none => rfl
    | some id =>
      by_cases own : ctx.origin.channel.id = id
      · simp [own]
      · simp [own, Ne.symm own]
  | some scope => rfl

theorem role_eq : Convert.role ctx argument =
    found .role (.roleNotFound argument) ((rolesInSight ctx).place roleSigils argument) := by
  unfold Convert.role rolesInSight Sight.place
  cases ctx.scope with
  | none => cases readId? roleSigils argument <;> rfl
  | some scope => rfl

/-! ## What is found by number -/

/-- Whatever is found by a number is seen and has that number, and all that is seen is found. -/
structure Finds (numbered : Id → Option α) (seen : List α) (key : α → Id) : Prop where
  own : ∀ n x, numbered n = some x → x ∈ seen ∧ key x = n
  all : ∀ x ∈ seen, numbered (key x) ≠ none

theorem finds_find? (seen : List α) (key : α → Id) :
    Finds (fun n => seen.find? fun x => key x == n) seen key where
  own := by
    intro n x here
    have same := List.find?_some here
    exact ⟨List.mem_of_find?_eq_some here, beq_iff_eq.1 same⟩
  all := by
    intro x member missing
    have differs := List.find?_eq_none.1 missing x member
    exact differs (beq_self_eq_true (key x))

/-- A directory that answers by number what it lists. -/
structure Consistent (d : Directory) : Prop where
  users : Finds d.user d.users User.id
  members : ∀ scope, Finds (d.member scope) (d.members scope) Member.id
  channels : ∀ scope, Finds (d.channel scope) (d.channels scope) Channel.id
  roles : ∀ scope, Finds (d.role scope) (d.roles scope) Role.id

theorem consistent_ofListings (users : List User) (members : Id → List Member)
    (channels : Id → List Channel) (roles : Id → List Role) :
    Consistent (.ofListings users members channels roles) where
  users := finds_find? users User.id
  members scope := finds_find? (members scope) Member.id
  channels scope := finds_find? (channels scope) Channel.id
  roles scope := finds_find? (roles scope) Role.id

/-- A directory in memory finds users and members through its tables, with the same results. -/
theorem consistent_toDirectory (d : MemoryDirectory) : Consistent d.toDirectory := by
  have listed : Consistent (.ofLists d.users d.members d.channels d.roles) :=
    consistent_ofListings _ _ _ _
  refine ⟨listed.users, ?_, listed.channels, listed.roles⟩
  intro scope
  have searches : d.toDirectory.member scope = fun id =>
      (d.toDirectory.members scope).find? fun m => m.id == id := by
    funext id
    exact ScopedObjects.member_eq_find? d scope id
  rw [searches]
  exact finds_find? (d.toDirectory.members scope) Member.id

section Finds
variable (consistent : Consistent ctx.directory)
include consistent

theorem finds_members :
    Finds (membersInSight ctx).numbered (membersInSight ctx).seen Member.id := by
  unfold membersInSight
  cases ctx.scope with
  | none => exact finds_find? [] Member.id
  | some scope => exact consistent.members scope

theorem finds_channels :
    Finds (channelsInSight ctx).numbered (channelsInSight ctx).seen Channel.id := by
  unfold channelsInSight
  cases ctx.scope with
  | none => exact finds_find? [ctx.origin.channel] Channel.id
  | some scope => exact consistent.channels scope

theorem finds_roles : Finds (rolesInSight ctx).numbered (rolesInSight ctx).seen Role.id := by
  unfold rolesInSight
  cases ctx.scope with
  | none => exact finds_find? [] Role.id
  | some scope => exact consistent.roles scope

end Finds

/-! ## Objects go by their numbers -/

/-- What comes of a text that writes the number `n`, where an invocation sees objects of one
kind. -/
structure ByNumber (ctx : Context) (sight : Sight α) (key : α → Id) (wrap : α → Value)
    (notFound : UserInputError) (argument : String) (n : Nat)
    (result : Except ConvertFailure Value) : Prop where
  /-- A number that fits 64 bits is looked up, whatever goes by a name. -/
  lookedUp : n < 2 ^ 64 → result = found wrap notFound (sight.numbered n)
  /-- It gives an object that is seen and has that number, or else there is none. -/
  exact : n < 2 ^ 64 → Consistent ctx.directory →
    (∃ x ∈ sight.seen, key x = n ∧ result = .ok (wrap x)) ∨
      (∀ x ∈ sight.seen, key x ≠ n) ∧ result = .error (.input notFound)
  /-- With a larger number the text is taken for a name. -/
  named : 2 ^ 64 ≤ n → result = found wrap notFound (sight.named argument)

theorem found_of_finds {numbered : Id → Option α} {seen : List α} {key : α → Id}
    (wrap : α → Value) (notFound : UserInputError) (finds : Finds numbered seen key) (n : Nat) :
    (∃ x ∈ seen, key x = n ∧ found wrap notFound (numbered n) = .ok (wrap x)) ∨
      (∀ x ∈ seen, key x ≠ n) ∧ found wrap notFound (numbered n) = .error (.input notFound) := by
  cases here : numbered n with
  | some x =>
    obtain ⟨member, own⟩ := finds.own n x here
    exact .inl ⟨x, member, own, rfl⟩
  | none =>
    refine .inr ⟨?_, rfl⟩
    rintro x member rfl
    exact finds.all x member here

theorem byNumber_place {sight : Sight α} {key : α → Id} (wrap : α → Value)
    (notFound : UserInputError)
    (finds : Consistent ctx.directory → Finds sight.numbered sight.seen key)
    (plain : ∀ sigil ∈ sigils, sigil.toList.all (!·.isDigit) = true)
    (writes : Writes sigils argument n) :
    ByNumber ctx sight key wrap notFound argument n
      (found wrap notFound (sight.place sigils argument)) := by
  have read := readId?_of_writes plain writes
  have lookedUp (fits : n < 2 ^ 64) : sight.place sigils argument = sight.numbered n := by
    rw [Sight.place, read, if_pos fits]
  refine ⟨?_, ?_, ?_⟩
  · intro fits
    rw [lookedUp fits]
  · intro fits consistent
    rw [lookedUp fits]
    exact found_of_finds wrap notFound (finds consistent) n
  · intro large
    rw [Sight.place, read, if_neg (Nat.not_lt.2 large)]

/-- Texts that write numbers, to each kind of object. -/
structure ObjectsByNumber (ctx : Context) (argument : String) : Prop where
  user : ∀ n, Writes userSigils argument n →
    ByNumber ctx (usersInSight ctx) User.id .user (.userNotFound argument) argument n
      (Convert.user ctx argument)
  member : ∀ n, Writes userSigils argument n →
    ByNumber ctx (membersInSight ctx) Member.id .member (.memberNotFound argument) argument n
      (Convert.member ctx argument)
  channel : ∀ n, Writes channelSigils argument n →
    ByNumber ctx (channelsInSight ctx) Channel.id .channel (.channelNotFound argument) argument n
      (Convert.channel ctx argument)
  role : ∀ n, Writes roleSigils argument n →
    ByNumber ctx (rolesInSight ctx) Role.id .role (.roleNotFound argument) argument n
      (Convert.role ctx argument)

/-- A text that writes a number of 64 bits names the object with that number that the invocation
sees, or fails where there is none. It is a name only if the number is larger. -/
theorem written_number_names_object (ctx : Context) (argument : String) :
    ObjectsByNumber ctx argument where
  user n writes := by
    rw [user_eq]
    exact byNumber_place _ _ Consistent.users (by decide) writes
  member n writes := by
    rw [member_eq]
    exact byNumber_place _ _ finds_members (by decide) writes
  channel n writes := by
    rw [channel_eq]
    exact byNumber_place _ _ finds_channels (by decide) writes
  role n writes := by
    rw [role_eq]
    exact byNumber_place _ _ finds_roles (by decide) writes

/-- An invocation outside every scope that asks a directory in memory. -/
def asker (d : MemoryDirectory) : Context where
  author := ⟨1, "alice", false, [], Permissions.none⟩
  origin := ⟨.direct, none, { id := 90, name := "alice" }⟩
  content := ""
  responder := .discard
  directory := d.toDirectory

/-- A mention that writes 8 with leading zeros names the user with that number, though another user
goes by the mention as a name. -/
theorem mention_outdoes_namesake :
    let mention := "<@!000000000000008>"
    let namesake : User := { id := 7, name := mention }
    let bob : User := { id := 8, name := "bob" }
    let ctx := asker { users := [namesake, bob] }
    Writes userSigils mention 8 ∧ ObjectsByNumber ctx mention ∧
      Convert.user ctx mention = .ok (.user bob) := by
  intro mention namesake bob ctx
  have known : "@!" ∈ userSigils := by decide
  have writes : Writes userSigils mention 8 := by
    refine ⟨"000000000000008".toList, ⟨by decide, by decide, by decide⟩, by decide, ?_⟩
    have text : mention.toList = '<' :: ("@!".toList ++ "000000000000008".toList ++ ['>']) := by
      decide
    rw [text]
    exact .mention known
  have named := written_number_names_object ctx mention
  exact ⟨writes, named, (named.user 8 writes).lookedUp (by decide)⟩

/-- The number of twenty nines does not fit 64 bits, and names a user that has it for a name and is
number 8. -/
theorem number_too_large_is_a_name :
    let nines := "99999999999999999999"
    let namesake : User := { id := 8, name := nines }
    let ctx := asker { users := [namesake] }
    Writes userSigils nines 99999999999999999999 ∧ Consistent ctx.directory ∧
      Convert.user ctx nines = .ok (.user namesake) ∧
      namesake.id ≠ 99999999999999999999 := by
  intro nines namesake ctx
  have writes : Writes userSigils nines 99999999999999999999 :=
    ⟨nines.toList, ⟨by decide, by decide, by decide⟩, by decide, .bare⟩
  have named : (usersInSight ctx).place userSigils nines = some namesake := by decide +kernel
  refine ⟨writes, consistent_toDirectory _, ?_, by decide⟩
  rw [user_eq, named]
  rfl

end ChatCommands.NumberedObjects
