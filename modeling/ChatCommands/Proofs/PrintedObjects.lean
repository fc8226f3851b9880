import ChatCommands.Proofs.NumberedObjects
import ChatCommands.Proofs.TypedBeginnings

/-! Objects typed back from what they print. Users print the name of their account, members the
name they are known by in their scope, channels and roles their name behind a sign. Each of these
names is one that the object goes by, so where nobody else goes by it the object is found again. The
sign in front of a channel's name is taken off for that, the one in front of a role's name is not:
no role is ever found by what it prints. -/
namespace ChatCommands.PrintedObjects
open ChatCommands.Convert NameTiers NumberedObjects TypedBeginnings

variable {α : Type} {names : α → List String} {candidates : List α} {x : α}
  {sigils : List String} {shown text : String} {ctx : Context}

/-! ## Texts without a number -/

/-- A text writes no number of an object, neither bare nor in a mention. -/
def Numberless (sigils : List String) (text : String) : Prop :=
  ∀ n < 2 ^ 64, ¬ Writes sigils text n

theorem readId?_of_numberless (numberless : Numberless sigils text) :
    readId? sigils text = none := by
  cases read : readId? sigils text with
  | none => rfl
  | some n =>
    obtain ⟨fits, writes⟩ := writes_of_readId? read
    exact absurd writes (numberless n fits)

/-- Numbers start with a digit and mentions with a bracket. -/
theorem numberless_of_sign {sign : Char} {rest : List Char} (begins : text.toList = sign :: rest)
    (noDigit : sign.isDigit = false) (noBracket : sign ≠ '<') : Numberless sigils text := by
  rintro n - ⟨cs, digits, -, spelled⟩
  rw [begins] at spelled
  generalize whole : sign :: rest = written at spelled
  cases spelled with
  | bare =>
    have first := List.all_eq_true.1 digits.digits sign (whole ▸ List.mem_cons_self)
    rw [noDigit] at first
    contradiction
  | mention known => exact noBracket (List.cons_eq_cons.1 whole).1

/-! ## Names that one candidate has -/

/-- Nobody among the candidates but `x` goes by a name. -/
def Sole (names : α → List String) (candidates : List α) (shown : String) (x : α) : Prop :=
  ∀ y ∈ candidates, shown ∈ names y → y = x

theorem matchName?_of_sole (named : shown ≠ "") (member : x ∈ candidates) (own : shown ∈ names x)
    (sole : Sole names candidates shown x) : matchName? names candidates shown = some x := by
  rw [matchName?_eq named]
  cases first : firstAt? names shown .exact candidates with
  | none =>
    have nobody := firstAt?_eq_none_iff.1 first
    exact absurd ⟨shown, own, rfl⟩ (nobody x member)
  | some y =>
    obtain ⟨name, its, rfl⟩ := (firstAt?_eq_some_iff.1 first).1
    have same : y = x := sole y (List.mem_of_find?_eq_some first) its
    rw [same]
    rfl

/-- Whoever is picked has a name that begins so at least. -/
theorem begun_of_matchName? (picked : matchName? names candidates text = some x) :
    Matches names text .begun x := by
  have named : text ≠ "" := by
    rintro rfl
    contradiction
  cases (picked ▸ best_matchName? named : Best names text candidates (some x)) with
  | exact first => exact first.1.folded.begun
  | folded _ first => exact first.1.begun
  | begun _ only => exact only.1

/-! ## What a scope names -/

variable {scope : Id}

theorem members_named (inScope : ctx.scope = some scope) : (membersInSight ctx).named =
    matchName? memberNames (ctx.directory.members scope) := by
  unfold membersInSight
  rw [inScope]

theorem channels_named (inScope : ctx.scope = some scope) (text : String) :
    (channelsInSight ctx).named text =
      matchName? (fun c => [c.name]) (ctx.directory.channels scope) (withoutHash text) := by
  unfold channelsInSight
  rw [inScope]

theorem roles_named (inScope : ctx.scope = some scope) : (rolesInSight ctx).named =
    matchName? (fun r => [r.name]) (ctx.directory.roles scope) := by
  unfold rolesInSight
  rw [inScope]

/-- A text without a number that names an object is converted to it. -/
theorem placed {sight : Sight α} {wrap : α → Value} {notFound : UserInputError}
    (numberless : Numberless sigils text) (named : sight.named text = some x) :
    found wrap notFound (sight.place sigils text) = .ok (wrap x) := by
  rw [Sight.place, readId?_of_numberless numberless]
  simp only [named, found]

/-! ## A sign in front of a name -/

variable {c : Char} {before cs : List Char} {name : String}

/-- What counts and is no letter keeps words apart. -/
theorem touches_apart (counts : ¬ Ignored c) (plain : ¬ Cased c) :
    Touches (before ++ [c]) ↔ Touches before := by
  by_cases skipped : ∀ d ∈ before, Ignored d
  · rw [touches_behind skipped, touches_here counts]
    exact iff_of_false plain (not_touches_of_ignored skipped)
  · exact touches_append skipped

theorem lowerAfter_apart (counts : ¬ Ignored c) (plain : ¬ Cased c) :
    Text.lowerAfter (before ++ [c]) cs = Text.lowerAfter before cs := by
  induction cs generalizing before with
  | nil => rfl
  | cons d rest ih =>
    have same : Text.meetsCased (before ++ [c]) = Text.meetsCased before := by
      rw [Bool.eq_iff_iff, meetsCased_iff, meetsCased_iff]
      exact touches_apart counts plain
    rw [lowerAfter_cons, lowerAfter_cons, image, image, same, ← List.cons_append, ih]

theorem toList_lower_sign (name : String) :
    (Text.lower ("@" ++ name)).toList = '@' :: (Text.lower name).toList := by
  have counts : ¬ Ignored '@' := by
    unfold Ignored
    decide
  have plain : ¬ Cased '@' := by
    unfold Cased
    decide
  have own : image [] '@' name.toList = ['@'] := by
    have kept : Text.lowerChar '@' = ['@'] := by decide
    rw [image, if_neg (by decide), kept]
  have spelled : ("@" ++ name).toList = '@' :: name.toList := by simp
  have apart : Text.lowerAfter ['@'] name.toList = Text.lowerAfter [] name.toList := by
    rw [← List.nil_append ['@'], lowerAfter_apart counts plain]
  rw [Text.lower, Text.lower, String.toList_ofList, String.toList_ofList, Text.lowerChars,
    Text.lowerChars, spelled, lowerAfter_cons, own, apart]
  rfl

/-- A name never begins with itself behind a sign. -/
theorem not_begun_of_sign : ¬ Near ("@" ++ name) name .begun := by
  intro begun
  have shorter := List.IsPrefix.length_le begun
  rw [toList_lower_sign, List.length_cons] at shorter
  omega

/-- No role is found by what it prints. -/
theorem role_never_typed_back (ctx : Context) (r : Role) :
    Convert.role ctx (Value.role r).display ≠ .ok (.role r) := by
  intro converted
  have spelled : (Value.role r).display = "@" ++ r.name := by rw [Value.display]
  have begins : (Value.role r).display.toList = '@' :: r.name.toList := by simp [spelled]
  have numberless : Numberless roleSigils (Value.role r).display :=
    numberless_of_sign begins (by decide) (by decide)
  rw [role_eq, Sight.place, readId?_of_numberless numberless] at converted
  have named : (rolesInSight ctx).named (Value.role r).display = some r := by
    obtain ⟨other, picked, same⟩ := ScopedObjects.found_eq_ok.1 converted
    cases same
    exact picked
  cases inScope : ctx.scope with
  | none =>
    unfold rolesInSight at named
    rw [inScope] at named
    contradiction
  | some scope =>
    rw [roles_named inScope] at named
    obtain ⟨name, own, near⟩ := begun_of_matchName? named
    rw [List.mem_singleton.1 own, spelled] at near
    exact not_begun_of_sign near

/-! ## Every kind of object -/

theorem displayName_mem_memberNames (m : Member) : m.displayName ∈ memberNames m := by
  unfold Member.displayName User.displayName memberNames
  cases m.nick with
  | some nick => simp
  | none => cases m.user.globalName <;> simp

/-- No channel's name behind the sign is a number or a mention, which has the sign in brackets. -/
theorem channel_numberless : Numberless channelSigils ("#" ++ name) := by
  have begins : ("#" ++ name).toList = '#' :: name.toList := by simp
  exact numberless_of_sign begins (by decide) (by decide)

theorem withoutHash_sign (name : String) : withoutHash ("#" ++ name) = name := by
  have spelled : ("#" ++ name).toList = '#' :: name.toList := by simp
  rw [withoutHash, spelled]
  exact String.ofList_toList

/-- Typing what objects print, in an invocation: what is printed is a name that nobody else of the
kind goes by. -/
structure TypedBack (ctx : Context) : Prop where
  user : ∀ u ∈ ctx.directory.users, u.name ≠ "" →
    Sole userNames ctx.directory.users u.name u →
    Numberless userSigils (Value.user u).display →
      Convert.user ctx (Value.user u).display = .ok (.user u)
  member : ∀ scope, ctx.scope = some scope → ∀ m ∈ ctx.directory.members scope,
    m.displayName ≠ "" → Sole memberNames (ctx.directory.members scope) m.displayName m →
    Numberless userSigils (Value.member m).display →
      Convert.member ctx (Value.member m).display = .ok (.member m)
  channel : ∀ scope, ctx.scope = some scope → ∀ c ∈ ctx.directory.channels scope,
    c.name ≠ "" → Sole (fun c => [c.name]) (ctx.directory.channels scope) c.name c →
      Convert.channel ctx (Value.channel c).display = .ok (.channel c)
  /-- Outside every scope no channel has a name, not even the one written in. -/
  home : ctx.scope = none → ∀ c, Convert.channel ctx (Value.channel c).display =
    .error (.input (.channelNotFound (Value.channel c).display))
  /-- A role is found by its name without the sign, … -/
  role : ∀ scope, ctx.scope = some scope → ∀ r ∈ ctx.directory.roles scope,
    r.name ≠ "" → Sole (fun r => [r.name]) (ctx.directory.roles scope) r.name r →
    Numberless roleSigils r.name → Convert.role ctx r.name = .ok (.role r)
  /-- … and never with it. -/
  sign : ∀ r, Convert.role ctx (Value.role r).display ≠ .ok (.role r)

/-- What users print can be typed back, and inside a scope what members and channels print,
whatever the directory lists. What roles print cannot, though their bare names can. -/
theorem printed_objects_typed_back (ctx : Context) : TypedBack ctx where
  user u seen named sole numberless := by
    rw [user_eq]
    apply placed numberless
    rw [Value.display]
    exact matchName?_of_sole named seen (by simp [userNames]) sole
  member scope inScope m seen named sole numberless := by
    rw [member_eq]
    apply placed numberless
    rw [members_named inScope, Value.display]
    exact matchName?_of_sole named seen (displayName_mem_memberNames m) sole
  channel scope inScope c seen named sole := by
    have spelled : (Value.channel c).display = "#" ++ c.name := by rw [Value.display]
    rw [channel_eq, spelled]
    apply placed channel_numberless
    rw [channels_named inScope, withoutHash_sign]
    exact matchName?_of_sole named seen (by simp) sole
  home outside c := by
    have spelled : (Value.channel c).display = "#" ++ c.name := by rw [Value.display]
    have unnamed : (channelsInSight ctx).named ("#" ++ c.name) = none := by
      unfold channelsInSight
      rw [outside]
    rw [channel_eq, spelled, Sight.place, readId?_of_numberless channel_numberless]
    simp only [unnamed, found]
  role scope inScope r seen named sole numberless := by
    rw [role_eq]
    apply placed numberless
    rw [roles_named inScope]
    exact matchName?_of_sole named seen (by simp) sole
  sign := role_never_typed_back ctx

/-- An invocation in a scope that asks a directory in memory. -/
def insider (d : MemoryDirectory) : Context :=
  { asker d with origin := ⟨.shared, some 10, { id := 50, name := "general", scopeId := some 10 }⟩ }

/-- A nickname that begins another member's name, and a channel's name that is another's with the
sign, are typed back. -/
theorem nearby_names_typed_back :
    let ally : Member :=
      { user := { id := 1, name := "alice" }, scopeId := 10, nick := some "ally" }
    let allyson : Member := { user := { id := 2, name := "allyson" }, scopeId := 10 }
    let general : Channel := { id := 50, name := "general", scopeId := some 10 }
    let signed : Channel := { id := 51, name := "#general", scopeId := some 10 }
    let ctx := insider { members := [allyson, ally], channels := [general, signed] }
    TypedBack ctx ∧ Convert.member ctx "ally" = .ok (.member ally) ∧
      Convert.channel ctx "#general" = .ok (.channel general) ∧
      Convert.channel ctx "##general" = .ok (.channel signed) := by
  intro ally allyson general signed ctx
  have typed := printed_objects_typed_back ctx
  have numberless : Numberless userSigils "ally" := by
    have begins : "ally".toList = 'a' :: "lly".toList := by decide
    exact numberless_of_sign begins (by decide) (by decide)
  have members : ctx.directory.members 10 = [allyson, ally] := by rfl
  have channels : ctx.directory.channels 10 = [general, signed] := by rfl
  refine ⟨typed, ?_, ?_, ?_⟩
  · refine typed.member 10 rfl ally ?_ (by decide) ?_ numberless
    · simp [members]
    · simp [Sole, members, memberNames, ally, allyson, Member.displayName]
  · refine typed.channel 10 rfl general ?_ (by decide) ?_
    · simp [channels]
    · simp [Sole, channels, general, signed]
  · refine typed.channel 10 rfl signed ?_ (by decide) ?_
    · simp [channels]
    · simp [Sole, channels, general, signed]

/-- The only role of a scope prints what finds no role. -/
theorem sign_hides_mods :
    let mods : Role := ⟨3, "Mods", 10⟩
    let ctx := insider { roles := [mods] }
    mods ∈ ctx.directory.roles 10 ∧ (Value.role mods).display = "@Mods" ∧
      Numberless roleSigils "@Mods" ∧ mods.name ≠ "" ∧
      Sole (fun r => [r.name]) (ctx.directory.roles 10) mods.name mods ∧
      Convert.role ctx "@Mods" = .error (.input (.roleNotFound "@Mods")) := by
  intro mods ctx
  have begins : "@Mods".toList = '@' :: "Mods".toList := by decide
  have numberless : Numberless roleSigils "@Mods" :=
    numberless_of_sign begins (by decide) (by decide)
  have roles : ctx.directory.roles 10 = [mods] := by rfl
  have unnamed : (rolesInSight ctx).named "@Mods" = none := by decide +kernel
  refine ⟨?_, by rw [Value.display]; rfl, numberless, by decide, ?_, ?_⟩
  · simp [roles]
  · simp [Sole, roles]
  · rw [role_eq, Sight.place, readId?_of_numberless numberless, unnamed]
    rfl

end ChatCommands.PrintedObjects
