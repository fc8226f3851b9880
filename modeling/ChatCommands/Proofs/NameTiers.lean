import ChatCommands.Convert.Object

/-! Which candidate a name picks. A name can come near to a text in three ways, each wider than the
one before: it is the text, it is the text in lower case, or it begins with the text in lower case.
The nearest way that any candidate offers decides: the first candidate in the first two ways, the
only one in the last (`Best`). -/
namespace ChatCommands.NameTiers
open ChatCommands.Convert

variable {α : Type} {names : α → List String} {argument name : String} {tier : Tier}
  {candidates others before after : List α} {c d : α} {result : Option α}

/-! ## How near a name comes -/

/-- How near a name comes to a text, the nearest first. -/
inductive Tier where
  | exact
  | folded
  | begun

/-- A name comes this near to a text. -/
def Near (argument name : String) : Tier → Prop
  | .exact => name = argument
  | .folded => Text.lower name = Text.lower argument
  | .begun => (Text.lower argument).toList <+: (Text.lower name).toList

instance : ∀ tier, Decidable (Near argument name tier)
  | .exact => inferInstanceAs (Decidable (name = argument))
  | .folded => inferInstanceAs (Decidable (Text.lower name = Text.lower argument))
  | .begun =>
    inferInstanceAs (Decidable ((Text.lower argument).toList <+: (Text.lower name).toList))

/-- A candidate has a name that comes this near to a text. -/
def Matches (names : α → List String) (argument : String) (tier : Tier) (c : α) : Prop :=
  ∃ name ∈ names c, Near argument name tier

instance : Decidable (Matches names argument tier c) :=
  inferInstanceAs (Decidable (∃ name ∈ names c, Near argument name tier))

theorem Matches.folded (exact : Matches names argument .exact c) :
    Matches names argument .folded c := by
  obtain ⟨name, own, same⟩ := exact
  exact ⟨name, own, congrArg Text.lower same⟩

theorem Matches.begun (folded : Matches names argument .folded c) :
    Matches names argument .begun c := by
  obtain ⟨name, own, same⟩ := folded
  have whole : (Text.lower argument).toList = (Text.lower name).toList :=
    congrArg String.toList same.symm
  refine ⟨name, own, ?_⟩
  change (Text.lower argument).toList <+: (Text.lower name).toList
  exact whole ▸ List.prefix_rfl

/-! ## The best match -/

/-- The first candidate that comes this near. -/
def FirstAt (names : α → List String) (argument : String) (tier : Tier) (candidates : List α)
    (c : α) : Prop :=
  Matches names argument tier c ∧
    ∃ before after, candidates = before ++ c :: after ∧
      ∀ d ∈ before, ¬ Matches names argument tier d

/-- The only candidate that comes this near. -/
def OnlyAt (names : α → List String) (argument : String) (tier : Tier) (candidates : List α)
    (c : α) : Prop :=
  Matches names argument tier c ∧
    ∃ before after, candidates = before ++ c :: after ∧
      (∀ d ∈ before, ¬ Matches names argument tier d) ∧ ∀ d ∈ after, ¬ Matches names argument tier d

/-- No candidate comes this near. -/
def NoneAt (names : α → List String) (argument : String) (tier : Tier) (candidates : List α) :
    Prop :=
  ∀ c ∈ candidates, ¬ Matches names argument tier c

theorem NoneAt.exact (noneFolded : NoneAt names argument .folded candidates) :
    NoneAt names argument .exact candidates :=
  fun c member exact => noneFolded c member exact.folded

theorem NoneAt.folded (noneBegun : NoneAt names argument .begun candidates) :
    NoneAt names argument .folded candidates :=
  fun c member folded => noneBegun c member folded.begun

/-- The best match for a text among candidates, if there is one. -/
inductive Best (names : α → List String) (argument : String) (candidates : List α) :
    Option α → Prop
  /-- The first candidate with that name. -/
  | exact {c : α} (first : FirstAt names argument .exact candidates c) :
    Best names argument candidates (some c)
  /-- The first candidate with that name in lower case, where none has it as it is written. -/
  | folded {c : α} (noneExact : NoneAt names argument .exact candidates)
    (first : FirstAt names argument .folded candidates c) : Best names argument candidates (some c)
  /-- The only candidate with a name that begins so, where none has the whole name. -/
  | begun {c : α} (noneFolded : NoneAt names argument .folded candidates)
    (only : OnlyAt names argument .begun candidates c) : Best names argument candidates (some c)
  /-- None where no candidate has a name that begins so. -/
  | nobody (noneBegun : NoneAt names argument .begun candidates) :
    Best names argument candidates none
  /-- None where several candidates have a name that begins so, and none has the whole name. -/
  | several {c d : α} (noneFolded : NoneAt names argument .folded candidates)
    (two : [c, d].Sublist candidates) (left : Matches names argument .begun c)
    (right : Matches names argument .begun d) : Best names argument candidates none

/-! ## What the search answers -/

/-- The first candidate that comes this near, if there is one. -/
def firstAt? (names : α → List String) (argument : String) (tier : Tier) (candidates : List α) :
    Option α :=
  candidates.find? fun c => decide (Matches names argument tier c)

/-- The candidates that come this near. -/
def allAt (names : α → List String) (argument : String) (tier : Tier) (candidates : List α) :
    List α :=
  candidates.filter fun c => decide (Matches names argument tier c)

theorem contains_eq_decide :
    (names c).contains argument = decide (Matches names argument .exact c) := by
  rw [Bool.eq_iff_iff, List.contains_iff_mem, decide_eq_true_iff]
  constructor
  · intro own
    exact ⟨argument, own, rfl⟩
  · rintro ⟨name, own, rfl⟩
    exact own

theorem any_lower_eq_decide : ((names c).any fun n => Text.lower n == Text.lower argument) =
    decide (Matches names argument .folded c) := by
  rw [Bool.eq_iff_iff, List.any_eq_true, decide_eq_true_iff]
  simp only [beq_iff_eq]
  rfl

theorem beginsWith_iff {start cs : List Char} : beginsWith start cs = true ↔ start <+: cs := by
  rw [beginsWith, Option.isSome_iff_exists]
  constructor
  · rintro ⟨rest, cut⟩
    exact ⟨rest, (Text.stripStart_eq_some_iff.1 cut).symm⟩
  · rintro ⟨rest, whole⟩
    exact ⟨rest, Text.stripStart_eq_some_iff.2 whole.symm⟩

theorem any_beginsWith_eq_decide :
    ((names c).any fun n => beginsWith (Text.lower argument).toList (Text.lower n).toList) =
      decide (Matches names argument .begun c) := by
  rw [Bool.eq_iff_iff, List.any_eq_true, decide_eq_true_iff]
  simp only [beginsWith_iff]
  rfl

/-- The three searches, each made only where those before it find nothing. -/
theorem matchName?_eq (named : argument ≠ "") : matchName? names candidates argument =
    ((firstAt? names argument .exact candidates).or (firstAt? names argument .folded candidates)).or
      (only? (allAt names argument .begun candidates)) := by
  have given : argument.isEmpty = false := by
    rw [Bool.eq_false_iff]
    intro empty
    exact named (String.isEmpty_iff.1 empty)
  simp only [matchName?, given, Bool.false_eq_true, if_false, contains_eq_decide,
    any_lower_eq_decide, any_beginsWith_eq_decide, firstAt?, allAt]
  cases candidates.find? fun c => decide (Matches names argument .exact c) with
  | some c => rfl
  | none =>
    cases candidates.find? fun c => decide (Matches names argument .folded c) with
    | some c => rfl
    | none => rfl

theorem firstAt?_eq_some_iff :
    firstAt? names argument tier candidates = some c ↔
      FirstAt names argument tier candidates c := by
  simp only [firstAt?, List.find?_eq_some_iff_append, FirstAt, decide_eq_true_iff,
    Bool.not_eq_true', decide_eq_false_iff_not]

theorem firstAt?_eq_none_iff :
    firstAt? names argument tier candidates = none ↔ NoneAt names argument tier candidates := by
  simp only [firstAt?, List.find?_eq_none, NoneAt, decide_eq_true_iff]

/-- Beginnings decide where no candidate has the whole name, in any case. -/
theorem matchName?_eq_only? (named : argument ≠ "")
    (noneFolded : NoneAt names argument .folded candidates) :
    matchName? names candidates argument = only? (allAt names argument .begun candidates) := by
  rw [matchName?_eq named, firstAt?_eq_none_iff.2 noneFolded.exact,
    firstAt?_eq_none_iff.2 noneFolded, Option.none_or, Option.none_or]

theorem allAt_eq_nil_iff :
    allAt names argument tier candidates = [] ↔ NoneAt names argument tier candidates := by
  simp only [allAt, List.filter_eq_nil_iff, NoneAt, decide_eq_true_iff]

theorem only?_eq_some_iff {found : List α} : only? found = some c ↔ found = [c] := by
  rcases found with _ | ⟨d, _ | ⟨e, rest⟩⟩ <;> simp [only?]

theorem only?_allAt_eq_some_iff :
    only? (allAt names argument tier candidates) = some c ↔
      OnlyAt names argument tier candidates c := by
  rw [only?_eq_some_iff, allAt, List.filter_eq_cons_iff]
  simp only [List.filter_eq_nil_iff, decide_eq_true_iff, OnlyAt]
  constructor
  · rintro ⟨before, after, whole, farBefore, near, farAfter⟩
    exact ⟨near, before, after, whole, farBefore, farAfter⟩
  · rintro ⟨near, before, after, whole, farBefore, farAfter⟩
    exact ⟨before, after, whole, farBefore, near, farAfter⟩

/-- Nothing is picked as the only one where there is none or where there are two. -/
theorem none_or_two_of_only? (unpicked : only? (allAt names argument tier candidates) = none) :
    NoneAt names argument tier candidates ∨
      ∃ c d, [c, d].Sublist candidates ∧ Matches names argument tier c ∧
        Matches names argument tier d := by
  cases found : allAt names argument tier candidates with
  | nil => exact .inl (allAt_eq_nil_iff.1 found)
  | cons c rest =>
    cases rest with
    | nil =>
      rw [found] at unpicked
      contradiction
    | cons d rest =>
      have near : ∀ e ∈ c :: d :: rest, Matches names argument tier e := by
        intro e member
        rw [← found] at member
        exact of_decide_eq_true (List.mem_filter.1 member).2
      have within : [c, d].Sublist (allAt names argument tier candidates) := by
        rw [found]
        exact .cons_cons c (.cons_cons d (List.nil_sublist rest))
      exact .inr ⟨c, d, within.trans List.filter_sublist, near c List.mem_cons_self,
        near d (List.mem_cons_of_mem c List.mem_cons_self)⟩

theorem only?_of_two (two : [c, d].Sublist candidates) (left : Matches names argument tier c)
    (right : Matches names argument tier d) :
    only? (allAt names argument tier candidates) = none := by
  have within : [c, d].Sublist (allAt names argument tier candidates) := by
    have both : allAt names argument tier [c, d] = [c, d] := by simp [allAt, left, right]
    rw [← both]
    exact two.filter _
  cases picked : only? (allAt names argument tier candidates) with
  | none => rfl
  | some e =>
    rw [only?_eq_some_iff.1 picked] at within
    have short := within.length_le
    contradiction

/-! ## The search picks the best match -/

theorem best_matchName? (named : argument ≠ "") :
    Best names argument candidates (matchName? names candidates argument) := by
  rw [matchName?_eq named]
  cases exact : firstAt? names argument .exact candidates with
  | some c => exact .exact (firstAt?_eq_some_iff.1 exact)
  | none =>
    have noneExact := firstAt?_eq_none_iff.1 exact
    cases folded : firstAt? names argument .folded candidates with
    | some c => exact .folded noneExact (firstAt?_eq_some_iff.1 folded)
    | none =>
      have noneFolded := firstAt?_eq_none_iff.1 folded
      rw [Option.or_none, Option.none_or]
      cases only : only? (allAt names argument .begun candidates) with
      | some c => exact .begun noneFolded (only?_allAt_eq_some_iff.1 only)
      | none =>
        rcases none_or_two_of_only? only with noneBegun | ⟨c, d, two, left, right⟩
        · exact .nobody noneBegun
        · exact .several noneFolded two left right

theorem matchName?_of_best (named : argument ≠ "") (best : Best names argument candidates result) :
    matchName? names candidates argument = result := by
  cases best with
  | exact first =>
    rw [matchName?_eq named, firstAt?_eq_some_iff.2 first, Option.some_or, Option.some_or]
  | folded noneExact first =>
    rw [matchName?_eq named, firstAt?_eq_none_iff.2 noneExact, firstAt?_eq_some_iff.2 first,
      Option.none_or, Option.some_or]
  | begun noneFolded only =>
    rw [matchName?_eq_only? named noneFolded, only?_allAt_eq_some_iff.2 only]
  | nobody noneBegun =>
    rw [matchName?_eq_only? named noneBegun.folded, allAt_eq_nil_iff.2 noneBegun]
    rfl
  | several noneFolded two left right =>
    rw [matchName?_eq_only? named noneFolded, only?_of_two two left right]

/-! ## The order of the candidates -/

/-- Two candidates tie for a text: both have that name, or no candidate has it as it is written and
both have it in lower case. -/
inductive Tied (names : α → List String) (argument : String) (candidates : List α) (c d : α) : Prop
  | exact (left : Matches names argument .exact c) (right : Matches names argument .exact d)
  | folded (noneExact : NoneAt names argument .exact candidates)
    (left : Matches names argument .folded c) (right : Matches names argument .folded d)

/-- In any order the first search finds nobody or some candidates that come equally near. -/
theorem firstAt?_of_perm (names : α → List String) (argument : String) (tier : Tier)
    (permuted : candidates.Perm others) :
    (NoneAt names argument tier candidates ∧ firstAt? names argument tier candidates = none ∧
      firstAt? names argument tier others = none) ∨
    ∃ c ∈ candidates, ∃ d ∈ candidates, Matches names argument tier c ∧
      Matches names argument tier d ∧ firstAt? names argument tier candidates = some c ∧
        firstAt? names argument tier others = some d := by
  cases here : firstAt? names argument tier candidates with
  | none =>
    have noneAt := firstAt?_eq_none_iff.1 here
    have noneThere : NoneAt names argument tier others :=
      fun c member => noneAt c (permuted.mem_iff.2 member)
    exact .inl ⟨noneAt, rfl, firstAt?_eq_none_iff.2 noneThere⟩
  | some c =>
    have nearHere := (firstAt?_eq_some_iff.1 here).1
    have memberHere := List.mem_of_find?_eq_some here
    cases there : firstAt? names argument tier others with
    | none => exact absurd nearHere (firstAt?_eq_none_iff.1 there c (permuted.mem_iff.1 memberHere))
    | some d =>
      exact .inr ⟨c, memberHere, d, permuted.mem_iff.2 (List.mem_of_find?_eq_some there), nearHere,
        (firstAt?_eq_some_iff.1 there).1, rfl, rfl⟩

theorem only?_of_perm (permuted : candidates.Perm others) :
    only? (allAt names argument tier others) = only? (allAt names argument tier candidates) := by
  have same : (allAt names argument tier candidates).Perm (allAt names argument tier others) :=
    permuted.filter _
  ext c
  rw [only?_eq_some_iff, only?_eq_some_iff, ← List.perm_singleton, ← List.perm_singleton]
  exact ⟨same.trans, same.symm.trans⟩

theorem matchName?_of_perm (named : argument ≠ "") (permuted : candidates.Perm others) :
    matchName? names others argument = matchName? names candidates argument ∨
      ∃ c ∈ candidates, ∃ d ∈ candidates, Tied names argument candidates c d ∧
        matchName? names candidates argument = some c ∧
        matchName? names others argument = some d := by
  rw [matchName?_eq named, matchName?_eq named]
  -- the same search decides in both orders, and only the first two depend on the order
  rcases firstAt?_of_perm names argument .exact permuted with
    ⟨noneExact, here, there⟩ | ⟨c, memberHere, d, memberThere, left, right, here, there⟩
  · rw [here, there]
    rcases firstAt?_of_perm names argument .folded permuted with
      ⟨-, here, there⟩ | ⟨c, memberHere, d, memberThere, left, right, here, there⟩
    · rw [here, there, only?_of_perm permuted]
      exact .inl rfl
    · rw [here, there]
      exact .inr ⟨c, memberHere, d, memberThere, .folded noneExact left right, rfl, rfl⟩
  · rw [here, there]
    exact .inr ⟨c, memberHere, d, memberThere, .exact left right, rfl, rfl⟩

/-! ## Candidates that come near in no way -/

theorem matchName?_insert (named : argument ≠ "") (far : ∀ tier, ¬ Matches names argument tier c) :
    matchName? names (before ++ c :: after) argument =
      matchName? names (before ++ after) argument := by
  have first (tier : Tier) : firstAt? names argument tier (before ++ c :: after) =
      firstAt? names argument tier (before ++ after) := by
    unfold firstAt?
    rw [List.find?_append, List.find?_cons_of_neg (by simp [far tier]), ← List.find?_append]
  have all : allAt names argument .begun (before ++ c :: after) =
      allAt names argument .begun (before ++ after) := by
    unfold allAt
    rw [List.filter_append, List.filter_cons_of_neg (by simp [far .begun]), ← List.filter_append]
  rw [matchName?_eq named, matchName?_eq named, first, first, all]

/-! ## The rule -/

/-- The search of candidates for a text picks the best match. The order of the candidates decides
only between those that tie, and a candidate that comes near in no way changes nothing. -/
structure PicksBest (names : α → List String) (argument : String) (candidates : List α) : Prop where
  best : ∀ result, matchName? names candidates argument = result ↔
    Best names argument candidates result
  permuted : ∀ others, candidates.Perm others →
    matchName? names others argument = matchName? names candidates argument ∨
      ∃ c ∈ candidates, ∃ d ∈ candidates, Tied names argument candidates c d ∧
        matchName? names candidates argument = some c ∧ matchName? names others argument = some d
  unmoved : ∀ c before after, candidates = before ++ after →
    (∀ tier, ¬ Matches names argument tier c) →
      matchName? names (before ++ c :: after) argument = matchName? names candidates argument

/-- A text that is not empty picks its best match from every list of candidates. -/
theorem best_match_picked (names : α → List String) (candidates : List α) (named : argument ≠ "") :
    PicksBest names argument candidates where
  best := by
    intro result
    constructor
    · rintro rfl
      exact best_matchName? named
    · exact matchName?_of_best named
  permuted := fun _ permuted => matchName?_of_perm named permuted
  unmoved := by
    rintro c before after rfl far
    exact matchName?_insert named far

/-- Two users go by a name that is `AL` in lower case, one by the name in its account and one by a
name of its choice. Whoever is listed first is picked, though another name begins so too. -/
theorem first_of_tied_users :
    let bob : User := { id := 1, name := "bob", globalName := some "Al" }
    let al : User := { id := 2, name := "al", globalName := some "Alice" }
    let alice : User := { id := 3, name := "Alice" }
    "AL" ≠ "" ∧ PicksBest userNames "AL" [alice, bob, al] ∧
      matchName? userNames [alice, bob, al] "AL" = some bob ∧
      matchName? userNames [al, alice, bob] "AL" = some al := by
  have named : "AL" ≠ "" := by decide
  exact ⟨named, best_match_picked userNames _ named, by decide +kernel, by decide +kernel⟩

end ChatCommands.NameTiers
