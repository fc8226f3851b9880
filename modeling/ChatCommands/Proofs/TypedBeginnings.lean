import ChatCommands.Proofs.NameTiers

/-! Names found by how they begin. Lower-casing takes characters one by one but for the capital
sigma, whose small form tells whether a word ends with it. A text whose last letter is a sigma ends
a word there, even where the name it begins goes on with the word, and then it does not begin the
name in lower case (`StopsShort`). Every other beginning stays one in lower case, whatever its
characters become. -/
namespace ChatCommands.TypedBeginnings
open ChatCommands.Convert NameTiers

variable {c d : Char} {cs before rest start more : List Char} {argument name : String}

/-! ## Words around a sigma -/

/-- A character that is passed over where a letter is looked for. -/
def Ignored (c : Char) : Prop := Text.inRanges Text.ignorableRanges c.toNat = true

/-- A letter with a capital or a small form. -/
def Cased (c : Char) : Prop := Text.inRanges Text.casedRanges c.toNat = true

/-- A word reaches the front of a text: the first character that counts is a letter. -/
def Touches (cs : List Char) : Prop :=
  ∃ skipped c rest, cs = skipped ++ c :: rest ∧ (∀ d ∈ skipped, Ignored d) ∧ ¬ Ignored c ∧ Cased c

theorem not_touches_of_ignored (skipped : ∀ d ∈ cs, Ignored d) : ¬ Touches cs := by
  rintro ⟨_, c, _, rfl, -, counts, -⟩
  exact counts (skipped c (by simp))

theorem touches_skip (ignored : Ignored c) : Touches (c :: cs) ↔ Touches cs := by
  constructor
  · rintro ⟨skipped, d, rest, whole, passed, counts, cased⟩
    cases skipped with
    | nil =>
      obtain ⟨rfl, rfl⟩ := List.cons_eq_cons.1 whole
      exact absurd ignored counts
    | cons e skipped =>
      obtain ⟨rfl, rfl⟩ := List.cons_eq_cons.1 whole
      exact ⟨skipped, d, rest, rfl, (List.forall_mem_cons.1 passed).2, counts, cased⟩
  · rintro ⟨skipped, d, rest, rfl, passed, counts, cased⟩
    exact ⟨c :: skipped, d, rest, rfl, List.forall_mem_cons.2 ⟨ignored, passed⟩, counts, cased⟩

theorem touches_here (counts : ¬ Ignored c) : Touches (c :: cs) ↔ Cased c := by
  constructor
  · rintro ⟨skipped, d, rest, whole, passed, -, cased⟩
    cases skipped with
    | nil =>
      obtain ⟨rfl, rfl⟩ := List.cons_eq_cons.1 whole
      exact cased
    | cons e skipped =>
      obtain ⟨rfl, -⟩ := List.cons_eq_cons.1 whole
      exact absurd (passed c List.mem_cons_self) counts
  · intro cased
    exact ⟨[], c, cs, rfl, by simp, counts, cased⟩

theorem touches_behind (skipped : ∀ d ∈ cs, Ignored d) : Touches (cs ++ more) ↔ Touches more := by
  induction cs with
  | nil => rfl
  | cons c cs ih =>
    obtain ⟨ignored, others⟩ := List.forall_mem_cons.1 skipped
    rw [List.cons_append, touches_skip ignored, ih others]

/-- Only what stands before the first character that counts can be followed by a letter. -/
theorem touches_append (counts : ¬ ∀ d ∈ cs, Ignored d) : Touches (cs ++ more) ↔ Touches cs := by
  induction cs with
  | nil => simp at counts
  | cons c cs ih =>
    by_cases ignored : Ignored c
    · have others : ¬ ∀ d ∈ cs, Ignored d := fun all =>
        counts (List.forall_mem_cons.2 ⟨ignored, all⟩)
      rw [List.cons_append, touches_skip ignored, touches_skip ignored, ih others]
    · rw [List.cons_append, touches_here ignored, touches_here ignored]

theorem meetsCased_iff : Text.meetsCased cs = true ↔ Touches cs := by
  induction cs with
  | nil =>
    have nothing : ¬ Touches [] := not_touches_of_ignored (by simp)
    simp [Text.meetsCased, nothing]
  | cons c cs ih =>
    by_cases ignored : Ignored c
    · have skips : Text.meetsCased (c :: cs) = Text.meetsCased cs := by
        have passed : Text.inRanges Text.ignorableRanges c.toNat = true := ignored
        simp only [Text.meetsCased, List.dropWhile_cons, passed, if_true]
      rw [touches_skip ignored, ← ih, skips]
    · have stays : Text.meetsCased (c :: cs) = Text.inRanges Text.casedRanges c.toNat := by
        have counts : Text.inRanges Text.ignorableRanges c.toNat = false :=
          Bool.eq_false_iff.2 ignored
        simp only [Text.meetsCased, List.dropWhile_cons, counts, Bool.false_eq_true, if_false]
      rw [touches_here ignored, stays]
      rfl

/-! ## Lower-casing a text and its beginning -/

/-- What a character becomes between two texts, the one in front of it read backwards. -/
def image (before : List Char) (c : Char) (rest : List Char) : List Char :=
  if c == 'Σ' then (if Text.meetsCased before && !Text.meetsCased rest then ['ς'] else ['σ'])
  else Text.lowerChar c

theorem lowerAfter_cons : Text.lowerAfter before (c :: rest) =
    image before c rest ++ Text.lowerAfter (c :: before) rest := rfl

/-- A capital sigma between two texts ends a word, which goes on where more text follows. -/
structure Turns (before rest more : List Char) : Prop where
  word : Touches before
  skipped : ∀ d ∈ rest, Ignored d
  goesOn : Touches more

theorem images_of_turns (turns : Turns before rest more) :
    image before 'Σ' rest = ['ς'] ∧ image before 'Σ' (rest ++ more) = ['σ'] := by
  obtain ⟨word, skipped, goesOn⟩ := turns
  have here : Text.meetsCased before = true := meetsCased_iff.2 word
  have ends : Text.meetsCased rest = false := by
    rw [Bool.eq_false_iff]
    exact fun met => not_touches_of_ignored skipped (meetsCased_iff.1 met)
  have later : Text.meetsCased (rest ++ more) = true :=
    meetsCased_iff.2 ((touches_behind skipped).2 goesOn)
  simp [image, here, ends, later]

/-- More text changes nothing but the sigma that ends a word without it. -/
theorem image_append (kept : c = 'Σ' → ¬ Turns before rest more) :
    image before c (rest ++ more) = image before c rest := by
  unfold image
  by_cases sigma : c = 'Σ'
  · rw [if_pos (beq_iff_eq.2 sigma), if_pos (beq_iff_eq.2 sigma)]
    by_cases word : Touches before
    · have same : Text.meetsCased (rest ++ more) = Text.meetsCased rest := by
        rw [Bool.eq_iff_iff, meetsCased_iff, meetsCased_iff]
        by_cases skipped : ∀ d ∈ rest, Ignored d
        · have stops : ¬ Touches more := fun goesOn => kept sigma ⟨word, skipped, goesOn⟩
          rw [touches_behind skipped]
          exact iff_of_false stops (not_touches_of_ignored skipped)
        · exact touches_append skipped
      rw [same]
    · have alone : Text.meetsCased before = false := by
        rw [Bool.eq_false_iff]
        exact fun met => word (meetsCased_iff.1 met)
      simp [alone]
  · simp [sigma]

/-- A text behind another one ends a word with a capital sigma, and what follows goes on with it. -/
def CutsWord (before start more : List Char) : Prop :=
  ∃ word skipped, start = word ++ 'Σ' :: skipped ∧ Turns (word.reverse ++ before) skipped more

theorem cutsWord_cons : CutsWord before (c :: rest) more ↔
    (c = 'Σ' ∧ Turns before rest more) ∨ CutsWord (c :: before) rest more := by
  constructor
  · rintro ⟨word, skipped, whole, turns⟩
    cases word with
    | nil =>
      obtain ⟨rfl, rfl⟩ := List.cons_eq_cons.1 whole
      exact .inl ⟨rfl, turns⟩
    | cons d word =>
      obtain ⟨rfl, rfl⟩ := List.cons_eq_cons.1 whole
      rw [List.reverse_cons, List.append_assoc] at turns
      exact .inr ⟨word, skipped, rfl, turns⟩
  · rintro (⟨rfl, turns⟩ | ⟨word, skipped, rfl, turns⟩)
    · exact ⟨[], rest, rfl, turns⟩
    · refine ⟨c :: word, skipped, rfl, ?_⟩
      rw [List.reverse_cons, List.append_assoc]
      exact turns

/-- The beginning of a text in lower case begins the text in lower case, unless it cuts a word. -/
theorem lowerAfter_prefix_iff :
    Text.lowerAfter before start <+: Text.lowerAfter before (start ++ more) ↔
      ¬ CutsWord before start more := by
  -- every character has the same image in both texts, up to the sigma that turns
  induction start generalizing before with
  | nil =>
    have whole : ¬ CutsWord before [] more := by
      rintro ⟨word, skipped, empty, -⟩
      simp at empty
    exact iff_of_true List.nil_prefix whole
  | cons c rest ih =>
    rw [List.cons_append, lowerAfter_cons, lowerAfter_cons, cutsWord_cons, not_or]
    by_cases turned : c = 'Σ' ∧ Turns before rest more
    · obtain ⟨rfl, turns⟩ := turned
      obtain ⟨final, medial⟩ := images_of_turns turns
      rw [final, medial]
      simp [turns]
    · rw [image_append fun sigma turns => turned ⟨sigma, turns⟩, List.prefix_append_right_inj, ih]
      exact (and_iff_right turned).symm

/-- A text begins a name and stops inside a word of it, right behind a capital sigma but for what
does not count. -/
def StopsShort (argument name : String) : Prop :=
  ∃ more, name.toList = argument.toList ++ more ∧ CutsWord [] argument.toList more

theorem begun_iff (typed : argument.toList <+: name.toList) :
    Near argument name .begun ↔ ¬ StopsShort argument name := by
  obtain ⟨more, whole⟩ := typed
  have stops : StopsShort argument name ↔ CutsWord [] argument.toList more := by
    constructor
    · rintro ⟨other, again, cuts⟩
      rw [← whole] at again
      rwa [List.append_cancel_left again]
    · intro cuts
      exact ⟨more, whole.symm, cuts⟩
  rw [stops, ← lowerAfter_prefix_iff, whole, Near, Text.lower, Text.lower, String.toList_ofList,
    String.toList_ofList]
  rfl

/-! ## Typing the beginning of a name -/

variable {α : Type} {names : α → List String} {ahead behind : List α} {x : α}

/-- Where nobody has the whole name, one candidate that others do not come near decides. -/
theorem matchName?_of_alone (named : argument ≠ "")
    (nobody : NoneAt names argument .folded (ahead ++ x :: behind))
    (alone : ∀ y ∈ ahead ++ behind, ¬ Matches names argument .begun y) :
    matchName? names (ahead ++ x :: behind) argument =
      if Matches names argument .begun x then some x else none := by
  rw [matchName?_eq_only? named nobody]
  rw [List.forall_mem_append] at alone
  obtain ⟨before, after⟩ := alone
  by_cases near : Matches names argument .begun x
  · rw [if_pos near]
    exact only?_allAt_eq_some_iff.2 ⟨near, ahead, behind, rfl, before, after⟩
  · have none : NoneAt names argument .begun (ahead ++ x :: behind) :=
      List.forall_mem_append.2 ⟨before, List.forall_mem_cons.2 ⟨near, after⟩⟩
    rw [if_neg near, allAt_eq_nil_iff.2 none]
    rfl

/-- Typing the beginning of a name finds its owner, where nobody has the whole name in lower case
and nobody else has a name that begins so in lower case. Only a beginning that stops short, behind a
capital sigma inside a word, finds nobody, unless another name of the owner begins with it. -/
theorem typed_beginning_finds_owner (named : argument ≠ "") (own : name ∈ names x)
    (typed : argument.toList <+: name.toList)
    (nobody : NoneAt names argument .folded (ahead ++ x :: behind))
    (alone : ∀ y ∈ ahead ++ behind, ¬ Matches names argument .begun y) :
    (¬ StopsShort argument name →
      matchName? names (ahead ++ x :: behind) argument = some x) ∧
    (StopsShort argument name → matchName? names (ahead ++ x :: behind) argument =
      if ∃ other ∈ names x, other ≠ name ∧ Near argument other .begun then some x else none) := by
  rw [matchName?_of_alone named nobody alone]
  constructor
  · intro goesOn
    exact if_pos ⟨name, own, (begun_iff typed).2 goesOn⟩
  · intro stops
    have far : ¬ Near argument name .begun := fun near => (begun_iff typed).1 near stops
    have other : Matches names argument .begun x ↔
        ∃ other ∈ names x, other ≠ name ∧ Near argument other .begun := by
      constructor
      · rintro ⟨other, its, near⟩
        refine ⟨other, its, ?_, near⟩
        rintro rfl
        exact far near
      · rintro ⟨other, its, -, near⟩
        exact ⟨other, its, near⟩
    simp only [other]

def ismene : User := { id := 1, name := "İSMENE" }

def odysseus : User := { id := 2, name := "ΟΔΥΣΣΕΥΣ", globalName := some "nobody" }

/-- A first letter that becomes two characters in lower case still begins the name. -/
theorem longer_letter_finds_ismene :
    "İS" ≠ "" ∧ "İSMENE" ∈ userNames ismene ∧ "İS".toList <+: "İSMENE".toList ∧
      ¬ StopsShort "İS" "İSMENE" ∧ (Text.lower "İS").length = 3 ∧
      matchName? userNames ([odysseus] ++ ismene :: []) "İS" = some ismene := by
  have typed : "İS".toList <+: "İSMENE".toList := by decide
  have goesOn : ¬ StopsShort "İS" "İSMENE" := (begun_iff typed).1 (by decide +kernel)
  have nobody : NoneAt userNames "İS" .folded ([odysseus] ++ ismene :: []) := by
    unfold NoneAt
    decide +kernel
  refine ⟨by decide, by decide, typed, goesOn, by decide +kernel, ?_⟩
  exact (typed_beginning_finds_owner (by decide) (by decide) typed nobody
    (by decide +kernel)).1 goesOn

/-- Four letters of a name, all as written, that nobody else's name has anything to do with: in
lower case they end with the sigma that ends words, and the name goes on with the other one. -/
theorem sigma_hides_odysseus :
    "ΟΔΥΣ".toList <+: odysseus.name.toList ∧
      (∀ u ∈ [ismene, odysseus], ∀ name ∈ userNames u,
        name ≠ "ΟΔΥΣ" ∧ Text.lower name ≠ Text.lower "ΟΔΥΣ") ∧
      (∀ name ∈ userNames ismene, ∀ text ∈ [name, Text.lower name],
        ∀ start ∈ ["ΟΔΥΣ", Text.lower "ΟΔΥΣ"], ¬ start.toList <+: text.toList) ∧
      Text.lower "ΟΔΥΣ" = "οδυς" ∧ Text.lower odysseus.name = "οδυσσευς" ∧
      matchName? userNames [ismene, odysseus] "ΟΔΥΣ" = none := by
  refine ⟨by decide, by decide +kernel, by decide +kernel, by decide +kernel, by decide +kernel, ?_⟩
  decide +kernel

end ChatCommands.TypedBeginnings
