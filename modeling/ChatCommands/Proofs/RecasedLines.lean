import ChatCommands.Proofs.LongestDescent
import ChatCommands.Proofs.QualifiedNames

/-! Lines in other letters. Where case is ignored, a word is looked up as it stands first and in
lower case only after that, so which spelling was registered could matter. It does not: no two
siblings share a name in lower case, at the root or in any group. Two lines whose leading words are
the same in lower case (`Recased`) therefore resolve alike, up to the letters of what is left. -/
namespace ChatCommands.RecasedLines
open NamedSiblings RegistryGrowth QualifiedNames LongestDescent Registry

variable {σ : Type} {ci : Bool} {parent : Option String} {r : Registry σ} {c g : Command σ}
  {s : Siblings (Command σ)} {level path : List (Command σ)} {text other rest : List Char}
  {words others said : List String}

/-- Two texts begin with words that are the same in lower case, between the same blanks, and go on
alike behind them. -/
inductive Recased : List String → List String → List Char → List Char → Prop where
  | rest (text : List Char) : Recased [] [] text text
  | word (gap : List Char) {tail otherTail : List Char} {word other : String}
      {words others : List String} (blank : ∀ ch ∈ gap, Text.isBlank ch = true)
      (isWord : IsWord word) (isOther : IsWord other)
      (same : Same true word other) (ends : ∀ ch ∈ tail.head?, Text.isBlank ch = true)
      (later : Recased words others tail otherTail) :
      Recased (word :: words) (other :: others) (gap ++ (word.toList ++ tail))
        (gap ++ (other.toList ++ otherTail))

/-! ## Names that are the same -/

theorem named_of_same {word other : String} (same : Same ci word other) (named : Named ci word c) :
    Named ci other c := by
  obtain ⟨name, own, spelled⟩ := named
  exact ⟨name, own, spelled.trans same⟩

theorem get?_same (inOrder : InOrder ci s) {word other : String} (same : Same ci word other) :
    s.get? word ci = s.get? other ci := by
  apply Option.ext
  intro c
  rw [get?_eq_some_iff inOrder, get?_eq_some_iff inOrder]
  exact and_congr_right fun _ => ⟨named_of_same same, named_of_same same.symm⟩

theorem child?_same (made : WellMade ci parent g) {word other : String}
    (same : Same ci word other) : g.child? word ci = g.child? other ci := by
  cases group : g.children with
  | none => simp [Command.child?, group]
  | some s =>
    simp only [Command.child?, group, Option.bind_some]
    exact get?_same (made.inOrder group) same

/-- A look-up finds what a scan in lower case would find. -/
theorem get?_eq_find? (inOrder : InOrder true s) (word : String) :
    s.get? word true = s.ordered.find? fun c => c.names.any fun name => sameFolded name word := by
  apply Option.ext
  intro c
  rw [get?_eq_some_iff inOrder, scan_iff inOrder]

/-! ## Texts in other letters -/

namespace Recased

theorem separated (recased : Recased words others text other)
    (ends : ∀ ch ∈ text.head?, Text.isBlank ch = true) :
    ∀ ch ∈ other.head?, Text.isBlank ch = true := by
  cases recased with
  | rest => exact ends
  | @word gap tail otherTail word other words others blank isWord isOther same _ later =>
    cases gap with
    | nil =>
      have solid := solid_of_isWord isWord tail
      obtain ⟨first, more, shape⟩ := List.exists_cons_of_ne_nil
        (show word.toList ≠ [] by simpa using isWord.1)
      have isBlank := ends first (by simp [shape])
      exact absurd isBlank (Bool.eq_false_iff.1 (solid first (by simp [shape])))
    | cons first gap => exact fun ch head => ends ch head

theorem symm (recased : Recased words others text other) : Recased others words other text := by
  induction recased with
  | rest text => exact .rest text
  | word _ blank isWord isOther same ends later ih =>
    exact .word _ blank isOther isWord same.symm (later.separated ends) ih

theorem trimStart (recased : Recased words others text other) :
    Recased words others (Text.trimStart text) (Text.trimStart other) := by
  cases recased with
  | rest => exact .rest _
  | word _ blank isWord isOther same ends later =>
    rw [Text.trimStart_gap blank (solid_of_isWord isWord _),
      Text.trimStart_gap blank (solid_of_isWord isOther _)]
    exact .word [] (by simp) isWord isOther same ends later

theorem splits {word second : String}
    (recased : Recased (word :: words) (second :: others) text other) :
    IsWord second ∧ Same true word second ∧ (nextWord text).1 = word.toList ∧
      (nextWord other).1 = second.toList ∧
      Recased words others (nextWord text).2 (nextWord other).2 := by
  cases recased with
  | word _ blank isWord isOther same ends later =>
    rw [nextWord_of_shape isWord blank ends,
      nextWord_of_shape isOther blank (later.separated ends)]
    exact ⟨isOther, same, rfl, rfl, later.trimStart⟩

theorem length_eq (recased : Recased words others text other) : words.length = others.length := by
  induction recased with
  | rest text => rfl
  | word _ _ _ _ _ _ _ ih => rw [List.length_cons, List.length_cons, ih]

/-- What one text begins with, the other begins with in its own letters. -/
theorem begins (recased : Recased words others text other) (begins : Begins text said rest) :
    ∃ otherSaid otherRest, Begins other otherSaid otherRest ∧
      List.Forall₂ (Same true) said otherSaid ∧
      Recased (words.drop said.length) (others.drop said.length) rest otherRest := by
  induction said generalizing words others text other with
  | nil =>
    cases begins_nil_iff.1 begins
    exact ⟨[], Text.trimStart other, begins_nil_iff.2 rfl, .nil, recased.trimStart⟩
  | cons first said ih =>
    obtain ⟨isWord, split, further⟩ := begins_cons_iff.1 begins
    cases words with
    | nil =>
      cases recased
      refine ⟨first :: said, rest, begins, List.forall₂_same.2 fun _ _ => Same.refl _ _, ?_⟩
      rw [List.drop_nil]
      exact .rest rest
    | cons word words =>
      cases others with
      | nil => cases recased
      | cons second others =>
        obtain ⟨isOther, same, wordSplit, otherSplit, later⟩ := recased.splits
        obtain ⟨otherSaid, otherRest, on, alike, left⟩ := ih later further
        have isFirst : first = word := String.toList_inj.1 (split.symm.trans wordSplit)
        exact ⟨second :: otherSaid, otherRest, begins_cons_iff.2 ⟨isOther, otherSplit, on⟩,
          .cons (isFirst ▸ same) alike, left⟩

end Recased

/-! ## Resolving -/

theorem named_of_alike (alike : List.Forall₂ (Same ci) said others)
    (named : List.Forall₂ (Named ci) said path) : List.Forall₂ (Named ci) others path := by
  induction alike generalizing path with
  | nil => exact named
  | cons same _ ih =>
    obtain ⟨c, path, first, later, rfl⟩ := List.forall₂_cons_left_iff.1 named
    exact .cons (named_of_same same first) (ih later)

/-- A path that one text names, the other names as well. -/
theorem follows_recased (recased : Recased words others text other)
    (follows : Follows true level text said path rest) :
    ∃ otherSaid otherRest, Follows true level other otherSaid path otherRest ∧
      Recased (words.drop said.length) (others.drop said.length) rest otherRest := by
  obtain ⟨otherSaid, otherRest, begins, alike, left⟩ := recased.begins follows.begins
  exact ⟨otherSaid, otherRest,
    ⟨follows.start, follows.chain, named_of_alike alike follows.named, begins⟩, left⟩

/-- A word that names somebody behind one text does so behind the other. -/
theorem unnamed_recased (recased : Recased words others text other)
    (unnamed : ∀ word, NextWord text (some word) → ¬ Named true word c) :
    ∀ word, NextWord other (some word) → ¬ Named true word c := by
  rintro word ⟨rest, begins⟩ named
  obtain ⟨said, otherRest, again, alike, -⟩ := recased.symm.begins begins
  obtain ⟨first, _, same, alone, rfl⟩ := List.forall₂_cons_left_iff.1 alike
  cases alone
  exact unnamed first ⟨otherRest, again⟩ (named_of_same same named)

theorem resolve_recased (orderly : Orderly true r) {line second : String} {target : Resolved σ}
    (recased : Recased words others line.toList second.toList)
    (resolved : r.resolve line = .ok target) :
    ∃ again, r.resolve second = .ok again ∧ again.command = target.command ∧
      again.parents = target.parents ∧
      Recased (words.drop (target.parents.length + 1)) (others.drop (target.parents.length + 1))
        target.remaining.toList again.remaining.toList := by
  obtain ⟨follows, runs⟩ := (resolve_eq_ok_iff orderly line target).1 resolved
  obtain ⟨otherSaid, otherRest, otherFollows, left⟩ := follows_recased recased follows
  have depth := follows.named.length_eq
  rcases List.eq_nil_or_concat' otherSaid with rfl | ⟨before, word, rfl⟩
  · have none := otherFollows.named.length_eq
    simp at none
  simp only [List.length_append, List.length_singleton] at depth
  simp only [List.length_append, List.length_singleton, depth] at left
  refine ⟨⟨target.command, target.parents, word, before, String.ofList otherRest⟩, ?_, rfl, rfl,
    by simpa using left⟩
  rw [resolve_eq_ok_iff orderly]
  refine ⟨by simpa using otherFollows, runs.imp_right fun ⟨body, unnamed⟩ => ⟨body, ?_⟩⟩
  intro word next child member
  rw [String.toList_ofList] at next
  exact unnamed_recased left (fun word next => unnamed word next child member) word next

/-- Where no more words differ than name commands, the same text is left. -/
theorem remaining_eq {target again : Resolved σ} {depth : Nat}
    (left : Recased (words.drop depth) (others.drop depth) target.remaining.toList
      again.remaining.toList)
    (recased : Recased words others text other) (few : words.length ≤ depth) :
    again.remaining = target.remaining := by
  rw [List.drop_eq_nil_of_le few, List.drop_eq_nil_of_le (recased.length_eq ▸ few)] at left
  generalize front : target.remaining.toList = one at left
  generalize back : again.remaining.toList = two at left
  cases left
  exact String.toList_inj.1 (back.trans front.symm)

/-! ## Looking up by qualified name -/

theorem words_blank {gap : List Char} (blank : ∀ ch ∈ gap, Text.isBlank ch = true) :
    Text.words gap = [] := by
  unfold Text.words
  rw [List.filter_eq_nil_iff]
  intro run member
  obtain ⟨first, later, rfl⟩ := List.exists_cons_of_ne_nil (List.ne_nil_of_mem_splitBy member)
  have inGap : first ∈ gap := by
    rw [← List.flatten_splitBy (fun a b => Text.isBlank a == Text.isBlank b) gap]
    exact List.mem_flatten_of_mem member List.mem_cons_self
  simp [blank first inGap]

theorem words_spelled {gap tail : List Char} {word : String}
    (blank : ∀ ch ∈ gap, Text.isBlank ch = true) (isWord : IsWord word)
    (ends : ∀ ch ∈ tail.head?, Text.isBlank ch = true) :
    Text.words (gap ++ (word.toList ++ tail)) = word.toList :: Text.words tail := by
  rw [words_append, words_append, words_blank blank, words_of_isWord isWord]
  · rfl
  · intro a last b first
    rw [isWord.2 a (List.mem_of_getLast? last), ends b first]
    decide
  · intro a last b first
    rw [blank a (List.mem_of_getLast? last), solid_of_isWord isWord tail b first]
    decide

theorem words_recased (recased : Recased words others text other) :
    List.Forall₂ (Same true) ((Text.words text).map String.ofList)
      ((Text.words other).map String.ofList) := by
  induction recased with
  | rest text => exact List.forall₂_same.2 fun _ _ => Same.refl _ _
  | word _ blank isWord isOther same ends later ih =>
    rw [words_spelled blank isWord ends, words_spelled blank isOther (later.separated ends)]
    simp only [List.map_cons, String.ofList_toList]
    exact .cons same ih

theorem descend_alike (made : WellMade true parent c)
    (alike : List.Forall₂ (Same true) words others) :
    descend true c words = descend true c others := by
  induction alike generalizing parent c with
  | nil => rfl
  | cons same _ ih =>
    rw [descend, descend, child?_same made same]
    split
    · rename_i child found
      exact ih (made.child ((child?_eq_some_iff made).1 found).1)
    · rfl

theorem get?_recased (orderly : Orderly true r) {line second : String}
    (recased : Recased words others line.toList second.toList) :
    r.get? line = r.get? second := by
  have alike := words_recased recased
  unfold Registry.get? Registry.find?
  rw [orderly.mode]
  generalize (Text.words line.toList).map String.ofList = first at alike
  generalize (Text.words second.toList).map String.ofList = again at alike
  cases alike with
  | nil => rfl
  | cons same alike =>
    simp only [get?_same orderly.roots same]
    cases found : r.root.get? _ true with
    | none => rfl
    | some root =>
      obtain ⟨_, made⟩ := orderly.made root ((get?_eq_some_iff orderly.roots).1 found).1
      simp only [Option.bind_some, descend_alike made alike]

theorem remove_same (orderly : Orderly true r) {name second : String}
    (same : Text.lower name = Text.lower second) : r.remove name = r.remove second := by
  have again : Same true name second := same
  unfold Registry.remove Siblings.remove
  rw [orderly.mode, get?_same orderly.roots again]

/-- Whatever a registry that ignores case went through, a look-up finds what a scan in lower case
finds at every level, lines whose words are the same in lower case resolve to the same command below
the same groups with the same text behind them, or both to nothing, and so it is with looking up and
removing by name. -/
theorem letters_of_words_do_not_matter (changes : List (Change σ)) :
    let r := grown true changes
    (∀ s, QualifiedNames.Level r s → ∀ word, s.get? word true =
      s.ordered.find? fun c => c.names.any fun name => sameFolded name word) ∧
    (∀ words others line second, Recased words others line.toList second.toList →
      (∀ target, r.resolve line = .ok target → ∃ again, r.resolve second = .ok again ∧
        again.command = target.command ∧ again.parents = target.parents ∧
        (words.length ≤ target.parents.length + 1 → again.remaining = target.remaining)) ∧
      (∀ e, r.resolve line = .error e → ∃ again, r.resolve second = .error again) ∧
      r.get? line = r.get? second) ∧
    ∀ name second, Text.lower name = Text.lower second → r.remove name = r.remove second := by
  intro r
  have orderly : Orderly true r := grown_orderly true changes
  refine ⟨fun s level => get?_eq_find? (level_inOrder orderly level), ?_,
    fun name second => remove_same orderly⟩
  intro words others line second recased
  refine ⟨fun target resolved => ?_, fun e failed => ?_, get?_recased orderly recased⟩
  · obtain ⟨again, resolvedAgain, command, parents, left⟩ :=
      resolve_recased orderly recased resolved
    exact ⟨again, resolvedAgain, command, parents, remaining_eq left recased⟩
  · cases resolved : r.resolve second with
    | error again => exact ⟨again, rfl⟩
    | ok target =>
      obtain ⟨again, resolvedAgain, -⟩ := resolve_recased orderly recased.symm resolved
      rw [failed] at resolvedAgain
      contradiction

/-- A group whose name has a letter that is two in lower case. -/
def identity : Declaration Unit :=
  .declare { name := "İd" } true
    [.declare { name := "Go", body := some fun _ _ => .done } false []]

/-- A group and its child are found in other letters, one of which is two characters, and the text
behind them keeps its letters. -/
theorem longer_spelling_resolves :
    let r := grown true [.register identity]
    Recased ["İD", "go"] ["i̇d", "GO"] "İD go  Now".toList "i̇d GO  Now".toList ∧
      ∃ target again, r.resolve "İD go  Now" = .ok target ∧
        r.resolve "i̇d GO  Now" = .ok again ∧ target.command.qualified = "İd Go" ∧
        again.command = target.command ∧ again.parents = target.parents ∧
        again.remaining = "Now" := by
  intro r
  have name : Same true "İD" "i̇d" := by
    unfold Same
    decide
  have child : Same true "go" "GO" := by
    unfold Same
    decide
  have spelled (word : String) (full : word ≠ "")
      (solid : word.toList.all fun ch => !Text.isBlank ch) : IsWord word :=
    ⟨full, fun ch member => by simpa using List.all_eq_true.1 solid ch member⟩
  have ends (rest : List Char) : ∀ ch ∈ (' ' :: rest).head?, Text.isBlank ch = true := by
    intro ch first
    cases first
    rfl
  have later : Recased ["go"] ["GO"] " go  Now".toList " GO  Now".toList :=
    .word [' '] (List.forall_mem_singleton.2 rfl) (spelled "go" (by decide) rfl)
      (spelled "GO" (by decide) rfl) child (ends _) (.rest "  Now".toList)
  have recased : Recased ["İD", "go"] ["i̇d", "GO"] "İD go  Now".toList "i̇d GO  Now".toList :=
    .word [] (List.forall_mem_nil _) (spelled "İD" (by decide) rfl)
      (spelled "i̇d" (by decide) rfl) name (ends _) later
  obtain ⟨target, resolved, qualified, remaining, deep⟩ : ∃ target,
      r.resolve "İD go  Now" = .ok target ∧ target.command.qualified = "İd Go" ∧
        target.remaining = "Now" ∧ target.parents.length = 1 :=
    ⟨_, rfl, rfl, rfl, rfl⟩
  obtain ⟨-, lines, -⟩ := letters_of_words_do_not_matter [.register identity]
  obtain ⟨again, resolvedAgain, command, parents, left⟩ :=
    (lines _ _ _ _ recased).1 target resolved
  have few : ["İD", "go"].length ≤ target.parents.length + 1 := by rw [deep]; decide
  exact ⟨recased, target, again, resolved, resolvedAgain, qualified, command, parents,
    (left few).trans remaining⟩

end ChatCommands.RecasedLines
