import ChatCommands.Proofs.RegistryGrowth
import Mathlib.Data.List.Chain
import Mathlib.Data.List.Forall2
import Mathlib.Data.List.Induction
import Mathlib.Data.List.TakeWhile

/-! Resolving a line. Its leading words may name a path from a root downwards,
each word a child of the command that the word before it names. `Follows` says so
of words, commands and the text behind the words, without a word about how the
path is found. Resolving takes the longest such path, and what it answers is
settled by the last command on it. -/
namespace ChatCommands.LongestDescent
open NamedSiblings RegistryGrowth Registry

variable {σ : Type} {ci : Bool} {parent : Option String} {r : Registry σ} {c g : Command σ}
  {level path : List (Command σ)} {text rest : List Char} {words : List String}
  {failing : Option String}

/-- A text begins with words, each after any blanks, and `rest` is what follows them, without blanks
in front. -/
inductive Begins : List Char → List String → List Char → Prop where
  | rest {text gap rest : List Char} (shape : text = gap ++ rest)
      (blank : ∀ ch ∈ gap, Text.isBlank ch = true)
      (solid : ∀ ch ∈ rest.head?, Text.isBlank ch = false) : Begins text [] rest
  | word {text gap tail rest : List Char} {word : String} {words : List String}
      (shape : text = gap ++ (word.toList ++ tail)) (blank : ∀ ch ∈ gap, Text.isBlank ch = true)
      (isWord : IsWord word) (ends : ∀ ch ∈ tail.head?, Text.isBlank ch = true)
      (later : Begins tail words rest) : Begins text (word :: words) rest

/-- The next word of a text, if it has one. -/
def NextWord (text : List Char) : Option String → Prop
  | some word => ∃ rest, Begins text [word] rest
  | none => Begins text [] []

/-- A text begins with words that name commands one below the other, the first of them on a
level. -/
structure Follows (ci : Bool) (level : List (Command σ)) (text : List Char) (words : List String)
    (path : List (Command σ)) (rest : List Char) : Prop where
  start : ∀ c ∈ path.head?, c ∈ level
  chain : path.IsChain fun g c => c ∈ g.childList
  named : List.Forall₂ (Named ci) words path
  begins : Begins text words rest

/-- The commands that one more word could name. -/
def below (level path : List (Command σ)) : List (Command σ) :=
  match path.getLast? with
  | none => level
  | some c => c.childList

/-- The next word, if any, names none of some commands. -/
def Unnamed (ci : Bool) (failing : Option String) (level : List (Command σ)) : Prop :=
  ∀ word ∈ failing, ∀ c ∈ level, ¬ Named ci word c

/-! ## Words -/

theorem solid_of_isWord {word : String} (isWord : IsWord word) (tail : List Char) :
    ∀ ch ∈ (word.toList ++ tail).head?, Text.isBlank ch = false := by
  intro ch first
  have full : word.toList ≠ [] := by simpa using isWord.1
  rw [List.head?_append_of_ne_nil _ full] at first
  exact isWord.2 ch (List.mem_of_mem_head? first)

theorem begins_nil_iff : Begins text [] rest ↔ Text.trimStart text = rest := by
  constructor
  · rintro ⟨shape, blank, solid⟩
    rw [shape, Text.trimStart_gap blank solid]
  · rintro rfl
    obtain ⟨gap, blank, shape, solid⟩ := Text.trimStart_spec text
    exact .rest shape blank solid

theorem begins_trimStart : Begins (Text.trimStart text) words rest ↔ Begins text words rest := by
  obtain ⟨front, frontBlank, whole, -⟩ := Text.trimStart_spec text
  have longer {gap : List Char} (blank : ∀ ch ∈ gap, Text.isBlank ch = true) :
      ∀ ch ∈ front ++ gap, Text.isBlank ch = true := fun ch member =>
    (List.mem_append.1 member).elim (frontBlank ch) (blank ch)
  constructor
  · rintro (⟨shape, blank, restSolid⟩ | ⟨shape, blank, isWord, ends, later⟩)
    · rw [shape, ← List.append_assoc] at whole
      exact .rest whole (longer blank) restSolid
    · rw [shape, ← List.append_assoc] at whole
      exact .word whole (longer blank) isWord ends later
  · rintro (⟨rfl, blank, restSolid⟩ | ⟨rfl, blank, isWord, ends, later⟩)
    · rw [Text.trimStart_gap blank restSolid]
      exact .rest (List.nil_append rest).symm (by simp) restSolid
    · rw [Text.trimStart_gap blank (solid_of_isWord isWord _)]
      exact .word (List.nil_append _).symm (by simp) isWord ends later

theorem trimStart_nextWord : Text.trimStart (nextWord text).2 = (nextWord text).2 :=
  begins_nil_iff.1 (begins_trimStart.2 (begins_nil_iff.2 rfl))

theorem nextWord_of_shape {gap tail : List Char} {word : String} (isWord : IsWord word)
    (blank : ∀ ch ∈ gap, Text.isBlank ch = true)
    (ends : ∀ ch ∈ tail.head?, Text.isBlank ch = true) :
    nextWord (gap ++ (word.toList ++ tail)) = (word.toList, Text.trimStart tail) := by
  have solid : ∀ ch ∈ word.toList, (!Text.isBlank ch) = true := fun ch member => by
    simp [isWord.2 ch member]
  have stops : tail.takeWhile (fun ch => !Text.isBlank ch) = [] ∧
      tail.dropWhile (fun ch => !Text.isBlank ch) = tail := by
    cases tail with
    | nil => exact ⟨rfl, rfl⟩
    | cons first later => simp [ends first rfl]
  simp only [nextWord, Text.trimStart_gap blank (solid_of_isWord isWord tail),
    List.takeWhile_append_of_pos solid, List.dropWhile_append_of_pos solid, stops, List.append_nil]

/-- The word that is split off is the one a text begins with. -/
theorem begins_cons_iff {word : String} :
    Begins text (word :: words) rest ↔
      IsWord word ∧ (nextWord text).1 = word.toList ∧ Begins (nextWord text).2 words rest := by
  constructor
  · rintro (_ | ⟨rfl, blank, isWord, ends, later⟩)
    rw [nextWord_of_shape isWord blank ends]
    exact ⟨isWord, rfl, begins_trimStart.2 later⟩
  · rintro ⟨isWord, split, later⟩
    obtain ⟨gap, blank, shape, -⟩ := Text.trimStart_spec text
    simp only [nextWord] at split later
    rw [← List.takeWhile_append_dropWhile (p := fun ch => !Text.isBlank ch)
      (l := Text.trimStart text), split] at shape
    refine .word shape blank isWord (fun ch first => ?_) (begins_trimStart.1 later)
    have stopped := List.head?_dropWhile_not (fun ch => !Text.isBlank ch) (Text.trimStart text)
    rw [Option.mem_def.1 first] at stopped
    simpa using stopped

theorem isWord_nextWord (found : (nextWord text).1 ≠ []) :
    IsWord (String.ofList (nextWord text).1) := by
  refine ⟨by simpa using found, fun ch member => ?_⟩
  rw [String.toList_ofList] at member
  simpa using List.mem_takeWhile_imp member

theorem nextWord_nil (missing : (nextWord text).1 = []) : Text.trimStart text = [] := by
  obtain ⟨-, -, -, solid⟩ := Text.trimStart_spec text
  cases trimmed : Text.trimStart text with
  | nil => rfl
  | cons first later =>
    have notBlank : Text.isBlank first = false := solid first (by rw [trimmed]; rfl)
    simp [nextWord, trimmed, notBlank] at missing

theorem nextWord_none_iff : NextWord text none ↔ (nextWord text).1 = [] := by
  constructor
  · intro blank
    simp [nextWord, begins_nil_iff.1 blank]
  · intro missing
    exact begins_nil_iff.2 (nextWord_nil missing)

theorem nextWord_some_iff {word : String} :
    NextWord text (some word) ↔ IsWord word ∧ (nextWord text).1 = word.toList := by
  simp [NextWord, begins_cons_iff, begins_nil_iff]

theorem exists_nextWord (text : List Char) : ∃ failing, NextWord text failing := by
  by_cases missing : (nextWord text).1 = []
  · exact ⟨none, nextWord_none_iff.2 missing⟩
  · exact ⟨some _, nextWord_some_iff.2 ⟨isWord_nextWord missing, String.toList_ofList.symm⟩⟩

theorem nextWord_unique {other : Option String} (next : NextWord text failing)
    (otherNext : NextWord text other) : failing = other := by
  have full {word : String} (isWord : IsWord word) : word.toList ≠ [] := by simpa using isWord.1
  match failing, other with
  | none, none => rfl
  | none, some _ =>
    obtain ⟨isWord, split⟩ := nextWord_some_iff.1 otherNext
    exact absurd (split.symm.trans (nextWord_none_iff.1 next)) (full isWord)
  | some _, none =>
    obtain ⟨isWord, split⟩ := nextWord_some_iff.1 next
    exact absurd (split.symm.trans (nextWord_none_iff.1 otherNext)) (full isWord)
  | some _, some _ =>
    have same := (nextWord_some_iff.1 next).2.symm.trans (nextWord_some_iff.1 otherNext).2
    rw [String.toList_inj.1 same]

theorem nextWord_trimStart : NextWord (Text.trimStart text) failing ↔ NextWord text failing := by
  cases failing <;> simp only [NextWord, begins_trimStart]

/-- Splitting off a word leaves a shorter text. -/
theorem length_nextWord (found : (nextWord text).1 ≠ []) :
    (nextWord text).2.length < text.length := by
  obtain ⟨gap, -, whole, -⟩ := Text.trimStart_spec text
  have behind := (List.dropWhile_suffix Text.isBlank
    (l := (Text.trimStart text).dropWhile fun ch => !Text.isBlank ch)).length_le
  have split := congrArg List.length
    (List.takeWhile_append_dropWhile (p := fun ch => !Text.isBlank ch) (l := Text.trimStart text))
  have sizes := congrArg List.length whole
  have positive := List.length_pos_iff.2 found
  simp only [nextWord, Text.trimStart, List.length_append] at *
  omega

/-! ## One level -/

theorem lower_ne_empty {name : String} (full : name ≠ "") : Text.lower name ≠ "" := by
  have chars : name.toList ≠ [] := by simpa using full
  unfold Text.lower Text.lowerChars
  cases shape : name.toList with
  | nil => contradiction
  | cons first later =>
    rw [Text.lowerAfter]
    unfold Text.lowerChar
    split_ifs <;> simp

theorem unnamed_empty (names : ∀ name ∈ c.names, IsWord name) : ¬ Named ci "" c := by
  rintro ⟨name, own, same⟩
  have full := (names name own).1
  cases ci with
  | false => exact full (by simpa [Same] using same)
  | true => exact lower_ne_empty full (by simpa [Same, Text.lower, Text.lowerChars,
      Text.lowerAfter] using same)

/-- Where the next word names nobody, neither does the text that is split off for it. -/
theorem unnamed_nextWord (names : ∀ c ∈ level, ∀ name ∈ c.names, IsWord name)
    (next : NextWord text failing) (unnamed : Unnamed ci failing level) :
    ∀ c ∈ level, ¬ Named ci (String.ofList (nextWord text).1) c := by
  intro c member
  cases failing with
  | none =>
    rw [nextWord_none_iff.1 next]
    exact unnamed_empty (names c member)
  | some word =>
    rw [(nextWord_some_iff.1 next).2, String.ofList_toList]
    exact unnamed word rfl c member

theorem follows_cons_iff {word : String} :
    Follows ci level text (word :: words) (c :: path) rest ↔
      (c ∈ level ∧ Named ci word c ∧ IsWord word ∧ (nextWord text).1 = word.toList) ∧
        Follows ci c.childList (nextWord text).2 words path rest := by
  constructor
  · rintro ⟨start, chain, named, begins⟩
    obtain ⟨isWord, split, later⟩ := begins_cons_iff.1 begins
    obtain ⟨first, others⟩ := List.forall₂_cons.1 named
    obtain ⟨next, on⟩ := List.isChain_cons.1 chain
    exact ⟨⟨start c rfl, first, isWord, split⟩, next, on, others, later⟩
  · rintro ⟨⟨member, first, isWord, split⟩, next, on, others, later⟩
    exact ⟨by simpa using member, List.isChain_cons.2 ⟨next, on⟩, .cons first others,
      begins_cons_iff.2 ⟨isWord, split, later⟩⟩

theorem follows_nil_iff :
    Follows ci level text [] [] rest ↔ Text.trimStart text = rest := by
  rw [← begins_nil_iff]
  exact ⟨Follows.begins, fun begins => ⟨by simp, .nil, .nil, begins⟩⟩

@[simp] theorem below_nil : below level [] = level := rfl

@[simp] theorem below_concat : below level (path ++ [c]) = c.childList := by
  simp [below]

theorem below_cons : below level (c :: path) = below c.childList path := by
  cases path using List.reverseRecOn with
  | nil => rfl
  | append_singleton => rw [← List.cons_append, below_concat, below_concat]

/-- Some path is the longest. -/
theorem exists_longest (ci : Bool) (level : List (Command σ)) (text : List Char) :
    ∃ words path rest failing, Follows ci level text words path rest ∧ NextWord rest failing ∧
      Unnamed ci failing (below level path) := by
  induction size : text.length using Nat.strong_induction_on generalizing level text with
  | _ size ih =>
    obtain ⟨failing, next⟩ := exists_nextWord text
    by_cases unnamed : Unnamed ci failing level
    · exact ⟨[], [], _, failing, follows_nil_iff.2 rfl, nextWord_trimStart.2 next, unnamed⟩
    · simp only [Unnamed, not_forall, not_not] at unnamed
      obtain ⟨word, rfl, c, member, named⟩ := unnamed
      obtain ⟨isWord, split⟩ := nextWord_some_iff.1 next
      have found : (nextWord text).1 ≠ [] := by
        rw [split]
        simpa using isWord.1
      obtain ⟨words, path, rest, failing, follows, last, unnamed⟩ :=
        ih _ (size ▸ length_nextWord found) c.childList (nextWord text).2 rfl
      exact ⟨word :: words, c :: path, rest, failing,
        follows_cons_iff.2 ⟨⟨member, named, isWord, split⟩, follows⟩, last, below_cons ▸ unnamed⟩

/-! ## Resolving -/

/-- What is answered for a path that cannot be made longer. -/
def answer (words : List String) (path : List (Command σ)) (rest : List Char)
    (failing : Option String) : Except CommandError (Resolved σ) :=
  match words.getLast?, path.getLast? with
  | some word, some c =>
    if !c.isGroup || c.parts.body.isSome then
      .ok ⟨c, path.dropLast, word, words.dropLast, String.ofList rest⟩
    else .error (.commandNotFound (" ".intercalate (words ++ failing.toList)))
  | _, _ => .error (.commandNotFound (" ".intercalate failing.toList))

@[simp] theorem answer_concat {word : String} :
    answer (words ++ [word]) (path ++ [c]) rest failing =
      if !c.isGroup || c.parts.body.isSome then
        .ok ⟨c, path, word, words, String.ofList rest⟩
      else .error (.commandNotFound (" ".intercalate (words ++ [word] ++ failing.toList))) := by
  simp [answer]

theorem childList_of_single (single : c.isGroup = false) : c.childList = [] := by
  cases group : c.children with
  | none => simp [Command.childList, group]
  | some s => simp [Command.isGroup, group] at single

theorem child?_named (made : WellMade ci parent g) {word : String} (member : c ∈ g.childList)
    (named : Named ci word c) : g.child? word ci = some c := by
  cases group : g.children with
  | none => simp [Command.childList, group] at member
  | some s =>
    rw [Command.child?, group, Option.bind_some, get?_eq_some_iff (made.inOrder group)]
    exact ⟨by simpa [Command.childList, group] using member, named⟩

theorem child?_unnamed (made : WellMade ci parent g) {word : String}
    (unnamed : ∀ c ∈ g.childList, ¬ Named ci word c) : g.child? word ci = none := by
  cases group : g.children with
  | none => simp [Command.child?, group]
  | some s =>
    rw [Command.child?, group, Option.bind_some, get?_eq_none_iff (made.inOrder group)]
    simpa [Command.childList, group] using unnamed

/-- Where the next word names no child, resolving ends. -/
theorem resolveFrom_end (made : WellMade ci parent c)
    (next : NextWord rest failing) (unnamed : Unnamed ci failing c.childList) (fuel : Nat)
    (before : List (Command σ)) (word : String) (words : List String) :
    resolveFrom ci fuel c before word words rest =
      answer (words ++ [word]) (before ++ [c]) rest failing := by
  have missing : c.child? (String.ofList (nextWord rest).1) ci = none :=
    child?_unnamed made (unnamed_nextWord (fun d member => (made.child member).words) next unnamed)
  have failed : (if (nextWord rest).1.isEmpty then []
      else [String.ofList (nextWord rest).1]) = failing.toList := by
    cases failing with
    | none => simp [nextWord_none_iff.1 next]
    | some word =>
      obtain ⟨isWord, split⟩ := nextWord_some_iff.1 next
      simp [split, isWord.1]
  rw [resolveFrom.eq_def, answer_concat]
  simp only [missing, failed]
  cases c.isGroup <;> cases c.parts.body <;> simp

/-- Where a path goes on, so does resolving. -/
theorem resolveFrom_follows (made : WellMade ci parent c) (solid : Text.trimStart text = text)
    (follows : Follows ci c.childList text words path rest) (next : NextWord rest failing)
    (unnamed : Unnamed ci failing (below c.childList path)) {fuel : Nat}
    (enough : text.length ≤ fuel) (before : List (Command σ)) (word : String)
    (said : List String) :
    resolveFrom ci fuel c before word said text =
      answer (said ++ word :: words) (before ++ c :: path) rest failing := by
  induction path generalizing c parent text words fuel before word said with
  | nil =>
    cases List.forall₂_nil_right_iff.1 follows.named
    have nothing : text = rest := solid.symm.trans (follows_nil_iff.1 follows)
    exact nothing ▸ resolveFrom_end made (nothing ▸ next) unnamed fuel before word said
  | cons child path ih =>
    obtain ⟨later, words, named, -, rfl⟩ := List.forall₂_cons_right_iff.1 follows.named
    obtain ⟨⟨member, named, isWord, split⟩, on⟩ := follows_cons_iff.1 follows
    have found : (nextWord text).1 ≠ [] := by
      rw [split]
      simpa using isWord.1
    have shorter := length_nextWord found
    obtain ⟨fuel, rfl⟩ : ∃ less, fuel = less + 1 := ⟨fuel - 1, by omega⟩
    have group : c.isGroup = true := by
      by_contra single
      rw [childList_of_single (by simpa using single)] at member
      contradiction
    have step : resolveFrom ci (fuel + 1) c before word said text =
        resolveFrom ci fuel child (before ++ [c]) later (said ++ [word]) (nextWord text).2 := by
      rw [resolveFrom.eq_def]
      simp [group, split, child?_named made member named]
    rw [step, ih (made.child member) trimStart_nextWord on (below_cons ▸ unnamed) (by omega)]
    simp

theorem resolve_eq_answer (orderly : Orderly ci r) {line : String}
    (follows : Follows ci r.root.ordered line.toList words path rest)
    (next : NextWord rest failing) (unnamed : Unnamed ci failing (below r.root.ordered path)) :
    r.resolve line = answer words path rest failing := by
  have names : ∀ c ∈ r.root.ordered, ∀ name ∈ c.names, IsWord name := by
    intro c member
    obtain ⟨_, made⟩ := orderly.made c member
    exact made.words
  rw [resolve, orderly.mode]
  cases path with
  | nil =>
    cases List.forall₂_nil_right_iff.1 follows.named
    rw [← follows_nil_iff.1 follows, nextWord_trimStart] at next
    have missing := (get?_eq_none_iff orderly.roots).2 (unnamed_nextWord names next unnamed)
    have failed : String.ofList (nextWord line.toList).1 = " ".intercalate failing.toList := by
      cases failing with
      | none => rw [nextWord_none_iff.1 next]; rfl
      | some word => rw [(nextWord_some_iff.1 next).2, String.ofList_toList]; simp
    simp only [missing]
    rw [failed]
    rfl
  | cons root path =>
    obtain ⟨word, words, named, -, rfl⟩ := List.forall₂_cons_right_iff.1 follows.named
    obtain ⟨⟨member, -, isWord, split⟩, on⟩ := follows_cons_iff.1 follows
    have found := (get?_eq_some_iff orderly.roots).2 ⟨member, named⟩
    have enough : (nextWord line.toList).2.length ≤ line.length := by
      rw [← String.length_toList]
      refine (length_nextWord ?_).le
      rw [split]
      simpa using isWord.1
    simp only [split, String.ofList_toList, found]
    obtain ⟨_, made⟩ := orderly.made root member
    exact resolveFrom_follows made trimStart_nextWord on next
      (below_cons ▸ unnamed) enough [] word []

/-! ## The longest path -/

theorem answer_eq_ok_iff {target : Resolved σ} (named : List.Forall₂ (Named ci) words path) :
    answer words path rest failing = .ok target ↔
      words = target.invokedParents ++ [target.invokedWith] ∧
        path = target.parents ++ [target.command] ∧ rest = target.remaining.toList ∧
        (target.command.isGroup = false ∨ target.command.parts.body.isSome) := by
  obtain ⟨c, parents, word, said, remaining⟩ := target
  rcases List.eq_nil_or_concat' path with rfl | ⟨before, last, rfl⟩
  · simp [answer]
  rcases List.eq_nil_or_concat' words with rfl | ⟨first, final, rfl⟩
  · simp at named
  rw [answer_concat]
  simp only [Bool.or_eq_true, Bool.not_eq_true', List.append_singleton_inj]
  split
  · rename_i runs
    simp only [Except.ok.injEq, Resolved.mk.injEq]
    constructor
    · rintro ⟨rfl, rfl, rfl, rfl, rfl⟩
      exact ⟨⟨rfl, rfl⟩, ⟨rfl, rfl⟩, String.toList_ofList.symm, runs⟩
    · rintro ⟨⟨rfl, rfl⟩, ⟨rfl, rfl⟩, rfl, -⟩
      exact ⟨rfl, rfl, rfl, rfl, String.ofList_toList⟩
  · rename_i stuck
    simp only [reduceCtorEq, false_iff]
    rintro ⟨-, ⟨-, rfl⟩, -, runs⟩
    exact stuck runs

theorem answer_eq_error_iff {e : CommandError} (named : List.Forall₂ (Named ci) words path) :
    answer words path rest failing = .error e ↔
      (∀ c ∈ path.getLast?, c.isGroup ∧ c.parts.body = none) ∧
        e = .commandNotFound (" ".intercalate (words ++ failing.toList)) := by
  rw [@eq_comm _ e]
  rcases List.eq_nil_or_concat' path with rfl | ⟨before, last, rfl⟩
  · cases List.forall₂_nil_right_iff.1 named
    simp [answer]
  rcases List.eq_nil_or_concat' words with rfl | ⟨first, final, rfl⟩
  · simp at named
  rw [answer_concat]
  cases group : last.isGroup <;> cases body : last.parts.body <;> simp [group, body]

theorem proper_of_chain (made : ∀ c ∈ level, Proper ci c)
    (start : ∀ c ∈ path.head?, c ∈ level) (chain : path.IsChain fun g c => c ∈ g.childList) :
    ∀ c ∈ path, Proper ci c := by
  induction path generalizing level with
  | nil => simp
  | cons first path ih =>
    obtain ⟨_, firstMade⟩ := made first (start first rfl)
    obtain ⟨next, on⟩ := List.isChain_cons.1 chain
    have further := ih (fun child there => ⟨_, firstMade.child there⟩) next on
    exact List.forall_mem_cons.2 ⟨⟨_, firstMade⟩, further⟩

/-- A line resolves to the last command of the longest path, if that is no group or has a body. -/
theorem resolve_eq_ok_iff (orderly : Orderly ci r) (line : String) (target : Resolved σ) :
    r.resolve line = .ok target ↔
      Follows ci r.root.ordered line.toList (target.invokedParents ++ [target.invokedWith])
        (target.parents ++ [target.command]) target.remaining.toList ∧
      (target.command.isGroup = false ∨ target.command.parts.body.isSome ∧
        ∀ word, NextWord target.remaining.toList (some word) →
          ∀ child ∈ target.command.childList, ¬ Named ci word child) := by
  constructor
  · intro resolved
    obtain ⟨words, path, rest, failing, follows, next, unnamed⟩ :=
      exists_longest ci r.root.ordered line.toList
    rw [resolve_eq_answer orderly follows next unnamed, answer_eq_ok_iff follows.named] at resolved
    obtain ⟨rfl, rfl, rfl, runs⟩ := resolved
    refine ⟨follows, runs.imp_right fun body => ⟨body, fun word found => ?_⟩⟩
    rw [below_concat] at unnamed
    exact unnamed word (nextWord_unique next found)
  · rintro ⟨follows, runs⟩
    obtain ⟨failing, next⟩ := exists_nextWord target.remaining.toList
    have unnamed : Unnamed ci failing target.command.childList := by
      rintro word rfl
      rcases runs with single | ⟨-, unnamed⟩
      · simp [childList_of_single single]
      · exact unnamed word next
    rw [resolve_eq_answer orderly follows next (by rwa [below_concat]),
      answer_eq_ok_iff follows.named]
    exact ⟨rfl, rfl, rfl, runs.imp_right And.left⟩

/-- A line resolves to nothing where its longest path ends at the roots or at a group without a
body. -/
theorem resolve_eq_error_iff (orderly : Orderly ci r) (line : String) (e : CommandError) :
    r.resolve line = .error e ↔ ∃ words path rest failing,
      Follows ci r.root.ordered line.toList words path rest ∧ NextWord rest failing ∧
      Unnamed ci failing (below r.root.ordered path) ∧
      (∀ c ∈ path.getLast?, c.isGroup ∧ c.parts.body = none) ∧
      e = .commandNotFound (" ".intercalate (words ++ failing.toList)) := by
  constructor
  · intro failed
    obtain ⟨words, path, rest, failing, follows, next, unnamed⟩ :=
      exists_longest ci r.root.ordered line.toList
    rw [resolve_eq_answer orderly follows next unnamed, answer_eq_error_iff follows.named] at failed
    exact ⟨words, path, rest, failing, follows, next, unnamed, failed⟩
  · rintro ⟨words, path, rest, failing, follows, next, unnamed, failed⟩
    rwa [resolve_eq_answer orderly follows next unnamed, answer_eq_error_iff follows.named]

/-- What a line resolves to can be run. -/
theorem body_of_resolve (orderly : Orderly ci r) {line : String} {target : Resolved σ}
    (resolved : r.resolve line = .ok target) : target.command.parts.body.isSome := by
  obtain ⟨follows, single | ⟨body, -⟩⟩ := (resolve_eq_ok_iff orderly line target).1 resolved
  · obtain ⟨_, made⟩ := proper_of_chain orderly.made follows.start follows.chain
      target.command (by simp)
    exact made.runs single
  · exact body

/-- What a line resolves to, whatever the registry went through: the end of the longest path that
the line's leading words name, if that is no group or has a body. -/
theorem resolves_to_longest_path (ci : Bool) (changes : List (Change σ)) (line : String) :
    let r := grown ci changes
    (∀ target, r.resolve line = .ok target ↔
      Follows ci r.root.ordered line.toList (target.invokedParents ++ [target.invokedWith])
        (target.parents ++ [target.command]) target.remaining.toList ∧
      (target.command.isGroup = false ∨ target.command.parts.body.isSome ∧
        ∀ word, NextWord target.remaining.toList (some word) →
          ∀ child ∈ target.command.childList, ¬ Named ci word child)) ∧
    (∀ e, r.resolve line = .error e ↔ ∃ words path rest failing,
      Follows ci r.root.ordered line.toList words path rest ∧ NextWord rest failing ∧
      Unnamed ci failing (below r.root.ordered path) ∧
      (∀ c ∈ path.getLast?, c.isGroup ∧ c.parts.body = none) ∧
      e = .commandNotFound (" ".intercalate (words ++ failing.toList))) ∧
    (∀ target, r.resolve line = .ok target → target.command.parts.body.isSome) ∧
    ∀ target, r.resolve line = .ok target → ∀ others otherLine,
      List.Forall₂ (Named ci) others (target.parents ++ [target.command]) →
      Begins otherLine.toList others target.remaining.toList →
      ∃ again, r.resolve otherLine = .ok again ∧ again.command = target.command ∧
        again.parents = target.parents ∧ again.remaining = target.remaining := by
  intro r
  have orderly : Orderly ci r := grown_orderly ci changes
  refine ⟨resolve_eq_ok_iff orderly line, resolve_eq_error_iff orderly line,
    fun target => body_of_resolve orderly, fun target resolved others otherLine named begins => ?_⟩
  obtain ⟨follows, runs⟩ := (resolve_eq_ok_iff orderly line target).1 resolved
  rcases List.eq_nil_or_concat' others with rfl | ⟨said, word, rfl⟩
  · simp at named
  · refine ⟨⟨target.command, target.parents, word, said, target.remaining⟩, ?_, rfl, rfl, rfl⟩
    exact (resolve_eq_ok_iff orderly otherLine _).2
      ⟨⟨follows.start, follows.chain, named, begins⟩, runs⟩

end ChatCommands.LongestDescent
