import ChatCommands.Parameter.FlagScan
import Mathlib.Data.List.Chain

/-! The places where a scan finds flags. A flag starts a word: in front of its value stand its lead,
its name and its delimiter (`head`), and where these hold no blanks, what is found at one word does
not depend on the text behind the next blank. -/
namespace ChatCommands.FlagPlaces

variable {style : FlagStyle} {start place : Nat} {cs name rest : List Char} {o : Occurrence}

/-! ## Blanks and names -/

theorem ascending_blankRanges : Text.Ascending Text.blankRanges := by
  simp [Text.Ascending, Text.blankRanges]

theorem apart_blankRanges : ∀ r ∈ Text.blankRanges, ∀ n ∈ List.range' r.1 (r.2 + 1 - r.1),
    Text.inRanges Text.wordRanges n = false ∧ n ≠ '_'.toNat ∧ n ≠ '-'.toNat := by
  decide +kernel

theorem nameChar_of_blank {c : Char} (blank : Text.isBlank c = true) :
    isFlagNameChar c = false := by
  obtain ⟨r, member, low, high⟩ := (Text.inRanges_iff ascending_blankRanges c.toNat).1 blank
  obtain ⟨word, underscore, dash⟩ :=
    apart_blankRanges r member c.toNat (List.mem_range'_1.2 ⟨low, by omega⟩)
  have notUnderscore : c ≠ '_' := fun same => underscore (congrArg Char.toNat same)
  have notDash : c ≠ '-' := fun same => dash (congrArg Char.toNat same)
  simp [isFlagNameChar, Text.isWordChar, word, notUnderscore, notDash]

theorem blank_of_nameChar {c : Char} (named : isFlagNameChar c = true) :
    Text.isBlank c = false := by
  rw [Bool.eq_false_iff]
  intro blank
  rw [nameChar_of_blank blank] at named
  contradiction

/-! ## One flag -/

/-- What can be written as a flag's name. -/
def IsName (name : List Char) : Prop := name ≠ [] ∧ ∀ c ∈ name, isFlagNameChar c = true

/-- The delimiter as far as it belongs to a flag: a blank one belongs to the value. -/
def divider (style : FlagStyle) : List Char :=
  if style.blankDelimiter then [] else style.delimiter.toList

/-- What stands in front of a flag's value. -/
def head (style : FlagStyle) (name : List Char) : List Char :=
  style.lead.toList ++ name ++ divider style

/-- Whether a name ends where `rest` follows the head. -/
def Closes (style : FlagStyle) (rest : List Char) : Prop :=
  if style.blankDelimiter then ∀ c ∈ rest.head?, Text.isBlank c = true
  else ∀ c ∈ style.delimiter.toList.head?, isFlagNameChar c = false

/-- The flag of a name, from a place on. -/
def flagAt (style : FlagStyle) (place : Nat) (name : List Char) : Occurrence :=
  ⟨place, name, place + (head style name).length⟩

theorem delimiter_ne_nil (visible : style.blankDelimiter = false) :
    style.delimiter.toList ≠ [] := by
  intro empty
  simp [FlagStyle.blankDelimiter, empty] at visible

/-- Names are read as far as they go. -/
theorem name_cut {tail : List Char} (named : ∀ c ∈ name, isFlagNameChar c = true)
    (ends : ∀ c ∈ tail.head?, isFlagNameChar c = false) :
    (name ++ tail).takeWhile isFlagNameChar = name ∧
      (name ++ tail).dropWhile isFlagNameChar = tail := by
  rw [List.takeWhile_append_of_pos named, List.dropWhile_append_of_pos named]
  cases tail with
  | nil => simp
  | cons c tail => simp [ends c rfl]

theorem ends_of_closes (closes : Closes style rest) :
    ∀ c ∈ (divider style ++ rest).head?, isFlagNameChar c = false := by
  unfold Closes at closes
  unfold divider
  cases hidden : style.blankDelimiter with
  | true =>
    rw [hidden] at closes
    exact fun c first => nameChar_of_blank (closes c first)
  | false =>
    rw [hidden] at closes
    obtain ⟨c, others, spelled⟩ := List.exists_cons_of_ne_nil (delimiter_ne_nil hidden)
    simpa [spelled] using closes

theorem length_head : (head style name).length =
    style.lead.length + name.length + (divider style).length := by
  simp [head, Nat.add_assoc, String.length_toList]

/-- A flag that stands first is read with the longest name there is. -/
theorem occurrenceAt_head (isName : IsName name) (closes : Closes style rest) :
    style.occurrenceAt start (head style name ++ rest) = some (flagAt style start name) := by
  obtain ⟨full, named⟩ := isName
  obtain ⟨taken, dropped⟩ := name_cut named (ends_of_closes closes)
  have shape : head style name ++ rest =
        style.lead.toList ++ (name ++ (divider style ++ rest)) := by
    simp [head]
  have missing : name.isEmpty = false := by simpa using full
  simp only [FlagStyle.occurrenceAt, shape, Text.stripStart_eq_some_iff.2 rfl, Option.bind_eq_bind,
    Option.bind_some, taken, dropped, missing, Bool.false_eq_true, if_false]
  cases hidden : style.blankDelimiter with
  | true =>
    have none : divider style = [] := if_pos hidden
    simp only [none, List.nil_append, if_true]
    cases rest with
    | nil => simp [flagAt, length_head, none, Nat.add_assoc]
    | cons c rest =>
      have blank : Text.isBlank c = true := by
        rw [Closes, if_pos hidden] at closes
        exact closes c rfl
      simp [flagAt, length_head, none, blank, Nat.add_assoc]
  | false =>
    have all : divider style = style.delimiter.toList := if_neg (by simp [hidden])
    simp only [all, Text.stripStart_eq_some_iff.2 rfl, Bool.false_eq_true, if_false]
    simp [flagAt, length_head, all, Nat.add_assoc, String.length_toList]

/-- What is read as a flag stands first, with its name. -/
theorem head_of_occurrenceAt (found : style.occurrenceAt start cs = some o) :
    ∃ rest, cs = head style o.name ++ rest ∧ IsName o.name ∧ Closes style rest ∧
      o = flagAt style start o.name := by
  simp only [FlagStyle.occurrenceAt, Option.bind_eq_bind, Option.bind_eq_some_iff,
    Text.stripStart_eq_some_iff] at found
  obtain ⟨afterLead, rfl, found⟩ := found
  have named := List.all_eq_true.1 (List.all_takeWhile (p := isFlagNameChar) (l := afterLead))
  have whole := List.takeWhile_append_dropWhile (p := isFlagNameChar) (l := afterLead)
  have stops : ∀ c ∈ (afterLead.dropWhile isFlagNameChar).head?, isFlagNameChar c = false := by
    intro c first
    have stop := List.head?_dropWhile_not isFlagNameChar afterLead
    rwa [Option.mem_def.1 first] at stop
  generalize afterLead.takeWhile isFlagNameChar = name at *
  generalize afterLead.dropWhile isFlagNameChar = tail at *
  subst whole
  split_ifs at found with missing hidden
  · have none : divider style = [] := if_pos hidden
    have closes : Closes style tail ∧
          o = ⟨start, name, start + style.lead.length + name.length⟩ := by
      rw [Closes, if_pos hidden]
      cases tail with
      | nil =>
        cases found
        exact ⟨by simp, rfl⟩
      | cons c tail =>
        simp only [] at found
        split_ifs at found with blank
        cases found
        exact ⟨by simpa using blank, rfl⟩
    obtain ⟨closes, rfl⟩ := closes
    refine ⟨tail, ?_, ⟨by simpa using missing, named⟩, closes, ?_⟩
    · simp [head, none]
    · simp [flagAt, length_head, none, Nat.add_assoc]
  · have all : divider style = style.delimiter.toList := if_neg hidden
    split at found
    · rename_i rest cut
      rw [Text.stripStart_eq_some_iff] at cut
      subst cut
      cases found
      refine ⟨rest, ?_, ⟨by simpa using missing, named⟩, ?_, ?_⟩
      · simp [head, all]
      · rw [Closes, if_neg hidden]
        obtain ⟨c, others, spelled⟩ :=
          List.exists_cons_of_ne_nil (delimiter_ne_nil (Bool.eq_false_iff.2 hidden))
        simpa [spelled] using stops
      · simp [flagAt, length_head, all, Nat.add_assoc, String.length_toList]
    · contradiction

/-! ## Every place -/

variable {afterBlank : Bool} {b : Char}

/-- A word starts between two parts of a text. -/
def WordStarts (afterBlank : Bool) (before rest : List Char) : Prop :=
  (∀ c ∈ rest.head?, Text.isBlank c = false) ∧
    match before.getLast? with
    | none => afterBlank = true
    | some c => Text.isBlank c = true

theorem wordStarts_cons (c : Char) (before : List Char) :
    WordStarts afterBlank (c :: before) rest ↔ WordStarts (Text.isBlank c) before rest := by
  cases last : before.getLast? with
  | none =>
    rw [List.getLast?_eq_none_iff.1 last]
    simp [WordStarts]
  | some d => simp [WordStarts, List.getLast?_cons, last]

theorem scanFrom_cons (c : Char) (cs : List Char) :
    style.scanFrom start afterBlank (c :: cs) =
      (if afterBlank && !Text.isBlank c then (style.occurrenceAt start (c :: cs)).toList else []) ++
        style.scanFrom (start + 1) (Text.isBlank c) cs := by
  rw [FlagStyle.scanFrom]
  split_ifs
  · cases style.occurrenceAt start (c :: cs) <;> rfl
  · rfl

/-- The scan finds a flag wherever a word starts with one, and nowhere else. -/
theorem mem_scanFrom : o ∈ style.scanFrom start afterBlank cs ↔
    ∃ before rest, cs = before ++ rest ∧ WordStarts afterBlank before rest ∧
      style.occurrenceAt (start + before.length) rest = some o := by
  induction cs generalizing start afterBlank with
  | nil =>
    constructor
    · intro member
      simp [FlagStyle.scanFrom] at member
    · rintro ⟨before, rest, whole, -, found⟩
      obtain ⟨-, rfl⟩ := List.append_eq_nil_iff.1 whole.symm
      obtain ⟨tail, whole, ⟨full, -⟩, -⟩ := head_of_occurrenceAt found
      simp [head, full] at whole
  | cons c cs ih =>
    rw [scanFrom_cons, List.mem_append, ih]
    constructor
    · rintro (here | ⟨before, rest, rfl, starts, found⟩)
      · split_ifs at here with first
        · obtain ⟨allowed, solid⟩ := Bool.and_eq_true_iff.1 first
          refine ⟨[], c :: cs, rfl, ⟨by simpa using solid, allowed⟩, ?_⟩
          simpa using here
        · contradiction
      · refine ⟨c :: before, rest, rfl, (wordStarts_cons c before).2 starts, ?_⟩
        rwa [List.length_cons, Nat.add_comm before.length, ← Nat.add_assoc]
    · rintro ⟨before, rest, whole, starts, found⟩
      cases before with
      | nil =>
        left
        obtain ⟨solid, allowed⟩ := starts
        rw [List.nil_append] at whole
        subst whole
        have visible := solid c rfl
        have allowed : afterBlank = true := allowed
        simpa [allowed, visible] using found
      | cons d before =>
        right
        obtain ⟨rfl, rfl⟩ := List.cons_eq_cons.1 whole
        refine ⟨before, rest, rfl, (wordStarts_cons c before).1 starts, ?_⟩
        rwa [List.length_cons, Nat.add_comm before.length, ← Nat.add_assoc] at found

theorem start_of_mem_scanFrom (member : o ∈ style.scanFrom start afterBlank cs) :
    start ≤ o.start := by
  obtain ⟨before, rest, -, -, found⟩ := mem_scanFrom.1 member
  obtain ⟨_, -, -, -, made⟩ := head_of_occurrenceAt found
  rw [made]
  exact Nat.le_add_right start before.length

/-- The flags of a text are found in order of writing. -/
theorem ascending_scanFrom :
    (style.scanFrom start afterBlank cs).Pairwise fun earlier later =>
      earlier.start < later.start := by
  induction cs generalizing start afterBlank with
  | nil => exact List.Pairwise.nil
  | cons c cs ih =>
    rw [scanFrom_cons]
    refine List.pairwise_append.2 ⟨?_, ih, ?_⟩
    · split_ifs
      · cases style.occurrenceAt start (c :: cs) <;> simp
      · exact List.Pairwise.nil
    · intro earlier here later member
      split_ifs at here
      · obtain ⟨_, -, -, -, made⟩ := head_of_occurrenceAt (Option.mem_toList.1 here)
        rw [made]
        exact start_of_mem_scanFrom member
      · contradiction

end ChatCommands.FlagPlaces
