import ChatCommands.Proofs.FlagCuts
import ChatCommands.Proofs.GatheredFlags

/-! Writing flags inverts reading them. A scan of a text behind a word does not look back, so names
and values written one behind the other are found again, each at its place, and every flag has the
values written under one of its names (`written_flags_gather`). -/
namespace ChatCommands.WrittenFlags
open FlagPlaces FlagCuts FlagText GatheredFlags

variable {style : FlagStyle} {start other : Nat} {afterBlank : Bool}
  {cs rest name value : List Char}
  {b : Char}

/-! ## Scans word by word -/

/-- A style whose flags read back: its lead holds no blank, and its delimiter nothing but blanks, or
no blank and no name character in front. -/
structure Legible (style : FlagStyle) : Prop where
  lead : ∀ c ∈ style.lead.toList, Text.isBlank c = false
  delimiter : (∀ c ∈ style.delimiter.toList, Text.isBlank c = true) ∨
    (∀ c ∈ style.delimiter.toList, Text.isBlank c = false) ∧
      ∀ c ∈ style.delimiter.toList.head?, isFlagNameChar c = false

theorem Legible.divider (legible : Legible style) :
    ∀ c ∈ divider style, Text.isBlank c = false := by
  unfold FlagPlaces.divider
  split_ifs with hidden
  · simp
  · rcases legible.delimiter with blank | ⟨solid, -⟩
    · exact absurd (List.all_eq_true.2 blank) hidden
    · exact solid

theorem Legible.head (legible : Legible style) (isName : IsName name) :
    ∀ c ∈ head style name, Text.isBlank c = false := by
  intro c member
  simp only [FlagPlaces.head, List.mem_append] at member
  rcases member with (inLead | inName) | inDivider
  · exact legible.lead c inLead
  · exact blank_of_nameChar (isName.2 c inName)
  · exact legible.divider c inDivider

theorem Legible.closes (legible : Legible style) : Closes style [] := by
  unfold Closes
  split_ifs with hidden
  · simp
  · rcases legible.delimiter with blank | ⟨-, ends⟩
    · exact absurd (List.all_eq_true.2 blank) hidden
    · exact ends

theorem occurrenceAt_alone (legible : Legible style) (isName : IsName name) :
    style.occurrenceAt start (head style name) = some (flagAt style start name) := by
  rw [← List.append_nil (FlagPlaces.head style name)]
  exact occurrenceAt_head isName legible.closes

theorem closes_append (blank : Text.isBlank b = true) :
    Closes style (cs ++ b :: rest) ↔ Closes style cs := by
  unfold Closes
  split_ifs
  · cases cs <;> simp [blank]
  · rfl

/-- A flag is read from the word it starts. -/
theorem occurrenceAt_append (legible : Legible style) (blank : Text.isBlank b = true) :
    style.occurrenceAt start (cs ++ b :: rest) = style.occurrenceAt start cs := by
  apply Option.ext
  intro o
  constructor
  · intro found
    obtain ⟨tail, whole, isName, closes, made⟩ := head_of_occurrenceAt found
    rcases List.append_eq_append_iff.1 whole with ⟨c, spelled, met⟩ | ⟨c, rfl, rfl⟩
    · cases c with
      | nil =>
        rw [List.append_nil] at spelled
        rw [made, ← spelled]
        exact occurrenceAt_alone legible isName
      | cons d c =>
        obtain ⟨rfl, -⟩ := List.cons_eq_cons.1 met
        have solid := legible.head isName b (by simp [spelled])
        rw [blank] at solid
        contradiction
    · rw [made]
      exact occurrenceAt_head isName ((closes_append blank).1 closes)
  · intro found
    obtain ⟨tail, rfl, isName, closes, made⟩ := head_of_occurrenceAt found
    rw [made, List.append_assoc]
    exact occurrenceAt_head isName ((closes_append blank).2 closes)

/-- What is found behind a blank does not depend on what is in front of it, nor the other way. -/
theorem scanFrom_append (legible : Legible style) (blank : Text.isBlank b = true) :
    style.scanFrom start afterBlank (cs ++ b :: rest) =
      style.scanFrom start afterBlank cs ++ style.scanFrom (start + cs.length + 1) true rest := by
  induction cs generalizing start afterBlank with
  | nil => simp [scanFrom_cons, blank, FlagStyle.scanFrom]
  | cons c cs ih =>
    have first : style.occurrenceAt start (c :: cs ++ b :: rest) =
        style.occurrenceAt start (c :: cs) := occurrenceAt_append legible blank
    have place : start + 1 + cs.length + 1 = start + (c :: cs).length + 1 := by
      rw [List.length_cons]
      omega
    rw [List.cons_append] at first
    rw [List.cons_append, scanFrom_cons, scanFrom_cons, first, ih, place, List.append_assoc]

theorem scanFrom_blanks (blanks : ∀ c ∈ cs, Text.isBlank c = true) :
    style.scanFrom start true (cs ++ rest) = style.scanFrom (start + cs.length) true rest := by
  induction cs generalizing start with
  | nil => rfl
  | cons c cs ih =>
    obtain ⟨blank, others⟩ := List.forall_mem_cons.1 blanks
    rw [List.cons_append, scanFrom_cons, blank, ih others, List.length_cons]
    simp [Nat.add_assoc, Nat.add_comm 1]

theorem scanFrom_solid (solid : ∀ c ∈ cs, Text.isBlank c = false) :
    style.scanFrom start false cs = [] := by
  induction cs generalizing start with
  | nil => rfl
  | cons c cs ih =>
    obtain ⟨visible, others⟩ := List.forall_mem_cons.1 solid
    rw [scanFrom_cons, visible, ih others]
    rfl

theorem scanFrom_head (legible : Legible style) (isName : IsName name) :
    style.scanFrom start true (head style name) = [flagAt style start name] := by
  have solid := legible.head isName
  have first : style.occurrenceAt start (FlagPlaces.head style name) =
      some (flagAt style start name) := occurrenceAt_alone legible isName
  cases spelled : head style name with
  | nil => simp [FlagPlaces.head, isName.1] at spelled
  | cons c cs =>
    rw [spelled] at solid first
    obtain ⟨visible, others⟩ := List.forall_mem_cons.1 solid
    rw [scanFrom_cons, visible, scanFrom_solid others, first]
    rfl

/-- Whether a text holds flags does not depend on the place it stands at. -/
theorem scanFrom_eq_nil_of_shift (silent : style.scanFrom other afterBlank cs = []) :
    style.scanFrom start afterBlank cs = [] := by
  rw [List.eq_nil_iff_forall_not_mem] at silent ⊢
  intro o member
  obtain ⟨before, rest, rfl, starts, found⟩ := mem_scanFrom.1 member
  obtain ⟨tail, rfl, isName, closes, -⟩ := head_of_occurrenceAt found
  exact silent _ (mem_scanFrom.2 ⟨before, _, rfl, starts, occurrenceAt_head isName closes⟩)

/-! ## Written flags -/

/-- A value that can stand behind a flag: some text, without blanks at its ends, that holds no
flag. -/
structure Plain (style : FlagStyle) (value : String) : Prop where
  full : value ≠ ""
  trimmed : Text.trim value.toList = value.toList
  silent : style.scan value.toList = []

/-- Names with values as they are written, one behind the other. -/
def written (style : FlagStyle) (pairs : List (String × String)) : String :=
  " ".intercalate (pairs.map fun p => style.lead ++ p.1 ++ style.delimiter ++ " " ++ p.2)

/-- The blanks between a head and a value. -/
def gap (style : FlagStyle) : List Char :=
  (if style.blankDelimiter then style.delimiter.toList else []) ++ [' ']

/-- A name with its value. -/
def entry (style : FlagStyle) (p : String × String) : List Char :=
  head style p.1.toList ++ (gap style ++ p.2.toList)

/-- The text of names with values. -/
def spelling (style : FlagStyle) : List (String × String) → List Char
  | [] => []
  | [p] => entry style p
  | p :: q :: pairs => entry style p ++ ' ' :: spelling style (q :: pairs)

theorem toList_entry (p : String × String) :
    (style.lead ++ p.1 ++ style.delimiter ++ " " ++ p.2).toList = entry style p := by
  cases hidden : style.blankDelimiter <;> simp [entry, FlagPlaces.head, divider, gap, hidden]

theorem toList_written (pairs : List (String × String)) :
    (written style pairs).toList = spelling style pairs := by
  induction pairs with
  | nil => rfl
  | cons p pairs ih =>
    cases pairs with
    | nil => simpa [written, spelling] using toList_entry p
    | cons q pairs =>
      have first : (style.lead ++ p.1 ++ style.delimiter ++ " " ++ p.2).toList = entry style p :=
        toList_entry p
      simp only [written, String.toList_intercalate, List.map_cons,
        List.intercalate_cons_cons] at ih ⊢
      rw [first, ih, List.append_assoc]
      rfl

theorem blank_gap : ∀ c ∈ gap style, Text.isBlank c = true := by
  intro c member
  unfold gap at member
  split_ifs at member with hidden
  · rcases List.mem_append.1 member with inDelimiter | space
    · exact List.all_eq_true.1 hidden c inDelimiter
    · rw [List.mem_singleton.1 space]
      decide
  · rw [List.mem_singleton.1 member]
    decide

/-! ## Reading them back -/

variable {group : FlagGroup Shape} {pairs : List (String × String)} {position : String → Nat}

/-- The flags of a text of names with values, from a place on. -/
def places (style : FlagStyle) (position : String → Nat) (start : Nat) :
    List (String × String) → List (Nat × Occurrence)
  | [] => []
  | p :: pairs => (position p.1, flagAt style start p.1.toList) ::
      places style position (start + (entry style p).length + 1) pairs

/-- Behind a head, nothing is found before the value. -/
theorem scanFrom_entry (legible : Legible style) (isName : IsName name) :
    style.scanFrom start true (head style name ++ (gap style ++ rest)) =
      flagAt style start name ::
        style.scanFrom (start + (head style name ++ gap style).length) true rest := by
  have blank : ∀ c ∈ gap style, Text.isBlank c = true := blank_gap
  have some : gap style ≠ [] := by simp [gap]
  obtain ⟨b, blanks, spelled⟩ := List.exists_cons_of_ne_nil some
  rw [spelled] at blank ⊢
  obtain ⟨first, others⟩ := List.forall_mem_cons.1 blank
  rw [List.cons_append, scanFrom_append legible first, scanFrom_head legible isName,
    scanFrom_blanks others, List.length_append, List.length_cons]
  simp [Nat.add_assoc, Nat.add_comm 1]

theorem scanFrom_spelling (legible : Legible style)
    (named : ∀ p ∈ pairs, IsName p.1.toList) (plain : ∀ p ∈ pairs, Plain style p.2) :
    style.scanFrom start true (spelling style pairs) =
      (places style position start pairs).map Prod.snd := by
  induction pairs generalizing start with
  | nil => rfl
  | cons p pairs ih =>
    obtain ⟨isName, names⟩ := List.forall_mem_cons.1 named
    obtain ⟨value, values⟩ := List.forall_mem_cons.1 plain
    have silent (place : Nat) : style.scanFrom place true p.2.toList = [] :=
      scanFrom_eq_nil_of_shift value.silent
    cases pairs with
    | nil =>
      rw [spelling, entry, scanFrom_entry legible isName, silent]
      rfl
    | cons q pairs =>
      have shape : spelling style (p :: q :: pairs) = head style p.1.toList ++
          (gap style ++ (p.2.toList ++ ' ' :: spelling style (q :: pairs))) := by
        simp [spelling, entry]
      have place : start + (head style p.1.toList ++ gap style).length + p.2.toList.length + 1 =
          start + (entry style p).length + 1 := by
        simp [entry, Nat.add_assoc]
      rw [shape, scanFrom_entry legible isName, scanFrom_append legible (by decide), silent,
        List.nil_append, place, ih names values]
      rfl

theorem declared_places (known : ∀ p ∈ pairs, group.position? style p.1 = some (position p.1)) :
    declared group style cs ((places style position start pairs).map Prod.snd) =
      .ok (places style position start pairs) := by
  induction pairs generalizing start with
  | nil => rfl
  | cons p pairs ih =>
    obtain ⟨own, others⟩ := List.forall_mem_cons.1 known
    simp only [places, List.map_cons, declared, flagAt, String.ofList_toList, own]
    rw [ih others]
    rfl

theorem trim_value {before after : List Char} {text : String} (value : Plain style text)
    (blankBefore : ∀ c ∈ before, Text.isBlank c = true)
    (blankAfter : ∀ c ∈ after, Text.isBlank c = true) :
    Text.trim (before ++ (text.toList ++ after)) = text.toList :=
  Text.trim_padded blankBefore blankAfter (by simpa using value.full) value.trimmed

theorem tiles_spelling (plain : ∀ p ∈ pairs, Plain style p.2) :
    Tiles style start (places style position start pairs)
      (pairs.map fun p => (position p.1, p.2.toList)) (spelling style pairs) := by
  induction pairs generalizing start with
  | nil => exact .done start
  | cons p pairs ih =>
    obtain ⟨value, values⟩ := List.forall_mem_cons.1 plain
    cases pairs with
    | nil =>
      have trimmed : Text.trim (gap style ++ (p.2.toList ++ [])) = p.2.toList :=
        trim_value value blank_gap (by simp)
      have tile : Tiles style start [(position p.1, flagAt style start p.1.toList)] _ _ :=
        .flag (position p.1) start p.1.toList (gap style ++ (p.2.toList ++ [])) (.done _)
      rw [trimmed] at tile
      simpa [places, spelling, entry] using tile
    | cons q pairs =>
      have trimmed : Text.trim (gap style ++ (p.2.toList ++ [' '])) = p.2.toList :=
        trim_value value blank_gap (List.forall_mem_singleton.2 rfl)
      have place : start + (head style p.1.toList).length +
          (gap style ++ (p.2.toList ++ [' '])).length = start + (entry style p).length + 1 := by
        simp [entry, Nat.add_assoc]
      have tile : Tiles style start ((position p.1, flagAt style start p.1.toList) ::
          places style position (start + (entry style p).length + 1) (q :: pairs)) _ _ :=
        .flag (position p.1) start p.1.toList (gap style ++ (p.2.toList ++ [' ']))
          (by rw [place]; exact ih values)
      rw [trimmed] at tile
      simpa [places, spelling, entry] using tile

theorem read_written (legible : Legible style)
    (named : ∀ p ∈ pairs, IsName p.1.toList) (plain : ∀ p ∈ pairs, Plain style p.2)
    (known : ∀ p ∈ pairs, group.position? style p.1 = some (position p.1)) :
    FlagText.read group style (written style pairs).toList =
      .ok ⟨[], pairs.map fun p => (position p.1, p.2.toList)⟩ := by
  have tiles : Tiles style ([] : List Char).length (places style position 0 pairs) _ _ :=
    tiles_spelling plain
  have valued : values? (spelling style pairs) (places style position 0 pairs) =
      some (pairs.map fun p => (position p.1, p.2.toList)) := values?_of_tiles tiles
  have first : firstStart (spelling style pairs) (places style position 0 pairs) = 0 :=
    firstStart_of_tiles tiles
  have accepted : declared group style (spelling style pairs)
      (style.scan (spelling style pairs)) = .ok (places style position 0 pairs) := by
    rw [FlagStyle.scan, scanFrom_spelling legible named plain]
    exact declared_places known
  have nothing : Text.trim (front (spelling style pairs) (places style position 0 pairs)) = [] := by
    rw [front, first]
    rfl
  rw [toList_written]
  rcases read_of_declared accepted with ⟨-, cut⟩ | ⟨refused, -⟩
  · rw [cut, nothing, valued]
  · exact absurd (fun _ => nothing) refused

/-! ## Flags by their names -/

variable {f : Flag Shape} {index : Nat} {a : String}

theorem isName_of_nameProblem {seen later names : List String}
    (accepted : FlagGroup.nameProblem? seen names = .ok later) :
    ∀ a ∈ names, IsName a.toList := by
  induction names generalizing seen with
  | nil => simp
  | cons a names ih =>
    unfold FlagGroup.nameProblem? at accepted
    split_ifs at accepted with malformed known
    rw [Bool.or_eq_true, not_or] at malformed
    refine List.forall_mem_cons.2 ⟨⟨by simpa using malformed.1, ?_⟩, ih accepted⟩
    simpa using malformed.2

theorem isName_of_flagsProblem {seen : List String} {flags : List (Flag Shape)}
    (accepted : FlagGroup.flagsProblem? seen flags = none) :
    ∀ f ∈ flags, ∀ a ∈ f.names, IsName a.toList := by
  induction flags generalizing seen with
  | nil => simp
  | cons flag flags ih =>
    unfold FlagGroup.flagsProblem? at accepted
    split at accepted
    · contradiction
    · rename_i names
      split_ifs at accepted
      exact List.forall_mem_cons.2 ⟨isName_of_nameProblem names, ih accepted⟩

theorem lower_of_sameName {n : String} (same : style.sameName n a = true) :
    Text.lower n = Text.lower a := by
  unfold FlagStyle.sameName at same
  split_ifs at same
  · exact beq_iff_eq.1 same
  · rw [beq_iff_eq.1 same]

theorem sameName_self : style.sameName a a = true := by
  unfold FlagStyle.sameName
  split_ifs <;> simp

/-- In a group that can be used, a name finds the flag it was declared for. -/
theorem position?_of_name (usable : group.problem? = none)
    (declared : group.flags[index]? = some f) (named : a ∈ f.names) :
    group.position? style a = some index := by
  obtain ⟨inside, rfl⟩ := List.getElem?_eq_some_iff.1 declared
  refine List.findIdx?_eq_some_iff_getElem.2 ⟨inside, ?_, ?_⟩
  · exact List.any_eq_true.2 ⟨a, named, sameName_self⟩
  · intro earlier before
    rw [List.any_eq_true]
    rintro ⟨n, own, same⟩
    have apart := List.pairwise_iff_getElem.1 (ShapedValues.apart_of_flagsProblem usable).2
      earlier index (before.trans inside) inside before
    exact apart n own a named (lower_of_sameName same)

/-- The values written under the names of a flag, in order of writing. -/
def valuesFor (pairs : List (String × String)) (f : Flag Shape) : List String :=
  (pairs.filter fun p => f.names.contains p.1).map Prod.snd

theorem valuesOf_pairs (usable : group.problem? = none)
    (named : ∀ p ∈ pairs, ∃ g ∈ group.flags, p.1 ∈ g.names)
    (known : ∀ p ∈ pairs, group.position? style p.1 = some (position p.1))
    (declared : group.flags[index]? = some f) :
    FlagText.valuesOf ⟨[], pairs.map fun p => (position p.1, p.2.toList)⟩ index =
      (valuesFor pairs f).map String.toList := by
  have own : ∀ p ∈ pairs, (position p.1 == index) = f.names.contains p.1 := by
    intro p member
    rw [Bool.eq_iff_iff, beq_iff_eq, List.contains_iff_mem]
    constructor
    · rintro rfl
      obtain ⟨g, there, its⟩ := named p member
      obtain ⟨place, placed⟩ := List.mem_iff_getElem?.1 there
      have found := (known p member).symm.trans (position?_of_name usable placed its)
      rw [Option.some.inj found, placed, Option.some.injEq] at declared
      exact declared ▸ its
    · intro its
      exact Option.some.inj ((known p member).symm.trans (position?_of_name usable declared its))
  simp only [valuesOf, valuesFor, List.filter_map, List.map_map]
  rw [← List.filter_congr own]
  rfl

/-- Flags that are written are read back: a group that can be used makes of the text what the rules
make of the values written under the names of each flag. -/
theorem written_flags_gather {cs : Converters} {ctx : Context} {param : String}
    {group : FlagGroup Shape} {pairs : List (String × String)} (usable : group.problem? = none)
    (legible : Legible (group.style.getD cs.flagStyle))
    (named : ∀ p ∈ pairs, ∃ f ∈ group.flags, p.1 ∈ f.names)
    (plain : ∀ p ∈ pairs, Plain (group.style.getD cs.flagStyle) p.2)
    (r : Except CommandError Value) :
    cs.convert ctx param (.flags group) (written (group.style.getD cs.flagStyle) pairs) = r ↔
      Gathers cs ctx group.flags (valuesFor pairs) r := by
  let style := group.style.getD cs.flagStyle
  let position (a : String) : Nat := (group.position? style a).getD 0
  have known : ∀ p ∈ pairs, group.position? style p.1 = some (position p.1) := by
    intro p member
    obtain ⟨f, there, its⟩ := named p member
    obtain ⟨index, declared⟩ := List.mem_iff_getElem?.1 there
    have found : group.position? style p.1 = some index := position?_of_name usable declared its
    simp only [position, found, Option.getD_some]
  have names : ∀ p ∈ pairs, IsName p.1.toList := by
    intro p member
    obtain ⟨f, there, its⟩ := named p member
    exact isName_of_flagsProblem usable f there p.1 its
  have given : Given group.flags ⟨[], pairs.map fun p => (position p.1, p.2.toList)⟩
      (valuesFor pairs) := by
    refine ⟨ShapedValues.distinct_of_flagsProblem usable, ?_, ?_⟩
    · intro index f declared
      exact valuesOf_pairs usable named known declared
    · intro f _ text member
      obtain ⟨p, written, rfl⟩ := List.mem_map.1 member
      exact (plain p (List.mem_of_mem_filter written)).full
  have read : FlagText.read group style (written style pairs).toList = _ :=
    read_written legible names plain known
  obtain ⟨flags, own⟩ := group
  rw [← convertFlags_eq_iff given]
  simp only [Converters.convert, Converters.convertGroup]
  rw [read]

/-- Tags, of which the last two count. -/
def tags : Flag Shape where
  name := "tag"
  shape := .of .str
  aliases := ["t"]
  multiple := true
  maxArgs := some 2
  overrideLast := true

def size : Flag Shape where
  name := "n"
  shape := .of .int

def labels : FlagGroup Shape where
  flags := [tags, size]
  style := some .dashed

def labelled : List (String × String) :=
  [("t", "one"), ("n", "7"), ("tag", "two words"), ("t", "-x")]

/-- Flags written under several names, in a style whose delimiter is blank, are gathered again. -/
theorem last_labels_gathered :
    labels.problem? = none ∧ Legible FlagStyle.dashed ∧
      (∀ p ∈ labelled, ∃ f ∈ labels.flags, p.1 ∈ f.names) ∧
      (∀ p ∈ labelled, Plain FlagStyle.dashed p.2) ∧
      written FlagStyle.dashed labelled = "--t  one --n  7 --tag  two words --t  -x" ∧
      Converters.builtin.convert HardFailures.guest "labels" (.flags labels)
          (written FlagStyle.dashed labelled) =
        .ok (.flags [("n", .int 7), ("tag", .list [.str "two words", .str "-x"])]) := by
  have usable : labels.problem? = none := by decide
  have legible : Legible FlagStyle.dashed := by
    constructor
    · exact List.forall_mem_cons.2 ⟨rfl, List.forall_mem_singleton.2 rfl⟩
    · exact .inl (List.forall_mem_singleton.2 rfl)
  have named : ∀ p ∈ labelled, ∃ f ∈ labels.flags, p.1 ∈ f.names := by
    simp [labelled, labels, tags, size, Flag.names]
  have plain : ∀ p ∈ labelled, Plain FlagStyle.dashed p.2 := by
    intro p member
    simp only [labelled, List.mem_cons, List.not_mem_nil, or_false] at member
    rcases member with rfl | rfl | rfl | rfl <;> exact ⟨by decide, by decide, by decide⟩
  have last : Keeps tags (["one"] ++ ["two words", "-x"]) ["two words", "-x"] :=
    .last rfl (by simp) rfl
  have number : Takes .builtin HardFailures.guest size ["7"] (.ok (.int 7)) :=
    .one (.all (by simp [size, Flag.limit?])) rfl rfl
  have gathers : Gathers .builtin HardFailures.guest labels.flags (valuesFor labelled)
      (.ok (.flags [("n", .int 7), ("tag", .list [.str "two words", .str "-x"])])) := by
    have ascending : "n" < "tag" := by decide
    have given : valuesFor labelled tags = ["one", "two words", "-x"] := rfl
    refine .all (by simpa using ascending) (by simp [labels, tags, size, eq_comm, or_comm]) ?_
    intro f member
    simp only [labels, List.mem_cons, List.not_mem_nil, or_false] at member
    rcases member with rfl | rfl
    · exact ⟨_, rfl, .many (by simp [given]) last rfl (.cons rfl (.cons rfl .nil))⟩
    · exact ⟨_, rfl, number⟩
  exact ⟨usable, legible, named, plain, rfl,
    (written_flags_gather usable legible named plain _).2 gathers⟩

end ChatCommands.WrittenFlags
