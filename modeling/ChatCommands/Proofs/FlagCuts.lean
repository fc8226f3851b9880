import ChatCommands.Config.Settings
import ChatCommands.Convert.Shape
import ChatCommands.Proofs.FlagPlaces

/-! Cutting a text at its flags. The text in front, the heads and the values make up the whole text
as long as no flag starts inside the head of the one before it, and a flag that does ends the
conversion in a panic. A style whose heads hold no start of a word is safe from that. -/
namespace ChatCommands.FlagCuts
open FlagPlaces FlagText

variable {style : FlagStyle} {group : FlagGroup Shape} {cs name : List Char}
  {found : List (Nat × Occurrence)}

/-! ## Flags in order -/

/-- Each flag starts behind the head of the one before it. -/
def InOrder (found : List (Nat × Occurrence)) : Prop :=
  found.IsChain fun earlier later => earlier.2.valueStart ≤ later.2.start

/-- No word starts inside the head of a flag: the lead holds no blank, and only blanks follow a
blank of the delimiter. -/
def Parted (style : FlagStyle) : Prop :=
  (∀ c ∈ style.lead.toList, Text.isBlank c = false) ∧
    style.delimiter.toList.IsChain fun b c => Text.isBlank b = true → Text.isBlank c = true

/-- A flag that a text holds. -/
def Holds (style : FlagStyle) (cs : List Char) (o : Occurrence) : Prop :=
  ∃ before rest, cs = before ++ (head style o.name ++ rest) ∧ IsName o.name ∧
    o = flagAt style before.length o.name ∧ WordStarts true before (head style o.name ++ rest)

theorem holds_of_mem_scan {o : Occurrence} (member : o ∈ style.scan cs) : Holds style cs o := by
  obtain ⟨before, rest, rfl, starts, found⟩ := mem_scanFrom.1 member
  obtain ⟨tail, rfl, named, -, made⟩ := head_of_occurrenceAt found
  rw [Nat.zero_add] at made
  exact ⟨before, tail, rfl, named, made, starts⟩

theorem sublist_of_declared {occurrences : List Occurrence}
    (accepted : declared group style cs occurrences = .ok found) :
    (found.map Prod.snd).Sublist occurrences ∧
      ∀ p ∈ found, group.position? style (String.ofList p.2.name) = some p.1 := by
  induction occurrences generalizing found with
  | nil =>
    cases accepted
    simp
  | cons o occurrences ih =>
    unfold declared at accepted
    split at accepted
    · rename_i flag known
      cases others : declared group style cs occurrences with
      | error e => simp [others, Except.map] at accepted
      | ok later =>
        rw [others] at accepted
        cases accepted
        obtain ⟨sublist, positions⟩ := ih others
        exact ⟨sublist.cons_cons o, List.forall_mem_cons.2 ⟨known, positions⟩⟩
    · split at accepted
      · contradiction
      · obtain ⟨sublist, positions⟩ := ih accepted
        exact ⟨sublist.cons o, positions⟩

theorem holds_of_declared (accepted : declared group style cs (style.scan cs) = .ok found) :
    ∀ p ∈ found, Holds style cs p.2 := by
  intro p member
  exact holds_of_mem_scan ((sublist_of_declared accepted).1.subset (List.mem_map_of_mem member))

theorem ascending_of_declared (accepted : declared group style cs (style.scan cs) = .ok found) :
    found.Pairwise fun earlier later => earlier.2.start < later.2.start := by
  have ascending : (found.map Prod.snd).Pairwise fun earlier later => earlier.start < later.start :=
    ascending_scanFrom.sublist (sublist_of_declared accepted).1
  rwa [List.pairwise_map] at ascending

theorem isChain_head (parted : Parted style) (named : IsName name) :
    (head style name).IsChain fun b c => Text.isBlank b = true → Text.isBlank c = true := by
  have solid : ∀ c ∈ style.lead.toList ++ name, Text.isBlank c = false := by
    intro c member
    rcases List.mem_append.1 member with inLead | inName
    · exact parted.1 c inLead
    · exact blank_of_nameChar (named.2 c inName)
  refine List.isChain_append.2 ⟨?_, ?_, ?_⟩
  · apply List.Pairwise.isChain
    rw [List.pairwise_iff_forall_sublist]
    intro b c sublist blank
    rw [solid b (sublist.subset List.mem_cons_self)] at blank
    contradiction
  · unfold divider
    split_ifs
    · exact List.isChain_nil
    · exact parted.2
  · intro b last c _ blank
    rw [solid b (List.mem_of_mem_getLast? last)] at blank
    contradiction

/-- Where heads hold no start of a word, the next flag starts behind them. -/
theorem valueStart_le_start (parted : Parted style) {o next : Occurrence} (here : Holds style cs o)
    (there : Holds style cs next) (ascending : o.start < next.start) :
    o.valueStart ≤ next.start := by
  obtain ⟨before, rest, rfl, named, made, -⟩ := here
  obtain ⟨earlier, tail, whole, -, placed, solid, starts⟩ := there
  by_contra inside
  rw [made, placed] at ascending inside
  simp only [flagAt, not_le] at ascending inside
  -- the next flag cuts the head in two, where a blank meets the start of a word
  obtain ⟨first, rfl, split⟩ : ∃ first, earlier = before ++ first ∧
      head style o.name ++ rest = first ++ (head style next.name ++ tail) := by
    rcases List.append_eq_append_iff.1 whole with cut | ⟨c, rfl, -⟩
    · exact cut
    · rw [List.length_append] at ascending
      omega
  rw [List.length_append] at ascending inside
  obtain ⟨second, cut, met⟩ : ∃ second, head style o.name = first ++ second ∧
      head style next.name ++ tail = second ++ rest := by
    rcases List.append_eq_append_iff.1 split with ⟨c, rfl, -⟩ | cut
    · rw [List.length_append] at inside
      omega
    · exact cut
  have some : first ≠ [] := by
    rintro rfl
    simp at ascending
  have more : second ≠ [] := by
    rintro rfl
    rw [cut, List.append_nil] at inside
    omega
  have chain := isChain_head parted named
  rw [cut] at chain
  have follows := (List.isChain_append.1 chain).2.2 _ (List.getLast?_eq_some_getLast some)
    _ (List.head?_eq_some_head more)
  rw [List.getLast?_append_of_ne_nil before some, List.getLast?_eq_some_getLast some] at starts
  have visible := solid (second.head more) (by
    rw [met, List.head?_append_of_ne_nil second more, List.head?_eq_some_head more]
    rfl)
  rw [follows starts] at visible
  contradiction

theorem inOrder_of_parted (parted : Parted style)
    (accepted : declared group style cs (style.scan cs) = .ok found) : InOrder found := by
  have holds := holds_of_declared accepted
  refine (List.Pairwise.imp_of_mem ?_ (ascending_of_declared accepted)).isChain
  intro earlier later here there ascending
  exact valueStart_le_start parted (holds earlier here) (holds later there) ascending

/-! ## Values between flags -/

/-- A text, from a place on, as flags one behind the other, each a head and what lies between it and
the next flag. The value given for the flag is that without blanks at its ends. -/
inductive Tiles (style : FlagStyle) :
    Nat → List (Nat × Occurrence) → List (Nat × List Char) → List Char → Prop where
  | done (place : Nat) : Tiles style place [] [] []
  | flag {found : List (Nat × Occurrence)} {given : List (Nat × List Char)} {rest : List Char}
      (position place : Nat) (name value : List Char)
      (later : Tiles style (place + (head style name).length + value.length) found given rest) :
      Tiles style place ((position, flagAt style place name) :: found)
        ((position, Text.trim value) :: given) (head style name ++ (value ++ rest))

/-- Where the first flag starts, the end of the text if there is none. -/
def firstStart (cs : List Char) (found : List (Nat × Occurrence)) : Nat :=
  (found.head?.map (·.2.start)).getD cs.length

theorem firstStart_le_length (holds : ∀ p ∈ found, Holds style cs p.2) :
    firstStart cs found ≤ cs.length := by
  cases found with
  | nil => exact le_refl cs.length
  | cons p found =>
    obtain ⟨before, rest, whole, -, made, -⟩ := holds p List.mem_cons_self
    have place : firstStart cs (p :: found) = p.2.start := rfl
    rw [place, made, whole, List.length_append]
    exact Nat.le_add_right before.length _

/-- A flag starts its value within the text, and not behind the next flag if they are in order. -/
theorem valueStart_le_firstStart {p : Nat × Occurrence} (holds : Holds style cs p.2)
    (ordered : InOrder (p :: found)) : p.2.valueStart ≤ firstStart cs found := by
  cases found with
  | nil =>
    obtain ⟨before, rest, whole, -, made, -⟩ := holds
    have place : firstStart cs [] = cs.length := rfl
    rw [place, made, whole]
    simp [flagAt]
  | cons next found => exact (List.isChain_cons_cons.1 ordered).1

/-- The text behind a place, cut at a later one. -/
theorem drop_cut {place stop : Nat} (behind : place ≤ stop) (within : stop ≤ cs.length) :
    cs.drop place = (cs.take stop).drop place ++ cs.drop stop := by
  have taken : place ≤ (cs.take stop).length := by rwa [List.length_take_of_le within]
  rw [← List.drop_append_of_le_length taken, List.take_append_drop]

theorem tiles_of_inOrder (holds : ∀ p ∈ found, Holds style cs p.2) (ordered : InOrder found) :
    ∃ given, values? cs found = some given ∧
      Tiles style (firstStart cs found) found given (cs.drop (firstStart cs found)) := by
  induction found with
  | nil =>
    have place : firstStart cs [] = cs.length := rfl
    refine ⟨[], rfl, ?_⟩
    rw [place, List.drop_length]
    exact .done cs.length
  | cons p found ih =>
    obtain ⟨position, o⟩ := p
    obtain ⟨here, others⟩ := List.forall_mem_cons.1 holds
    obtain ⟨given, valued, tiles⟩ := ih others ordered.tail
    have behind := valueStart_le_firstStart here ordered
    have within := firstStart_le_length others
    obtain ⟨before, rest, whole, named, made, -⟩ := here
    simp only [] at behind whole made
    have valueStart : o.valueStart = before.length + (head style o.name).length :=
      congrArg Occurrence.valueStart made
    let stop := firstStart cs found
    let value := (cs.take stop).drop o.valueStart
    have size : value.length = stop - o.valueStart := by
      simp [value, List.length_drop, List.length_take, Nat.min_eq_left within, stop]
    have tail : rest = value ++ cs.drop stop := by
      have long : (before ++ head style o.name).length = o.valueStart := by
        rw [List.length_append, valueStart]
      calc rest = cs.drop o.valueStart := by
            rw [whole, ← List.append_assoc, ← long, List.drop_left]
        _ = value ++ cs.drop stop := drop_cut behind within
    refine ⟨(position, Text.trim value) :: given, ?_, ?_⟩
    · have step : values? cs ((position, o) :: found) =
          (values? cs found).map ((position, Text.trim value) :: ·) := if_pos behind
      rw [step, valued, Option.map_some]
    · have place : firstStart cs ((position, o) :: found) = before.length :=
        congrArg Occurrence.start made
      have dropped : cs.drop before.length = head style o.name ++ (value ++ cs.drop stop) := by
        rw [← tail]
        conv_lhs => rw [whole]
        exact List.drop_left
      rw [place, dropped]
      conv in (_ :: found) => rw [made]
      refine .flag position before.length o.name value ?_
      rw [size, ← valueStart, Nat.add_sub_cancel' behind]
      exact tiles

theorem firstStart_of_tiles {given : List (Nat × List Char)} {before rest : List Char}
    (tiles : Tiles style before.length found given rest) :
    firstStart (before ++ rest) found = before.length := by
  cases tiles with
  | done => rw [List.append_nil]; rfl
  | flag => rfl

/-- A text that is flags one behind the other is read as those. -/
theorem values?_of_tiles {given : List (Nat × List Char)} {before rest : List Char}
    (tiles : Tiles style before.length found given rest) :
    values? (before ++ rest) found = some given := by
  generalize start : before.length = place at tiles
  induction tiles generalizing before with
  | done => rfl
  | @flag found given rest position place name value later ih =>
    subst start
    have placed : (before ++ head style name ++ value).length =
        before.length + (head style name).length + value.length := by
      simp [Nat.add_assoc]
    have whole : before ++ (head style name ++ (value ++ rest)) =
        before ++ head style name ++ value ++ rest := by
      simp
    have stop : firstStart (before ++ head style name ++ value ++ rest) found =
        (before ++ head style name ++ value).length :=
      firstStart_of_tiles (placed ▸ later)
    have behind : (flagAt style before.length name).valueStart ≤
        (before ++ head style name ++ value).length := by
      rw [placed]
      exact Nat.le_add_right _ value.length
    have cut : slice (before ++ head style name ++ value ++ rest)
        (flagAt style before.length name).valueStart (before ++ head style name ++ value).length =
          Text.trim value := by
      rw [slice, List.take_left]
      exact congrArg Text.trim (List.drop_left' (by rw [List.length_append]; rfl))
    have step : values? (before ++ head style name ++ value ++ rest)
        ((position, flagAt style before.length name) :: found) =
          (values? (before ++ head style name ++ value ++ rest) found).map
            ((position, Text.trim value) :: ·) := by
      rw [values?, ← firstStart, stop, if_pos behind, cut]
    rw [whole, step, ih placed, Option.map_some]

theorem values?_of_not_inOrder (overlap : ¬ InOrder found) : values? cs found = none := by
  induction found with
  | nil => exact absurd List.isChain_nil overlap
  | cons p found ih =>
    obtain ⟨position, o⟩ := p
    by_cases later : InOrder found
    · cases found with
      | nil => exact absurd (List.isChain_singleton _) overlap
      | cons next found =>
        have inside : ¬ o.valueStart ≤ next.2.start :=
          fun behind => overlap (List.isChain_cons_cons.2 ⟨behind, later⟩)
        exact if_neg inside
    · have step := ih later
      rw [values?]
      simp only [step, Option.map_none, ite_self]

/-! ## Reading -/

/-- The text in front of the first flag. -/
def front (cs : List Char) (found : List (Nat × Occurrence)) : List Char :=
  cs.take (firstStart cs found)

/-- Whether the text in front of the first flag may stand there. -/
def Admitted (style : FlagStyle) (cs : List Char) (found : List (Nat × Occurrence)) : Prop :=
  style.unknown = .reject → Text.trim (front cs found) = []

theorem read_of_declared (accepted : declared group style cs (style.scan cs) = .ok found) :
    (Admitted style cs found ∧ read group style cs =
      match values? cs found with
      | some given => .ok ⟨Text.trim (front cs found), given⟩
      | none => .error .panicked) ∨
    (¬ Admitted style cs found ∧ ∃ e, read group style cs = .error (.userInput e)) := by
  have leading : slice cs 0 ((found.head?.map (·.2.start)).getD cs.length) =
      Text.trim (front cs found) := rfl
  unfold FlagText.read
  simp only [accepted, leading]
  split_ifs with refused
  · obtain ⟨some, rejects⟩ := Bool.and_eq_true_iff.1 refused
    refine .inr ⟨?_, _, rfl⟩
    intro admitted
    simp [admitted (beq_iff_eq.1 rejects)] at some
  · refine .inl ⟨?_, rfl⟩
    intro rejects
    by_contra some
    exact refused (by simp [rejects, some])

theorem read_eq_panicked_iff : read group style cs = .error .panicked ↔
    ∃ found, declared group style cs (style.scan cs) = .ok found ∧ Admitted style cs found ∧
      ¬ InOrder found := by
  cases accepted : declared group style cs (style.scan cs) with
  | error e => simp [FlagText.read, accepted]
  | ok found =>
    simp only [Except.ok.injEq, exists_eq_left']
    rcases read_of_declared accepted with ⟨admitted, cut⟩ | ⟨refused, e, fails⟩
    · rw [cut]
      by_cases ordered : InOrder found
      · obtain ⟨given, valued, -⟩ := tiles_of_inOrder (holds_of_declared accepted) ordered
        simp [valued, ordered]
      · simp [values?_of_not_inOrder ordered, ordered, admitted]
    · simp [fails, refused]

/-- What the flags of a text divide it into, with each found at a place inside. They are in order
unless one starts inside the head of the one before it, and then, if nothing is wrong in front of
them, reading the text ends in a panic. No flag does so under a style whose heads hold no start of a
word. -/
theorem text_cut_unless_flags_overlap (style : FlagStyle) (group : FlagGroup Shape)
    (cs : List Char) :
    (∀ o ∈ style.scan cs, Holds style cs o) ∧
    (∀ found, declared group style cs (style.scan cs) = .ok found → InOrder found →
      ∃ rest given, cs = front cs found ++ rest ∧
        Tiles style (front cs found).length found given rest ∧
        (Admitted style cs found →
          FlagText.read group style cs = .ok ⟨Text.trim (front cs found), given⟩)) ∧
    (FlagText.read group style cs = .error .panicked ↔ ∃ found,
      declared group style cs (style.scan cs) = .ok found ∧ Admitted style cs found ∧
        ¬ InOrder found) ∧
    (Parted style → ∀ found, declared group style cs (style.scan cs) = .ok found →
      InOrder found) := by
  refine ⟨fun o => holds_of_mem_scan, ?_, read_eq_panicked_iff,
    fun parted found => inOrder_of_parted parted⟩
  intro found accepted ordered
  have holds := holds_of_declared accepted
  obtain ⟨given, valued, tiles⟩ := tiles_of_inOrder holds ordered
  refine ⟨cs.drop (firstStart cs found), given, (List.take_append_drop _ cs).symm, ?_, ?_⟩
  · rwa [front, List.length_take_of_le (firstStart_le_length holds)]
  · intro admitted
    rcases read_of_declared accepted with ⟨-, cut⟩ | ⟨refused, -⟩
    · rw [cut, valued]
    · exact absurd admitted refused

/-- Two numbers, each under a name. -/
def dice : FlagGroup Shape where
  flags := [{ name := "count", shape := .of .int }, { name := "sides", shape := .of .int }]

/-- The usual style cuts a text at the names of the group. -/
theorem usual_style_cuts_dice :
    Parted {} ∧
      declared dice {} "count: 2 sides: 6".toList (FlagStyle.scan {} "count: 2 sides: 6".toList) =
        .ok [(0, ⟨0, "count".toList, 6⟩), (1, ⟨9, "sides".toList, 15⟩)] ∧
      InOrder [(0, ⟨0, "count".toList, 6⟩), (1, ⟨9, "sides".toList, 15⟩)] := by
  have parted : Parted {} := ⟨by simp, by decide⟩
  have found : declared dice {} "count: 2 sides: 6".toList
      (FlagStyle.scan {} "count: 2 sides: 6".toList) =
        .ok [(0, ⟨0, "count".toList, 6⟩), (1, ⟨9, "sides".toList, 15⟩)] := rfl
  exact ⟨parted, found, (text_cut_unless_flags_overlap {} dice _).2.2.2 parted _ found⟩

/-- Settings with a delimiter that a flag's name is part of. -/
def wordy : Settings where
  flags := { delimiter := " sides " }

/-- A flag that starts inside the delimiter of another makes conversion panic. -/
theorem flag_inside_delimiter_panics :
    wordy.isValid = true ∧ dice.problem? = none ∧
      declared dice wordy.flags "count sides sides 6".toList
          (wordy.flags.scan "count sides sides 6".toList) =
        .ok [(0, ⟨0, "count".toList, 12⟩), (1, ⟨6, "sides".toList, 18⟩)] ∧
      ∀ ctx, { Converters.builtin with flagStyle := wordy.flags }.convert ctx "options"
        (.flags dice) "count sides sides 6" = .error .panicked := by
  refine ⟨by decide, by decide, rfl, ?_⟩
  intro ctx
  rfl

end ChatCommands.FlagCuts
