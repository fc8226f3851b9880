import ChatCommands.Proofs.WrittenFlags

/-! Which flags can be given at all. No word starts with a blank, and a name is read as far as its
characters go, so a lead that starts with a blank and a delimiter that starts with a character of
names are never found. In every other style each declared name is found where it is written
(`Shows`). Validity of settings is less than that: it refuses an empty delimiter, and a lead and a
delimiter of blanks together. -/
namespace ChatCommands.GivableFlags
open FlagPlaces FlagText GatheredFlags WrittenFlags

variable {style : FlagStyle} {group : FlagGroup Shape} {cs name rest : List Char} {o : Occurrence}
  {converters : Converters} {ctx : Context} {param argument : String} {v : Value}

/-- A style whose flags can be found. -/
structure Shows (style : FlagStyle) : Prop where
  lead : ∀ c ∈ style.lead.toList.head?, Text.isBlank c = false
  delimiter : ∀ c ∈ style.delimiter.toList.head?, isFlagNameChar c = false

/-! ## Styles that show their flags -/

/-- A flag starts with a character that can start a word. -/
theorem solid_head (shows : Shows style) (isName : IsName name) :
    ∃ c others, head style name = c :: others ∧ Text.isBlank c = false := by
  obtain ⟨full, named⟩ := isName
  cases spelled : style.lead.toList with
  | nil =>
    obtain ⟨c, others, rfl⟩ := List.exists_cons_of_ne_nil full
    refine ⟨c, others ++ divider style, ?_, blank_of_nameChar (named c List.mem_cons_self)⟩
    rw [head, spelled, List.nil_append, List.cons_append]
  | cons c others =>
    refine ⟨c, others ++ name ++ divider style, ?_, shows.lead c ?_⟩
    · rw [head, spelled, List.cons_append, List.cons_append]
    · rw [spelled]
      rfl

/-- The name ends in front of the blanks that separate it from its value. -/
theorem closes_gap (shows : Shows style) : Closes style (gap style ++ rest) := by
  unfold Closes
  split_ifs
  · intro c first
    have some : gap style ≠ [] := by simp [gap]
    rw [List.head?_append_of_ne_nil (gap style) some] at first
    exact blank_gap c (List.mem_of_mem_head? first)
  · exact shows.delimiter

/-- A flag at the beginning of a text is the first one found. -/
theorem scan_head (shows : Shows style) (isName : IsName name) (closes : Closes style rest) :
    (style.scan (head style name ++ rest)).head? = some (flagAt style 0 name) := by
  obtain ⟨c, others, spelled, solid⟩ := solid_head shows isName
  have found : style.occurrenceAt 0 (head style name ++ rest) = some (flagAt style 0 name) :=
    occurrenceAt_head isName closes
  rw [spelled, List.cons_append] at found ⊢
  rw [FlagStyle.scan, scanFrom_cons, found, solid]
  rfl

/-! ## Styles that hide them -/

/-- A style under which any text has a flag shows all flags. -/
theorem shows_of_mem_scan (found : o ∈ style.scan cs) : Shows style := by
  obtain ⟨before, rest, -, ⟨solid, -⟩, read⟩ := mem_scanFrom.1 found
  obtain ⟨tail, rfl, isName, closes, -⟩ := head_of_occurrenceAt read
  constructor
  · intro c first
    apply solid c
    cases spelled : style.lead.toList with
    | nil =>
      rw [spelled] at first
      contradiction
    | cons d others =>
      rw [spelled] at first
      rw [head, spelled]
      exact first
  · unfold Closes at closes
    split_ifs at closes with hidden
    · intro c first
      exact nameChar_of_blank (List.all_eq_true.1 hidden c (List.mem_of_mem_head? first))
    · exact closes

theorem scan_eq_nil (hides : ¬ Shows style) : style.scan cs = [] := by
  rw [List.eq_nil_iff_forall_not_mem]
  intro o found
  exact hides (shows_of_mem_scan found)

/-- A text without flags is all in front of them. -/
theorem given_of_read {text : FlagText} (silent : style.scan cs = [])
    (read : FlagText.read group style cs = .ok text) : text.given = [] := by
  have accepted : declared group style cs (style.scan cs) = .ok [] := by
    rw [silent]
    rfl
  rcases FlagCuts.read_of_declared accepted with ⟨-, cut⟩ | ⟨-, e, fails⟩
  · rw [cut] at read
    cases read
    rfl
  · rw [fails] at read
    contradiction

/-- Where no flag is found, each flag of the group is what it is when it is absent. -/
theorem gathers_nothing (usable : group.problem? = none)
    (silent : (group.style.getD converters.flagStyle).scan argument.toList = [])
    (converted : converters.convert ctx param (.flags group) argument = .ok v) :
    Gathers converters ctx group.flags (fun _ => []) (.ok v) := by
  obtain ⟨flags, style⟩ := group
  simp only [Converters.convert, Converters.convertGroup] at converted
  split at converted
  · contradiction
  · rename_i text read
    have nothing : text.given = [] := given_of_read silent read
    have given : Given flags text fun _ => [] := by
      refine ⟨ShapedValues.distinct_of_flagsProblem usable, ?_, by simp⟩
      intro index f _
      rw [FlagText.valuesOf, nothing]
      rfl
    exact (convertFlags_eq_iff given).1 converted

/-! ## Every declared name -/

/-- In a style that shows flags, every name that a usable group declares is found first where it is
written first, and belongs to its flag. In a style that hides them, no text has a flag, and whatever
is converted, each flag of the group is what it is when it is absent. -/
theorem declared_names_shown_or_hidden (usable : group.problem? = none) (style : FlagStyle) :
    (Shows style → ∀ index f, group.flags[index]? = some f → ∀ n ∈ f.names, ∀ word : String,
      (style.scan (style.lead ++ n ++ style.delimiter ++ " " ++ word).toList).head? =
          some (flagAt style 0 n.toList) ∧
        group.position? style n = some index) ∧
    (¬ Shows style → (∀ cs, style.scan cs = []) ∧
      ∀ converters ctx param argument v, group.style.getD converters.flagStyle = style →
        converters.convert ctx param (.flags group) argument = .ok v →
          Gathers converters ctx group.flags (fun _ => []) (.ok v)) := by
  constructor
  · intro shows index f declared n named word
    have isName : IsName n.toList :=
      isName_of_flagsProblem usable f (List.mem_of_getElem? declared) n named
    have spelled : (style.lead ++ n ++ style.delimiter ++ " " ++ word).toList =
        head style n.toList ++ (gap style ++ word.toList) := toList_entry (n, word)
    rw [spelled]
    exact ⟨scan_head shows isName (closes_gap shows), position?_of_name usable declared named⟩
  · intro hides
    refine ⟨fun cs => scan_eq_nil hides, ?_⟩
    rintro converters ctx param argument v rfl converted
    exact gathers_nothing usable (scan_eq_nil hides) converted

/-- The number of sides of a die, six if it is absent. -/
def die : FlagGroup Shape where
  flags := [{ name := "sides", shape := .of .int, aliases := ["d"], default := .value (.int 6) }]

/-- Settings with a delimiter of several characters, the later ones characters of names. -/
def arrowed : Settings where
  flags := { lead := "-", delimiter := "=-x " }

/-- A delimiter may hold characters of names, and blanks, behind its first character. -/
theorem alias_shown_before_arrow :
    arrowed.isValid = true ∧ die.problem? = none ∧ Shows arrowed.flags ∧
      (arrowed.flags.scan "-d=-x  20".toList).head? = some ⟨0, "d".toList, 6⟩ ∧
      die.position? arrowed.flags "d" = some 0 := by
  have usable : die.problem? = none := by decide
  have shows : Shows arrowed.flags := by
    constructor
    · rintro c ⟨⟩
      decide
    · rintro c ⟨⟩
      decide
  exact ⟨by decide, usable, shows,
    (declared_names_shown_or_hidden usable arrowed.flags).1 shows 0 _ rfl "d" (by decide) "20"⟩

/-- Settings whose delimiter starts with a character of names. -/
def dashing : Settings where
  flags := { delimiter := "-" }

/-- Settings whose lead starts with a blank. -/
def indented : Settings where
  flags := { lead := " /" }

/-- Settings can be valid and hide the flags of a group: written as the style says, they are not
found. -/
theorem sides_hidden_by_valid_settings :
    die.problem? = none ∧
      (dashing.isValid = true ∧ ¬ Shows dashing.flags ∧
        dashing.flags.scan "sides- 20".toList = []) ∧
      (indented.isValid = true ∧ ¬ Shows indented.flags ∧
        indented.flags.scan " /sides: 20".toList = []) := by
  have usable : die.problem? = none := by decide
  have dashes : ¬ Shows dashing.flags := by
    intro shows
    have named : isFlagNameChar '-' = false := shows.delimiter '-' rfl
    contradiction
  have indents : ¬ Shows indented.flags := by
    intro shows
    have solid : Text.isBlank ' ' = false := shows.lead ' ' rfl
    contradiction
  exact ⟨usable, ⟨by decide, dashes, scan_eq_nil dashes⟩, by decide, indents, scan_eq_nil indents⟩

end ChatCommands.GivableFlags
