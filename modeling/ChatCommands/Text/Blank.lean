import ChatCommands.Text.Ranges

/-!
Blank characters, the ones that separate words: the Unicode property
White_Space. A command line is cut, trimmed and skipped over by this class
everywhere. `trimStart_spec` says that trimming drops a blank run and stops
before the first character that is not blank, and `trim_padded` that trimming
undoes any padding of a trimmed text.
-/

namespace ChatCommands.Text

/-- The code points of blank characters, in ascending order. -/
def blankRanges : List (Nat × Nat) := [
  (0x09, 0x0D), (0x20, 0x20), (0x85, 0x85), (0xA0, 0xA0), (0x1680, 0x1680), (0x2000, 0x200A),
  (0x2028, 0x2029), (0x202F, 0x202F), (0x205F, 0x205F), (0x3000, 0x3000)]

/-- Whether `c` separates words. -/
def isBlank (c : Char) : Bool := inRanges blankRanges c.toNat

/-- The text without its leading blanks. -/
def trimStart (cs : List Char) : List Char := cs.dropWhile isBlank

/-- The text without the blanks at either end. -/
def trim (cs : List Char) : List Char :=
  (trimStart (trimStart cs).reverse).reverse

theorem trimStart_spec (cs : List Char) :
    ∃ blanks, (∀ c ∈ blanks, isBlank c = true) ∧ cs = blanks ++ trimStart cs ∧
      ∀ c, (trimStart cs).head? = some c → isBlank c = false := by
  refine ⟨cs.takeWhile isBlank, ?_, (List.takeWhile_append_dropWhile).symm, ?_⟩
  · intro c member
    induction cs with
    | nil => simp at member
    | cons d rest ih =>
      by_cases blank : isBlank d
      · rw [List.takeWhile_cons_of_pos blank] at member
        rcases List.mem_cons.1 member with rfl | later
        · exact blank
        · exact ih later
      · rw [List.takeWhile_cons_of_neg blank] at member
        simp at member
  · intro c first
    unfold trimStart at first
    induction cs with
    | nil => simp at first
    | cons d rest ih =>
      by_cases blank : isBlank d
      · rw [List.dropWhile_cons_of_pos blank] at first
        exact ih first
      · rw [List.dropWhile_cons_of_neg blank] at first
        simp at first
        subst first
        simpa using blank

theorem trimStart_gap {gap rest : List Char} (blank : ∀ c ∈ gap, isBlank c = true)
    (solid : ∀ c ∈ rest.head?, isBlank c = false) : trimStart (gap ++ rest) = rest := by
  rw [trimStart, List.dropWhile_append_of_pos blank]
  cases rest with
  | nil => rfl
  | cons first later => exact List.dropWhile_cons_of_neg (by simp [solid first rfl])

/-- A text that trimming leaves as it is has no blank at either end. -/
theorem solid_of_trimmed {cs : List Char} (trimmed : trim cs = cs) :
    (∀ c ∈ cs.head?, isBlank c = false) ∧ ∀ c ∈ cs.reverse.head?, isBlank c = false := by
  have shorter := (List.dropWhile_suffix isBlank (l := (trimStart cs).reverse)).length_le
  have kept : (trimStart cs).length = cs.length := by
    have atMost := (List.dropWhile_suffix isBlank (l := cs)).length_le
    have same := congrArg List.length trimmed
    simp only [trim, trimStart, List.length_reverse] at same shorter atMost ⊢
    omega
  have front : trimStart cs = cs := (List.dropWhile_suffix isBlank).eq_of_length kept
  have back : trimStart cs.reverse = cs.reverse := by
    rw [trim, front] at trimmed
    exact List.reverse_eq_iff.1 trimmed
  obtain ⟨-, -, -, first⟩ := trimStart_spec cs
  obtain ⟨-, -, -, last⟩ := trimStart_spec cs.reverse
  rw [front] at first
  rw [back] at last
  exact ⟨first, last⟩

theorem trim_padded {before cs after : List Char} (blankBefore : ∀ c ∈ before, isBlank c = true)
    (blankAfter : ∀ c ∈ after, isBlank c = true) (full : cs ≠ []) (trimmed : trim cs = cs) :
    trim (before ++ (cs ++ after)) = cs := by
  obtain ⟨first, last⟩ := solid_of_trimmed trimmed
  have front : ∀ c ∈ (cs ++ after).head?, isBlank c = false := by
    obtain ⟨c, rest, rfl⟩ := List.exists_cons_of_ne_nil full
    simpa using first
  have back : ∀ c ∈ after.reverse, isBlank c = true := by simpa using blankAfter
  rw [trim, trimStart_gap blankBefore front, List.reverse_append, trimStart_gap back last,
    List.reverse_reverse]

end ChatCommands.Text
