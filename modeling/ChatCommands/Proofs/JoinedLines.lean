import ChatCommands.Proofs.TokenGrammar

/-! Lines with a blank between them. Whatever marks a set has, blanks among them, a blank that is
not the escape ends the token in front of it and is passed over before the next, so two joined lines
have the tokens of the one and then those of the other. Only an escape that nothing follows in the
first line reaches over the seam: it takes the blank into its token. -/
namespace ChatCommands.JoinedLines
open Line LazyTokens QuoteRoundTrip TokenGrammar

variable {q : QuoteSet} {escape closing seam : Char} {text token rest : List Char}
  {found : List (List Char)}

/-- The last token of a text is bare and ends in an escape that nothing follows. -/
inductive EndsHanging (q : QuoteSet) : List Char → Prop where
  | here {text token : List Char} (hanging : Hanging q (Text.trimStart text) token) :
      EndsHanging q text
  | later {text token rest : List Char} (read : nextToken q text = some ⟨.ok token, rest⟩)
      (ends : EndsHanging q rest) : EndsHanging q text

/-! ## One token before the seam -/

theorem separated_seam (blank : Text.isBlank seam = true) (other : List Char) :
    Separated (seam :: other) := by
  intro d first
  cases first
  exact blank

theorem bareWord_blank (blank : Text.isBlank seam = true) (notEscape : seam ≠ q.escape)
    (other : List Char) : bareWord q (seam :: other) = ⟨.ok [], seam :: other⟩ := by
  cases other <;> simp [bareWord, notEscape, blank]

/-- A span that was closed stays as it is in front of a seam. -/
theorem quotedSpan_joined (blank : Text.isBlank seam = true)
    (read : quotedSpan escape closing text = ⟨.ok token, rest⟩) (other : List Char) :
    quotedSpan escape closing (text ++ seam :: other) = ⟨.ok token, rest ++ seam :: other⟩ := by
  obtain ⟨body, inside, tail, rfl, items, stop⟩ := exists_items escape (· = closing) text
  rw [quotedSpan_items items] at read
  rw [List.append_assoc, quotedSpan_items items]
  cases stop with
  | ended =>
    rw [quotedSpan_ended (.inl rfl)] at read
    cases read
  | hanging =>
    rw [quotedSpan_ended (.inr rfl)] at read
    cases read
  | barred distinct stops =>
    subst stops
    rename_i mark later
    have closed : Separated later := by
      intro next first
      by_contra solid
      obtain ⟨after, rfl⟩ : ∃ after, later = next :: after := by
        cases later <;> simp_all
      rw [quotedSpan_solid distinct (Bool.eq_false_iff.2 solid)] at read
      cases read
    have still : Separated (later ++ seam :: other) := by
      cases later with
      | nil => exact separated_seam blank other
      | cons next after => exact fun d first => closed d first
    rw [quotedSpan_closing distinct closed, onto_ok] at read
    cases read
    rw [List.cons_append, quotedSpan_closing distinct still, onto_ok]

/-- A bare token stays as it is in front of a seam, unless it is left with a lone escape. -/
theorem bareWord_joined (blank : Text.isBlank seam = true) (notEscape : seam ≠ q.escape)
    (complete : ∀ body inside, text = body ++ [q.escape] →
      ¬ Items q.escape (EndsBare q) body inside)
    (read : bareWord q text = ⟨.ok token, rest⟩) (other : List Char) :
    bareWord q (text ++ seam :: other) = ⟨.ok token, rest ++ seam :: other⟩ := by
  obtain ⟨body, inside, tail, rfl, items, stop⟩ := exists_items q.escape (EndsBare q) text
  rw [bareWord_items items] at read
  rw [List.append_assoc, bareWord_items items]
  cases stop with
  | ended =>
    cases read
    rw [List.nil_append, bareWord_blank blank notEscape]
    rfl
  | hanging => exact absurd items (complete body inside rfl)
  | barred distinct stops =>
    rename_i mark later
    by_cases gap : Text.isBlank mark = true
    · rw [bareWord_blank gap distinct] at read
      cases read
      rw [List.cons_append, bareWord_blank gap distinct]
      rfl
    · rw [bareWord_quote distinct (Bool.eq_false_iff.2 gap) (stops.resolve_left gap)] at read
      cases read

theorem trimStart_joined (solid : Text.trimStart text ≠ []) (other : List Char) :
    Text.trimStart (text ++ other) = Text.trimStart text ++ other := by
  unfold Text.trimStart at *
  rw [List.dropWhile_append, if_neg (by simpa using solid)]

theorem trimStart_blank_joined (nothing : Text.trimStart text = [])
    (blank : Text.isBlank seam = true) (other : List Char) :
    Text.trimStart (text ++ seam :: other) = Text.trimStart other := by
  unfold Text.trimStart at *
  rw [List.dropWhile_append, if_pos (by simp [nothing]), List.dropWhile_cons_of_pos blank]

/-- A token that was read is read again in front of a seam, and nothing of it is changed. -/
theorem nextToken_joined (blank : Text.isBlank seam = true) (notEscape : seam ≠ q.escape)
    (complete : ∀ inside, ¬ Hanging q (Text.trimStart text) inside)
    (read : nextToken q text = some ⟨.ok token, rest⟩) (other : List Char) :
    nextToken q (text ++ seam :: other) = some ⟨.ok token, rest ++ seam :: other⟩ := by
  have solid : Text.trimStart text ≠ [] := fun nothing => by
    rw [(nextToken_eq_none_iff q text).2 nothing] at read
    contradiction
  unfold nextToken at read ⊢
  rw [trimStart_joined solid]
  generalize Text.trimStart text = core at *
  obtain ⟨c, later, rfl⟩ := List.exists_cons_of_ne_nil solid
  rw [List.cons_append]
  simp only [firstToken] at read ⊢
  cases opens : q.closingFor c with
  | some mark =>
    rw [opens] at read
    simp only [Option.some.injEq] at read ⊢
    exact quotedSpan_joined blank read other
  | none =>
    rw [opens] at read
    simp only [Option.some.injEq] at read ⊢
    refine bareWord_joined blank notEscape (fun body inside whole items => ?_) read other
    have unopened : Unopened q (body ++ [q.escape]) := by
      rw [← whole]
      intro d first
      cases first
      exact opens
    have hanging : Hanging q (body ++ [q.escape]) (inside ++ [q.escape]) := .mk unopened items
    exact complete _ (whole ▸ hanging)

/-! ## Whole lines -/

theorem tokenizeChars_of_none (read : nextToken q text = none) : tokenizeChars q text = .ok [] := by
  rw [tokenizeChars, tokens_of_none read]

theorem tokenizeChars_congr {other : List Char}
    (same : Text.trimStart text = Text.trimStart other) :
    tokenizeChars q text = tokenizeChars q other := by
  have reads := nextToken_congr q same
  match read : nextToken q other with
  | none => rw [tokenizeChars_of_none (reads.trans read), tokenizeChars_of_none read]
  | some ⟨.error e, _⟩ =>
    rw [tokenizeChars_of_error (reads.trans read), tokenizeChars_of_error read]
  | some ⟨.ok _, _⟩ => rw [tokenizeChars_of_ok (reads.trans read), tokenizeChars_of_ok read]

/-- The tokens of a text that begins with a token. -/
theorem tokenizeChars_eq_ok (read : nextToken q text = some ⟨.ok token, rest⟩)
    (all : tokenizeChars q text = .ok found) :
    ∃ more, found = token :: more ∧ tokenizeChars q rest = .ok more := by
  rw [tokenizeChars_of_ok read] at all
  cases later : tokenizeChars q rest with
  | error e => simp [later, Except.map] at all
  | ok more =>
    rw [later] at all
    cases all
    exact ⟨more, rfl, rfl⟩

/-- A text that is a sequence of tokens is blank or begins with one of them. -/
theorem tokenizeChars_ok_cases (all : tokenizeChars q text = .ok found) :
    (Text.trimStart text = [] ∧ found = []) ∨ ∃ token rest more,
      nextToken q text = some ⟨.ok token, rest⟩ ∧ found = token :: more ∧
        tokenizeChars q rest = .ok more := by
  match read : nextToken q text with
  | none =>
    rw [tokenizeChars_of_none read] at all
    cases all
    exact .inl ⟨(nextToken_eq_none_iff q text).1 read, rfl⟩
  | some ⟨.error e, _⟩ =>
    rw [tokenizeChars_of_error read] at all
    cases all
  | some ⟨.ok token, rest⟩ =>
    obtain ⟨more, shape, later⟩ := tokenizeChars_eq_ok read all
    exact .inr ⟨token, rest, more, rfl, shape, later⟩

theorem tokenizeChars_joined (blank : Text.isBlank seam = true) (notEscape : seam ≠ q.escape)
    (complete : ¬ EndsHanging q text) (all : tokenizeChars q text = .ok found)
    (other : List Char) :
    tokenizeChars q (text ++ seam :: other) = (tokenizeChars q other).map (found ++ ·) := by
  induction found generalizing text with
  | nil =>
    rcases tokenizeChars_ok_cases all with ⟨nothing, -⟩ | ⟨_, _, _, -, shape, -⟩
    · rw [tokenizeChars_congr (trimStart_blank_joined nothing blank other)]
      cases tokenizeChars q other <;> rfl
    · cases shape
  | cons token found ih =>
    rcases tokenizeChars_ok_cases all with ⟨-, shape⟩ | ⟨_, rest, _, read, shape, later⟩
    · cases shape
    · cases shape
      have first := nextToken_joined blank notEscape
        (fun inside hanging => complete (.here hanging)) read other
      rw [tokenizeChars_of_ok first, ih (fun ends => complete (.later read ends)) later]
      cases tokenizeChars q other <;> rfl

/-! ## Over the seam -/

theorem hanging_shape (hanging : Hanging q text token) :
    ∃ body inside, text = body ++ [q.escape] ∧ token = inside ++ [q.escape] ∧
      Unopened q text ∧ Items q.escape (EndsBare q) body inside := by
  obtain ⟨unopened, items⟩ := hanging
  exact ⟨_, _, rfl, rfl, unopened, items⟩

/-- A token that is left with a lone escape takes the seam in its place. -/
theorem nextToken_hangs (hanging : Hanging q (Text.trimStart text) token) (seam : Char) :
    ∃ inside, nextToken q text = some ⟨.ok (inside ++ [q.escape]), []⟩ ∧
      nextToken q (text ++ [seam]) = some ⟨.ok (inside ++ [seam]), []⟩ := by
  obtain ⟨body, inside, shape, rfl, unopened, items⟩ := hanging_shape hanging
  obtain ⟨-, -, -, front⟩ := Text.trimStart_spec text
  have solid : Text.trimStart text ≠ [] := by simp [shape]
  have again : Text.trimStart (text ++ [seam]) = Text.trimStart text ++ [seam] :=
    trimStart_joined solid [seam]
  have alone := nextToken_unopened solid unopened front []
  have further := nextToken_unopened solid unopened front [seam]
  rw [List.append_nil] at alone
  refine ⟨inside, ?_, ?_⟩
  · rw [nextToken_congr q (trimStart_trimStart text).symm, alone, shape, bareWord_items items,
      bareWord_hanging, onto_ok]
  · have same : Text.trimStart (text ++ [seam]) =
        Text.trimStart (Text.trimStart text ++ [seam]) := by
      rw [← again, trimStart_trimStart]
    rw [nextToken_congr q same, further, shape, List.append_assoc, bareWord_items items]
    simp [bareWord, Reading.push, Except.map]

theorem not_endsHanging_nil : ¬ EndsHanging q [] := by
  rintro (hanging | ⟨read, -⟩)
  · obtain ⟨_, _, shape, -⟩ := hanging_shape hanging
    simp [Text.trimStart] at shape
  · rw [(nextToken_eq_none_iff q []).2 rfl] at read
    contradiction

/-- Only a text that ends in the escape can end in a token that is left with it. -/
theorem getLast?_of_endsHanging (ends : EndsHanging q text) :
    text.getLast? = some q.escape := by
  induction ends with
  | @here text token hanging =>
    obtain ⟨body, inside, shape, -⟩ := hanging_shape hanging
    obtain ⟨gap, -, whole, -⟩ := Text.trimStart_spec text
    rw [whole, shape]
    simp
  | @later text token rest read ends ih =>
    obtain ⟨front, whole⟩ := (firstToken_rest_suffix read).trans (List.dropWhile_suffix _)
    rw [← whole, List.getLast?_append, ih, Option.some_or]

/-- A line whose last token ends in a lone escape has another last token in front of a seam. -/
theorem tokenizeChars_hangs (blank : Text.isBlank seam = true) (notEscape : seam ≠ q.escape)
    (ends : EndsHanging q text) (all : tokenizeChars q text = .ok found) :
    tokenizeChars q (text ++ [seam]) ≠ .ok found := by
  induction ends generalizing found with
  | here hanging =>
    obtain ⟨inside, read, longer⟩ := nextToken_hangs hanging seam
    have nothing : tokenizeChars q [] = .ok [] := tokenizeChars_of_none rfl
    rw [tokenizeChars_of_ok read, nothing] at all
    rw [tokenizeChars_of_ok longer, nothing]
    cases all
    simpa [Except.map] using notEscape
  | @later text token rest read ends ih =>
    obtain ⟨more, rfl, later⟩ := tokenizeChars_eq_ok read all
    have complete : ∀ inside, ¬ Hanging q (Text.trimStart text) inside := by
      intro inside hanging
      obtain ⟨_, last, -⟩ := nextToken_hangs hanging seam
      rw [read] at last
      cases last
      exact not_endsHanging_nil ends
    rw [tokenizeChars_of_ok (nextToken_joined blank notEscape complete read [])]
    intro same
    cases again : tokenizeChars q (rest ++ [seam]) with
    | error e => simp [again, Except.map] at same
    | ok found =>
      rw [again] at same
      cases same
      exact ih later again

/-! ## Texts -/

theorem tokenize_eq_ok {line : String} {found : List String} (all : tokenize q line = .ok found) :
    ∃ chars, found = chars.map String.ofList ∧ tokenizeChars q line.toList = .ok chars := by
  rw [tokenize] at all
  cases read : tokenizeChars q line.toList with
  | error e => simp [read, Except.map] at all
  | ok chars =>
    rw [read] at all
    cases all
    exact ⟨chars, rfl, rfl⟩

theorem toList_joined (line other : String) (seam : Char) :
    (line ++ String.singleton seam ++ other).toList = line.toList ++ seam :: other.toList := by
  simp

/-- Two lines with a blank between them, which is not the escape, have the tokens of the one and
then those of the other, or fail as the other does. This is so for every other line exactly if the
last token of the first does not end in an escape that nothing follows. -/
theorem lines_join_unless_escape_hangs (q : QuoteSet) (line : String) (seam : Char)
    (blank : Text.isBlank seam = true) (notEscape : seam ≠ q.escape) {found : List String}
    (all : tokenize q line = .ok found) :
    ¬ EndsHanging q line.toList ↔ ∀ other,
      tokenize q (line ++ String.singleton seam ++ other) =
        (tokenize q other).map (found ++ ·) := by
  obtain ⟨chars, rfl, read⟩ := tokenize_eq_ok all
  constructor
  · intro complete other
    simp only [tokenize, toList_joined, tokenizeChars_joined blank notEscape complete read]
    cases tokenizeChars q other.toList <;> simp [Except.map]
  · intro joins ends
    have nothing : tokenize q "" = .ok [] :=
      congrArg (Except.map _) (tokenizeChars_of_none rfl : tokenizeChars q [] = .ok [])
    have alone := joins ""
    rw [nothing] at alone
    obtain ⟨again, same, longer⟩ := tokenize_eq_ok alone
    rw [toList_joined] at longer
    have kept : chars = again := by
      simpa [Function.comp_def] using congrArg (List.map String.toList) same
    exact tokenizeChars_hangs blank notEscape ends read (kept ▸ longer)

/-- A set whose escape is a blank, and with a blank among its marks. -/
def blankMarks : QuoteSet where
  pairs := [(' ', '|'), ('<', '>')]
  escape := '\t'

/-- A line of a span and of a word with an escaped blank goes on behind the blank that is a mark,
and fails as what follows. -/
theorem blank_mark_joins :
    let line := "<one two> three\t four"
    Text.isBlank ' ' = true ∧ ' ' ≠ blankMarks.escape ∧
      tokenize blankMarks line = .ok ["one two", "three four"] ∧
      ¬ EndsHanging blankMarks line.toList ∧
      tokenize blankMarks (line ++ String.singleton ' ' ++ " five") =
        .ok ["one two", "three four", "five"] ∧
      tokenize blankMarks (line ++ String.singleton ' ' ++ "<five") = .error (.unclosed '>') := by
  intro line
  have blank : Text.isBlank ' ' = true := by decide
  have notEscape : ' ' ≠ blankMarks.escape := by decide
  have all : tokenize blankMarks line = .ok ["one two", "three four"] := by decide +kernel
  have complete : ¬ EndsHanging blankMarks line.toList := fun ends => by
    have last := getLast?_of_endsHanging ends
    revert last
    decide
  have joins := (lines_join_unless_escape_hangs blankMarks line ' ' blank notEscape all).1 complete
  refine ⟨blank, notEscape, all, complete, ?_, ?_⟩
  · have other : tokenize blankMarks " five" = .ok ["five"] := by decide +kernel
    rw [joins, other]
    rfl
  · have other : tokenize blankMarks "<five" = .error (.unclosed '>') := by decide +kernel
    rw [joins, other]
    rfl

end ChatCommands.JoinedLines
