import ChatCommands.Config.Settings
import ChatCommands.Proofs.TokenGrammar

/-! What the marks and the escape of valid settings can express. Tokens are written in the first
pair of a set, which is the first standard one with whatever closing mark the settings give it.
Validation keeps the escape apart from the marks that are added and from no other, so one escape is
left that closes this pair. With it no span ever ends; with any other every token can be written. -/
namespace ChatCommands.ConfiguredQuotes
open Line QuoteRoundTrip TokenGrammar

variable {q : QuoteSet} {s : Settings} {opening closing : Char} {extra : List (Char × Char)}

/-! ## The first pair -/

/-- Adding a pair leaves the first opening mark and may replace its closing mark. -/
theorem first_withPair (first : q.pairs.head? = some (opening, closing)) (p : Char × Char) :
    ∃ other, (q.withPair p.1 p.2).pairs.head? = some (opening, other) ∧
      (other = closing ∨ p = (opening, other)) := by
  cases pairs : q.pairs with
  | nil =>
    rw [pairs] at first
    contradiction
  | cons pair rest =>
    rw [pairs] at first
    cases first
    by_cases same : opening = p.1
    · exact ⟨p.2, by simp [QuoteSet.withPair, QuoteSet.setClosing, pairs, same],
        .inr (by rw [same])⟩
    · exact ⟨closing, by simp [QuoteSet.withPair, QuoteSet.setClosing, pairs, same], .inl rfl⟩

theorem first_withPairs (first : q.pairs.head? = some (opening, closing)) :
    ∃ other, (extra.foldl (fun q p => q.withPair p.1 p.2) q).pairs.head? = some (opening, other) ∧
      (other = closing ∨ (opening, other) ∈ extra) := by
  induction extra generalizing q closing with
  | nil => exact ⟨closing, first, .inl rfl⟩
  | cons p extra ih =>
    obtain ⟨middle, next, origin⟩ := first_withPair first p
    obtain ⟨other, last, later⟩ := ih next
    refine ⟨other, last, ?_⟩
    rcases later with rfl | member
    · refine origin.imp id fun same => ?_
      rw [same]
      exact List.mem_cons_self
    · exact .inr (List.mem_cons_of_mem p member)

theorem first_quoteSet (t : TokenizerSettings) :
    ∃ closing, t.quoteSet.pairs.head? = some ('"', closing) ∧
      (closing = '"' ∨ ('"', closing) ∈ t.extraQuotes) :=
  first_withPairs (q := QuoteSet.standard) rfl

/-! ## What validation promises -/

theorem visible_escape (valid : s.isValid = true) :
    Text.isBlank s.tokenizer.quoteSet.escape = false := by
  have blank : ¬ Text.isBlank s.tokenizer.escape = true := fun blank => by
    simp [Settings.isValid, Settings.problems, blank] at valid
  exact Bool.eq_false_iff.2 blank

theorem good_of_mem (valid : s.isValid = true) {p : Char × Char}
    (member : p ∈ s.tokenizer.extraQuotes) : Settings.badPair s.tokenizer.escape p = false := by
  simp only [Settings.isValid, Settings.problems, List.isEmpty_iff, List.append_eq_nil_iff,
    List.map_eq_nil_iff, List.filter_eq_nil_iff] at valid
  exact Bool.eq_false_iff.2 (valid.1.1.2 p member)

/-- An escape that is not the first standard mark is apart from the pair that tokens are written
in. -/
theorem writable_of_isValid (valid : s.isValid = true) (apart : s.tokenizer.escape ≠ '"') :
    Writable s.tokenizer.quoteSet := by
  obtain ⟨closing, first, origin⟩ := first_quoteSet s.tokenizer
  have differ : closing ≠ s.tokenizer.escape := by
    rcases origin with rfl | member
    · exact apart.symm
    · have good := good_of_mem valid member
      simp only [Settings.badPair, Bool.or_eq_false_iff, beq_eq_false_iff_ne] at good
      exact good.2
  refine ⟨visible_escape valid, fun o c head => ?_, fun o c head => ?_⟩
  · cases first.symm.trans head
    decide
  · cases first.symm.trans head
    exact differ

/-- The first standard mark as the escape keeps the first pair as it is, since no valid pair can
open with it. -/
theorem first_of_mark (valid : s.isValid = true) (mark : s.tokenizer.escape = '"') :
    s.tokenizer.quoteSet.pairs.head? = some ('"', '"') := by
  obtain ⟨closing, first, rfl | member⟩ := first_quoteSet s.tokenizer
  · exact first
  · have good := good_of_mem valid member
    simp [Settings.badPair, mark] at good

/-! ## An escape that closes the first pair -/

/-- Whether a token is written as it is. -/
def isBare (q : QuoteSet) (token : List Char) : Bool := !token.isEmpty && !token.any (isSpecial q)

theorem nextToken_of_isBare (visible : Text.isBlank q.escape = false) {token rest : List Char}
    (bare : isBare q token = true) (separated : Separated rest) :
    nextToken q (quoteChars q token ++ rest) = some ⟨.ok token, rest⟩ := by
  have same : quoteChars q token = token := if_pos bare
  simp only [isBare, Bool.and_eq_true, Bool.not_eq_true', List.isEmpty_eq_false_iff,
    List.any_eq_false, Bool.not_eq_true] at bare
  obtain ⟨full, plain⟩ := bare
  have items : Items q.escape (EndsBare q) token token := items_self fun c member => by
    obtain ⟨solid, notEscape, notQuote⟩ := isSpecial_eq_false (plain c member)
    simp [EndsBare, solid, beq_eq_false_iff_ne.1 notEscape, notQuote]
  have first {c : Char} (head : token.head? = some c) := isSpecial_eq_false
    (plain c (List.mem_of_mem_head? head))
  rw [same, nextToken_unopened full (fun c head => closingFor_eq_none (first head).2.2)
    (fun c head => (first head).1), bareWord_items items, bareWord_separated visible separated,
    onto_ok, List.append_nil]

/-- A span that the escape would close never ends. -/
theorem quotedSpan_never_closes (escape : Char) (cs : List Char) :
    quotedSpan escape escape cs = ⟨.error (.unclosed escape), []⟩ := by
  fun_induction quotedSpan escape escape cs <;> simp_all [Reading.push, Except.map]

theorem nextToken_of_not_isBare (first : q.pairs.head? = some (opening, q.escape))
    (solid : Text.isBlank opening = false) {token : List Char} (bare : isBare q token = false)
    (rest : List Char) :
    nextToken q (quoteChars q token ++ rest) = some ⟨.error (.unclosed q.escape), []⟩ := by
  obtain ⟨later, pairs⟩ := List.head?_eq_some_iff.1 first
  have opened : q.closingFor opening = some q.escape := by
    rw [QuoteSet.closingFor, pairs, List.lookup_cons_self]
  obtain ⟨span, written⟩ : ∃ span, quoteChars q token = opening :: span := by
    unfold isBare at bare
    rw [quoteChars, bare, pairs]
    exact ⟨_, rfl⟩
  rw [written, List.cons_append, nextToken_quoted solid opened, quotedSpan_never_closes]

/-- With a first pair that the escape closes, the lists of bare tokens are the ones that can be
written. -/
theorem tokenizeChars_spaced (visible : Text.isBlank q.escape = false)
    (first : q.pairs.head? = some (opening, q.escape)) (solid : Text.isBlank opening = false)
    (found : List (List Char)) : tokenizeChars q (spaced q found) =
      if ∀ token ∈ found, isBare q token = true then .ok found
      else .error (.unclosed q.escape) := by
  induction found with
  | nil => rw [if_pos (by simp), tokenizeChars, spaced, List.flatMap_nil, tokens_of_none rfl]
  | cons token found ih =>
    have shape : tokenizeChars q (spaced q (token :: found)) =
        tokenizeChars q (quoteChars q token ++ spaced q found) := by
      simp only [tokenizeChars, spaced, List.flatMap_cons, List.cons_append, tokens_space]
    rw [shape]
    cases bare : isBare q token with
    | true =>
      rw [tokenizeChars_of_ok (nextToken_of_isBare visible bare (separated_spaced q found)), ih]
      simp only [List.forall_mem_cons, bare, true_and]
      split <;> rfl
    | false =>
      rw [tokenizeChars_of_error (nextToken_of_not_isBare first solid bare _), if_neg]
      simp [bare]

theorem tokenize_of_mark (valid : s.isValid = true) (mark : s.tokenizer.escape = '"')
    (found : List String) :
    tokenize s.tokenizer.quoteSet (" ".intercalate (found.map (quote s.tokenizer.quoteSet))) =
      if ∀ token ∈ found, isBare s.tokenizer.quoteSet token.toList = true then .ok found
      else .error (.unclosed '"') := by
  have escape : s.tokenizer.quoteSet.escape = '"' := mark
  have first := first_of_mark valid mark
  rw [← escape] at first
  have solid : Text.isBlank '"' = false := by decide
  have read := tokenizeChars_spaced (visible_escape valid) first (escape ▸ solid)
    (found.map String.toList)
  rw [tokenize, toList_written, tokenizeChars, tokens_intercalate, ← tokenizeChars, read, escape]
  simp only [List.forall_mem_map]
  split <;> simp [Except.map, Function.comp_def]

/-- Valid settings can express every list of tokens, unless the escape is the first standard mark:
then a list with a token that needs marks is read as a span without an end. -/
theorem valid_settings_express_tokens (s : Settings) (valid : s.isValid = true)
    (found : List String) :
    tokenize s.tokenizer.quoteSet (" ".intercalate (found.map (quote s.tokenizer.quoteSet))) =
      if s.tokenizer.escape ≠ '"' ∨ ∀ token ∈ found, isBare s.tokenizer.quoteSet token.toList = true
      then .ok found else .error (.unclosed '"') := by
  by_cases mark : s.tokenizer.escape = '"'
  · rw [tokenize_of_mark valid mark]
    simp [mark]
  · rw [if_pos (.inl mark)]
    have writable := writable_of_isValid valid mark
    have pairs : s.tokenizer.quoteSet.pairs ≠ [] := by
      obtain ⟨closing, first, -⟩ := first_quoteSet s.tokenizer
      intro none
      rw [none] at first
      contradiction
    rw [tokenize, toList_written, tokenizeChars_written writable _ fun none => absurd none pairs]
    simp [Except.map, Function.comp_def]

/-- Other settings that are valid: an added pair gives the first one another closing mark. -/
theorem replaced_closing_mark_reads_back :
    let s : Settings := { tokenizer := { escape := '^', extraQuotes := [('"', '>'), ('<', '>')] } }
    let found : List String := ["", "two words", "a^\">", "plain"]
    s.isValid = true ∧
      tokenize s.tokenizer.quoteSet (" ".intercalate (found.map (quote s.tokenizer.quoteSet))) =
        .ok found := by
  intro s found
  have valid : s.isValid = true := by decide
  have apart : s.tokenizer.escape ≠ '"' := by decide
  exact ⟨valid, (valid_settings_express_tokens s valid found).trans (if_pos (.inl apart))⟩

/-- Settings that differ from the default ones in the escape alone are valid, and two words cannot
be written as one token. -/
theorem mark_as_escape_loses_two_words :
    let s : Settings := { tokenizer := { escape := '"' } }
    let q := s.tokenizer.quoteSet
    s.isValid = true ∧ quote q "two words" = "\"two words\"" ∧
      tokenize q (" ".intercalate (["two words"].map (quote q))) = .error (.unclosed '"') := by
  intro s q
  have valid : s.isValid = true := by decide
  refine ⟨valid, by decide, (tokenize_of_mark valid rfl _).trans (if_neg ?_)⟩
  decide

end ChatCommands.ConfiguredQuotes
