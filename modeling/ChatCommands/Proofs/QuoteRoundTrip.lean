import ChatCommands.Line.Quote
import ChatCommands.Line.Token

/-! Written tokens read back. Each case of the escaping in a written form is met
by one case of the reader, so a written token before a blank or the end of a line
reads as itself, and the line of all of them reads as the list. -/
namespace ChatCommands.QuoteRoundTrip
open Line

/-- What a set needs for its written forms to be readable. Of its pairs only the
first is used in writing; nothing is asked of the others, and the first may reuse
the escape character as its opening mark, or one mark at both ends. -/
structure Writable (q : QuoteSet) : Prop where
  escape : Text.isBlank q.escape = false
  opening : ∀ o c, q.pairs.head? = some (o, c) → Text.isBlank o = false
  closing : ∀ o c, q.pairs.head? = some (o, c) → c ≠ q.escape

/-- The text starts with a blank or is empty, so a token that ends before it is complete. -/
def Separated (rest : List Char) : Prop := ∀ d, rest.head? = some d → Text.isBlank d = true

theorem escapeChars_cons_special (escape : Char) (rest : List Char) (needed : special c = true) :
    escapeChars escape special (c :: rest) = escape :: c :: escapeChars escape special rest := by
  simp only [escapeChars, List.flatMap_cons, needed, if_true, List.cons_append, List.nil_append]

theorem escapeChars_cons_plain (escape : Char) (rest : List Char) (plain : special c = false) :
    escapeChars escape special (c :: rest) = c :: escapeChars escape special rest := by
  simp only [escapeChars, List.flatMap_cons, plain, Bool.false_eq_true, if_false,
    List.cons_append, List.nil_append]

/-- Escaping leaves a token without special characters as it is. -/
theorem escapeChars_eq_self (escape : Char) (plain : token.any special = false) :
    escapeChars escape special token = token := by
  induction token with
  | nil => rfl
  | cons c token ih =>
    simp only [List.any_cons, Bool.or_eq_false_iff] at plain
    rw [escapeChars_cons_plain escape token plain.1, ih plain.2]

theorem quotedSpan_escape (escape closing d : Char) (rest : List Char) :
    quotedSpan escape closing (escape :: d :: rest) = (quotedSpan escape closing rest).push d := by
  rw [quotedSpan, if_pos (beq_self_eq_true escape)]

theorem quotedSpan_plain (escape closing : Char) (rest : List Char)
    (plain : (c == escape || c == closing) = false) :
    quotedSpan escape closing (c :: rest) = (quotedSpan escape closing rest).push c := by
  obtain ⟨notEscape, notClosing⟩ := Bool.or_eq_false_iff.1 plain
  cases rest with
  | nil => simp [quotedSpan, notEscape, notClosing, Reading.push, Except.map]
  | cons d rest => simp [quotedSpan, notEscape, notClosing]

theorem quotedSpan_closing (distinct : closing ≠ escape) (separated : Separated rest) :
    quotedSpan escape closing (closing :: rest) = ⟨.ok [], rest⟩ := by
  cases rest with
  | nil => simp [quotedSpan, distinct]
  | cons d rest => simp [quotedSpan, distinct, separated d rfl]

theorem quotedSpan_escaped (distinct : closing ≠ escape) (token : List Char)
    (separated : Separated rest) :
    quotedSpan escape closing
      (escapeChars escape (fun c => c == escape || c == closing) token ++ closing :: rest) =
      ⟨.ok token, rest⟩ := by
  induction token with
  | nil => exact quotedSpan_closing distinct separated
  | cons c token ih =>
    by_cases needed : (c == escape || c == closing) = true
    · rw [escapeChars_cons_special escape token needed, List.cons_append, List.cons_append,
        quotedSpan_escape, ih]
      rfl
    · have plain := Bool.eq_false_iff.2 needed
      rw [escapeChars_cons_plain escape token plain, List.cons_append,
        quotedSpan_plain escape closing _ plain, ih]
      rfl

theorem bareWord_escape (q : QuoteSet) (d : Char) (rest : List Char) :
    bareWord q (q.escape :: d :: rest) = (bareWord q rest).push d := by
  rw [bareWord, if_pos (beq_self_eq_true q.escape)]

theorem isSpecial_eq_false (plain : isSpecial q c = false) :
    Text.isBlank c = false ∧ (c == q.escape) = false ∧ q.isQuote c = false := by
  simpa only [isSpecial, Bool.or_eq_false_iff, and_assoc] using plain

theorem bareWord_plain (q : QuoteSet) (rest : List Char) (plain : isSpecial q c = false) :
    bareWord q (c :: rest) = (bareWord q rest).push c := by
  obtain ⟨visible, notEscape, notQuote⟩ := isSpecial_eq_false plain
  cases rest with
  | nil => simp [bareWord, visible, notEscape, notQuote, Reading.push, Except.map]
  | cons d rest => simp [bareWord, visible, notEscape, notQuote]

theorem bareWord_separated {q : QuoteSet} (visible : Text.isBlank q.escape = false)
    (separated : Separated rest) : bareWord q rest = ⟨.ok [], rest⟩ := by
  cases rest with
  | nil => rfl
  | cons d rest =>
    have blank := separated d rfl
    have notEscape : (d == q.escape) = false := by
      refine beq_false_of_ne fun same => ?_
      rw [same, visible] at blank
      contradiction
    cases rest <;> simp [bareWord, notEscape, blank]

theorem bareWord_escaped {q : QuoteSet} (visible : Text.isBlank q.escape = false)
    (token : List Char) (separated : Separated rest) :
    bareWord q (escapeChars q.escape (isSpecial q) token ++ rest) = ⟨.ok token, rest⟩ := by
  induction token with
  | nil => exact bareWord_separated visible separated
  | cons c token ih =>
    by_cases needed : isSpecial q c = true
    · rw [escapeChars_cons_special q.escape token needed, List.cons_append, List.cons_append,
        bareWord_escape, ih]
      rfl
    · have plain := Bool.eq_false_iff.2 needed
      rw [escapeChars_cons_plain q.escape token plain, List.cons_append,
        bareWord_plain q _ plain, ih]
      rfl

theorem closingFor_eq_none {q : QuoteSet} (notQuote : q.isQuote c = false) :
    q.closingFor c = none := by
  simp only [QuoteSet.isQuote, List.any_eq_false, Bool.or_eq_true, beq_iff_eq, not_or] at notQuote
  refine List.lookup_eq_none_iff.2 fun pair member => ?_
  exact bne_iff_ne.2 (Ne.symm (notQuote pair member).1)

theorem nextToken_bare {q : QuoteSet} (visible : Text.isBlank c = false)
    (unopened : q.closingFor c = none) :
    nextToken q (c :: rest) = some (bareWord q (c :: rest)) := by
  unfold nextToken Text.trimStart
  rw [List.dropWhile_cons_of_neg (by simp [visible]), firstToken, unopened]

theorem nextToken_quoted {q : QuoteSet} (visible : Text.isBlank opening = false)
    (opened : q.closingFor opening = some closing) :
    nextToken q (opening :: rest) = some (quotedSpan q.escape closing rest) := by
  unfold nextToken Text.trimStart
  rw [List.dropWhile_cons_of_neg (by simp [visible]), firstToken, opened]

/-- A nonempty token escaped in place reads back where its first character opens no span. -/
theorem nextToken_escaped {q : QuoteSet} (visible : Text.isBlank q.escape = false)
    (nonempty : token ≠ [])
    (unopened : ∀ c, (escapeChars q.escape (isSpecial q) token).head? = some c →
      q.closingFor c = none)
    (separated : Separated rest) :
    nextToken q (escapeChars q.escape (isSpecial q) token ++ rest) = some ⟨.ok token, rest⟩ := by
  rw [← bareWord_escaped visible token separated]
  cases token with
  | nil => contradiction
  | cons c token =>
    by_cases needed : isSpecial q c = true
    · rw [escapeChars_cons_special q.escape token needed] at unopened ⊢
      exact nextToken_bare visible (unopened q.escape rfl)
    · have plain := Bool.eq_false_iff.2 needed
      rw [escapeChars_cons_plain q.escape token plain] at unopened ⊢
      exact nextToken_bare (isSpecial_eq_false plain).1 (unopened c rfl)

/-- A written token before a blank or the end of the text is the next token. -/
theorem nextToken_quoteChars {q : QuoteSet} (writable : Writable q) (token : List Char)
    (expressible : q.pairs = [] → token ≠ []) (separated : Separated rest) :
    nextToken q (quoteChars q token ++ rest) = some ⟨.ok token, rest⟩ := by
  unfold quoteChars
  split
  case isTrue bare =>
    simp only [Bool.and_eq_true, Bool.not_eq_true', List.isEmpty_eq_false_iff] at bare
    obtain ⟨nonempty, plain⟩ := bare
    have same := escapeChars_eq_self q.escape plain
    rw [← congrArg (· ++ rest) same]
    refine nextToken_escaped writable.escape nonempty (fun c first => ?_) separated
    rw [same] at first
    have notSpecial := List.any_eq_false.1 plain c (List.mem_of_mem_head? first)
    exact closingFor_eq_none (isSpecial_eq_false (Bool.eq_false_iff.2 notSpecial)).2.2
  case isFalse =>
    cases pairs : q.pairs with
    | nil =>
      refine nextToken_escaped writable.escape (expressible pairs) (fun c _ => ?_) separated
      rw [QuoteSet.closingFor, pairs, List.lookup_nil]
    | cons pair more =>
      obtain ⟨opening, closing⟩ := pair
      have first : q.pairs.head? = some (opening, closing) := by rw [pairs]; rfl
      have opened : q.closingFor opening = some closing := by
        rw [QuoteSet.closingFor, pairs, List.lookup_cons_self]
      simp only [List.cons_append, List.append_assoc, List.nil_append]
      rw [nextToken_quoted (writable.opening opening closing first) opened,
        quotedSpan_escaped (writable.closing opening closing first) token separated]

/-- The written tokens, each behind one space. -/
def spaced (q : QuoteSet) (found : List (List Char)) : List Char :=
  found.flatMap fun token => ' ' :: quoteChars q token

theorem separated_spaced (q : QuoteSet) (found : List (List Char)) :
    Separated (spaced q found) := by
  intro d first
  cases found with
  | nil => simp [spaced] at first
  | cons token found =>
    have space : d = ' ' := by simpa [spaced] using first.symm
    rw [space]
    decide

theorem tokens_space (q : QuoteSet) (cs : List Char) : tokens q (' ' :: cs) = tokens q cs := by
  have trimmed : Text.trimStart (' ' :: cs) = Text.trimStart cs :=
    List.dropWhile_cons_of_pos (by decide)
  have same : nextToken q (' ' :: cs) = nextToken q cs := congrArg (firstToken q) trimmed
  cases read : nextToken q cs with
  | none => rw [tokens_of_none (same.trans read), tokens_of_none read, trimmed]
  | some reading =>
    obtain ⟨result, rest⟩ := reading
    cases result with
    | error e => rw [tokens_of_error (same.trans read), tokens_of_error read]
    | ok token => rw [tokens_of_ok (same.trans read), tokens_of_ok read]

theorem tokens_spaced {q : QuoteSet} (writable : Writable q) (found : List (List Char))
    (expressible : q.pairs = [] → ∀ token ∈ found, token ≠ []) :
    tokens q (spaced q found) = (found, none, []) := by
  induction found with
  | nil => exact tokens_of_none rfl
  | cons token found ih =>
    have tail := ih fun none other member => expressible none other (List.mem_cons_of_mem _ member)
    have read := nextToken_quoteChars writable token
      (fun none => expressible none token List.mem_cons_self) (separated_spaced q found)
    calc tokens q (spaced q (token :: found))
      _ = tokens q (quoteChars q token ++ spaced q found) := tokens_space q _
      _ = (token :: found, none, []) := by rw [tokens_of_ok read, tail]

theorem intercalate_eq_spaced (q : QuoteSet) (token : List Char) (found : List (List Char)) :
    ' ' :: [' '].intercalate ((token :: found).map (quoteChars q)) = spaced q (token :: found) := by
  induction found generalizing token with
  | nil => simp [spaced]
  | cons next found ih =>
    have tail := ih next
    calc ' ' :: [' '].intercalate ((token :: next :: found).map (quoteChars q))
      _ = ' ' :: quoteChars q token ++
          ' ' :: [' '].intercalate ((next :: found).map (quoteChars q)) := by
        simp only [List.map_cons, List.intercalate_cons_cons, List.append_assoc,
          List.cons_append, List.nil_append]
      _ = spaced q (token :: next :: found) := by
        rw [tail]
        rfl

theorem tokens_intercalate (q : QuoteSet) (found : List (List Char)) :
    tokens q ([' '].intercalate (found.map (quoteChars q))) = tokens q (spaced q found) := by
  cases found with
  | nil => rfl
  | cons token found => rw [← tokens_space, intercalate_eq_spaced]

theorem tokenizeChars_written {q : QuoteSet} (writable : Writable q) (found : List (List Char))
    (expressible : q.pairs = [] → ∀ token ∈ found, token ≠ []) :
    tokenizeChars q ([' '].intercalate (found.map (quoteChars q))) = .ok found := by
  rw [tokenizeChars, tokens_intercalate, tokens_spaced writable found expressible]

theorem toList_written (q : QuoteSet) (found : List String) :
    (" ".intercalate (found.map (quote q))).toList =
      [' '].intercalate ((found.map String.toList).map (quoteChars q)) := by
  simp [String.toList_intercalate, quote, Function.comp_def]

/-- Tokens written with a set and joined by spaces are the tokens of the line they make. -/
theorem written_line_reads_back {q : QuoteSet} (writable : Writable q) (found : List String)
    (expressible : q.pairs = [] → ∀ token ∈ found, token ≠ "") :
    tokenize q (" ".intercalate (found.map (quote q))) = .ok found := by
  have read := tokenizeChars_written writable (found.map String.toList) (by
    intro none token member
    obtain ⟨text, present, rfl⟩ := List.mem_map.1 member
    simpa using expressible none text present)
  rw [tokenize, toList_written, read]
  simp [Except.map, Function.comp_def]

/-- The escape character may also open the spans that tokens are written in, and a set without
marks can write every token but the empty one. -/
theorem reused_escape_and_no_marks_read_back :
    let reused : QuoteSet := .ofPairs [('%', '"'), ('«', '»')] '%'
    let unmarked : QuoteSet := .ofPairs [] '%'
    let found : List String := ["two words", "50% \"off\"", "plain"]
    (Writable reused ∧ reused.pairs ≠ [] ∧
      tokenize reused (" ".intercalate (("" :: found).map (quote reused))) = .ok ("" :: found)) ∧
    (Writable unmarked ∧ (∀ token ∈ found, token ≠ "") ∧
      tokenize unmarked (" ".intercalate (found.map (quote unmarked))) = .ok found) := by
  intro reused unmarked found
  have writableReused : Writable reused := by
    refine ⟨by decide, fun o c first => ?_, fun o c first => ?_⟩ <;> cases first <;> decide
  have writableUnmarked : Writable unmarked := by
    refine ⟨by decide, fun o c first => ?_, fun o c first => ?_⟩ <;> cases first
  have marked : reused.pairs ≠ [] := by decide
  have nonempty : ∀ token ∈ found, token ≠ "" := by decide
  exact ⟨⟨writableReused, marked,
      written_line_reads_back writableReused _ fun none => absurd none marked⟩,
    writableUnmarked, nonempty, written_line_reads_back writableUnmarked found fun _ => nonempty⟩

end ChatCommands.QuoteRoundTrip
