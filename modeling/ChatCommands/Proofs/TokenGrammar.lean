import ChatCommands.Proofs.LazyTokens
import ChatCommands.Proofs.QuoteRoundTrip

/-! The grammar of command lines. A line is written down as tokens between blanks, and a token as
items between marks or as bare items, with no word about a reader (`Line`). A line that is no such
sequence has a first token that cannot be completed, and the grammar says what stops it (`Fails`).
Every text is one or the other; the reader takes the tokens of the one and fails like the other. -/
namespace ChatCommands.TokenGrammar
open Line LazyTokens QuoteRoundTrip

variable {q : QuoteSet} {escape closing : Char} {barred : Char → Prop}
  {text written token body tail gap rest : List Char} {found : List (List Char)} {e : TokenError}

/-- Blanks are no marks and no escape, and no span is closed by the escape. A span may be opened by
the escape. -/
structure Distinct (q : QuoteSet) : Prop where
  escape : Text.isBlank q.escape = false
  opening : ∀ p ∈ q.pairs, Text.isBlank p.1 = false
  closing : ∀ p ∈ q.pairs, Text.isBlank p.2 = false ∧ p.2 ≠ q.escape

def Blank (gap : List Char) : Prop := ∀ c ∈ gap, Text.isBlank c = true

instance : DecidablePred Blank := fun gap => List.decidableBAll _ gap

/-- A text made of items, and what they stand for: any character behind the escape, or one that is
neither the escape nor barred. -/
inductive Items (escape : Char) (barred : Char → Prop) : List Char → List Char → Prop where
  | none : Items escape barred [] []
  | escaped {text token : List Char} (c : Char) (later : Items escape barred text token) :
      Items escape barred (escape :: c :: text) (c :: token)
  | itself {text token : List Char} {c : Char} (notEscape : c ≠ escape) (allowed : ¬ barred c)
      (later : Items escape barred text token) : Items escape barred (c :: text) (c :: token)

/-- A text without the escape and without barred characters stands for itself. -/
theorem items_self (plain : ∀ c ∈ text, c ≠ escape ∧ ¬ barred c) :
    Items escape barred text text := by
  induction text with
  | nil => exact .none
  | cons c text ih =>
    obtain ⟨notEscape, allowed⟩ := plain c List.mem_cons_self
    exact .itself notEscape allowed (ih fun d member => plain d (List.mem_cons_of_mem c member))

/-- A test of every character decides that a text is its own items. -/
theorem items_of_all [DecidablePred barred]
    (plain : text.all (fun c => c ≠ escape ∧ ¬ barred c) = true) :
    Items escape barred text text :=
  items_self fun c member => of_decide_eq_true (List.all_eq_true.1 plain c member)

/-- What cannot stand in a bare token without an escape. -/
def EndsBare (q : QuoteSet) (c : Char) : Prop := Text.isBlank c = true ∨ q.isQuote c = true

instance (q : QuoteSet) : DecidablePred (EndsBare q) := fun c =>
  inferInstanceAs (Decidable (Text.isBlank c = true ∨ q.isQuote c = true))

/-- The text does not begin with an opening mark. -/
def Unopened (q : QuoteSet) (text : List Char) : Prop :=
  ∀ c, text.head? = some c → q.closingFor c = none

/-- A token as it is written, and what it stands for. -/
inductive Written (q : QuoteSet) : List Char → List Char → Prop where
  | quoted {opening closing : Char} {body token : List Char}
      (opens : q.closingFor opening = some closing)
      (items : Items q.escape (· = closing) body token) :
      Written q (opening :: (body ++ [closing])) token
  | bare {text token : List Char} (full : text ≠ []) (unopened : Unopened q text)
      (items : Items q.escape (EndsBare q) text token) : Written q text token

/-- A bare token that the end of the text leaves with a lone escape, which it keeps. -/
inductive Hanging (q : QuoteSet) : List Char → List Char → Prop where
  | mk {text token : List Char} (unopened : Unopened q (text ++ [q.escape]))
      (items : Items q.escape (EndsBare q) text token) :
      Hanging q (text ++ [q.escape]) (token ++ [q.escape])

/-- A text is a sequence of tokens with blanks between them, and maybe around them. -/
inductive Line (q : QuoteSet) : List Char → List (List Char) → Prop where
  | blank {gap : List Char} (blank : Blank gap) : Line q gap []
  | hanging {gap text token : List Char} (blank : Blank gap) (reads : Hanging q text token) :
      Line q (gap ++ text) [token]
  | token {gap text token rest : List Char} {found : List (List Char)} (blank : Blank gap)
      (reads : Written q text token) (separated : Separated rest) (later : Line q rest found) :
      Line q (gap ++ (text ++ rest)) (token :: found)

/-- A text begins with a token that cannot be completed, for the reason given. -/
inductive Broken (q : QuoteSet) : List Char → TokenError → Prop where
  /-- The text ends inside a span, maybe behind an escape. -/
  | unclosed {opening closing : Char} {body token tail : List Char}
      (opens : q.closingFor opening = some closing)
      (items : Items q.escape (· = closing) body token) (ends : tail = [] ∨ tail = [q.escape]) :
      Broken q (opening :: (body ++ tail)) (.unclosed closing)
  /-- Something other than a blank follows a span. -/
  | textAfterClosing {opening closing next : Char} {body token rest : List Char}
      (opens : q.closingFor opening = some closing)
      (items : Items q.escape (· = closing) body token) (solid : Text.isBlank next = false) :
      Broken q (opening :: (body ++ closing :: next :: rest)) (.textAfterClosing next)
  /-- A mark stands in a bare token. -/
  | unexpectedQuote {mark : Char} {text token rest : List Char}
      (unopened : Unopened q (text ++ [mark])) (items : Items q.escape (EndsBare q) text token)
      (notEscape : mark ≠ q.escape) (quote : q.isQuote mark = true) :
      Broken q (text ++ mark :: rest) (.unexpectedQuote mark)

/-- The first token of a text that cannot be completed, behind those that are. -/
inductive Fails (q : QuoteSet) : List Char → TokenError → Prop where
  | here {gap text : List Char} {e : TokenError} (blank : Blank gap) (broken : Broken q text e) :
      Fails q (gap ++ text) e
  | later {gap text token rest : List Char} {e : TokenError} (blank : Blank gap)
      (reads : Written q text token) (separated : Separated rest) (fails : Fails q rest e) :
      Fails q (gap ++ (text ++ rest)) e

/-! ## Every text is one or the other -/

/-- What can follow as many items as there are. -/
inductive Stop (escape : Char) (barred : Char → Prop) : List Char → Prop where
  | ended : Stop escape barred []
  | hanging : Stop escape barred [escape]
  | barred {c : Char} {rest : List Char} (notEscape : c ≠ escape) (stops : barred c) :
      Stop escape barred (c :: rest)

theorem exists_items (escape : Char) (barred : Char → Prop) (text : List Char) :
    ∃ body token tail, text = body ++ tail ∧ Items escape barred body token ∧
      Stop escape barred tail := by
  induction size : text.length using Nat.strong_induction_on generalizing text with
  | _ size ih =>
    cases text with
    | nil => exact ⟨[], [], [], rfl, .none, .ended⟩
    | cons c rest =>
      simp only [List.length_cons] at size
      by_cases escapes : c = escape
      · subst escapes
        cases rest with
        | nil => exact ⟨[], [], [c], rfl, .none, .hanging⟩
        | cons d rest =>
          simp only [List.length_cons] at size
          obtain ⟨body, token, tail, rfl, items, stop⟩ := ih rest.length (by omega) rest rfl
          exact ⟨c :: d :: body, d :: token, tail, rfl, .escaped d items, stop⟩
      · by_cases stops : barred c
        · exact ⟨[], [], c :: rest, rfl, .none, .barred escapes stops⟩
        · obtain ⟨body, token, tail, rfl, items, stop⟩ := ih rest.length (by omega) rest rfl
          exact ⟨c :: body, c :: token, tail, rfl, .itself escapes stops items, stop⟩

/-- What a text that does not begin with a blank begins with. -/
inductive Begun (q : QuoteSet) : List Char → Prop where
  | token {text token rest : List Char} (full : text ≠ []) (reads : Written q text token)
      (separated : Separated rest) : Begun q (text ++ rest)
  | hanging {text token : List Char} (reads : Hanging q text token) : Begun q text
  | broken {text : List Char} {e : TokenError} (broken : Broken q text e) : Begun q text

theorem begun_of_opens {opening : Char} (opens : q.closingFor opening = some closing)
    (rest : List Char) : Begun q (opening :: rest) := by
  obtain ⟨body, token, tail, rfl, items, stop⟩ := exists_items q.escape (· = closing) rest
  cases stop with
  | ended => exact .broken (.unclosed opens items (.inl rfl))
  | hanging => exact .broken (.unclosed opens items (.inr rfl))
  | barred notEscape stops =>
    subst stops
    rename_i mark later
    cases later with
    | nil =>
      rw [← List.append_nil (opening :: (body ++ [mark]))]
      refine .token (List.cons_ne_nil _ _) (.quoted opens items) fun d first => ?_
      cases first
    | cons next later =>
      by_cases blank : Text.isBlank next = true
      · have shape : opening :: (body ++ mark :: next :: later) =
            opening :: (body ++ [mark]) ++ next :: later := by simp
        rw [shape]
        refine .token (List.cons_ne_nil _ _) (.quoted opens items) fun d first => ?_
        cases first
        exact blank
      · exact .broken (.textAfterClosing opens items (Bool.eq_false_iff.2 blank))

theorem begun_of_unopened {c : Char} (solid : Text.isBlank c = false)
    (unopened : q.closingFor c = none) (rest : List Char) : Begun q (c :: rest) := by
  obtain ⟨text, token, tail, shape, items, stop⟩ := exists_items q.escape (EndsBare q) (c :: rest)
  rw [shape]
  -- A front of the text begins like the text, which opens no span.
  have front {ds es : List Char} (whole : c :: rest = ds ++ es) : Unopened q ds := by
    intro d first
    have same : c = d := by
      cases ds with
      | nil => cases first
      | cons d ds =>
        cases first
        exact (List.cons.inj whole).1
    exact same ▸ unopened
  cases stop with
  | ended =>
    have full : text ≠ [] := fun empty => by simp [empty] at shape
    exact .token full (.bare full (front shape) items) fun d first => by cases first
  | hanging =>
    exact .hanging (.mk (front (shape.trans (List.append_nil _).symm)) items)
  | barred notEscape stops =>
    rename_i mark later
    by_cases blank : Text.isBlank mark = true
    · have full : text ≠ [] := by
        rintro rfl
        cases shape
        rw [solid] at blank
        contradiction
      refine .token full (.bare full (front shape) items) fun d first => ?_
      cases first
      exact blank
    · have whole : c :: rest = text ++ [mark] ++ later := by
        rw [shape, List.append_assoc, List.singleton_append]
      exact .broken (.unexpectedQuote (front whole) items notEscape (stops.resolve_left blank))

theorem exists_line_or_fails (q : QuoteSet) (text : List Char) :
    (∃ found, Line q text found) ∨ ∃ e, Fails q text e := by
  induction size : text.length using Nat.strong_induction_on generalizing text with
  | _ bound ih =>
    obtain ⟨gap, blank, shape, solid⟩ := Text.trimStart_spec text
    rw [shape]
    have begun : Text.trimStart text ≠ [] → Begun q (Text.trimStart text) := by
      intro full
      obtain ⟨c, rest, first⟩ := List.exists_cons_of_ne_nil full
      rw [first] at solid ⊢
      cases opens : q.closingFor c with
      | some closing => exact begun_of_opens opens rest
      | none => exact begun_of_unopened (solid c rfl) opens rest
    generalize Text.trimStart text = core at shape begun ⊢
    by_cases empty : core = []
    · subst empty
      refine .inl ⟨[], .blank fun c member => blank c ?_⟩
      rwa [List.append_nil] at member
    cases begun empty with
    | hanging reads => exact .inl ⟨_, .hanging blank reads⟩
    | broken broken => exact .inr ⟨_, .here blank broken⟩
    | token full reads separated =>
      rename_i front token rest
      have shorter : rest.length < bound := by
        have := List.length_pos_of_ne_nil full
        simp only [← size, shape, List.length_append]
        omega
      rcases ih rest.length shorter rest rfl with ⟨found, later⟩ | ⟨e, fails⟩
      · exact .inl ⟨token :: found, .token blank reads separated later⟩
      · exact .inr ⟨e, .later blank reads separated fails⟩

/-! ## What the reader makes of the parts -/

/-- The reading with more characters in front of its token. -/
def onto (token : List Char) (r : Reading) : Reading :=
  { r with result := r.result.map (token ++ ·) }

@[simp] theorem onto_nil (r : Reading) : onto [] r = r := by
  obtain ⟨result, rest⟩ := r
  cases result <;> rfl

@[simp] theorem onto_cons (c : Char) (token : List Char) (r : Reading) :
    onto (c :: token) r = (onto token r).push c := by
  obtain ⟨result, rest⟩ := r
  cases result <;> rfl

@[simp] theorem onto_ok (token more rest : List Char) :
    onto token ⟨.ok more, rest⟩ = ⟨.ok (token ++ more), rest⟩ := rfl

@[simp] theorem onto_error (token rest : List Char) (e : TokenError) :
    onto token ⟨.error e, rest⟩ = ⟨.error e, rest⟩ := rfl

theorem quotedSpan_items (items : Items escape (· = closing) body token) (tail : List Char) :
    quotedSpan escape closing (body ++ tail) = onto token (quotedSpan escape closing tail) := by
  induction items with
  | none => rw [List.nil_append, onto_nil]
  | escaped c later ih =>
    rw [List.cons_append, List.cons_append, quotedSpan_escape, ih, onto_cons]
  | itself notEscape allowed later ih =>
    rw [List.cons_append, quotedSpan_plain escape closing _ (by simp [notEscape, allowed]), ih,
      onto_cons]

theorem bareWord_items (items : Items q.escape (EndsBare q) text token) (tail : List Char) :
    bareWord q (text ++ tail) = onto token (bareWord q tail) := by
  induction items with
  | none => rw [List.nil_append, onto_nil]
  | escaped c later ih => rw [List.cons_append, List.cons_append, bareWord_escape, ih, onto_cons]
  | itself notEscape allowed later ih =>
    rename_i c
    obtain ⟨visible, notQuote⟩ := not_or.1 allowed
    have plain : isSpecial q c = false := by simpa [isSpecial, notEscape, notQuote] using visible
    rw [List.cons_append, bareWord_plain q _ plain, ih, onto_cons]

theorem quotedSpan_ended (ends : tail = [] ∨ tail = [escape]) :
    quotedSpan escape closing tail = ⟨.error (.unclosed closing), []⟩ := by
  rcases ends with rfl | rfl
  · rfl
  · simp [quotedSpan]

theorem quotedSpan_solid {next : Char} (distinct : closing ≠ escape)
    (solid : Text.isBlank next = false) (rest : List Char) :
    quotedSpan escape closing (closing :: next :: rest) =
      ⟨.error (.textAfterClosing next), next :: rest⟩ := by
  simp [quotedSpan, distinct, solid]

theorem bareWord_hanging (q : QuoteSet) : bareWord q [q.escape] = ⟨.ok [q.escape], []⟩ := by
  simp [bareWord]

theorem bareWord_quote {mark : Char} (notEscape : mark ≠ q.escape)
    (solid : Text.isBlank mark = false) (quote : q.isQuote mark = true) (rest : List Char) :
    bareWord q (mark :: rest) = ⟨.error (.unexpectedQuote mark), rest⟩ := by
  cases rest <;> simp [bareWord, notEscape, solid, quote]

theorem nextToken_gap (q : QuoteSet) (blank : Blank gap) (text : List Char) :
    nextToken q (gap ++ text) = nextToken q text :=
  nextToken_congr q (List.dropWhile_append_of_pos blank)

/-- A text whose front opens no span is read as a bare token. -/
theorem nextToken_unopened (full : text ≠ []) (unopened : Unopened q text)
    (solid : ∀ c, text.head? = some c → Text.isBlank c = false) (rest : List Char) :
    nextToken q (text ++ rest) = some (bareWord q (text ++ rest)) := by
  obtain ⟨c, later, rfl⟩ := List.exists_cons_of_ne_nil full
  exact nextToken_bare (solid c rfl) (unopened c rfl)

namespace Distinct

theorem solid_of_opens (distinct : Distinct q) {opening : Char}
    (opens : q.closingFor opening = some closing) :
    Text.isBlank opening = false ∧ closing ≠ q.escape := by
  obtain ⟨_, _, pairs, -⟩ := List.lookup_eq_some_iff.1 opens
  have member : (opening, closing) ∈ q.pairs := by simp [pairs]
  exact ⟨distinct.opening _ member, (distinct.closing _ member).2⟩

theorem solid_of_isQuote (distinct : Distinct q) {mark : Char} (quote : q.isQuote mark = true) :
    Text.isBlank mark = false := by
  obtain ⟨pair, member, same⟩ := List.any_eq_true.1 quote
  simp only [Bool.or_eq_true, beq_iff_eq] at same
  rcases same with rfl | rfl
  · exact distinct.opening pair member
  · exact (distinct.closing pair member).1

/-- A text that begins with bare items, a lone escape or a mark does not begin with a blank. -/
theorem solid_of_items (distinct : Distinct q) (items : Items q.escape (EndsBare q) text token)
    (tail : List Char) (solid : ∀ c, tail.head? = some c → Text.isBlank c = false) :
    ∀ c, (text ++ tail).head? = some c → Text.isBlank c = false := by
  intro c first
  cases items with
  | none => exact solid c first
  | escaped d later =>
    cases first
    exact distinct.escape
  | itself notEscape allowed later =>
    cases first
    exact Bool.eq_false_iff.2 (not_or.1 allowed).1

/-- Every token and failure the grammar finds at the front of a text, the reader finds there. -/
theorem nextToken_written (distinct : Distinct q) (reads : Written q text token)
    (separated : Separated rest) : nextToken q (text ++ rest) = some ⟨.ok token, rest⟩ := by
  cases reads with
  | quoted opens items =>
    obtain ⟨solid, differ⟩ := distinct.solid_of_opens opens
    simp only [List.cons_append, List.append_assoc, List.nil_append]
    rw [nextToken_quoted solid opens, quotedSpan_items items, quotedSpan_closing differ separated,
      onto_ok, List.append_nil]
  | bare full unopened items =>
    have solid := distinct.solid_of_items items [] fun c first => by cases first
    rw [List.append_nil] at solid
    rw [nextToken_unopened full unopened solid, bareWord_items items,
      bareWord_separated distinct.escape separated, onto_ok, List.append_nil]

theorem nextToken_hanging (distinct : Distinct q) (reads : Hanging q text token) :
    nextToken q text = some ⟨.ok token, []⟩ := by
  obtain ⟨unopened, items⟩ := reads
  have solid := distinct.solid_of_items items [q.escape] fun c first => by
    cases first
    exact distinct.escape
  have read := nextToken_unopened (by simp) unopened solid []
  rw [List.append_nil] at read
  rw [read, bareWord_items items, bareWord_hanging, onto_ok]

theorem nextToken_broken (distinct : Distinct q) (broken : Broken q text e) :
    ∃ rest, nextToken q text = some ⟨.error e, rest⟩ := by
  cases broken with
  | unclosed opens items ends =>
    obtain ⟨solid, -⟩ := distinct.solid_of_opens opens
    refine ⟨[], ?_⟩
    rw [nextToken_quoted solid opens, quotedSpan_items items, quotedSpan_ended ends, onto_error]
  | textAfterClosing opens items follows =>
    rename_i next _ _ rest
    obtain ⟨solid, differ⟩ := distinct.solid_of_opens opens
    refine ⟨next :: rest, ?_⟩
    rw [nextToken_quoted solid opens, quotedSpan_items items, quotedSpan_solid differ follows,
      onto_error]
  | unexpectedQuote unopened items notEscape quote =>
    rename_i mark text token rest
    have visible := distinct.solid_of_isQuote quote
    have solid := distinct.solid_of_items items [mark] fun c first => by
      cases first
      exact visible
    have read := nextToken_unopened (by simp) unopened solid rest
    rw [List.append_assoc, List.singleton_append] at read
    refine ⟨rest, ?_⟩
    rw [read, bareWord_items items, bareWord_quote notEscape visible quote, onto_error]

end Distinct

/-! ## Whole lines -/

theorem tokenizeChars_of_ok (read : nextToken q text = some ⟨.ok token, rest⟩) :
    tokenizeChars q text = (tokenizeChars q rest).map (token :: ·) := by
  unfold tokenizeChars
  rw [tokens_of_ok read]
  rcases tokens q rest with ⟨found, _ | e, left⟩ <;> rfl

theorem tokenizeChars_of_error (read : nextToken q text = some ⟨.error e, rest⟩) :
    tokenizeChars q text = .error e := by
  rw [tokenizeChars, tokens_of_error read]

theorem tokenizeChars_line (distinct : Distinct q) (line : Line q text found) :
    tokenizeChars q text = .ok found := by
  induction line with
  | blank blank =>
    have read := nextToken_gap q blank []
    rw [List.append_nil] at read
    rw [tokenizeChars, tokens_of_none (read.trans rfl)]
  | hanging blank reads =>
    have read := (nextToken_gap q blank _).trans (distinct.nextToken_hanging reads)
    rw [tokenizeChars_of_ok read, tokenizeChars, tokens_of_none rfl]
    rfl
  | token blank reads separated later ih =>
    have read := (nextToken_gap q blank _).trans (distinct.nextToken_written reads separated)
    rw [tokenizeChars_of_ok read, ih]
    rfl

theorem tokenizeChars_fails (distinct : Distinct q) (fails : Fails q text e) :
    tokenizeChars q text = .error e := by
  induction fails with
  | here blank broken =>
    obtain ⟨rest, read⟩ := distinct.nextToken_broken broken
    exact tokenizeChars_of_error ((nextToken_gap q blank _).trans read)
  | later blank reads separated fails ih =>
    have read := (nextToken_gap q blank _).trans (distinct.nextToken_written reads separated)
    rw [tokenizeChars_of_ok read, ih]
    rfl

theorem tokenizeChars_eq_ok_iff (distinct : Distinct q) (text : List Char)
    (found : List (List Char)) : tokenizeChars q text = .ok found ↔ Line q text found := by
  refine ⟨fun read => ?_, tokenizeChars_line distinct⟩
  rcases exists_line_or_fails q text with ⟨other, line⟩ | ⟨e, fails⟩
  · have same := (tokenizeChars_line distinct line).symm.trans read
    cases same
    exact line
  · rw [tokenizeChars_fails distinct fails] at read
    cases read

theorem tokenizeChars_eq_error_iff (distinct : Distinct q) (text : List Char) (e : TokenError) :
    tokenizeChars q text = .error e ↔ Fails q text e := by
  refine ⟨fun read => ?_, tokenizeChars_fails distinct⟩
  rcases exists_line_or_fails q text with ⟨found, line⟩ | ⟨other, fails⟩
  · rw [tokenizeChars_line distinct line] at read
    cases read
  · have same := (tokenizeChars_fails distinct fails).symm.trans read
    cases same
    exact fails

/-- A set of marks apart from blanks, with no span closed by the escape, takes exactly the lines of
the grammar and gives their tokens; it fails on every other text as its first broken token does. -/
theorem tokenizes_by_grammar (q : QuoteSet) (distinct : Distinct q) (text : String) :
    (∀ found, tokenize q text = .ok found ↔ Line q text.toList (found.map String.toList)) ∧
      ∀ e, tokenize q text = .error e ↔ Fails q text.toList e := by
  constructor
  · intro found
    rw [← tokenizeChars_eq_ok_iff distinct, tokenize]
    cases tokenizeChars q text.toList with
    | error e => simp [Except.map]
    | ok chars =>
      simp only [Except.map, Except.ok.injEq]
      constructor
      · rintro rfl
        simp [Function.comp_def]
      · rintro rfl
        simp [Function.comp_def]
  · intro e
    rw [← tokenizeChars_eq_error_iff distinct, tokenize]
    cases tokenizeChars q text.toList <;> simp [Except.map]

/-- An escape that also opens spans is read as either, and a token behind a good one fails. -/
theorem opening_escape_is_read :
    let q : QuoteSet := .ofPairs [('%', '"'), ('«', '»')] '%'
    Distinct q ∧ tokenize q "%a b\" c%" = .ok ["a b", "c%"] ∧
      tokenize q "ok «x»y" = .error (.textAfterClosing 'y') := by
  intro q
  have distinct : Distinct q := ⟨by decide, by decide, by decide⟩
  have line : Line q "%a b\" c%".toList ["a b".toList, "c%".toList] := by
    have span : Written q ('%' :: ("a b".toList ++ ['"'])) "a b".toList :=
      .quoted rfl (items_of_all rfl)
    have last : Hanging q ("c".toList ++ ['%']) ("c".toList ++ ['%']) :=
      .mk (fun d first => by cases first; rfl) (items_of_all rfl)
    have space : Blank [' '] := by decide
    exact .token (by decide : Blank []) span (fun d first => by cases first; rfl)
      (.hanging space last)
  have fails : Fails q "ok «x»y".toList (.textAfterClosing 'y') := by
    have bare : Written q "ok".toList "ok".toList :=
      .bare (by decide) (fun d first => by cases first; rfl) (items_of_all rfl)
    have broken : Broken q ('«' :: ("x".toList ++ '»' :: 'y' :: [])) (.textAfterClosing 'y') :=
      .textAfterClosing rfl (items_of_all rfl) rfl
    have space : Blank [' '] := by decide
    exact .later (by decide : Blank []) bare (fun d first => by cases first; rfl)
      (.here space broken)
  exact ⟨distinct, ((tokenizes_by_grammar q distinct _).1 _).2 line,
    ((tokenizes_by_grammar q distinct _).2 _).2 fails⟩

end ChatCommands.TokenGrammar
