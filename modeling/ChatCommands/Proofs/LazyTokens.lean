import ChatCommands.Line.Cursor
import Mathlib.Data.List.DropRight

/-! Reading tokens one at a time against reading them all at once. A cursor that
is asked for tokens, and put back where one was not wanted, always stands before
a final part of the token sequence of its text, whatever blanks it has passed. -/
namespace ChatCommands.LazyTokens
open Line

/-- The tokens of a text in order, and the failure behind the last one if there is one. -/
structure Tokens where
  found : List String
  failure : Option TokenError

def Tokens.atEnd (s : Tokens) : Bool := s.found.isEmpty && s.failure.isNone

def ahead (q : QuoteSet) (cs : List Char) : Tokens :=
  ⟨(tokens q cs).1.map String.ofList, (tokens q cs).2.1⟩

/-- The text behind its first tokens, as it stands. -/
def behind (q : QuoteSet) : Nat → List Char → List Char
  | 0, cs => cs
  | n + 1, cs =>
    match nextToken q (behind q n cs) with
    | some r => r.rest
    | none => behind q n cs

/-- Where a cursor stands in `text` when `s` is all that is ahead of it. Blanks before the
next token may or may not have been passed, so places are compared without them. -/
structure Stands (q : QuoteSet) (text : List Char) (c : Cursor) (s : Tokens) : Prop where
  quotes : c.quotes = q
  sees : ahead q c.left = s
  place : ∃ taken, taken + s.found.length = (ahead q text).found.length ∧
    Text.trimStart c.left = Text.trimStart (behind q taken text)

theorem tokenize_eq_ok_iff (q : QuoteSet) (text : String) (found : List String) :
    tokenize q text = .ok found ↔ ahead q text.toList = ⟨found, none⟩ := by
  unfold tokenize tokenizeChars ahead
  rcases tokens q text.toList with ⟨chars, failure, rest⟩
  cases failure <;> simp [Except.map]

theorem ahead_of_none {q : QuoteSet} (read : nextToken q cs = none) : ahead q cs = ⟨[], none⟩ := by
  simp only [ahead, tokens_of_none read, List.map_nil]

theorem ahead_of_error {q : QuoteSet} (read : nextToken q cs = some ⟨.error e, rest⟩) :
    ahead q cs = ⟨[], some e⟩ := by
  simp only [ahead, tokens_of_error read, List.map_nil]

theorem ahead_of_ok {q : QuoteSet} (read : nextToken q cs = some ⟨.ok token, rest⟩) :
    ahead q cs = ⟨String.ofList token :: (ahead q rest).found, (ahead q rest).failure⟩ := by
  simp only [ahead, tokens_of_ok read, List.map_cons]

theorem nextToken_congr (q : QuoteSet) (same : Text.trimStart cs = Text.trimStart ds) :
    nextToken q cs = nextToken q ds := congrArg (firstToken q) same

theorem ahead_congr (q : QuoteSet) (same : Text.trimStart cs = Text.trimStart ds) :
    ahead q cs = ahead q ds := by
  have reads := nextToken_congr q same
  cases read : nextToken q ds with
  | none => rw [ahead_of_none (reads.trans read), ahead_of_none read]
  | some r =>
    obtain ⟨result, rest⟩ := r
    cases result with
    | error e => rw [ahead_of_error (reads.trans read), ahead_of_error read]
    | ok token => rw [ahead_of_ok (reads.trans read), ahead_of_ok read]

theorem trimStart_trimStart (cs : List Char) :
    Text.trimStart (Text.trimStart cs) = Text.trimStart cs :=
  List.dropWhile_idempotent Text.isBlank cs

theorem nextToken_eq_none_iff (q : QuoteSet) (cs : List Char) :
    nextToken q cs = none ↔ Text.trimStart cs = [] := by
  unfold nextToken
  cases Text.trimStart cs with
  | nil => simp [firstToken]
  | cons c rest => cases closing : q.closingFor c <;> simp [firstToken, closing]

theorem atEnd_ahead (q : QuoteSet) (cs : List Char) :
    (ahead q cs).atEnd = (Text.trimStart cs).isEmpty := by
  cases read : nextToken q cs with
  | none =>
    rw [ahead_of_none read, (nextToken_eq_none_iff q cs).1 read]
    rfl
  | some r =>
    have left : Text.trimStart cs ≠ [] := fun empty => by
      rw [(nextToken_eq_none_iff q cs).2 empty] at read
      contradiction
    rw [List.isEmpty_eq_false_iff.2 left]
    obtain ⟨result, rest⟩ := r
    cases result with
    | error e => rw [ahead_of_error read]; rfl
    | ok token => rw [ahead_of_ok read]; rfl

theorem start_stands (q : QuoteSet) (text : String) :
    Stands q text.toList (Cursor.start q text) (ahead q text.toList) :=
  ⟨rfl, rfl, 0, Nat.zero_add _, rfl⟩

namespace Stands

/-- Only the blanks right before the next token may differ between two cursors in one place. -/
theorem congr {c next : Cursor} (stands : Stands q text c s) (quotes : next.quotes = c.quotes)
    (same : Text.trimStart next.left = Text.trimStart c.left) : Stands q text next s := by
  obtain ⟨taken, count, place⟩ := stands.place
  refine ⟨quotes.trans stands.quotes, ?_, taken, count, same.trans place⟩
  rw [ahead_congr q same, stands.sees]

/-- Putting a cursor back gives back what was read since. -/
theorem give_back {c next : Cursor} (stands : Stands q text c s) (later : Stands q text next t) :
    Stands q text (next.goTo c.position) s :=
  stands.congr (later.quotes.trans stands.quotes.symm) rfl

theorem at_end {c : Cursor} (stands : Stands q text c ⟨[], none⟩) :
    ∃ next, c.token = (.ok none, next) ∧ Stands q text next ⟨[], none⟩ := by
  have read : nextToken c.quotes c.left = none := by
    have ended := atEnd_ahead q c.left
    rw [stands.sees] at ended
    exact (nextToken_eq_none_iff _ _).2 (List.isEmpty_iff.1 ended.symm)
  refine ⟨c.mark, Cursor.token_of_none read, stands.congr rfl ?_⟩
  rw [Cursor.left_mark, trimStart_trimStart]

theorem at_failure {c : Cursor} (stands : Stands q text c ⟨[], some e⟩) :
    ∃ next, c.token = (.error e, next) := by
  have sees := stands.sees
  rw [← stands.quotes] at sees
  cases read : nextToken c.quotes c.left with
  | none =>
    rw [ahead_of_none read] at sees
    cases sees
  | some r =>
    obtain ⟨next, token, -, -⟩ := Cursor.token_of_some read
    obtain ⟨result, rest⟩ := r
    cases result with
    | error e =>
      rw [ahead_of_error read] at sees
      cases sees
      exact ⟨next, token⟩
    | ok chars =>
      rw [ahead_of_ok read] at sees
      cases sees

theorem at_token {c : Cursor} (stands : Stands q text c ⟨token :: rest, ending⟩) :
    ∃ chars next, c.token = (.ok (some chars), next) ∧ String.ofList chars = token ∧
      Stands q text next ⟨rest, ending⟩ := by
  have sees := stands.sees
  obtain ⟨taken, count, place⟩ := stands.place
  cases read : nextToken q c.left with
  | none =>
    rw [ahead_of_none read] at sees
    cases sees
  | some r =>
    obtain ⟨next, result, quotes, left⟩ := Cursor.token_of_some (stands.quotes.symm ▸ read)
    obtain ⟨outcome, after⟩ := r
    cases outcome with
    | error e =>
      rw [ahead_of_error read] at sees
      cases sees
    | ok chars =>
      rw [ahead_of_ok read] at sees
      cases sees
      refine ⟨chars, next, result, rfl, quotes.trans stands.quotes, by rw [left], taken + 1, ?_, ?_⟩
      · simp only [List.length_cons] at count ⊢
        omega
      · rw [left, behind, ← nextToken_congr q place, read]

theorem atEnd_skipBlanks {c : Cursor} (stands : Stands q text c s) :
    c.skipBlanks.atEnd = s.atEnd := by
  rw [← stands.sees, atEnd_ahead]
  exact congrArg List.isEmpty (Cursor.left_mark c)

/-- What is left is the text behind the tokens that were taken. -/
theorem trim_left {c : Cursor} (stands : Stands q text c s) :
    Text.trim c.left =
      Text.trim (behind q ((ahead q text).found.length - s.found.length) text) := by
  obtain ⟨taken, count, place⟩ := stands.place
  rw [show (ahead q text).found.length - s.found.length = taken by omega]
  unfold Text.trim
  rw [place]

end Stands

end ChatCommands.LazyTokens
