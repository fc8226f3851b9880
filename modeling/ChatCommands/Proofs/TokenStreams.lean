import ChatCommands.Proofs.LazyTokens

/-! Tokens asked for one by one. A `Tokenizer` may be asked for ever, so what it gives is a
sequence: the tokens ahead of its cursor, the failure behind them if there is one, and nothing more.
Each token and each failure uses up a character, which bounds the sequence by the text. -/
namespace ChatCommands.TokenStreams
open Line LazyTokens

/-- Gives tokens until one cannot be read. -/
structure Tokenizer where
  cursor : Cursor
  failed : Bool := false

abbrev Item := Except TokenError (List Char)

namespace Tokenizer

/-- Reads a token, unless one could not be read before. -/
def next (t : Tokenizer) : Option Item × Tokenizer :=
  if t.failed then (none, t)
  else
    match t.cursor.token with
    | (.ok (some token), after) => (some (.ok token), { t with cursor := after })
    | (.ok none, after) => (none, { t with cursor := after })
    | (.error e, after) => (some (.error e), { cursor := after, failed := true })

/-- What is given after `n` answers. -/
def answer : Nat → Tokenizer → Option Item
  | 0, t => t.next.1
  | n + 1, t => answer n t.next.2

end Tokenizer

/-- The tokens of a text, and behind them the failure to read one more. -/
def items (q : QuoteSet) (cs : List Char) : List Item :=
  (tokens q cs).1.map .ok ++ (tokens q cs).2.1.toList.map .error

variable {q : QuoteSet} {cs token rest : List Char} {e : TokenError} {n : Nat} {t : Tokenizer}

theorem items_of_none (read : nextToken q cs = none) : items q cs = [] := by
  simp [items, tokens_of_none read]

theorem items_of_error (read : nextToken q cs = some ⟨.error e, rest⟩) :
    items q cs = [.error e] := by
  simp [items, tokens_of_error read]

theorem items_of_ok (read : nextToken q cs = some ⟨.ok token, rest⟩) :
    items q cs = .ok token :: items q rest := by
  simp [items, tokens_of_ok read]

theorem items_trimStart (q : QuoteSet) (cs : List Char) :
    items q (Text.trimStart cs) = items q cs := by
  have same := nextToken_congr q (trimStart_trimStart cs)
  cases read : nextToken q cs with
  | none => rw [items_of_none read, items_of_none (same.trans read)]
  | some r =>
    obtain ⟨_ | _, _⟩ := r
    · rw [items_of_error read, items_of_error (same.trans read)]
    · rw [items_of_ok read, items_of_ok (same.trans read)]

/-- There are no more items than there are characters ahead. -/
theorem length_items_le (q : QuoteSet) (cs : List Char) : (items q cs).length ≤ cs.length := by
  induction size : cs.length using Nat.strong_induction_on generalizing cs with
  | _ size ih =>
    subst size
    cases read : nextToken q cs with
    | none => simp [items_of_none read]
    | some r =>
      have shorter := length_nextToken read
      obtain ⟨_ | _, rest⟩ := r
      · rw [items_of_error read]
        exact Nat.one_le_of_lt shorter
      · rw [items_of_ok read]
        exact Nat.succ_le_of_lt (Nat.lt_of_le_of_lt (ih _ shorter rest rfl) shorter)

/-- A tokenizer that failed gives nothing more. -/
theorem answer_of_failed (failed : t.failed = true) (n : Nat) : t.answer n = none := by
  have next : t.next = (none, t) := if_pos failed
  induction n with
  | zero => simp [Tokenizer.answer, next]
  | succ n ih => rw [Tokenizer.answer, next, ih]

/-- An answer is the first item ahead, and the others stay ahead unless it is a failure. -/
theorem next_eq (c : Cursor) :
    ∃ after failed, (Tokenizer.mk c false).next =
        ((items c.quotes c.left).head?, Tokenizer.mk after failed) ∧
      (items c.quotes c.left).tail = if failed then [] else items after.quotes after.left := by
  cases read : nextToken c.quotes c.left with
  | none =>
    refine ⟨c.mark, false, ?_, ?_⟩
    · simp [Tokenizer.next, Cursor.token_of_none read, items_of_none read]
    · rw [Cursor.left_mark]
      exact (congrArg List.tail (items_of_none read)).trans
        ((items_of_none read).symm.trans (items_trimStart _ _).symm)
  | some r =>
    obtain ⟨after, token, quotes, left⟩ := Cursor.token_of_some read
    obtain ⟨e | chars, rest⟩ := r
    · exact ⟨after, true, by simp [Tokenizer.next, token, items_of_error read, Except.map],
        by simp [items_of_error read]⟩
    · exact ⟨after, false, by simp [Tokenizer.next, token, items_of_ok read, Except.map],
        by simp [items_of_ok read, quotes, left]⟩

/-- Over any number of answers a tokenizer gives the items ahead, and then nothing. -/
theorem answer_eq (c : Cursor) (n : Nat) :
    (Tokenizer.mk c false).answer n = (items c.quotes c.left)[n]? := by
  induction n generalizing c with
  | zero =>
    obtain ⟨after, failed, next, -⟩ := next_eq c
    rw [Tokenizer.answer, next, List.head?_eq_getElem?]
  | succ n ih =>
    obtain ⟨after, failed, next, others⟩ := next_eq c
    rw [Tokenizer.answer, next, ← List.getElem?_tail, others]
    cases failed with
    | true => exact answer_of_failed rfl n
    | false => exact ih after

end ChatCommands.TokenStreams
