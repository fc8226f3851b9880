import ChatCommands.Line.QuoteSet
import ChatCommands.Text.Blank
import ChatCommands.Text.Quoted

/-!
Tokens of a command line. Blanks separate tokens; a token that starts with an
opening mark runs to its closing mark and may hold blanks; the escape character
makes the next character literal in both kinds. `nextToken` reads one token
from the front of a text and says what is left, after failures too;
`length_nextToken` says that something was read, so `tokens` ends.
-/

namespace ChatCommands

/-- Why a text is not a sequence of tokens. -/
inductive TokenError where
  /-- A quotation mark inside a token that did not start with one. -/
  | unexpectedQuote (mark : Char)
  /-- A closing mark with something other than a blank after it. -/
  | textAfterClosing (found : Char)
  /-- The text ended inside a quoted span. -/
  | unclosed (closing : Char)
  deriving DecidableEq

namespace TokenError

/-- What the user is told. -/
def message : TokenError → String
  | .unexpectedQuote mark =>
    "unexpected quote mark, " ++ Text.quotedChar mark ++ ", in non-quoted string"
  | .textAfterClosing found =>
    "expected space after closing quotation but received " ++ Text.quotedChar found
  | .unclosed closing => "expected closing " ++ String.singleton closing

/-- The character the failure is about. -/
def character : TokenError → Char
  | .unexpectedQuote c | .textAfterClosing c | .unclosed c => c

end TokenError

namespace Line

/-- What reading one token gave, and the text after it. -/
structure Reading where
  /-- The characters the token stands for, or why there is none. -/
  result : Except TokenError (List Char)
  /-- The text not read yet. -/
  rest : List Char

/-- The reading with one more character in front of its token. -/
def Reading.push (c : Char) (r : Reading) : Reading := { r with result := r.result.map (c :: ·) }

/-- The inside of a quoted span, from after its opening mark. -/
def quotedSpan (escape closing : Char) : List Char → Reading
  | [] => ⟨.error (.unclosed closing), []⟩
  | [c] =>
    if c == escape then ⟨.error (.unclosed closing), []⟩
    else if c == closing then ⟨.ok [], []⟩
    else ⟨.error (.unclosed closing), []⟩
  | c :: d :: rest =>
    if c == escape then (quotedSpan escape closing rest).push d
    else if c == closing then
      if Text.isBlank d then ⟨.ok [], d :: rest⟩ else ⟨.error (.textAfterClosing d), d :: rest⟩
    else (quotedSpan escape closing (d :: rest)).push c

/-- A token without enclosing marks, up to the next blank. A lone escape at the end stands for
itself. -/
def bareWord (q : QuoteSet) : List Char → Reading
  | [] => ⟨.ok [], []⟩
  | [c] =>
    if c == q.escape then ⟨.ok [c], []⟩
    else if Text.isBlank c then ⟨.ok [], [c]⟩
    else if q.isQuote c then ⟨.error (.unexpectedQuote c), []⟩
    else ⟨.ok [c], []⟩
  | c :: d :: rest =>
    if c == q.escape then (bareWord q rest).push d
    else if Text.isBlank c then ⟨.ok [], c :: d :: rest⟩
    else if q.isQuote c then ⟨.error (.unexpectedQuote c), d :: rest⟩
    else (bareWord q (d :: rest)).push c

/-- The token a text starts with, which must not start with a blank. -/
def firstToken (q : QuoteSet) : List Char → Option Reading
  | [] => none
  | c :: rest =>
    match q.closingFor c with
    | some closing => some (quotedSpan q.escape closing rest)
    | none => some (bareWord q (c :: rest))

/-- The next token after any blanks; nothing when only blanks are left. -/
def nextToken (q : QuoteSet) (cs : List Char) : Option Reading := firstToken q (Text.trimStart cs)

@[simp] theorem Reading.push_rest (c : Char) (r : Reading) : (r.push c).rest = r.rest := rfl

theorem suffix_cons_cons (c d : Char) (rest : List Char) : rest <:+ c :: d :: rest :=
  (List.suffix_cons d rest).trans (List.suffix_cons c (d :: rest))

theorem quotedSpan_rest_suffix (escape closing : Char) (cs : List Char) :
    (quotedSpan escape closing cs).rest <:+ cs := by
  fun_induction quotedSpan escape closing cs <;> simp only [Reading.push_rest] <;>
    grind [suffix_cons_cons]

theorem bareWord_rest_suffix (q : QuoteSet) (cs : List Char) : (bareWord q cs).rest <:+ cs := by
  fun_induction bareWord q cs <;> simp only [Reading.push_rest] <;> grind [suffix_cons_cons]

theorem length_quotedSpan_le (escape closing : Char) (cs : List Char) :
    (quotedSpan escape closing cs).rest.length ≤ cs.length :=
  (quotedSpan_rest_suffix escape closing cs).length_le

theorem length_bareWord_le (q : QuoteSet) (cs : List Char) :
    (bareWord q cs).rest.length ≤ cs.length :=
  (bareWord_rest_suffix q cs).length_le

theorem firstToken_rest_suffix {q : QuoteSet} {cs : List Char} {r : Reading}
    (read : firstToken q cs = some r) : r.rest <:+ cs := by
  cases cs with
  | nil => simp [firstToken] at read
  | cons c rest =>
    simp only [firstToken] at read
    cases closing : q.closingFor c with
    | some mark =>
      rw [closing] at read
      cases read
      exact (quotedSpan_rest_suffix q.escape mark rest).trans (List.suffix_cons c rest)
    | none =>
      rw [closing] at read
      cases read
      exact bareWord_rest_suffix q (c :: rest)

theorem length_bareWord_lt (q : QuoteSet) (c : Char) (cs : List Char)
    (visible : Text.isBlank c = false) :
    (bareWord q (c :: cs)).rest.length < (c :: cs).length := by
  cases cs with
  | nil => unfold bareWord; grind
  | cons d rest =>
    have shorter := length_bareWord_le q rest
    have notLonger := length_bareWord_le q (d :: rest)
    unfold bareWord
    simp only [visible]
    split
    · simp only [Reading.push, List.length_cons]; omega
    · split
      · contradiction
      · split
        · simp
        · simp only [Reading.push, List.length_cons] at *; omega

theorem length_trimStart_le (cs : List Char) : (Text.trimStart cs).length ≤ cs.length :=
  (List.dropWhile_suffix _).length_le

/-- A token that was read, or failed to be, used up part of the text. -/
theorem length_nextToken {q : QuoteSet} {cs : List Char} {r : Reading}
    (h : nextToken q cs = some r) : r.rest.length < cs.length := by
  obtain ⟨_, _, _, stops⟩ := Text.trimStart_spec cs
  have notLonger := length_trimStart_le cs
  unfold nextToken at h
  cases trimmed : Text.trimStart cs with
  | nil => rw [trimmed] at h; simp [firstToken] at h
  | cons c rest =>
    have visible := stops c (by rw [trimmed]; rfl)
    rw [trimmed] at h notLonger
    simp only [firstToken] at h
    cases closing : q.closingFor c with
    | some mark =>
      rw [closing] at h
      simp only [Option.some.injEq] at h
      subst h
      have := length_quotedSpan_le q.escape mark rest
      simp only [List.length_cons] at notLonger
      omega
    | none =>
      rw [closing] at h
      simp only [Option.some.injEq] at h
      subst h
      have := length_bareWord_lt q c rest visible
      omega

/-- The tokens of a text in order, up to the first failure. -/
def tokens (q : QuoteSet) (cs : List Char) : List (List Char) × Option TokenError × List Char :=
  match h : nextToken q cs with
  | none => ([], none, Text.trimStart cs)
  | some ⟨.error e, rest⟩ => ([], some e, rest)
  | some ⟨.ok token, rest⟩ =>
    have := length_nextToken h
    let (more, failure, left) := tokens q rest
    (token :: more, failure, left)
termination_by cs.length

theorem tokens_of_none {q : QuoteSet} {cs : List Char} (read : nextToken q cs = none) :
    tokens q cs = ([], none, Text.trimStart cs) := by
  rw [tokens]
  split <;> simp_all

theorem tokens_of_error {q : QuoteSet} {cs rest : List Char} {e : TokenError}
    (read : nextToken q cs = some ⟨.error e, rest⟩) : tokens q cs = ([], some e, rest) := by
  rw [tokens]
  split <;> simp_all

theorem tokens_of_ok {q : QuoteSet} {cs token rest : List Char}
    (read : nextToken q cs = some ⟨.ok token, rest⟩) :
    tokens q cs = (token :: (tokens q rest).1, (tokens q rest).2) := by
  rw [tokens]
  split <;> simp_all

/-- All tokens of a text, or the first failure. -/
def tokenizeChars (q : QuoteSet) (cs : List Char) : Except TokenError (List (List Char)) :=
  match tokens q cs with
  | (found, none, _) => .ok found
  | (_, some e, _) => .error e

/-- All tokens of a text, or the first failure. -/
def tokenize (q : QuoteSet) (text : String) : Except TokenError (List String) :=
  (tokenizeChars q text.toList).map (·.map String.ofList)

end Line

end ChatCommands
