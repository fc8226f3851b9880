import ChatCommands.Proofs.TypedArguments

/-! A cursor that counts bytes. A place in a text can be told by the number of bytes in front of it,
but most numbers are no place: some lie inside a character, and some past the end. `ByteCursor`
reads with such numbers alone. Cutting a text at a number that is no place fails, and so does taking
a number from a smaller one. From the places of a cursor all its reads succeed, and they are those
of the cursor. -/
namespace ChatCommands.ByteOffsets
open Line TypedArguments

/-- The text from a number of bytes on, if there is a place between two characters. -/
def textFrom : List Char → Nat → Option (List Char)
  | cs, 0 => some cs
  | [], _ + 1 => none
  | c :: rest, n + 1 => if c.utf8Size ≤ n + 1 then textFrom rest (n + 1 - c.utf8Size) else none

/-! ## Places -/

theorem textFrom_append (front rest : List Char) :
    textFrom (front ++ rest) (Text.byteLength front) = some rest := by
  induction front with
  | nil => cases rest <;> rfl
  | cons c front ih =>
    obtain ⟨width, wide⟩ := Nat.exists_eq_add_one_of_ne_zero c.utf8Size_pos.ne'
    rw [Text.byteLength, wide, Nat.succ_add, List.cons_append, textFrom, wide,
      if_pos (by omega), ← ih]
    congr 1
    omega

theorem textFrom_eq_some_iff {cs rest : List Char} {n : Nat} :
    textFrom cs n = some rest ↔ ∃ front, cs = front ++ rest ∧ Text.byteLength front = n := by
  constructor
  · intro cut
    fun_induction textFrom cs n with
    | case1 cs =>
      cases cut
      exact ⟨[], rfl, rfl⟩
    | case2 => contradiction
    | case3 c later n fits ih =>
      obtain ⟨front, rfl, length⟩ := ih cut
      exact ⟨c :: front, rfl, by rw [Text.byteLength]; omega⟩
    | case4 => contradiction
  · rintro ⟨front, rfl, rfl⟩
    exact textFrom_append front rest

theorem byteLength_of_textFrom {cs rest : List Char} {n : Nat} (cut : textFrom cs n = some rest) :
    n + Text.byteLength rest = Text.byteLength cs := by
  obtain ⟨front, rfl, rfl⟩ := textFrom_eq_some_iff.1 cut
  exact (Text.byteLength_append front rest).symm

theorem utf8ByteSize_eq (text : String) : text.utf8ByteSize = Text.byteLength text.toList := by
  suffices size : ∀ cs, (String.ofList cs).utf8ByteSize = Text.byteLength cs by
    rw [← size, String.ofList_toList]
  intro cs
  induction cs with
  | nil => rfl
  | cons c rest ih =>
    rw [String.ofList_cons, String.utf8ByteSize_append, String.utf8ByteSize_singleton, ih]
    rfl

/-- A text can be cut at the numbers of bytes that are places in its UTF-8 form, and at no other. -/
theorem textFrom_isSome_iff (text : String) (n : Nat) :
    (textFrom text.toList n).isSome = true ↔ String.Pos.Raw.IsValid text ⟨n⟩ := by
  rw [Option.isSome_iff_exists, String.Pos.Raw.isValid_iff_exists_append]
  constructor
  · rintro ⟨rest, cut⟩
    obtain ⟨front, whole, rfl⟩ := textFrom_eq_some_iff.1 cut
    refine ⟨.ofList front, .ofList rest, ?_, ?_⟩
    · rw [← String.ofList_append, ← whole, String.ofList_toList]
    · have size := utf8ByteSize_eq (.ofList front)
      rw [String.toList_ofList] at size
      exact congrArg String.Pos.Raw.mk size.symm
  · rintro ⟨front, rest, rfl, place⟩
    refine ⟨rest.toList, textFrom_eq_some_iff.2 ⟨front.toList, String.toList_append, ?_⟩⟩
    rw [← utf8ByteSize_eq]
    exact congrArg String.Pos.Raw.byteIdx place.symm

/-- A character of two bytes cannot be cut. -/
example : textFrom "é".toList 1 = none ∧ textFrom "é".toList 2 = some [] := by decide

/-! ## Reading by bytes -/

/-- The difference of two numbers, if it is not below zero. -/
def less? (a b : Nat) : Option Nat := if b ≤ a then some (a - b) else none

/-- A cursor over a text that knows its places by the number of bytes before them. -/
structure ByteCursor where
  quotes : QuoteSet
  text : List Char
  index : Nat
  /-- Where the last word, token or rest began. -/
  previous : Nat

namespace ByteCursor

def left? (b : ByteCursor) : Option (List Char) := textFrom b.text b.index

/-- Passes as many bytes as the text has more than it has without its leading blanks. -/
def skipBlanks? (b : ByteCursor) : Option ByteCursor := do
  let left ← b.left?
  let skipped ← less? (Text.byteLength left) (Text.byteLength (Text.trimStart left))
  return { b with index := b.index + skipped }

def mark? (b : ByteCursor) : Option ByteCursor :=
  b.skipBlanks?.map fun b => { b with previous := b.index }

def takeRest? (b : ByteCursor) : Option (List Char × ByteCursor) :=
  b.left?.map fun left => (left, { b with index := Text.byteLength b.text, previous := b.index })

/-- Reads up to the next blank. The text is cut where the word ends. -/
def word? (b : ByteCursor) : Option (List Char × ByteCursor) := do
  let b ← b.mark?
  let left ← b.left?
  let stop := Text.byteLength (left.takeWhile fun c => !Text.isBlank c)
  let rest ← textFrom left stop
  return (left.take (left.length - rest.length), { b with index := b.index + stop })

/-- Reads one character, if there is one. -/
def next? (b : ByteCursor) : Option (Option (Char × ByteCursor)) :=
  b.left?.map fun left => left.head?.map fun c => (c, { b with index := b.index + c.utf8Size })

/-- The number of bytes not read yet. -/
def unread (b : ByteCursor) : Nat := Text.byteLength b.text - b.index

theorem unread_next? {b after : ByteCursor} {c : Char} (read : b.next? = some (some (c, after))) :
    after.unread < b.unread := by
  unfold next? left? at read
  obtain ⟨left, cut, first⟩ := Option.map_eq_some_iff.1 read
  cases left with
  | nil => simp at first
  | cons d rest =>
    cases first
    have whole := byteLength_of_textFrom cut
    have wide := c.utf8Size_pos
    rw [Text.byteLength] at whole
    unfold unread
    dsimp only
    omega

/-- What is told of a token where the text ends. -/
def ended (closing : Option Char) (found : List Char) : Except TokenError (List Char) :=
  match closing with
  | some mark => .error (.unclosed mark)
  | none => .ok found

/-- Reads a token character by character, behind those that were `found`. Inside a span `closing` is
its closing mark. -/
def scan? (closing : Option Char) (found : List Char) (b : ByteCursor) :
    Option (Except TokenError (List Char) × ByteCursor) :=
  match read : b.next? with
  | none => none
  | some none => some (ended closing found, b)
  | some (some (c, after)) =>
    have := unread_next? read
    if c == b.quotes.escape then
      match behind : after.next? with
      | none => none
      | some none => some (ended closing (found ++ [c]), after)
      | some (some (d, later)) =>
        have := unread_next? behind
        scan? closing (found ++ [d]) later
    else
      match closing with
      | some mark =>
        if c == mark then
          after.left?.map fun left =>
            match left with
            | d :: _ =>
              if Text.isBlank d then (.ok found, after) else (.error (.textAfterClosing d), after)
            | [] => (.ok found, after)
        else scan? (some mark) (found ++ [c]) after
      | none =>
        if Text.isBlank c then
          (less? after.index c.utf8Size).map fun index => (.ok found, { after with index := index })
        else if b.quotes.isQuote c then some (.error (.unexpectedQuote c), after)
        else scan? none (found ++ [c]) after
termination_by b.unread

/-- Reads the next token. -/
def token? (b : ByteCursor) : Option (Except TokenError (Option (List Char)) × ByteCursor) := do
  let b ← b.mark?
  let left ← b.left?
  match left with
  | [] => return (.ok none, b)
  | first :: _ =>
    let closing := b.quotes.closingFor first
    let inside := if closing.isSome then { b with index := b.index + first.utf8Size } else b
    let (result, b) ← scan? closing [] inside
    return (result.map some, b)

def undo (b : ByteCursor) : ByteCursor := { b with index := b.previous }

/-- The cursor at another number of bytes, which must be a place. -/
def goTo? (b : ByteCursor) (index : Nat) : Option ByteCursor :=
  (textFrom b.text index).map fun _ => { b with index := min index (Text.byteLength b.text) }

/-! ## Cursors at places -/

/-- The cursor at the place where `left` is all that is left. -/
def before (b : ByteCursor) (left : List Char) : ByteCursor :=
  { b with index := Text.byteLength b.text - Text.byteLength left }

variable {b after : ByteCursor} {left rest found : List Char} {closing : Option Char}
  {c d mark : Char}

@[simp] theorem quotes_before (b : ByteCursor) (left : List Char) :
    (b.before left).quotes = b.quotes := rfl

theorem byteLength_le (final : rest <:+ left) : Text.byteLength rest ≤ Text.byteLength left := by
  obtain ⟨front, rfl⟩ := final
  rw [Text.byteLength_append]
  exact Nat.le_add_left _ _

theorem left?_before (final : left <:+ b.text) : (b.before left).left? = some left := by
  obtain ⟨front, whole⟩ := final
  unfold left? before
  rw [← whole, Text.byteLength_append, Nat.add_sub_cancel, textFrom_append]

theorem next?_before_nil (b : ByteCursor) : (b.before []).next? = some none := by
  rw [next?, left?_before List.nil_suffix]
  rfl

theorem next?_before_cons (final : c :: rest <:+ b.text) :
    (b.before (c :: rest)).next? = some (some (c, b.before rest)) := by
  have fits := byteLength_le final
  rw [next?, left?_before final]
  simp only [Option.map_some, List.head?_cons, before, Text.byteLength] at fits ⊢
  congr 4
  omega

/-! ## Tokens -/

theorem scan?_end (read : b.next? = some none) (closing : Option Char) (found : List Char) :
    scan? closing found b = some (ended closing found, b) := by
  rw [scan?]
  split <;> simp_all

theorem scan?_char (read : b.next? = some (some (c, after))) (closing : Option Char)
    (found : List Char) :
    scan? closing found b =
      if c == b.quotes.escape then
        match after.next? with
        | none => none
        | some none => some (ended closing (found ++ [c]), after)
        | some (some (d, later)) => scan? closing (found ++ [d]) later
      else
        match closing with
        | some mark =>
          if c == mark then
            after.left?.map fun left =>
              match left with
              | d :: _ =>
                if Text.isBlank d then (.ok found, after) else (.error (.textAfterClosing d), after)
              | [] => (.ok found, after)
          else scan? (some mark) (found ++ [c]) after
        | none =>
          if Text.isBlank c then
            (less? after.index c.utf8Size).map fun index =>
              (.ok found, { after with index := index })
          else if b.quotes.isQuote c then some (.error (.unexpectedQuote c), after)
          else scan? none (found ++ [c]) after := by
  rw [scan?]
  split
  · simp_all
  · simp_all
  · rename_i char next same
    rw [read] at same
    cases same
    split
    · split <;> simp_all
    · rfl

/-- The reading with what was found in front of its token. -/
def told (b : ByteCursor) (found : List Char) (r : Reading) :
    Except TokenError (List Char) × ByteCursor :=
  (r.result.map (found ++ ·), b.before r.rest)

theorem told_push (b : ByteCursor) (found : List Char) (c : Char) (r : Reading) :
    b.told found (r.push c) = b.told (found ++ [c]) r := by
  obtain ⟨result, rest⟩ := r
  cases result <;> simp [told, Reading.push, Except.map]

theorem told_nil (b : ByteCursor) (r : Reading) : b.told [] r = (r.result, b.before r.rest) := by
  obtain ⟨result, rest⟩ := r
  cases result <;> rfl

section Steps
variable (found)

theorem scan?_escape_end (final : [c] <:+ b.text) (escapes : c = b.quotes.escape) :
    scan? closing found (b.before [c]) = some (ended closing (found ++ [c]), b.before []) := by
  rw [scan?_char (next?_before_cons final)]
  simp [escapes, next?_before_nil]

theorem scan?_escaped (final : c :: d :: rest <:+ b.text) (escapes : c = b.quotes.escape) :
    scan? closing found (b.before (c :: d :: rest)) =
      scan? closing (found ++ [d]) (b.before rest) := by
  rw [scan?_char (next?_before_cons final)]
  simp [escapes, next?_before_cons ((List.suffix_cons c _).trans final)]

/-- Nothing but a blank may follow a closing mark. -/
theorem scan?_closing (final : mark :: rest <:+ b.text) (plain : mark ≠ b.quotes.escape) :
    scan? (some mark) found (b.before (mark :: rest)) =
      some (match rest with
        | d :: _ => if Text.isBlank d then .ok found else .error (.textAfterClosing d)
        | [] => .ok found, b.before rest) := by
  rw [scan?_char (next?_before_cons final)]
  simp only [quotes_before, beq_iff_eq, plain, if_false, beq_self_eq_true, if_true,
    left?_before ((List.suffix_cons mark _).trans final), Option.map_some]
  cases rest with
  | nil => rfl
  | cons d later => by_cases blank : Text.isBlank d = true <;> simp [blank]

theorem scan?_inside (final : c :: rest <:+ b.text) (plain : c ≠ b.quotes.escape)
    (inside : c ≠ mark) :
    scan? (some mark) found (b.before (c :: rest)) =
      scan? (some mark) (found ++ [c]) (b.before rest) := by
  rw [scan?_char (next?_before_cons final)]
  simp [plain, inside]

/-- A blank is given back by going back as many bytes as it has. -/
theorem scan?_blank (final : c :: rest <:+ b.text) (plain : c ≠ b.quotes.escape)
    (blank : Text.isBlank c = true) :
    scan? none found (b.before (c :: rest)) = some (.ok found, b.before (c :: rest)) := by
  have fits := byteLength_le final
  rw [scan?_char (next?_before_cons final)]
  simp only [quotes_before, beq_iff_eq, plain, if_false, blank, if_true]
  simp only [before, Text.byteLength] at fits ⊢
  rw [less?, if_pos (by omega), Option.map_some]
  congr 3
  omega

theorem scan?_quote (final : c :: rest <:+ b.text) (plain : c ≠ b.quotes.escape)
    (solid : Text.isBlank c = false) (quote : b.quotes.isQuote c = true) :
    scan? none found (b.before (c :: rest)) =
      some (.error (.unexpectedQuote c), b.before rest) := by
  rw [scan?_char (next?_before_cons final)]
  simp [plain, solid, quote]

theorem scan?_bare (final : c :: rest <:+ b.text) (plain : c ≠ b.quotes.escape)
    (solid : Text.isBlank c = false) (unquoted : b.quotes.isQuote c = false) :
    scan? none found (b.before (c :: rest)) =
      scan? none (found ++ [c]) (b.before rest) := by
  rw [scan?_char (next?_before_cons final)]
  simp [plain, solid, unquoted]

end Steps

theorem scan?_span (final : left <:+ b.text) (mark : Char) (found : List Char) :
    scan? (some mark) found (b.before left) =
      some (b.told found (quotedSpan b.quotes.escape mark left)) := by
  fun_induction quotedSpan b.quotes.escape mark left generalizing found with
  | case1 => exact scan?_end (next?_before_nil b) _ _
  | case2 c escapes => exact scan?_escape_end found final (by simpa using escapes)
  | case3 c plain closes =>
    cases beq_iff_eq.1 closes
    rw [scan?_closing found final (by simpa using plain)]
    simp [told, Except.map]
  | case4 c plain inside =>
    rw [scan?_inside found final (by simpa using plain) (by simpa using inside),
      scan?_end (next?_before_nil b)]
    rfl
  | case5 c d rest escapes ih =>
    rw [scan?_escaped found final (by simpa using escapes), told_push]
    exact ih ((suffix_cons_cons c d rest).trans final) _
  | case6 c d rest plain closes blank =>
    cases beq_iff_eq.1 closes
    rw [scan?_closing found final (by simpa using plain)]
    simp [told, Except.map, blank]
  | case7 c d rest plain closes solid =>
    cases beq_iff_eq.1 closes
    rw [scan?_closing found final (by simpa using plain)]
    simp [told, Except.map, solid]
  | case8 c d rest plain inside ih =>
    rw [scan?_inside found final (by simpa using plain) (by simpa using inside), told_push]
    exact ih ((List.suffix_cons c _).trans final) _

theorem scan?_word (final : left <:+ b.text) (found : List Char) :
    scan? none found (b.before left) = some (b.told found (bareWord b.quotes left)) := by
  fun_induction bareWord b.quotes left generalizing found with
  | case1 =>
    rw [scan?_end (next?_before_nil b)]
    simp [told, ended, Except.map]
  | case2 c escapes =>
    rw [scan?_escape_end found final (by simpa using escapes)]
    rfl
  | case3 c plain blank =>
    rw [scan?_blank found final (by simpa using plain) blank]
    simp [told, Except.map]
  | case4 c plain solid quote =>
    rw [scan?_quote found final (by simpa using plain) (by simpa using solid) quote]
    rfl
  | case5 c plain solid unquoted =>
    rw [scan?_bare found final (by simpa using plain) (by simpa using solid)
      (by simpa using unquoted), scan?_end (next?_before_nil b)]
    rfl
  | case6 c d rest escapes ih =>
    rw [scan?_escaped found final (by simpa using escapes), told_push]
    exact ih ((suffix_cons_cons c d rest).trans final) _
  | case7 c d rest plain blank =>
    rw [scan?_blank found final (by simpa using plain) blank]
    simp [told, Except.map]
  | case8 c d rest plain solid quote =>
    rw [scan?_quote found final (by simpa using plain) (by simpa using solid) quote]
    rfl
  | case9 c d rest plain solid unquoted ih =>
    rw [scan?_bare found final (by simpa using plain) (by simpa using solid)
      (by simpa using unquoted), told_push]
    exact ih ((List.suffix_cons c _).trans final) _

end ByteCursor

/-! ## Cursors by their bytes -/

open ByteCursor

/-- A cursor by the numbers of bytes in front of its places. -/
def bytes (c : Cursor) : ByteCursor :=
  ⟨c.quotes, c.position.text, c.position.offset, c.previous.offset⟩

variable {c : Cursor} {p : Position} {front rest : List Char}

theorem bytes_goTo (same : p.text = c.position.text) :
    bytes (c.goTo p) = (bytes c).before p.left := by
  have place := p.offset_add_byteLength_left
  rw [same] at place
  simp only [bytes, before, Cursor.goTo, same, ByteCursor.mk.injEq, true_and, and_true]
  omega

theorem before_left (c : Cursor) : (bytes c).before c.left = bytes c :=
  (bytes_goTo (c := c) (p := c.position) rfl).symm

@[simp] theorem left?_bytes (c : Cursor) : (bytes c).left? = some c.left := by
  rw [← before_left]
  exact left?_before (left_suffix c)

/-- The number of bytes grows by those that are passed. -/
theorem before_passed (whole : c.left = front ++ rest) :
    (bytes c).before rest =
      { bytes c with index := (bytes c).index + Text.byteLength front } := by
  have place := c.position.offset_add_byteLength_left
  rw [show c.position.left = front ++ rest from whole, Text.byteLength_append] at place
  simp only [bytes, before, ByteCursor.mk.injEq, true_and, and_true]
  omega

theorem bytes_advanceTo (whole : c.left = front ++ rest) :
    bytes { c with position := c.position.advanceTo rest } = (bytes c).before rest := by
  have left : (c.position.advanceTo rest).left = rest := Position.left_advanceTo whole
  exact (bytes_goTo (Position.text_advance _ _)).trans (congrArg (bytes c).before left)

@[simp] theorem skipBlanks?_bytes (c : Cursor) :
    (bytes c).skipBlanks? = some (bytes c.skipBlanks) := by
  obtain ⟨blanks, -, whole, -⟩ := Text.trimStart_spec c.left
  have counted := congrArg Text.byteLength whole
  rw [Text.byteLength_append] at counted
  rw [Cursor.skipBlanks, bytes_advanceTo whole, before_passed whole, skipBlanks?, left?_bytes]
  simp [less?, counted]

@[simp] theorem mark?_bytes (c : Cursor) : (bytes c).mark? = some (bytes c.mark) := by
  rw [mark?, skipBlanks?_bytes]
  rfl

@[simp] theorem takeRest?_bytes (c : Cursor) :
    (bytes c).takeRest? = some (c.takeRest.1, bytes c.takeRest.2) := by
  have moved := congrArg index (bytes_advanceTo (List.append_nil c.left).symm)
  have text := text_takeRest c
  rw [takeRest?, left?_bytes]
  simp only [bytes, before, Cursor.takeRest, Text.byteLength] at *
  simp [moved, text]

@[simp] theorem word?_bytes (c : Cursor) :
    (bytes c).word? = some (c.word.1, bytes c.word.2) := by
  let solid : Char → Bool := fun d => !Text.isBlank d
  let word := c.mark.left.takeWhile solid
  let rest := c.mark.left.dropWhile solid
  have whole : c.mark.left = word ++ rest := List.takeWhile_append_dropWhile.symm
  have cut : textFrom c.mark.left (Text.byteLength word) = some rest :=
    (congrArg (textFrom · _) whole).trans (textFrom_append word rest)
  have length : c.mark.left.length - rest.length = word.length := by
    rw [whole, List.length_append, Nat.add_sub_cancel]
  have front : c.mark.left.take word.length = word := by
    rw [whole, List.take_left]
  have moved : bytes c.word.2 =
      { bytes c.mark with index := (bytes c.mark).index + Text.byteLength word } := by
    rw [← before_passed whole, ← bytes_advanceTo whole, Position.advanceTo, ← Cursor.left, length]
    rfl
  rw [word?, mark?_bytes]
  simp only [Option.bind_eq_bind, Option.bind_some, left?_bytes]
  rw [cut, Option.bind_some, length, front, moved]
  rfl

/-- The scan of a token finds what reading it by its characters does. -/
theorem scan?_bytes {first : Char} {r : Reading} (left : c.left = first :: rest)
    (read : firstToken c.quotes (first :: rest) = some r) :
    scan? (c.quotes.closingFor first) []
        (if (c.quotes.closingFor first).isSome then
          { bytes c with index := (bytes c).index + first.utf8Size } else bytes c) =
      some (r.result, bytes { c with position := c.position.advanceTo r.rest }) := by
  obtain ⟨front, whole⟩ := firstToken_rest_suffix read
  have final : first :: rest <:+ (bytes c).text := left ▸ left_suffix c
  have inside : (bytes c).before rest =
      { bytes c with index := (bytes c).index + first.utf8Size } :=
    before_passed (show c.left = [first] ++ rest from left)
  have outside : (bytes c).before (first :: rest) = bytes c := left ▸ before_left c
  rw [bytes_advanceTo (left.trans whole.symm), ← told_nil, ← inside]
  simp only [firstToken] at read
  cases opens : c.quotes.closingFor first with
  | some mark =>
    rw [opens] at read
    cases read
    exact scan?_span ((List.suffix_cons first rest).trans final) mark []
  | none =>
    rw [opens] at read
    cases read
    rw [← outside]
    exact scan?_word final []

@[simp] theorem token?_bytes (c : Cursor) :
    (bytes c).token? = some (c.token.1, bytes c.token.2) := by
  rw [token?, mark?_bytes, Cursor.token]
  simp only [Option.bind_eq_bind, Option.bind_some, left?_bytes]
  cases left : c.mark.left with
  | nil => rfl
  | cons first rest =>
    have read : ∃ r, firstToken c.mark.quotes (first :: rest) = some r := by
      simp only [firstToken]
      split <;> exact ⟨_, rfl⟩
    obtain ⟨r, read⟩ := read
    rw [read]
    exact congrArg (Option.bind · fun (result, b) => some (result.map some, b))
      (scan?_bytes left read)

theorem undo_bytes (within : c.previous.text = c.position.text) :
    (bytes c).undo = bytes c.undo := by
  simp [bytes, ByteCursor.undo, Cursor.undo, within]

theorem goTo?_bytes (within : p.text = c.position.text) :
    (bytes c).goTo? p.offset = some (bytes (c.goTo p)) := by
  have cut : textFrom c.position.text p.offset = some p.left := by
    rw [← within]
    exact left?_bytes (c.goTo p)
  have inside := byteLength_of_textFrom cut
  have short : min p.offset (Text.byteLength c.position.text) = p.offset := by omega
  simp only [goTo?, bytes, cut, short, Option.map_some, Cursor.goTo, within]

end ChatCommands.ByteOffsets
