import ChatCommands.Proofs.ByteOffsets
import ChatCommands.Proofs.TokenStreams

/-! Runs of a cursor. Whoever holds a cursor may read with it, step back over the last read, and put
it back to any place it has had. A run is told twice, by characters and by numbers of bytes, and the
two give the same answers: the numbers are always places, and nothing a cursor does with them fails.
So a read goes forward, and after stepping back it is read again as before. -/
namespace ChatCommands.CursorRuns
open Line LazyTokens ByteOffsets TokenStreams TypedArguments

/-- The reads that can be stepped back over. -/
inductive Read where
  | word
  | token
  | rest

inductive Step where
  | skipBlanks
  | read (r : Read)
  | undo
  /-- Back to the place from some steps ago. -/
  | goTo (ago : Nat)

/-- What is told of a step. -/
inductive Answer where
  | skipped (any : Bool)
  | text (cs : List Char)
  | token (result : Except TokenError (Option (List Char)))
  | moved

/-- A cursor and the places it has had, the latest first. -/
structure Visit (Holder Place : Type) where
  cursor : Holder
  places : List Place

/-! ## Runs by characters -/

def Read.on (r : Read) (c : Cursor) : Answer × Cursor :=
  match r with
  | .word => (.text c.word.1, c.word.2)
  | .token => (.token c.token.1, c.token.2)
  | .rest => (.text c.takeRest.1, c.takeRest.2)

def Step.on (places : List Position) (c : Cursor) : Step → Answer × Cursor
  | .skipBlanks => (.skipped c.atBlank, c.skipBlanks)
  | .read r => r.on c
  | .undo => (.moved, c.undo)
  | .goTo ago => (.moved, c.goTo (places.getD ago c.position))

def start (q : QuoteSet) (text : String) : Visit Cursor Position :=
  ⟨.start q text, [.start text.toList]⟩

def run : List Step → Visit Cursor Position → List Answer × Visit Cursor Position
  | [], v => ([], v)
  | s :: steps, v =>
    let (answer, c) := s.on v.places v.cursor
    let (answers, last) := run steps ⟨c, c.position :: v.places⟩
    (answer :: answers, last)

/-! ## Runs by bytes -/

def Read.onBytes? (r : Read) (b : ByteCursor) : Option (Answer × ByteCursor) :=
  match r with
  | .word => b.word?.map fun (cs, after) => (.text cs, after)
  | .token => b.token?.map fun (result, after) => (.token result, after)
  | .rest => b.takeRest?.map fun (cs, after) => (.text cs, after)

def Step.onBytes? (places : List Nat) (b : ByteCursor) : Step → Option (Answer × ByteCursor)
  | .skipBlanks => b.skipBlanks?.map fun after => (.skipped (b.index < after.index), after)
  | .read r => r.onBytes? b
  | .undo => some (.moved, b.undo)
  | .goTo ago => (b.goTo? (places.getD ago b.index)).map fun after => (.moved, after)

def startBytes (q : QuoteSet) (text : String) : Visit ByteCursor Nat :=
  ⟨⟨q, text.toList, 0, 0⟩, [0]⟩

def runBytes? : List Step → Visit ByteCursor Nat → Option (List Answer × Visit ByteCursor Nat)
  | [], v => some ([], v)
  | s :: steps, v => do
    let (answer, b) ← s.onBytes? v.places v.cursor
    let (answers, last) ← runBytes? steps ⟨b, b.index :: v.places⟩
    return (answer :: answers, last)

/-- A visit by numbers of bytes. -/
def Visit.bytes (v : Visit Cursor Position) : Visit ByteCursor Nat :=
  ⟨ByteOffsets.bytes v.cursor, v.places.map Position.offset⟩

/-! ## Reads go forward -/

variable {q : QuoteSet} {cs passed : List Char} {text : String} {c next : Cursor}
  {v : Visit Cursor Position}

/-- What lies between a cursor and a later one in its text. -/
structure Passes (c next : Cursor) (passed : List Char) : Prop where
  left : c.left = passed ++ next.left
  offset : next.offset = c.offset + Text.byteLength passed

theorem passes_of_text (same : next.position.text = c.position.text)
    (left : c.left = passed ++ next.left) : Passes c next passed := by
  have before := c.position.offset_add_byteLength_left
  have after := next.position.offset_add_byteLength_left
  rw [same] at after
  rw [show c.position.left = passed ++ next.position.left from left,
    Text.byteLength_append] at before
  refine ⟨left, ?_⟩
  unfold Cursor.offset
  omega

theorem passes_skipBlanks (c : Cursor) :
    ∃ blanks, (∀ d ∈ blanks, Text.isBlank d = true) ∧ Passes c c.skipBlanks blanks ∧
      ∀ d, c.skipBlanks.left.head? = some d → Text.isBlank d = false := by
  obtain ⟨blanks, blank, whole, stops⟩ := Text.trimStart_spec c.left
  have left : c.skipBlanks.left = Text.trimStart c.left := Cursor.left_mark c
  rw [← left] at whole stops
  exact ⟨blanks, blank, passes_of_text (text_skipBlanks c) whole, stops⟩

theorem atBlank_eq (c : Cursor) : c.atBlank = decide (c.offset < c.skipBlanks.offset) := by
  obtain ⟨blanks, blank, ⟨left, offset⟩, stops⟩ := passes_skipBlanks c
  unfold Cursor.atBlank
  rw [left, offset]
  cases blanks with
  | nil =>
    rw [List.nil_append]
    cases ahead : c.skipBlanks.left with
    | nil => simp [Text.byteLength]
    | cons d rest => simp [Text.byteLength, stops d (by rw [ahead]; rfl)]
  | cons d rest =>
    have wide := d.utf8Size_pos
    simp only [List.cons_append, blank d List.mem_cons_self, Text.byteLength]
    exact (decide_eq_true (by omega)).symm

theorem text_read (r : Read) (c : Cursor) : (r.on c).2.position.text = c.position.text := by
  cases r with
  | word => exact (Position.text_advance _ _).trans (text_skipBlanks c)
  | token => exact text_token (c := c) rfl
  | rest => exact text_takeRest c

theorem quotes_read (r : Read) (c : Cursor) : (r.on c).2.quotes = c.quotes := by
  cases r with
  | word | rest => rfl
  | token =>
    simp only [Read.on]
    unfold Cursor.token
    simp only []
    split <;> rfl

theorem left_read_suffix (r : Read) (c : Cursor) : (r.on c).2.left <:+ c.left := by
  have mark : c.mark.left <:+ c.left := by
    rw [Cursor.left_mark]
    exact List.dropWhile_suffix _
  cases r with
  | word => exact (List.drop_suffix _ _).trans mark
  | token =>
    simp only [Read.on]
    cases read : nextToken c.quotes c.left with
    | none =>
      rw [Cursor.token_of_none read]
      exact mark
    | some r =>
      obtain ⟨next, token, -, left⟩ := Cursor.token_of_some read
      rw [token, left]
      exact (firstToken_rest_suffix read).trans (List.dropWhile_suffix _)
  | rest => exact List.drop_suffix _ _

theorem passes_read (r : Read) (c : Cursor) : ∃ passed, Passes c (r.on c).2 passed := by
  obtain ⟨passed, whole⟩ := left_read_suffix r c
  exact ⟨passed, passes_of_text (text_read r c) whole.symm⟩

/-- A token, and also the failure to read one, takes at least one character. -/
theorem passes_token (present : c.token.1 ≠ .ok none) :
    ∃ passed, passed ≠ [] ∧ Passes c c.token.2 passed := by
  obtain ⟨passed, passes⟩ := passes_read .token c
  refine ⟨passed, fun nothing => ?_, passes⟩
  have whole := passes.left
  cases read : nextToken c.quotes c.left with
  | none => exact present (by rw [Cursor.token_of_none read])
  | some r =>
    obtain ⟨next, token, -, left⟩ := Cursor.token_of_some read
    have shorter := length_nextToken read
    simp only [Read.on, token, nothing, List.nil_append, left] at whole
    rw [whole] at shorter
    exact Nat.lt_irrefl _ shorter

/-! ## Places in one text -/

/-- A cursor and the places it can be put back to are in one text, and it reads with one set of
marks. -/
structure Within (q : QuoteSet) (cs : List Char) (v : Visit Cursor Position) : Prop where
  quotes : v.cursor.quotes = q
  position : v.cursor.position.text = cs
  previous : v.cursor.previous.text = cs
  places : ∀ p ∈ v.places, p.text = cs

theorem within_start (q : QuoteSet) (text : String) : Within q text.toList (start q text) :=
  ⟨rfl, rfl, rfl, by simp [start, Position.start, Position.text]⟩

theorem undo_token (c : Cursor) : c.token.2.undo = c.mark := by
  unfold Cursor.token
  simp only []
  split <;> rfl

theorem text_previous_read (r : Read) (c : Cursor) :
    (r.on c).2.previous.text = c.position.text := by
  cases r with
  | word => exact text_skipBlanks c
  | token =>
    have began : c.token.2.previous = c.mark.position := congrArg Cursor.position (undo_token c)
    exact (congrArg Position.text began).trans (text_skipBlanks c)
  | rest => rfl

theorem Within.text_getD (within : Within q cs v) (ago : Nat) :
    (v.places.getD ago v.cursor.position).text = cs := by
  rw [List.getD_eq_getElem?_getD]
  cases there : v.places[ago]? with
  | none => exact within.position
  | some p => exact within.places p (List.mem_of_getElem? there)

theorem within_step (within : Within q cs v) (s : Step) :
    Within q cs ⟨(s.on v.places v.cursor).2,
      (s.on v.places v.cursor).2.position :: v.places⟩ := by
  have ⟨quotes, position, previous, places⟩ := within
  suffices there : (s.on v.places v.cursor).2.quotes = q ∧
      (s.on v.places v.cursor).2.position.text = cs ∧
      (s.on v.places v.cursor).2.previous.text = cs from
    ⟨there.1, there.2.1, there.2.2, List.forall_mem_cons.2 ⟨there.2.1, places⟩⟩
  cases s with
  | skipBlanks => exact ⟨quotes, (text_skipBlanks _).trans position, previous⟩
  | read r =>
    exact ⟨(quotes_read r _).trans quotes, (text_read r _).trans position,
      (text_previous_read r _).trans position⟩
  | undo => exact ⟨quotes, previous, previous⟩
  | goTo ago => exact ⟨quotes, within.text_getD ago, previous⟩

theorem onBytes?_read (r : Read) (c : Cursor) :
    r.onBytes? (bytes c) = some ((r.on c).1, bytes (r.on c).2) := by
  cases r <;> simp [Read.onBytes?, Read.on]

theorem onBytes?_step (within : Within q cs v) (s : Step) :
    s.onBytes? v.bytes.places v.bytes.cursor =
      some ((s.on v.places v.cursor).1, bytes (s.on v.places v.cursor).2) := by
  cases s with
  | skipBlanks =>
    rw [Step.on, atBlank_eq]
    exact congrArg (Option.map _) (skipBlanks?_bytes v.cursor)
  | read r => exact onBytes?_read r v.cursor
  | undo =>
    have undone := undo_bytes (within.previous.trans within.position.symm)
    exact congrArg (fun b => some (Answer.moved, b)) undone
  | goTo ago =>
    have there := goTo?_bytes ((within.text_getD ago).trans within.position.symm)
    have place : v.bytes.places.getD ago v.bytes.cursor.index =
        (v.places.getD ago v.cursor.position).offset := by
      simp [Visit.bytes, bytes, List.getD_eq_getElem?_getD, Option.getD_map]
    rw [Step.onBytes?, place]
    exact congrArg (Option.map _) there

/-- A run by bytes does not fail; it gives the answers of the run by characters, and ends where that
does. -/
theorem runBytes?_eq (within : Within q cs v) (steps : List Step) :
    runBytes? steps v.bytes = some ((run steps v).1, (run steps v).2.bytes) ∧
      Within q cs (run steps v).2 := by
  induction steps generalizing v with
  | nil => exact ⟨rfl, within⟩
  | cons s steps ih =>
    obtain ⟨later, still⟩ := ih (within_step within s)
    refine ⟨?_, still⟩
    rw [runBytes?, onBytes?_step within s]
    exact congrArg (Option.bind · fun (answers, last) =>
      some ((s.on v.places v.cursor).1 :: answers, last)) later

/-! ## Reading again -/

theorem mark_mark (c : Cursor) : c.mark.mark = c.mark := by
  have stays : c.mark.position.advanceTo (Text.trimStart c.mark.left) = c.mark.position := by
    rw [Cursor.left_mark, trimStart_trimStart, ← Cursor.left_mark]
    simp [Position.advanceTo, Position.advance, Cursor.left]
  rw [Cursor.mark, Cursor.skipBlanks, stays]
  rfl

/-- After stepping back, a read gives the same answer and the same cursor. -/
theorem read_again (r : Read) (c : Cursor) : r.on (r.on c).2.undo = r.on c := by
  cases r with
  | word =>
    have back : c.word.2.undo = c.mark := rfl
    have again : c.mark.word = c.word := by rw [Cursor.word, mark_mark, Cursor.word]
    simp only [Read.on, back, again]
  | token =>
    have again : c.mark.token = c.token := by rw [Cursor.token, mark_mark, Cursor.token]
    simp only [Read.on, undo_token, again]
  | rest => rfl

/-! ## All runs -/

/-- What holds wherever a run has brought its cursor. -/
structure WellPlaced (q : QuoteSet) (text : String) (c : Cursor) : Prop where
  index : String.Pos.Raw.IsValid text ⟨c.offset⟩
  previous : String.Pos.Raw.IsValid text ⟨c.previous.offset⟩
  skips : ∃ blanks, Passes c c.skipBlanks blanks
  reads : ∀ r : Read, ∃ passed, Passes c (r.on c).2 passed
  /-- A token takes at least one character, and so does the failure to read one. -/
  token : c.token.1 ≠ .ok none → ∃ passed, passed ≠ [] ∧ Passes c c.token.2 passed
  /-- A tokenizer gives the tokens of the text that is left, behind them the failure to read one more
  if there is one, and nothing after that. -/
  gives : ∀ n, (Tokenizer.mk c false).answer n = (items q c.left)[n]?
  ends : (items q c.left).length ≤ text.toList.length
  again : ∀ r : Read, r.on (r.on c).2.undo = r.on c

theorem isValid_offset {p : Position} {text : String} (within : p.text = text.toList) :
    String.Pos.Raw.IsValid text ⟨p.offset⟩ := by
  refine (textFrom_isSome_iff text p.offset).1 (Option.isSome_iff_exists.2 ⟨p.left, ?_⟩)
  exact textFrom_eq_some_iff.2 ⟨p.passed.reverse, within.symm, Text.byteLength_reverse p.passed⟩

/-- Whatever is done with a cursor, its numbers of bytes are places in the text and nothing that is
done with them fails, a read goes forward, and it is read again as before after stepping back. -/
theorem runs_stay_well_placed (q : QuoteSet) (text : String) (steps : List Step) :
    let (answers, last) := run steps (start q text)
    runBytes? steps (startBytes q text) = some (answers, last.bytes) ∧
      WellPlaced q text last.cursor := by
  obtain ⟨byBytes, quotes, position, previous, -⟩ := runBytes?_eq (within_start q text) steps
  have skips (c : Cursor) : ∃ blanks, Passes c c.skipBlanks blanks := by
    obtain ⟨blanks, -, passes, -⟩ := passes_skipBlanks c
    exact ⟨blanks, passes⟩
  have gives := answer_eq (run steps (start q text)).2.cursor
  rw [quotes] at gives
  have few := length_items_le q (run steps (start q text)).2.cursor.left
  exact ⟨byBytes, isValid_offset position, isValid_offset previous, skips _,
    fun r => passes_read r _, passes_token, gives,
    few.trans (position ▸ (left_suffix _).length_le), fun r => read_again r _⟩

/-- Two words with characters of two bytes, the second between marks of two bytes. -/
example : (run [.read .token, .read .token] (start .standard "é «ü x»")).2.places.map
    Position.offset = [11, 2, 0] := rfl

end ChatCommands.CursorRuns
