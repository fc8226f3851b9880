import ChatCommands.Proofs.CooldownWindows

/-! Dropping idle windows cannot be told from keeping them. Two runs make the same calls, and one of
them is cleaned up between calls. A window that is dropped is over, and one that is over begins anew
with the next attempt, just as a window that is missing does. So at every key the two runs have the
same window, or the run that was cleaned up has none where the other has one that is over (`Hidden`).
Calls and clean-ups keep this as long as the clock does not run backwards, and under it every call is
told the same. -/
namespace ChatCommands.InvisibleEviction
open Cooldowns CooldownWindows

/-- What is done with cooldowns. -/
inductive Act where
  | call (call : Call)
  | cleanUp (retention : Decimal.Duration) (now : Instant)

def Act.now : Act → Instant
  | .call asked => asked.now
  | .cleanUp _ time => time

def calls : List Act → List Call
  | [] => []
  | .call call :: rest => call :: calls rest
  | .cleanUp _ _ :: rest => calls rest

/-- What becomes known of a call. -/
structure Answer where
  /-- The denial that the caller is told, if there is one. -/
  told : Option Denial
  /-- The denials that the journal is told. -/
  noted : List Denial

def answer (denials : List Denial) : Answer := ⟨longest? denials, denials⟩

/-- The answers to calls where nothing is cleaned up. -/
def answers (rules : String → List Cooldown) : Cooldowns → List Call → List Answer
  | _, [] => []
  | cd, call :: rest =>
    let (next, denials) := cd.acquire call.command (rules call.command) call.ctx call.now
    answer denials :: answers rules next rest

/-- The answers to calls with clean-ups between them. -/
def answersAmid (rules : String → List Cooldown) : Cooldowns → List Act → List Answer
  | _, [] => []
  | cd, .call call :: rest =>
    let (next, denials) := cd.acquire call.command (rules call.command) call.ctx call.now
    answer denials :: answersAmid rules next rest
  | cd, .cleanUp retention now :: rest => answersAmid rules (cd.cleanup retention now).1 rest

variable {rules : String → List Cooldown} {rule : Cooldown} {w : Window} {now later : Instant}
  {kept swept : Cooldowns}

/-! ## One window -/

/-- The next attempt begins the window anew. -/
def Over (now : Instant) (w : Window) : Prop := Instant.since now w.started ≥ w.per

theorem over_later (past : Over now w) (order : now ≤ later) : Over later w := by
  have longer : (now - w.started).toNat ≤ (later - w.started).toNat :=
    Int.toNat_le_toNat (Int.sub_le_sub_right order w.started)
  exact Nat.le_trans past longer

theorem over_of_isIdle {retention : Decimal.Duration} (idle : w.isIdle now retention = true) :
    Over now w := by
  obtain ⟨ended, -⟩ := Bool.and_eq_true_iff.1 idle
  simpa [Over] using ended

theorem attempt_per (w : Window) (rate : Nat) (now : Instant) :
    (w.attempt rate now).1.per = w.per := by
  have renewed : (w.renew now).per = w.per := by
    unfold Window.renew
    split <;> rfl
  exact renewed

/-- An attempt at a window that is over counts as at one that is missing. -/
theorem attempt_of_over (past : Over now w) (rate : Nat) :
    w.attempt rate now = (Window.fresh now w.per).attempt rate now := by
  have begun : w.renew now = { w with started := now, count := 0 } := if_pos past
  have fresh : (Window.fresh now w.per).renew now = Window.fresh now w.per := by
    unfold Window.renew Window.fresh
    split <;> rfl
  unfold Window.attempt
  rw [begun, fresh]
  rfl

/-- What is found at a key in a run that keeps all windows, and in one that was cleaned up. -/
inductive Alike (now : Instant) : Option Window → Option Window → Prop where
  | same (window : Option Window) : Alike now window window
  | dropped {w : Window} (past : Over now w) : Alike now (some w) none

theorem attempt_alike {window other : Option Window} (alike : Alike now window other)
    (length : ∀ w, window = some w → w.per = rule.per) :
    (window.getD (.fresh now rule.per)).attempt rule.rate now =
      (other.getD (.fresh now rule.per)).attempt rule.rate now := by
  cases alike with
  | same => rfl
  | dropped past =>
    rw [Option.getD_some, Option.getD_none, ← length _ rfl]
    exact attempt_of_over past rule.rate

/-! ## All windows -/

/-- Windows are as long as the rules they belong to. -/
def Lengths (rules : String → List Cooldown) (cd : Cooldowns) : Prop :=
  ∀ key w rule, cd.windows.get? key = some w → (rules key.command)[key.rule]? = some rule →
    w.per = rule.per

/-- The two runs at a time. -/
structure Hidden (rules : String → List Cooldown) (now : Instant) (kept swept : Cooldowns) :
    Prop where
  alike : ∀ key, Alike now (kept.windows.get? key) (swept.windows.get? key)
  lengths : Lengths rules kept
  unique : swept.windows.Unique

theorem hidden_start (rules : String → List Cooldown) (now : Instant) : Hidden rules now {} {} :=
  ⟨fun _ => .same none, nofun, .nil⟩

theorem hidden_later (hidden : Hidden rules now kept swept) (order : now ≤ later) :
    Hidden rules later kept swept := by
  refine ⟨fun key => ?_, hidden.lengths, hidden.unique⟩
  generalize kept.windows.get? key = window, swept.windows.get? key = other, hidden.alike key = alike
  cases alike with
  | same => exact .same _
  | dropped past => exact .dropped (over_later past order)

theorem unique_of_attempts (command : String) (ctx : Context) (now : Instant)
    (declared : List Cooldown) {cd : Cooldowns} (unique : cd.windows.Unique) (position : Nat) :
    (attemptAll command ctx now cd position declared).1.windows.Unique := by
  induction declared generalizing cd position with
  | nil => exact unique
  | cons rule rest ih =>
    have kept : (cd.attempt ⟨command, position, rule.bucket.key ctx⟩ rule now).1.windows.Unique :=
      Table.unique_set unique _ _
    have next := ih kept (position + 1)
    rw [attemptAll]
    dsimp only
    split <;> exact next

theorem lengths_of_call (lengths : Lengths rules kept) (call : Call) :
    Lengths rules (kept.acquire call.command (rules call.command) call.ctx call.now).1 := by
  intro key w rule found declared
  rw [acquire, window_after_attempts] at found
  cases counts : ruleAt call.command call.ctx 0 (rules call.command) key with
  | none =>
    rw [counts] at found
    exact lengths key w rule found declared
  | some other =>
    rw [counts] at found
    obtain ⟨here, alsoDeclared, -⟩ := (ruleAt_eq_some_iff _ _ _).1 counts
    obtain rfl : rule = other := Option.some.inj (declared.symm.trans (here ▸ alsoDeclared))
    rw [← Option.some.inj found, attempt_per]
    cases before : kept.windows.get? key with
    | none => rfl
    | some old => exact lengths key old rule before declared

theorem hidden_of_call (call : Call) (hidden : Hidden rules call.now kept swept) :
    Hidden rules call.now (kept.acquire call.command (rules call.command) call.ctx call.now).1
      (swept.acquire call.command (rules call.command) call.ctx call.now).1 := by
  refine ⟨fun key => ?_, lengths_of_call hidden.lengths call,
    unique_of_attempts _ _ _ _ hidden.unique 0⟩
  rw [acquire, acquire, window_after_attempts, window_after_attempts]
  cases counts : ruleAt call.command call.ctx 0 (rules call.command) key with
  | none => exact hidden.alike key
  | some rule =>
    obtain ⟨here, declared, -⟩ := (ruleAt_eq_some_iff _ _ _).1 counts
    have long (w : Window) (found : kept.windows.get? key = some w) : w.per = rule.per :=
      hidden.lengths key w rule found (here ▸ declared)
    simp only [attempt_alike (hidden.alike key) long]
    exact .same _

/-- A call is told the same in both runs. -/
theorem denials_of_hidden (call : Call) (hidden : Hidden rules call.now kept swept) :
    (kept.acquire call.command (rules call.command) call.ctx call.now).2 =
      (swept.acquire call.command (rules call.command) call.ctx call.now).2 := by
  rw [acquire, acquire, denials_eq_verdicts, denials_eq_verdicts]
  refine congrArg List.reduceOption (List.map_congr_left ?_)
  rintro ⟨rule, position⟩ member
  have declared : (rules call.command)[position]? = some rule :=
    List.mem_zipIdx_iff_getElem?.1 member
  have same := attempt_alike (hidden.alike ⟨call.command, position, rule.bucket.key call.ctx⟩)
    fun w found => hidden.lengths _ w rule found declared
  simp only [Cooldowns.attempt, same]

/-- A clean-up drops only windows that are over. -/
theorem hidden_of_cleanup (hidden : Hidden rules now kept swept) (retention : Decimal.Duration) :
    Hidden rules now kept (swept.cleanup retention now).1 := by
  refine ⟨fun key => ?_, hidden.lengths, Table.unique_filter hidden.unique _⟩
  simp only [cleanup, Table.get?_filter hidden.unique]
  generalize kept.windows.get? key = window, swept.windows.get? key = other, hidden.alike key = alike
  cases alike with
  | dropped past => exact .dropped past
  | same =>
    cases window with
    | none => exact .same none
    | some w =>
      cases idle : w.isIdle now retention with
      | true => simpa [Option.filter, idle] using Alike.dropped (over_of_isIdle idle)
      | false => simpa [Option.filter, idle] using Alike.same (some w)

/-! ## Runs -/

/-- Two runs that are alike at a time before all that is still to be done give the same answers. -/
theorem answers_of_hidden {acts : List Act} (hidden : Hidden rules now kept swept)
    (ahead : ∀ act ∈ acts, now ≤ act.now) (inOrder : acts.Pairwise (·.now ≤ ·.now)) :
    answersAmid rules swept acts = answers rules kept (calls acts) := by
  induction acts generalizing now kept swept with
  | nil => rfl
  | cons act rest ih =>
    obtain ⟨after, restInOrder⟩ := List.pairwise_cons.1 inOrder
    have here := hidden_later hidden (ahead act List.mem_cons_self)
    cases act with
    | call call =>
      have same := denials_of_hidden call here
      have onward := ih (hidden_of_call call here) after restInOrder
      simp only [answersAmid, calls, answers, same, onward]
    | cleanUp retention time => exact ih (hidden_of_cleanup here retention) after restInOrder

/-- Whatever clean-ups come between the calls of a run, with any retention, every call is told what
it is told without them, as long as the readings of the clock do not decrease. -/
theorem cleanups_change_no_answer (rules : String → List Cooldown) (acts : List Act)
    (inOrder : acts.Pairwise (·.now ≤ ·.now)) :
    answersAmid rules {} acts = answers rules {} (calls acts) := by
  cases acts with
  | nil => rfl
  | cons act rest =>
    refine answers_of_hidden (hidden_start rules act.now) (fun other member => ?_) inOrder
    rcases List.mem_cons.1 member with rfl | later
    · exact Int.le_refl _
    · exact (List.pairwise_cons.1 inOrder).1 other later

/-- The window of the first two calls is over and dropped before the third, which begins another one.
The fourth call falls into that, and waits as long as if the first had been kept. -/
theorem dropped_window_counts_as_over :
    let ctx : Context :=
      { author := ⟨1, "", false, [], Permissions.none⟩
        origin := ⟨.direct, none, { id := 9, name := "" }⟩
        content := "", responder := .discard, directory := .ofLists [] [] [] [] }
    let rules (command : String) : List Cooldown := if command = "roll" then [⟨1, 10, .user⟩] else []
    let call (now : Instant) : Act := .call ⟨"roll", ctx, now⟩
    let acts : List Act := [call 0, call 4, .cleanUp 5 12, call 13, .cleanUp 0 14, call 16]
    acts.Pairwise (·.now ≤ ·.now) ∧
      ((after rules (calls acts)).cleanup 5 30).2 = 1 ∧
      ((answersAmid rules {} acts).map fun a => a.told.map (·.wait)) = [none, some 6, none, some 7] ∧
      answersAmid rules {} acts = answers rules {} (calls acts) := by
  intro ctx rules call acts
  have inOrder : acts.Pairwise (·.now ≤ ·.now) := by decide
  exact ⟨inOrder, by decide, by decide, cleanups_change_no_answer rules acts inOrder⟩

end ChatCommands.InvisibleEviction
