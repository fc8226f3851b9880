import ChatCommands.Limit.Cooldown
import Mathlib.Data.List.Induction
import Mathlib.Data.List.ReduceOption

/-! Cooldowns agree with windows that count without a bound. The reference
(`Tally`) is kept apart for each command, rule and bucket and sees only the
attempts that fall there, so agreement says three things at once: the bound on a
window's count changes no verdict, windows that are begun anew late count as if
they had been begun on time, and no other command, rule or bucket has any
influence. `windows_match` is the invariant of a run of attempts. -/
namespace ChatCommands.CooldownWindows
open Cooldowns

/-! ## The reference -/

/-- A window with everything that was attempted in it. -/
structure Tally where
  opened : Instant
  count : Nat

/-- The window that an attempt falls into: the last one, or a new one when the last is over. -/
def Tally.next (per : Decimal.Duration) (last : Option Tally) (now : Instant) : Tally :=
  match last with
  | none => ⟨now, 1⟩
  | some t => if t.opened + per ≤ now then ⟨now, 1⟩ else ⟨t.opened, t.count + 1⟩

def tally (per : Decimal.Duration) (attempts : List Instant) : Option Tally :=
  attempts.foldl (fun last now => some (Tally.next per last now)) none

/-- How long the last attempt in a window has to wait, if it was one too many. -/
def Tally.refusal (rule : Cooldown) (t : Tally) (now : Instant) : Option Int :=
  if t.count > rule.rate then some (t.opened + rule.per - now) else none

/-- How long an attempt after others has to wait, if there were too many in its window. -/
def refusal (rule : Cooldown) (earlier : List Instant) (now : Instant) : Option Int :=
  (Tally.next rule.per (tally rule.per earlier) now).refusal rule now

structure Call where
  command : String
  ctx : Context
  now : Instant

/-- Whether a call falls under the rule and into the bucket of a key. -/
def counts (rules : String → List Cooldown) (key : WindowKey) (call : Call) : Bool :=
  key.command = call.command ∧
    ((rules call.command)[key.rule]?.map fun rule => rule.bucket.key call.ctx) = some key.bucket

/-- The attempts that calls make at one rule and bucket. -/
def attempts (rules : String → List Cooldown) (calls : List Call) (key : WindowKey) :
    List Instant :=
  (calls.filter (counts rules key)).map (·.now)

def after (rules : String → List Cooldown) (calls : List Call) : Cooldowns :=
  calls.foldl (fun cd call => (cd.acquire call.command (rules call.command) call.ctx call.now).1) {}

/-! ## One attempt at one window -/

/-- A window and its reference: the count is exact up to one above the rate. -/
def Matches (rule : Cooldown) : Option Window → Option Tally → Prop
  | none, none => True
  | some w, some t =>
    w.started = t.opened ∧ w.per = rule.per ∧ w.count = min t.count (rule.rate + 1)
  | _, _ => False

theorem le_toNat_sub_iff {now started : Int} (order : started ≤ now) (per : Nat) :
    (now - started).toNat ≥ per ↔ started + per ≤ now := by omega

/-- A window is over at the time at which its reference says so. -/
theorem renew_of_match {w : Window} {t : Tally} (started : w.started = t.opened)
    (length : w.per = per) (order : t.opened ≤ now) :
    w.renew now =
      if t.opened + per ≤ now then { w with started := now, count := 0 } else w := by
  have ended : Instant.since now t.opened ≥ per ↔ t.opened + per ≤ now :=
    le_toNat_sub_iff order per
  simp only [Window.renew, started, length, ended]

theorem capped_count {rate : Nat} (small : rate < Window.maxCount) (count : Nat) :
    min (min (min count (rate + 1) + 1) Window.maxCount) (min (rate + 1) Window.maxCount) =
      min (count + 1) (rate + 1) := by
  omega

/-- The wait inside a window does not pass its end. -/
theorem wait_eq {now opened : Int} {per : Nat} (order : opened ≤ now) (inside : now ≤ opened + per) :
    ((per - (now - opened).toNat : Nat) : Int) = opened + per - now := by
  omega

/-- A count that stops one above the rate and one without a bound give the same verdict. -/
theorem verdict_matches {rule : Cooldown} {w : Window} {t : Tally} {now : Instant}
    (same : Matches rule (some w) (some t)) (order : t.opened ≤ now)
    (inside : now ≤ t.opened + rule.per) :
    (if w.count > rule.rate then some (w.per - Instant.since now w.started) else none).map
      (fun wait : Decimal.Duration => (wait : Int)) = t.refusal rule now := by
  obtain ⟨started, length, count⟩ := same
  have exceeds : w.count > rule.rate ↔ t.count > rule.rate := by omega
  by_cases tooMany : t.count > rule.rate
  · rw [if_pos (exceeds.2 tooMany), Tally.refusal, if_pos tooMany, started, length]
    exact congrArg some (wait_eq order inside)
  · rw [if_neg (exceeds.not.2 tooMany), Tally.refusal, if_neg tooMany]
    rfl

theorem attempt_matches {rule : Cooldown} {w : Window} {t : Tally}
    (small : rule.rate < Window.maxCount) (same : Matches rule (some w) (some t))
    (order : t.opened ≤ now) :
    Matches rule (some (w.attempt rule.rate now).1) (some (Tally.next rule.per (some t) now)) ∧
      (w.attempt rule.rate now).2.map (fun wait : Decimal.Duration => (wait : Int)) =
        (Tally.next rule.per (some t) now).refusal rule now := by
  have renewed := renew_of_match same.1 same.2.1 order
  obtain ⟨started, length, count⟩ := same
  by_cases ended : t.opened + rule.per ≤ now
  · have next : Tally.next rule.per (some t) now = ⟨now, 1⟩ := if_pos ended
    rw [if_pos ended] at renewed
    rw [next, Window.attempt, renewed]
    have counted : Matches rule (some { w with
        started := now
        count := min (min (0 + 1) Window.maxCount) (min (rule.rate + 1) Window.maxCount)
        lastUsed := now }) (some ⟨now, 1⟩) :=
      ⟨rfl, length, by simpa using capped_count small 0⟩
    exact ⟨counted, verdict_matches counted (Int.le_refl _)
      (Int.le_add_of_nonneg_right (Int.natCast_nonneg _))⟩
  · have next : Tally.next rule.per (some t) now = ⟨t.opened, t.count + 1⟩ := if_neg ended
    rw [if_neg ended] at renewed
    rw [next, Window.attempt, renewed]
    have counted : Matches rule (some { w with
        count := min (min (w.count + 1) Window.maxCount) (min (rule.rate + 1) Window.maxCount)
        lastUsed := now }) (some ⟨t.opened, t.count + 1⟩) :=
      ⟨started, length, by rw [count]; exact capped_count small t.count⟩
    exact ⟨counted, verdict_matches counted order (Int.le_of_lt (Int.not_le.1 ended))⟩

theorem first_attempt_matches {rule : Cooldown} (small : rule.rate < Window.maxCount)
    (now : Instant) :
    Matches rule (some ((Window.fresh now rule.per).attempt rule.rate now).1)
        (some (Tally.next rule.per none now)) ∧
      ((Window.fresh now rule.per).attempt rule.rate now).2.map
          (fun wait : Decimal.Duration => (wait : Int)) =
        (Tally.next rule.per none now).refusal rule now := by
  have empty : Matches rule (some (Window.fresh now rule.per)) (some ⟨now, 0⟩) :=
    ⟨rfl, rfl, by simp [Window.fresh]⟩
  have next : Tally.next rule.per (some ⟨now, 0⟩) now = Tally.next rule.per none now := by
    simp [Tally.next]
  rw [← next]
  exact attempt_matches small empty (Int.le_refl _)

theorem any_attempt_matches {rule : Cooldown} {window : Option Window} {last : Option Tally}
    (small : rule.rate < Window.maxCount) (same : Matches rule window last)
    (order : ∀ t, last = some t → t.opened ≤ now) :
    Matches rule (some ((window.getD (.fresh now rule.per)).attempt rule.rate now).1)
        (some (Tally.next rule.per last now)) ∧
      ((window.getD (.fresh now rule.per)).attempt rule.rate now).2.map
          (fun wait : Decimal.Duration => (wait : Int)) =
        (Tally.next rule.per last now).refusal rule now := by
  cases window with
  | none =>
    cases last with
    | none => exact first_attempt_matches small now
    | some t => exact same.elim
  | some w =>
    cases last with
    | none => exact same.elim
    | some t => exact attempt_matches small same (order t rfl)

/-! ## All windows -/

/-- The rule, among those from `position` on, by which an invocation counts at a key. -/
def ruleAt (command : String) (ctx : Context) (position : Nat) (rules : List Cooldown)
    (key : WindowKey) : Option Cooldown :=
  if key.command = command ∧ position ≤ key.rule then
    (rules[key.rule - position]?).filter fun rule => rule.bucket.key ctx = key.bucket
  else none

theorem ruleAt_cons (command : String) (ctx : Context) (position : Nat) (rule : Cooldown)
    (rest : List Cooldown) (key : WindowKey) :
    ruleAt command ctx position (rule :: rest) key =
      if key = ⟨command, position, rule.bucket.key ctx⟩ then some rule
      else ruleAt command ctx (position + 1) rest key := by
  obtain ⟨name, index, bucket⟩ := key
  simp only [ruleAt, WindowKey.mk.injEq]
  by_cases sameName : name = command
  · rcases Nat.lt_trichotomy index position with before | here | later
    · have : ¬ position ≤ index := by omega
      have : ¬ position + 1 ≤ index := by omega
      have : index ≠ position := by omega
      simp [*]
    · subst here
      have : ¬ index + 1 ≤ index := by omega
      by_cases sameBucket : bucket = rule.bucket.key ctx
      · simp [sameName, sameBucket, Option.filter]
      · have : rule.bucket.key ctx ≠ bucket := Ne.symm sameBucket
        simp [*, Option.filter]
    · have shift : index - position = (index - (position + 1)) + 1 := by omega
      have : position ≤ index := by omega
      have : position + 1 ≤ index := by omega
      have : index ≠ position := by omega
      simp [*]
  · simp [sameName]

theorem ruleAt_later (command : String) (ctx : Context) (position : Nat) (rules : List Cooldown)
    (bucket : BucketKey) :
    ruleAt command ctx (position + 1) rules ⟨command, position, bucket⟩ = none :=
  if_neg fun both => absurd both.2 (Nat.not_succ_le_self position)

/-- An invocation changes exactly the windows it counts at. -/
theorem window_after_attempts (command : String) (ctx : Context) (now : Instant)
    (rules : List Cooldown) (cd : Cooldowns) (position : Nat) (key : WindowKey) :
    (attemptAll command ctx now cd position rules).1.windows.get? key =
      match ruleAt command ctx position rules key with
      | none => cd.windows.get? key
      | some rule =>
        some (((cd.windows.get? key).getD (.fresh now rule.per)).attempt rule.rate now).1 := by
  induction rules generalizing cd position with
  | nil => simp [attemptAll, ruleAt]
  | cons rule rest ih =>
    have last : (attemptAll command ctx now cd position (rule :: rest)).1 =
        (attemptAll command ctx now
          (cd.attempt ⟨command, position, rule.bucket.key ctx⟩ rule now).1 (position + 1) rest).1 := by
      simp only [attemptAll]
      split <;> rfl
    rw [last, ih, ruleAt_cons]
    by_cases here : key = ⟨command, position, rule.bucket.key ctx⟩
    · subst here
      rw [ruleAt_later, if_pos rfl]
      simp only [Cooldowns.attempt, Table.get?_set, if_pos]
    · rw [if_neg here]
      simp only [Cooldowns.attempt, Table.get?_set, if_neg (Ne.symm here)]

/-- What each rule says to an invocation, given the windows before it. -/
def verdicts (cd : Cooldowns) (command : String) (ctx : Context) (now : Instant) (position : Nat)
    (rules : List Cooldown) : List (Option Denial) :=
  (rules.zipIdx position).map fun (rule, index) =>
    (cd.attempt ⟨command, index, rule.bucket.key ctx⟩ rule now).2.map (⟨rule, ·⟩)

/-- Counting at one rule does not change what the rules after it say. -/
theorem verdicts_after_attempt (cd : Cooldowns) (command : String) (ctx : Context) (now : Instant)
    (bucket : BucketKey) (rule : Cooldown) (position next : Nat) (later : position < next)
    (rules : List Cooldown) :
    verdicts (cd.attempt ⟨command, position, bucket⟩ rule now).1 command ctx now next rules =
      verdicts cd command ctx now next rules := by
  refine List.map_congr_left fun entry member => ?_
  obtain ⟨other, index⟩ := entry
  have after : next ≤ index := (List.mem_zipIdx member).1
  have apart : position ≠ index := by omega
  simp only [Cooldowns.attempt, Table.get?_set, WindowKey.mk.injEq, apart, false_and, and_false,
    if_false]

/-- The denials are what the rules say, in the order of the rules. -/
theorem denials_eq_verdicts (command : String) (ctx : Context) (now : Instant)
    (rules : List Cooldown) (cd : Cooldowns) (position : Nat) :
    (attemptAll command ctx now cd position rules).2 =
      (verdicts cd command ctx now position rules).reduceOption := by
  induction rules generalizing cd position with
  | nil => rfl
  | cons rule rest ih =>
    have others := ih (cd.attempt ⟨command, position, rule.bucket.key ctx⟩ rule now).1 (position + 1)
    rw [verdicts_after_attempt _ _ _ _ _ _ _ _ (Nat.lt_succ_self position)] at others
    simp only [attemptAll, others, verdicts, List.zipIdx_cons, List.map_cons]
    cases (cd.attempt ⟨command, position, rule.bucket.key ctx⟩ rule now).2 with
    | none => simp [List.reduceOption]
    | some wait => simp [List.reduceOption]

/-! ## Runs -/

section Runs

variable {rules : String → List Cooldown} {key : WindowKey} {rule : Cooldown}

theorem after_snoc (earlier : List Call) (call : Call) :
    after rules (earlier ++ [call]) =
      ((after rules earlier).acquire call.command (rules call.command) call.ctx call.now).1 := by
  simp [after]

theorem tally_snoc (per : Decimal.Duration) (earlier : List Instant) (now : Instant) :
    tally per (earlier ++ [now]) = some (Tally.next per (tally per earlier) now) := by
  simp [tally]

theorem ruleAt_eq_some_iff (command : String) (ctx : Context) (declared : List Cooldown) :
    ruleAt command ctx 0 declared key = some rule ↔
      key.command = command ∧ declared[key.rule]? = some rule ∧
        rule.bucket.key ctx = key.bucket := by
  simp [ruleAt, Option.filter_eq_some_iff]

theorem counts_eq_isSome (call : Call) :
    counts rules key call =
      (ruleAt call.command call.ctx 0 (rules call.command) key).isSome := by
  rw [Bool.eq_iff_iff, Option.isSome_iff_exists]
  simp [counts, ruleAt_eq_some_iff]

theorem attempts_snoc (earlier : List Call) (call : Call) :
    attempts rules (earlier ++ [call]) key =
      attempts rules earlier key ++ if counts rules key call then [call.now] else [] := by
  cases counted : counts rules key call <;> simp [attempts, counted]

theorem opened_mem {per : Decimal.Duration} {times : List Instant} {t : Tally}
    (last : tally per times = some t) : t.opened ∈ times := by
  induction times using List.reverseRecOn generalizing t with
  | nil => cases last
  | append_singleton earlier now ih =>
    rw [tally_snoc] at last
    cases Option.some.inj last
    rw [List.mem_append, List.mem_singleton]
    unfold Tally.next
    split
    · exact Or.inr rfl
    · rename_i t before
      split
      · exact Or.inr rfl
      · have earlierMember := ih before
        exact Or.inl earlierMember

theorem attempts_before {earlier : List Call} {call : Call}
    (inOrder : (earlier ++ [call]).Pairwise (·.now ≤ ·.now)) (now : Instant)
    (member : now ∈ attempts rules earlier key) : now ≤ call.now := by
  obtain ⟨attempt, counted, rfl⟩ := List.mem_map.1 member
  exact (List.pairwise_append.1 inOrder).2.2 attempt (List.mem_of_mem_filter counted) call
    (List.mem_singleton.2 rfl)

/-- After every run of calls each window agrees with the reference that saw only the attempts
there. -/
theorem windows_match (small : ∀ command, ∀ rule ∈ rules command, rule.rate < Window.maxCount)
    (key : WindowKey) (calls : List Call) (inOrder : calls.Pairwise (·.now ≤ ·.now))
    (declared : (rules key.command)[key.rule]? = some rule) :
    Matches rule ((after rules calls).windows.get? key)
      (tally rule.per (attempts rules calls key)) := by
  induction calls using List.reverseRecOn with
  | nil => trivial
  | append_singleton earlier call ih =>
    have before := ih (List.pairwise_append.1 inOrder).1
    rw [after_snoc, acquire, window_after_attempts, attempts_snoc, counts_eq_isSome]
    cases counted : ruleAt call.command call.ctx 0 (rules call.command) key with
    | none => simpa using before
    | some found =>
      obtain ⟨here, found', -⟩ := (ruleAt_eq_some_iff _ _ _).1 counted
      rw [← here, declared] at found'
      cases found'
      simp only [Option.isSome_some, if_true, tally_snoc]
      refine (any_attempt_matches (small _ rule (List.mem_of_getElem? declared)) before ?_).1
      intro t last
      exact attempts_before inOrder t.opened (opened_mem last)

end Runs

end ChatCommands.CooldownWindows
