import ChatCommands.Proofs.StatedWaits

/-! What a caller gets who waits as long as a denial says. Every rule counts every attempt, so a
call that one rule denies can be the last one that another rule allows for a while, and the wait
told is that of the rules that denied. After it those rules allow the call; what may still deny it
are rules that the denied call used up (`waiting_suffices_unless_used_up`). -/
namespace ChatCommands.UsedUpRules
open Cooldowns CooldownWindows CooldownVerdicts InvisibleEviction StatedWaits

variable {rules : String → List Cooldown} {rule : Cooldown} {w : Window}
  {now last : Instant} {cd mid : Cooldowns} {allowed : Deed → Prop} {call : Call} {position : Nat}
  {d : Denial}

/-- The deed is no attempt at any window that the call falls into. -/
def Elsewhere (rules : String → List Cooldown) (call : Call) (deed : Deed) : Prop :=
  ∀ position rule, (rules call.command)[position]? = some rule →
    ¬ deed.AttemptsAt rules (keyAt call position rule)

/-- The call was the last attempt that the rule at a position allows in a window which ends after
`last`. -/
def UsedUp (rules : String → List Cooldown) (cd : Cooldowns) (call : Call) (last : Instant)
    (position : Nat) : Prop :=
  (said rules cd call)[position]? = some none ∧
    ∃ rule w, (rules call.command)[position]? = some rule ∧
      (next rules cd call).windows.get? (keyAt call position rule) = some w ∧
      w.count = rule.rate ∧ rule.rate < Window.maxCount ∧ last < w.started + w.per

/-! ## Rules that allowed the call -/

theorem count_le_of_allows {rate : Nat} (allows : (w.attempt rate now).2 = none) :
    (w.attempt rate now).1.count ≤ rate := by
  by_contra exceeds
  have denies : (w.attempt rate now).2 = some _ := if_pos (Nat.not_le.1 exceeds)
  rw [denies] at allows
  cases allows

/-- A rule that allowed a call has counted it, with others, up to its rate at most. -/
theorem window_of_allowed (declared : (rules call.command)[position]? = some rule)
    (allows : (said rules cd call)[position]? = some none) :
    ∃ w, (next rules cd call).windows.get? (keyAt call position rule) = some w ∧
      w.count ≤ rule.rate := by
  obtain ⟨other, also, verdict⟩ := said_eq_some_iff.1 allows
  obtain rfl : other = rule := Option.some.inj (also.symm.trans declared)
  have quiet : ((windowAt cd (keyAt call position other) other call.now).attempt other.rate
      call.now).2 = none := Option.map_eq_none_iff.1 verdict
  exact ⟨_, window_of_call (keyAt call position other) declared (falls_into_keyAt declared),
    count_le_of_allows quiet⟩

/-- Such a rule allows the call once more, unless it is used up. -/
theorem allows_unless_used_up (made : Made rules) (sound : Sound rules call.now cd)
    (declared : (rules call.command)[position]? = some rule)
    (allows : (said rules cd call)[position]? = some none)
    (room : ¬ UsedUp rules cd call now position)
    (elsewhere : ∀ deed, allowed deed → ¬ deed.AttemptsAt rules (keyAt call position rule))
    (passage : Passage rules allowed call.now (next rules cd call) now mid) :
    (said rules mid (again call now))[position]? = some none := by
  obtain ⟨w, found, count⟩ := window_of_allowed declared allows
  have pos := rate_pos made declared
  have lets (begun : w.started ≤ now) : (w.attempt rule.rate now).2 = none := by
    by_cases past : Over now w
    · exact allows_of_over past pos
    · rw [attempt_of_running past]
      refine if_neg fun exceeds => ?_
      obtain ⟨full, bounded⟩ := (exceeds_iff w _).1 exceeds
      exact room ⟨allows, rule, w, declared, found, Nat.le_antisymm count full, bounded,
        Int.not_le.1 ((over_iff begun).not.1 past)⟩
  rw [said_again declared, allows_of_passage (sound_of_next sound) pos found lets elsewhere passage,
    Option.map_none]

/-- A rule that is used up denies the call until its window ends or is forgotten. -/
theorem denies_if_used_up (sound : Sound rules call.now cd)
    (usedUp : UsedUp rules cd call now position)
    (passage : Passage rules (fun deed => Elsewhere rules call deed ∧ deed.Keeps) call.now
      (next rules cd call) now mid) :
    ∃ e, (said rules mid (again call now))[position]? = some (some e) := by
  obtain ⟨-, rule, w, declared, found, count, bounded, lasts⟩ := usedUp
  have after := sound_of_next sound
  obtain ⟨kept, here, same⟩ := window_of_passage (P := (· = w)) (keyAt call position rule)
    after declared (fun _ fine => fine.2) (fun _ same => same ▸ rfl)
    (fun _ fine falls => absurd falls (fine.1 position rule declared)) ⟨w, found, rfl⟩ passage lasts
  rw [same] at here
  have begun := (sound_of_passage after passage).begun _ w here
  have running : ¬ Over now w := (over_iff begun).not.2 (Int.not_le.2 lasts)
  have exceeds : countAfter w rule.rate > rule.rate :=
    (exceeds_iff w _).2 ⟨Nat.le_of_eq count.symm, bounded⟩
  rw [said_again declared, windowAt_of_found here, attempt_of_running running, if_pos exceeds]
  exact ⟨_, rfl⟩

/-! ## The advice of a denial -/

theorem succeeds_iff (rules : String → List Cooldown) (cd : Cooldowns) (call : Call) :
    longest? (denials rules cd call) = none ↔
      ∀ (position : Nat) rule, (rules call.command)[position]? = some rule →
        (said rules cd call)[position]? = some none := by
  rw [longest_eq_none_iff, denials_eq_said]
  constructor
  · intro nobody position rule declared
    obtain ⟨verdict, here⟩ := said_of_declared cd call declared
    cases verdict with
    | none => exact here
    | some e =>
      have denied := denied_of_said here
      rw [ne_eq, longest_eq_none_iff, denials_eq_said] at denied
      exact absurd nobody denied
  · intro quiet
    refine List.eq_nil_iff_forall_not_mem.2 fun e member => ?_
    obtain ⟨position, here⟩ := List.getElem?_of_mem (List.reduceOption_mem_iff.1 member)
    obtain ⟨rule, declared, -⟩ := said_eq_some_iff.1 here
    rw [quiet position rule declared] at here
    cases here

/-- What comes of waiting as a denial says, where nothing is attempted in the meantime at any of the
windows that the call falls into. -/
structure Advice (rules : String → List Cooldown) (cd : Cooldowns) (call : Call) (d : Denial) :
    Prop where
  /-- No rule that denied denies again. -/
  clears : ∀ (position : Nat) e mid, (said rules cd call)[position]? = some (some e) →
    Passage rules (Elsewhere rules call) call.now (next rules cd call) (call.now + d.wait) mid →
    (said rules mid (again call (call.now + d.wait)))[position]? = some none
  /-- The call succeeds if it has used up no rule for longer. -/
  suffices_with_room : ∀ mid,
    Passage rules (Elsewhere rules call) call.now (next rules cd call) (call.now + d.wait) mid →
    (∀ position, ¬ UsedUp rules cd call (call.now + d.wait) position) →
    longest? (denials rules mid (again call (call.now + d.wait))) = none
  /-- It is denied if it has used up one, and no window has been reset since. -/
  fails_without : ∀ position mid, UsedUp rules cd call (call.now + d.wait) position →
    Passage rules (fun deed => Elsewhere rules call deed ∧ deed.Keeps) call.now
      (next rules cd call) (call.now + d.wait) mid →
    longest? (denials rules mid (again call (call.now + d.wait))) ≠ none

/-- A call that is denied succeeds after the wait that it is told, unless it has used up a rule that
allowed it. -/
theorem waiting_suffices_unless_used_up (made : Made rules) (reached : Reached rules call.now cd)
    (told : longest? (denials rules cd call) = some d) : Advice rules cd call d := by
  have sound := sound_of_reached reached
  rw [denials_eq_said, longest_eq_some_iff] at told
  obtain ⟨first, -, longest⟩ := told
  have clears : ∀ (position : Nat) e mid, (said rules cd call)[position]? = some (some e) →
      Passage rules (Elsewhere rules call) call.now (next rules cd call) (call.now + d.wait) mid →
      (said rules mid (again call (call.now + d.wait)))[position]? = some none := by
    intro position e mid denied passage
    have declared := (spent_of_said made sound denied).1
    have past : call.now + e.wait ≤ call.now + d.wait :=
      Int.add_le_add_left (Int.ofNat_le.2 (longest position e denied).1) call.now
    exact allows_after_wait made sound denied past
      (fun deed apart => apart position e.rule declared) passage
  refine ⟨clears, fun mid passage room => ?_, fun position mid usedUp passage => ?_⟩
  · apply (succeeds_iff rules mid (again call (call.now + d.wait))).2
    intro position rule declared
    obtain ⟨verdict, here⟩ := said_of_declared cd call declared
    cases verdict with
    | some e => exact clears position e mid here passage
    | none =>
      exact allows_unless_used_up made sound declared here (room position)
        (fun deed apart => apart position rule declared) passage
  · obtain ⟨e, denied⟩ := denies_if_used_up sound usedUp passage
    exact denied_of_said denied

/-! ## A call that uses up another rule -/

/-- Once in 5 seconds, and twice in 30. -/
def twice : String → List Cooldown := rolling [.ofRate 1 5 .user, .ofRate 2 30 .user]

/-- After one call. -/
def once : Cooldowns := next twice {} ⟨"roll", caller 1, 0⟩

/-- The second call, which the first rule denies and the second one counts. -/
def second : Call := ⟨"roll", caller 1, 1⟩

theorem made_twice : Made twice := made_rolling (by simp)

theorem reached_once : Reached twice 1 once :=
  ⟨0, .waits (.acts .start (.call "roll" (caller 1)) trivial) (by decide)⟩

theorem second_denied : ∃ d, longest? (denials twice once second) = some d ∧ d.wait = 4 := by
  have waits : (longest? (denials twice once second)).map (·.wait) = some 4 := by decide
  exact Option.map_eq_some_iff.1 waits

/-- It is the last one that the second rule allows for as long. -/
theorem second_uses_up_other_rule :
    Made twice ∧ Reached twice second.now once ∧
      ∃ d, longest? (denials twice once second) = some d ∧
        UsedUp twice once second (second.now + d.wait) 1 ∧ Advice twice once second d := by
  obtain ⟨d, told, wait⟩ := second_denied
  refine ⟨made_twice, reached_once, d, told, ?_,
    waiting_suffices_unless_used_up made_twice reached_once told⟩
  rw [wait]
  exact ⟨rfl, .ofRate 2 30 .user, ⟨0, 2, 1, 30⟩, rfl, rfl, rfl, by decide, by decide⟩

/-- So a call can be denied when it has waited as long as it was told, with nothing done in
between. -/
theorem told_wait_can_be_too_short :
    ¬ ∀ (rules : String → List Cooldown) (cd : Cooldowns) (call : Call) (d : Denial)
        (mid : Cooldowns), Made rules → Reached rules call.now cd →
      longest? (denials rules cd call) = some d →
      Passage rules (Elsewhere rules call) call.now (next rules cd call) (call.now + d.wait) mid →
      longest? (denials rules mid (again call (call.now + d.wait))) = none := by
  intro suffices_always
  obtain ⟨d, told, wait⟩ := second_denied
  have passage : Passage twice (Elsewhere twice second) second.now (next twice once second)
      (second.now + d.wait) (next twice once second) :=
    .waits .start (Int.le_add_of_nonneg_right (Int.natCast_nonneg _))
  have quiet := suffices_always twice once second d _ made_twice reached_once told passage
  rw [wait] at quiet
  have denied : (longest? (denials twice (next twice once second)
      (again second (second.now + (4 : Decimal.Duration))))).isSome = true := by decide
  rw [quiet] at denied
  cases denied

end ChatCommands.UsedUpRules
