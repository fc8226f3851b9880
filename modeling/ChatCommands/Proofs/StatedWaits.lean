import ChatCommands.Proofs.CooldownVerdicts
import ChatCommands.Proofs.Lifetimes

/-! The wait that a denial tells is exact for the rule that it tells of. The window behind it stays
full until then, since attempts never lower a count and a clean-up drops only windows that are over;
so whoever falls into it is denied until the wait is over (`spent_of_passage`). Then the next
attempt begins the window anew, or finds none (`idle_of_passage`). The times at which things are
done to the windows do not decrease, in what comes before the denial and in what follows it
(`Passage`). -/
namespace ChatCommands.StatedWaits
open Cooldowns CooldownWindows CooldownVerdicts InvisibleEviction
open Lifetimes (Thinned thinned_of_resetFrom)

/-! ## What is done over time -/

/-- What can be done with cooldowns. -/
inductive Deed where
  | call (command : String) (ctx : Context)
  | cleanUp (retention : Decimal.Duration)
  | reset (command : String) (ctx : Context)
  | clear (command : String)

def Deed.apply (rules : String → List Cooldown) (now : Instant) (cd : Cooldowns) :
    Deed → Cooldowns
  | .call command ctx => (cd.acquire command (rules command) ctx now).1
  | .cleanUp retention => (cd.cleanup retention now).1
  | .reset command ctx => cd.reset command (rules command) ctx
  | .clear command => cd.clearCommand command

/-- Calls and clean-ups do not forget a window that is not over. -/
def Deed.Keeps : Deed → Prop
  | .call .. | .cleanUp .. => True
  | .reset .. | .clear .. => False

/-- The deed is an attempt that counts in the window at a key. -/
def Deed.AttemptsAt (rules : String → List Cooldown) (key : WindowKey) : Deed → Prop
  | .call command ctx => key.command = command ∧
      ∃ rule, (rules command)[key.rule]? = some rule ∧ rule.bucket.key ctx = key.bucket
  | _ => False

/-- What has become of the cooldowns at a time, where only some deeds are done. The clock never goes
back. -/
inductive Passage (rules : String → List Cooldown) (allowed : Deed → Prop) (began : Instant)
    (cd : Cooldowns) : Instant → Cooldowns → Prop where
  | start : Passage rules allowed began cd began cd
  | waits {now later : Instant} {mid : Cooldowns} (passage : Passage rules allowed began cd now mid)
      (order : now ≤ later) : Passage rules allowed began cd later mid
  | acts {now : Instant} {mid : Cooldowns} (passage : Passage rules allowed began cd now mid)
      (deed : Deed) (fine : allowed deed) :
      Passage rules allowed began cd now (deed.apply rules now mid)

/-- The cooldowns that there can be at a time. -/
def Reached (rules : String → List Cooldown) (now : Instant) (cd : Cooldowns) : Prop :=
  ∃ began, Passage rules (fun _ => True) began {} now cd

/-- The rules are made by `ofRate`, so that each allows one attempt at least. -/
def Made (rules : String → List Cooldown) : Prop :=
  ∀ command, ∀ rule ∈ rules command, ∃ asked per bucket, rule = .ofRate asked per bucket

variable {rules : String → List Cooldown} {rule : Cooldown} {w : Window} {key : WindowKey}
  {began now later last : Instant} {cd mid : Cooldowns} {allowed : Deed → Prop} {call : Call}
  {position : Nat} {d : Denial}

theorem rate_pos (made : Made rules) {command : String}
    (declared : (rules command)[position]? = some rule) : 0 < rule.rate := by
  obtain ⟨asked, per, bucket, rfl⟩ := made command rule (List.mem_of_getElem? declared)
  exact Nat.lt_of_lt_of_le Nat.one_pos (Nat.le_max_right asked 1)

/-! ## Windows at any time -/

/-- Windows are as long as their rules, and have begun. -/
structure Sound (rules : String → List Cooldown) (now : Instant) (cd : Cooldowns) : Prop where
  begun : ∀ key w, cd.windows.get? key = some w → w.started ≤ now
  lengths : Lengths rules cd
  unique : cd.windows.Unique

theorem sound_of_thinned (sound : Sound rules now cd) (thinned : Thinned cd mid) :
    Sound rules now mid := by
  obtain ⟨keep, rfl⟩ := thinned
  have before {key : WindowKey} {w : Window}
      (found : Table.get? (cd.windows.filter keep) key = some w) :
      cd.windows.get? key = some w := by
    rw [Table.get?_filter sound.unique] at found
    exact Option.eq_some_of_filter_eq_some found
  exact ⟨fun key w found => sound.begun key w (before found),
    fun key w rule found => sound.lengths key w rule (before found),
    Table.unique_filter sound.unique _⟩

theorem started_le_of_attempt (begun : w.started ≤ now) (rate : Nat) :
    (w.attempt rate now).1.started ≤ now := by
  have renewed : (w.renew now).started ≤ now := by
    unfold Window.renew
    split
    · exact Int.le_refl now
    · exact begun
  exact renewed

/-- The window that an attempt at a key finds, or begins. -/
def windowAt (cd : Cooldowns) (key : WindowKey) (rule : Cooldown) (now : Instant) : Window :=
  (cd.windows.get? key).getD (.fresh now rule.per)

theorem windowAt_of_found (found : cd.windows.get? key = some w) :
    windowAt cd key rule now = w := by
  rw [windowAt, found, Option.getD_some]

theorem windowAt_of_gone (gone : cd.windows.get? key = none) :
    windowAt cd key rule now = .fresh now rule.per := by
  rw [windowAt, gone, Option.getD_none]

theorem windowAt_begun (sound : Sound rules now cd) (key : WindowKey) (rule : Cooldown) :
    (windowAt cd key rule now).started ≤ now := by
  cases found : cd.windows.get? key with
  | none =>
    rw [windowAt_of_gone found]
    exact Int.le_refl now
  | some w =>
    rw [windowAt_of_found found]
    exact sound.begun key w found

theorem windowAt_per (key : WindowKey) (sound : Sound rules now cd)
    (declared : (rules key.command)[key.rule]? = some rule) :
    (windowAt cd key rule now).per = rule.per := by
  cases found : cd.windows.get? key with
  | none =>
    rw [windowAt_of_gone found]
    rfl
  | some w =>
    rw [windowAt_of_found found]
    exact sound.lengths key w rule found declared

theorem attemptsAt_call_iff {command : String} {ctx : Context} :
    (Deed.call command ctx).AttemptsAt rules key ↔
      ∃ rule, ruleAt command ctx 0 (rules command) key = some rule := by
  simp only [Deed.AttemptsAt, ruleAt_eq_some_iff, exists_and_left]

/-- A call counts in the windows that it falls into. -/
theorem window_of_call (key : WindowKey) {command : String} {ctx : Context}
    (declared : (rules key.command)[key.rule]? = some rule)
    (falls : (Deed.call command ctx).AttemptsAt rules key) :
    ((Deed.call command ctx).apply rules now cd).windows.get? key =
      some ((windowAt cd key rule now).attempt rule.rate now).1 := by
  obtain ⟨other, counts⟩ := attemptsAt_call_iff.1 falls
  obtain ⟨here, also, -⟩ := (ruleAt_eq_some_iff _ _ _).1 counts
  obtain rfl : other = rule := Option.some.inj (also.symm.trans (here ▸ declared))
  rw [Deed.apply, acquire, window_after_attempts, counts]
  rfl

/-- It leaves all others as they are. -/
theorem window_of_other_call {command : String} {ctx : Context}
    (elsewhere : ¬ (Deed.call command ctx).AttemptsAt rules key) :
    ((Deed.call command ctx).apply rules now cd).windows.get? key = cd.windows.get? key := by
  rw [Deed.apply, acquire, window_after_attempts]
  cases counts : ruleAt command ctx 0 (rules command) key with
  | none => rfl
  | some rule => exact absurd (attemptsAt_call_iff.2 ⟨rule, counts⟩) elsewhere

theorem sound_of_call (sound : Sound rules now cd) (command : String) (ctx : Context) :
    Sound rules now ((Deed.call command ctx).apply rules now cd) := by
  refine ⟨fun key w found => ?_, lengths_of_call sound.lengths ⟨command, ctx, now⟩,
    unique_of_attempts _ _ _ _ sound.unique 0⟩
  by_cases falls : (Deed.call command ctx).AttemptsAt rules key
  · have ⟨here, rule, declared, _⟩ := falls
    rw [window_of_call _ (here ▸ declared) falls] at found
    exact Option.some.inj found ▸ started_le_of_attempt (windowAt_begun sound key rule) rule.rate
  · rw [window_of_other_call falls] at found
    exact sound.begun key w found

/-- Whatever is not a call drops some windows at most. -/
theorem call_or_thinned (rules : String → List Cooldown) (now : Instant) (cd : Cooldowns)
    (deed : Deed) :
    (∃ command ctx, deed = .call command ctx) ∨ Thinned cd (deed.apply rules now cd) := by
  cases deed with
  | call command ctx => exact .inl ⟨command, ctx, rfl⟩
  | cleanUp retention => exact .inr ⟨_, rfl⟩
  | reset command ctx => exact .inr (thinned_of_resetFrom command ctx (rules command) cd 0)
  | clear command => exact .inr ⟨_, rfl⟩

theorem sound_of_passage (sound : Sound rules began cd)
    (passage : Passage rules allowed began cd now mid) : Sound rules now mid := by
  induction passage with
  | start => exact sound
  | waits _ order ih =>
    exact ⟨fun key w found => Int.le_trans (ih.begun key w found) order, ih.lengths, ih.unique⟩
  | acts _ deed _ ih =>
    rcases call_or_thinned rules _ _ deed with ⟨command, ctx, rfl⟩ | thinned
    · exact sound_of_call ih command ctx
    · exact sound_of_thinned ih thinned

theorem sound_of_reached (reached : Reached rules now cd) : Sound rules now cd := by
  obtain ⟨began, passage⟩ := reached
  have start : Sound rules began {} := ⟨nofun, nofun, .nil⟩
  exact sound_of_passage start passage

/-! ## One window -/

theorem over_iff (begun : w.started ≤ now) : Over now w ↔ w.started + w.per ≤ now :=
  le_toNat_sub_iff begun w.per

/-- The count of a window after one more attempt. -/
def countAfter (w : Window) (rate : Nat) : Nat :=
  min (min (w.count + 1) Window.maxCount) (min (rate + 1) Window.maxCount)

theorem exceeds_iff (w : Window) (rate : Nat) :
    countAfter w rate > rate ↔ rate ≤ w.count ∧ rate < Window.maxCount := by
  unfold countAfter
  omega

theorem attempt_of_running (running : ¬ Over now w) (rate : Nat) :
    w.attempt rate now = ({ w with count := countAfter w rate, lastUsed := now },
      if countAfter w rate > rate then some (w.per - Instant.since now w.started) else none) := by
  rw [Window.attempt, show w.renew now = w from if_neg running]
  rfl

/-- A window that is over, or that is begun just now, allows an attempt. -/
theorem allows_of_over (past : Over now w) {rate : Nat} (pos : 0 < rate) :
    (w.attempt rate now).2 = none := by
  have begun : w.renew now = { w with started := now, count := 0 } := if_pos past
  rw [Window.attempt, begun]
  exact if_neg (by simp only [Window.maxCount]; omega)

theorem allows_of_fresh (per : Decimal.Duration) {rate : Nat} (pos : 0 < rate) :
    ((Window.fresh now per).attempt rate now).2 = none := by
  by_cases past : Over now (Window.fresh now per)
  · exact allows_of_over past pos
  · rw [attempt_of_running past]
    refine if_neg fun exceeds => ?_
    exact absurd ((exceeds_iff _ rate).1 exceeds).1 (Nat.not_le.2 pos)

/-- A window that ends at a time and lets no more attempts through until then. -/
structure Spent (rule : Cooldown) (last : Instant) (w : Window) : Prop where
  ends : w.started + w.per = last
  full : rule.rate < w.count
  bounded : rule.rate < Window.maxCount

/-- An attempt that is denied waits for the end of its window, which has begun and is not over. -/
theorem spent_of_denial (begun : w.started ≤ now) (pos : 0 < rule.rate) {wait : Decimal.Duration}
    (denied : (w.attempt rule.rate now).2 = some wait) :
    Spent rule (now + wait) (w.attempt rule.rate now).1 ∧ 0 < wait ∧ wait ≤ w.per := by
  by_cases past : Over now w
  · rw [allows_of_over past pos] at denied
    cases denied
  · rw [attempt_of_running past] at denied ⊢
    obtain ⟨exceeds, waits⟩ := Option.ite_none_right_eq_some.1 denied
    obtain rfl : w.per - Instant.since now w.started = wait := Option.some.inj waits
    have inside : now ≤ w.started + w.per := by
      rw [over_iff begun] at past
      exact Int.le_of_lt (Int.not_le.1 past)
    have left : ((w.per - Instant.since now w.started : Nat) : Int) = w.started + w.per - now :=
      wait_eq begun inside
    refine ⟨⟨?_, exceeds, ((exceeds_iff w _).1 exceeds).2⟩, Nat.sub_pos_of_lt (Nat.not_le.1 past),
      Nat.sub_le _ _⟩
    rw [left, Int.add_comm now, Int.sub_add_cancel]

/-- A spent window denies every attempt until it ends, and stays spent. -/
theorem attempt_of_spent (spent : Spent rule last w) (begun : w.started ≤ now)
    (before : now < last) :
    Spent rule last (w.attempt rule.rate now).1 ∧ (w.attempt rule.rate now).2 ≠ none := by
  obtain ⟨ends, full, bounded⟩ := spent
  have running : ¬ Over now w := by
    rw [over_iff begun, ends]
    exact Int.not_le.2 before
  have exceeds : countAfter w rule.rate > rule.rate :=
    (exceeds_iff w _).2 ⟨Nat.le_of_lt full, bounded⟩
  rw [attempt_of_running running, if_pos exceeds]
  exact ⟨⟨ends, exceeds, bounded⟩, Option.some_ne_none _⟩

/-! ## One window over time -/

/-- A window stays at its key until it ends, with whatever attempts keep true of it. -/
theorem window_of_passage {P : Window → Prop} (key : WindowKey) (sound : Sound rules began cd)
    (declared : (rules key.command)[key.rule]? = some rule)
    (keeps : ∀ deed, allowed deed → deed.Keeps)
    (ends : ∀ w, P w → w.started + w.per = last)
    (counted : ∀ deed, allowed deed → deed.AttemptsAt rules key → ∀ now w, P w → w.started ≤ now →
      now < last → P (w.attempt rule.rate now).1)
    (found : ∃ w, cd.windows.get? key = some w ∧ P w)
    (passage : Passage rules allowed began cd now mid) (before : now < last) :
    ∃ w, mid.windows.get? key = some w ∧ P w := by
  induction passage with
  | start => exact found
  | waits _ order ih => exact ih (Int.lt_of_le_of_lt order before)
  | @acts now mid passage deed fine ih =>
    obtain ⟨w, here, holds⟩ := ih before
    have reached := sound_of_passage sound passage
    cases deed with
    | call command ctx =>
      by_cases falls : (Deed.call command ctx).AttemptsAt rules key
      · rw [window_of_call key declared falls, windowAt_of_found here]
        exact ⟨_, rfl, counted _ fine falls now w holds (reached.begun key w here) before⟩
      · rw [window_of_other_call falls]
        exact ⟨w, here, holds⟩
    | cleanUp retention =>
      have running : w.isIdle now retention = false := by
        by_contra idle
        have past := over_of_isIdle (Bool.eq_true_of_not_eq_false idle)
        rw [over_iff (reached.begun key w here), ends w holds] at past
        exact absurd past (Int.not_le.2 before)
      refine ⟨w, ?_, holds⟩
      rw [Deed.apply, cleanup, Table.get?_filter reached.unique, here]
      simp [Option.filter, running]
    | reset | clear => exact (keeps _ fine).elim

theorem spent_of_passage (key : WindowKey) (sound : Sound rules began cd)
    (declared : (rules key.command)[key.rule]? = some rule)
    (found : ∃ w, cd.windows.get? key = some w ∧ Spent rule last w)
    (passage : Passage rules Deed.Keeps began cd now mid) (before : now < last) :
    ∃ w, mid.windows.get? key = some w ∧ Spent rule last w :=
  window_of_passage key sound declared (fun _ keeps => keeps) (fun _ spent => spent.ends)
    (fun _ _ _ _ _ spent begun earlier => (attempt_of_spent spent begun earlier).1)
    found passage before

/-- Without attempts a window stays as it is or is forgotten. -/
theorem idle_of_passage (sound : Sound rules began cd)
    (elsewhere : ∀ deed, allowed deed → ¬ deed.AttemptsAt rules key)
    (passage : Passage rules allowed began cd now mid) :
    mid.windows.get? key = cd.windows.get? key ∨ mid.windows.get? key = none := by
  induction passage with
  | start => exact .inl rfl
  | waits _ _ ih => exact ih
  | @acts now mid passage deed fine ih =>
    rcases call_or_thinned rules now mid deed with ⟨command, ctx, rfl⟩ | ⟨keep, dropped⟩
    · rw [window_of_other_call (elsewhere _ fine)]
      exact ih
    · rw [dropped, Table.get?_filter (sound_of_passage sound passage).unique]
      cases kept : mid.windows.get? key with
      | none => exact .inr rfl
      | some w =>
        rw [kept] at ih
        cases keeps : keep (key, w) with
        | true => simpa [Option.filter, keeps] using ih
        | false => exact .inr (by simp [Option.filter, keeps])

/-- Where nobody attempts anything at a window, it keeps letting the attempts through that it would,
and so does the one begun in its place if it has been forgotten. -/
theorem allows_of_passage (sound : Sound rules began cd) (pos : 0 < rule.rate)
    (found : cd.windows.get? key = some w)
    (lets : w.started ≤ now → (w.attempt rule.rate now).2 = none)
    (elsewhere : ∀ deed, allowed deed → ¬ deed.AttemptsAt rules key)
    (passage : Passage rules allowed began cd now mid) :
    ((windowAt mid key rule now).attempt rule.rate now).2 = none := by
  rcases idle_of_passage sound elsewhere passage with kept | gone
  · rw [found] at kept
    rw [windowAt_of_found kept]
    exact lets ((sound_of_passage sound passage).begun key w kept)
  · rw [windowAt_of_gone gone]
    exact allows_of_fresh rule.per pos

/-! ## Calls -/

/-- The denials that a call meets with. -/
def denials (rules : String → List Cooldown) (cd : Cooldowns) (call : Call) : List Denial :=
  (cd.acquire call.command (rules call.command) call.ctx call.now).2

/-- The cooldowns after a call. -/
def next (rules : String → List Cooldown) (cd : Cooldowns) (call : Call) : Cooldowns :=
  (cd.acquire call.command (rules call.command) call.ctx call.now).1

/-- What each rule says to a call, in the order of the rules. -/
def said (rules : String → List Cooldown) (cd : Cooldowns) (call : Call) : List (Option Denial) :=
  verdicts cd call.command call.ctx call.now 0 (rules call.command)

/-- The window that a call falls into by the rule at a position. -/
def keyAt (call : Call) (position : Nat) (rule : Cooldown) : WindowKey :=
  ⟨call.command, position, rule.bucket.key call.ctx⟩

theorem denials_eq_said (rules : String → List Cooldown) (cd : Cooldowns) (call : Call) :
    denials rules cd call = (said rules cd call).reduceOption :=
  denials_eq_verdicts ..

theorem said_eq_some_iff {verdict : Option Denial} :
    (said rules cd call)[position]? = some verdict ↔
      ∃ rule, (rules call.command)[position]? = some rule ∧
        ((windowAt cd (keyAt call position rule) rule call.now).attempt rule.rate call.now).2.map
          (⟨rule, ·⟩) = verdict := by
  simp only [said, verdicts, List.getElem?_map, List.getElem?_zipIdx, Nat.zero_add, Option.map_map,
    Option.map_eq_some_iff, Function.comp_apply]
  rfl

/-- The call made once more, at another time. -/
def again (call : Call) (now : Instant) : Call := { call with now := now }

theorem said_again (declared : (rules call.command)[position]? = some rule) :
    (said rules mid (again call now))[position]? =
      some (((windowAt mid (keyAt call position rule) rule now).attempt rule.rate now).2.map
        (⟨rule, ·⟩)) :=
  said_eq_some_iff.2 ⟨rule, declared, rfl⟩

theorem said_of_declared (cd : Cooldowns) (call : Call)
    (declared : (rules call.command)[position]? = some rule) :
    ∃ verdict, (said rules cd call)[position]? = some verdict :=
  ⟨_, said_eq_some_iff.2 ⟨rule, declared, rfl⟩⟩

theorem falls_into_keyAt (declared : (rules call.command)[position]? = some rule) :
    (Deed.call call.command call.ctx).AttemptsAt rules (keyAt call position rule) :=
  ⟨rfl, rule, declared, rfl⟩

theorem sound_of_next (sound : Sound rules call.now cd) :
    Sound rules call.now (next rules cd call) :=
  sound_of_call sound call.command call.ctx

/-- What a rule that denies has to do with its window. -/
theorem spent_of_said (made : Made rules) (sound : Sound rules call.now cd)
    (denied : (said rules cd call)[position]? = some (some d)) :
    (rules call.command)[position]? = some d.rule ∧ 0 < d.wait ∧ d.wait ≤ d.rule.per ∧
      ∃ w, (next rules cd call).windows.get? (keyAt call position d.rule) = some w ∧
        Spent d.rule (call.now + d.wait) w := by
  obtain ⟨rule, declared, verdict⟩ := said_eq_some_iff.1 denied
  obtain ⟨wait, waits, rfl⟩ := Option.map_eq_some_iff.1 verdict
  have begun := windowAt_begun sound (keyAt call position rule) rule
  obtain ⟨spent, positive, within⟩ := spent_of_denial begun (rate_pos made declared) waits
  rw [windowAt_per (keyAt call position rule) sound declared] at within
  exact ⟨declared, positive, within, _,
    window_of_call (keyAt call position rule) declared (falls_into_keyAt declared), spent⟩

/-- A call is denied as soon as one rule denies. -/
theorem denied_of_said (denied : (said rules cd call)[position]? = some (some d)) :
    longest? (denials rules cd call) ≠ none := by
  rw [ne_eq, longest_eq_none_iff, denials_eq_said]
  intro nobody
  have member : d ∈ (said rules cd call).reduceOption :=
    List.reduceOption_mem_iff.2 (List.mem_of_getElem? denied)
  rw [nobody] at member
  cases member

/-! ## What a denial tells -/

/-- A denial tells how long a rule keeps denying. -/
structure ExactWait (rules : String → List Cooldown) (cd : Cooldowns) (call : Call)
    (position : Nat) (d : Denial) : Prop where
  /-- It is the verdict of the rule at the position. -/
  verdict : (said rules cd call)[position]? = some (some d)
  /-- No other rule makes the call wait longer, and none that comes before it as long. -/
  longest : ∀ (other : Nat) e, (said rules cd call)[other]? = some (some e) →
    e.wait ≤ d.wait ∧ (other < position → e.wait < d.wait)
  positive : 0 < d.wait
  within : d.wait ≤ d.rule.per
  /-- Until the wait is over every call of the command is denied that falls into the same bucket of
  the rule, as those of the same context do, whatever is called and cleaned up in between. -/
  denied_until : ∀ retry mid, Passage rules Deed.Keeps call.now (next rules cd call) retry.now mid →
    retry.command = call.command → d.rule.bucket.key retry.ctx = d.rule.bucket.key call.ctx →
    retry.now < call.now + d.wait → longest? (denials rules mid retry) ≠ none
  /-- When it is over the rule does not deny, if nothing was attempted in its window. -/
  allows_then : ∀ mid, Passage rules
      (fun deed => ¬ deed.AttemptsAt rules (keyAt call position d.rule))
      call.now (next rules cd call) (call.now + d.wait) mid →
    (said rules mid (again call (call.now + d.wait)))[position]? = some none

theorem denied_until_end (made : Made rules) (sound : Sound rules call.now cd)
    (denied : (said rules cd call)[position]? = some (some d)) {retry : Call}
    (passage : Passage rules Deed.Keeps call.now (next rules cd call) retry.now mid)
    (same : retry.command = call.command)
    (bucket : d.rule.bucket.key retry.ctx = d.rule.bucket.key call.ctx)
    (before : retry.now < call.now + d.wait) :
    ∃ e, (said rules mid retry)[position]? = some (some e) := by
  obtain ⟨declared, -, -, found⟩ := spent_of_said made sound denied
  have after := sound_of_next sound
  obtain ⟨w, here, spent⟩ := spent_of_passage (keyAt call position d.rule) after declared found
    passage before
  have begun := (sound_of_passage after passage).begun _ w here
  obtain ⟨wait, waits⟩ := Option.ne_none_iff_exists'.1 (attempt_of_spent spent begun before).2
  have place : keyAt retry position d.rule = keyAt call position d.rule := by
    rw [keyAt, keyAt, same, bucket]
  refine ⟨⟨d.rule, wait⟩, said_eq_some_iff.2 ⟨d.rule, same ▸ declared, ?_⟩⟩
  rw [place, windowAt_of_found here, waits, Option.map_some]

/-- A rule that denied allows an attempt at any time after its wait, if its window was left
alone. -/
theorem allows_after_wait (made : Made rules) (sound : Sound rules call.now cd)
    (denied : (said rules cd call)[position]? = some (some d)) (past : call.now + d.wait ≤ now)
    (elsewhere : ∀ deed, allowed deed → ¬ deed.AttemptsAt rules (keyAt call position d.rule))
    (passage : Passage rules allowed call.now (next rules cd call) now mid) :
    (said rules mid (again call now))[position]? = some none := by
  obtain ⟨declared, -, -, w, found, spent⟩ := spent_of_said made sound denied
  have pos := rate_pos made declared
  have lets (begun : w.started ≤ now) : (w.attempt d.rule.rate now).2 = none :=
    allows_of_over ((over_iff begun).2 (spent.ends ▸ past)) pos
  rw [said_again declared, allows_of_passage (sound_of_next sound) pos found lets elsewhere passage,
    Option.map_none]

/-- Every call that is denied is told the exact wait of the first rule with the longest one. -/
theorem denial_tells_exact_wait (made : Made rules) (reached : Reached rules call.now cd)
    (told : longest? (denials rules cd call) = some d) :
    ∃ position, ExactWait rules cd call position d := by
  have sound := sound_of_reached reached
  rw [denials_eq_said, longest_eq_some_iff] at told
  obtain ⟨position, denied, longest⟩ := told
  obtain ⟨-, positive, within, -⟩ := spent_of_said made sound denied
  refine ⟨position, denied, longest, positive, within, ?_, ?_⟩
  · intro retry mid passage same bucket before
    obtain ⟨e, still⟩ := denied_until_end made sound denied passage same bucket before
    exact denied_of_said still
  · intro mid passage
    exact allows_after_wait made sound denied (Int.le_refl _) (fun _ apart => apart) passage

/-! ## Two users -/

/-- Somebody in a conversation of two. -/
def caller (user : Id) : Context where
  author := ⟨user, "", false, [], Permissions.none⟩
  origin := ⟨.direct, none, { id := 9, name := "" }⟩
  content := ""
  responder := .discard
  directory := .ofLists [] [] [] []

/-- The rules of a program with one command. -/
def rolling (declared : List Cooldown) (command : String) : List Cooldown :=
  if command = "roll" then declared else []

theorem made_rolling {declared : List Cooldown}
    (each : ∀ rule ∈ declared, ∃ asked per bucket, rule = .ofRate asked per bucket) :
    Made (rolling declared) := by
  intro command rule member
  unfold rolling at member
  split at member
  · exact each rule member
  · cases member

/-- Each user may call once in 10 seconds, and both together twice in 30. The second call of the
first user is denied by both rules, and has to wait until the shared window ends. -/
theorem second_call_waits_for_shared_rule :
    let rules := rolling [.ofRate 0 10 .user, .ofRate 2 30 .everyone]
    let cd := next rules (next rules {} ⟨"roll", caller 1, 0⟩) ⟨"roll", caller 2, 4⟩
    let call : Call := ⟨"roll", caller 1, 6⟩
    Made rules ∧ Reached rules 6 cd ∧ (denials rules cd call).map (·.wait) = [4, 24] ∧
      ∃ d, longest? (denials rules cd call) = some d ∧ d.wait = 24 ∧
        ∃ position, ExactWait rules cd call position d := by
  intro rules cd call
  have made : Made rules := made_rolling (by simp)
  have first : Passage rules (fun _ => True) 0 {} 4 (next rules {} ⟨"roll", caller 1, 0⟩) :=
    .waits (.acts .start (.call "roll" (caller 1)) trivial) (by decide)
  have reached : Reached rules 6 cd :=
    ⟨0, .waits (.acts first (.call "roll" (caller 2)) trivial) (by decide)⟩
  have waits : (longest? (denials rules cd call)).map (·.wait) = some 24 := by decide
  obtain ⟨d, told, wait⟩ := Option.map_eq_some_iff.1 waits
  exact ⟨made, reached, by decide, d, told, wait, denial_tells_exact_wait made reached told⟩

end ChatCommands.StatedWaits
