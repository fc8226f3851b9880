import ChatCommands.Proofs.CooldownWindows

/-! What an invocation is told when it is counted: every rule of its command gives
the verdict of the reference that saw the attempts at that rule and bucket alone,
and of the rules that deny, the first with the longest wait is told. -/
namespace ChatCommands.CooldownVerdicts
open CooldownWindows Cooldowns

/-- The denial `d` stands in the list, none is longer, and all before it are shorter. -/
def FirstLongest (verdicts : List (Option Denial)) (d : Denial) : Prop :=
  ∃ position, verdicts[position]? = some (some d) ∧
    ∀ (other : Nat) e, verdicts[other]? = some (some e) →
      e.wait ≤ d.wait ∧ (other < position → e.wait < d.wait)

theorem firstLongest_none_cons (rest : List (Option Denial)) (d : Denial) :
    FirstLongest (none :: rest) d ↔ FirstLongest rest d := by
  constructor
  · rintro ⟨position, here, first⟩
    cases position with
    | zero => simp at here
    | succ position =>
      refine ⟨position, by simpa using here, fun other e there => ?_⟩
      obtain ⟨shorter, before⟩ := first (other + 1) e (by simpa using there)
      exact ⟨shorter, fun less => before (by omega)⟩
  · rintro ⟨position, here, first⟩
    refine ⟨position + 1, by simpa using here, fun other e there => ?_⟩
    cases other with
    | zero => simp at there
    | succ other =>
      obtain ⟨shorter, before⟩ := first other e (by simpa using there)
      exact ⟨shorter, fun less => before (by omega)⟩

theorem firstLongest_some_cons (head : Denial) (rest : List (Option Denial)) (d : Denial) :
    FirstLongest (some head :: rest) d ↔
      (d = head ∧ ∀ e, some e ∈ rest → e.wait ≤ head.wait) ∨
        (FirstLongest rest d ∧ head.wait < d.wait) := by
  constructor
  · rintro ⟨position, here, first⟩
    cases position with
    | zero =>
      left
      have isHead : d = head := by simpa using here.symm
      refine ⟨isHead, fun e member => ?_⟩
      obtain ⟨other, there⟩ := List.getElem?_of_mem member
      exact isHead ▸ (first (other + 1) e (by simpa using there)).1
    | succ position =>
      right
      refine ⟨⟨position, by simpa using here, fun other e there => ?_⟩, ?_⟩
      · obtain ⟨shorter, before⟩ := first (other + 1) e (by simpa using there)
        exact ⟨shorter, fun less => before (by omega)⟩
      · exact (first 0 head rfl).2 (Nat.succ_pos position)
  · rintro (⟨rfl, shorter⟩ | ⟨⟨position, here, first⟩, longer⟩)
    · refine ⟨0, rfl, fun other e there => ⟨?_, fun less => absurd less (Nat.not_lt_zero other)⟩⟩
      cases other with
      | zero =>
        have isHead : d = e := by simpa using there
        exact isHead ▸ Nat.le_refl _
      | succ other => exact shorter e (List.mem_of_getElem? (by simpa using there))
    · refine ⟨position + 1, by simpa using here, fun other e there => ?_⟩
      cases other with
      | zero =>
        have isHead : head = e := by simpa using there
        exact isHead ▸ ⟨Nat.le_of_lt longer, fun _ => longer⟩
      | succ other =>
        obtain ⟨shorter, before⟩ := first other e (by simpa using there)
        exact ⟨shorter, fun less => before (by omega)⟩

theorem longest_eq_none_iff (denials : List Denial) : longest? denials = none ↔ denials = [] := by
  cases denials with
  | nil => simp [longest?]
  | cons d rest =>
    simp only [longest?, reduceCtorEq, iff_false]
    split
    · split <;> simp
    · simp

/-- The denial that is told is the first with the longest wait. -/
theorem longest_eq_some_iff (verdicts : List (Option Denial)) (d : Denial) :
    longest? verdicts.reduceOption = some d ↔ FirstLongest verdicts d := by
  induction verdicts generalizing d with
  | nil => simp [List.reduceOption, longest?, FirstLongest]
  | cons verdict rest ih =>
    cases verdict with
    | none => rw [List.reduceOption_cons_of_none, ih, firstLongest_none_cons]
    | some head =>
      rw [List.reduceOption_cons_of_some, firstLongest_some_cons, ← ih, longest?]
      cases found : longest? rest.reduceOption with
      | none =>
        have empty : ∀ e, some e ∉ rest := by
          intro e member
          have := List.reduceOption_mem_iff.2 member
          rw [(longest_eq_none_iff _).1 found] at this
          cases this
        simp [empty, eq_comm]
      | some e =>
        obtain ⟨position, there, first⟩ := (ih e).1 found
        by_cases longer : e.wait > head.wait
        · simp only [longer, if_true, Option.some.injEq]
          constructor
          · rintro rfl
            exact Or.inr ⟨rfl, longer⟩
          · rintro (⟨-, shorter⟩ | ⟨same, -⟩)
            · exact absurd (shorter e (List.mem_of_getElem? there)) (Nat.not_le.2 longer)
            · exact same
        · simp only [longer, if_false, Option.some.injEq]
          constructor
          · rintro rfl
            refine Or.inl ⟨rfl, fun other member => ?_⟩
            obtain ⟨index, here⟩ := List.getElem?_of_mem member
            exact Nat.le_trans (first index other here).1 (Nat.not_lt.1 longer)
          · rintro (⟨same, -⟩ | ⟨same, shorter⟩)
            · exact same.symm
            · exact absurd (same ▸ shorter) longer

/-! ## Agreement with the reference -/

section Reference

variable (rules : String → List Cooldown) (earlier : List Call) (call : Call)

/-- What the reference says to a call at the rule at a position: the rule and the wait, if the call
is one too many there. -/
def overRate (position : Nat) : Option (Cooldown × Int) :=
  (rules call.command)[position]?.bind fun rule =>
    (refusal rule (attempts rules earlier ⟨call.command, position, rule.bucket.key call.ctx⟩)
      call.now).map (rule, ·)

/-- A denial with its wait as a whole number. -/
def told (d : Denial) : Cooldown × Int := (d.rule, d.wait)

theorem told_injective : Function.Injective told := by
  rintro ⟨rule, wait⟩ ⟨other, wait'⟩ same
  obtain ⟨sameRule, sameWait⟩ := Prod.mk.inj same
  rw [show rule = other from sameRule, show wait = wait' from Int.ofNat.inj sameWait]

theorem verdict_at (small : ∀ command, ∀ rule ∈ rules command, rule.rate < Window.maxCount)
    (inOrder : (earlier ++ [call]).Pairwise (·.now ≤ ·.now)) (position : Nat) :
    (verdicts (after rules earlier) call.command call.ctx call.now 0
      (rules call.command))[position]?.map (·.map told) =
      (rules call.command)[position]?.map fun _ => overRate rules earlier call position := by
  simp only [verdicts, List.getElem?_map, List.getElem?_zipIdx, Nat.zero_add, Option.map_map]
  cases declared : (rules call.command)[position]? with
  | none => rfl
  | some rule =>
    let key : WindowKey := ⟨call.command, position, rule.bucket.key call.ctx⟩
    have before := windows_match small key earlier (List.pairwise_append.1 inOrder).1 declared
    have exact := (any_attempt_matches (small _ rule (List.mem_of_getElem? declared)) before
      fun t last => attempts_before inOrder t.opened (opened_mem last)).2
    simp only [Option.map_some, Function.comp_apply, overRate, declared, Option.bind_some, refusal]
    rw [← exact]
    simp [Cooldowns.attempt, told, Function.comp_def, key]

theorem told_at (small : ∀ command, ∀ rule ∈ rules command, rule.rate < Window.maxCount)
    (inOrder : (earlier ++ [call]).Pairwise (·.now ≤ ·.now)) (position : Nat)
    (refused : overRate rules earlier call position = some v) :
    ∃ d, told d = v ∧
      (verdicts (after rules earlier) call.command call.ctx call.now 0
        (rules call.command))[position]? = some (some d) := by
  have same := verdict_at rules earlier call small inOrder position
  cases declared : (rules call.command)[position]? with
  | none => simp [overRate, declared] at refused
  | some rule =>
    rw [declared, refused] at same
    obtain ⟨verdict, here, there⟩ := Option.map_eq_some_iff.1 same
    obtain ⟨d, rfl, isTold⟩ := Option.map_eq_some_iff.1 there
    exact ⟨d, isTold, here⟩

theorem verdict_eq_some_iff
    (small : ∀ command, ∀ rule ∈ rules command, rule.rate < Window.maxCount)
    (inOrder : (earlier ++ [call]).Pairwise (·.now ≤ ·.now)) (position : Nat) (d : Denial) :
    (verdicts (after rules earlier) call.command call.ctx call.now 0
      (rules call.command))[position]? = some (some d) ↔
      overRate rules earlier call position = some (told d) := by
  constructor
  · intro here
    have same := verdict_at rules earlier call small inOrder position
    rw [here] at same
    cases declared : (rules call.command)[position]? with
    | none => simp [declared] at same
    | some rule => simpa [declared] using same.symm
  · intro refused
    obtain ⟨d', isTold, here⟩ := told_at rules earlier call small inOrder position refused
    rw [here, told_injective isTold]

/-- The denials of a call, told in the order of the rules, are those of the reference. -/
theorem denials_told (small : ∀ command, ∀ rule ∈ rules command, rule.rate < Window.maxCount)
    (inOrder : (earlier ++ [call]).Pairwise (·.now ≤ ·.now)) :
    ((verdicts (after rules earlier) call.command call.ctx call.now 0
      (rules call.command)).reduceOption).map told =
      (List.range (rules call.command).length).filterMap (overRate rules earlier call) := by
  have same : (verdicts (after rules earlier) call.command call.ctx call.now 0
      (rules call.command)).map (·.map told) =
      (List.range (rules call.command).length).map (overRate rules earlier call) := by
    refine List.ext_getElem? fun position => ?_
    rw [List.getElem?_map, verdict_at rules earlier call small inOrder, List.getElem?_map]
    by_cases inside : position < (rules call.command).length
    · simp [inside]
    · simp [inside]
  rw [← List.reduceOption_map, same, List.reduceOption, List.filterMap_map]
  rfl

def denialsOf : List Denial :=
  ((after rules earlier).acquire call.command (rules call.command) call.ctx call.now).2

/-- A call is told what the reference says. -/
structure ToldAsReference : Prop where
  /-- The rules that deny, in their order, and how long each makes the call wait. -/
  each_rule : (denialsOf rules earlier call).map told =
    (List.range (rules call.command).length).filterMap (overRate rules earlier call)
  /-- A call is let through if no rule denies it. -/
  allowed : longest? (denialsOf rules earlier call) = none ↔
    ∀ position, overRate rules earlier call position = none
  /-- A call that is denied is told the first rule with the longest wait. -/
  denied : ∀ d, longest? (denialsOf rules earlier call) = some d ↔
    ∃ position, overRate rules earlier call position = some (told d) ∧
      ∀ (other : Nat) rule wait, overRate rules earlier call other = some (rule, wait) →
        wait ≤ d.wait ∧ (other < position → wait < d.wait)

/-- Every call of every run is told what the reference says, where no rate is so great that a window
could not count past it. -/
theorem calls_told_as_reference
    (small : ∀ command, ∀ rule ∈ rules command, rule.rate < Window.maxCount)
    (inOrder : (earlier ++ [call]).Pairwise (·.now ≤ ·.now)) :
    ToldAsReference rules earlier call := by
  have listed : denialsOf rules earlier call = (verdicts (after rules earlier) call.command
      call.ctx call.now 0 (rules call.command)).reduceOption := denials_eq_verdicts ..
  have inTurn : (denialsOf rules earlier call).map told =
      (List.range (rules call.command).length).filterMap (overRate rules earlier call) := by
    rw [listed]
    exact denials_told rules earlier call small inOrder
  refine ⟨inTurn, ?_, fun d => ?_⟩
  · rw [longest_eq_none_iff, ← List.map_eq_nil_iff (f := told), inTurn, List.filterMap_eq_nil_iff]
    constructor
    · intro none position
      by_cases inside : position < (rules call.command).length
      · exact none position (List.mem_range.2 inside)
      · simp [overRate, List.getElem?_eq_none (Nat.not_lt.1 inside)]
    · exact fun none position _ => none position
  · rw [listed, longest_eq_some_iff]
    constructor
    · rintro ⟨position, here, first⟩
      refine ⟨position, (verdict_eq_some_iff _ _ _ small inOrder position d).1 here, ?_⟩
      intro other rule wait refused
      obtain ⟨e, isTold, there⟩ := told_at rules earlier call small inOrder other refused
      obtain ⟨-, rfl⟩ := Prod.mk.inj isTold
      obtain ⟨shorter, before⟩ := first other e there
      exact ⟨Int.ofNat_le.2 shorter, fun less => Int.ofNat_lt.2 (before less)⟩
    · rintro ⟨position, refused, first⟩
      refine ⟨position, (verdict_eq_some_iff _ _ _ small inOrder position d).2 refused, ?_⟩
      intro other e there
      obtain ⟨shorter, before⟩ := first other e.rule e.wait
        ((verdict_eq_some_iff _ _ _ small inOrder other e).1 there)
      exact ⟨Int.ofNat_le.1 shorter, fun less => Int.ofNat_lt.1 (before less)⟩

end Reference

/-- Two users share a rule of two calls in 30 seconds, and each may call once in 10. The second call
of the first user breaks both, and the shared rule makes it wait longer. -/
theorem shared_rule_told_to_second_call :
    let ctx (user : Id) : Context :=
      { author := ⟨user, "", false, [], Permissions.none⟩
        origin := ⟨.direct, none, { id := 9, name := "" }⟩
        content := "", responder := .discard, directory := .ofLists [] [] [] [] }
    let rules (command : String) : List Cooldown :=
      if command = "roll" then [⟨1, 10, .user⟩, ⟨2, 30, .everyone⟩] else []
    let earlier : List Call := [⟨"roll", ctx 1, 0⟩, ⟨"roll", ctx 2, 4⟩, ⟨"help", ctx 1, 5⟩]
    let call : Call := ⟨"roll", ctx 1, 6⟩
    (∀ command, ∀ rule ∈ rules command, rule.rate < Window.maxCount) ∧
      (earlier ++ [call]).Pairwise (·.now ≤ ·.now) ∧
      ((denialsOf rules earlier call).map (·.wait)) = [4, 24] ∧
      ToldAsReference rules earlier call := by
  intro ctx rules earlier call
  have small : ∀ command, ∀ rule ∈ rules command, rule.rate < Window.maxCount := by
    intro command rule member
    by_cases isRoll : command = "roll"
    · simp only [rules, isRoll, if_true, List.mem_cons, List.not_mem_nil, or_false] at member
      rcases member with rfl | rfl <;> decide
    · simp [rules, isRoll] at member
  have inOrder : (earlier ++ [call]).Pairwise (·.now ≤ ·.now) := by decide
  exact ⟨small, inOrder, by decide, calls_told_as_reference rules earlier call small inOrder⟩

end ChatCommands.CooldownVerdicts
