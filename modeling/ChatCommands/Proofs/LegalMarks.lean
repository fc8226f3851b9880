import ChatCommands.Proofs.InvocationCourse
import Mathlib.Data.List.Chain

/-! Legal marks. What may be told of an invocation is written down as a grammar of marks, from the
checks to the completion hook or the error handlers, with no word of how handling goes about it
(`Legal`). Whatever is legal comes in one order, and nothing comes twice (`inOrder_of_legal`); and
from every stage on there are marks that are legal (`exists_limited` and those before it). -/
namespace ChatCommands.LegalMarks
open InvocationCourse Dispatcher

variable {σ : Type} {c : Command σ} {bare : Prop}

/-- A command comes without a part of its own. -/
def Without (c : Command σ) : Part → Prop
  | .beforeCommand => c.parts.before = none
  | .afterCommand => c.parts.after = none
  | .handler .command _ => c.parts.onError = none
  | _ => False

/-- A hook runs and returns, or there is none; the failure is the hook's. -/
inductive Hooked (c : Command σ) (part : Part) : Option Fault → Mark → Prop where
  | ran {outcome : Outcome} (has : ¬ Without c part) (returns : Returns outcome) :
      Hooked c part (faultOf outcome) (.ran part outcome)
  | lacking (lacks : Without c part) : Hooked c part none (.lacks part)

/-- Handlers are asked about an error, one after another, until the first succeeds. The module of the
command's root is without one only if `bare` holds. -/
inductive Routed (c : Command σ) (bare : Prop) (error : CommandError) :
    List HandlerLevel → List Mark → Prop where
  | settled {level : HandlerLevel} {later : List HandlerLevel}
      (has : ¬ Without c (.handler level error)) :
      Routed c bare error (level :: later) [.ran (.handler level error) .done]
  | failed {level : HandlerLevel} {later : List HandlerLevel} {failure : Fault} {rest : List Mark}
      (has : ¬ Without c (.handler level error)) (routed : Routed c bare error later rest) :
      Routed c bare error (level :: later) (.ran (.handler level error) (.failed failure) :: rest)
  | lacking {level : HandlerLevel} {later : List HandlerLevel} {rest : List Mark}
      (lacks : Without c (.handler level error)) (routed : Routed c bare error later rest) :
      Routed c bare error (level :: later) (.lacks (.handler level error) :: rest)
  | unhandled {later : List HandlerLevel} {rest : List Mark} (none : bare)
      (routed : Routed c bare error later rest) :
      Routed c bare error (.module :: later) (.lacks (.handler .module error) :: rest)
  | nobody : Routed c bare error [] []

/-- The handlers from one on. -/
def onwards : HandlerLevel → List HandlerLevel
  | .command => [.command, .module, .global]
  | .module => [.module, .global]
  | .global => [.global]

/-- The error is reported, to the command's own handler first. -/
def Reported (c : Command σ) (bare : Prop) (error : CommandError) : List Mark → Prop :=
  Routed c bare error (onwards .command)

/-- The end: the completion hook after success, and else the report of the failure. -/
inductive Ending (c : Command σ) (bare : Prop) : Option Fault → List Mark → Prop where
  | completed {failure : Option Fault} {mark : Mark} (hook : Hooked c .completion failure mark) :
      Ending c bare none [mark]
  | failed {fault : Fault} {rest : List Mark}
      (reported : Reported c bare (.invoke c.qualified fault) rest) :
      Ending c bare (some fault) rest

/-- Both hooks after the body, whatever became of it or of the first of them. The body's failure
counts before theirs. -/
inductive Leaving (c : Command σ) (bare : Prop) (failure : Option Fault) : List Mark → Prop where
  | both {own shared : Option Fault} {first second : Mark} {rest : List Mark}
      (command : Hooked c .afterCommand own first) (global : Hooked c .afterGlobal shared second)
      (ending : Ending c bare ((failure.or own).or shared) rest) :
      Leaving c bare failure (first :: second :: rest)

/-- The hooks before the body up to the first that fails. -/
inductive Prepared (c : Command σ) : Option Fault → List Mark → Prop where
  | stopped {fault : Fault} {first : Mark} (command : Hooked c .beforeCommand (some fault) first) :
      Prepared c (some fault) [first]
  | through {failure : Option Fault} {first second : Mark}
      (command : Hooked c .beforeCommand none first)
      (global : Hooked c .beforeGlobal failure second) : Prepared c failure [first, second]

/-- The body, unless a hook before it failed. -/
inductive Worked : Option Fault → Option Fault → List Mark → Prop where
  | skipped {fault : Fault} : Worked (some fault) (some fault) []
  | ran {outcome : Outcome} : Worked none (bodyFault outcome) [.ran .body outcome]

/-- The hooks around the body and the body, to the end. -/
inductive Armed (c : Command σ) (bare : Prop) : List Mark → Prop where
  | all {early failure : Option Fault} {before run rest : List Mark}
      (prepared : Prepared c early before) (worked : Worked early failure run)
      (leaving : Leaving c bare failure rest) : Armed c bare (before ++ (run ++ rest))

/-- From the binding of arguments on. -/
inductive Bound (c : Command σ) (bare : Prop) : List Mark → Prop where
  | refused {error : CommandError} {rest : List Mark} (reported : Reported c bare error rest) :
      Bound c bare (.bound (some error) :: rest)
  | accepted {rest : List Mark} (armed : Armed c bare rest) : Bound c bare (.bound none :: rest)

/-- From the slots on. -/
inductive Admitted (c : Command σ) (bare : Prop) : List Mark → Prop where
  | unlimited {rest : List Mark} (rule : c.parts.concurrency = none) (bound : Bound c bare rest) :
      Admitted c bare (.unlimited :: rest)
  | refused {error : CommandError} {rest : List Mark} (rule : c.parts.concurrency ≠ none)
      (reported : Reported c bare error rest) : Admitted c bare (.slot (some error) :: rest)
  | atOnce {rest : List Mark} (rule : c.parts.concurrency ≠ none) (bound : Bound c bare rest) :
      Admitted c bare (.slot none :: rest)
  | afterWaiting {rest : List Mark} (rule : c.parts.concurrency ≠ none)
      (bound : Bound c bare rest) : Admitted c bare (.inLine :: .slot none :: rest)

/-- From the cooldowns on. -/
inductive Limited (c : Command σ) (bare : Prop) : List Mark → Prop where
  | denied {error : CommandError} {rest : List Mark} (reported : Reported c bare error rest) :
      Limited c bare (.cooled (some error) :: rest)
  | counted {rest : List Mark} (admitted : Admitted c bare rest) :
      Limited c bare (.cooled none :: rest)

/-- From the checks on: all that may be told of an invocation. -/
inductive Legal (c : Command σ) (bare : Prop) : List Mark → Prop where
  | refused {error : CommandError} {rest : List Mark} (reported : Reported c bare error rest) :
      Legal c bare (.checked (some error) :: rest)
  | passed {failure : Option Fault} {hook : Mark} {rest : List Mark}
      (hooked : Hooked c .onCommand failure hook) (limited : Limited c bare rest) :
      Legal c bare (.checked none :: hook :: rest)

/-! ## The order of marks -/

/-- The station of a handler among those that are asked. -/
def rank : HandlerLevel → Nat
  | .command => 13
  | .module => 14
  | .global => 15

/-- The station of a part on the way of an invocation. -/
def station : Part → Nat
  | .onCommand => 2
  | .beforeCommand => 7
  | .beforeGlobal => 8
  | .body => 9
  | .afterCommand => 10
  | .afterGlobal => 11
  | .completion => 12
  | .handler level _ => rank level

/-- The station of what a mark tells of. -/
def stationOf : Mark → Nat
  | .checked _ => 1
  | .ran part _ | .lacks part => station part
  | .cooled _ => 3
  | .unlimited | .inLine => 4
  | .slot _ => 5
  | .bound _ => 6

@[simp] theorem stationOf_ran (part : Part) (outcome : Outcome) :
    stationOf (.ran part outcome) = station part := rfl

/-- The marks come in order, all of them after a station. -/
def InOrder (low : Nat) (marks : List Mark) : Prop := (low :: marks.map stationOf).IsChain (· < ·)

@[simp] theorem inOrder_nil (low : Nat) : InOrder low [] := .singleton low

@[simp] theorem inOrder_cons {low : Nat} {mark : Mark} {rest : List Mark} :
    InOrder low (mark :: rest) ↔ low < stationOf mark ∧ InOrder (stationOf mark) rest :=
  List.isChain_cons_cons

theorem stationOf_hooked {part : Part} {failure : Option Fault} {mark : Mark}
    (hooked : Hooked c part failure mark) : stationOf mark = station part := by
  cases hooked <;> rfl

variable {low : Nat} {rest : List Mark}

theorem inOrder_of_routed {error : CommandError} {levels : List HandlerLevel}
    (routed : Routed c bare error levels rest) (ranks : (low :: levels.map rank).IsChain (· < ·)) :
    InOrder low rest := by
  induction routed generalizing low with
  | nobody => exact inOrder_nil low
  | settled => exact inOrder_cons.2 ⟨(List.isChain_cons_cons.1 ranks).1, inOrder_nil _⟩
  | failed _ _ ih | lacking _ _ ih | unhandled _ _ ih =>
    obtain ⟨later, onward⟩ := List.isChain_cons_cons.1 ranks
    exact inOrder_cons.2 ⟨later, ih onward⟩

theorem inOrder_of_reported {error : CommandError} (reported : Reported c bare error rest)
    (before : low < 13) : InOrder low rest :=
  inOrder_of_routed reported (by simpa [onwards, rank] using before)

theorem inOrder_of_ending {failure : Option Fault} (ending : Ending c bare failure rest)
    (before : low < 12) : InOrder low rest := by
  cases ending with
  | completed hook => simpa [stationOf_hooked hook, station] using before
  | failed reported => exact inOrder_of_reported reported (by omega)

theorem inOrder_of_leaving {failure : Option Fault} (leaving : Leaving c bare failure rest)
    (before : low < 10) : InOrder low rest := by
  cases leaving with
  | both command global ending =>
    have last {low : Nat} (before : low < 12) := inOrder_of_ending ending before
    simpa [stationOf_hooked command, stationOf_hooked global, station, last] using before

theorem inOrder_of_armed (armed : Armed c bare rest) (before : low < 7) : InOrder low rest := by
  obtain ⟨prepared, worked, leaving⟩ := armed
  have last {low : Nat} (before : low < 10) := inOrder_of_leaving leaving before
  cases prepared with
  | stopped command =>
    cases worked
    simpa [stationOf_hooked command, station, last] using before
  | through command global =>
    cases worked <;>
      simpa [stationOf_hooked command, stationOf_hooked global, station, last] using before

theorem inOrder_of_bound (bound : Bound c bare rest) (before : low < 6) : InOrder low rest := by
  cases bound with
  | refused reported => simpa [stationOf, inOrder_of_reported reported] using before
  | accepted armed => simpa [stationOf, inOrder_of_armed armed] using before

theorem inOrder_of_admitted (admitted : Admitted c bare rest) (before : low < 4) :
    InOrder low rest := by
  have early : low < 5 := by omega
  cases admitted with
  | unlimited _ bound | afterWaiting _ bound =>
    simpa [stationOf, inOrder_of_bound bound] using before
  | refused _ reported => simpa [stationOf, inOrder_of_reported reported] using early
  | atOnce _ bound => simpa [stationOf, inOrder_of_bound bound] using early

theorem inOrder_of_limited (limited : Limited c bare rest) (before : low < 3) :
    InOrder low rest := by
  cases limited with
  | denied reported => simpa [stationOf, inOrder_of_reported reported] using before
  | counted admitted => simpa [stationOf, inOrder_of_admitted admitted] using before

/-- Legal marks come in order. -/
theorem inOrder_of_legal (legal : Legal c bare rest) : InOrder 0 rest := by
  cases legal with
  | refused reported => simp [stationOf, inOrder_of_reported reported]
  | passed hooked limited =>
    have onward := stationOf_hooked hooked
    refine inOrder_cons.2 ⟨by decide, inOrder_cons.2 ⟨?_, ?_⟩⟩
    · rw [onward]
      decide
    · rw [onward]
      exact inOrder_of_limited limited (by decide)

/-- No two of the first legal marks are of one station, and the earlier mark is of the earlier. -/
theorem pairwise_of_legal {marks : List Mark} (legal : Legal c bare (marks ++ rest)) :
    marks.Pairwise fun early late => stationOf early < stationOf late := by
  have ordered := (List.pairwise_cons.1 (inOrder_of_legal legal).pairwise).2
  exact (List.pairwise_append.1 (List.pairwise_map.1 ordered)).1

/-! ## Legal marks there are -/

theorem returns_done : Returns .done := fun _ => nofun

theorem exists_hooked (c : Command σ) (part : Part) : ∃ mark, Hooked c part none mark := by
  by_cases lacks : Without c part
  · exact ⟨_, .lacking lacks⟩
  · exact ⟨.ran part .done, .ran lacks returns_done⟩

theorem exists_routed (c : Command σ) (bare : Prop) (error : CommandError)
    (levels : List HandlerLevel) : ∃ rest, Routed c bare error levels rest := by
  induction levels with
  | nil => exact ⟨[], .nobody⟩
  | cons level later ih =>
    by_cases lacks : Without c (.handler level error)
    · obtain ⟨rest, routed⟩ := ih
      exact ⟨_, .lacking lacks routed⟩
    · exact ⟨_, .settled lacks⟩

theorem exists_ending (c : Command σ) (bare : Prop) (failure : Option Fault) :
    ∃ rest, Ending c bare failure rest := by
  cases failure with
  | none =>
    obtain ⟨mark, hook⟩ := exists_hooked c .completion
    exact ⟨_, .completed hook⟩
  | some fault =>
    obtain ⟨rest, routed⟩ := exists_routed c bare (.invoke c.qualified fault) (onwards .command)
    exact ⟨rest, .failed routed⟩

theorem exists_leaving (c : Command σ) (bare : Prop) (failure : Option Fault) :
    ∃ rest, Leaving c bare failure rest := by
  obtain ⟨first, command⟩ := exists_hooked c .afterCommand
  obtain ⟨second, global⟩ := exists_hooked c .afterGlobal
  obtain ⟨rest, ending⟩ := exists_ending c bare ((failure.or none).or none)
  exact ⟨_, .both command global ending⟩

theorem exists_bound (c : Command σ) (bare : Prop) : ∃ rest, Bound c bare rest := by
  obtain ⟨first, command⟩ := exists_hooked c .beforeCommand
  obtain ⟨second, global⟩ := exists_hooked c .beforeGlobal
  obtain ⟨rest, leaving⟩ := exists_leaving c bare (bodyFault .done)
  exact ⟨_, .accepted (.all (.through command global) .ran leaving)⟩

theorem exists_limited (c : Command σ) (bare : Prop) : ∃ rest, Limited c bare rest := by
  obtain ⟨rest, bound⟩ := exists_bound c bare
  by_cases rule : c.parts.concurrency = none
  · exact ⟨_, .counted (.unlimited rule bound)⟩
  · exact ⟨_, .counted (.atOnce rule bound)⟩

end ChatCommands.LegalMarks
