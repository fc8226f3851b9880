import ChatCommands.Dispatch.Invocation
import Mathlib.Data.List.Forall2

/-! Checks as gates. A check tree passes or fails as a whole (`Passes`, `Fails`), and in asking its
tests one after the other nothing behind a decision is asked (`Asks`). An invocation meets the
checks of the dispatcher, of the module, of the ancestors and of its own command, in this order. -/
namespace ChatCommands.GatedChecks
open Check

variable {ctx : Context} {check : Check} {checks members : List Check} {failure : CheckFailure}

/-! ## The answer of a tree -/

/-- A check passes: a test holds, or a member of a group passes. -/
inductive Passes (ctx : Context) : Check → Prop where
  | one {test : CheckTest} (holds : test ctx = .ok ()) : Passes ctx (.one test)
  | any {members : List Check} {check : Check} (member : check ∈ members)
      (passes : Passes ctx check) : Passes ctx (.any members)

/-- A check fails: a test with its failure, a group with one failure for each member. -/
inductive Fails (ctx : Context) : Check → CheckFailure → Prop where
  | one {test : CheckTest} {failure : CheckFailure} (fails : test ctx = .error failure) :
      Fails ctx (.one test) failure
  | any {members : List Check} {failures : List CheckFailure}
      (each : List.Forall₂ (Fails ctx) members failures) :
      Fails ctx (.any members) (.checkAny failures)

mutual

theorem passes_iff : (check : Check) → (check.evaluate ctx = .ok () ↔ Passes ctx check)
  | .one test => by
    rw [evaluate_one]
    constructor
    · intro holds
      exact .one holds
    · intro passes
      cases passes
      assumption
  | .any members => by
    have among := passes_among members
    rw [evaluate_any]
    constructor
    · intro passes
      cases answer : evaluateAny members ctx with
      | none =>
        obtain ⟨check, member, own⟩ := among.1 answer
        exact .any member own
      | some failures =>
        rw [answer] at passes
        contradiction
    · intro passes
      cases passes with
      | any member own => rw [among.2 ⟨_, member, own⟩]

theorem passes_among : (members : List Check) →
    (evaluateAny members ctx = none ↔ ∃ check ∈ members, Passes ctx check)
  | [] => by simp
  | check :: rest => by
    have first := passes_iff check
    have others := passes_among rest
    rw [evaluateAny_cons, List.exists_mem_cons_iff, ← first, ← others]
    cases check.evaluate ctx <;> simp

end

mutual

theorem fails_iff : (check : Check) → (failure : CheckFailure) →
    (check.evaluate ctx = .error failure ↔ Fails ctx check failure)
  | .one test, failure => by
    rw [evaluate_one]
    constructor
    · intro fails
      exact .one fails
    · intro fails
      cases fails
      assumption
  | .any members, failure => by
    rw [evaluate_any]
    constructor
    · intro fails
      cases answer : evaluateAny members ctx with
      | none =>
        rw [answer] at fails
        contradiction
      | some failures =>
        rw [answer] at fails
        cases fails
        exact .any ((fails_each members failures).1 answer)
    · intro fails
      cases fails with
      | any each => rw [(fails_each members _).2 each]

theorem fails_each : (members : List Check) → (failures : List CheckFailure) →
    (evaluateAny members ctx = some failures ↔ List.Forall₂ (Fails ctx) members failures)
  | [], failures => by cases failures <;> simp
  | check :: rest, failures => by
    rw [evaluateAny_cons]
    constructor
    · intro failed
      cases answer : check.evaluate ctx with
      | ok =>
        rw [answer] at failed
        contradiction
      | error e =>
        rw [answer] at failed
        obtain ⟨others, later, rfl⟩ := Option.map_eq_some_iff.1 failed
        exact .cons ((fails_iff check e).1 answer) ((fails_each rest others).1 later)
    · intro each
      cases each with
      | cons first others =>
        rw [(fails_iff check _).2 first, (fails_each rest _).2 others]
        rfl

end

/-! ## The tests that are asked -/

/-- What is asked of a list: one element after the other, up to the first at which asking stops. -/
inductive UpTo (stops : Check → Prop) (asks : Check → List CheckTest → Prop) :
    List Check → List CheckTest → Prop where
  | done : UpTo stops asks [] []
  | stop {check : Check} {rest : List Check} {asked : List CheckTest} (here : stops check)
      (own : asks check asked) : UpTo stops asks (check :: rest) asked
  | onward {check : Check} {rest : List Check} {asked later : List CheckTest}
      (passedBy : ¬ stops check) (own : asks check asked) (others : UpTo stops asks rest later) :
      UpTo stops asks (check :: rest) (asked ++ later)

/-- What is asked of a check: its test, or its members up to the first that passes. -/
inductive Asks (ctx : Context) : Check → List CheckTest → Prop where
  | one (test : CheckTest) : Asks ctx (.one test) [test]
  | any {members : List Check} {asked : List CheckTest}
      (each : UpTo (Passes ctx) (Asks ctx) members asked) : Asks ctx (.any members) asked

/-- What is asked of a list of checks of which all must pass: its members up to the first that does
not. -/
abbrev AsksAll (ctx : Context) : List Check → List CheckTest → Prop :=
  UpTo (fun check => ¬ Passes ctx check) (Asks ctx)

/-- Puts a test to an invocation and notes it down. -/
def noting (ctx : Context) (test : CheckTest) :
    StateM (List CheckTest) (Except CheckFailure Unit) :=
  fun notes => (test ctx, notes ++ [test])

theorem run_bind {α β : Type} (x : StateM (List CheckTest) α)
    (f : α → StateM (List CheckTest) β) (notes : List CheckTest) :
    (x >>= f).run notes = (f (x.run notes).1).run (x.run notes).2 := rfl

theorem run_pure {α : Type} (a : α) (notes : List CheckTest) :
    (pure a : StateM (List CheckTest) α).run notes = (a, notes) := rfl

mutual

theorem asked_of_check : (check : Check) → ∃ asked, Asks ctx check asked ∧
    ∀ notes, (check.evaluateBy (noting ctx)).run notes = (check.evaluate ctx, notes ++ asked)
  | .one test => ⟨[test], .one test, fun _ => rfl⟩
  | .any members => by
    obtain ⟨asked, each, told⟩ := asked_of_members members
    refine ⟨asked, .any each, ?_⟩
    intro notes
    rw [evaluateBy, run_bind, told, evaluate_any]
    cases evaluateAny members ctx <;> rfl

theorem asked_of_members : (members : List Check) → ∃ asked,
    UpTo (Passes ctx) (Asks ctx) members asked ∧
      ∀ notes, (evaluateAnyBy (noting ctx) members).run notes =
        (evaluateAny members ctx, notes ++ asked)
  | [] => by
    refine ⟨[], .done, ?_⟩
    intro notes
    rw [evaluateAnyBy, run_pure, evaluateAny_nil, List.append_nil]
  | check :: rest => by
    obtain ⟨asked, own, told⟩ := asked_of_check check
    obtain ⟨later, others, toldLater⟩ := asked_of_members rest
    cases answer : check.evaluate ctx with
    | ok =>
      refine ⟨asked, .stop ((passes_iff check).1 answer) own, ?_⟩
      intro notes
      rw [evaluateAnyBy, run_bind, told, evaluateAny_cons, answer]
      rfl
    | error e =>
      have passedBy : ¬ Passes ctx check := by
        rw [← passes_iff, answer]
        simp
      refine ⟨asked ++ later, .onward passedBy own others, ?_⟩
      intro notes
      rw [evaluateAnyBy, run_bind, told, evaluateAny_cons, answer, ← List.append_assoc]
      simp only [run_bind, toldLater, run_pure]

end

theorem asked_of_checks : (checks : List Check) → ∃ asked, AsksAll ctx checks asked ∧
    ∀ notes, (evaluateAllBy (noting ctx) checks).run notes =
      (evaluateAll checks ctx, notes ++ asked)
  | [] => by
    refine ⟨[], .done, ?_⟩
    intro notes
    rw [evaluateAllBy, run_pure, evaluateAll_nil, List.append_nil]
  | check :: rest => by
    obtain ⟨asked, own, told⟩ := asked_of_check check
    cases answer : check.evaluate ctx with
    | ok =>
      obtain ⟨later, others, toldLater⟩ := asked_of_checks rest
      have passes : Passes ctx check := (passes_iff check).1 answer
      refine ⟨asked ++ later, .onward (not_not.2 passes) own others, ?_⟩
      intro notes
      rw [evaluateAllBy, run_bind, told, evaluateAll_cons, answer, ← List.append_assoc]
      exact toldLater _
    | error e =>
      have fails : ¬ Passes ctx check := by
        rw [← passes_iff, answer]
        simp
      refine ⟨asked, .stop fails own, ?_⟩
      intro notes
      rw [evaluateAllBy, run_bind, told, evaluateAll_cons, answer]
      rfl

/-! ## Roles -/

theorem passes_hasRole_iff {role : RoleRef} :
    Passes ctx (hasRole role) ↔ ∃ scope, ctx.scope = some scope ∧ role.heldIn ctx scope = true := by
  rw [← passes_iff, hasRole, evaluate_one]
  cases ctx.scope with
  | none => simp
  | some scope =>
    simp only [Option.some.injEq, exists_eq_left']
    by_cases held : role.heldIn ctx scope = true
    · simp [held]
    · simp [held]

theorem passes_hasAnyRole_iff {roles : List RoleRef} :
    Passes ctx (hasAnyRole roles) ↔
      ∃ scope, ctx.scope = some scope ∧ ∃ role ∈ roles, role.heldIn ctx scope = true := by
  rw [← passes_iff, hasAnyRole, evaluate_one]
  cases ctx.scope with
  | none => simp
  | some scope =>
    simp only [Option.some.injEq, exists_eq_left', ← List.any_eq_true]
    by_cases held : (roles.any fun role => role.heldIn ctx scope) = true
    · simp [held]
    · simp [held]

theorem passes_any_of_roles {roles : List RoleRef} :
    Passes ctx (hasAnyRole roles) ↔ Passes ctx (.any (roles.map hasRole)) := by
  rw [passes_hasAnyRole_iff]
  constructor
  · rintro ⟨scope, inScope, role, listed, held⟩
    exact .any (List.mem_map_of_mem listed) (passes_hasRole_iff.2 ⟨scope, inScope, held⟩)
  · intro passes
    cases passes with
    | any member passes =>
      obtain ⟨role, listed, rfl⟩ := List.mem_map.1 member
      obtain ⟨scope, inScope, held⟩ := passes_hasRole_iff.1 passes
      exact ⟨scope, inScope, role, listed, held⟩

/-! ## Checks added at run time -/

variable {σ : Type} {d : Dispatcher σ} {s : Service σ} {inv : Invocation σ}

/-- Adds checks to commands, one after the other. -/
def addChecks (r : Registry σ) : List (Nat × Command σ × Check) → Registry σ
  | [] => r
  | (serial, c, check) :: rest => addChecks (r.adjust serial c (·.withCheck check)) rest

/-- The checks among those added that belong to a command. -/
def addedTo (serial : Nat) (c : Command σ) (added : List (Nat × Command σ × Check)) : List Check :=
  (added.filter fun a => a.1 = serial ∧ a.2.1.qualified = c.qualified).map (·.2.2)

theorem checksOf_withCheck (r : Registry σ) (serial other : Nat) (c target : Command σ)
    (check : Check) :
    (r.adjust other target (·.withCheck check)).checksOf serial c =
      r.checksOf serial c ++ addedTo serial c [(other, target, check)] := by
  by_cases own : other = serial ∧ target.qualified = c.qualified
  · obtain ⟨rfl, named⟩ := own
    have none : (r.standing other target).extraChecks = (r.standing other c).extraChecks := by
      unfold Registry.standing
      rw [named]
      cases r.standings.get? ⟨other, c.qualified⟩ <;> rfl
    have kept : ((r.adjust other target (·.withCheck check)).standing other c).extraChecks =
        (r.standing other c).extraChecks ++ [check] := by
      rw [Registry.adjust, Registry.standing, Table.get?_set, if_pos (by rw [named]), ← none]
      rfl
    rw [Registry.checksOf, kept, addedTo, List.filter_singleton]
    simp [Registry.checksOf, named]
  · have kept : (r.adjust other target (·.withCheck check)).standing serial c =
        r.standing serial c := by
      rw [Registry.adjust, Registry.standing, Table.get?_set, if_neg (by simpa using own)]
      rfl
    rw [Registry.checksOf, kept, addedTo, List.filter_singleton]
    simp [Registry.checksOf, own]

theorem checksOf_addChecks (r : Registry σ) (serial : Nat) (c : Command σ)
    (added : List (Nat × Command σ × Check)) :
    (addChecks r added).checksOf serial c = r.checksOf serial c ++ addedTo serial c added := by
  induction added generalizing r with
  | nil => simp [addChecks, addedTo]
  | cons a added ih =>
    obtain ⟨other, target, check⟩ := a
    rw [addChecks, ih, checksOf_withCheck, List.append_assoc]
    congr 1
    rw [addedTo, addedTo, addedTo, ← List.map_append, ← List.filter_append]
    rfl

/-! ## The gate -/

/-- The checks an invocation meets: those of the dispatcher, of the module, of each ancestor from
the outermost in and of the command, for a command the declared ones before those added. -/
def sequence (d : Dispatcher σ) (s : Service σ) (target : Resolved σ) : List Check :=
  let own (c : Command σ) : List Check :=
    c.parts.checks ++ (s.registry.standing target.root.serial c).extraChecks
  d.checks ++ ((s.moduleOf? target.root).bind (·.check)).toList ++ target.parents.flatMap own ++
    own target.command

theorem checksFor_eq (d : Dispatcher σ) (s : Service σ) (target : Resolved σ) :
    d.checksFor s target = sequence d s target := by
  rw [Dispatcher.checksFor, List.flatMap_append, List.flatMap_singleton, sequence,
    List.append_assoc _ (List.flatMap _ _)]
  rfl

theorem passChecks_of_enabled (enabled : Dispatcher.firstDisabled? s inv.target = none) :
    d.passChecks inv s =
      match evaluateAll (sequence d s inv.target) inv.ctx with
      | .ok () => .ok ()
      | .error failure => .error (.check failure) := by
  cases answer : evaluateAll (sequence d s inv.target) inv.ctx <;>
    simp only [Dispatcher.passChecks, enabled, checksFor_eq, answer]

theorem passChecks_of_disabled {c : Command σ}
    (disabled : Dispatcher.firstDisabled? s inv.target = some c) :
    d.passChecks inv s = .error (.disabledCommand c.qualified) := by
  rw [Dispatcher.passChecks, disabled]

/-- Checks gate in order. An invocation whose commands are enabled goes on exactly if every check of
the sequence passes, and otherwise fails as the first that does not; nothing is asked behind that
one, nor in a group behind a member that passes. Checks added at run time come last among those of
their command. One of several roles is asked for as a group of roles is. -/
theorem checks_gate_in_order (d : Dispatcher σ) (s : Service σ) (inv : Invocation σ) :
    (d.passChecks inv s = .ok () ↔ Dispatcher.firstDisabled? s inv.target = none ∧
      ∀ check ∈ sequence d s inv.target, Passes inv.ctx check) ∧
    (∀ failure, d.passChecks inv s = .error (.check failure) ↔
      Dispatcher.firstDisabled? s inv.target = none ∧
        ∃ passed check rest, sequence d s inv.target = passed ++ check :: rest ∧
          (∀ other ∈ passed, Passes inv.ctx other) ∧ Fails inv.ctx check failure) ∧
    (∃ asked, AsksAll inv.ctx (sequence d s inv.target) asked ∧
      (evaluateAllBy (noting inv.ctx) (d.checksFor s inv.target)).run [] =
        (evaluateAll (d.checksFor s inv.target) inv.ctx, asked)) ∧
    (∀ added serial (c : Command σ), (addChecks s.registry added).checksOf serial c =
      c.parts.checks ++ (s.registry.standing serial c).extraChecks ++ addedTo serial c added) ∧
    ∀ roles, Passes inv.ctx (hasAnyRole roles) ↔ Passes inv.ctx (.any (roles.map hasRole)) := by
  refine ⟨?_, ?_, ?_, ?_, ?_⟩
  · cases disabled : Dispatcher.firstDisabled? s inv.target with
    | some c => simp [passChecks_of_disabled disabled]
    | none =>
      rw [passChecks_of_enabled disabled]
      simp only [true_and, ← passes_iff]
      rw [← evaluateAll_eq_ok_iff]
      cases evaluateAll (sequence d s inv.target) inv.ctx <;> simp
  · intro failure
    cases disabled : Dispatcher.firstDisabled? s inv.target with
    | some c => simp [passChecks_of_disabled disabled]
    | none =>
      rw [passChecks_of_enabled disabled]
      simp only [true_and, ← passes_iff, ← fails_iff]
      rw [← evaluateAll_eq_error_iff]
      cases evaluateAll (sequence d s inv.target) inv.ctx <;> simp
  · obtain ⟨asked, asks, told⟩ := asked_of_checks (sequence d s inv.target)
    refine ⟨asked, asks, ?_⟩
    rw [checksFor_eq, told, List.nil_append]
  · intro added serial c
    exact checksOf_addChecks s.registry serial c added
  · intro roles
    exact passes_any_of_roles

end ChatCommands.GatedChecks
