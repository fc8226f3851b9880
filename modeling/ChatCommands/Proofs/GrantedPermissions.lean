import ChatCommands.Check
import Mathlib.Logic.Basic

/-! What the check for permissions lets through. A requirement is granted bit by bit, but the check
refuses by name: what is missing is told by the names of its bits, and nothing is refused for which
there is nothing to tell. So the check agrees with what is granted wherever a missing bit has a
name, and lets everybody through who lacks only bits without one. -/
namespace ChatCommands.GrantedPermissions
open Permissions

variable {p q required : Permissions} {name : String} {position : Nat}

/-- A bit is required and not held. -/
def Lacks (p required : Permissions) (position : Nat) : Prop :=
  required.bits.getLsbD position = true ∧ p.bits.getLsbD position = false

def HasName (position : Nat) : Prop := ∃ name, (name, position) ∈ named

theorem contains_iff : p.contains q = true ↔ ∀ position, ¬ Lacks p q position := by
  rw [contains, beq_iff_eq]
  constructor
  · rintro whole position ⟨inside, missing⟩
    have bit := congrArg (·.getLsbD position) whole
    simp [BitVec.getLsbD_and, inside, missing] at bit
  · intro none
    refine BitVec.eq_of_getLsbD_eq fun position _ => ?_
    have kept := none position
    rw [BitVec.getLsbD_and]
    cases inside : q.bits.getLsbD position with
    | false => simp
    | true => simpa [Lacks, inside] using kept

theorem grants_iff : p.grants required = true ↔
    p.contains administrator = true ∨ ∀ position, ¬ Lacks p required position := by
  rw [grants, Bool.or_eq_true, contains_iff (q := required)]

theorem getLsbD_without :
    (required.without p).bits.getLsbD position = true ↔ Lacks p required position := by
  have bounded : required.bits.getLsbD position = true → position < 64 := BitVec.lt_of_getLsbD
  simp only [without, Lacks, BitVec.getLsbD_and, BitVec.getLsbD_not, Bool.and_eq_true,
    decide_eq_true_eq, Bool.not_eq_true']
  constructor
  · rintro ⟨inside, -, missing⟩
    exact ⟨inside, missing⟩
  · rintro ⟨inside, missing⟩
    exact ⟨inside, bounded inside, missing⟩

theorem mem_names_without : name ∈ (required.without p).names ↔
    ∃ position, (name, position) ∈ named ∧ Lacks p required position := by
  simp only [names, List.mem_map, List.mem_filter, getLsbD_without, Prod.exists, exists_and_right,
    exists_eq_right]

/-- Nothing is told as missing exactly if everything is granted or no missing bit has a name. -/
theorem missing_eq_nil_iff : p.missing required = [] ↔
    p.grants required = true ∨ ∀ position, Lacks p required position → ¬ HasName position := by
  cases granted : p.grants required with
  | true => simp [missing, granted]
  | false =>
    simp only [missing, granted, Bool.false_eq_true, if_false, false_or,
      List.eq_nil_iff_forall_not_mem, mem_names_without]
    constructor
    · rintro none position lacks ⟨name, listed⟩
      exact none name ⟨position, listed, lacks⟩
    · rintro unnamed name ⟨position, listed, lacks⟩
      exact unnamed position lacks ⟨name, listed⟩

theorem evaluate_hasPermissions (required : Permissions) (ctx : Context) :
    (Check.hasPermissions required).evaluate ctx =
      if ctx.author.permissions.missing required = [] then .ok ()
      else .error (.missingPermissions (ctx.author.permissions.missing required)) := by
  simp [Check.hasPermissions]

/-- The check for permissions passes everybody to whom they are granted, and whom else it passes
lacks only bits without a name. So it agrees with what is granted exactly where something is granted
or one of the missing bits has a name, and then it refuses with the names of the missing bits. -/
theorem check_passes_unless_named_bit_missing (required : Permissions) (ctx : Context) :
    let held := ctx.author.permissions
    let answer := (Check.hasPermissions required).evaluate ctx
    (held.grants required = true ↔
      held.contains administrator = true ∨ ∀ position, ¬ Lacks held required position) ∧
    (answer = .ok () ↔
      held.grants required = true ∨ ∀ position, Lacks held required position → ¬ HasName position) ∧
    ((answer = .ok () ↔ held.grants required = true) ↔
      held.grants required = true ∨ ∃ position, Lacks held required position ∧ HasName position) ∧
    (answer ≠ .ok () → answer = .error (.missingPermissions (held.missing required)) ∧
      ∀ name, name ∈ held.missing required ↔
        ∃ position, (name, position) ∈ named ∧ Lacks held required position) := by
  intro held answer
  have told : answer = _ := evaluate_hasPermissions required ctx
  have passes : answer = .ok () ↔ held.grants required = true ∨
      ∀ position, Lacks held required position → ¬ HasName position := by
    rw [← missing_eq_nil_iff, told]
    by_cases nothing : held.missing required = [] <;> simp [held, nothing]
  refine ⟨grants_iff, passes, ?_, fun refused => ?_⟩
  · rw [passes]
    by_cases granted : held.grants required = true
    · simp [granted]
    · simp [granted]
  · have something : held.missing required ≠ [] := fun nothing =>
      refused (passes.2 (missing_eq_nil_iff.1 nothing))
    have notGranted : held.grants required = false :=
      Bool.eq_false_iff.2 fun granted => refused (passes.2 (.inl granted))
    refine ⟨by rw [told, if_neg something], fun name => ?_⟩
    rw [missing, if_neg (by simp [notGranted]), mem_names_without]

/-- The lowest bit has no name, and nobody is refused for want of it. -/
theorem nameless_bit_let_through :
    let anybody : Context := {
      author := { id := 1, name := "" }
      origin := ⟨.direct, none, { id := 9, name := "" }⟩
      content := ""
      responder := .discard
      directory := .ofLists [] [] [] [] }
    let required : Permissions := ⟨1⟩
    (Check.hasPermissions required).evaluate anybody = .ok () ∧
      anybody.author.permissions.contains administrator = false ∧
      anybody.author.permissions.grants required = false :=
  ⟨rfl, rfl, rfl⟩

end ChatCommands.GrantedPermissions
