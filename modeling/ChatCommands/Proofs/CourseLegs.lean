import ChatCommands.Proofs.InvocationCourse
import Mathlib.Data.List.Infix

/-! The legs of a course, one by one. A leg begins where the leg before it came to rest, at whatever
service it finds, and is made of one step and the steps after it up to the next rest. So what every
step brings about, and two stretches do if each of them does, every leg brings about
(`Stretch.lift`). -/
namespace ChatCommands.CourseLegs
open InvocationCourse

variable {σ : Type} {d : Dispatcher σ} {inv : Invocation σ} {m last start : Moment σ}
  {marks : List Mark} {legs earlier later : List (Leg σ)} {leg : Leg σ}

/-- Where the leg after some legs begins. -/
inductive Begins (d : Dispatcher σ) (inv : Invocation σ) : List (Leg σ) → Moment σ → Prop where
  | first {s : Service σ} : Begins d inv [] ⟨inv, .arrived, s⟩
  | next {legs : List (Leg σ)} {m : Moment σ} {later : Service σ} (course : Course d inv legs m) :
      Begins d inv legs { m with service := later }

/-- A leg is a step and the steps after it up to a rest. -/
structure Stretch (d : Dispatcher σ) (start : Moment σ) (leg : Leg σ) : Prop where
  service : start.service = leg.before
  steps : ∃ r more, Step d start r ∧ Goes d r.2 more leg.after ∧ leg.marks = r.1 ++ more

theorem stretch_of_goes {s : Service σ} (goes : Goes d ⟨inv, .arrived, s⟩ marks last) :
    Stretch d ⟨inv, .arrived, s⟩ ⟨s, marks, last⟩ := by
  cases goes with
  | stop rests => exact absurd rests id
  | step _ first onward => exact ⟨rfl, _, _, first, onward, rfl⟩

/-- Every leg of a course begins where the legs before it ended. -/
theorem leg_of_course (course : Course d inv legs m) (split : legs = earlier ++ leg :: later) :
    ∃ start, Begins d inv earlier start ∧ Stretch d start leg := by
  induction course generalizing later with
  | begun goes =>
    simp only [List.singleton_eq_append_iff, List.cons.injEq, reduceCtorEq, and_false,
      or_false] at split
    obtain ⟨rfl, rfl, rfl⟩ := split
    exact ⟨_, .first, stretch_of_goes goes⟩
  | @resumed legs m last service r more before first goes ih =>
    rcases List.eq_nil_or_concat' later with rfl | ⟨rest, final, rfl⟩
    · obtain ⟨rfl, same⟩ := List.append_inj' split rfl
      cases same
      exact ⟨_, .next before, rfl, r, more, first, goes, rfl⟩
    · rw [← List.cons_append, ← List.append_assoc] at split
      exact ih (List.append_inj' split rfl).1

/-- A course up to the end of one of its legs is a course. -/
theorem course_upto (course : Course d inv legs m) (split : legs = earlier ++ leg :: later) :
    Course d inv (earlier ++ [leg]) leg.after := by
  induction course generalizing later with
  | begun goes =>
    simp only [List.singleton_eq_append_iff, List.cons.injEq, reduceCtorEq, and_false,
      or_false] at split
    obtain ⟨rfl, rfl, rfl⟩ := split
    exact .begun goes
  | @resumed legs m last service r more before first goes ih =>
    rcases List.eq_nil_or_concat' later with rfl | ⟨rest, final, rfl⟩
    · obtain ⟨rfl, same⟩ := List.append_inj' split rfl
      cases same
      exact .resumed before first goes
    · rw [← List.cons_append, ← List.append_assoc] at split
      exact ih (List.append_inj' split rfl).1

theorem last_of_course (course : Course d inv legs m) : ∃ leg ∈ legs, leg.after = m := by
  cases course with
  | begun => exact ⟨_, List.mem_singleton.2 rfl, rfl⟩
  | resumed => exact ⟨_, List.mem_append_right _ (List.mem_singleton.2 rfl), rfl⟩

/-- What is brought about by every step, and by two stretches if each of them brings it about. -/
theorem Goes.lift {R : Moment σ → List Mark → Moment σ → Prop} (refl : ∀ m, R m [] m)
    (trans : ∀ {m middle last first second}, R m first middle → R middle second last →
      R m (first ++ second) last)
    (steps : ∀ {m r}, Step d m r → R m r.1 r.2) (goes : Goes d m marks last) : R m marks last := by
  induction goes with
  | stop => exact refl _
  | step _ first _ ih => exact trans (steps first) ih

theorem Stretch.lift {R : Moment σ → List Mark → Moment σ → Prop} (refl : ∀ m, R m [] m)
    (trans : ∀ {m middle last first second}, R m first middle → R middle second last →
      R m (first ++ second) last)
    (steps : ∀ {m r}, Step d m r → R m r.1 r.2) (stretch : Stretch d start leg) :
    R start leg.marks leg.after := by
  obtain ⟨r, more, first, goes, whole⟩ := stretch.steps
  rw [whole]
  exact trans (steps first) (Goes.lift refl trans steps goes)

/-- What holds of an invocation before its checks and is kept by every step holds along every course,
whatever others do to the service. -/
theorem invariant_of_course {P : Invocation σ → Point σ → Prop} (arrived : P inv .arrived)
    (steps : ∀ {m r}, Step d m r → P m.inv m.point → P r.2.inv r.2.point)
    (course : Course d inv legs m) : P m.inv m.point := by
  have onward {m last : Moment σ} {marks : List Mark} (goes : Goes d m marks last)
      (before : P m.inv m.point) : P last.inv last.point := by
    induction goes with
    | stop => exact before
    | step _ first _ ih => exact ih (steps first before)
  induction course with
  | begun goes => exact onward goes arrived
  | resumed _ first goes ih => exact onward goes (steps first ih)

theorem invariant_of_begins {P : Invocation σ → Point σ → Prop} (arrived : P inv .arrived)
    (steps : ∀ {m r}, Step d m r → P m.inv m.point → P r.2.inv r.2.point)
    (begins : Begins d inv legs start) : P start.inv start.point := by
  cases begins with
  | first => exact arrived
  | next course =>
    have before := invariant_of_course arrived steps course
    exact before

theorem target_of_step {r : List Mark × Moment σ} (step : Step d m r) :
    r.2.inv.target = m.inv.target := by
  rw [inv_of_step step]

theorem target_of_begins (begins : Begins d inv earlier start) :
    start.inv.target = inv.target :=
  invariant_of_begins (P := fun other _ => other.target = inv.target) rfl
    (fun step before => (target_of_step step).trans before) begins

end ChatCommands.CourseLegs
