import ChatCommands.Proofs.LegalMarks

/-! The order of marks on every course, also where hooks panic. Each mark has a station, and rules out
all that follow it up to some later one: a refusal rules out everything before the error handlers,
and a hook's panic whatever there is. At every point the way up to some station is behind an
invocation. A step leaves only marks from beyond that station, and what they rule out is behind the
invocation after it. -/
namespace ChatCommands.CourseOrder
open InvocationCourse LegalMarks

variable {σ : Type} {d : Dispatcher σ} {inv : Invocation σ} {m last : Moment σ}
  {r : List Mark × Moment σ} {marks : List Mark} {legs : List (Leg σ)}

/-- The last station that cannot follow a mark any more. -/
def reach : Mark → Nat
  | .checked (some _) | .cooled (some _) | .slot (some _) => 12
  | .bound (some error) => if error.isPanic then 15 else 12
  | .ran .body _ => 9
  | .ran _ (.panicked _) => 15
  | .ran .beforeCommand (.failed _) | .ran .beforeGlobal (.failed _) => 9
  | .ran (.handler _ _) .done => 15
  | mark => stationOf mark

/-- The last station that cannot follow a point any more. -/
def behind : Point σ → Nat
  | .arrived => 0
  | .left stage outcome => reach (.ran (partOf stage) outcome)
  | .entering => 3
  | .queued _ => 4
  | .binding => 5
  | .preparing _ => 6
  | .leaving _ => 9
  | .concluding (.ok _) => 11
  | .concluding (.error _) => 12
  | .asking level _ => rank level - 1
  | .waiting stage _ => station (partOf stage) - 1
  | .ended => 15

/-- From one station to another, every mark comes from beyond all that the marks before it rule
out. -/
def Climbs (low : Nat) : List Mark → Nat → Prop
  | [], high => low ≤ high
  | mark :: rest, high => low < stationOf mark ∧ Climbs (reach mark) rest high

theorem stationOf_le_reach (mark : Mark) : stationOf mark ≤ reach mark := by
  cases mark with
  | ran part outcome =>
    cases part with
    | handler level error => cases level <;> cases outcome <;> simp [reach, stationOf, station, rank]
    | _ => cases outcome <;> simp [reach, stationOf, station]
  | checked refusal | cooled refusal | slot refusal => cases refusal <;> simp [reach, stationOf]
  | bound refusal =>
    cases refusal with
    | none => exact Nat.le_refl _
    | some error => cases error <;> simp [reach, stationOf, CommandError.isPanic]
  | _ => simp [reach]

theorem climbs_append {low middle high : Nat} {first second : List Mark}
    (before : Climbs low first middle) (after : Climbs middle second high) :
    Climbs low (first ++ second) high := by
  induction first generalizing low with
  | nil =>
    cases second with
    | nil => exact Nat.le_trans before after
    | cons mark rest => exact ⟨Nat.lt_of_le_of_lt before after.1, after.2⟩
  | cons mark rest ih => exact ⟨before.1, ih before.2⟩

/-- The marks of a climb come from beyond its beginning and rule out nothing beyond its end. -/
theorem bounds_of_climbs {low high : Nat} (climbs : Climbs low marks high) :
    low ≤ high ∧ ∀ mark ∈ marks, low < stationOf mark ∧ reach mark ≤ high := by
  induction marks generalizing low with
  | nil => exact ⟨climbs, by simp⟩
  | cons mark rest ih =>
    obtain ⟨here, later⟩ := climbs
    obtain ⟨whole, others⟩ := ih later
    have onward := stationOf_le_reach mark
    refine ⟨by omega, fun other member => ?_⟩
    rcases List.mem_cons.1 member with rfl | member
    · exact ⟨here, whole⟩
    · have beyond := others other member
      exact ⟨by omega, beyond.2⟩

theorem pairwise_of_climbs {low high : Nat} (climbs : Climbs low marks high) :
    marks.Pairwise fun early late => reach early < stationOf late := by
  induction marks generalizing low with
  | nil => exact .nil
  | cons mark rest ih =>
    obtain ⟨-, later⟩ := climbs
    exact .cons (fun other member => ((bounds_of_climbs later).2 other member).1) (ih later)

theorem climbs_staged {low : Nat} (stage : Stage) (ahead : low < station (partOf stage))
    (p : Progress σ × Service σ) :
    Climbs low (staged inv stage p).1 (behind (staged inv stage p).2.point) := by
  obtain ⟨progress, s⟩ := p
  cases progress with
  | ended outcome => exact ⟨ahead, Nat.le_refl _⟩
  | paused pause => exact Nat.le_sub_one_of_lt ahead

theorem behind_left {stage : Stage} {outcome : Outcome} (returns : Returns outcome)
    (hook : stage = .onCommand ∨ stage = .completion ∨ (∃ failure, stage = .afterCommand failure) ∨
      ∃ failure shared, stage = .afterGlobal failure shared) :
    behind (.left stage outcome : Point σ) = station (partOf stage) := by
  rcases hook with rfl | rfl | ⟨failure, rfl⟩ | ⟨failure, shared, rfl⟩ <;>
    exact returns.cases rfl fun _ => rfl

theorem station_pos (part : Part) : 0 < station part := by
  rcases part with _ | _ | _ | _ | _ | _ | _ | ⟨_ | _ | _⟩ <;> exact Nat.succ_pos _

/-- A step climbs from what is behind its point to what is behind the next. -/
theorem climbs_of_step (step : Step d m r) : Climbs (behind m.point) r.1 (behind r.2.point) := by
  cases step with
  | passed => exact ⟨Nat.zero_lt_one, climbs_staged .onCommand (Nat.lt_add_one _) _⟩
  | beforeCommand | beforeGlobal | body | afterCommand | completion | commandHandler
  | moduleHandler | globalHandler => exact climbs_staged _ (Nat.lt_add_one _) _
  | afterGlobal returns =>
    rw [behind_left returns (by simp)]
    exact climbs_staged _ (Nat.lt_add_one _) _
  | cooled returns | denied returns | completed returns | failed returns | succeeded returns =>
    rw [behind_left returns (by simp)]
    simp [Climbs, behind, reach, stationOf, station, partOf]
  | @woken inv s stage pause =>
    exact climbs_staged stage (Nat.sub_lt (station_pos _) Nat.one_pos) _
  | @panicked inv s stage message hook =>
    rcases stage with _ | _ | _ | _ | _ | _ | _ | ⟨_ | _ | _⟩ <;>
      first | exact Nat.le_refl _ | exact absurd rfl hook
  | settled | worked => exact Nat.le_refl _
  | unbound _ handled => simp [Climbs, behind, reach, stationOf, handled]
  | broken => exact ⟨Nat.lt_add_one _, Nat.le_refl _⟩
  | _ => simp [Climbs, behind, reach, stationOf, station, rank, partOf]

theorem climbs_of_goes (goes : Goes d m marks last) :
    Climbs (behind m.point) marks (behind last.point) := by
  induction goes with
  | stop => exact Nat.le_refl _
  | step _ first _ ih => exact climbs_append (climbs_of_step first) ih

theorem climbs_of_course (course : Course d inv legs m) :
    Climbs 0 (trace legs) (behind m.point) := by
  induction course with
  | begun goes =>
    rw [trace, List.flatMap_singleton]
    exact climbs_of_goes goes
  | @resumed legs m last later r more _ first goes ih =>
    have woken := climbs_of_step first
    rw [trace, List.flatMap_append, List.flatMap_singleton]
    exact climbs_append ih (climbs_append woken (climbs_of_goes goes))

/-- On every course a mark is followed only by marks from beyond all that it rules out. -/
theorem ordered_of_course (course : Course d inv legs m) :
    (trace legs).Pairwise fun early late => reach early < stationOf late :=
  pairwise_of_climbs (climbs_of_course course)

/-- Whatever was told of an invocation, what that rules out is behind it. -/
theorem reach_le_behind (course : Course d inv legs m) :
    ∀ mark ∈ trace legs, reach mark ≤ behind m.point := fun mark told =>
  ((bounds_of_climbs (climbs_of_course course)).2 mark told).2

/-- No two marks of one station are told. -/
theorem sole_of_course (course : Course d inv legs m) {one other : Mark} (told : one ∈ trace legs)
    (also : other ∈ trace legs) (same : stationOf one = stationOf other) : other = one := by
  obtain ⟨before, after, shape⟩ := List.append_of_mem told
  have ordered := ordered_of_course course
  rw [shape] at ordered also
  obtain ⟨-, onward, earlier⟩ := List.pairwise_append.1 ordered
  have here := stationOf_le_reach one
  have there := stationOf_le_reach other
  rcases List.mem_append.1 also with early | late
  · have soon := earlier other early one List.mem_cons_self
    omega
  · rcases List.mem_cons.1 late with rfl | later
    · rfl
    · have beyond := (List.pairwise_cons.1 onward).1 other later
      omega

/-- Whatever else is told comes before a mark, or from beyond all that the mark rules out. -/
theorem before_or_beyond (course : Course d inv legs m) {one other : Mark} (told : one ∈ trace legs)
    (also : other ∈ trace legs) :
    stationOf other ≤ stationOf one ∨ reach one < stationOf other := by
  obtain ⟨before, after, shape⟩ := List.append_of_mem told
  have ordered := ordered_of_course course
  rw [shape] at ordered also
  obtain ⟨-, onward, earlier⟩ := List.pairwise_append.1 ordered
  have there := stationOf_le_reach other
  rcases List.mem_append.1 also with early | late
  · have soon := earlier other early one List.mem_cons_self
    exact .inl (by omega)
  · rcases List.mem_cons.1 late with rfl | later
    · exact .inl (Nat.le_refl _)
    · exact .inr ((List.pairwise_cons.1 onward).1 other later)

end ChatCommands.CourseOrder
