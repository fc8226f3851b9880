import ChatCommands.Proofs.CourseOrder
import ChatCommands.Proofs.FairSlots
import ChatCommands.Proofs.SlotDeals

/-! Slots of invocations whose arguments cannot be bound. The slot is given back on the very leg on
which it was given, so the invocation never waits with it. If it was free when it was asked for, all
counts are as before (`inFlight_of_returned`); if it came to a place in line, it goes on as if that
place had been given up. -/
namespace ChatCommands.UnboundSlots
open InvocationCourse CourseLegs SlotDeals SlotTraffic FairSlots LegalMarks CourseOrder

variable {σ : Type} {d : Dispatcher σ} {inv : Invocation σ}
  {m last start : Moment σ} {r : List Mark × Moment σ} {marks more : List Mark}
  {legs earlier later : List (Leg σ)} {leg : Leg σ} {error : CommandError}

/-! ## Slots that are given back -/

theorem binding_of_given (step : Step d m r) (given : .slot none ∈ r.1) :
    r.2.point = .binding := by
  have quiet {inv : Invocation σ} {stage : Stage} {p : Progress σ × Service σ} :
      .slot none ∉ (staged inv stage p).1 := fun told => by
    cases quiet_staged stage p _ told
  cases step with
  | admitted | called => rfl
  | passed =>
    rcases List.mem_cons.1 given with told | told
    · cases told
    · exact absurd told quiet
  | beforeCommand | beforeGlobal | body | afterCommand | afterGlobal | completion | commandHandler
  | moduleHandler | globalHandler | woken => exact absurd given quiet
  | _ => simp at given

theorem queued_of_place {inv : Invocation σ} {point : Point σ} {place : Place}
    (stands : stakeAt inv point = .place place) : point = .queued place := by
  have never (admission : Option Admission) : stakeOf admission ≠ .place place := by
    cases admission <;> nofun
  cases point with
  | queued =>
    cases stands
    rfl
  | concluding => exact absurd stands (never _)
  | _ =>
    simp only [stakeAt] at stands
    split at stands <;> first | exact absurd stands (never _) | cases stands

/-- Slots that were given to an invocation with some stake in them, and given back at once. -/
inductive Returned (before after : Slots) : Stake → Prop where
  | atOnce {key : SlotKey} {rule : Concurrency} {admission : Admission} {middle : Slots}
      (enters : before.enter key rule = (.admitted admission, middle))
      (same : after = (middle.release admission).1) : Returned before after .nothing
  | called {place : Place} {admission : Admission} {middle : Slots}
      (receives : before.receive place = some (admission, middle))
      (same : after = (middle.release admission).1) : Returned before after (.place place)

/-- The slot of an invocation whose arguments cannot be bound is given back, and no slot is asked
for after that. -/
theorem released_of_binding {admission : Admission} (goes : Goes d m marks last)
    (here : m.point = .binding) (holds : m.inv.admission = some admission)
    (unbound : .bound none ∉ marks)
    (ordered : marks.Pairwise fun early late => reach early < stationOf late) :
    last.service.slots = (m.service.slots.release admission).1 := by
  obtain ⟨inv, point, s⟩ := m
  cases here
  have given : (s.releaseSlot inv).slots = (s.slots.release admission).1 := by
    rw [Service.releaseSlot, show inv.admission = some admission from holds]
    exact slots_handOver _
  cases goes with
  | stop rests => exact absurd rests id
  | step _ first onward =>
    cases first with
    | bound => exact absurd (List.mem_append_left _ (List.mem_singleton.2 rfl)) unbound
    | broken =>
      cases onward with
      | stop => exact given
      | step moves => exact absurd trivial moves
    | unbound _ handled =>
      cases onward with
      | stop rests => exact absurd rests id
      | step _ second rest =>
        cases second with
        | reported =>
          have quiet := (List.pairwise_cons.1 ordered).1
          have kept := lawful_of_goes unasked_law rest nofun rfl fun mark told => by
            have beyond := quiet mark (List.mem_append_right _ told)
            cases mark with
            | inLine | slot => simp [reach, stationOf, handled] at beyond
            | _ => rfl
          exact kept.1.trans given

theorem returned_of_given (step : Step d m r) (fresh : Fresh m.inv m.point)
    (given : .slot none ∈ r.1) (goes : Goes d r.2 more last) (unbound : .bound none ∉ more)
    (ordered : more.Pairwise fun early late => reach early < stationOf late) :
    Returned m.service.slots last.service.slots (stakeAt m.inv m.point) := by
  have here := binding_of_given step given
  have held {admission : Admission} (slot : stakeAt r.2.inv r.2.point = .slot admission) :
      r.2.inv.admission = some admission := by
    rw [here] at slot
    cases kept : r.2.inv.admission with
    | none => simp [stakeAt, inside, stakeOf, kept] at slot
    | some other => simpa [stakeAt, inside, stakeOf, kept] using slot
  have back {admission : Admission} (slot : stakeAt r.2.inv r.2.point = .slot admission) :=
    released_of_binding goes here (held slot) unbound ordered
  have dealt := deals_of_step step fresh
  generalize stakeAt m.inv m.point = before at dealt
  generalize stakes : stakeAt r.2.inv r.2.point = after at dealt
  generalize r.1 = told at dealt given
  generalize r.2.service.slots = middle at dealt back
  cases dealt with
  | keeps quiet | gaveBack quiet => cases quiet _ given
  | admitted _ enters => exact .atOnce enters (back stakes)
  | called receives => exact .called receives (back stakes)
  | refused | lined => simp at given

/-- A step before the one at which a slot is given changes nothing about slots. -/
theorem waits_of_ungiven (step : Step d m r) (fresh : Fresh m.inv m.point)
    (unheld : ∀ admission, stakeAt m.inv m.point ≠ .slot admission)
    (goes : Goes d r.2 more last) (notYet : .slot none ∉ r.1) (given : .slot none ∈ more)
    (ordered : (r.1 ++ more).Pairwise fun early late => reach early < stationOf late) :
    r.2.service.slots = m.service.slots ∧ stakeAt m.inv m.point = .nothing ∧
      stakeAt r.2.inv r.2.point = .nothing := by
  have resting {place : Place} (stands : stakeAt r.2.inv r.2.point = .place place) : False := by
    have rests : r.2.point.AtRest := by
      rw [queued_of_place stands]
      trivial
    cases goes with
    | stop => cases given
    | step moves => exact moves rests
  have dealt := deals_of_step step fresh
  have apart := (List.pairwise_append.1 ordered).2.2
  generalize stakeAt m.inv m.point = before at dealt unheld
  generalize r.1 = told, stakes : stakeAt r.2.inv r.2.point = after at dealt notYet apart
  generalize slots : r.2.service.slots = onward at dealt
  cases dealt with
  | keeps quiet =>
    cases before with
    | nothing => exact ⟨rfl, rfl, rfl⟩
    | slot admission => exact absurd rfl (unheld admission)
    | place place => exact (resting stakes).elim
  | admitted | called => exact absurd (List.mem_singleton.2 rfl) notYet
  | refused =>
    have soon := apart _ (List.mem_singleton.2 rfl) _ given
    simp [reach, stationOf] at soon
  | lined => exact (resting stakes).elim
  | gaveBack => exact absurd rfl (unheld _)

/-- Either the first of some steps gives the slot, or one of those after it. -/
theorem returned_of_first (first : Step d m r) (fresh : Fresh m.inv m.point)
    (unheld : ∀ admission, stakeAt m.inv m.point ≠ .slot admission) (onward : Goes d r.2 more last)
    (given : .slot none ∈ r.1 ++ more) (unbound : .bound none ∉ r.1 ++ more)
    (ordered : (r.1 ++ more).Pairwise fun early late => reach early < stationOf late)
    (later : stakeAt r.2.inv r.2.point = .nothing → .slot none ∈ more → .bound none ∉ more →
      (more.Pairwise fun early late => reach early < stationOf late) →
      Returned r.2.service.slots last.service.slots .nothing) :
    Returned m.service.slots last.service.slots (stakeAt m.inv m.point) := by
  have after := (List.pairwise_append.1 ordered).2.1
  have still : .bound none ∉ more := fun told => unbound (List.mem_append_right _ told)
  by_cases now : .slot none ∈ r.1
  · exact returned_of_given first fresh now onward still after
  · have next := (List.mem_append.1 given).resolve_left now
    obtain ⟨same, before, nothing⟩ := waits_of_ungiven first fresh unheld onward now next ordered
    rw [before, ← same]
    exact later nothing next still after

theorem returned_of_goes (goes : Goes d m marks last) (fresh : Fresh m.inv m.point)
    (nothing : stakeAt m.inv m.point = .nothing) (given : .slot none ∈ marks)
    (unbound : .bound none ∉ marks)
    (ordered : marks.Pairwise fun early late => reach early < stationOf late) :
    Returned m.service.slots last.service.slots .nothing := by
  induction goes with
  | stop => cases given
  | @step m last r more _ first onward ih =>
    have unheld : ∀ admission, stakeAt m.inv m.point ≠ .slot admission := by simp [nothing]
    have returned := returned_of_first first fresh unheld onward given unbound ordered
      (ih (fresh_of_step first fresh))
    rwa [nothing] at returned

/-- A stretch on which a slot is given, but no arguments are bound, gives the slot back. -/
theorem returned_of_stretch (stretch : Stretch d start leg) (fresh : Fresh start.inv start.point)
    (unheld : ∀ admission, stakeAt start.inv start.point ≠ .slot admission)
    (given : .slot none ∈ leg.marks) (unbound : .bound none ∉ leg.marks)
    (ordered : leg.marks.Pairwise fun early late => reach early < stationOf late) :
    Returned leg.before.slots leg.after.service.slots (stakeAt start.inv start.point) := by
  obtain ⟨r, more, first, goes, whole⟩ := stretch.steps
  rw [whole] at given unbound ordered
  rw [← stretch.service]
  exact returned_of_first first fresh unheld goes given unbound ordered
    (returned_of_goes goes (fresh_of_step first fresh))

/-! ## Invocations that wait with a slot -/

/-- Past the binding of arguments, and not yet at the end. -/
def prepared : Point σ → Bool
  | .binding => false
  | point => inside point

/-- Nobody comes past the binding of arguments without having them bound. -/
def Binding (m : Moment σ) (marks : List Mark) (last : Moment σ) : Prop :=
  prepared last.point = true → prepared m.point = true ∨ .bound none ∈ marks

theorem binding_of_step (step : Step d m r) : Binding m r.1 r.2 := by
  have same {inv : Invocation σ} {stage : Stage} {p : Progress σ × Service σ} :
      prepared (staged inv stage p).2.point = surrounds stage := by
    obtain ⟨progress, t⟩ := p
    cases progress <;> rfl
  intro past
  cases step with
  | bound => exact .inr (List.mem_singleton.2 rfl)
  | passed | completion | commandHandler | moduleHandler | globalHandler => cases same ▸ past
  | beforeCommand | beforeGlobal | body | afterCommand | afterGlobal => exact .inl rfl
  | woken => exact .inl (same ▸ past :)
  | noBeforeCommand | beforeCommandFailed | beforeGlobalFailed | worked | noAfterCommand =>
    exact .inl rfl
  | _ => cases past

theorem bound_of_prepared (course : Course d inv legs m) (past : prepared m.point = true) :
    .bound none ∈ trace legs := by
  have nil (m : Moment σ) : Binding m [] m := .inl
  have append {m middle last : Moment σ} {first second : List Mark} (before : Binding m first middle)
      (after : Binding middle second last) : Binding m (first ++ second) last := by
    intro past
    rcases after past with passed | told
    · rcases before passed with earlier | told
      · exact .inl earlier
      · exact .inr (List.mem_append_left _ told)
    · exact .inr (List.mem_append_right _ told)
  induction course with
  | begun goes =>
    rw [trace, List.flatMap_singleton]
    have whole := Goes.lift nil append binding_of_step goes past
    exact whole.resolve_left Bool.false_ne_true
  | resumed _ first goes ih =>
    rw [trace, List.flatMap_append, List.flatMap_singleton, List.mem_append]
    exact (append (binding_of_step first) (Goes.lift nil append binding_of_step goes) past).imp_left
      ih

/-- Nobody whose arguments are not bound waits with a slot. -/
theorem unheld_of_begins (begins : Begins d inv legs start) (unbound : .bound none ∉ trace legs)
    (admission : Admission) : stakeAt start.inv start.point ≠ .slot admission := by
  intro holds
  cases begins with
  | first => cases holds
  | @next _ m later course =>
    have rests := rests_of_course course
    refine unbound (bound_of_prepared course ?_)
    obtain ⟨inv, point, s⟩ := m
    cases point with
    | waiting stage pause =>
      by_contra away
      have beyond : ¬ inside (.waiting stage pause : Point σ) = true := away
      have stands : (if inside (.waiting stage pause : Point σ) then stakeOf inv.admission
        else .nothing) = .slot admission := holds
      rw [if_neg beyond] at stands
      cases stands
    | queued | ended => cases holds
    | _ => exact absurd rests id

/-! ## What is counted -/

/-- A slot that is given to somebody who asks, and given back at once, changes no count: nobody
waited for it. -/
theorem inFlight_of_returned {u : Traffic} (sound : Sound u) {key : SlotKey} {rule : Concurrency}
    {admission : Admission} {middle : Slots}
    (enters : u.slots.enter key rule = (.admitted admission, middle)) (other : SlotKey) :
    (middle.release admission).1.inFlight other = u.slots.inFlight other := by
  obtain ⟨bucket, opened, opens, change, -⟩ := bucketFor_change sound key rule
  obtain ⟨here, others⟩ := inFlight_bucketFor opens
  unfold Slots.enter at enters
  simp only [opens] at enters
  split at enters
  · rename_i free
    cases enters
    have noLine := change.serves.busy free
    have kept : (opened.buckets.set key { bucket with inFlight := bucket.inFlight + 1 }).get? key =
        some { bucket with inFlight := bucket.inFlight + 1 } := by
      rw [Table.get?_set, if_pos rfl]
    have back := release_of_found
      (s := { opened with
        buckets := opened.buckets.set key { bucket with inFlight := bucket.inFlight + 1 } }) kept
    rw [back, inFlight_set]
    split
    · rename_i same
      subst same
      simp [SlotBucket.release, noLine, SlotBucket.nextInLine, here]
    · rename_i different
      rw [inFlight_set, if_neg different]
      exact others other
  · split at enters <;> cases enters

theorem abandon_of_receive {slots middle : Slots} {place : Place} {admission : Admission}
    (receives : slots.receive place = some (admission, middle)) :
    slots.abandon place = middle.release admission := by
  simp only [Slots.abandon, receives]

/-- What a leg does to the slots for an invocation whose arguments cannot be bound. Either all counts
stay as they are, or it stood in line and a slot that was on its way to it goes on as if it had given
up its place. -/
inductive Unspent (earlier : List (Leg σ)) (before after : Slots) : Prop where
  | counted (same : ∀ moves, before = (Traffic.run moves).slots →
      ∀ key, after.inFlight key = before.inFlight key) : Unspent earlier before after
  | passedOn {leg : Leg σ} {place : Place} (stood : leg ∈ earlier)
      (inLine : leg.after.point = .queued place) (same : after = (before.abandon place).1) :
      Unspent earlier before after

theorem unspent_of_course (course : Course d inv legs m) (free : inv.admission = none)
    (told : .bound (some error) ∈ trace legs) (split : legs = earlier ++ leg :: later) :
    Unspent earlier leg.before.slots leg.after.service.slots := by
  have unbound : .bound none ∉ trace legs := fun also => by
    cases sole_of_course course told also rfl
  have ordered := ordered_of_course course
  rw [split, trace, List.flatMap_append, List.flatMap_cons] at unbound ordered
  rw [List.mem_append, List.mem_append, not_or, not_or] at unbound
  obtain ⟨before, here, -⟩ := unbound
  have inOrder := (List.pairwise_append.1 (List.pairwise_append.1 ordered).2.1).1
  obtain ⟨start, begins, stretch⟩ := leg_of_course course split
  have fresh := invariant_of_begins (P := Fresh) (fun _ => free) fresh_of_step begins
  have unheld := unheld_of_begins begins before
  by_cases given : .slot none ∈ leg.marks
  · have returned := returned_of_stretch stretch fresh unheld given here inOrder
    generalize stakes : stakeAt start.inv start.point = stake at returned
    cases returned with
    | atOnce enters same =>
      refine .counted fun moves reached key => ?_
      rw [same, reached]
      rw [reached] at enters
      exact inFlight_of_returned (run_sound moves) enters key
    | @called place _ _ receives same =>
      have stands := queued_of_place stakes
      cases begins with
      | first => cases stands
      | next course =>
        obtain ⟨leg, member, rfl⟩ := last_of_course course
        exact .passedOn member stands (by rw [same, abandon_of_receive receives])
  · have ungiven : ∀ mark ∈ leg.marks, mark ≠ .slot none := by
      rintro mark member rfl
      exact given member
    have kept := (lawful_of_stretch ungranted_law stretch fresh unheld ungiven).1
    rw [stretch.service] at kept
    exact .counted fun _ _ => kept

end ChatCommands.UnboundSlots
