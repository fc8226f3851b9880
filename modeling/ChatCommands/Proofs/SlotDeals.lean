import ChatCommands.Proofs.CourseLegs
import ChatCommands.Proofs.ScriptFrame

/-! What invocations have to do with the slots. At every point an invocation has nothing of them, a
place in line, or a slot. A step deals with the slots in one of a few ways, and what the invocation
has of them changes with it (`deals_of_step`); at all other steps the slots and what it has of them
stay as they are. -/
namespace ChatCommands.SlotDeals
open InvocationCourse CourseLegs ScriptFrame Dispatcher

variable {σ : Type} {d : Dispatcher σ} {inv : Invocation σ} {m : Moment σ}
  {r : List Mark × Moment σ} {s t : Service σ}

/-- What an invocation has of the slots. -/
inductive Stake where
  | nothing
  | slot (admission : Admission)
  | place (place : Place)
  deriving DecidableEq

/-- The stages around the body and the body. -/
def surrounds : Stage → Bool
  | .beforeCommand _ | .beforeGlobal _ | .body | .afterCommand _ | .afterGlobal _ _ => true
  | _ => false

/-- An invocation has passed the slots, and its after hooks have not ended. -/
def inside : Point σ → Bool
  | .binding | .preparing _ | .leaving _ => true
  | .left stage _ | .waiting stage _ => surrounds stage
  | _ => false

/-- An invocation has not come past the slots. -/
def outside : Point σ → Bool
  | .arrived | .entering | .queued _ | .left .onCommand _ | .waiting .onCommand _ => true
  | _ => false

def stakeOf : Option Admission → Stake
  | some admission => .slot admission
  | none => .nothing

/-- What an invocation at a point has of the slots. It holds its slot until it concludes. -/
def stakeAt (inv : Invocation σ) : Point σ → Stake
  | .queued place => .place place
  | .concluding _ => stakeOf inv.admission
  | point => if inside point then stakeOf inv.admission else .nothing

def Fresh (inv : Invocation σ) (point : Point σ) : Prop :=
  outside point = true → inv.admission = none

/-- A mark tells that a slot was asked for. -/
def asksSlot : Mark → Bool
  | .inLine | .slot _ => true
  | _ => false

/-- The slots before and after a step, with what an invocation has of them and the marks of the
step. -/
inductive Deals (inv : Invocation σ) : Slots → Stake → List Mark → Slots → Stake → Prop where
  | keeps {slots : Slots} {stake : Stake} {marks : List Mark}
      (quiet : ∀ mark ∈ marks, asksSlot mark = false) : Deals inv slots stake marks slots stake
  | admitted {slots after : Slots} {rule : Concurrency} {admission : Admission}
      (limited : inv.command.parts.concurrency = some rule)
      (enters : slots.enter (Slots.keyFor inv.name rule inv.ctx) rule =
        (.admitted admission, after)) :
      Deals inv slots .nothing [.slot none] after (.slot admission)
  | refused {slots after : Slots} {rule : Concurrency} {max : Nat} {error : CommandError}
      (limited : inv.command.parts.concurrency = some rule)
      (enters : slots.enter (Slots.keyFor inv.name rule inv.ctx) rule = (.saturated max, after)) :
      Deals inv slots .nothing [.slot (some error)] after .nothing
  | lined {slots after : Slots} {rule : Concurrency} {place : Place}
      (limited : inv.command.parts.concurrency = some rule)
      (enters : slots.enter (Slots.keyFor inv.name rule inv.ctx) rule = (.queued place, after)) :
      Deals inv slots .nothing [.inLine] after (.place place)
  | called {slots after : Slots} {place : Place} {admission : Admission}
      (receives : slots.receive place = some (admission, after)) :
      Deals inv slots (.place place) [.slot none] after (.slot admission)
  | gaveBack {slots : Slots} {admission : Admission} {marks : List Mark}
      (quiet : ∀ mark ∈ marks, asksSlot mark = false) :
      Deals inv slots (.slot admission) marks (slots.release admission).1 .nothing

theorem fresh_of_step (step : Step d m r) (fresh : Fresh m.inv m.point) :
    Fresh r.2.inv r.2.point := by
  have staged_fresh {inv : Invocation σ} {stage : Stage} {p : Progress σ × Service σ}
      (before : stage = .onCommand → inv.admission = none) :
      Fresh (staged inv stage p).2.inv (staged inv stage p).2.point := by
    obtain ⟨progress, t⟩ := p
    intro isOutside
    cases progress <;> cases stage <;>
      first | exact before rfl | (simp [staged, outside] at isOutside)
  cases step with
  | passed => exact staged_fresh fun _ => fresh rfl
  | beforeCommand | beforeGlobal | body | afterCommand | afterGlobal | completion | commandHandler
  | moduleHandler | globalHandler => exact staged_fresh fun first => by cases first
  | @woken inv s stage pause =>
    refine staged_fresh ?_
    rintro rfl
    exact fresh rfl
  | cooled | queued => exact fun _ => fresh rfl
  | inLine | ended => exact fresh
  | _ =>
    intro isOutside
    cases isOutside

theorem stakeAt_staged (stage : Stage) (p : Progress σ × Service σ) :
    stakeAt inv (staged inv stage p).2.point =
      if surrounds stage then stakeOf inv.admission else .nothing := by
  obtain ⟨progress, t⟩ := p
  cases progress <;> rfl

theorem quiet_staged (stage : Stage) (p : Progress σ × Service σ) :
    ∀ mark ∈ (staged inv stage p).1, asksSlot mark = false := by
  obtain ⟨progress, t⟩ := p
  cases progress <;> simp [staged, asksSlot]

theorem service_staged (stage : Stage) (p : Progress σ × Service σ) :
    (staged inv stage p).2.service = p.2 := by
  obtain ⟨progress, t⟩ := p
  cases progress <;> rfl

theorem Deals.congr {slots after later : Slots} {stake kept holds : Stake} {marks : List Mark}
    (deals : Deals inv slots stake marks after kept) (same : later = after) (also : holds = kept) :
    Deals inv slots stake marks later holds := by
  subst same also
  exact deals

theorem Deals.of_same {slots after : Slots} {stake kept : Stake} {marks : List Mark}
    (same : after = slots) (also : kept = stake) (quiet : ∀ mark ∈ marks, asksSlot mark = false) :
    Deals inv slots stake marks after kept :=
  (Deals.keeps quiet).congr same also

/-- A stage's script leaves the slots alone, and the invocation keeps what it has of them. -/
theorem keeps_staged (held : Invocation σ) {stake : Stake} (stage : Stage)
    {p : Progress σ × Service σ} (spares : Spares s p.2)
    (same : stake = if surrounds stage then stakeOf held.admission else .nothing) :
    (staged held stage p).2.service.slots = s.slots ∧
      stakeAt (staged held stage p).2.inv (staged held stage p).2.point = stake := by
  rw [inv_staged, stakeAt_staged, service_staged]
  exact ⟨spares.slots, same.symm⟩

theorem deals_of_staged {held : Invocation σ} {slots : Slots} {stake : Stake} (stage : Stage)
    {p : Progress σ × Service σ} (spares : Spares s p.2) (here : s.slots = slots)
    (same : stake = if surrounds stage then stakeOf held.admission else .nothing) :
    Deals inv slots stake (staged held stage p).1 (staged held stage p).2.service.slots
      (stakeAt (staged held stage p).2.inv (staged held stage p).2.point) :=
  have kept := keeps_staged held stage spares same
  .of_same (kept.1.trans here) kept.2 (quiet_staged stage p)

theorem deals_of_launch {held : Invocation σ} {slots : Slots} {stake : Stake} (stage : Stage)
    (script : Script σ) (here : s.slots = slots)
    (same : stake = if surrounds stage then stakeOf held.admission else .nothing) :
    Deals inv slots stake (launch held stage script s).1
      (launch held stage script s).2.service.slots
      (stakeAt (launch held stage script s).2.inv (launch held stage script s).2.point) :=
  deals_of_staged stage (run_spares held.runner script s) here same

/-- Handing a slot on changes nothing but the slots, and wakes who is in line. -/
theorem handOver_eq (s : Service σ) (change : Slots × Option Nat) : ∃ signals,
    s.handOver change = { s with slots := change.1, signals := signals } := by
  unfold Service.handOver
  cases change.2 with
  | none => exact ⟨_, rfl⟩
  | some ticket => exact ⟨_, rfl⟩

theorem releaseSlot_eq (s : Service σ) (inv : Invocation σ) : ∃ slots signals,
    s.releaseSlot inv = { s with slots := slots, signals := signals } := by
  unfold Service.releaseSlot
  cases inv.admission with
  | none => exact ⟨_, _, rfl⟩
  | some admission => exact ⟨_, handOver_eq s _⟩

theorem slots_handOver (change : Slots × Option Nat) : (s.handOver change).slots = change.1 := by
  obtain ⟨_, shape⟩ := handOver_eq s change
  rw [shape]

/-- Whatever an invocation that passed the slots has of them is given back. -/
theorem gives_back {slots : Slots} {marks : List Mark} (here : s.slots = slots)
    (quiet : ∀ mark ∈ marks, asksSlot mark = false) :
    Deals inv slots (stakeOf inv.admission) marks (s.releaseSlot inv).slots .nothing := by
  subst here
  unfold Service.releaseSlot
  cases inv.admission with
  | none => exact .keeps quiet
  | some admission =>
    dsimp only
    rw [slots_handOver]
    exact .gaveBack quiet

theorem deals_of_abandon (stage : Stage) :
    Deals inv s.slots (if surrounds stage then stakeOf inv.admission else .nothing) []
      (s.abandon inv stage).slots .nothing := by
  have quiet : ∀ mark ∈ ([] : List Mark), asksSlot mark = false := by simp
  cases stage with
  | onCommand | completion | handler => exact .keeps quiet
  | _ => exact gives_back rfl quiet

/-- A step deals with the slots as an invocation may, and the invocation has of them afterwards what
it came to. -/
theorem deals_of_step (step : Step d m r) (fresh : Fresh m.inv m.point) :
    Deals m.inv m.service.slots (stakeAt m.inv m.point) r.1 r.2.service.slots
      (stakeAt r.2.inv r.2.point) := by
  cases step with
  | @refused inv s error =>
    have nothing : inv.admission = none := fresh rfl
    exact .of_same rfl (by simp [stakeAt, inside, stakeOf, nothing]) (by simp [asksSlot])
  | @passed inv s =>
    have kept := keeps_staged inv .onCommand
      (run_spares inv.runner (d.hooks.onCommand inv.ctx) s) rfl
    exact .of_same kept.1 kept.2 (List.forall_mem_cons.2 ⟨rfl, quiet_staged _ _⟩)
  | @cooled inv s t outcome returns counts =>
    exact .of_same (spares_of_acquire counts).slots rfl (by simp [asksSlot])
  | @denied inv s t outcome denial returns counts =>
    have nothing : inv.admission = none := fresh rfl
    exact .of_same (spares_of_acquire counts).slots
      (by simp [stakeAt, inside, surrounds, stakeOf, nothing]) (by simp [asksSlot])
  | @unlimited inv s =>
    have nothing : inv.admission = none := fresh rfl
    exact .of_same rfl (by simp [stakeAt, inside, stakeOf, nothing]) (by simp [asksSlot])
  | admitted limited enters => exact .admitted limited enters
  | @saturated inv s rule max slots limited enters =>
    have nothing : inv.admission = none := fresh rfl
    exact (Deals.refused limited enters).congr rfl (by simp [stakeAt, stakeOf, nothing])
  | queued limited enters => exact .lined limited enters
  | called receives => exact .called receives
  | beforeCommand | beforeGlobal | body | afterCommand | commandHandler | moduleHandler
  | globalHandler | afterGlobal => exact deals_of_launch _ _ rfl rfl
  | @woken inv s stage pause =>
    exact deals_of_staged stage (resume_spares inv.runner pause s) rfl rfl
  | @completion inv s =>
    let freed : Invocation σ := { inv with admission := none }
    have kept := keeps_staged freed .completion
      (run_spares freed.runner (d.hooks.onCompletion inv.ctx) ((s.releaseSlot inv).note
        (some inv.span) ⟨.debug, .dispatcher, "Command completed", []⟩)) rfl
    exact (gives_back rfl (quiet_staged _ _)).congr kept.1 kept.2
  | reported => exact gives_back rfl (by simp)
  | broken => exact gives_back rfl (by simp [asksSlot])
  | @panicked inv s stage message => exact deals_of_abandon stage
  | _ => exact .of_same rfl rfl (by simp [asksSlot])

/-! ## Along a course -/

theorem fresh_of_course {legs : List (Leg σ)} (course : Course d inv legs m)
    (free : inv.admission = none) : Fresh m.inv m.point :=
  invariant_of_course (P := Fresh) (fun _ => free) fresh_of_step course

/-- What all dealings with marks of one kind bring about for invocations that have certain stakes, a
stretch of such marks brings about too. -/
structure Law (P : Stake → Prop) (R : Slots → Slots → Prop) (allowed : Mark → Prop) : Prop where
  nothing : P .nothing
  refl : ∀ slots, R slots slots
  trans : ∀ {first second third}, R first second → R second third → R first third
  deals : ∀ {σ : Type} {inv : Invocation σ} {before stake marks after kept},
    Deals inv before stake marks after kept → P stake → (∀ mark ∈ marks, allowed mark) →
      R before after ∧ P kept

variable {P : Stake → Prop} {R : Slots → Slots → Prop} {allowed : Mark → Prop}
  {legs : List (Leg σ)} {leg : Leg σ} {start last : Moment σ} {marks : List Mark}

/-- A law at work between two moments. -/
def Lawful (P : Stake → Prop) (R : Slots → Slots → Prop) (allowed : Mark → Prop) (m : Moment σ)
    (marks : List Mark) (last : Moment σ) : Prop :=
  Fresh m.inv m.point → P (stakeAt m.inv m.point) → (∀ mark ∈ marks, allowed mark) →
    R m.service.slots last.service.slots ∧ Fresh last.inv last.point ∧
      P (stakeAt last.inv last.point)

theorem lawful_nil (law : Law P R allowed) (m : Moment σ) : Lawful P R allowed m [] m :=
  fun fresh holds _ => ⟨law.refl _, fresh, holds⟩

theorem lawful_trans (law : Law P R allowed) {middle : Moment σ} {first second : List Mark}
    (before : Lawful P R allowed m first middle) (after : Lawful P R allowed middle second last) :
    Lawful P R allowed m (first ++ second) last := by
  intro fresh holds all
  obtain ⟨now, later⟩ := List.forall_mem_append.1 all
  obtain ⟨moved, still, has⟩ := before fresh holds now
  obtain ⟨moves, freshLast, hasLast⟩ := after still has later
  exact ⟨law.trans moved moves, freshLast, hasLast⟩

theorem lawful_of_step (law : Law P R allowed) (step : Step d m r) :
    Lawful P R allowed m r.1 r.2 := by
  intro fresh holds all
  obtain ⟨moves, has⟩ := law.deals (deals_of_step step fresh) holds all
  exact ⟨moves, fresh_of_step step fresh, has⟩

theorem lawful_of_goes (law : Law P R allowed) (goes : Goes d m marks last) :
    Lawful P R allowed m marks last :=
  Goes.lift (lawful_nil law) (lawful_trans law) (lawful_of_step law) goes

theorem lawful_of_stretch (law : Law P R allowed) (stretch : Stretch d start leg) :
    Lawful P R allowed start leg.marks leg.after :=
  Stretch.lift (lawful_nil law) (lawful_trans law) (lawful_of_step law) stretch

/-- A law holds on every leg of a course with marks that it allows. -/
theorem law_of_course (law : Law P R allowed) (course : Course d inv legs m)
    (free : inv.admission = none) (all : ∀ mark ∈ trace legs, allowed mark) :
    P (stakeAt m.inv m.point) ∧
      ∀ leg ∈ legs, R leg.before.slots leg.after.service.slots := by
  induction course with
  | begun goes =>
    rw [trace, List.flatMap_singleton] at all
    obtain ⟨moves, -, holds⟩ := lawful_of_goes law goes (fun _ => free) law.nothing all
    exact ⟨holds, by simpa using moves⟩
  | @resumed legs m last later r more earlier first goes ih =>
    rw [trace, List.flatMap_append, List.flatMap_singleton] at all
    obtain ⟨before, now⟩ := List.forall_mem_append.1 all
    obtain ⟨held, kept⟩ := ih before
    have fresh := fresh_of_course earlier free
    obtain ⟨moves, -, holds⟩ := lawful_trans law (lawful_of_step law first)
      (lawful_of_goes law goes) fresh held now
    refine ⟨holds, List.forall_mem_append.2 ⟨kept, ?_⟩⟩
    rintro leg new
    cases List.mem_singleton.1 new
    exact moves

/-- As long as no slot is asked for, the slots stay as they are. -/
theorem unasked_law :
    Law (· = .nothing) (fun before after => after = before) (asksSlot · = false) where
  nothing := rfl
  refl _ := rfl
  trans first second := second.trans first
  deals := by
    intro σ inv before stake marks after kept deals holds quiet
    cases deals with
    | keeps => exact ⟨rfl, holds⟩
    | called | gaveBack => cases holds
    | admitted | refused | lined => cases quiet _ (List.mem_singleton.2 rfl)

theorem inFlight_set (slots : Slots) (key other : SlotKey) (bucket : SlotBucket)
    (serial ticket : Nat) :
    Slots.inFlight ⟨slots.buckets.set key bucket, serial, ticket⟩ other =
      if key = other then bucket.inFlight else slots.inFlight other := by
  simp only [Slots.inFlight, Table.get?_set]
  split <;> rfl

/-- A key without a bucket gets one with all slots free. -/
theorem inFlight_bucketFor {slots after : Slots} {key : SlotKey} {rule : Concurrency}
    {bucket : SlotBucket} (opens : slots.bucketFor key rule = (bucket, after)) :
    bucket.inFlight = slots.inFlight key ∧ ∀ other, after.inFlight other = slots.inFlight other := by
  unfold Slots.bucketFor at opens
  cases found : slots.buckets.get? key with
  | some kept =>
    simp only [found, Prod.mk.injEq] at opens
    obtain ⟨rfl, rfl⟩ := opens
    exact ⟨by simp [Slots.inFlight, found], fun _ => rfl⟩
  | none =>
    simp only [found, Prod.mk.injEq] at opens
    obtain ⟨rfl, rfl⟩ := opens
    have free : slots.inFlight key = 0 := by simp [Slots.inFlight, found]
    refine ⟨free.symm, fun other => ?_⟩
    rw [inFlight_set]
    split
    · rename_i same
      exact same ▸ free.symm
    · rfl

/-- Whoever asks for a slot and is given none leaves all counts as they are. -/
theorem inFlight_enter {slots after : Slots} {key : SlotKey} {rule : Concurrency} {entry : Entry}
    (enters : slots.enter key rule = (entry, after)) (without : ∀ a, entry ≠ .admitted a)
    (other : SlotKey) : after.inFlight other = slots.inFlight other := by
  unfold Slots.enter at enters
  rcases opens : slots.bucketFor key rule with ⟨bucket, opened⟩
  obtain ⟨here, others⟩ := inFlight_bucketFor opens
  simp only [opens] at enters
  split at enters
  · cases enters
    exact absurd rfl (without _)
  · split at enters
    · cases enters
      exact others other
    · cases enters
      rw [inFlight_set]
      split
      · rename_i same
        exact same ▸ here
      · exact others other

/-- As long as no slot is given, all counts stay as they are. -/
theorem ungranted_law : Law (∀ admission, · ≠ .slot admission)
    (fun before after => ∀ key, after.inFlight key = before.inFlight key) (· ≠ .slot none) where
  nothing _ := nofun
  refl _ _ := rfl
  trans first second key := (second key).trans (first key)
  deals := by
    intro σ inv before stake marks after kept deals holds given
    cases deals with
    | keeps => exact ⟨fun _ => rfl, holds⟩
    | admitted | called => exact absurd rfl (given _ (List.mem_singleton.2 rfl))
    | refused _ enters => exact ⟨inFlight_enter enters nofun, nofun⟩
    | lined _ enters => exact ⟨inFlight_enter enters nofun, nofun⟩
    | gaveBack => exact absurd rfl (holds _)

end ChatCommands.SlotDeals
