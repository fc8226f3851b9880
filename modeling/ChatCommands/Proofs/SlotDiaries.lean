import ChatCommands.Proofs.SlotDeals

/-! What an invocation has to do with the slots, from its beginning to its end. A strand is an
invocation at a point, with a diary of the slots it took and gave back and of all that was told of
it. Every step keeps the diary in order (`kept_of_step`): at most one slot is taken, at the bucket of
the command's own rule, what was taken is given back once or still held, and nothing is dealt with
any more once the completion hook or an error handler has had its turn. -/
namespace ChatCommands.SlotDiaries
open InvocationCourse SlotDeals Dispatcher

variable {σ : Type} {d : Dispatcher σ} {inv : Invocation σ} {m : Moment σ} {point : Point σ}
  {r : List Mark × Moment σ} {slots : Slots} {admission : Admission}

/-- What an invocation did. -/
inductive Deed where
  | took (admission : Admission)
  | gaveBack (admission : Admission)
  | told (mark : Mark)

/-- A slot was taken or given back. -/
def deals : Deed → Bool
  | .told _ => false
  | _ => true

def dealings (diary : List Deed) : List Deed := diary.filter deals

/-- The parts at the end of an invocation, after which nothing of it is left but its end. -/
def ends : Part → Bool
  | .completion | .handler _ _ => true
  | _ => false

/-- The completion hook or an error handler has had its turn. -/
def closes : Mark → Bool
  | .ran part _ | .lacks part => ends part
  | _ => false

/-- The completion hook or an error handler has had its turn, in a diary. -/
def closing : Deed → Bool
  | .told mark => closes mark
  | _ => false

/-- From the completion hook and the first error handler on. -/
def concluded : Point σ → Bool
  | .asking _ _ | .ended => true
  | .left stage _ | .waiting stage _ => ends (partOf stage)
  | _ => false

/-- What a step did about slots, seen from what the invocation had of them before and after. -/
def dealt : Stake → Stake → List Deed
  | .slot admission, .nothing => [.gaveBack admission]
  | .nothing, .slot admission | .place _, .slot admission => [.took admission]
  | _, _ => []

/-- What tearing an invocation down does about slots. A slot that is on its way to a place in line is
taken and given back at once. -/
def leaves (slots : Slots) : Stake → List Deed
  | .nothing => []
  | .slot admission => [.gaveBack admission]
  | .place place =>
    match slots.receive place with
    | some (admission, _) => [.took admission, .gaveBack admission]
    | none => []

/-- The slots once whatever an invocation has of them is given back. -/
def withdrawn (slots : Slots) : Stake → Slots
  | .nothing => slots
  | .slot admission => (slots.release admission).1
  | .place place => (slots.abandon place).1

/-- An invocation at a point, with its diary. -/
structure Strand (σ : Type) where
  inv : Invocation σ
  point : Point σ
  diary : List Deed := []

namespace Strand

def stake (t : Strand σ) : Stake := stakeAt t.inv t.point

/-- After a step. A slot that the step gives back is given back before the scripts of the step run. -/
def after (t : Strand σ) (r : List Mark × Moment σ) : Strand σ :=
  ⟨r.2.inv, r.2.point,
    t.diary ++ (dealt t.stake (stakeAt r.2.inv r.2.point) ++ r.1.map Deed.told)⟩

/-- After it was torn down. -/
def dropped (t : Strand σ) (slots : Slots) : Strand σ :=
  { t with point := .ended, diary := t.diary ++ leaves slots t.stake }

end Strand

/-- What an invocation has of the slots, and its dealings up to then. -/
inductive Accounts : Stake → List Deed → Prop where
  | untouched : Accounts .nothing []
  | inLine {place : Place} : Accounts (.place place) []
  | holding {admission : Admission} : Accounts (.slot admission) [.took admission]
  | settled {admission : Admission} : Accounts .nothing [.took admission, .gaveBack admission]

/-- The bucket at which the command's rule counts an invocation. -/
def AtBucket (inv : Invocation σ) (key : SlotKey) : Prop :=
  ∃ rule, inv.command.parts.concurrency = some rule ∧ key = Slots.keyFor inv.name rule inv.ctx

/-- An invocation has a slot and a place only at its command's bucket, has a slot wherever the rule
asks for one, and has none left for the completion hook and the error handlers. -/
structure Kept (inv : Invocation σ) (point : Point σ) : Prop where
  fresh : Fresh inv point
  slot : ∀ admission, inv.admission = some admission → AtBucket inv admission.key
  place : ∀ place, point = .queued place → AtBucket inv place.key
  held : inside point = true → ∀ rule, inv.command.parts.concurrency = some rule →
    ∃ admission, inv.admission = some admission
  emptied : concluded point = true → point = .ended ∨ inv.admission = none

/-- A strand whose diary is in order. -/
structure Accounted (t : Strand σ) : Prop where
  kept : Kept t.inv t.point
  accounts : Accounts t.stake (dealings t.diary)
  untouched : outside t.point = true → dealings t.diary = []
  /-- Nothing is dealt with once the completion hook or an error handler has had its turn. -/
  before : t.diary.Pairwise fun early late => closing early = true → deals late = false
  closed : ∀ deed ∈ t.diary, closing deed = true → concluded t.point = true

/-! ## Points -/

/-- A stage's script has ended or waits. -/
theorem staged_cases {motive : Point σ → Prop} {stage : Stage} (p : Progress σ × Service σ)
    (left : ∀ outcome, motive (.left stage outcome))
    (waiting : ∀ pause, motive (.waiting stage pause)) : motive (staged inv stage p).2.point := by
  obtain ⟨progress, s⟩ := p
  cases progress with
  | ended outcome => exact left outcome
  | paused pause => exact waiting pause

theorem concluded_staged (stage : Stage) (p : Progress σ × Service σ) :
    concluded (staged inv stage p).2.point = ends (partOf stage) :=
  staged_cases (motive := fun point => concluded point = ends (partOf stage)) p (fun _ => rfl)
    fun _ => rfl

theorem inside_staged (stage : Stage) (p : Progress σ × Service σ) :
    inside (staged inv stage p).2.point = surrounds stage :=
  staged_cases (motive := fun point => inside point = surrounds stage) p (fun _ => rfl)
    fun _ => rfl

theorem stakeAt_of_concluded (done : concluded point = true) :
    stakeAt inv point = .nothing := by
  cases point with
  | left stage | waiting stage => cases stage <;> first | rfl | cases done
  | asking | ended => rfl
  | _ => cases done

theorem stakeAt_of_inside (within : inside point = true) :
    stakeAt inv point = stakeOf inv.admission := by
  cases point with
  | binding | preparing | leaving => rfl
  | left | waiting => exact if_pos within
  | _ => cases within

theorem stakeAt_of_outside (still : outside point = true) (admission : Admission) :
    stakeAt inv point ≠ .slot admission := by
  cases point with
  | left stage | waiting stage =>
    cases stage with
    | onCommand => exact nofun
    | _ => cases still
  | arrived | entering | queued => exact nofun
  | _ => cases still

theorem concluded_of_step (step : Step d m r) (done : concluded m.point = true) :
    concluded r.2.point = true := by
  cases step with
  | commandHandler | moduleHandler | globalHandler | woken =>
    exact (concluded_staged _ _).trans (by first | rfl | exact done)
  | noCommandHandler | noModuleHandler | settled | commandHandlerFailed | moduleHandlerFailed
  | globalHandlerFailed | completed | panicked | ended => rfl
  | _ => cases done

/-- Whatever tells of the completion hook or of an error handler leaves nothing of the invocation but
its end. -/
theorem concluded_of_closes (step : Step d m r) {mark : Mark} (told : mark ∈ r.1)
    (closer : closes mark = true) : concluded r.2.point = true := by
  have staged_told {held : Invocation σ} {stage : Stage} {p : Progress σ × Service σ}
      (told : mark ∈ (staged held stage p).1) : concluded (staged held stage p).2.point = true := by
    rw [concluded_staged]
    obtain ⟨progress, s⟩ := p
    cases progress with
    | paused => cases told
    | ended outcome =>
      cases List.mem_singleton.1 told
      exact closer
  cases step with
  | passed =>
    rcases List.mem_cons.1 told with rfl | told
    · cases closer
    · exact staged_told told
  | beforeCommand | beforeGlobal | body | afterCommand | afterGlobal | completion | commandHandler
  | moduleHandler | globalHandler | woken => exact staged_told told
  | noCommandHandler | noModuleHandler => rfl
  | refused | cooled | denied | unlimited | admitted | saturated | queued | unbound | broken | bound
  | noBeforeCommand | noAfterCommand | called =>
    cases List.mem_singleton.1 told
    cases closer
  | _ => cases told

theorem outside_of_step (step : Step d m r) (still : outside r.2.point = true) :
    outside m.point = true := by
  have onlyFirst {held : Invocation σ} {stage : Stage} {p : Progress σ × Service σ}
      (still : outside (staged held stage p).2.point = true) : stage = .onCommand := by
    obtain ⟨progress, s⟩ := p
    cases progress <;> cases stage <;> first | rfl | cases still
  cases step with
  | beforeCommand | beforeGlobal | body | afterCommand | afterGlobal | completion | commandHandler
  | moduleHandler | globalHandler => cases onlyFirst still
  | woken =>
    cases onlyFirst still
    rfl
  | cooled | inLine | refused | passed | queued => rfl
  | _ => cases still

/-- Slots are asked for, and received, only by those who are not past them. -/
theorem outside_of_asks (step : Step d m r) {mark : Mark} (told : mark ∈ r.1)
    (asks : asksSlot mark = true) : outside m.point = true := by
  have quiet {held : Invocation σ} {stage : Stage} {p : Progress σ × Service σ} :
      mark ∉ (staged held stage p).1 := fun told => by
    cases (quiet_staged stage p mark told).symm.trans asks
  cases step with
  | admitted | saturated | queued | called => rfl
  | passed =>
    rcases List.mem_cons.1 told with rfl | told
    · cases asks
    · exact absurd told quiet
  | beforeCommand | beforeGlobal | body | afterCommand | afterGlobal | completion | commandHandler
  | moduleHandler | globalHandler | woken => exact absurd told quiet
  | refused | cooled | denied | unlimited | unbound | broken | bound | noBeforeCommand
  | noAfterCommand | noCommandHandler | noModuleHandler =>
    cases List.mem_singleton.1 told
    cases asks
  | _ => cases told

/-! ## What an invocation holds -/

theorem key_of_admitted {key : SlotKey} {rule : Concurrency} {after : Slots}
    (enters : slots.enter key rule = (.admitted admission, after)) : admission.key = key := by
  unfold Slots.enter at enters
  split at enters
  split at enters
  · cases enters
    rfl
  · split at enters <;> cases enters

theorem key_of_queued {key : SlotKey} {rule : Concurrency} {place : Place} {after : Slots}
    (enters : slots.enter key rule = (.queued place, after)) : place.key = key := by
  unfold Slots.enter at enters
  split at enters
  split at enters
  · cases enters
  · split at enters
    · cases enters
    · cases enters
      rfl

theorem key_of_received {place : Place} {after : Slots}
    (receives : slots.receive place = some (admission, after)) : admission.key = place.key := by
  unfold Slots.receive at receives
  split at receives
  · cases receives
  · split at receives
    · cases receives
      rfl
    · cases receives

theorem slot_of_step (step : Step d m r) (kept : Kept m.inv m.point) :
    ∀ admission, r.2.inv.admission = some admission → AtBucket r.2.inv admission.key := by
  have still {held : Invocation σ} {stage : Stage} {p : Progress σ × Service σ}
      (slot : ∀ admission, held.admission = some admission → AtBucket held admission.key) :
      ∀ admission, (staged held stage p).2.inv.admission = some admission →
        AtBucket (staged held stage p).2.inv admission.key := by
    rwa [inv_staged]
  cases step with
  | admitted limited enters =>
    rintro _ ⟨⟩
    exact ⟨_, limited, key_of_admitted enters⟩
  | called receives =>
    obtain ⟨rule, limited, here⟩ := kept.place _ rfl
    rintro _ ⟨⟩
    exact ⟨rule, limited, (key_of_received receives).trans here⟩
  | completion => exact still nofun
  | reported | broken => nofun
  | passed | beforeCommand | beforeGlobal | body | afterCommand | afterGlobal | commandHandler
  | moduleHandler | globalHandler | woken => exact still kept.slot
  | _ => exact kept.slot

theorem place_of_step (step : Step d m r) (kept : Kept m.inv m.point) :
    ∀ place, r.2.point = .queued place → AtBucket r.2.inv place.key := by
  have never {held : Invocation σ} {stage : Stage} {p : Progress σ × Service σ} {place : Place} :
      (staged held stage p).2.point ≠ .queued place :=
    staged_cases (motive := fun point => point ≠ .queued place) p (fun _ => nofun) fun _ => nofun
  intro place here
  cases step with
  | queued limited enters =>
    cases here
    exact ⟨_, limited, key_of_queued enters⟩
  | inLine =>
    cases here
    exact kept.place _ rfl
  | passed | beforeCommand | beforeGlobal | body | afterCommand | afterGlobal | completion
  | commandHandler | moduleHandler | globalHandler | woken => exact absurd here never
  | _ => cases here

theorem held_of_step (step : Step d m r) (kept : Kept m.inv m.point) :
    inside r.2.point = true → ∀ rule, r.2.inv.command.parts.concurrency = some rule →
      ∃ admission, r.2.inv.admission = some admission := by
  have still {held : Invocation σ} {stage : Stage} {p : Progress σ × Service σ}
      (has : surrounds stage = true → ∀ rule, held.command.parts.concurrency = some rule →
        ∃ admission, held.admission = some admission) :
      inside (staged held stage p).2.point = true →
        ∀ rule, (staged held stage p).2.inv.command.parts.concurrency = some rule →
          ∃ admission, (staged held stage p).2.inv.admission = some admission := by
    rwa [inside_staged, inv_staged]
  cases step with
  | admitted | called => exact fun _ _ _ => ⟨_, rfl⟩
  | unlimited free => exact fun _ rule limited => by cases free.symm.trans limited
  | passed | completion | commandHandler | moduleHandler | globalHandler => exact still nofun
  | beforeCommand | beforeGlobal | body | afterCommand | afterGlobal =>
    exact still fun _ => kept.held rfl
  | woken => exact still kept.held
  | bound | noBeforeCommand | beforeCommandFailed | beforeGlobalFailed | worked | noAfterCommand =>
    exact fun _ => kept.held rfl
  | _ => exact nofun

theorem emptied_of_step (step : Step d m r) (kept : Kept m.inv m.point) :
    concluded r.2.point = true → r.2.point = .ended ∨ r.2.inv.admission = none := by
  have still {held : Invocation σ} {stage : Stage} {p : Progress σ × Service σ}
      (empty : ends (partOf stage) = true → held.admission = none) :
      concluded (staged held stage p).2.point = true →
        (staged held stage p).2.point = .ended ∨ (staged held stage p).2.inv.admission = none := by
    rw [concluded_staged, inv_staged]
    exact fun done => .inr (empty done)
  have gone (done : concluded m.point = true) (onward : m.point ≠ .ended) : m.inv.admission = none :=
    (kept.emptied done).resolve_left onward
  cases step with
  | passed | beforeCommand | beforeGlobal | body | afterCommand | afterGlobal => exact still nofun
  | completion => exact still fun _ => rfl
  | reported | broken => exact fun _ => .inr rfl
  | commandHandler | moduleHandler | globalHandler => exact still fun _ => gone rfl nofun
  | woken => exact still fun done => gone done nofun
  | noCommandHandler | noModuleHandler | commandHandlerFailed | moduleHandlerFailed =>
    exact fun _ => .inr (gone rfl nofun)
  | completed | settled | globalHandlerFailed | panicked | ended => exact fun _ => .inl rfl
  | _ => exact nofun

/-- An invocation keeps to its bucket, whatever it does. -/
theorem kept_of_step (step : Step d m r) (kept : Kept m.inv m.point) : Kept r.2.inv r.2.point where
  fresh := fresh_of_step step kept.fresh
  slot := slot_of_step step kept
  place := place_of_step step kept
  held := held_of_step step kept
  emptied := emptied_of_step step kept

/-! ## Diaries -/

theorem dealings_append (early late : List Deed) :
    dealings (early ++ late) = dealings early ++ dealings late := List.filter_append ..

theorem dealings_told (marks : List Mark) : dealings (marks.map Deed.told) = [] := by
  refine List.filter_eq_nil_iff.2 fun deed member => ?_
  obtain ⟨mark, -, rfl⟩ := List.mem_map.1 member
  exact Bool.false_ne_true

theorem dealings_dealt (before kept : Stake) : dealings (dealt before kept) = dealt before kept := by
  cases before <;> cases kept <;> rfl

theorem dealings_after (t : Strand σ) (r : List Mark × Moment σ) :
    dealings (t.after r).diary =
      dealings t.diary ++ dealt t.stake (stakeAt r.2.inv r.2.point) := by
  rw [Strand.after, dealings_append, dealings_append, dealings_told, dealings_dealt,
    List.append_nil]

theorem dealt_self (stake : Stake) : dealt stake stake = [] := by
  cases stake <;> rfl

theorem dealt_of_unheld {before kept : Stake} (free : ∀ admission, before ≠ .slot admission)
    (still : ∀ admission, kept ≠ .slot admission) : dealt before kept = [] := by
  cases before <;> cases kept <;> first | rfl | exact absurd rfl (free _) | exact absurd rfl (still _)

/-- New deeds go on with a diary that nothing closed yet, or deal with no slots. -/
theorem pairwise_of_more {diary more : List Deed}
    (before : diary.Pairwise fun early late => closing early = true → deals late = false)
    (inOrder : more.Pairwise fun early late => closing early = true → deals late = false)
    (silent : (∃ deed ∈ diary, closing deed = true) → dealings more = []) :
    (diary ++ more).Pairwise fun early late => closing early = true → deals late = false := by
  refine List.pairwise_append.2 ⟨before, inOrder, fun early member late new closer => ?_⟩
  have quiet := List.filter_eq_nil_iff.1 (silent ⟨early, member, closer⟩) late new
  simpa using quiet

theorem pairwise_told (before kept : Stake) (marks : List Mark) :
    (dealt before kept ++ marks.map Deed.told).Pairwise
      fun early late => closing early = true → deals late = false := by
  have silent : ∀ deed ∈ marks.map Deed.told, deals deed = false := by
    intro deed member
    obtain ⟨mark, -, rfl⟩ := List.mem_map.1 member
    rfl
  have told : (marks.map Deed.told).Pairwise
      fun early late => closing early = true → deals late = false :=
    List.pairwise_of_forall_mem_list fun _ _ late member _ => silent late member
  refine List.pairwise_append.2 ⟨?_, told, fun _ _ late member _ => silent late member⟩
  cases before <;> cases kept <;> simp [dealt]

theorem closing_dealt {before kept : Stake} {deed : Deed} (member : deed ∈ dealt before kept) :
    closing deed = false := by
  cases before <;> cases kept <;> simp [dealt] at member <;> subst member <;> rfl

theorem accounts_of_deals {before kept : Stake} {marks : List Mark} {later : Slots}
    {known : List Deed} (dealing : Deals inv slots before marks later kept)
    (accounts : Accounts before known)
    (asked : (∃ mark ∈ marks, asksSlot mark = true) → known = []) :
    Accounts kept (known ++ dealt before kept) := by
  have first {mark : Mark} (told : marks = [mark]) (asks : asksSlot mark = true) : known = [] :=
    asked ⟨mark, told ▸ List.mem_singleton.2 rfl, asks⟩
  cases dealing with
  | keeps =>
    rw [dealt_self, List.append_nil]
    exact accounts
  | admitted =>
    rw [first rfl rfl]
    exact .holding
  | refused =>
    rw [first rfl rfl]
    exact .untouched
  | lined =>
    rw [first rfl rfl]
    exact .inLine
  | called =>
    rw [first rfl rfl]
    exact .holding
  | gaveBack =>
    cases accounts
    exact .settled

theorem accounts_of_leaves {before : Stake} {known : List Deed} (slots : Slots)
    (accounts : Accounts before known) : Accounts .nothing (known ++ leaves slots before) := by
  cases accounts with
  | untouched => exact .untouched
  | holding | settled => exact .settled
  | @inLine place =>
    simp only [leaves]
    rcases slots.receive place with _ | ⟨admission, later⟩
    · exact .untouched
    · exact .settled

theorem deals_leaves {before : Stake} {deed : Deed} (member : deed ∈ leaves slots before) :
    deals deed = true ∧ closing deed = false := by
  cases before with
  | nothing => cases member
  | slot =>
    cases List.mem_singleton.1 member
    exact ⟨rfl, rfl⟩
  | place place =>
    simp only [leaves] at member
    split at member
    · rcases List.mem_cons.1 member with rfl | member
      · exact ⟨rfl, rfl⟩
      · cases List.mem_singleton.1 member
        exact ⟨rfl, rfl⟩
    · cases member

theorem accounted_begun (free : inv.admission = none) :
    Accounted (⟨inv, .arrived, []⟩ : Strand σ) where
  kept :=
    { fresh := fun _ => free
      slot := fun _ holds => by cases free.symm.trans holds
      place := nofun
      held := nofun
      emptied := nofun }
  accounts := .untouched
  untouched _ := rfl
  before := .nil
  closed := nofun

/-- A step keeps the diary in order. -/
theorem accounted_of_step {t : Strand σ} {s : Service σ} (step : Step d ⟨t.inv, t.point, s⟩ r)
    (accounted : Accounted t) : Accounted (t.after r) where
  kept := kept_of_step step accounted.kept
  accounts := by
    rw [dealings_after]
    refine accounts_of_deals (deals_of_step step accounted.kept.fresh) accounted.accounts ?_
    rintro ⟨mark, told, asks⟩
    exact accounted.untouched (outside_of_asks step told asks)
  untouched still := by
    have before := outside_of_step step still
    rw [dealings_after, accounted.untouched before, List.nil_append]
    exact dealt_of_unheld (stakeAt_of_outside before) (stakeAt_of_outside still)
  before := by
    refine pairwise_of_more accounted.before (pairwise_told _ _ _) fun ⟨deed, member, closer⟩ => ?_
    have done := accounted.closed deed member closer
    have nothing : t.stake = .nothing := stakeAt_of_concluded done
    rw [dealings_append, dealings_told, dealings_dealt, List.append_nil, nothing,
      stakeAt_of_concluded (concluded_of_step step done)]
    rfl
  closed deed member closer := by
    rcases List.mem_append.1 member with old | new
    · exact concluded_of_step step (accounted.closed deed old closer)
    · rcases List.mem_append.1 new with slot | told
      · cases (closing_dealt slot).symm.trans closer
      · obtain ⟨mark, here, rfl⟩ := List.mem_map.1 told
        exact concluded_of_closes step here closer

/-- Tearing an invocation down keeps the diary in order, and completes it. -/
theorem accounted_dropped {t : Strand σ} (slots : Slots) (accounted : Accounted t) :
    Accounted (t.dropped slots) where
  kept := ⟨nofun, accounted.kept.slot, nofun, nofun, fun _ => .inl rfl⟩
  accounts := by
    have whole : dealings (leaves slots t.stake) = leaves slots t.stake :=
      List.filter_eq_self.2 fun deed member => (deals_leaves member).1
    rw [Strand.dropped, dealings_append, whole]
    exact accounts_of_leaves slots accounted.accounts
  untouched := nofun
  before := by
    refine pairwise_of_more accounted.before ?_ fun ⟨deed, member, closer⟩ => ?_
    · exact List.pairwise_of_forall_mem_list fun early member _ _ closer => by
        cases (deals_leaves member).2.symm.trans closer
    · have done := accounted.closed deed member closer
      have nothing : t.stake = .nothing := stakeAt_of_concluded done
      rw [nothing]
      rfl
  closed _ _ _ := rfl

theorem returned_of_concluded {t : Strand σ} (accounted : Accounted t)
    (done : concluded t.point = true) : dealings t.diary = [] ∨
    ∃ admission, dealings t.diary = [.took admission, .gaveBack admission] := by
  have accounts := accounted.accounts
  have nothing : t.stake = .nothing := stakeAt_of_concluded done
  rw [nothing] at accounts
  generalize dealings t.diary = known at accounts
  cases accounts with
  | untouched => exact .inl rfl
  | @settled admission => exact .inr ⟨admission, rfl⟩

end ChatCommands.SlotDiaries
