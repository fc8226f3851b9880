import ChatCommands.Proofs.SlotTraffic
import Mathlib.Data.List.Induction

/-! Slots are shared fairly, whatever callers do and in whatever order. Every
move at a key leaves that key with a bucket that serves its callers (`Change`),
and no move touches another key, so the agreement of buckets and callers holds
along every run (`run_sound`). From it follows what callers rely on: the count is
exact and never above the limit, no slot idles while somebody waits, no slot is
given back that was not counted, and nobody overtakes. -/
namespace ChatCommands.FairSlots
open SlotTraffic

/-- A bucket, where one is kept, serves the callers at its key, and new places will be none of those it
knows of. Where none is kept nobody is. -/
def Agrees (s : Slots) (key : SlotKey) (c : Callers) : Prop :=
  match s.buckets.get? key with
  | none => c.held = [] ∧ c.handed = [] ∧ c.waiting = []
  | some b => Serves key b c 0 ∧ ∀ t ∈ tickets b, t < s.nextTicket

structure Sound (u : Traffic) : Prop where
  unique : u.slots.buckets.Unique
  agrees : ∀ key, Agrees u.slots key (u.callers key)
  ordered : ∀ key, (u.callers key).Ordered

/-- A change of slots and callers at one key after which bucket `b` serves them. -/
structure Change (u : Traffic) (key : SlotKey) (s : Slots) (b : SlotBucket) (c : Callers) : Prop where
  found : s.buckets.get? key = some b
  others : ∀ other, key ≠ other → s.buckets.get? other = u.slots.buckets.get? other
  unique : s.buckets.Unique
  later : u.slots.nextTicket ≤ s.nextTicket
  fresh : ∀ t ∈ tickets b, t < s.nextTicket
  serves : Serves key b c 0
  ordered : c.Ordered
  size : ∀ old, u.slots.buckets.get? key = some old → b.max = old.max

theorem change_sound (sound : Sound u) (change : Change u key s b c) :
    Sound (u.put key s c) where
  unique := change.unique
  agrees := by
    intro other
    by_cases same : key = other
    · subst same
      simp only [Agrees, Traffic.put, change.found, Function.update_self]
      exact ⟨change.serves, change.fresh⟩
    · have before := sound.agrees other
      simp only [Agrees, Traffic.put, change.others other same,
        Function.update_of_ne (Ne.symm same)] at before ⊢
      cases found : u.slots.buckets.get? other with
      | none => rwa [found] at before
      | some b =>
        rw [found] at before
        exact ⟨before.1, fun t member => Nat.lt_of_lt_of_le (before.2 t member) change.later⟩
  ordered := by
    intro other
    by_cases same : key = other
    · subst same
      simpa only [Traffic.put, Function.update_self] using change.ordered
    · simpa only [Traffic.put, Function.update_of_ne (Ne.symm same)] using sound.ordered other

theorem kept_change (sound : Sound u) (found : u.slots.buckets.get? key = some b) :
    Change u key u.slots b (u.callers key) := by
  have agrees := sound.agrees key
  simp only [Agrees, found] at agrees
  exact ⟨found, fun _ _ => rfl, sound.unique, Nat.le_refl _, agrees.2, agrees.1, sound.ordered key,
    fun old same => by rw [Option.some.inj (found.symm.trans same)]⟩

/-- One more step inside a change: the bucket of its key is replaced. -/
theorem Change.set (change : Change u key s b c) (b' : SlotBucket) (c' : Callers)
    (next : Nat) (serves : Serves key b' c' 0) (ordered : c'.Ordered) (size : b'.max = b.max)
    (later : s.nextTicket ≤ next) (fresh : ∀ t ∈ tickets b', t < next) :
    Change u key { s with buckets := s.buckets.set key b', nextTicket := next } b' c' where
  found := by rw [Table.get?_set, if_pos rfl]
  others := by
    intro other different
    rw [Table.get?_set, if_neg different]
    exact change.others other different
  unique := Table.unique_set change.unique key b'
  later := Nat.le_trans change.later later
  fresh := fresh
  serves := serves
  ordered := ordered
  size := fun old kept => size.trans (change.size old kept)

/-! ## What the slots do with a bucket that is kept -/

theorem bucket_found {s : Slots} (found : s.buckets.get? key = some b) :
    s.bucket? key b.serial = some b := by
  simp [Slots.bucket?, found, Option.filter]

theorem release_of_found {s : Slots} (found : s.buckets.get? key = some b) :
    s.release ⟨key, b.serial⟩ =
      ({ s with buckets := s.buckets.set key b.release.1 }, b.release.2) := by
  simp [Slots.release, bucket_found found]

theorem receive_of_handed {s : Slots} (found : s.buckets.get? key = some b)
    (onItsWay : ticket ∈ b.handed) :
    s.receive ⟨key, b.serial, ticket⟩ =
      some (⟨key, b.serial⟩,
        { s with buckets := s.buckets.set key { b with handed := b.handed.erase ticket } }) := by
  simp [Slots.receive, bucket_found found, onItsWay]

theorem receive_of_not_handed {s : Slots} (found : s.buckets.get? key = some b)
    (notOnItsWay : ticket ∉ b.handed) : s.receive ⟨key, b.serial, ticket⟩ = none := by
  simp [Slots.receive, bucket_found found, notOnItsWay]

/-- A slot on its way to a place that is given up goes on as if it had been received and given back. -/
theorem abandon_of_handed {s : Slots} (found : s.buckets.get? key = some b)
    (onItsWay : ticket ∈ b.handed) :
    s.abandon ⟨key, b.serial, ticket⟩ =
      ({ s with
          buckets := s.buckets.set key { b with handed := b.handed.erase ticket }.release.1 },
        { b with handed := b.handed.erase ticket }.release.2) := by
  have kept : (s.buckets.set key { b with handed := b.handed.erase ticket }).get? key =
      some { b with handed := b.handed.erase ticket } := by rw [Table.get?_set, if_pos rfl]
  have passedOn := release_of_found
    (s := { s with buckets := s.buckets.set key { b with handed := b.handed.erase ticket } }) kept
  simp only [Table.set_set] at passedOn
  simp only [Slots.abandon, receive_of_handed found onItsWay, passedOn]

theorem abandon_of_not_handed {s : Slots} (found : s.buckets.get? key = some b)
    (notOnItsWay : ticket ∉ b.handed) :
    s.abandon ⟨key, b.serial, ticket⟩ =
      ({ s with buckets := s.buckets.set key (b.leaveLine ticket) }, none) := by
  simp [Slots.abandon, receive_of_not_handed found notOnItsWay, bucket_found found]

/-! ## Every move is a change at one key -/

/-- Asking finds the bucket of the key, or begins one for callers of whom nobody is left. -/
theorem bucketFor_change (sound : Sound u) (key : SlotKey) (rule : Concurrency) :
    ∃ b s, u.slots.bucketFor key rule = (b, s) ∧
      Change u key s b (u.callers key) ∧
      (u.slots.buckets.get? key = none → b.max = rule.number) := by
  cases found : u.slots.buckets.get? key with
  | some b =>
    exact ⟨b, u.slots, by simp [Slots.bucketFor, found], kept_change sound found, by simp⟩
  | none =>
    have agrees := sound.agrees key
    simp only [Agrees, found] at agrees
    obtain ⟨held, handed, waiting⟩ := agrees
    refine ⟨_, _, by simp only [Slots.bucketFor, found]; rfl, ?_, fun _ => rfl⟩
    exact {
      found := by rw [Table.get?_set, if_pos rfl]
      others := fun other different => by rw [Table.get?_set, if_neg different]
      unique := Table.unique_set sound.unique _ _
      later := Nat.le_refl _
      fresh := by simp [tickets]
      serves := new_bucket_serves held handed waiting
      ordered := sound.ordered key
      size := by simp [found] }

theorem enter_change (sound : Sound u) (key : SlotKey) (rule : Concurrency) :
    ∃ s b c, u.enter key rule = u.put key s c ∧ Change u key s b c ∧
      (u.slots.buckets.get? key = none → b.max = rule.number) := by
  obtain ⟨b, s, opened, change, begun⟩ := bucketFor_change sound key rule
  obtain ⟨c, callers⟩ : ∃ c, u.callers key = c := ⟨_, rfl⟩
  rw [callers] at change
  by_cases free : b.inFlight < b.max
  · have nobody : c.waiting = [] := by
      simpa [change.serves.busy free, liveTickets] using change.serves.waiting_places
    have taken := hold_serves (take_serves change.serves free) c.arrived
    have next := change.set { b with inFlight := b.inFlight + 1 }
      ({ c with arrived := c.arrived + 1, granted := c.granted ++ [c.arrived] }.hold
        c.arrived ⟨key, b.serial⟩) s.nextTicket (serves_same_callers taken rfl rfl rfl)
      (grant_arriving_ordered change.ordered nobody _) rfl (Nat.le_refl _) change.fresh
    refine ⟨_, _, _, ?_, next, begun⟩
    simp only [Traffic.enter, Slots.enter, opened, if_pos free, callers]
  · cases waits : rule.wait with
    | false =>
      have next : Change u key s b { c with arrived := c.arrived + 1 } :=
        { change with
          serves := serves_same_callers change.serves rfl rfl rfl
          ordered := arrive_ordered change.ordered }
      refine ⟨_, _, _, ?_, next, begun⟩
      simp [Traffic.enter, Slots.enter, opened, free, waits, callers]
    | true =>
      have queued := queue_serves change.serves free change.fresh c.arrived
      have fresh : ∀ t ∈ tickets { b with waiters := b.waiters ++ [⟨s.nextTicket, true⟩] },
          t < s.nextTicket + 1 := by
        intro t member
        rw [tickets_queue] at member
        rcases List.mem_append.1 member with earlier | now
        · exact Nat.lt_succ_of_lt (change.fresh t earlier)
        · rw [List.mem_singleton.1 now]
          exact Nat.lt_succ_self _
      have next := change.set _
        { c with
          arrived := c.arrived + 1
          waiting := c.waiting ++ [(c.arrived, ⟨key, b.serial, s.nextTicket⟩)] }
        (s.nextTicket + 1) (serves_same_callers queued rfl rfl rfl)
        (queue_ordered change.ordered _) rfl (Nat.le_succ _) fresh
      refine ⟨_, _, _, ?_, next, begun⟩
      simp [Traffic.enter, Slots.enter, opened, free, waits, callers]

theorem held_bucket (sound : Sound u) (holds : (caller, a) ∈ (u.callers a.key).held) :
    ∃ b, u.slots.buckets.get? a.key = some b ∧ a = ⟨a.key, b.serial⟩ := by
  have agrees := sound.agrees a.key
  cases found : u.slots.buckets.get? a.key with
  | none =>
    simp only [Agrees, found] at agrees
    rw [agrees.1] at holds
    cases holds
  | some b =>
    simp only [Agrees, found] at agrees
    exact ⟨b, rfl, agrees.1.held_here _ holds⟩

theorem place_bucket (sound : Sound u)
    (stands : (caller, p) ∈ (u.callers p.key).handed ++ (u.callers p.key).waiting) :
    ∃ b, u.slots.buckets.get? p.key = some b ∧ p = ⟨p.key, b.serial, p.ticket⟩ := by
  have agrees := sound.agrees p.key
  cases found : u.slots.buckets.get? p.key with
  | none =>
    simp only [Agrees, found] at agrees
    rw [agrees.2.1, agrees.2.2] at stands
    cases stands
  | some b =>
    simp only [Agrees, found] at agrees
    rcases List.mem_append.1 stands with handed | waits
    · obtain ⟨ticket, -, here⟩ := place_of_handed agrees.1 handed
      exact ⟨b, rfl, by rw [show p = _ from here]⟩
    · obtain ⟨ticket, -, here⟩ := place_of_waiting agrees.1 waits
      exact ⟨b, rfl, by rw [show p = _ from here]⟩

/-- A slot is on its way to a place exactly if the caller there was handed one. -/
theorem handed_iff (serves : Serves key b c 0)
    (stands : (caller, ⟨key, b.serial, ticket⟩) ∈ c.handed ++ c.waiting) :
    ticket ∈ b.handed ↔ (caller, ⟨key, b.serial, ticket⟩) ∈ c.handed := by
  constructor
  · intro onItsWay
    rcases List.mem_append.1 stands with handed | waits
    · exact handed
    · obtain ⟨other, notOnItsWay, here⟩ := place_of_waiting serves waits
      cases here
      contradiction
  · intro handed
    obtain ⟨other, onItsWay, here⟩ := place_of_handed serves handed
    cases here
    exact onItsWay

theorem release_change (sound : Sound u) (holds : (caller, a) ∈ (u.callers a.key).held) :
    ∃ s b c, u.release caller a = u.put a.key s c ∧ Change u a.key s b c := by
  obtain ⟨b, found, here⟩ := held_bucket sound holds
  obtain ⟨key, serial⟩ := a
  cases here
  have change := kept_change sound found
  have returned := give_back_serves change.serves holds
  have next := change.set _ _ u.slots.nextTicket (pass_on_serves returned)
    (pass_on_ordered returned (give_back_ordered change.ordered _)) (max_release b)
    (Nat.le_refl _) (fun t member => change.fresh t ((tickets_release b).subset member))
  refine ⟨_, _, _, ?_, next⟩
  simp only [Traffic.release, if_pos holds, release_of_found found]

/-- A caller in line takes a slot exactly if it was handed one. -/
theorem receive_change (sound : Sound u)
    (stands : (caller, p) ∈ (u.callers p.key).handed ++ (u.callers p.key).waiting) :
    u.receive caller p = u ∨
      ∃ s b c, u.receive caller p = u.put p.key s c ∧ Change u p.key s b c := by
  obtain ⟨b, found, here⟩ := place_bucket sound stands
  obtain ⟨key, serial, ticket⟩ := p
  cases here
  have change := kept_change sound found
  by_cases onItsWay : ticket ∈ b.handed
  · right
    have handed := (handed_iff change.serves stands).1 onItsWay
    have granted := change.ordered.handed_granted _ handed
    have next := change.set _ _ u.slots.nextTicket
      (hold_serves (vacate_handed_serves change.serves onItsWay) caller)
      (hold_ordered (vacate_ordered change.ordered _) granted _) rfl (Nat.le_refl _)
      (fun t member => change.fresh t ((List.erase_sublist.append_right _).subset member))
    refine ⟨_, _, _, ?_, next⟩
    simp only [Traffic.receive, if_pos stands, receive_of_handed found onItsWay]
  · left
    simp only [Traffic.receive, if_pos stands, receive_of_not_handed found onItsWay]

theorem cancel_change (sound : Sound u)
    (stands : (caller, p) ∈ (u.callers p.key).handed ++ (u.callers p.key).waiting) :
    ∃ s b c, u.cancel caller p = u.put p.key s c ∧ Change u p.key s b c := by
  obtain ⟨b, found, here⟩ := place_bucket sound stands
  obtain ⟨key, serial, ticket⟩ := p
  cases here
  have change := kept_change sound found
  by_cases onItsWay : ticket ∈ b.handed
  · have returned := vacate_handed_serves change.serves onItsWay
    have known := tickets_release { b with handed := b.handed.erase ticket }
    have next := change.set _ _ u.slots.nextTicket (pass_on_serves returned)
      (pass_on_ordered returned (vacate_ordered change.ordered _)) (max_release _)
      (Nat.le_refl _) (fun t member => change.fresh t
        ((List.erase_sublist.append_right _).subset (known.subset member)))
    refine ⟨_, _, _, ?_, next⟩
    simp only [Traffic.cancel, if_pos stands, abandon_of_handed found onItsWay]
  · have next := change.set _ _ u.slots.nextTicket
      (vacate_waiting_serves change.serves onItsWay) (vacate_ordered change.ordered _) rfl
      (Nat.le_refl _) (fun t member => change.fresh t (tickets_leaveLine b ticket ▸ member))
    refine ⟨_, _, _, ?_, next⟩
    simp only [Traffic.cancel, if_pos stands, abandon_of_not_handed found onItsWay, Callers.grant]

/-- Dropping idle buckets drops none that anybody holds a slot of or waits at. -/
theorem cleanup_sound (sound : Sound u) : Sound { u with slots := u.slots.cleanup.1 } where
  unique := Table.unique_filter sound.unique _
  agrees := by
    intro key
    have before := sound.agrees key
    simp only [Agrees, Slots.cleanup, Table.get?_filter sound.unique] at before ⊢
    cases found : u.slots.buckets.get? key with
    | none => rwa [found] at before
    | some b =>
      rw [found] at before
      cases idle : b.isIdle with
      | true =>
        simp only [Option.filter, idle, Bool.not_true, Bool.false_eq_true, if_false]
        exact idle_bucket_unused before.1 idle
      | false =>
        simp only [Option.filter, idle, Bool.not_false, if_true]
        exact before
  ordered := sound.ordered

/-- What a move can do: nothing, drop idle buckets, or change one key. Only asking begins a bucket. -/
theorem step_cases (sound : Sound u) (m : Move) :
    u.step m = u ∨ m = .cleanup ∨
      ∃ key s b c, u.step m = u.put key s c ∧ Change u key s b c ∧
        (u.slots.buckets.get? key = none → ∃ rule, m = .enter key rule ∧ b.max = rule.number) := by
  cases m with
  | enter key rule =>
    obtain ⟨s, b, c, moved, change, begun⟩ := enter_change sound key rule
    exact Or.inr (Or.inr ⟨key, s, b, c, moved, change, fun absent => ⟨rule, rfl, begun absent⟩⟩)
  | release caller a =>
    by_cases holds : (caller, a) ∈ (u.callers a.key).held
    · obtain ⟨s, b, c, moved, change⟩ := release_change sound holds
      obtain ⟨old, found, -⟩ := held_bucket sound holds
      exact Or.inr (Or.inr ⟨a.key, s, b, c, moved, change, fun absent => by simp [found] at absent⟩)
    · exact Or.inl (by simp only [Traffic.step, Traffic.release, if_neg holds])
  | receive caller p =>
    by_cases stands : (caller, p) ∈ (u.callers p.key).handed ++ (u.callers p.key).waiting
    · rcases receive_change sound stands with same | ⟨s, b, c, moved, change⟩
      · exact Or.inl same
      · obtain ⟨old, found, -⟩ := place_bucket sound stands
        exact Or.inr (Or.inr ⟨p.key, s, b, c, moved, change,
          fun absent => by simp [found] at absent⟩)
    · exact Or.inl (by simp only [Traffic.step, Traffic.receive, if_neg stands])
  | cancel caller p =>
    by_cases stands : (caller, p) ∈ (u.callers p.key).handed ++ (u.callers p.key).waiting
    · obtain ⟨s, b, c, moved, change⟩ := cancel_change sound stands
      obtain ⟨old, found, -⟩ := place_bucket sound stands
      exact Or.inr (Or.inr ⟨p.key, s, b, c, moved, change, fun absent => by simp [found] at absent⟩)
    · exact Or.inl (by simp only [Traffic.step, Traffic.cancel, if_neg stands])
  | cleanup => exact Or.inr (Or.inl rfl)

theorem step_sound (sound : Sound u) (m : Move) : Sound (u.step m) := by
  rcases step_cases sound m with same | rfl | ⟨key, s, b, c, moved, change, -⟩
  · rw [same]
    exact sound
  · exact cleanup_sound sound
  · rw [moved]
    exact change_sound sound change

theorem run_snoc (earlier : List Move) (m : Move) :
    Traffic.run (earlier ++ [m]) = (Traffic.run earlier).step m := by
  simp [Traffic.run]

theorem nothing_sound : Sound {} where
  unique := List.nodup_nil
  agrees := fun _ => ⟨rfl, rfl, rfl⟩
  ordered := fun _ => ⟨List.Pairwise.nil, by simp, by simp, by simp⟩

theorem run_sound (moves : List Move) : Sound (Traffic.run moves) := by
  induction moves using List.reverseRecOn with
  | nil => exact nothing_sound
  | append_singleton earlier m ih =>
    rw [run_snoc]
    exact step_sound ih m

/-- A bucket has the size that the rule says under which callers ask. -/
theorem run_size (moves : List Move) (fixed : ∀ other, .enter key other ∈ moves → other = rule)
    (found : (Traffic.run moves).slots.buckets.get? key = some b) : b.max = rule.number := by
  induction moves using List.reverseRecOn generalizing b with
  | nil => cases found
  | append_singleton earlier m ih =>
    have before : ∀ b, (Traffic.run earlier).slots.buckets.get? key = some b →
        b.max = rule.number :=
      fun b => ih fun other member => fixed other (List.mem_append_left _ member)
    have sound := run_sound earlier
    rw [run_snoc] at found
    rcases step_cases sound m with same | rfl | ⟨other, s, b', c, moved, change, begun⟩
    · rw [same] at found
      exact before b found
    · simp only [Traffic.step, Slots.cleanup, Table.get?_filter sound.unique] at found
      exact before b (Option.eq_some_of_filter_eq_some found)
    · rw [moved] at found
      by_cases here : other = key
      · subst here
        have isNew : b' = b := Option.some.inj (change.found.symm.trans found)
        subst isNew
        cases kept : (Traffic.run earlier).slots.buckets.get? other with
        | some old => rw [change.size old kept, before old kept]
        | none =>
          obtain ⟨asked, rfl, size⟩ := begun kept
          rw [size, fixed asked (List.mem_append_right _ (List.mem_singleton.2 rfl))]
      · exact before b ((change.others key here).symm.trans found)

/-! ## What callers rely on -/

/-- The slots of a key are shared fairly among its callers, `number` of them at most. -/
structure Fair (s : Slots) (key : SlotKey) (c : Callers) (number : Nat) : Prop where
  /-- The count is of slots held and of slots handed over but not received yet. -/
  counted : s.inFlight key = c.held.length + c.handed.length
  bounded : s.inFlight key ≤ number
  /-- While a slot is free nobody waits, and the bucket has no line. -/
  none_idle : s.inFlight key < number →
    c.waiting = [] ∧ ∀ b, s.buckets.get? key = some b → b.waiters = []
  /-- A slot that is given back was counted, also one that its caller never received. -/
  release_counted : ∀ serial, serial ∈ c.held.map (·.2.serial) ++ c.handed.map (·.2.serial) →
    ∃ b, s.bucket? key serial = some b ∧ 1 ≤ b.inFlight
  one_bucket : ∀ e ∈ c.held, ∀ other ∈ c.held, e.2 = other.2
  /-- Who was handed a slot can receive it, and who waits cannot receive any. -/
  received : (∀ e ∈ c.handed, (s.receive e.2).isSome) ∧ ∀ e ∈ c.waiting, s.receive e.2 = none
  granted : ∀ caller, caller ∈ c.held.map (·.1) ++ c.handed.map (·.1) → caller ∈ c.granted
  in_order : c.granted.Pairwise (· < ·)
  none_overtaken : ∀ caller ∈ c.granted, ∀ e ∈ c.waiting, caller < e.1

theorem fair_of_serves {s : Slots} (found : s.buckets.get? key = some b) (serves : Serves key b c 0)
    (ordered : c.Ordered) : Fair s key c b.max := by
  have count : s.inFlight key = b.inFlight := by simp [Slots.inFlight, found]
  have order := List.pairwise_append.1 ordered.in_order
  refine {
    counted := by rw [count, serves.in_flight, Nat.add_zero]
    bounded := by rw [count]; exact serves.within
    none_idle := ?_
    release_counted := ?_
    one_bucket := fun e member other otherMember => by
      rw [serves.held_here e member, serves.held_here other otherMember]
    received := ⟨?_, ?_⟩
    granted := ?_
    in_order := order.1
    none_overtaken := fun caller member e waits =>
      order.2.2 caller member e.1 (List.mem_map_of_mem waits) }
  · intro free
    rw [count] at free
    have noLine := serves.busy free
    refine ⟨by simpa [noLine, liveTickets] using serves.waiting_places, ?_⟩
    intro b' same
    rw [Option.some.inj (same.symm.trans found)]
    exact noLine
  · intro serial member
    have total := serves.in_flight
    rcases List.mem_append.1 member with holder | receiver
    · obtain ⟨e, holds, rfl⟩ := List.mem_map.1 holder
      rw [serves.held_here e holds]
      have := List.length_pos_of_mem holds
      exact ⟨b, bucket_found found, by omega⟩
    · obtain ⟨e, handed, rfl⟩ := List.mem_map.1 receiver
      obtain ⟨t, -, here⟩ := place_of_handed serves handed
      rw [here]
      have := List.length_pos_of_mem handed
      exact ⟨b, bucket_found found, by omega⟩
  · intro e member
    obtain ⟨t, onItsWay, here⟩ := place_of_handed serves member
    rw [here, receive_of_handed found onItsWay]
    rfl
  · intro e member
    obtain ⟨t, notOnItsWay, here⟩ := place_of_waiting serves member
    rw [here, receive_of_not_handed found notOnItsWay]
  · intro caller member
    rcases List.mem_append.1 member with holder | receiver
    · obtain ⟨e, holds, rfl⟩ := List.mem_map.1 holder
      exact ordered.held_granted e holds
    · obtain ⟨e, handed, rfl⟩ := List.mem_map.1 receiver
      exact ordered.handed_granted e handed

/-- Where no bucket is kept nobody has a slot or waits. -/
theorem fair_of_nobody {s : Slots} (absent : s.buckets.get? key = none) (held : c.held = [])
    (handed : c.handed = []) (waiting : c.waiting = []) (ordered : c.Ordered) (number : Nat) :
    Fair s key c number := by
  have count : s.inFlight key = 0 := by simp [Slots.inFlight, absent]
  exact {
    counted := by simp [count, held, handed]
    bounded := by rw [count]; exact Nat.zero_le _
    none_idle := fun _ => ⟨waiting, by simp [absent]⟩
    release_counted := by simp [held, handed]
    one_bucket := by simp [held]
    received := by simp [handed, waiting]
    granted := by simp [held, handed]
    in_order := (List.pairwise_append.1 ordered.in_order).1
    none_overtaken := by simp [waiting] }

/-- Slots that are asked for under one rule are shared fairly, whatever the callers do, in whatever
order, whenever idle buckets are dropped, and whatever happens at other keys. -/
theorem slots_shared_fairly (moves : List Move) (key : SlotKey) (rule : Concurrency)
    (fixed : ∀ other, .enter key other ∈ moves → other = rule) :
    Fair (Traffic.run moves).slots key ((Traffic.run moves).callers key) rule.number := by
  have sound := run_sound moves
  have agrees := sound.agrees key
  cases found : (Traffic.run moves).slots.buckets.get? key with
  | none =>
    simp only [Agrees, found] at agrees
    exact fair_of_nobody found agrees.1 agrees.2.1 agrees.2.2 (sound.ordered key) _
  | some b =>
    simp only [Agrees, found] at agrees
    rw [← run_size moves fixed found]
    exact fair_of_serves found agrees.1 (sound.ordered key)

/-- One slot, three callers: the second gives up its place, the first gives its slot back, and the
third receives it after an attempt to drop the bucket. -/
theorem third_caller_follows_cancelled_second :
    let key : SlotKey := ⟨"play", .channel 7⟩
    let rule : Concurrency := ⟨1, .channel, true⟩
    let moves : List Move := [.enter key rule, .enter key rule, .enter key rule,
      .cancel 1 ⟨key, 0, 0⟩, .release 0 ⟨key, 0⟩, .cleanup, .receive 2 ⟨key, 0, 1⟩]
    (∀ other, .enter key other ∈ moves → other = rule) ∧
      ((Traffic.run moves).callers key).granted = [0, 2] ∧
      Fair (Traffic.run moves).slots key ((Traffic.run moves).callers key) 1 := by
  intro key rule moves
  have fixed : ∀ other, .enter key other ∈ moves → other = rule := by
    intro other member
    simpa [moves] using member
  exact ⟨fixed, by decide, slots_shared_fairly moves key rule fixed⟩

end ChatCommands.FairSlots
