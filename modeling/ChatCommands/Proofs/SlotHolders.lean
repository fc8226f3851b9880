import ChatCommands.Proofs.FairSlots
import ChatCommands.Proofs.SlotDiaries

/-! Slots and all who have something of them. What a number of invocations have of the slots is, put
together, what the callers have in the books of `Traffic`, and whatever one of them does about slots
is a move there (`moves_of_deals`, `moves_of_withdrawn`). So what holds of callers after all moves holds
of invocations: the slots in flight at a key are those that invocations hold there, and those on
their way to an invocation in line (`inFlight_of_attends`). -/
namespace ChatCommands.SlotHolders
open InvocationCourse SlotTraffic FairSlots SlotDeals SlotDiaries

variable {σ : Type} {inv : Invocation σ} {u : Traffic} {before kept : Stake} {others : List Stake}
  {key : SlotKey} {rule : Concurrency} {admission : Admission} {place : Place} {after : Slots}
  {c : Callers} {b : SlotBucket}

/-- A slot that is held at a key. -/
def slotAt (key : SlotKey) : Stake → Option Admission
  | .slot admission => if admission.key = key then some admission else none
  | _ => none

/-- A place in the line at a key. -/
def placeAt (key : SlotKey) : Stake → Option Place
  | .place place => if place.key = key then some place else none
  | _ => none

def slotsAt (key : SlotKey) (stakes : List Stake) : List Admission := stakes.filterMap (slotAt key)

def placesAt (key : SlotKey) (stakes : List Stake) : List Place := stakes.filterMap (placeAt key)

/-- The callers in the books have what the invocations have. -/
structure Attends (u : Traffic) (stakes : List Stake) : Prop where
  held : ∀ key, ((u.callers key).held.map (·.2)).Perm (slotsAt key stakes)
  stands : ∀ key, (((u.callers key).handed ++ (u.callers key).waiting).map (·.2)).Perm
    (placesAt key stakes)

theorem attends_perm {stakes same : List Stake} (attends : Attends u stakes)
    (perm : stakes.Perm same) : Attends u same :=
  ⟨fun key => (attends.held key).trans (perm.filterMap _),
    fun key => (attends.stands key).trans (perm.filterMap _)⟩

/-- Nothing of the slots is had at other keys. -/
def OnlyAt (key : SlotKey) (stake : Stake) : Prop :=
  ∀ other, key ≠ other → slotAt other stake = none ∧ placeAt other stake = none

theorem onlyAt_nothing : OnlyAt key .nothing := fun _ _ => ⟨rfl, rfl⟩

theorem onlyAt_slot (here : admission.key = key) : OnlyAt key (.slot admission) :=
  fun _ different => ⟨if_neg (here ▸ different), rfl⟩

theorem onlyAt_place (here : place.key = key) : OnlyAt key (.place place) :=
  fun _ different => ⟨rfl, if_neg (here ▸ different)⟩

theorem slotsAt_cons (stake : Stake) :
    slotsAt key (stake :: others) = (slotAt key stake).toList ++ slotsAt key others := by
  unfold slotsAt
  rw [List.filterMap_cons]
  cases slotAt key stake <;> rfl

theorem placesAt_cons (stake : Stake) :
    placesAt key (stake :: others) = (placeAt key stake).toList ++ placesAt key others := by
  unfold placesAt
  rw [List.filterMap_cons]
  cases placeAt key stake <;> rfl

/-- The books after a change at one key. -/
theorem attends_put {s : Slots} (attends : Attends u (before :: others)) (was : OnlyAt key before)
    (is : OnlyAt key kept)
    (held : (c.held.map (·.2)).Perm ((slotAt key kept).toList ++ slotsAt key others))
    (stands : ((c.handed ++ c.waiting).map (·.2)).Perm
      ((placeAt key kept).toList ++ placesAt key others)) :
    Attends (u.put key s c) (kept :: others) := by
  refine ⟨fun other => ?_, fun other => ?_⟩
  · rw [slotsAt_cons]
    by_cases same : key = other
    · subst same
      simpa only [Traffic.put, Function.update_self] using held
    · have old := attends.held other
      rw [slotsAt_cons, (was other same).1] at old
      simpa only [Traffic.put, Function.update_of_ne (Ne.symm same), (is other same).1] using old
  · rw [placesAt_cons]
    by_cases same : key = other
    · subst same
      simpa only [Traffic.put, Function.update_self] using stands
    · have old := attends.stands other
      rw [placesAt_cons, (was other same).2] at old
      simpa only [Traffic.put, Function.update_of_ne (Ne.symm same), (is other same).2] using old

/-! ## Asking -/

section Asking

variable (attends : Attends u (.nothing :: others))
include attends

theorem held_of_nothing : ((u.callers key).held.map (·.2)).Perm (slotsAt key others) :=
  attends.held key

theorem stands_of_nothing : (((u.callers key).handed ++ (u.callers key).waiting).map (·.2)).Perm
    (placesAt key others) :=
  attends.stands key

theorem attends_admitted (enters : u.slots.enter key rule = (.admitted admission, after)) :
    (u.enter key rule).slots = after ∧ Attends (u.enter key rule) (.slot admission :: others) := by
  have here := key_of_admitted enters
  simp only [Traffic.enter, enters]
  refine ⟨rfl, attends_put attends onlyAt_nothing (onlyAt_slot here) ?_ (stands_of_nothing attends)⟩
  rw [slotAt, if_pos here]
  exact (held_of_nothing attends).cons admission

theorem attends_refused {max : Nat} (enters : u.slots.enter key rule = (.saturated max, after)) :
    (u.enter key rule).slots = after ∧ Attends (u.enter key rule) (.nothing :: others) := by
  simp only [Traffic.enter, enters]
  exact ⟨rfl, attends_put attends onlyAt_nothing onlyAt_nothing (held_of_nothing attends)
    (stands_of_nothing attends)⟩

theorem attends_lined (enters : u.slots.enter key rule = (.queued place, after)) :
    (u.enter key rule).slots = after ∧ Attends (u.enter key rule) (.place place :: others) := by
  have here := key_of_queued enters
  simp only [Traffic.enter, enters]
  refine ⟨rfl, attends_put attends onlyAt_nothing (onlyAt_place here) (held_of_nothing attends) ?_⟩
  rw [placeAt, if_pos here, ← List.append_assoc, List.map_append, List.map_singleton]
  exact (List.perm_append_singleton _ _).trans ((stands_of_nothing attends).cons place)

end Asking

/-! ## Giving back -/

theorem grant_held (c : Callers) (ticket : Option Nat) : (c.grant ticket).held = c.held := by
  cases ticket <;> rfl

/-- Who is handed a slot stays where it is. -/
theorem grant_stands (c : Callers) (ticket : Option Nat) :
    ((c.grant ticket).handed ++ (c.grant ticket).waiting).Perm (c.handed ++ c.waiting) := by
  cases ticket with
  | none => exact .refl _
  | some ticket =>
    simp only [Callers.grant, List.append_assoc]
    refine List.Perm.append_left c.handed ?_
    have split := List.filter_append_perm (fun e : Nat × Place => decide (e.2.ticket = ticket))
      c.waiting
    simpa [decide_not] using split

theorem attends_released (attends : Attends u (.slot admission :: others)) :
    ∃ caller, (u.release caller admission).slots = (u.slots.release admission).1 ∧
      Attends (u.release caller admission) (.nothing :: others) := by
  have held := attends.held admission.key
  have stands := attends.stands admission.key
  rw [slotsAt_cons, slotAt, if_pos rfl] at held
  obtain ⟨⟨caller, _⟩, holds, rfl⟩ := List.mem_map.1 (held.mem_iff.2 List.mem_cons_self)
  refine ⟨caller, ?_⟩
  simp only [Traffic.release, if_pos holds]
  refine ⟨rfl, attends_put attends (onlyAt_slot rfl) onlyAt_nothing ?_ ?_⟩
  · rw [grant_held]
    have whole := (List.perm_cons_erase holds).map (·.2)
    exact (whole.symm.trans held).cons_inv
  · exact ((grant_stands _ _).map _).trans stands

/-! ## In line -/

/-- No two callers stand at one place. -/
theorem places_nodup (sound : Sound u) (key : SlotKey) :
    (((u.callers key).handed ++ (u.callers key).waiting).map (·.2)).Nodup := by
  have agrees := sound.agrees key
  cases found : u.slots.buckets.get? key with
  | none =>
    simp only [Agrees, found] at agrees
    simp [agrees.2.1, agrees.2.2]
  | some b =>
    simp only [Agrees, found] at agrees
    have serves := agrees.1
    rw [List.map_append, serves.handed_places, serves.waiting_places, ← List.map_append]
    refine List.Nodup.map (fun one other same => (Place.mk.inj same).2.2) ?_
    exact serves.distinct.sublist ((List.filter_sublist.map _).append_left _)

/-- Who leaves its place leaves the others where they are. -/
theorem vacate_stands (sound : Sound u) (attends : Attends u (.place place :: others)) :
    let c := (u.callers place.key).vacate place
    ((c.handed ++ c.waiting).map (·.2)).Perm (placesAt place.key others) := by
  have stands := attends.stands place.key
  have distinct := places_nodup sound place.key
  rw [placesAt_cons, placeAt, if_pos rfl] at stands
  have alone : place ∉ placesAt place.key others :=
    (List.nodup_cons.1 (stands.nodup_iff.1 distinct)).1
  have left := stands.filter fun p => decide (p ≠ place)
  have kept : (placesAt place.key others).filter (fun p => decide (p ≠ place)) =
      placesAt place.key others := by
    refine List.filter_eq_self.2 fun p member => decide_eq_true ?_
    rintro rfl
    exact alone member
  rw [Option.toList_some, List.singleton_append, List.filter_cons_of_neg (by simp), kept,
    List.filter_map, List.filter_append] at left
  exact left

theorem stands_of_place (attends : Attends u (.place place :: others)) :
    ∃ caller, (caller, place) ∈
      (u.callers place.key).handed ++ (u.callers place.key).waiting := by
  have stands := attends.stands place.key
  rw [placesAt_cons, placeAt, if_pos rfl] at stands
  obtain ⟨⟨caller, _⟩, here, rfl⟩ := List.mem_map.1 (stands.mem_iff.2 List.mem_cons_self)
  exact ⟨caller, here⟩

theorem attends_received (sound : Sound u) (attends : Attends u (.place place :: others))
    (receives : u.slots.receive place = some (admission, after)) :
    ∃ caller, (u.receive caller place).slots = after ∧
      Attends (u.receive caller place) (.slot admission :: others) := by
  obtain ⟨caller, here⟩ := stands_of_place attends
  have same := key_of_received receives
  refine ⟨caller, ?_⟩
  simp only [Traffic.receive, if_pos here, receives]
  refine ⟨rfl, attends_put attends (onlyAt_place rfl) (onlyAt_slot same) ?_
    (vacate_stands sound attends)⟩
  rw [slotAt, if_pos same]
  exact (attends.held place.key).cons admission

theorem attends_abandoned (sound : Sound u) (attends : Attends u (.place place :: others)) :
    ∃ caller, (u.cancel caller place).slots = (u.slots.abandon place).1 ∧
      Attends (u.cancel caller place) (.nothing :: others) := by
  obtain ⟨caller, here⟩ := stands_of_place attends
  refine ⟨caller, ?_⟩
  simp only [Traffic.cancel, if_pos here]
  refine ⟨rfl, attends_put attends (onlyAt_place rfl) onlyAt_nothing ?_ ?_⟩
  · rw [grant_held]
    exact attends.held place.key
  · exact ((grant_stands _ _).map _).trans (vacate_stands sound attends)

/-! ## Dealings as moves -/

/-- The books after some more moves in which only certain slots are asked for. -/
structure Onward (asks : SlotKey → Concurrency → Prop) (u : Traffic) (moves : List Move)
    (slots : Slots) (stakes : List Stake) : Prop where
  reached : (moves.foldl Traffic.step u).slots = slots
  attends : Attends (moves.foldl Traffic.step u) stakes
  asked : ∀ key rule, .enter key rule ∈ moves → asks key rule

/-- What an invocation asks for: slots of the rule of its command, at its bucket. -/
def Asks (inv : Invocation σ) (key : SlotKey) (rule : Concurrency) : Prop :=
  inv.command.parts.concurrency = some rule ∧ key = Slots.keyFor inv.name rule inv.ctx

theorem onward_of_move {asks : SlotKey → Concurrency → Prop} {stakes : List Stake} (move : Move)
    (moved : (u.step move).slots = after ∧ Attends (u.step move) stakes)
    (asked : ∀ key rule, .enter key rule = move → asks key rule) :
    ∃ moves, Onward asks u moves after stakes :=
  ⟨[move], moved.1, moved.2, fun key rule member => asked key rule (List.mem_singleton.1 member)⟩

/-- Whatever an invocation does about slots is a move. -/
theorem moves_of_deals {marks : List Mark} (sound : Sound u)
    (attends : Attends u (before :: others)) (deals : Deals inv u.slots before marks after kept) :
    ∃ moves, Onward (Asks inv) u moves after (kept :: others) := by
  have asking (rule : Concurrency) (limited : inv.command.parts.concurrency = some rule)
      (moved : (u.enter (Slots.keyFor inv.name rule inv.ctx) rule).slots = after ∧
        Attends (u.enter (Slots.keyFor inv.name rule inv.ctx) rule) (kept :: others)) :
      ∃ moves, Onward (Asks inv) u moves after (kept :: others) := by
    refine onward_of_move (.enter (Slots.keyFor inv.name rule inv.ctx) rule) moved ?_
    rintro key rule ⟨⟩
    exact ⟨limited, rfl⟩
  cases deals with
  | keeps => exact ⟨[], rfl, attends, nofun⟩
  | admitted limited enters => exact asking _ limited (attends_admitted attends enters)
  | refused limited enters => exact asking _ limited (attends_refused attends enters)
  | lined limited enters => exact asking _ limited (attends_lined attends enters)
  | @called _ place _ receives =>
    obtain ⟨caller, moved⟩ := attends_received sound attends receives
    exact onward_of_move (.receive caller place) moved nofun
  | @gaveBack admission =>
    obtain ⟨caller, moved⟩ := attends_released attends
    exact onward_of_move (.release caller admission) moved nofun

/-- Giving back whatever there is to be given back is a move. -/
theorem moves_of_withdrawn {asks : SlotKey → Concurrency → Prop} (sound : Sound u)
    (attends : Attends u (before :: others)) :
    ∃ moves, Onward asks u moves (withdrawn u.slots before) (.nothing :: others) := by
  cases before with
  | nothing => exact ⟨[], rfl, attends, nofun⟩
  | slot admission =>
    obtain ⟨caller, moved⟩ := attends_released attends
    exact onward_of_move (.release caller admission) moved nofun
  | place place =>
    obtain ⟨caller, moved⟩ := attends_abandoned sound attends
    exact onward_of_move (.cancel caller place) moved nofun

/-! ## Counting -/

/-- Whether a slot at a key is held, or on its way to a place in line. -/
def holdsAt (slots : Slots) (key : SlotKey) : Stake → Bool
  | .nothing => false
  | .slot admission => admission.key = key
  | .place place => decide (place.key = key) && (slots.receive place).isSome

theorem countP_holdsAt (slots : Slots) (key : SlotKey) (stakes : List Stake) :
    stakes.countP (holdsAt slots key) = (slotsAt key stakes).length +
      (placesAt key stakes).countP fun place => (slots.receive place).isSome := by
  induction stakes with
  | nil => rfl
  | cons stake rest ih =>
    rw [slotsAt_cons, placesAt_cons, List.countP_cons, ih, List.length_append, List.countP_append]
    cases stake with
    | nothing => simp [holdsAt, slotAt, placeAt]
    | slot admission =>
      by_cases here : admission.key = key <;> simp [holdsAt, slotAt, placeAt, here]
      omega
    | place place =>
      by_cases here : place.key = key <;> cases way : (slots.receive place).isSome <;>
        simp [holdsAt, slotAt, placeAt, here, way]
      omega

/-- The callers at a key share its slots fairly, as many as its bucket has. -/
theorem fair_of_sound (sound : Sound u) (key : SlotKey) : ∃ number,
    Fair u.slots key (u.callers key) number ∧
      ∀ b, u.slots.buckets.get? key = some b → number = b.max := by
  have agrees := sound.agrees key
  cases found : u.slots.buckets.get? key with
  | none =>
    simp only [Agrees, found] at agrees
    obtain ⟨held, handed, waiting⟩ := agrees
    exact ⟨0, fair_of_nobody found held handed waiting (sound.ordered key) 0, by simp⟩
  | some b =>
    simp only [Agrees, found] at agrees
    refine ⟨b.max, fair_of_serves found agrees.1 (sound.ordered key), fun other same => ?_⟩
    rw [Option.some.inj same]

/-- The slots in flight at a key are those that are held there or on their way to somebody. -/
theorem inFlight_of_attends (sound : Sound u) {stakes : List Stake} (attends : Attends u stakes)
    (key : SlotKey) : u.slots.inFlight key = stakes.countP (holdsAt u.slots key) := by
  obtain ⟨number, fair, -⟩ := fair_of_sound sound key
  obtain ⟨handed, waiting⟩ := fair.received
  have held := (attends.held key).length_eq
  have stands := (attends.stands key).countP_eq fun place => (u.slots.receive place).isSome
  have allHanded : ((u.callers key).handed.map (·.2)).countP
      (fun place => (u.slots.receive place).isSome) = (u.callers key).handed.length := by
    rw [← List.length_map (·.2), List.countP_eq_length]
    rintro _ member
    obtain ⟨e, here, rfl⟩ := List.mem_map.1 member
    exact handed e here
  have noneWaits : ((u.callers key).waiting.map (·.2)).countP
      (fun place => (u.slots.receive place).isSome) = 0 := by
    rw [List.countP_eq_zero]
    rintro _ member
    obtain ⟨e, here, rfl⟩ := List.mem_map.1 member
    simp [waiting e here]
  rw [List.map_append, List.countP_append, allHanded, noneWaits] at stands
  rw [countP_holdsAt, ← held, ← stands, List.length_map, fair.counted, Nat.add_zero]

/-! ## Sizes of buckets -/

theorem size_of_move (sound : Sound u) (move : Move)
    (found : (u.step move).slots.buckets.get? key = some b) :
    (∃ old, u.slots.buckets.get? key = some old ∧ b.max = old.max) ∨
      ∃ rule, .enter key rule = move ∧ b.max = rule.number := by
  rcases step_cases sound move with same | rfl | ⟨other, s, b', c, moved, change, begun⟩
  · rw [same] at found
    exact .inl ⟨b, found, rfl⟩
  · simp only [Traffic.step, Slots.cleanup, Table.get?_filter sound.unique] at found
    exact .inl ⟨b, Option.eq_some_of_filter_eq_some found, rfl⟩
  · rw [moved] at found
    by_cases here : other = key
    · subst here
      obtain rfl : b' = b := Option.some.inj (change.found.symm.trans found)
      cases kept : u.slots.buckets.get? other with
      | some old => exact .inl ⟨old, rfl, change.size old kept⟩
      | none =>
        obtain ⟨rule, asked, size⟩ := begun kept
        exact .inr ⟨rule, asked.symm, size⟩
    · exact .inl ⟨b, (change.others key here).symm.trans found, rfl⟩

/-- After some moves a bucket has the size that it had, or that of a rule under which it was asked
for. -/
theorem size_of_moves (sound : Sound u) {moves : List Move}
    (found : (moves.foldl Traffic.step u).slots.buckets.get? key = some b) :
    (∃ old, u.slots.buckets.get? key = some old ∧ b.max = old.max) ∨
      ∃ rule, .enter key rule ∈ moves ∧ b.max = rule.number := by
  induction moves generalizing u with
  | nil => exact .inl ⟨b, found, rfl⟩
  | cons move rest ih =>
    rcases ih (step_sound sound move) found with ⟨old, kept, size⟩ | ⟨rule, member, size⟩
    · rcases size_of_move sound move kept with ⟨first, there, same⟩ | ⟨rule, asked, same⟩
      · exact .inl ⟨first, there, size.trans same⟩
      · exact .inr ⟨rule, asked ▸ List.mem_cons_self, size.trans same⟩
    · exact .inr ⟨rule, List.mem_cons_of_mem _ member, size⟩

/-- A bucket that is asked for under no rule of more slots never has more of them in flight. -/
theorem inFlight_le {moves : List Move} {most : Nat}
    (bounded : ∀ rule, .enter key rule ∈ moves → rule.number ≤ most) :
    (Traffic.run moves).slots.inFlight key ≤ most := by
  obtain ⟨number, fair, size⟩ := fair_of_sound (run_sound moves) key
  cases found : (Traffic.run moves).slots.buckets.get? key with
  | none => simp [Slots.inFlight, found]
  | some b =>
    have least : b.max ≤ most := by
      rcases size_of_moves nothing_sound found with ⟨old, kept, -⟩ | ⟨rule, member, same⟩
      · cases kept
      · exact same ▸ bounded rule member
    rw [← size b found] at least
    exact fair.bounded.trans least

end ChatCommands.SlotHolders
