import ChatCommands.Proofs.Lifetimes

/-! Buckets of slots outlive the command that began them. A bucket is kept under the qualified name of
its command, with as many slots as the rule said under which it was begun, until a clean-up finds it
idle; unloading a module does not drop it. So what bounds the invocations of a command are not the
slots of its own rule but those of whoever first asked for one in the bucket (`size_of_lives`): the
command, or an earlier one of its name. -/
namespace ChatCommands.OutlivingBuckets
open InvocationCourse SlotTraffic FairSlots SlotDeals SlotDiaries SlotHolders Interleavings
open QualifiedNames HousedModules Lifetimes Dispatcher
open LegalCourses hiding plain

variable {σ : Type} {d : Dispatcher σ} {ci : Bool} {u : Traffic} {key : SlotKey} {b : SlotBucket}
  {w now next : World σ} {past : List (World σ)} {strand : Strand σ}

/-! ## Who asks -/

/-- What is asked for under the rules of commands that have invocations which have not come past the
slots, or that were registered on the way. -/
def KnownAsks (w : World σ) (past : List (World σ)) (key : SlotKey) (rule : Concurrency) : Prop :=
  ∃ c, Known outside w past c ∧ c.qualified = key.command ∧ c.parts.concurrency = some rule

/-- A run is moves in the books of the slots, in which known commands ask. -/
theorem onward_of_lives (stable : Stable ci w) (lives : Lives d w past now) (sound : Sound u)
    (attends : Attends u (w.strands.map Strand.stake)) (here : u.slots = w.service.slots) :
    ∃ moves, Onward (KnownAsks w past) u moves now.service.slots
      (now.strands.map Strand.stake) := by
  induction lives with
  | start => exact ⟨[], here, attends, nofun⟩
  | @turn past now next lives turn ih =>
    obtain ⟨moves, reached, still, asked⟩ := ih
    have middle := stable_of_lives stable lives
    obtain ⟨more, onward⟩ := onward_of_turn turn
      (fun t change => effect_of_change middle.orderly middle.housed change) middle.accounted
      (sound_of_moves sound moves) still reached
    refine ⟨moves ++ more, ?_, ?_, fun key rule member => ?_⟩
    · rw [List.foldl_append]
      exact onward.reached
    · rw [List.foldl_append]
      exact onward.attends
    · rcases List.mem_append.1 member with old | new
      · obtain ⟨c, known, named, limited⟩ := asked key rule old
        exact ⟨c, known_later known, named, limited⟩
      · obtain ⟨strand, present, still, limited, rfl⟩ := onward.asked key rule new
        have known := known_of_lives rfl outside_of_step stable lives strand present still
        exact ⟨strand.inv.command, known_later known, rfl, limited⟩

/-- A bucket that was begun on the way has as many slots as the rule of a known command says. -/
theorem size_of_lives (stable : Stable ci w) (lives : Lives d w past now)
    (absent : w.service.slots.buckets.get? key = none)
    (found : now.service.slots.buckets.get? key = some b) :
    ∃ rule, KnownAsks w past key rule ∧ b.max = rule.number := by
  obtain ⟨u, sound, here, attends⟩ := stable.booked
  obtain ⟨moves, onward⟩ := onward_of_lives stable lives sound attends here
  rw [← onward.reached] at found
  rcases size_of_moves sound found with ⟨old, kept, -⟩ | ⟨rule, member, size⟩
  · rw [here, absent] at kept
    cases kept
  · exact ⟨rule, onward.asked key rule member, size⟩

/-! ## How many are in flight -/

theorem inFlight_of_stable (stable : Stable ci w) (key : SlotKey) :
    w.service.slots.inFlight key =
      w.strands.countP fun strand => holdsAt w.service.slots key strand.stake := by
  obtain ⟨u, sound, here, attends⟩ := stable.booked
  have count := inFlight_of_attends sound attends key
  rw [here, List.countP_map] at count
  exact count

theorem occupied_le_inFlight (stable : Stable ci w) (key : SlotKey) :
    w.strands.countP (occupies key) ≤ w.service.slots.inFlight key := by
  rw [inFlight_of_stable stable]
  refine List.countP_mono_left fun strand member occupied => ?_
  obtain ⟨within, place⟩ := Bool.and_eq_true_iff.1 occupied
  obtain ⟨rule, limited, here⟩ := Option.map_eq_some_iff.1 (of_decide_eq_true place)
  exact holdsAt_of_inside (stable.accounted strand member) within limited here

theorem inFlight_le_max (stable : Stable ci w)
    (found : w.service.slots.buckets.get? key = some b) : w.service.slots.inFlight key ≤ b.max := by
  obtain ⟨u, sound, here, -⟩ := stable.booked
  obtain ⟨number, fair, size⟩ := fair_of_sound sound key
  rw [here] at fair size
  rw [← size b found]
  exact fair.bounded

/-- A bucket that was begun on the way from one world to another has as many slots as the rule says of
a command that could ask for them in the meantime. So the invocations of a command in flight there
never exceed its own rule, unless an earlier command of its name had more slots. -/
theorem slots_of_first_asker (d : Dispatcher σ) (w now : World σ) (past : List (World σ))
    (reached : Reached d w) (lives : Lives d w past now) (key : SlotKey)
    (absent : w.service.slots.buckets.get? key = none) :
    (∀ b, now.service.slots.buckets.get? key = some b →
      ∃ rule, KnownAsks w past key rule ∧ b.max = rule.number) ∧
    ∀ c rule, c.qualified = key.command → c.parts.concurrency = some rule →
      (∀ e other, Known outside w past e → e ≠ c → e.qualified = c.qualified →
        e.parts.concurrency = some other → other.number ≤ rule.number) →
      now.service.slots.inFlight key ≤ rule.number ∧
        now.strands.countP (occupies key) ≤ rule.number := by
  have stable := stable_of_reached reached
  have after := stable_of_lives stable lives
  refine ⟨fun b found => size_of_lives stable lives absent found,
    fun c rule here limited others => ?_⟩
  have most : now.service.slots.inFlight key ≤ rule.number := by
    cases found : now.service.slots.buckets.get? key with
    | none => simp [Slots.inFlight, found]
    | some b =>
      obtain ⟨other, ⟨e, known, named, also⟩, size⟩ := size_of_lives stable lives absent found
      -- Whoever began the bucket is the command itself or one of those with no larger rule.
      have least : other.number ≤ rule.number := by
        by_cases same : e = c
        · subst same
          obtain rfl : rule = other := Option.some.inj (limited.symm.trans also)
          exact Nat.le_refl _
        · exact others e other known same (named.trans here.symm) also
      rw [← size] at least
      exact (inFlight_le_max after found).trans least
  exact ⟨most, (occupied_le_inFlight after key).trans most⟩

/-! ## A command in place of another -/

/-- Two invocations at a time in a channel. -/
def wide : CommandParts Unit where
  name := "work"
  concurrency := some ⟨2, .channel, false⟩
  body := some fun _ _ => .done

/-- One at a time, which waits for a permit. -/
def narrow : CommandParts Unit where
  name := "work"
  concurrency := some ⟨1, .channel, false⟩
  body := some fun _ _ => .permit .done

def holding (parts : CommandParts Unit) : Module Unit where
  name := "works"
  commands := [{ qualified := parts.name, parts := parts }]

/-- The command of that module as it is registered. -/
def held (parts : CommandParts Unit) (serial : Nat) : Command Unit where
  qualified := parts.name
  parts := parts
  owner := some "works"
  serial := serial

def loading (parts : CommandParts Unit) (s : Service Unit) : Service Unit :=
  (s.addModule (holding parts)).toOption.getD s

def unloading (s : Service Unit) : Service Unit :=
  (s.removeModule "works").toOption.getD s

/-- What asking for a command begins. -/
def asking (c : Command Unit) (s : Service Unit) : Handling Unit × Service Unit :=
  plain.invoke (begunBy plain s ask "!" ⟨c, [], "work", [], ""⟩) (met s)

/-- The service when the module that was wide is unloaded, after one invocation. -/
def emptied : Service Unit :=
  unloading (asking (held wide 0) (loading wide (.start plain ()))).2

/-- The command is narrow now, and asked for twice. -/
def crowded (s : Service Unit) : Service Unit :=
  (asking (held narrow 1) (asking (held narrow 1) (loading narrow s)).2).2

theorem lives_of_asking {c : Command Unit} {w : World Unit} (stable : Stable ci w)
    (resolved : w.service.registry.resolve "work" = .ok ⟨c, [], "work", [], ""⟩) :
    ∃ past later, Lives plain w past ⟨(asking c w.service).2, w.strands ++ [later]⟩ ∧
      Steady w.service past ∧
      ((asking c w.service).1 = .finished → later.point = .ended) := by
  have addressed : splitLead? plain.leads plain.settings.dispatch.stripAfterLead ask.content =
      some ("!", "work") := by
    simp only [leads, plain, List.mergeSort_singleton]
    decide
  obtain ⟨later, past, lives, steady, rests, same⟩ := lives_of_begun stable rfl addressed resolved
  rw [dispatch_of_resolved rfl addressed resolved] at lives same
  exact ⟨past, later, lives, steady, fun finished => ended_of_handling rests (same.trans finished)⟩

theorem emptied_reached : ∃ strand : Strand Unit, Reached plain ⟨emptied, [strand]⟩ ∧
    strand.point = .ended := by
  have loads : Change (.start plain ()) (loading wide (.start plain ())) :=
    .loaded (m := holding wide)
      (List.forall_mem_singleton.2 (.built (d := .declare wide false []) rfl)) rfl
  have loaded : Reached plain ⟨loading wide (.start plain ()), []⟩ :=
    ⟨(), _, lives_of_turn (.changed loads)⟩
  obtain ⟨past, strand, lives, -, ended⟩ :=
    lives_of_asking (c := held wide 0) (stable_of_reached loaded) rfl
  have unloads : (asking (held wide 0) (loading wide (.start plain ()))).2.removeModule "works" =
      .ok emptied := rfl
  exact ⟨strand, reached_of_lives loaded (lives.turn (.changed (.unloaded unloads))), ended rfl⟩

theorem lives_crowded {s : Service Unit} {strands : List (Strand Unit)}
    (stable : Stable false ⟨s, strands⟩)
    (loads : s.addModule (holding narrow) = .ok (loading narrow s))
    (named : (loading narrow s).registry.resolve "work" = .ok ⟨held narrow 1, [], "work", [], ""⟩)
    (same : SameCommands (loading narrow s) (asking (held narrow 1) (loading narrow s)).2)
    (still : (asking (held narrow 1) (loading narrow s)).2.registry.resolve "work" =
      .ok ⟨held narrow 1, [], "work", [], ""⟩) :
    ∃ past more, Lives plain ⟨s, strands⟩ (past ++ [⟨s, strands⟩]) ⟨crowded s, strands ++ more⟩ ∧
      Steady (loading narrow s) past := by
  have changes : Change s (loading narrow s) :=
    .loaded (List.forall_mem_singleton.2 (.built (d := .declare narrow false []) rfl)) loads
  have loaded : Lives plain ⟨s, strands⟩ [⟨s, strands⟩] ⟨loading narrow s, strands⟩ :=
    lives_of_turn (.changed changes)
  obtain ⟨past, one, lives, steady, -⟩ := lives_of_asking (stable_of_lives stable loaded) named
  have asked := loaded.append lives
  obtain ⟨later, other, again, onward, -⟩ := lives_of_asking (stable_of_lives stable asked) still
  refine ⟨later ++ past, [one, other], ?_, ?_⟩
  · rw [List.append_assoc, List.append_cons strands]
    exact asked.append again
  · exact steady_append steady (steady_from same onward)

theorem root_of_registered {registry : Registry σ} {c : Command σ}
    (leaves : ∀ root ∈ registry.root.ordered, root.childList = []) (known : Registered registry c) :
    c ∈ registry.root.ordered := by
  induction known with
  | root member => exact member
  | child _ member among =>
    rw [leaves _ among] at member
    cases member

/-- The rule of a command that is gone still counts for the next one of its name: two invocations
of a command are in flight that lets one run at a time. -/
theorem rule_of_gone_command_counts :
    ¬ ∀ (w : World Unit) (c : Command Unit) (rule : Concurrency) (key : SlotKey),
      Reached plain w → Registered w.service.registry c → c.parts.concurrency = some rule →
        c.qualified = key.command → w.service.slots.inFlight key ≤ rule.number := by
  intro bounded
  obtain ⟨strand, reached, -⟩ := emptied_reached
  obtain ⟨past, more, lives, -⟩ :=
    lives_crowded (stable_of_reached reached) rfl rfl ⟨rfl, rfl, rfl⟩ rfl
  have known : Registered (crowded emptied).registry (held narrow 1) :=
    .root (List.mem_singleton.2 rfl)
  have most := bounded ⟨crowded emptied, strand :: more⟩ (held narrow 1) ⟨1, .channel, false⟩
    ⟨"work", .channel 9⟩ (reached_of_lives reached lives) known rfl rfl
  have two : (crowded emptied).slots.inFlight ⟨"work", .channel 9⟩ = 2 := rfl
  exact absurd (two ▸ most) (by decide)

/-- Once a clean-up has dropped the idle bucket the next command keeps to its own rule. -/
theorem own_rule_counts_after_cleanup :
    ∃ w now past, Reached plain w ∧ Lives plain w past now ∧
      w.service = (emptied.cleanup 0).2 ∧ now.service = crowded (emptied.cleanup 0).2 ∧
      w.service.slots.buckets.get? ⟨"work", .channel 9⟩ = none ∧
      now.service.slots.inFlight ⟨"work", .channel 9⟩ ≤ 1 := by
  obtain ⟨strand, before, ended⟩ := emptied_reached
  have reached : Reached plain ⟨(emptied.cleanup 0).2, [strand]⟩ :=
    reached_of_lives before (lives_of_turn (.changed (.cleaned 0)))
  obtain ⟨past, more, lives, steady⟩ :=
    lives_crowded (stable_of_reached reached) rfl rfl ⟨rfl, rfl, rfl⟩ rfl
  obtain ⟨-, bounded⟩ := slots_of_first_asker plain _ _ _ reached lives ⟨"work", .channel 9⟩ rfl
  refine ⟨_, _, _, reached, lives, rfl, rfl, rfl, ?_⟩
  refine (bounded (held narrow 1) ⟨1, .channel, false⟩ rfl rfl ?_).1
  rintro e other (⟨first, member, still, -⟩ | ⟨earlier, member, registered⟩) unlike
  · rw [List.mem_singleton.1 member, ended] at still
    cases still
  · rcases List.mem_append.1 member with passed | first
    · have only : earlier.service.registry.root.ordered = [held narrow 1] := by
        rw [(steady earlier passed).root]
        rfl
      have here := root_of_registered (only ▸ List.forall_mem_singleton.2 rfl) registered
      exact absurd (List.mem_singleton.1 (only ▸ here)) unlike
    · cases List.mem_singleton.1 first
      have none : (emptied.cleanup 0).2.registry.root.ordered = [] := rfl
      have here := root_of_registered (none ▸ List.forall_mem_nil _) registered
      rw [none] at here
      cases here

end ChatCommands.OutlivingBuckets
