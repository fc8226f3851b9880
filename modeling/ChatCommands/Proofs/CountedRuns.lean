import ChatCommands.Proofs.CountedSteps
import ChatCommands.Proofs.Lifetimes

/-! Runs without cancellation. Events are dispatched and invocations take turns in any order, and
every call of the dispatcher is counted by hand; nothing is torn down (`Runs`). Commands and modules
come and go in the meantime, which counts nothing (`reading_of_change`). All that a program does
with an event, and with what waits, leads along such runs (`covered_of_runs`). -/
namespace ChatCommands.CountedRuns
open InvocationCourse CountedSteps LegalCourses SlotDeals SlotDiaries Interleavings Lifetimes
open UnbegunEvents ScriptFrame Dispatcher
open RegistryGrowth (register_eq_ok)
open OwnedRoots (without_of_remove)

variable {σ : Type} {d : Dispatcher σ} {s t : Service σ} {w : World σ} {calls : Nat}
  {front back strands : List (Strand σ)} {strand : Strand σ}

/-! ## What is done from outside -/

theorem standings_of_registerMany {r next : Registry σ} {cs given : List (Command σ)}
    (taken : r.registerMany cs = .ok (given, next)) : next.standings = r.standings := by
  unfold Registry.registerMany at taken
  split at taken
  · cases taken
  · dsimp only at taken
    split at taken <;> cases taken
    rfl

theorem standings_of_register {r next : Registry σ} {c given : Command σ}
    (taken : r.register c = .ok (given, next)) : next.standings = r.standings :=
  standings_of_registerMany (register_eq_ok taken)

theorem standings_of_registerGroup {r next : Registry σ} {c given : Command σ}
    (taken : r.registerGroup c = .ok (given, next)) : next.standings = r.standings := by
  unfold Registry.registerGroup at taken
  split_ifs at taken
  exact standings_of_register taken

theorem standings_of_remove {r next : Registry σ} {name : String} {gone : Command σ}
    (removed : r.remove name = some (gone, next)) : next.standings = r.standings := by
  rw [without_of_remove removed]
  rfl

theorem reading_of_register {c given : Command σ} (taken : s.register c = .ok (given, t)) :
    reading t = reading s := by
  unfold Service.register at taken
  split at taken <;> cases taken
  exact reading_congr rfl (standings_of_register ‹_›)

theorem reading_of_registerGroup {c given : Command σ}
    (taken : s.registerGroup c = .ok (given, t)) : reading t = reading s := by
  unfold Service.registerGroup at taken
  split at taken <;> cases taken
  exact reading_congr rfl (standings_of_registerGroup ‹_›)

theorem reading_of_addModule {m : Module σ} (taken : s.addModule m = .ok t) :
    reading t = reading s := by
  unfold Service.addModule at taken
  split_ifs at taken
  split at taken <;> cases taken
  exact reading_congr rfl (standings_of_registerMany ‹_›)

theorem reading_unregisterOwned (owner : String) (s : Service σ) (name : String) :
    reading (s.unregisterOwned owner name) = reading s := by
  unfold Service.unregisterOwned
  split
  · split_ifs
    · split
      · exact reading_congr rfl (standings_of_remove ‹_›)
      · rfl
    · rfl
  · rfl

theorem reading_unregisterAll (owner : String) (names : List String) (s : Service σ) :
    reading (names.foldl (Service.unregisterOwned owner) s) = reading s := by
  induction names generalizing s with
  | nil => rfl
  | cons name rest ih => exact (ih _).trans (reading_unregisterOwned owner s name)

theorem reading_of_removeModule {name : String} (taken : s.removeModule name = .ok t) :
    reading t = reading s := by
  unfold Service.removeModule at taken
  split at taken <;> cases taken
  exact (reading_congr rfl rfl).trans
    ((reading_unregisterAll name _ _).trans (reading_congr rfl rfl))

theorem reading_cleanup (s : Service σ) (retention : Decimal.Duration) :
    reading (s.cleanup retention).2 = reading s := by
  unfold Service.cleanup
  dsimp only
  split <;> exact reading_congr rfl rfl

theorem reading_maintain (s : Service σ) (retention : Decimal.Duration) :
    reading (s.maintain retention) = reading s := by
  unfold Service.maintain
  dsimp only
  split
  · exact (reading_congr rfl rfl).trans (reading_cleanup s retention)
  · exact reading_cleanup s retention

/-- What no part of a dispatcher does: the uses of a command are set by hand, or something happens
besides. -/
inductive Foreign (s : Service σ) : Service σ → Prop where
  | recounted (serial : Nat) (c : Command σ) {change : Standing → Standing} {standing : Standing}
      (differs : (change standing).uses ≠ standing.uses) :
      Foreign s { s with registry := s.registry.adjust serial c change }
  | aside {t : Service σ} (others : Aside s t) : Foreign s t

/-- Nothing is counted when commands and modules come and go, when commands are enabled or checked,
and when limits are asked or cleaned up. -/
theorem reading_of_change (change : Change s t) : reading t = reading s ∨ Foreign s t := by
  cases change with
  | registered _ taken => exact .inl (reading_of_register taken)
  | registeredGroup _ taken => exact .inl (reading_of_registerGroup taken)
  | registeredMany _ taken => exact .inl (reading_congr rfl (standings_of_registerMany taken))
  | removed taken => exact .inl (reading_congr rfl (standings_of_remove taken))
  | loaded _ taken => exact .inl (reading_of_addModule taken)
  | unloaded taken => exact .inl (reading_of_removeModule taken)
  | adjusted serial c change =>
    by_cases keeps : ∀ standing, (change standing).uses = standing.uses
    · exact .inl (reading_adjust s serial c keeps)
    · obtain ⟨standing, differs⟩ := not_forall.1 keeps
      exact .inr (.recounted serial c differs)
  | asked span known ctx => exact .inl (reading_of_acquire rfl)
  | reset | cleared => exact .inl (reading_congr rfl rfl)
  | cleaned retention => exact .inl (reading_cleanup s retention)
  | maintained retention => exact .inl (reading_maintain s retention)
  | aside others => exact .inr (.aside others)

/-! ## Runs -/

/-- The worlds that a dispatcher comes to that was just set up, if nothing is torn down, with the
number of events that were dispatched. Besides anything may happen that counts nothing. -/
inductive Runs (d : Dispatcher σ) : Nat → World σ → Prop where
  | start (app : σ) : Runs d 0 ⟨.start d app, []⟩
  | begins {calls : Nat} {s : Service σ} {strands : List (Strand σ)} {e : Event}
      {lead line : String} {target : Resolved σ} (runs : Runs d calls ⟨s, strands⟩)
      (heard : (d.settings.dispatch.ignoreBots && e.author.bot) = false)
      (addressed : splitLead? d.leads d.settings.dispatch.stripAfterLead e.content =
        some (lead, line))
      (resolved : s.registry.resolve line = .ok target) :
      Runs d (calls + 1) ⟨met s, strands ++ [⟨begunBy d s e lead target, .arrived, []⟩]⟩
  | unheard {calls : Nat} {s : Service σ} {strands : List (Strand σ)} {e : Event}
      (runs : Runs d calls ⟨s, strands⟩) (unheard : Unheard d e) :
      Runs d (calls + 1) ⟨(d.dispatch e s).2, strands⟩
  | unresolved {calls : Nat} {s : Service σ} {strands : List (Strand σ)} {e : Event}
      {lead line : String} {error : CommandError} (runs : Runs d calls ⟨s, strands⟩)
      (unresolved : Unresolved d s e lead line error) :
      Runs d (calls + 1) ⟨(d.dispatch e s).2, strands⟩
  | steps {calls : Nat} {s : Service σ} {front back : List (Strand σ)} {strand : Strand σ}
      {r : List Mark × Moment σ} (runs : Runs d calls ⟨s, front ++ strand :: back⟩)
      (step : Step d ⟨strand.inv, strand.point, s⟩ r) :
      Runs d calls ⟨r.2.service, front ++ strand.after r :: back⟩
  /-- The handler of a line that names no command goes on. -/
  | reported {calls : Nat} {s : Service σ} {strands : List (Strand σ)} {h : Handling σ}
      (runs : Runs d calls ⟨s, strands⟩) (reporting : AtMostReporting h) :
      Runs d calls ⟨(d.resume h s).2, strands⟩
  | changed {calls : Nat} {s t : Service σ} {strands : List (Strand σ)}
      (runs : Runs d calls ⟨s, strands⟩) (change : Change s t) (same : reading t = reading s) :
      Runs d calls ⟨t, strands⟩

theorem reached_of_runs (runs : Runs d calls w) : Reached d w := by
  induction runs with
  | start app => exact ⟨app, [], .start⟩
  | begins _ heard addressed resolved ih =>
    exact reached_of_lives ih (lives_of_turn (.begins heard addressed resolved))
  | @unheard calls s strands e _ unheard ih =>
    have gates := (dispatch_of_unheard unheard s).2
    exact reached_of_lives ih (lives_of_gates gates (ModuleFrame.modules_of_unheard unheard s))
  | @unresolved calls s strands e lead line error _ unresolved ih =>
    rw [dispatch_of_unresolved unresolved]
    have gates := (refuseLine_gates d (openContext d s e lead) error (met s)).2
    have modules := ModuleFrame.refuseLine_modules d (openContext d s e lead) error (met s)
    have same : SameGates s _ := ⟨gates.registry, gates.cooldowns, gates.slots⟩
    exact reached_of_lives ih (lives_of_gates same modules)
  | steps _ step ih => exact reached_of_lives ih (lives_of_turn (.steps step))
  | @reported calls s strands h _ reporting ih =>
    have gates := (resume_gates d reporting s).2
    exact reached_of_lives ih (lives_of_gates gates (ModuleFrame.reporting_modules d reporting s))
  | changed _ change _ ih => exact reached_of_lives ih (lives_of_turn (.changed change))

/-! ## Runs of the program -/

def markOf : Deed → Option Mark
  | .told mark => some mark
  | _ => none

/-- What was told of an invocation. -/
def told (strand : Strand σ) : List Mark := strand.diary.filterMap markOf

theorem told_after (strand : Strand σ) (r : List Mark × Moment σ) :
    told (strand.after r) = told strand ++ r.1 := by
  have silent (before kept : Stake) : (dealt before kept).filterMap markOf = [] := by
    unfold dealt
    split <;> rfl
  have kept : (r.1.map Deed.told).filterMap markOf = r.1 :=
    (List.filterMap_map ..).trans List.filterMap_some
  rw [told, Strand.after, List.filterMap_append, List.filterMap_append, silent, kept]
  rfl

theorem runs_of_goes (front back : List (Strand σ)) {m last : Moment σ} {marks : List Mark}
    (goes : Goes d m marks last) (runs : Runs d calls ⟨m.service, front ++ strand :: back⟩)
    (inv : strand.inv = m.inv) (point : strand.point = m.point) :
    ∃ later, Runs d calls ⟨last.service, front ++ later :: back⟩ ∧ later.inv = last.inv ∧
      later.point = last.point ∧ told later = told strand ++ marks := by
  induction goes generalizing strand with
  | stop => exact ⟨strand, runs, inv, point, (List.append_nil _).symm⟩
  | @step m last r more _ first _ ih =>
    have here : Step d ⟨strand.inv, strand.point, m.service⟩ r := by
      rw [inv, point]
      exact first
    obtain ⟨later, onward, ends, rests, all⟩ := ih (.steps runs here) rfl rfl
    refine ⟨later, onward, ends, rests, ?_⟩
    rw [all, told_after, List.append_assoc]

/-- An invocation is handled up to its next wait. -/
theorem runs_of_handled (runs : Runs d calls ⟨s, front ++ strand :: back⟩)
    (body : strand.inv.command.parts.body.isSome) :
    ∃ later, Runs d calls
        ⟨((Moment.mk strand.inv strand.point s).perform d).2, front ++ later :: back⟩ ∧
      later.point.AtRest ∧
      handling later = ((Moment.mk strand.inv strand.point s).perform d).1 := by
  obtain ⟨marks, last, goes⟩ := exists_goes d ⟨strand.inv, strand.point, s⟩ body
  obtain ⟨later, onward, ends, rests, -⟩ := runs_of_goes front back goes runs rfl rfl
  have still : later.point.AtRest := rests ▸ rests_of_goes goes
  have performs : (Moment.mk strand.inv strand.point s).perform d =
      (handling later, last.service) := by
    rw [perform_of_goes goes, ← perform_of_rests still last.service, ends, rests]
  rw [performs]
  exact ⟨later, onward, still, rfl⟩

/-- An event is dispatched, and begins an invocation at most. -/
def Begins (d : Dispatcher σ) (calls : Nat) (strands : List (Strand σ)) (h : Handling σ)
    (t : Service σ) : Prop :=
  (AtMostReporting h ∧ Runs d (calls + 1) ⟨t, strands⟩) ∨
    ∃ strand, strand.point.AtRest ∧ handling strand = h ∧
      Runs d (calls + 1) ⟨t, strands ++ [strand]⟩

theorem begins_of_unheard (runs : Runs d calls ⟨s, strands⟩) {e : Event} (unheard : Unheard d e) :
    Begins d calls strands (d.dispatch e s).1 (d.dispatch e s).2 :=
  .inl ⟨(dispatch_of_unheard unheard s).1 ▸ .finished, .unheard runs unheard⟩

theorem begins_of_dispatch (runs : Runs d calls ⟨s, strands⟩) (e : Event) :
    Begins d calls strands (d.dispatch e s).1 (d.dispatch e s).2 := by
  cases heard : d.settings.dispatch.ignoreBots && e.author.bot with
  | true => exact begins_of_unheard runs (.ignored heard)
  | false =>
    cases addressed : splitLead? d.leads d.settings.dispatch.stripAfterLead e.content with
    | none => exact begins_of_unheard runs (.unaddressed heard addressed)
    | some split =>
      obtain ⟨lead, line⟩ := split
      cases resolved : s.registry.resolve line with
      | error error =>
        have unresolved : Unresolved d s e lead line error := ⟨heard, addressed, resolved⟩
        refine .inl ⟨?_, .unresolved runs unresolved⟩
        rw [dispatch_of_unresolved unresolved]
        exact (refuseLine_gates d (openContext d s e lead) error (met s)).1
      | ok target =>
        have stable := stable_of_reached (reached_of_runs runs)
        obtain ⟨later, onward, rests, same⟩ :=
          runs_of_handled (runs.begins heard addressed resolved)
            (LongestDescent.body_of_resolve stable.orderly resolved)
        rw [dispatch_of_resolved heard addressed resolved]
        exact .inr ⟨later, rests, same, onward⟩

theorem runs_of_resume (runs : Runs d calls ⟨s, front ++ strand :: back⟩)
    (suspends : strand.point.Suspends) :
    ∃ later, Runs d calls ⟨(d.resume (handling strand) s).2, front ++ later :: back⟩ ∧
      later.point.AtRest ∧ handling later = (d.resume (handling strand) s).1 := by
  have body := (stable_of_reached (reached_of_runs runs)).runs strand
    (List.mem_append_right _ List.mem_cons_self)
  obtain ⟨r, first⟩ := exists_step d ⟨strand.inv, strand.point, s⟩ body
  have still : r.2.inv.command.parts.body.isSome := by
    rw [command_of_step first]
    exact body
  rw [resume_of_suspends suspends first]
  exact runs_of_handled (runs.steps first) still

/-- What a program does that tears nothing down leads along runs, and so does what is done to its
dispatcher. -/
structure Covered (d : Dispatcher σ) (calls : Nat) (w : World σ) : Prop where
  dispatched : ∀ e, Begins d calls w.strands (d.dispatch e w.service).1 (d.dispatch e w.service).2
  resumed : ∀ front strand back, w.strands = front ++ strand :: back → strand.point.Suspends →
    ∃ later, Runs d calls ⟨(d.resume (handling strand) w.service).2, front ++ later :: back⟩ ∧
      later.point.AtRest ∧ handling later = (d.resume (handling strand) w.service).1
  reported : ∀ h, AtMostReporting h → Runs d calls ⟨(d.resume h w.service).2, w.strands⟩
  changed : ∀ t, Change w.service t → Runs d calls ⟨t, w.strands⟩ ∨ Foreign w.service t

theorem covered_of_runs (runs : Runs d calls w) : Covered d calls w where
  dispatched e := begins_of_dispatch runs e
  resumed front strand back split suspends := by
    obtain ⟨s, strands⟩ := w
    cases split
    exact runs_of_resume runs suspends
  reported h reporting := runs.reported reporting
  changed t change := (reading_of_change change).imp_left (runs.changed change)

end ChatCommands.CountedRuns
