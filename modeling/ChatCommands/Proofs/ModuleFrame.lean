import ChatCommands.Proofs.CourseEffects
import ChatCommands.Proofs.UnbegunEvents

/-! What events do to the modules and to the cooldowns. No teardown and no event that begins no
invocation loads or unloads a module, as no step does, and the cooldowns change only where an
invocation is counted, once it has left the hook for commands (`cooldowns_of_step`). -/
namespace ChatCommands.ModuleFrame
open InvocationCourse CourseEffects SlotDeals ScriptFrame UnbegunEvents Dispatcher

variable {σ : Type} {d : Dispatcher σ} {inv : Invocation σ} {m : Moment σ}
  {r : List Mark × Moment σ} {s t : Service σ}

/-! ## Modules -/

theorem cancel_modules (h : Handling σ) (s : Service σ) : (h.cancel s).modules = s.modules := by
  cases h with
  | finished | checking inv => rfl
  | binding inv => exact releaseSlot_modules
  | staged inv stage pause => exact (abandon_modules stage).trans (drop_spares pause s).modules
  | queued inv place =>
    obtain ⟨_, shape⟩ := handOver_eq s (s.slots.abandon place)
    have same := congrArg Service.modules shape
    exact same
  | unresolved ctx error pause => exact (drop_spares pause s).modules

/-! ## Events that begin no invocation -/

theorem goOnUnresolved_modules (ctx : Context) (error : CommandError) (p : Progress σ × Service σ) :
    (goOnUnresolved ctx error p).2.modules = p.2.modules := by
  obtain ⟨progress, t⟩ := p
  cases progress with
  | paused pause => rfl
  | ended outcome => cases outcome <;> rfl

theorem modules_of_unheard {e : Event} (unheard : Unheard d e) (s : Service σ) :
    (d.dispatch e s).2.modules = s.modules := by
  cases unheard with
  | ignored bot =>
    simp only [dispatch, bot, if_true]
    rfl
  | unaddressed heard nobody =>
    simp only [dispatch, heard, nobody, Bool.false_eq_true, if_false]

theorem refuseLine_modules (d : Dispatcher σ) (ctx : Context) (error : CommandError)
    (s : Service σ) : (d.refuseLine ctx error s).2.modules = s.modules := by
  rw [refuseLine_eq]
  split
  · exact (goOnUnresolved_modules ctx error _).trans (run_spares _ _ _).modules
  · rfl

theorem reporting_modules (d : Dispatcher σ) {h : Handling σ} (reporting : AtMostReporting h)
    (s : Service σ) : (d.resume h s).2.modules = s.modules := by
  cases reporting with
  | finished => rfl
  | unresolved => exact (goOnUnresolved_modules _ _ _).trans (resume_spares _ _ _).modules

/-! ## Cooldowns -/

/-- The cooldowns once an invocation is counted. -/
def counted (inv : Invocation σ) (s : Service σ) : Cooldowns :=
  (s.cooldowns.acquire inv.name inv.command.parts.cooldowns inv.ctx s.now).1

theorem cooldowns_of_acquire {span : Option Span} {c : Command σ} {ctx : Context}
    {denial : Option Denial} (counts : s.acquire span c ctx = (denial, t)) :
    t.cooldowns = (s.cooldowns.acquire c.qualified c.parts.cooldowns ctx s.now).1 := by
  unfold Service.acquire at counts
  have notes := notes_spares span
    ((s.cooldowns.acquire c.qualified c.parts.cooldowns ctx s.now).2.map
      (Service.denialNote c.qualified))
    { s with cooldowns := (s.cooldowns.acquire c.qualified c.parts.cooldowns ctx s.now).1 }
  rw [List.foldl_map] at notes
  cases counts
  exact notes.cooldowns

/-- A step leaves the cooldowns as they are, or counts an invocation that has left the hook for
commands. -/
theorem cooldowns_of_step (step : Step d m r) :
    r.2.service.cooldowns = m.service.cooldowns ∨
      (∃ outcome, m.point = .left .onCommand outcome) ∧
        r.2.service.cooldowns = counted m.inv m.service := by
  have silent {held : Invocation σ} {stage : Stage} {p : Progress σ × Service σ}
      {refusal : Option CommandError} : (staged held stage p).1 ≠ [.cooled refusal] := fun told =>
    (untold_staged held stage p).2 refusal (told ▸ List.mem_singleton.2 rfl)
  cases touches_of_step step with
  | neither _ _ _ same | bound _ _ same => exact .inl same
  | cooled refusal told =>
    right
    cases step with
    | cooled _ counts | denied _ counts =>
      have result := cooldowns_of_acquire counts
      exact ⟨⟨_, rfl⟩, result⟩
    | beforeCommand | beforeGlobal | body | afterCommand | afterGlobal | completion
    | commandHandler | moduleHandler | globalHandler | woken => exact absurd told silent
    | _ => cases told

theorem cancel_cooldowns (h : Handling σ) (s : Service σ) :
    (h.cancel s).cooldowns = s.cooldowns := by
  cases h with
  | finished | checking inv => rfl
  | binding inv => exact releaseSlot_commands.2
  | staged inv stage pause => exact (abandon_commands stage).2.trans (drop_spares pause s).cooldowns
  | queued inv place =>
    obtain ⟨_, shape⟩ := handOver_eq s (s.slots.abandon place)
    have same := congrArg Service.cooldowns shape
    exact same
  | unresolved ctx error pause => exact (drop_spares pause s).cooldowns

end ChatCommands.ModuleFrame
