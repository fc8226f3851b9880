import ChatCommands.Script.Running
import Mathlib.Data.List.Infix

/-! What scripts leave alone. Bodies, hooks and error handlers change the application's state, reply
and write to the journal. Whatever they do, up to the next wait and again after it, commands,
modules, limits and counters stay as they are and nothing is struck from the journal. -/
namespace ChatCommands.ScriptFrame

variable {σ : Type} {s t u : Service σ}

/-- The commands and the limits of one service are those of another. -/
structure SameGates (s t : Service σ) : Prop where
  registry : t.registry = s.registry
  cooldowns : t.cooldowns = s.cooldowns
  slots : t.slots = s.slots

structure Spares (s t : Service σ) : Prop where
  registry : t.registry = s.registry
  modules : t.modules = s.modules
  cooldowns : t.cooldowns = s.cooldowns
  slots : t.slots = s.slots
  metrics : t.metrics = s.metrics
  journal : s.journal.toList <+: t.journal.toList

theorem Spares.gates (spares : Spares s t) : SameGates s t :=
  ⟨spares.registry, spares.cooldowns, spares.slots⟩

theorem Spares.refl (s : Service σ) : Spares s s := ⟨rfl, rfl, rfl, rfl, rfl, List.prefix_rfl⟩

theorem Spares.trans (first : Spares s t) (second : Spares t u) : Spares s u where
  registry := second.registry.trans first.registry
  modules := second.modules.trans first.modules
  cooldowns := second.cooldowns.trans first.cooldowns
  slots := second.slots.trans first.slots
  metrics := second.metrics.trans first.metrics
  journal := first.journal.trans second.journal

/-- Only what scripts may change besides the journal is changed. -/
theorem Spares.of_same (registry : t.registry = s.registry) (modules : t.modules = s.modules)
    (cooldowns : t.cooldowns = s.cooldowns) (slots : t.slots = s.slots)
    (metrics : t.metrics = s.metrics) (journal : t.journal = s.journal) : Spares s t :=
  ⟨registry, modules, cooldowns, slots, metrics, journal ▸ List.prefix_rfl⟩

theorem note_spares (s : Service σ) (span : Option Span) (n : Note) :
    Spares s (s.note span n) := by
  refine ⟨rfl, rfl, rfl, rfl, rfl, ?_⟩
  rw [Service.note, Array.toList_push]
  exact List.prefix_append _ _

theorem notes_spares (span : Option Span) (notes : List Note) (s : Service σ) :
    Spares s (notes.foldl (fun s n => s.note span n) s) := by
  induction notes generalizing s with
  | nil => exact .refl s
  | cons n rest ih => exact (note_spares s span n).trans (ih _)

/-- Counting against the cooldowns changes nothing but the cooldowns. -/
theorem spares_of_acquire {span : Option Span} {c : Command σ} {ctx : Context}
    {denial : Option Denial} (counts : s.acquire span c ctx = (denial, t)) :
    Spares { s with cooldowns := t.cooldowns } t := by
  unfold Service.acquire at counts
  have notes := notes_spares span
    ((s.cooldowns.acquire c.qualified c.parts.cooldowns ctx s.now).2.map
      (Service.denialNote c.qualified))
    { s with cooldowns := (s.cooldowns.acquire c.qualified c.parts.cooldowns ctx s.now).1 }
  rw [List.foldl_map] at notes
  cases counts
  exact { notes with cooldowns := rfl }

theorem submit_spares (s : Service σ) (responder : Responder) (reply : Reply) :
    Spares s (s.submit responder reply).2 := by
  cases responder with
  | discard => exact .refl s
  | capture =>
    simp only [Service.submit]
    obtain ⟨_ | ticket, turn, tray⟩ := s.tray.enter s.turn <;> exact .of_same rfl rfl rfl rfl rfl rfl
  | mailbox index =>
    simp only [Service.submit]
    split
    · exact .of_same rfl rfl rfl rfl rfl rfl
    · obtain ⟨_ | _ | _, post⟩ := s.post.deliver (.mailbox index) reply <;>
        exact .of_same rfl rfl rfl rfl rfl rfl

theorem run_spares (runner : Runner) (script : Script σ) (s : Service σ) :
    Spares s (script.run runner s).2 := by
  induction script generalizing s with
  | stop => exact .refl s
  | update change next ih =>
    refine .trans ?_ (ih _)
    exact .of_same rfl rfl rfl rfl rfl rfl
  | read next ih => exact ih _ s
  | usage next ih => exact ih _ s
  | note n next ih => exact (note_spares s runner.span n).trans (ih _)
  | reply content next ih =>
    have hands := submit_spares s runner.ctx.responder ⟨runner.ctx.origin.channel.id, content⟩
    simp only [Script.run]
    split
    · rename_i result after submitted
      rw [submitted] at hands
      exact hands.trans (ih result after)
    · rename_i wait after submitted
      rw [submitted] at hands
      exact hands
  | sleep span next ih =>
    simp only [Script.run]
    split_ifs
    · exact .of_same rfl rfl rfl rfl rfl rfl
    · refine .trans ?_ (ih _)
      exact .of_same rfl rfl rfl rfl rfl rfl
    · exact .refl s
  | permit next ih =>
    simp only [Script.run]
    obtain ⟨_ | ticket, turn, gate⟩ := s.gate.enter s.turn
    · refine .trans ?_ (ih _)
      exact .of_same rfl rfl rfl rfl rfl rfl
    · exact .of_same rfl rfl rfl rfl rfl rfl

theorem resume_spares (runner : Runner) (pause : Pause σ) (s : Service σ) :
    Spares s (pause.resume runner s).2 := by
  cases pause with
  | sleeping due next =>
    simp only [Pause.resume]
    split_ifs
    · refine .trans ?_ (run_spares runner next _)
      exact .of_same rfl rfl rfl rfl rfl rfl
    · exact .refl s
  | replying wait reply next =>
    cases wait with
    | tray ticket =>
      simp only [Pause.resume]
      cases s.tray.receive ticket with
      | none => exact .refl s
      | some tray =>
        refine .trans ?_ (run_spares runner _ _)
        exact .of_same rfl rfl rfl rfl rfl rfl
    | room due =>
      simp only [Pause.resume]
      split_ifs
      · have spent : Spares s s.spend := .of_same rfl rfl rfl rfl rfl rfl
        have noted := note_spares s.spend runner.span lostReplyNote
        exact spent.trans (noted.trans (run_spares runner _ _))
      · exact .refl s
    | turn =>
      have hands := submit_spares s runner.ctx.responder reply
      simp only [Pause.resume]
      rcases submitted : s.submit runner.ctx.responder reply with ⟨wait | result, after⟩
      · rw [submitted] at hands
        exact hands
      · rw [submitted] at hands
        exact hands.trans (run_spares runner _ after)
  | atGate ticket next =>
    simp only [Pause.resume]
    cases s.gate.receive ticket with
    | none => exact .refl s
    | some gate =>
      refine .trans ?_ (run_spares runner next _)
      exact .of_same rfl rfl rfl rfl rfl rfl

theorem drop_spares (pause : Pause σ) (s : Service σ) : Spares s (pause.drop s) := by
  unfold Pause.drop
  split
  · exact .of_same rfl rfl rfl rfl rfl rfl
  · exact .of_same rfl rfl rfl rfl rfl rfl
  · exact .refl s

end ChatCommands.ScriptFrame
