import ChatCommands.Console
import ChatCommands.Proofs.CollectedReplies
import ChatCommands.Proofs.LongestDescent
import Mathlib.Data.List.Nodup

/-! The commands of the console. Whatever the settings are, no name of a command is taken when it is
registered, so the console starts with all of them (`equip_ok`), and no line ever changes which they
are. -/
namespace ChatCommands.ConsoleCommands
open Console RegistryGrowth CollectedReplies LongestDescent

variable {σ : Type} {ci : Bool} {s : Service σ} {c : Command σ} {cs : List (Command σ)}

/-! ## Registering one after another -/

theorem bind_of_ok {ε α β : Type} {first : Except ε α} {a : α} (succeeds : first = .ok a)
    (next : α → Except ε β) : first >>= next = next a := by rw [succeeds]; rfl

/-- The siblings that commands are when they are added one after another. -/
def level (cs : List (Command σ)) : Siblings (Command σ) :=
  ⟨cs, cs.flatMap fun c => c.names.map (·, c.name)⟩

/-- The registry whose roots are commands in order of their numbers. -/
def registryOf (ci : Bool) (cs : List (Command σ)) : Registry σ :=
  { caseInsensitive := ci, root := level cs, nextSerial := cs.length }

/-- The command with its number as a root behind others. -/
def numbered (cs : List (Command σ)) (c : Command σ) : Command σ := { c with serial := cs.length }

/-- A command can be registered behind others. -/
def isFree (ci : Bool) (cs : List (Command σ)) (c : Command σ) : Bool :=
  c.caseConflict?.isNone && ((level cs).conflict? (numbered cs c) ci).isNone

theorem registryOf_nil : registryOf ci ([] : List (Command σ)) = .empty ci := rfl

theorem insert_level (free : ((level cs).conflict? c ci).isNone) :
    (level cs).insert c ci = .ok (level (cs ++ [c])) := by
  rw [Siblings.insert, Option.isNone_iff_eq_none.1 free]
  simp [level]

theorem caseConflict?_of_quiet {r : Registry σ} (quiet : c.caseConflict?.isNone) :
    r.caseConflict? [c] = none := by
  simp [Registry.caseConflict?, Option.isNone_iff_eq_none.1 quiet]

theorem register_of_isFree (free : isFree ci cs c) :
    (registryOf ci cs).register c =
      .ok (numbered cs c, registryOf ci (cs ++ [numbered cs c])) := by
  rw [isFree, Bool.and_eq_true] at free
  have inserted : (registryOf ci cs).root.insert { c with serial := cs.length }
      (registryOf ci cs).caseInsensitive = .ok (level (cs ++ [numbered cs c])) :=
    insert_level free.2
  rw [Registry.register, caseConflict?_of_quiet free.1]
  simp only [registryOf] at inserted ⊢
  rw [inserted]
  simp [numbered]

/-- The registration of a root command whose names are free. -/
theorem serviceRegister_of_isFree (root : s.registry = registryOf ci cs) (free : isFree ci cs c) :
    ∃ journal, s.register c = .ok (numbered cs c,
      { s with registry := registryOf ci (cs ++ [numbered cs c]), journal := journal }) := by
  rw [Service.register, root, register_of_isFree free]
  exact ⟨_, rfl⟩

/-- The commands behind others once they are registered one after another. -/
def together (cs : List (Command σ)) : List (Command σ) → List (Command σ)
  | [] => cs
  | c :: more => together (cs ++ [numbered cs c]) more

/-- Commands can be registered one after another behind others. -/
def areFree (ci : Bool) (cs : List (Command σ)) : List (Command σ) → Bool
  | [] => true
  | c :: more => isFree ci cs c && areFree ci (cs ++ [numbered cs c]) more

theorem registerAll_of_areFree {more : List (Command σ)} (root : s.registry = registryOf ci cs)
    (free : areFree ci cs more) :
    ∃ journal, more.foldlM (fun s c => (Service.register s c).map (·.2)) s =
      .ok { s with registry := registryOf ci (together cs more), journal := journal } := by
  induction more generalizing s cs with
  | nil =>
    refine ⟨s.journal, ?_⟩
    rw [together, ← root]
    rfl
  | cons c more ih =>
    rw [areFree, Bool.and_eq_true] at free
    obtain ⟨_, registered⟩ := serviceRegister_of_isFree root free.1
    obtain ⟨journal, onward⟩ := ih (s := { s with
      registry := registryOf ci (cs ++ [numbered cs c]), journal := _ }) rfl free.2
    refine ⟨journal, ?_⟩
    rw [List.foldlM_cons, registered]
    exact onward

theorem orderly_next (orderly : Orderly ci (registryOf ci cs)) (made : Made c)
    (free : isFree ci cs c) : Orderly ci (registryOf ci (cs ++ [numbered cs c])) :=
  registerMany_orderly orderly (fun _ member => List.mem_singleton.1 member ▸ proper_of_made made)
    (register_eq_ok (register_of_isFree free))

theorem orderly_together {more : List (Command σ)} (orderly : Orderly ci (registryOf ci cs))
    (made : ∀ c ∈ more, Made c) (free : areFree ci cs more) :
    Orderly ci (registryOf ci (together cs more)) := by
  induction more generalizing cs with
  | nil => exact orderly
  | cons c more ih =>
    rw [areFree, Bool.and_eq_true] at free
    obtain ⟨first, others⟩ := List.forall_mem_cons.1 made
    exact ih (orderly_next orderly first free.1) others free.2

/-! ## The commands of the console -/

/-- What a declaration says of its own command. -/
def partsOf : Declaration σ → CommandParts σ
  | .declare parts _ _ => parts

/-- The declarations below a declaration. -/
def childrenOf : Declaration σ → List (Declaration σ)
  | .declare _ _ children => children

/-- The root command of a declaration with nothing below it. -/
def single (d : Declaration Tags) (serial : Nat) : Command Tags :=
  { qualified := (partsOf d).name, parts := partsOf d, serial := serial }

/-- Stores a text under a name. -/
def tagSet : Command Tags :=
  { qualified := "tag set", parts := partsOf ((childrenOf tag).head nofun) }

/-- Looks a text up. -/
def tagGet : Command Tags :=
  { qualified := "tag get", parts := partsOf ((childrenOf tag).getLast nofun) }

/-- The group of the two. -/
def tagGroup : Command Tags :=
  { qualified := "tag", parts := partsOf tag, children := some (level [tagSet, tagGet]), serial := 5 }

/-- The command for owners. -/
def ownersStats : Command Tags := { single stats 6 with owner := some "admin" }

/-- The root commands. -/
def roots : List (Command Tags) :=
  [single ping 0, single echo 1, single add 2, single whois 3, single roll 4, tagGroup, ownersStats]

/-- The module for owners. -/
def admin : LoadedModule Tags :=
  ⟨"admin", some "Owner-only tools", some Check.isOwner, none, ["stats"]⟩

/-- The first declarations of the console, each with nothing below it. -/
def singles : List (Declaration Tags) := [ping, echo, add, whois, roll]

theorem build_singles : singles.mapM Declaration.build = .ok (singles.map (single · 0)) := rfl

theorem areFree_singles (ci : Bool) : areFree ci [] (singles.map (single · 0)) = true := by
  cases ci <;> decide +kernel

theorem isFree_tagGroup (ci : Bool) : isFree ci (roots.take 5) tagGroup = true := by
  cases ci <;> decide +kernel

theorem isFree_ownersStats (ci : Bool) : isFree ci (roots.take 6) ownersStats = true := by
  cases ci <;> decide +kernel

/-- The group is registered behind the first commands. -/
theorem registerGroup_tagGroup {s : Service Tags} (root : s.registry = registryOf ci (roots.take 5)) :
    ∃ journal, s.registerGroup { tagGroup with serial := 0 } =
      .ok (tagGroup,
        { s with registry := registryOf ci (roots.take 6), journal := journal }) := by
  have grouped : (registryOf ci (roots.take 5)).registerGroup { tagGroup with serial := 0 } =
      .ok (tagGroup, registryOf ci (roots.take 6)) :=
    register_of_isFree (isFree_tagGroup ci)
  rw [Service.registerGroup, root, grouped]
  exact ⟨_, rfl⟩

/-- The module is loaded behind all other commands. -/
theorem addModule_admin {s : Service Tags} (root : s.registry = registryOf ci (roots.take 6))
    (without : s.modules = []) :
    ∃ journal, s.addModule ⟨"admin", some "Owner-only tools", [single stats 0],
        some Check.isOwner, none⟩ =
      .ok { s with registry := registryOf ci roots, modules := [admin], journal := journal } := by
  have owned : (registryOf ci (roots.take 6)).registerMany
      [{ single stats 0 with owner := some "admin" }] =
        .ok ([ownersStats], registryOf ci roots) :=
    register_eq_ok (register_of_isFree (isFree_ownersStats ci))
  simp only [Service.addModule, Service.module?, without, List.find?_nil, Option.isSome_none,
    Bool.false_eq_true, if_false, Module.ownedCommands, List.map_cons, List.map_nil, root, owned]
  exact ⟨_, rfl⟩

/-- The console has all its commands, whether case is ignored or not. -/
theorem equip_ok {s : Service Tags} (fresh : s.registry = .empty ci) (without : s.modules = []) :
    ∃ journal, equip s = .ok
      { s with registry := registryOf ci roots, modules := [admin], journal := journal } := by
  obtain ⟨early, first⟩ := registerAll_of_areFree (fresh.trans registryOf_nil.symm)
    (areFree_singles ci)
  have fifth : ({ s with registry := registryOf ci (roots.take 5), journal := early } :
      Service Tags).registry = registryOf ci (roots.take 5) := rfl
  obtain ⟨later, second⟩ := registerGroup_tagGroup fifth
  have sixth : ({ s with registry := registryOf ci (roots.take 6), journal := later } :
      Service Tags).registry = registryOf ci (roots.take 6) := rfl
  obtain ⟨journal, third⟩ := addModule_admin sixth without
  refine ⟨journal, ?_⟩
  calc equip s
      = (singles.map (single · 0)).foldlM (fun s c => (Service.register s c).map (·.2)) s >>=
          fun s => s.registerGroup { tagGroup with serial := 0 } >>= fun grouped =>
            grouped.2.addModule ⟨"admin", some "Owner-only tools", [single stats 0],
              some Check.isOwner, none⟩ := rfl
    _ = .ok { s with registry := registryOf ci roots, modules := [admin], journal := journal } :=
      (bind_of_ok first _).trans ((bind_of_ok second _).trans third)

/-! ## Their order -/

theorem orderly_roots (ci : Bool) : Orderly ci (registryOf ci roots) := by
  have madeSingly : ∀ c ∈ singles.map (single · 0), Made c := by
    intro c member
    obtain ⟨_, -, built⟩ := built_of_mapM build_singles c member
    exact .built built
  have singly : Orderly ci (registryOf ci (roots.take 5)) :=
    orderly_together (registryOf_nil ▸ empty_orderly ci) madeSingly (areFree_singles ci)
  have built : tag.build = .ok { tagGroup with serial := 0 } := rfl
  have ownBuilt : stats.build = .ok (single stats 0) := rfl
  have grouped : Orderly ci (registryOf ci (roots.take 6)) :=
    orderly_next singly (.built built) (isFree_tagGroup ci)
  exact orderly_next grouped ((Made.built ownBuilt).marked (some "admin") 0) (isFree_ownersStats ci)

/-! ## What lines come to -/

/-- The commands that do something, each behind its ancestors. -/
def runnable : List (List (Command Tags) × Command Tags) :=
  [([], single ping 0), ([], single echo 1), ([], single add 2), ([], single whois 3),
    ([], single roll 4), ([tagGroup], tagSet), ([tagGroup], tagGet), ([], ownersStats)]

/-- There is nothing around the body of a command, and the body replies once at most. -/
structure Simple (c : Command Tags) : Prop where
  before : c.parts.before = none
  after : c.parts.after = none
  onError : c.parts.onError = none
  enabled : c.parts.enabled = true
  checks : c.parts.checks = []
  slots : ∀ rule ∈ c.parts.concurrency, 0 < rule.number
  replies : ∀ body ∈ c.parts.body, ∀ ctx args, Replies 1 (body ctx args)

/-- Of the root commands only the group has anything below it, and nothing is below that. -/
theorem below_root {root child : Command Tags} (isRoot : root ∈ roots)
    (below : child ∈ root.childList) :
    root = tagGroup ∧ (child = tagSet ∨ child = tagGet) ∧ child.childList = [] := by
  simp only [roots, List.mem_cons, List.not_mem_nil, or_false] at isRoot
  rcases isRoot with rfl | rfl | rfl | rfl | rfl | rfl | rfl
  case inr.inr.inr.inr.inr.inl =>
    have either : child = tagSet ∨ child = tagGet := by
      simpa [tagGroup, Command.childList, level] using below
    exact ⟨rfl, either, by rcases either with rfl | rfl <;> rfl⟩
  all_goals exact absurd below List.not_mem_nil

theorem mem_runnable_of_resolve {r : Registry Tags} (orderly : Orderly ci r)
    (same : r.root.ordered = roots) {line : String} {target : Resolved Tags}
    (resolved : r.resolve line = .ok target) : (target.parents, target.command) ∈ runnable := by
  have body := body_of_resolve orderly resolved
  obtain ⟨⟨start, chain, -, -⟩, -⟩ := (resolve_eq_ok_iff orderly line target).1 resolved
  rw [same] at start
  obtain ⟨c, parents, word, words, rest⟩ := target
  match parents with
  | [] =>
    have root : c ∈ roots := start c rfl
    simp only [roots, List.mem_cons, List.not_mem_nil, or_false] at root
    rcases root with rfl | rfl | rfl | rfl | rfl | rfl | rfl
    case inr.inr.inr.inr.inr.inl => cases body
    all_goals simp [runnable]
  | [group] =>
    obtain ⟨rfl, rfl | rfl, -⟩ := below_root (start group rfl) (List.isChain_pair.1 chain)
    all_goals simp [runnable]
  | group :: second :: more =>
    obtain ⟨below, onward⟩ := List.isChain_cons_cons.1 chain
    obtain ⟨-, -, nothing⟩ := below_root (start group rfl) below
    obtain ⟨next, first⟩ : ∃ next, (more ++ [c]).head? = some next := by
      cases more <;> exact ⟨_, rfl⟩
    have further := (List.isChain_cons.1 onward).1 next first
    rw [nothing] at further
    exact absurd further List.not_mem_nil

/-- A command that does something stands below its ancestors, and nothing stands below it. -/
theorem path_of_runnable {e : List (Command Tags) × Command Tags} (member : e ∈ runnable) :
    (∀ c ∈ (e.1 ++ [e.2]).head?, c ∈ roots) ∧
      (e.1 ++ [e.2]).IsChain (fun g c => c ∈ g.childList) ∧ e.2.isGroup = false := by
  simp only [runnable, List.mem_cons, List.not_mem_nil, or_false] at member
  rcases member with rfl | rfl | rfl | rfl | rfl | rfl | rfl | rfl
  case inr.inr.inr.inr.inr.inl | inr.inr.inr.inr.inr.inr.inl =>
    refine ⟨?_, List.isChain_pair.2 ?_, rfl⟩
    · rintro _ ⟨rfl⟩
      simp [roots]
    · simp [tagGroup, Command.childList, level]
  all_goals
    refine ⟨?_, List.isChain_singleton _, rfl⟩
    rintro _ ⟨rfl⟩
    simp [roots]

/-- The commands that do something are told apart by their qualified names. -/
theorem eq_of_qualified {e other : List (Command Tags) × Command Tags} (one : e ∈ runnable)
    (two : other ∈ runnable) (same : e.2.qualified = other.2.qualified) : e = other := by
  have apart : (runnable.map fun e => e.2.qualified).Nodup := by decide
  exact List.inj_on_of_nodup_map apart one two same

theorem replies_answer (content : String) : Replies 1 (answer content) :=
  .reply fun result => by cases result <;> exact .stop

theorem replies_answerSum (values : List Value) : Replies 1 (answerSum values) := by
  unfold answerSum
  split
  · exact replies_answer _
  · exact .stop

theorem simple_of_runnable {e : List (Command Tags) × Command Tags} (member : e ∈ runnable) :
    Simple e.2 := by
  simp only [runnable, List.mem_cons, List.not_mem_nil, or_false] at member
  rcases member with rfl | rfl | rfl | rfl | rfl | rfl | rfl | rfl
  all_goals refine ⟨rfl, rfl, rfl, rfl, rfl, ?_, ?_⟩
  all_goals rintro _ ⟨rfl⟩
  case inr.inr.inr.inr.inr.inl.refine_1 => exact Nat.one_pos
  all_goals intro ctx args
  · exact replies_answer _
  · exact replies_answer _
  · exact replies_answerSum _
  · dsimp only
    split
    · exact replies_answer _
    · exact replies_answer _
  · exact replies_answer _
  · exact .update (replies_answer _)
  · exact .read fun tags => replies_answer _
  · dsimp only
    split
    · exact .stop
    · exact .usage fun usage => replies_answer _

theorem parents_of_runnable {e : List (Command Tags) × Command Tags} (member : e ∈ runnable) :
    ∀ parent ∈ e.1, parent = tagGroup := by
  simp only [runnable, List.mem_cons, List.not_mem_nil, or_false] at member
  rcases member with rfl | rfl | rfl | rfl | rfl | rfl | rfl | rfl <;> simp

/-- Neither a command that does something nor an ancestor of it is disabled or has checks. -/
theorem open_of_runnable {e : List (Command Tags) × Command Tags} (member : e ∈ runnable) :
    ∀ c ∈ e.1 ++ [e.2], c.parts.enabled = true ∧ c.parts.checks = [] := by
  intro c among
  rcases List.mem_append.1 among with parent | own
  · cases parents_of_runnable member c parent
    exact ⟨rfl, rfl⟩
  · cases List.mem_singleton.1 own
    exact ⟨(simple_of_runnable member).enabled, (simple_of_runnable member).checks⟩

/-! ## The start -/

/-- The dispatcher of the console. -/
def dispatcherOf (settings : Settings) : Dispatcher Tags :=
  let plain : Dispatcher Tags := .ofSettings settings directory.toDirectory
  { plain with hooks := { onError := onError } }

/-- The service that the console starts with. -/
def firstService (settings : Settings) (journal : Array JournalEntry) : Service Tags :=
  { Service.start (dispatcherOf settings) [] with
    registry := registryOf settings.dispatch.caseInsensitive roots
    modules := [admin]
    journal := journal }

/-- The console starts with any settings that do not contradict themselves. -/
theorem agent_ok {settings : Settings} (valid : settings.problems = []) :
    ∃ journal, agent settings = .ok
      (({ Agent.start (dispatcherOf settings) [] with
          service := firstService settings journal } : Agent Tags).spawn
            "upkeep" (.upkeep none)) := by
  have fresh : (Service.start (dispatcherOf settings) []).registry =
      .empty settings.dispatch.caseInsensitive := rfl
  obtain ⟨journal, equipped⟩ := equip_ok fresh rfl
  refine ⟨journal, ?_⟩
  unfold agent
  dsimp only
  split
  · rename_i broken
    rw [valid] at broken
    cases broken
  · rename_i refused
    cases refused.symm.trans equipped
  · rename_i ready
    cases ready.symm.trans equipped
    rfl

end ChatCommands.ConsoleCommands
