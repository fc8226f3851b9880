import ChatCommands.Command.Module
import ChatCommands.Config.Settings
import ChatCommands.Convert.Shape
import ChatCommands.Dispatch.Gate
import ChatCommands.Record.Metrics
import ChatCommands.Reply.Post

/-!
What dispatching works with. A dispatcher holds what is fixed once it is set up;
a service holds everything that changes: the commands and modules, the state of
the limits, the counters, the journal, replies, and the application's own state.
Who is to be woken is left in the service as signals, in order.
-/

namespace ChatCommands

/-- What is fixed once a dispatcher is set up. -/
structure Dispatcher (σ : Type) where
  /-- Its settings. -/
  settings : Settings := {}
  /-- Its converters. -/
  converters : Converters := Converters.builtin
  /-- Its hooks. -/
  hooks : Hooks σ := {}
  /-- What must hold for any command to run. -/
  checks : List Check := []
  /-- Answers questions about users, members, channels and roles. -/
  directory : Directory

namespace Dispatcher

variable {σ : Type}

/-- The dispatcher with settings, whose converters write flags the way the settings say. -/
def ofSettings (settings : Settings) (directory : Directory) : Dispatcher σ where
  settings := settings
  converters := { Converters.builtin with flagStyle := settings.flags }
  directory := directory

/-- The texts that address the agent, longest first. -/
def leads (d : Dispatcher σ) : List String :=
  d.settings.dispatch.leads.mergeSort fun a b => b.utf8ByteSize ≤ a.utf8ByteSize

/-- The marks and the escape that arguments are written with. -/
def quotes (d : Dispatcher σ) : QuoteSet := d.settings.tokenizer.quoteSet

end Dispatcher

/-- After hooks that are still to be run for an invocation that was torn down. -/
structure Aftermath (σ : Type) where
  /-- The invocation. -/
  ctx : Context
  /-- The command's own hook. -/
  hook : Option (Hook σ)
  /-- The identity of the command. -/
  id : CommandId

/-- What an invocation leaves for others to act on. -/
inductive Signal (σ : Type) where
  /-- A slot went to a place in line. -/
  | slot (ticket : Nat)
  /-- A permit of the gate went to a ticket. -/
  | permit (ticket : Nat)
  /-- The tray went to a ticket. -/
  | tray (ticket : Nat)
  /-- After hooks are to be run. -/
  | aftermath (work : Aftermath σ)

/-- What changes while events are dispatched. -/
structure Service (σ : Type) where
  /-- The application's state. -/
  app : σ
  /-- The commands. -/
  registry : Registry σ
  /-- The modules, in order of loading. -/
  modules : List (LoadedModule σ) := []
  /-- The cooldowns. -/
  cooldowns : Cooldowns := {}
  /-- The slots. -/
  slots : Slots := {}
  /-- The counters. -/
  metrics : Metrics := {}
  /-- The journal, oldest entry first. -/
  journal : Array JournalEntry := #[]
  /-- The replies. -/
  post : Post := {}
  /-- The tray where replies are collected, by one at a time: a gate whose permit comes back. -/
  tray : Gate := { permits := 1 }
  /-- The gate scripts wait at. -/
  gate : Gate := {}
  /-- The clock. -/
  now : Instant := 0
  /-- The turn of the task that is under way. -/
  turn : Turn := {}
  /-- What others are to act on, oldest first. -/
  signals : List (Signal σ) := []
  /-- How many invocations there were. -/
  invocations : Nat := 0

namespace Service

variable {σ : Type}

/-- The service of a dispatcher before anything is registered. -/
def start (d : Dispatcher σ) (app : σ) : Service σ where
  app := app
  registry := .empty d.settings.dispatch.caseInsensitive

/-- Writes to the journal. -/
def note (s : Service σ) (span : Option Span) (n : Note) : Service σ :=
  { s with journal := s.journal.push ⟨n, span⟩ }

/-- Leaves something for others to act on. -/
def signal (s : Service σ) (x : Signal σ) : Service σ := { s with signals := s.signals ++ [x] }

/-- Slots after a change that may have handed a slot to a place in line. -/
def handOver (s : Service σ) (change : Slots × Option Nat) : Service σ :=
  let s := { s with slots := change.1 }
  match change.2 with
  | some ticket => s.signal (.slot ticket)
  | none => s

/-- The gate after a change that may have handed permits to tickets. -/
def passGate (s : Service σ) (change : List Nat × Gate) : Service σ :=
  { s with gate := change.2, signals := s.signals ++ change.1.map .permit }

/-- Counts an operation that did not make the task wait against its turn. -/
def spend (s : Service σ) : Service σ := { s with turn := s.turn.spend }

/-- Lets the task that is under way give way. -/
def giveWay (s : Service σ) : Service σ := { s with turn := s.turn.giveWay }

/-- The tray after a change that may have handed it to tickets. -/
def passTray (s : Service σ) (change : List Nat × Gate) : Service σ :=
  { s with tray := change.2, signals := s.signals ++ change.1.map .tray }

/-- Collects a reply, and leaves the tray. -/
def file (s : Service σ) (reply : Reply) : Service σ :=
  { s with post := s.post.capture reply }.passTray (s.tray.add 1)

/-- Fetches the replies that were collected, and leaves the tray. -/
def fetch (s : Service σ) : Service σ := { s with post := s.post.fetch }.passTray (s.tray.add 1)

/-- The module with a name, if it is loaded. -/
def module? (s : Service σ) (name : String) : Option (LoadedModule σ) :=
  s.modules.find? (·.name == name)

/-- The module that a root command belongs to, if it is loaded. -/
def moduleOf? (s : Service σ) (root : Command σ) : Option (LoadedModule σ) :=
  root.owner.bind s.module?

/-- Registers a root command. -/
def register (s : Service σ) (c : Command σ) : Except RegistrationError (Command σ × Service σ) :=
  match s.registry.register c with
  | .error e => .error e
  | .ok (c, registry) =>
    .ok (c, { s with registry := registry }.note none
      ⟨.debug, .dispatcher, "Command registered", [("command", c.qualified)]⟩)

/-- Registers a root command that must be a group. -/
def registerGroup (s : Service σ) (c : Command σ) :
    Except RegistrationError (Command σ × Service σ) :=
  match s.registry.registerGroup c with
  | .error e => .error e
  | .ok (c, registry) =>
    .ok (c, { s with registry := registry }.note none
      ⟨.debug, .dispatcher, "Group registered",
        [("command", c.qualified), ("children", toString c.childList.length)]⟩)

/-- Loads a module with all its commands, or nothing. -/
def addModule (s : Service σ) (m : Module σ) : Except RegistrationError (Service σ) :=
  if (s.module? m.name).isSome then .error (.moduleAlreadyLoaded m.name)
  else
    match s.registry.registerMany m.ownedCommands with
    | .error e => .error e
    | .ok (_, registry) =>
      .ok ({ s with registry := registry, modules := s.modules ++ [m.loaded] }.note none
        ⟨.info, .dispatcher, "Module loaded",
          [("module", m.name), ("commands", toString m.commands.length)]⟩)

/-- Unregisters a root command if it belongs to a module, and forgets its cooldowns. -/
def unregisterOwned (owner : String) (s : Service σ) (name : String) : Service σ :=
  match s.registry.get? name with
  | some c =>
    if c.owner == some owner then
      match s.registry.remove name with
      | some (removed, registry) =>
        { s with
          registry := registry
          cooldowns := s.cooldowns.clearCommand removed.qualified }
      | none => s
    else s
  | none => s

/-- Unloads a module with those of its commands that are still its own. -/
def removeModule (s : Service σ) (name : String) : Except RegistrationError (Service σ) :=
  match s.module? name with
  | none => .error (.moduleNotLoaded name)
  | some loaded =>
    let s := { s with modules := s.modules.filter (·.name != name) }
    let s := loaded.commands.foldl (unregisterOwned name) s
    .ok (s.note none ⟨.info, .dispatcher, "Module unloaded", [("module", name)]⟩)

/-- The names of the loaded modules in ascending order. -/
def moduleNames (s : Service σ) : List String :=
  (s.modules.map (·.name)).mergeSort fun a b => a ≤ b

/-- The note about a denial by a rule of a command. -/
def denialNote (command : String) (denial : Denial) : Note :=
  ⟨.debug, .cooldown, "cooldown exceeded",
    [("command", command), ("bucket", denial.rule.bucket.name),
      ("retry_after", Decimal.Duration.exact denial.wait)]⟩

/-- Counts an invocation against the cooldowns of a command, and tells the denial with the longest
wait. -/
def acquire (s : Service σ) (span : Option Span) (c : Command σ) (ctx : Context) :
    Option Denial × Service σ :=
  let (cooldowns, denials) := s.cooldowns.acquire c.qualified c.parts.cooldowns ctx s.now
  let s := { s with cooldowns := cooldowns }
  (Cooldowns.longest? denials,
    denials.foldl (fun s denial => s.note span (denialNote c.qualified denial)) s)

/-- Forgets the cooldown windows that an invocation of a command falls into. -/
def resetCooldown (s : Service σ) (c : Command σ) (ctx : Context) : Service σ :=
  { s with cooldowns := s.cooldowns.reset c.qualified c.parts.cooldowns ctx }

/-- Drops cooldown windows unused for a time and idle buckets of slots, and tells how many. -/
def cleanup (s : Service σ) (retention : Decimal.Duration) : (Nat × Nat) × Service σ :=
  let (cooldowns, windows) := s.cooldowns.cleanup retention s.now
  let (slots, buckets) := s.slots.cleanup
  let s := { s with cooldowns := cooldowns, slots := slots }
  ((windows, buckets),
    if windows > 0 then
      s.note none ⟨.debug, .cooldown, "evicted idle cooldown windows",
        [("evicted", toString windows)]⟩
    else s)

/-- A regular clean-up. -/
def maintain (s : Service σ) (retention : Decimal.Duration) : Service σ :=
  let ((windows, buckets), s) := s.cleanup retention
  if windows + buckets > 0 then
    s.note none ⟨.debug, .dispatcher, "Evicted idle limiter state",
      [("windows", toString windows), ("buckets", toString buckets)]⟩
  else s

end Service

end ChatCommands
