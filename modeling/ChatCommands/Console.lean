import ChatCommands.Command.Declaration
import ChatCommands.Config.Loading
import ChatCommands.Directory.Memory
import ChatCommands.Dispatch.Agent

/-!
A small agent for the console: it takes lines as messages of one local user in
one channel. Its commands show what commands can be made of: arguments that take
the rest of the line, lists, members, flags, groups, limits, and a module for
owners.
-/

namespace ChatCommands

namespace Console

/-- The texts that were stored under names. -/
abbrev Tags := Table String String

/-- The local user's number. -/
def operatorId : Id := 175928847299117063

/-- The local scope's number. -/
def scopeId : Id := 81384788765712384

/-- The local channel. -/
def channel : Channel := { id := 81384788765712385, name := "console", scopeId := some scopeId }

/-- Who and what can be named in the local scope. -/
def directory : MemoryDirectory :=
  let operator : Member :=
    { user := { id := operatorId, name := "operator" }, scopeId := scopeId, nick := some "op" }
  let alice : Member := { user := { id := 80351110224678912, name := "alice" }, scopeId := scopeId }
  let bob : Member := { user := { id := 80088516616269824, name := "bob" }, scopeId := scopeId }
  let mods : Role := { id := 175643578071121920, name := "Mods", scopeId := scopeId }
  let members := [operator, alice, bob].foldl MemoryDirectory.addMember {}
  (members.addChannel channel).addRole mods

/-- The event of a line. -/
def event (line : String) : Event where
  author := { id := operatorId, name := "operator" }
  origin := { kind := .shared, scopeId := some scopeId, channel := channel }
  content := line
  responder := .capture

/-- Replies, and that is all. -/
def answer (content : String) : Script Tags := .replyThen content .done

/-- A command with nothing below it. -/
def leaf (parts : CommandParts Tags) : Declaration Tags := .declare parts false []

/-- The text of an argument, empty if there is none. -/
def textOf (args : Args) (name : String) : String := ((args.get? name).bind Value.str?).getD ""

/-- Tells that the agent is there. -/
def ping : Declaration Tags := leaf {
  name := "ping"
  description := some "Check that the dispatcher is alive"
  body := some fun _ _ => answer "pong" }

/-- Gives a text back. -/
def echo : Declaration Tags := leaf {
  name := "echo"
  aliases := ["say"]
  params := [{ name := "text", shape := .of .str, takesRest := true }]
  body := some fun _ args => answer (textOf args "text") }

/-- The sum of integers, if no partial sum from the left leaves the 64 bits of an integer. -/
def sum? (values : List Value) : Option Int :=
  (values.filterMap Value.int?).foldlM
    (fun total i => if Decimal.inInt64 (total + i) then some (total + i) else none) 0

/-- Replies with the sum of integers, and panics if there is none. -/
def answerSum (values : List Value) : Script Tags :=
  match sum? values with
  | some total => answer (toString total)
  | none => .stop (.panicked (some "attempt to add with overflow"))

/-- Adds integers up. -/
def add : Declaration Tags := leaf {
  name := "add"
  description := some "Sum some integers"
  params := [{ name := "numbers", shape := .greedy (.of .int) }]
  body := some fun _ args => answerSum (((args.get? "numbers").bind Value.list?).getD []) }

/-- A name with a number. -/
def identified (name : String) (id : Id) : String := name ++ " (" ++ toString id ++ ")"

/-- Tells who a member is, or who asks. -/
def whois : Declaration Tags := leaf {
  name := "whois"
  params := [{ name := "who", shape := .optional (.of .member) }]
  body := some fun ctx args =>
    match (args.get? "who").bind Value.member? with
    | some member => answer (identified member.displayName member.id)
    | none => answer (identified ctx.author.name ctx.author.id) }

/-- A face of a die with so many sides, from five bits of a number and those above them. -/
def face (number sides : Int) (position : Nat) : Int :=
  (BitVec.ofInt 64 (number >>> (5 * position))).toInt % sides + 1

/-- Rolls dice. -/
def roll : Declaration Tags :=
  let sides : Flag Shape := { name := "sides", shape := .of .int, default := .value (.int 6) }
  let count : Flag Shape := { name := "count", shape := .of .int, default := .value (.int 1) }
  leaf {
    name := "roll"
    params := [{ name := "dice", shape := .flags { flags := [sides, count] } }]
    cooldowns := [.ofRate 3 (10 * Decimal.Duration.second) .user]
    body := some fun ctx args =>
      let given := ((args.get? "dice").bind Value.flags?).getD []
      let number (name : String) (otherwise : Int) : Int :=
        ((given.lookup name).bind Value.int?).getD otherwise
      let sides := max (number "sides" 6) 1
      let count := min (max (number "count" 1) 1) 20
      let faces := (List.range count.toNat).map fun i => toString (face ctx.serial sides i)
      answer (" ".intercalate faces) }

/-- Stores texts under names. -/
def tag : Declaration Tags :=
  let store := leaf {
    name := "set"
    params := [{ name := "name", shape := .of .str },
      { name := "content", shape := .of .str, takesRest := true }]
    concurrency := some (.ofNumber 1 .everyone true)
    body := some fun _ args =>
      .update (fun tags => Table.set tags (textOf args "name") (textOf args "content"))
        (answer ("tag " ++ textOf args "name" ++ " saved")) }
  let look := leaf {
    name := "get"
    params := [{ name := "name", shape := .of .str }]
    body := some fun _ args =>
      .read fun tags =>
        answer ((Table.get? tags (textOf args "name")).getD
          ("no tag named " ++ textOf args "name")) }
  .declare { name := "tag", description := some "Store and recall text snippets" } true
    [store, look]

/-- Tells how often it was used. -/
def stats : Declaration Tags := leaf {
  name := "stats"
  body := some fun ctx _ =>
    match ctx.command with
    | none => .done
    | some name =>
      .usage fun usage => answer (name ++ " invoked " ++ toString usage.own ++ " time(s)") }

/-- Replies to errors that the user can do something about, and notes the others. -/
def onError : ErrorHandler Tags := fun ctx error =>
  if error.isUserInput || error.isCheckFailure || error.retryAfter?.isSome then
    answer ("error: " ++ error.chainText)
  else .note (errorNote ctx error) .done

/-- Why the agent does not start. -/
inductive StartError where
  /-- The configuration file cannot be loaded. -/
  | config (error : LoadError)
  /-- The settings contradict themselves. -/
  | settings (problems : List SettingsError)
  /-- A command or a module is not taken. -/
  | registration (error : RegistrationError)
  deriving DecidableEq

/-- The service with all commands. -/
def equip (s : Service Tags) : Except RegistrationError (Service Tags) := do
  let commands ← [ping, echo, add, whois, roll].mapM Declaration.build
  let s ← commands.foldlM (fun s c => (Service.register s c).map (·.2)) s
  let (_, s) ← s.registerGroup (← tag.build)
  s.addModule {
    name := "admin"
    description := some "Owner-only tools"
    commands := [← stats.build]
    check := some Check.isOwner }

/-- The agent with settings. -/
def agent (settings : Settings) : Except StartError (Agent Tags) :=
  let plain : Dispatcher Tags := .ofSettings settings directory.toDirectory
  let dispatcher := { plain with hooks := { onError := onError } }
  let idle := Agent.start dispatcher []
  match settings.problems, equip idle.service with
  | p :: ps, _ => .error (.settings (p :: ps))
  | [], .error e => .error (.registration e)
  | [], .ok service => .ok ({ idle with service := service }.spawn "upkeep" (.upkeep none))

/-- The agent of a configuration file, or with the standard settings if there is none. -/
def start (config : Option ByteArray) : Except StartError (Agent Tags) :=
  match config with
  | none => agent {}
  | some bytes =>
    match Settings.ofFile (some bytes) with
    | .ok settings => agent settings
    | .error e => .error (.config e)

/-- The replies to a line. -/
def respond (a : Agent Tags) (line : String) : List String × Agent Tags :=
  let (replies, a) := (a.send (event line)).fetchReplies
  (replies.map (·.content), { a with service := { a.service with journal := #[] } })

/-- The replies to several lines. -/
def converse : Agent Tags → List String → List String
  | _, [] => []
  | a, line :: rest =>
    let (replies, a) := respond a line
    replies ++ converse a rest

/-- The lines of a text: each up to its line feed, without a carriage return before that. -/
def lines (text : String) : List String :=
  let pieces := text.splitOn "\n"
  let ended := pieces.dropLast.map fun line =>
    if line.endsWith "\r" then (line.dropEnd 1).toString else line
  ended ++ pieces.getLast?.toList.filter (· != "")

end Console

end ChatCommands
