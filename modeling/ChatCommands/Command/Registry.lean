import ChatCommands.Command.Siblings
import ChatCommands.Limit.Table
import ChatCommands.Text.Words

/-!
The registry: the root commands, and what changes about commands after they are
registered. A line is resolved by descending from the roots word by word as long
as a word names a child (`resolve`). What changes is kept by the identity of
the command, so an invocation under way keeps its command after the command's
removal.
-/

namespace ChatCommands

/-- Tells a registered command from all others, removed ones included. -/
structure CommandId where
  /-- The registration of its root. -/
  serial : Nat
  /-- Its qualified name. -/
  qualified : String
  deriving DecidableEq

/-- What changes about a command after registration. -/
structure Standing where
  /-- Whether it can be used. -/
  enabled : Bool
  /-- How often its arguments were bound. -/
  uses : Nat := 0
  /-- Checks added to the declared ones. -/
  extraChecks : List Check := []

/-- Adds a check behind those added before. -/
def Standing.withCheck (s : Standing) (check : Check) : Standing :=
  { s with extraChecks := s.extraChecks ++ [check] }

/-- The root commands and the standing of all commands. -/
structure Registry (σ : Type) where
  /-- Whether case is ignored in names. -/
  caseInsensitive : Bool
  /-- The root commands. -/
  root : Siblings (Command σ) := {}
  /-- What has changed about commands. -/
  standings : Table CommandId Standing := []
  /-- The number of the next registration. -/
  nextSerial : Nat := 0

/-- What a line was resolved to. -/
structure Resolved (σ : Type) where
  /-- The command. -/
  command : Command σ
  /-- Its ancestors, outermost first. -/
  parents : List (Command σ)
  /-- The word that named it. -/
  invokedWith : String
  /-- The words that named its ancestors. -/
  invokedParents : List String
  /-- The text after those words, without blanks in front. -/
  remaining : String

namespace Resolved

variable {σ : Type}

/-- The root above the command, or the command itself. -/
def root (r : Resolved σ) : Command σ := r.parents.headD r.command

/-- The identity of the command. -/
def id (r : Resolved σ) : CommandId := ⟨r.root.serial, r.command.qualified⟩

end Resolved

namespace Registry

variable {σ : Type}

/-- The registry without commands. -/
def empty (caseInsensitive : Bool) : Registry σ := { caseInsensitive := caseInsensitive }

/-- What has changed about a command below the root with a serial number. -/
def standing (r : Registry σ) (serial : Nat) (c : Command σ) : Standing :=
  (r.standings.get? ⟨serial, c.qualified⟩).getD { enabled := c.parts.enabled }

/-- Changes the standing of a command. -/
def adjust (r : Registry σ) (serial : Nat) (c : Command σ) (change : Standing → Standing) :
    Registry σ :=
  { r with standings := r.standings.set ⟨serial, c.qualified⟩ (change (r.standing serial c)) }

/-- The checks declared for a command and those added to it. -/
def checksOf (r : Registry σ) (serial : Nat) (c : Command σ) : List Check :=
  c.parts.checks ++ (r.standing serial c).extraChecks

/-- How often a command was used. -/
def usesOf (r : Registry σ) (id : CommandId) : Nat := ((r.standings.get? id).map (·.uses)).getD 0

/-- Counts a use of a command. -/
def recordUse (r : Registry σ) (serial : Nat) (c : Command σ) : Registry σ :=
  r.adjust serial c fun s => { s with uses := s.uses + 1 }

/-- The first conflict of case below commands, where case is ignored. -/
def caseConflict? (r : Registry σ) (commands : List (Command σ)) : Option RegistrationError :=
  if r.caseInsensitive then commands.findSome? Command.caseConflict? else none

/-- Registers commands as roots, all or none, and tells them as registered. -/
def registerMany (r : Registry σ) (commands : List (Command σ)) :
    Except RegistrationError (List (Command σ) × Registry σ) :=
  match r.caseConflict? commands with
  | some e => .error e
  | none =>
    let numbered := commands.zipIdx.map fun e => { e.1 with serial := r.nextSerial + e.2 }
    match r.root.insertAll r.caseInsensitive numbered with
    | .error e => .error e
    | .ok root =>
      .ok (numbered, { r with root := root, nextSerial := r.nextSerial + commands.length })

/-- Registers a root command, and tells it as registered. -/
def register (r : Registry σ) (c : Command σ) :
    Except RegistrationError (Command σ × Registry σ) :=
  match r.caseConflict? [c] with
  | some e => .error e
  | none =>
    let numbered := { c with serial := r.nextSerial }
    match r.root.insert numbered r.caseInsensitive with
    | .error e => .error e
    | .ok root => .ok (numbered, { r with root := root, nextSerial := r.nextSerial + 1 })

/-- Registers a root command that must be a group. -/
def registerGroup (r : Registry σ) (c : Command σ) :
    Except RegistrationError (Command σ × Registry σ) :=
  if c.isGroup then r.register c else .error (.invalidCommand c.qualified "not a group")

/-- Removes the root command with a name, and tells which it was. -/
def remove (r : Registry σ) (name : String) : Option (Command σ × Registry σ) :=
  (r.root.remove name r.caseInsensitive).map fun e => (e.1, { r with root := e.2 })

/-- The command that words name, from `c` down. -/
def descend (caseInsensitive : Bool) (c : Command σ) : List String → Option (Command σ)
  | [] => some c
  | word :: rest =>
    match c.child? word caseInsensitive with
    | some child => descend caseInsensitive child rest
    | none => none

/-- The command with a qualified name, below its root. -/
def find? (r : Registry σ) (qualified : String) : Option (Command σ × Command σ) :=
  match (Text.words qualified.toList).map String.ofList with
  | [] => none
  | first :: rest =>
    (r.root.get? first r.caseInsensitive).bind fun root =>
      (descend r.caseInsensitive root rest).map (root, ·)

/-- The command with a qualified name. -/
def get? (r : Registry σ) (qualified : String) : Option (Command σ) :=
  (r.find? qualified).map (·.2)

/-- Every command with the serial number of its root, each before its children. -/
def walk (r : Registry σ) : List (Nat × Command σ) :=
  r.root.ordered.flatMap fun root => root.walk.map (root.serial, ·)

/-- The uses of all commands that were used, busiest first, then by name. -/
def stats (r : Registry σ) : List (String × Nat) :=
  let used := (r.walk.map fun e => (e.2.qualified, r.usesOf ⟨e.1, e.2.qualified⟩)).filter (·.2 > 0)
  used.mergeSort fun a b => a.2 > b.2 || (a.2 == b.2 && a.1 ≤ b.1)

/-- Splits off the next word; both parts are without blanks in front. -/
def nextWord (cs : List Char) : List Char × List Char :=
  let cs := Text.trimStart cs
  (cs.takeWhile fun c => !Text.isBlank c, Text.trimStart (cs.dropWhile fun c => !Text.isBlank c))

/-- Descends from a command for as long as words name children, with at most `fuel` words. The text
starts after the blanks that follow the word for the command. -/
def resolveFrom (caseInsensitive : Bool) : Nat → Command σ → List (Command σ) → String →
    List String → List Char → Except CommandError (Resolved σ)
  | fuel, c, parents, invokedWith, invokedParents, rest =>
    let here : Except CommandError (Resolved σ) :=
      .ok ⟨c, parents, invokedWith, invokedParents, String.ofList rest⟩
    if !c.isGroup then here
    else
      let (word, after) := nextWord rest
      match fuel, c.child? (String.ofList word) caseInsensitive with
      | fuel + 1, some child =>
        resolveFrom caseInsensitive fuel child (parents ++ [c]) (String.ofList word)
          (invokedParents ++ [invokedWith]) after
      | _, _ =>
        if c.parts.body.isSome then here
        else
          let path := invokedParents ++ [invokedWith] ++
            (if word.isEmpty then [] else [String.ofList word])
          .error (.commandNotFound (" ".intercalate path))

/-- The command that a line names, and the rest of the line. -/
def resolve (r : Registry σ) (line : String) : Except CommandError (Resolved σ) :=
  let (word, rest) := nextWord line.toList
  let first := String.ofList word
  match r.root.get? first r.caseInsensitive with
  | none => .error (.commandNotFound first)
  | some root => resolveFrom r.caseInsensitive line.length root [] first [] rest

end Registry

end ChatCommands
