import ChatCommands.Parameter.Shape
import ChatCommands.Text.Case
import ChatCommands.Text.WordChar
import ChatCommands.Text.Words

/-!
Finding flags in a text. A flag starts a word: its lead, as many name
characters as there are, and its delimiter. `scan` finds every such place,
declared or not. A group is valid when its names consist of name characters
and are distinct up to case (`FlagGroup.problem?`).
-/

namespace ChatCommands

/-- Whether `c` may stand in a flag's name. -/
def isFlagNameChar (c : Char) : Bool := Text.isWordChar c || c == '_' || c == '-'

namespace FlagStyle

/-- Whether two names are the same under the style. -/
def sameName (style : FlagStyle) (a b : String) : Bool :=
  if style.caseInsensitive then Text.lower a == Text.lower b else a == b

/-- Whether the delimiter is blank, so that any blank or the end of the text serves for it. -/
def blankDelimiter (style : FlagStyle) : Bool := style.delimiter.toList.all Text.isBlank

end FlagStyle

/-- A place where a flag is written; places count characters from the start of the text. -/
structure Occurrence where
  /-- Where the lead starts. -/
  start : Nat
  /-- The name as written. -/
  name : List Char
  /-- Where the value starts. -/
  valueStart : Nat
  deriving DecidableEq

namespace FlagStyle

/-- The flag that `cs`, the text from place `start` on, begins with. -/
def occurrenceAt (style : FlagStyle) (start : Nat) (cs : List Char) : Option Occurrence := do
  let afterLead ← Text.stripStart style.lead.toList cs
  let name := afterLead.takeWhile isFlagNameChar
  let afterName := afterLead.dropWhile isFlagNameChar
  let nameEnd := start + style.lead.length + name.length
  if name.isEmpty then none
  else if style.blankDelimiter then
    match afterName with
    | [] => some ⟨start, name, nameEnd⟩
    | c :: _ => if Text.isBlank c then some ⟨start, name, nameEnd⟩ else none
  else
    match Text.stripStart style.delimiter.toList afterName with
    | some _ => some ⟨start, name, nameEnd + style.delimiter.length⟩
    | none => none

/-- The flags in the text from place `start` on; `afterBlank` tells whether a word may start
there. -/
def scanFrom (style : FlagStyle) (start : Nat) (afterBlank : Bool) : List Char → List Occurrence
  | [] => []
  | c :: rest =>
    let later := scanFrom style (start + 1) (Text.isBlank c) rest
    if afterBlank && !Text.isBlank c then
      match style.occurrenceAt start (c :: rest) with
      | some found => found :: later
      | none => later
    else later

/-- Every place in a text where a flag is written. -/
def scan (style : FlagStyle) (cs : List Char) : List Occurrence := scanFrom style 0 true cs

end FlagStyle

namespace FlagGroup

/-- The first problem among the names of one flag; `seen` holds the folded names before it. -/
def nameProblem? (seen : List String) : List String → Except String (List String)
  | [] => .ok seen
  | name :: rest =>
    if name.isEmpty || !name.toList.all isFlagNameChar then
      .error ("flag name " ++ Text.quoted name ++ " must be word characters or dashes")
    else if seen.contains (Text.lower name) then
      .error ("flag name " ++ Text.quoted name ++ " is declared twice")
    else nameProblem? (seen ++ [Text.lower name]) rest

/-- The first problem among flags; `seen` holds the folded names before them. -/
def flagsProblem? (seen : List String) : List (Flag Shape) → Option String
  | [] => none
  | flag :: rest =>
    match nameProblem? seen flag.names with
    | .error reason => some reason
    | .ok seen =>
      if flag.shape.isFlags || flag.shape.isGreedy then
        some ("flag " ++ Text.quoted flag.name ++ " cannot have shape " ++ flag.shape.name)
      else flagsProblem? seen rest

/-- Why a group cannot be used. -/
def problem? (g : FlagGroup Shape) : Option String := flagsProblem? [] g.flags

/-- The position of the flag with a name. -/
def position? (g : FlagGroup Shape) (style : FlagStyle) (name : String) : Option Nat :=
  g.flags.findIdx? fun flag => flag.names.any fun n => style.sameName n name

end FlagGroup

end ChatCommands
