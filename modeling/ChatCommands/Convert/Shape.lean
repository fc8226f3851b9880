import ChatCommands.Convert.Object
import ChatCommands.Convert.Primitive
import ChatCommands.Parameter.FlagScan

/-!
Conversion to structural shapes, on top of the table of converters. An optional
shape turns a failure into no value and a union goes on to the next alternative,
but neither hides a failure to read the line or a panic. Flags take a whole text: the value
of a flag reaches to the next declared flag, and each flag in order of
declaration gets the values given for it.
-/

namespace ChatCommands

/-- A text cut at the flags declared in it. -/
structure FlagText where
  /-- The text before the first flag. -/
  leading : List Char
  /-- The position of each flag's declaration with its value, in order of writing. -/
  given : List (Nat × List Char)

namespace FlagText

/-- The part of a text from one place to another, without blanks at its ends. -/
def slice (cs : List Char) (start stop : Nat) : List Char :=
  Text.trim ((cs.take stop).drop start)

/-- Values between flags: each reaches to the start of the next one. A value that would end before
it starts cannot be cut out. -/
def values? (cs : List Char) : List (Nat × Occurrence) → Option (List (Nat × List Char))
  | [] => some []
  | (flag, o) :: rest =>
    let stop := (rest.head?.map (·.2.start)).getD cs.length
    if o.valueStart ≤ stop then
      (values? cs rest).map ((flag, slice cs o.valueStart stop) :: ·)
    else none

/-- The declared flags among the places where flags are written, or the failure for the first
undeclared one where those are refused. -/
def declared (group : FlagGroup Shape) (style : FlagStyle) (cs : List Char) :
    List Occurrence → Except UserInputError (List (Nat × Occurrence))
  | [] => .ok []
  | o :: rest =>
    match group.position? style (String.ofList o.name) with
    | some flag => (declared group style cs rest).map ((flag, o) :: ·)
    | none =>
      match style.unknown with
      | .reject =>
        .error (.tooManyFlags (String.ofList o.name)
          [String.ofList (slice cs o.valueStart cs.length)])
      | .ignore => declared group style cs rest

/-- Cuts a text at its flags, which ends in a panic where a flag starts before the value of the flag
in front of it. -/
def read (group : FlagGroup Shape) (style : FlagStyle) (cs : List Char) :
    Except CommandError FlagText :=
  match declared group style cs (style.scan cs) with
  | .error e => .error (.userInput e)
  | .ok found =>
    let leadingEnd := (found.head?.map (·.2.start)).getD cs.length
    let leading := slice cs 0 leadingEnd
    if !leading.isEmpty && style.unknown == .reject then
      .error (.userInput (.badArgument
        ("unexpected text before flags: " ++ Text.quoted (String.ofList leading))))
    else
      match values? cs found with
      | some given => .ok ⟨leading, given⟩
      | none => .error .panicked

/-- The values given for the flag declared at a position. -/
def valuesOf (t : FlagText) (flag : Nat) : List (List Char) :=
  (t.given.filter (·.1 == flag)).map (·.2)

end FlagText

namespace Flag

/-- Whether giving the flag without a value means yes. -/
def isSwitch (f : Flag Shape) : Bool :=
  match f.shape with
  | .of .bool | .optional (.of .bool) => true
  | _ => false

/-- What the flag is bound to when it is absent. -/
def absent? (f : Flag Shape) (ctx : Context) : Option Value :=
  match f.default.resolve ctx with
  | some v => some v
  | none =>
    if f.multiple then some (.list [])
    else if f.shape.isOptional then some .none
    else none

/-- How many values the flag may have. -/
def limit? (f : Flag Shape) : Option Nat := if f.multiple then f.maxArgs else some 1

/-- The values that count among those given. -/
def counted (f : Flag Shape) (given : List (List Char)) :
    Except UserInputError (List (List Char)) :=
  match f.limit? with
  | none => .ok given
  | some max =>
    if given.length ≤ max then .ok given
    else if f.overrideLast then .ok (given.drop (given.length - max))
    else .error (.tooManyFlags f.name (given.map String.ofList))

/-- Converts one value of the flag, where `convert` converts to the flag's shape. -/
def convertValue (f : Flag Shape) (convert : String → Except CommandError Value)
    (value : List Char) : Except CommandError Value :=
  if value.isEmpty then
    if f.isSwitch then .ok (.bool true) else .error (.userInput (.missingFlagArgument f.name))
  else
    match convert (String.ofList value) with
    | .ok v => .ok v
    | .error .panicked => .error .panicked
    | .error e => .error (.userInput (.badFlagArgument f.name e))

/-- The value of the flag from the values given for it. -/
def bind (f : Flag Shape) (ctx : Context) (convert : String → Except CommandError Value)
    (given : List (List Char)) : Except CommandError Value :=
  if given.isEmpty then
    match f.absent? ctx with
    | some v => .ok v
    | none => .error (.userInput (.missingRequiredFlag f.name))
  else
    match f.counted given with
    | .error e => .error (.userInput e)
    | .ok counted =>
      match counted.mapM (f.convertValue convert) with
      | .error e => .error e
      | .ok converted =>
        .ok (if f.multiple then .list converted else converted.getLast?.getD .none)

end Flag

/-- Puts an entry at its place among entries in ascending order of names. -/
def insertEntry (name : String) (v : Value) : List (String × Value) → List (String × Value)
  | [] => [(name, v)]
  | (other, w) :: rest =>
    if name < other then (name, v) :: (other, w) :: rest
    else if name == other then (name, v) :: rest
    else (other, w) :: insertEntry name v rest

namespace Converters

/-- The table of all built-in converters. -/
def builtin : Converters where
  entries := [
    (.str, Convert.str), (.int, Convert.int), (.float, Convert.float), (.bool, Convert.bool),
    (.user, Convert.user), (.member, Convert.member), (.channel, Convert.channel),
    (.role, Convert.role)]

mutual

/-- Converts a text to a shape for the parameter `param`. -/
def convert (cs : Converters) (ctx : Context) (param : String) :
    Shape → String → Except CommandError Value
  | .of kind => cs.convertKind ctx param kind
  | .optional inner => fun argument =>
    match convert cs ctx param inner argument with
    | .ok v => .ok v
    | .error e => if e.isFinal then .error e else .ok .none
  | .union alternatives => fun argument =>
    match convertFirst cs ctx param alternatives argument with
    | .ok (.inl v) => .ok v
    | .ok (.inr errors) =>
      .error (.userInput (.badUnionArgument param (Shape.names alternatives) errors))
    | .error e => .error e
  | .literal values => Convert.literal param values
  | .greedy inner => convert cs ctx param inner
  | .flags group => convertGroup cs ctx group

/-- Tries alternatives in order: a value, the failures of all, or the failure that no alternative
may hide. -/
def convertFirst (cs : Converters) (ctx : Context) (param : String) :
    List Shape → String → Except CommandError (Value ⊕ List CommandError)
  | [] => fun _ => .ok (.inr [])
  | shape :: rest => fun argument =>
    match convert cs ctx param shape argument with
    | .ok v => .ok (.inl v)
    | .error e =>
      if e.isFinal then .error e
      else
        match convertFirst cs ctx param rest argument with
        | .ok (.inl v) => .ok (.inl v)
        | .ok (.inr errors) => .ok (.inr (e :: errors))
        | .error e => .error e

/-- Converts a text to the values of a group of flags. -/
def convertGroup (cs : Converters) (ctx : Context) :
    FlagGroup Shape → String → Except CommandError Value
  | ⟨flags, style⟩ => fun argument =>
    match FlagText.read ⟨flags, style⟩ (style.getD cs.flagStyle) argument.toList with
    | .error e => .error e
    | .ok text => (convertFlags cs ctx flags text 0 []).map .flags

/-- Binds flags, the first declared at `position`, adding to the entries of those before. -/
def convertFlags (cs : Converters) (ctx : Context) : List (Flag Shape) → FlagText → Nat →
    List (String × Value) → Except CommandError (List (String × Value))
  | [] => fun _ _ entries => .ok entries
  | flag :: rest => fun text position entries =>
    match convertFlag cs ctx flag (text.valuesOf position) with
    | .error e => .error e
    | .ok v => convertFlags cs ctx rest text (position + 1) (insertEntry flag.name v entries)

/-- Binds one flag to the values given for it. -/
def convertFlag (cs : Converters) (ctx : Context) :
    Flag Shape → List (List Char) → Except CommandError Value
  | ⟨name, shape, aliases, default, multiple, maxArgs, overrideLast, description⟩ =>
    Flag.bind ⟨name, shape, aliases, default, multiple, maxArgs, overrideLast, description⟩ ctx
      (convert cs ctx name shape)

end

end Converters

end ChatCommands
