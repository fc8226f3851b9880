import ChatCommands.Decimal.Fixed
import ChatCommands.Line.QuoteSet
import ChatCommands.Parameter.FlagStyle
import ChatCommands.Text.Blank
import ChatCommands.Text.Quoted

/-!
The settings of a dispatcher, in four groups, and their validation. Settings
that would make commands unreachable or arguments impossible to write are told
all at once, in a fixed order (`Settings.problems`).
-/

namespace ChatCommands

/-- How a text is recognised as a command. -/
structure DispatchSettings where
  /-- Texts that address the agent; with none, every text does. -/
  leads : List String := ["!"]
  /-- Whether case is ignored in names of commands. -/
  caseInsensitive : Bool := false
  /-- Whether events written by programs are ignored. -/
  ignoreBots : Bool := true
  /-- Whether blanks may follow the text that addresses the agent. -/
  stripAfterLead : Bool := false
  /-- Whether unknown commands are reported to the last error handler. -/
  reportNotFound : Bool := false
  /-- The owners of the agent. -/
  owners : List Nat := []

/-- How a line is cut into tokens. -/
structure TokenizerSettings where
  /-- Makes the next character literal. -/
  escape : Char := QuoteSet.defaultEscape
  /-- Quotation marks besides the standard ones. -/
  extraQuotes : List (Char × Char) := []

/-- The marks and the escape that the settings ask for. -/
def TokenizerSettings.quoteSet (t : TokenizerSettings) : QuoteSet :=
  (t.extraQuotes.foldl (fun q p => q.withPair p.1 p.2) QuoteSet.standard).withEscape t.escape

/-- How long the state of limits is kept. -/
structure LimitSettings where
  /-- How many seconds an unused cooldown window is kept. -/
  retentionSeconds : Nat := 3600
  /-- How many seconds pass between clean-ups. -/
  intervalSeconds : Nat := 300

namespace LimitSettings

/-- How long an unused cooldown window is kept. -/
def retention (l : LimitSettings) : Decimal.Duration := l.retentionSeconds * Decimal.Duration.second

/-- How much time passes between clean-ups, a second at least. -/
def interval (l : LimitSettings) : Decimal.Duration :=
  max l.intervalSeconds 1 * Decimal.Duration.second

end LimitSettings

/-- The settings of a dispatcher. -/
structure Settings where
  /-- Recognition of commands. -/
  dispatch : DispatchSettings := {}
  /-- Tokens. -/
  tokenizer : TokenizerSettings := {}
  /-- Limits. -/
  limits : LimitSettings := {}
  /-- How flags are written in groups that do not say. -/
  flags : FlagStyle := {}

/-- What is wrong with settings. -/
inductive SettingsError where
  /-- A text that addresses the agent is empty. -/
  | emptyLead
  /-- The escape is a blank. -/
  | blankEscape
  /-- A pair of marks uses a blank or the escape. -/
  | invalidQuotePair (opening closing : Char)
  /-- Nothing stands between a flag's name and its value. -/
  | emptyFlagDelimiter
  /-- Every word would be a flag. -/
  | ambiguousFlagStyle
  /-- No time passes between clean-ups. -/
  | zeroInterval
  deriving DecidableEq

/-- What the failure says. -/
def SettingsError.message : SettingsError → String
  | .emptyLead => "dispatch.prefixes must not contain an empty prefix"
  | .blankEscape => "tokenizer.escape must not be whitespace"
  | .invalidQuotePair opening closing =>
    "tokenizer.extra_quotes pair (" ++ Text.quotedChar opening ++ ", " ++
      Text.quotedChar closing ++ ") uses whitespace or the escape character"
  | .emptyFlagDelimiter => "flags.delimiter must not be empty"
  | .ambiguousFlagStyle => "flags.prefix and flags.delimiter cannot both be blank"
  | .zeroInterval => "limits.maintenance_interval_secs must be greater than zero"

namespace Settings

/-- Whether a pair of marks cannot be told from blanks or the escape. -/
def badPair (escape : Char) (p : Char × Char) : Bool :=
  Text.isBlank p.1 || Text.isBlank p.2 || p.1 == escape || p.2 == escape

/-- Everything that is wrong with settings. -/
def problems (s : Settings) : List SettingsError :=
  let escape := s.tokenizer.escape
  let blank (text : String) : Bool := text.toList.all Text.isBlank
  (if s.dispatch.leads.any String.isEmpty then [.emptyLead] else []) ++
  (if Text.isBlank escape then [.blankEscape] else []) ++
  ((s.tokenizer.extraQuotes.filter (badPair escape)).map fun p => .invalidQuotePair p.1 p.2) ++
  (if s.flags.delimiter.isEmpty then [.emptyFlagDelimiter]
   else if blank s.flags.lead && blank s.flags.delimiter then [.ambiguousFlagStyle] else []) ++
  (if s.limits.intervalSeconds == 0 then [.zeroInterval] else [])

/-- Whether nothing is wrong with settings. -/
def isValid (s : Settings) : Bool := s.problems.isEmpty

end Settings

end ChatCommands
