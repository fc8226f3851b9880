import ChatCommands.Failure.Check
import ChatCommands.Failure.Fault
import ChatCommands.Line.Token

/-!
Everything that can keep an invocation from succeeding, by cause: what the user
typed, a check, the name, a limit, a converter, or the command's own code. Each
has a code under which it is counted, a message, and the chain of messages
that explains it. A tokenizer's failure is hard: no alternative reading of an
argument may hide it. A panic is no failure that could be handled: it passes
through whatever is around it, and nobody hears of it.
-/

namespace ChatCommands

/-- A cooldown as failures tell it. -/
structure CooldownTerms where
  /-- How many attempts a window allows. -/
  rate : Nat
  /-- The length of a window. -/
  per : Decimal.Duration
  /-- The name of the partition into buckets. -/
  bucket : String
  deriving DecidableEq

mutual

/-- What was wrong with what the user typed. -/
inductive UserInputError where
  /-- A parameter without a default got no argument. -/
  | missingRequiredArgument (param : String)
  /-- Text was left after the last parameter. -/
  | tooManyArguments (command : String)
  /-- The line is no sequence of tokens. -/
  | argumentParsing (error : TokenError)
  /-- An argument a converter refused with a reason. -/
  | badArgument (message : String)
  /-- An argument that is no word for a truth value. -/
  | badBoolArgument (argument : String)
  /-- An argument outside a closed set of values. -/
  | badLiteralArgument (param argument : String) (literals : List String)
  /-- An argument that no alternative accepts. -/
  | badUnionArgument (param : String) (converters : List String) (errors : List CommandError)
  /-- No member is meant by the argument. -/
  | memberNotFound (argument : String)
  /-- No user is meant by the argument. -/
  | userNotFound (argument : String)
  /-- No channel is meant by the argument. -/
  | channelNotFound (argument : String)
  /-- No role is meant by the argument. -/
  | roleNotFound (argument : String)
  /-- A flag without a default is absent. -/
  | missingRequiredFlag (flag : String)
  /-- A flag has no value. -/
  | missingFlagArgument (flag : String)
  /-- A flag is unknown or was given too often. -/
  | tooManyFlags (flag : String) (values : List String)
  /-- A flag's value does not convert. -/
  | badFlagArgument (flag : String) (source : CommandError)

/-- Why an invocation did not succeed. -/
inductive CommandError where
  /-- What the user typed is at fault. -/
  | userInput (error : UserInputError)
  /-- A check did not pass. -/
  | check (failure : CheckFailure)
  /-- No command has the name. -/
  | commandNotFound (name : String)
  /-- The command or one of its ancestors is disabled. -/
  | disabledCommand (command : String)
  /-- A converter failed for a reason other than the argument. -/
  | conversion (param converter : String) (source : Fault)
  /-- The body or one of the invoke hooks failed. -/
  | invoke (command : String) (source : Fault)
  /-- The command was used too often. -/
  | onCooldown (command : String) (terms : CooldownTerms) (retryAfter : Decimal.Duration)
  /-- The command runs too often at the same time. -/
  | maxConcurrencyReached (command : String) (number : Nat) (per : String)
  /-- Reading the argument ended in a panic. -/
  | panicked

end

namespace UserInputError

/-- The kind of the failure, as counted and recorded. -/
def code : UserInputError → String
  | .missingRequiredArgument _ => "missing_required_argument"
  | .tooManyArguments _ => "too_many_arguments"
  | .argumentParsing _ => "argument_parsing_error"
  | .badArgument _ => "bad_argument"
  | .badBoolArgument _ => "bad_bool_argument"
  | .badLiteralArgument _ _ _ => "bad_literal_argument"
  | .badUnionArgument _ _ _ => "bad_union_argument"
  | .memberNotFound _ => "member_not_found"
  | .userNotFound _ => "user_not_found"
  | .channelNotFound _ => "channel_not_found"
  | .roleNotFound _ => "role_not_found"
  | .missingRequiredFlag _ => "missing_required_flag"
  | .missingFlagArgument _ => "missing_flag_argument"
  | .tooManyFlags _ _ => "too_many_flags"
  | .badFlagArgument _ _ => "bad_flag_argument"

/-- What the user is told. -/
def message : UserInputError → String
  | .missingRequiredArgument param => param ++ " is a required argument that is missing"
  | .tooManyArguments command => "too many arguments passed to " ++ command
  | .argumentParsing error => error.message
  | .badArgument message => message
  | .badBoolArgument argument => Text.quoted argument ++ " is not a recognised boolean option"
  | .badLiteralArgument param _ options | .badUnionArgument param options _ =>
    "could not convert " ++ Text.quoted param ++ " into " ++ ", ".intercalate options
  | .memberNotFound argument => "member " ++ Text.quoted argument ++ " not found"
  | .userNotFound argument => "user " ++ Text.quoted argument ++ " not found"
  | .channelNotFound argument => "channel " ++ Text.quoted argument ++ " not found"
  | .roleNotFound argument => "role " ++ Text.quoted argument ++ " not found"
  | .missingRequiredFlag flag => "flag " ++ Text.quoted flag ++ " is required and missing"
  | .missingFlagArgument flag => "flag " ++ Text.quoted flag ++ " does not have an argument"
  | .tooManyFlags flag values =>
    "too many flag values, flag " ++ Text.quoted flag ++ " received " ++ toString values.length
  | .badFlagArgument flag _ => "could not convert value of flag " ++ Text.quoted flag

end UserInputError

namespace CommandError

/-- The kind of the failure, as counted and recorded. -/
def code : CommandError → String
  | .userInput error => error.code
  | .check failure => failure.code
  | .commandNotFound _ => "command_not_found"
  | .disabledCommand _ => "disabled_command"
  | .conversion _ _ _ => "conversion_error"
  | .invoke _ _ => "command_invoke_error"
  | .onCooldown _ _ _ => "command_on_cooldown"
  | .maxConcurrencyReached _ _ _ => "max_concurrency_reached"
  | .panicked => "panicked"

/-- What the user is told. -/
def message : CommandError → String
  | .userInput error => error.message
  | .check failure => failure.message
  | .commandNotFound name => "command " ++ Text.quoted name ++ " is not found"
  | .disabledCommand command => command ++ " command is disabled"
  | .conversion param converter _ =>
    "converting to " ++ Text.quoted converter ++ " failed for parameter " ++ Text.quoted param
  | .invoke command _ => "command " ++ command ++ " raised an error"
  | .onCooldown _ _ retryAfter =>
    "you are on cooldown, try again in " ++ Decimal.Duration.inSeconds retryAfter ++ "s"
  | .maxConcurrencyReached _ number per =>
    "too many people are using this command, it can only be used " ++ toString number ++
      " time(s) per " ++ per ++ " concurrently"
  | .panicked => "panicked"

/-- The message followed by those of the causes. -/
def chain : CommandError → List String
  | .userInput (.badFlagArgument flag source) =>
    UserInputError.message (.badFlagArgument flag source) :: source.chain
  | .conversion param converter source =>
    message (.conversion param converter source) :: source.chain
  | .invoke command source => message (.invoke command source) :: source.chain
  | error => [error.message]

/-- The message and those of the causes in one line. -/
def chainText (e : CommandError) : String := ": ".intercalate e.chain

/-- Whether the user can mend it by typing something else. -/
def isUserInput : CommandError → Bool
  | .userInput _ => true
  | _ => false

/-- Whether a check did not pass. -/
def isCheckFailure : CommandError → Bool
  | .check _ => true
  | _ => false

/-- Whether the line itself could not be read, which no alternative may hide. -/
def isHardParseError : CommandError → Bool
  | .userInput (.argumentParsing _) => true
  | _ => false

/-- Whether reading the argument ended in a panic. -/
def isPanic : CommandError → Bool
  | .panicked => true
  | _ => false

/-- Whether conversion ends with it, whatever other readings of the argument there are. -/
def isFinal (e : CommandError) : Bool := e.isHardParseError || e.isPanic

/-- How long a cooldown lasts. -/
def retryAfter? : CommandError → Option Decimal.Duration
  | .onCooldown _ _ retryAfter => some retryAfter
  | _ => none

end CommandError

end ChatCommands
