import ChatCommands.Decimal.Reading
import ChatCommands.Toml.Item
import ChatCommands.Toml.Quoted

/-!
Numbers, truth values, dates and times of a TOML document. Each is a run of
letters, digits and a few signs, and is read from the run as a whole; only
between a date and a time there may be a blank.
-/

namespace ChatCommands.Toml

/-- Whether a character can belong to a number, a truth value, a date or a time. -/
def isScalarChar (c : Char) : Bool :=
  c.isAlphanum || c == '+' || c == '-' || c == '_' || c == '.' || c == ':'

/-- Digits without the underscores between them. Every underscore stands between two digits. -/
def plainDigits? (isDigit : Char → Bool) : List Char → Option (List Char)
  | [] => none
  | [c] => if isDigit c then some [c] else none
  | c :: '_' :: rest => if isDigit c then (plainDigits? isDigit rest).map (c :: ·) else none
  | c :: rest => if isDigit c then (plainDigits? isDigit rest).map (c :: ·) else none

/-- The digits of a decimal whole number, which starts with zero only if it is zero. -/
def wholeDigits? (cs : List Char) : Option (List Char) :=
  match plainDigits? Char.isDigit cs with
  | some ('0' :: _ :: _) => none
  | digits => digits

/-- The number that digits in a base stand for. -/
def valueIn (base : Nat) (cs : List Char) : Nat :=
  cs.foldl (fun n c => base * n + (hexDigit? c).getD 0) 0

/-- A whole number in a base given by its two-letter mark. -/
def basedInteger? (base : Nat) (cs : List Char) : Option Int :=
  (plainDigits? (fun c => (hexDigit? c).any (· < base)) cs).map fun digits =>
    (valueIn base digits : Int)

/-- A whole number of 64 bits. -/
def integer? (run : List Char) : Option Int :=
  let value := match run with
    | '0' :: 'x' :: rest => basedInteger? 16 rest
    | '0' :: 'o' :: rest => basedInteger? 8 rest
    | '0' :: 'b' :: rest => basedInteger? 2 rest
    | _ =>
      let (negative, rest) := Decimal.takeSign run
      (wholeDigits? rest).map fun digits =>
        let n : Int := valueIn 10 digits
        if negative then -n else n
  value.filter Decimal.inInt64

/-- An exponent without its letter and underscores. -/
def exponentDigits? (cs : List Char) : Option (List Char) :=
  let sign := match cs with
    | '-' :: _ => ['-']
    | _ => []
  (plainDigits? Char.isDigit (Decimal.takeSign cs).2).map (sign ++ ·)

/-- The parts of a number with a point or an exponent, put together again without underscores. -/
def floatDigits? (cs : List Char) : Option (List Char) :=
  let isMark (c : Char) : Bool := c == '.' || c == 'e' || c == 'E'
  let whole := cs.takeWhile fun c => !isMark c
  match wholeDigits? whole, cs.dropWhile fun c => !isMark c with
  | none, _ | _, [] => none
  | some whole, '.' :: rest =>
    let isExponent (c : Char) : Bool := c == 'e' || c == 'E'
    match plainDigits? Char.isDigit (rest.takeWhile fun c => !isExponent c),
        rest.dropWhile fun c => !isExponent c with
    | none, _ => none
    | some fraction, [] => some (whole ++ '.' :: fraction)
    | some fraction, _ :: exponent =>
      (exponentDigits? exponent).map fun e => whole ++ '.' :: fraction ++ 'e' :: e
  | some whole, _ :: exponent => (exponentDigits? exponent).map fun e => whole ++ 'e' :: e

/-- A number with a point or an exponent, or a special one. One that is too great is refused. -/
def float? (run : List Char) : Option Decimal.Binary64 :=
  let (negative, rest) := Decimal.takeSign run
  if rest == "inf".toList then some (.infinity negative)
  else if rest == "nan".toList then some (.nan negative)
  else
    match floatDigits? rest with
    | none => none
    | some digits =>
      let magnitude := Decimal.readBinary64? (if negative then '-' :: digits else digits)
      magnitude.filter (· != .infinity false)

/-- Exactly `n` digits at the start of a run. -/
def takeNumber? (n : Nat) (cs : List Char) : Option (Nat × List Char) :=
  if (cs.take n).length == n && (cs.take n).all Char.isDigit then
    some (Decimal.digitsValue (cs.take n), cs.drop n)
  else none

/-- How many days a month has. -/
def daysIn (year month : Nat) : Nat :=
  let isLeap := year % 4 == 0 && (year % 100 != 0 || year % 400 == 0)
  if month == 2 then if isLeap then 29 else 28
  else if month == 4 || month == 6 || month == 9 || month == 11 then 30
  else 31

/-- What follows a date at the start of a run. -/
def afterDate? (cs : List Char) : Option (List Char) :=
  match takeNumber? 4 cs with
  | some (year, '-' :: cs) =>
    match takeNumber? 2 cs with
    | some (month, '-' :: cs) =>
      match takeNumber? 2 cs with
      | some (day, cs) =>
        if 1 ≤ month && month ≤ 12 && 1 ≤ day && day ≤ daysIn year month then some cs else none
      | none => none
    | _ => none
  | _ => none

/-- What follows hours and minutes at the start of a run. -/
def afterMinutes? (cs : List Char) : Option (List Char) :=
  match takeNumber? 2 cs with
  | some (hour, ':' :: cs) =>
    match takeNumber? 2 cs with
    | some (minute, cs) => if hour ≤ 23 && minute ≤ 59 then some cs else none
    | none => none
  | _ => none

/-- What follows a time of day at the start of a run. -/
def afterTime? (cs : List Char) : Option (List Char) :=
  match afterMinutes? cs with
  | some (':' :: cs) =>
    match takeNumber? 2 cs with
    | some (second, cs) =>
      if second > 60 then none
      else
        match cs with
        | '.' :: fraction =>
          if (fraction.head?.any Char.isDigit) then some (fraction.dropWhile Char.isDigit) else none
        | _ => some cs
    | none => none
  | _ => none

/-- Whether a run is a time of day and nothing else. -/
def isTime (run : List Char) : Bool := afterTime? run == some []

/-- Whether a run is a time of day with or without an offset. -/
def isOffsetTime (run : List Char) : Bool :=
  match afterTime? run with
  | some [] | some ['Z'] | some ['z'] => true
  | some ('+' :: offset) | some ('-' :: offset) => afterMinutes? offset == some []
  | _ => false

/-- Whether a run is a date and nothing else. -/
def isDate (run : List Char) : Bool := afterDate? run == some []

/-- Whether a run is a date, a time or both. -/
def isDateTime (run : List Char) : Bool :=
  isTime run ||
    match afterDate? run with
    | some [] => true
    | some (mark :: time) => (mark == 'T' || mark == 't') && isOffsetTime time
    | none => false

/-- What a run stands for. -/
def scalarItem? (run : List Char) : Option Item :=
  if run == "true".toList then some (.boolean true)
  else if run == "false".toList then some (.boolean false)
  else if isDateTime run then some (.dateTime (String.ofList run))
  else
    match integer? run with
    | some i => some (.integer i)
    | none => (float? run).map .float

/-- Whether a time may follow a date after a blank: an hour and a colon stand there. -/
def startsHour (cs : List Char) : Bool :=
  match takeNumber? 2 cs with
  | some (_, ':' :: _) => true
  | _ => false

/-- Reads a number, a truth value, a date or a time. -/
def readScalar? (cs : List Char) : Option (Item × List Char) :=
  let run := cs.takeWhile isScalarChar
  match isDate run, cs.dropWhile isScalarChar with
  | true, ' ' :: rest =>
    if startsHour rest then
      let time := rest.takeWhile isScalarChar
      if isOffsetTime time then
        some (.dateTime (String.ofList (run ++ ' ' :: time)), rest.dropWhile isScalarChar)
      else none
    else some (.dateTime (String.ofList run), ' ' :: rest)
  | _, rest => (scalarItem? run).map (·, rest)

end ChatCommands.Toml
