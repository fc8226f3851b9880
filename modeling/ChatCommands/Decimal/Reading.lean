import ChatCommands.Decimal.Binary64

/-!
Reading numbers that a user typed: whole numbers in a fixed range, and
double-precision numbers in positional or exponent form. Nothing but ASCII
digits, one sign, one point and one exponent is accepted, and no blanks.
-/

namespace ChatCommands.Decimal

/-- The value of an ASCII digit. -/
def digitValue (c : Char) : Nat := c.toNat - '0'.toNat

/-- The number a run of digits stands for. -/
def digitsValue (cs : List Char) : Nat := cs.foldl (fun n c => 10 * n + digitValue c) 0

/-- A non-empty run of digits and nothing else. -/
def readDigits? (cs : List Char) : Option Nat :=
  if !cs.isEmpty && cs.all Char.isDigit then some (digitsValue cs) else none

/-- Splits off one leading sign; `true` means minus. -/
def takeSign : List Char → Bool × List Char
  | '-' :: rest => (true, rest)
  | '+' :: rest => (false, rest)
  | cs => (false, cs)

/-- The least and the greatest 64-bit signed integer. -/
def inInt64 (i : Int) : Bool := -9223372036854775808 ≤ i && i ≤ 9223372036854775807

/-- A signed integer of 64 bits with an optional sign. -/
def readInt64? (cs : List Char) : Option Int :=
  let (negative, rest) := takeSign cs
  match readDigits? rest with
  | none => none
  | some n =>
    let i : Int := if negative then -(n : Int) else n
    if inInt64 i then some i else none

/-- An unsigned integer of 64 bits without a sign. -/
def readNat64? (cs : List Char) : Option Nat :=
  match readDigits? cs with
  | some n => if n < Nat.pow 2 64 then some n else none
  | none => none

/-- The parts of a number in positional or exponent form: all its digits as one number, and the
power of ten they count. -/
def readScaled? (cs : List Char) : Option (Nat × Int) :=
  let whole := cs.takeWhile Char.isDigit
  let afterWhole := cs.dropWhile Char.isDigit
  let (fraction, rest) := match afterWhole with
    | '.' :: more => (more.takeWhile Char.isDigit, more.dropWhile Char.isDigit)
    | other => ([], other)
  if whole.isEmpty && fraction.isEmpty then none
  else
    let digits := digitsValue (whole ++ fraction)
    let places : Int := fraction.length
    match rest with
    | [] => some (digits, -places)
    | e :: more =>
      if e == 'e' || e == 'E' then
        let (negative, exponent) := takeSign more
        match readDigits? exponent with
        | some n => some (digits, (if negative then -(n : Int) else n) - places)
        | none => none
      else none

/-- The double-precision number nearest to `digits * 10 ^ scale`. Magnitudes out of all reach are
settled without computing the power. -/
def nearestScaled (negative : Bool) (digits : Nat) (scale : Int) : Binary64 :=
  let size : Int := (digits.log2 : Int) / 4 + scale
  if digits == 0 then Binary64.nearest negative 0 1
  else if size > 400 then Binary64.infinity negative
  else if (digits.log2 : Int) + scale < -400 then Binary64.nearest negative 0 1
  else Binary64.nearest negative (digits * Nat.pow 10 scale.toNat) (Nat.pow 10 (-scale).toNat)

/-- The spelled-out special numbers, in any mix of ASCII cases. -/
def readSpecial? (negative : Bool) (cs : List Char) : Option Binary64 :=
  let word := String.ofList (cs.map Char.toLower)
  if word == "inf" || word == "infinity" then some (Binary64.infinity negative)
  else if word == "nan" then some (Binary64.nan negative)
  else none

/-- A double-precision number with an optional sign. -/
def readBinary64? (cs : List Char) : Option Binary64 :=
  let (negative, rest) := takeSign cs
  match readScaled? rest with
  | some (digits, scale) => some (nearestScaled negative digits scale)
  | none => readSpecial? negative rest

end ChatCommands.Decimal
