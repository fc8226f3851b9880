import ChatCommands.Decimal.Shortest

/-!
Numbers with a fixed count of decimal places, and durations. A duration is a
whole number of nanoseconds; messages show it in seconds with two places, and
records show it exactly in the largest unit that is not below one.
-/

namespace ChatCommands.Decimal

/-- `a / b` with exactly `places` decimal places (at least one), halves to the even neighbour. -/
def fixedPlaces (places : Nat) (a b : Nat) : List Char :=
  let n := Binary64.roundHalfEven (a * Nat.pow 10 places) b
  let fraction := digitsOf (n % Nat.pow 10 places)
  digitsOf (n / Nat.pow 10 places) ++
    '.' :: List.replicate (places - fraction.length) '0' ++ fraction

/-- A span of time in nanoseconds. -/
abbrev Duration := Nat

namespace Duration

/-- Nanoseconds in a second. -/
def second : Duration := 1000000000

/-- Nanoseconds in a millisecond. -/
def millisecond : Duration := 1000000

/-- Seconds as a double-precision number: whole seconds plus the fraction, each rounded. -/
def toSeconds (d : Duration) : Binary64 :=
  (Binary64.nearest false (d / second) 1).addMagnitudes
    (Binary64.nearest false (d % second) second)

/-- Seconds with two decimal places. -/
def inSeconds (d : Duration) : String :=
  let (a, b) := d.toSeconds.toFraction
  String.ofList (fixedPlaces 2 a b)

/-- A count of units with the exact fraction `rest / unit`, without trailing zeros. -/
def exactUnits (whole rest : Nat) (places : Nat) (name : String) : String :=
  let padded := digitsOf rest
  let fraction := List.replicate (places - padded.length) '0' ++ padded
  let kept := (fraction.reverse.dropWhile (· == '0')).reverse
  String.ofList (digitsOf whole ++ if kept.isEmpty then [] else '.' :: kept) ++ name

/-- The exact text of a duration in its largest unit that is not below one. -/
def exact (d : Duration) : String :=
  if d ≥ 1000000000 then exactUnits (d / 1000000000) (d % 1000000000) 9 "s"
  else if d ≥ 1000000 then exactUnits (d / 1000000) (d % 1000000) 6 "ms"
  else if d ≥ 1000 then exactUnits (d / 1000) (d % 1000) 3 "µs"
  else exactUnits d 0 0 "ns"

end Duration

end ChatCommands.Decimal
