/-!
Double-precision binary numbers as their 64 bits, with exact arithmetic on
naturals in place of machine arithmetic: what a bit pattern stands for, the
pattern nearest to a fraction, and equality of numbers. `nearest` rounds halves
to the even neighbour and goes to infinity past the largest finite number.
-/

namespace ChatCommands.Decimal

/-- A double-precision number, told by its bits. -/
structure Binary64 where
  /-- Sign, eleven bits of exponent, fifty-two bits of fraction. -/
  bits : UInt64
  deriving DecidableEq

namespace Binary64

/-- The sign bit is set. -/
def negative (x : Binary64) : Bool := x.bits >>> 63 == 1

/-- The eleven exponent bits. -/
def exponentBits (x : Binary64) : Nat := ((x.bits >>> 52) &&& 0x7FF).toNat

/-- The fifty-two fraction bits. -/
def fractionBits (x : Binary64) : Nat := (x.bits &&& 0xFFFFFFFFFFFFF).toNat

/-- Neither infinite nor a non-number. -/
def isFinite (x : Binary64) : Bool := x.exponentBits != 0x7FF

/-- Not a number. -/
def isNaN (x : Binary64) : Bool := x.exponentBits == 0x7FF && x.fractionBits != 0

/-- Positive or negative zero. -/
def isZero (x : Binary64) : Bool := x.exponentBits == 0 && x.fractionBits == 0

/-- The integer `m` of a finite magnitude `m * 2 ^ scale`. -/
def mantissa (x : Binary64) : Nat :=
  if x.exponentBits == 0 then x.fractionBits else Nat.pow 2 52 + x.fractionBits

/-- The power of two that the mantissa counts. -/
def scale (x : Binary64) : Int :=
  if x.exponentBits == 0 then -1074 else (x.exponentBits : Int) - 1075

/-- A sign and a magnitude's bits. -/
def ofParts (negative : Bool) (magnitude : Nat) : Binary64 :=
  ⟨UInt64.ofNat (magnitude + if negative then Nat.pow 2 63 else 0)⟩

/-- Positive or negative infinity. -/
def infinity (negative : Bool) : Binary64 := ofParts negative 0x7FF0000000000000

/-- The usual non-number. -/
def nan (negative : Bool) : Binary64 := ofParts negative 0x7FF8000000000000

/-- `a / b` rounded to a whole number, halves to the even one. -/
def roundHalfEven (a b : Nat) : Nat :=
  let q := a / b
  let r := a % b
  if 2 * r > b || (2 * r == b && q % 2 == 1) then q + 1 else q

/-- The bits of the magnitude nearest to `a / b`, for positive `b`. -/
def nearestMagnitude (a b : Nat) : Nat :=
  if a == 0 then 0
  else
    let rough : Int := max ((a.log2 : Int) - b.log2 - 53) (-1074)
    let atScale (e : Int) : Nat × Nat := (a * Nat.pow 2 (-e).toNat, b * Nat.pow 2 e.toNat)
    let e := if (atScale rough).1 / (atScale rough).2 ≥ Nat.pow 2 53 then rough + 1 else rough
    let m := roundHalfEven (atScale e).1 (atScale e).2
    let magnitude := if m < Nat.pow 2 52 then m else (e + 1074).toNat * Nat.pow 2 52 + m
    min magnitude 0x7FF0000000000000

/-- The number nearest to the fraction `a / b` with the given sign. -/
def nearest (negative : Bool) (a b : Nat) : Binary64 := ofParts negative (nearestMagnitude a b)

/-- The number nearest to a whole number. -/
def ofInt (i : Int) : Binary64 := nearest (i < 0) i.natAbs 1

/-- A finite magnitude as a fraction. -/
def toFraction (x : Binary64) : Nat × Nat :=
  (x.mantissa * Nat.pow 2 x.scale.toNat, Nat.pow 2 (-x.scale).toNat)

/-- Equality of numbers: the two zeros are equal, and a non-number equals nothing. -/
def same (x y : Binary64) : Bool :=
  !x.isNaN && !y.isNaN && ((x.isZero && y.isZero) || x.bits == y.bits)

/-- The sum of two finite non-negative numbers. -/
def addMagnitudes (x y : Binary64) : Binary64 :=
  let (a, b) := x.toFraction
  let (c, d) := y.toFraction
  nearest false (a * d + c * b) (b * d)

end Binary64

end ChatCommands.Decimal
