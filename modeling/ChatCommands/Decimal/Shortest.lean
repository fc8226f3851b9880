import ChatCommands.Decimal.Binary64

/-!
The shortest decimal that identifies a double-precision number. Every number
stands for the interval of reals that round to it; among the decimals of that
interval with the fewest digits, `shortest` takes the one nearest to the number
itself and the larger of two equally near ones. Two layouts print it: `plain`
never uses an exponent, and `scientific` switches to one for very large and very
small numbers and keeps a point in whole numbers.
-/

namespace ChatCommands.Decimal

/-- The decimal number `digits * 10 ^ scale`. -/
structure Scaled where
  /-- The digits, read as a whole number. -/
  digits : Nat
  /-- The power of ten the digits count. -/
  scale : Int
  deriving DecidableEq

/-- Compares `a * 10 ^ i` with `n * 2 ^ j` exactly. -/
def compareScaled (a : Nat) (i : Int) (n : Nat) (j : Int) : Ordering :=
  compare (a * Nat.pow 10 i.toNat * Nat.pow 2 (-j).toNat)
    (n * Nat.pow 2 j.toNat * Nat.pow 10 (-i).toNat)

/-- Whether the reals that round to `x` include `d`. The interval's ends belong to it when the
mantissa is even; below a power of two the lower half of the interval is half as wide. -/
def identifies (x : Binary64) (d : Scaled) : Bool :=
  let m := x.mantissa
  let narrow := x.fractionBits == 0 && x.exponentBits > 1
  let low := if narrow then 4 * m - 1 else 4 * m - 2
  let high := 4 * m + 2
  let closed := m % 2 == 0
  let fromLow := compareScaled d.digits d.scale low (x.scale - 2)
  let fromHigh := compareScaled d.digits d.scale high (x.scale - 2)
  (fromLow == .gt || (closed && fromLow == .eq)) && (fromHigh == .lt || (closed && fromHigh == .eq))

/-- The number of digits before the point of a non-zero magnitude: the least `k` with the magnitude
below `10 ^ k`, found from `k` upwards or downwards. -/
def magnitudeScale (x : Binary64) : Int :=
  let below (k : Int) : Bool := compareScaled 1 k x.mantissa x.scale == .gt
  let estimate : Int := ((x.mantissa.log2 : Int) + x.scale) * 1233 / 4096
  if below (estimate - 1) then estimate - 1
  else if below estimate then estimate
  else if below (estimate + 1) then estimate + 1
  else estimate + 2

/-- The better of the two grid points around `x` that identify it, on the grid `10 ^ grid`. -/
def onGrid (x : Binary64) (grid : Int) : Option Scaled :=
  let a := x.mantissa * Nat.pow 2 x.scale.toNat * Nat.pow 10 (-grid).toNat
  let b := Nat.pow 2 (-x.scale).toNat * Nat.pow 10 grid.toNat
  let down : Scaled := ⟨a / b, grid⟩
  let up : Scaled := ⟨a / b + 1, grid⟩
  match decide (0 < down.digits) && identifies x down, identifies x up with
  | true, true => if 2 * (a % b) < b then some down else some up
  | true, false => some down
  | false, true => some up
  | false, false => none

/-- Searches grids with more and more digits, `left` of them at most. -/
def searchGrids (x : Binary64) : Nat → Int → Option Scaled
  | 0, _ => none
  | left + 1, grid =>
    match onGrid x grid with
    | some d => some d
    | none => searchGrids x left (grid - 1)

/-- Moves trailing zeros of the digits into the scale. -/
def stripZeros : Nat → Scaled → Scaled
  | 0, d => d
  | fuel + 1, d =>
    if d.digits != 0 && d.digits % 10 == 0 then stripZeros fuel ⟨d.digits / 10, d.scale + 1⟩ else d

/-- The shortest decimal that identifies a finite non-zero magnitude. -/
def shortest (x : Binary64) : Scaled :=
  match searchGrids x 17 (magnitudeScale x - 1) with
  | some d => stripZeros 20 d
  | none => ⟨x.mantissa * Nat.pow 2 x.scale.toNat * Nat.pow 5 (-x.scale).toNat, min x.scale 0⟩

/-- The digits of a whole number. -/
def digitsOf (n : Nat) : List Char := Nat.toDigits 10 n

/-- A decimal written out without an exponent. -/
def positional (d : Scaled) : List Char :=
  let ds := digitsOf d.digits
  if d.scale ≥ 0 then ds ++ List.replicate d.scale.toNat '0'
  else
    let places := (-d.scale).toNat
    if ds.length > places then
      ds.take (ds.length - places) ++ '.' :: ds.drop (ds.length - places)
    else '0' :: '.' :: List.replicate (places - ds.length) '0' ++ ds

/-- A decimal written with one digit before the point and an exponent. -/
def withExponent (d : Scaled) : List Char :=
  let ds := digitsOf d.digits
  let exponent : Int := d.scale + ds.length - 1
  let fraction := ds.drop 1
  ds.take 1 ++ (if fraction.isEmpty then [] else '.' :: fraction) ++
    'e' :: (toString exponent).toList

/-- A sign before a magnitude's text. -/
def signed (x : Binary64) (text : List Char) : String :=
  String.ofList (if x.negative then '-' :: text else text)

namespace Binary64

/-- The number as a user would type it, without an exponent. -/
def plain (x : Binary64) : String :=
  if x.isNaN then "NaN"
  else if !x.isFinite then signed x ['i', 'n', 'f']
  else if x.isZero then signed x ['0']
  else signed x (positional (shortest x))

/-- Whether a finite non-zero magnitude is written without an exponent in records: from a
ten-thousandth up to, but not including, ten to the sixteenth. -/
def isPlainInRecords (x : Binary64) : Bool :=
  compareScaled 1 (-4) x.mantissa x.scale != .gt && compareScaled 1 16 x.mantissa x.scale == .gt

/-- The number as records show it: with a point in every whole number, and with an exponent where
it would be long. -/
def scientific (x : Binary64) : String :=
  if x.isNaN then "NaN"
  else if !x.isFinite then signed x ['i', 'n', 'f']
  else if x.isZero then signed x ['0', '.', '0']
  else
    let d := shortest x
    if x.isPlainInRecords then
      signed x (positional d ++ if d.scale ≥ 0 then ['.', '0'] else [])
    else signed x (withExponent d)

end Binary64

end ChatCommands.Decimal
