namespace Polyglot.Data

/-- A double, as its sign, exponent and fraction bits. -/
structure Binary64 where
  bits : UInt64
  deriving DecidableEq, Repr

/-- A positive decimal: `digits` is the significand, without a zero at its end unless it is one
digit, and the value is `0.digits · 10 ^ point`. -/
structure Digits where
  digits : List Nat
  point : Int

namespace Binary64

def ofFloat (x : Float) : Binary64 := ⟨x.toBits⟩

def isNegative (x : Binary64) : Bool := x.bits >>> 63 != 0

def exponentBits (x : Binary64) : Nat := ((x.bits >>> 52) &&& 0x7ff).toNat

def fraction (x : Binary64) : Nat := (x.bits &&& 0xfffffffffffff).toNat

def isInfinite (x : Binary64) : Bool := x.exponentBits == 0x7ff && x.fraction == 0

def isNaN (x : Binary64) : Bool := x.exponentBits == 0x7ff && x.fraction != 0

def isZero (x : Binary64) : Bool := x.exponentBits == 0 && x.fraction == 0

def significand (x : Binary64) : Nat :=
  if x.exponentBits = 0 then x.fraction else 0x10000000000000 + x.fraction

def scale (x : Binary64) : Int :=
  if x.exponentBits = 0 then -1074 else (x.exponentBits : Int) - 1075

def toInt? (x : Binary64) : Option Int :=
  if x.isInfinite || x.isNaN then none
  else
    let signed (n : Nat) : Int := if x.isNegative then -(n : Int) else n
    if 0 ≤ x.scale then some (signed (x.significand * Nat.pow 2 x.scale.toNat))
    else
      let unit := Nat.pow 2 (-x.scale).toNat
      if x.significand % unit = 0 then some (signed (x.significand / unit)) else none

def infinity (negative : Bool) : Binary64 :=
  ⟨if negative then 0xfff0000000000000 else 0x7ff0000000000000⟩

def nan : Binary64 := ⟨0x7ff8000000000000⟩

def ofDecimal (negative : Bool) (significand : Nat) (exponent : Int) : Binary64 :=
  let magnitude := (Nat.toDigits 10 significand).length + exponent
  let x : Float :=
    if significand = 0 ∨ magnitude < -400 then 0
    else if magnitude > 400 then Float.ofBits 0x7ff0000000000000
    else if exponent < 0 then Float.ofScientific significand true exponent.natAbs
    else Float.ofScientific significand false exponent.natAbs
  ofFloat (if negative then -x else x)

/-- A quotient rounded to the nearest whole number; a half goes to the even neighbour. -/
def roundedQuotient (numerator denominator : Nat) : Nat :=
  let whole := numerator / denominator
  let twice := 2 * (numerator % denominator)
  if twice < denominator ∨ (twice = denominator ∧ whole % 2 = 0) then whole else whole + 1

/-- The magnitude of a finite double in units of `10 ^ -places`, rounded to a whole number of them. -/
def inUnits (places : Nat) (x : Binary64) : Nat :=
  let numerator := x.significand * Nat.pow 10 places
  if 0 ≤ x.scale then numerator * Nat.pow 2 x.scale.toNat
  else roundedQuotient numerator (Nat.pow 2 (-x.scale).toNat)

/-- The value and the two ends of the interval of reals that round to it, over one denominator. -/
private structure Interval where
  low : Nat
  middle : Nat
  high : Nat
  denominator : Nat
  closed : Bool

private def interval (x : Binary64) : Interval :=
  let m := 4 * x.significand
  let below := if x.fraction = 0 ∧ 1 < x.exponentBits then 1 else 2
  let shift := x.scale - 2
  let factor := if 0 ≤ shift then Nat.pow 2 shift.toNat else 1
  ⟨(m - below) * factor, m * factor, (m + 2) * factor,
    if 0 ≤ shift then 1 else Nat.pow 2 (-shift).toNat, x.significand % 2 = 0⟩

private def Interval.holds (i : Interval) (numerator denominator : Nat) : Bool :=
  let low := i.low * denominator
  let high := i.high * denominator
  let n := numerator * i.denominator
  if i.closed then low ≤ n && n ≤ high else low < n && n < high

/-- The number of the decimal places before the first digit that is not zero. -/
private def leadingZeros : (fuel numerator denominator : Nat) → Nat
  | 0, _, _ => 0
  | fuel + 1, n, d => if d ≤ n * 10 then 0 else leadingZeros fuel (n * 10) d + 1

private def pointOf (i : Interval) : Int :=
  if i.denominator ≤ i.middle then (Nat.toDigits 10 (i.middle / i.denominator)).length
  else -(leadingZeros 400 i.middle i.denominator : Int)

/-- Of the two decimals with `count` digits beside the value, the one that reads back; of two, the
nearer; of two as near, the even one. -/
private def nearby? (i : Interval) (point : Int) (count : Nat) : Option Nat :=
  let exponent := point - count
  let up := if 0 ≤ exponent then Nat.pow 10 exponent.toNat else 1
  let down := if 0 ≤ exponent then 1 else Nat.pow 10 (-exponent).toNat
  let lower := i.middle * down / (i.denominator * up)
  let fits (n : Nat) : Bool := i.holds (n * up) down
  match fits lower, fits (lower + 1) with
  | false, false => none
  | true, false => some lower
  | false, true => some (lower + 1)
  | true, true =>
    let twice := 2 * i.middle * down
    let half := (2 * lower + 1) * up * i.denominator
    if twice < half then some lower
    else if half < twice then some (lower + 1)
    else if lower % 2 = 0 then some lower else some (lower + 1)

/-- The fewest digits that read back as the magnitude of a finite double other than zero. -/
def shortest (x : Binary64) : Digits :=
  let i := x.interval
  let point := pointOf i
  let found := (List.range 17).findSome? fun k => nearby? i point (k + 1)
  let digits := (Nat.toDigits 10 (found.getD 0)).map fun c => c.toNat - 48
  let count := ((List.range 17).find? fun k => (nearby? i point (k + 1)).isSome).getD 16 + 1
  let trimmed := (digits.reverse.dropWhile (· == 0)).reverse
  ⟨if trimmed.isEmpty then [0] else trimmed, point + ((digits.length : Int) - count)⟩

end Binary64

end Polyglot.Data
