import Polyglot.Data.Binary64

namespace Polyglot.Data

namespace Rounding

def precision : Nat := 53

def leastScale : Int := -1074

def limitScale : Nat := 1024

def powerOfTwo (exponent : Int) : Rat :=
  if 0 ≤ exponent then (Nat.pow 2 exponent.toNat : Nat) else 1 / (Nat.pow 2 (-exponent).toNat : Nat)

/-- The exponent of the greatest power of two that is not above a magnitude other than zero. -/
def exponentOf (x : Rat) : Int :=
  let guess : Int := (Nat.log2 x.num.natAbs : Int) - Nat.log2 x.den
  if powerOfTwo guess ≤ x.abs then guess else guess - 1

/-- The nearest whole multiple of a unit; a half goes to the even one. -/
def toMultiple (unit x : Rat) : Rat :=
  let count := x.abs / unit
  let nearest := unit * Binary64.roundedQuotient count.num.natAbs count.den
  if x < 0 then -nearest else nearest

def toPrecision (x : Rat) : Rat :=
  if x = 0 then 0
  else toMultiple (powerOfTwo (max (exponentOf x - (precision - 1)) leastScale)) x

def toDouble? (x : Rat) : Option Rat :=
  let nearest := toPrecision x
  if powerOfTwo limitScale ≤ nearest.abs then none else some nearest

/-- A number, as exactly as it is given, unless its magnitude is so small that a double has fewer
digits for it than for others. -/
def toLeastUnit (x : Rat) : Rat :=
  if powerOfTwo (leastScale + (precision - 1)) ≤ x.abs then x
  else toMultiple (powerOfTwo leastScale) x

end Rounding

def Binary64.toRat (x : Binary64) : Rat :=
  let magnitude := x.significand * Rounding.powerOfTwo x.scale
  if x.isNegative then -magnitude else magnitude

end Polyglot.Data
