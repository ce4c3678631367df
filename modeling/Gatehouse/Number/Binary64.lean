import Gatehouse.Number.Power
/-!
# Binary64 numbers, exactly

A finite double is a sign, a mantissa below 2^53 and an exponent; its value is the rational number ± m · 2^e.  Every
operation here is exact arithmetic on naturals followed by one rounding (`roundRatio`, to nearest, ties to even), so
nothing depends on the machine's floating point and statements about values stay inside `Nat` and `Int`.  Operations
yield finite numbers only; the infinities and the value that is no number, which some notations can write, take the
first exponent that no finite number has.
-/
namespace Gatehouse

/-- A binary64 number, ± `mantissa` · 2 ^ `exponent`. -/
structure Binary64 where
  negative : Bool
  mantissa : Nat
  exponent : Int
  deriving DecidableEq, Repr, Inhabited

namespace Binary64

/-- The least exponent: below it mantissas lose bits instead. -/
def minExponent : Int := -1074

/-- The greatest exponent of a finite number. -/
def maxExponent : Int := 971

/-- The quotient `num / den` rounded to nearest, ties to even. -/
def divRound (num den : Nat) : Nat :=
  let q := num / den
  let r := num % den
  if 2 * r > den || (2 * r = den && q % 2 = 1) then q + 1 else q

/-- The ratio `num / den` in units of 2 ^ `e`, as a numerator and a denominator. -/
def inUnits (num den : Nat) (e : Int) : Nat × Nat :=
  if 0 ≤ e then (num, den * 2 ^ e.toNat) else (num * 2 ^ (-e).toNat, den)

/-- The exponent at which a positive ratio has a mantissa of 53 bits, or the least exponent if that is greater. -/
def exponentOf (num den : Nat) : Int :=
  let guess : Int := (Nat.log2 num : Int) - (Nat.log2 den : Int) - 52
  let (n, d) := inUnits num den guess
  let e := if n < d * 2 ^ 52 then guess - 1 else guess
  max e minExponent

/-- The nearest mantissa and exponent to a ratio, `none` if the ratio is beyond the finite numbers. -/
def roundRatio (num den : Nat) : Option (Nat × Int) :=
  if num = 0 then some (0, minExponent)
  else
    let e := exponentOf num den
    let (n, d) := inUnits num den e
    let m := divRound n d
    let (m, e) := if m = 2 ^ 53 then (2 ^ 52, e + 1) else (m, e)
    if e ≤ maxExponent then some (m, e) else none

/-- The nearest number to ± `num / den`. -/
def ofRatio? (negative : Bool) (num den : Nat) : Option Binary64 :=
  (roundRatio num den).map fun (m, e) => ⟨negative, m, e⟩

/-- The positive or negative zero. -/
def zero (negative : Bool) : Binary64 := ⟨negative, 0, minExponent⟩

def isZero (x : Binary64) : Bool := x.mantissa == 0

/-- The infinities, as the power of two at which the finite numbers end. -/
def infinity (negative : Bool) : Binary64 := ⟨negative, 2 ^ 52, maxExponent + 1⟩

/-- The value that is no number. -/
def notANumber : Binary64 := ⟨false, 0, maxExponent + 1⟩

def isFinite (x : Binary64) : Bool := x.exponent ≤ maxExponent

/-- The magnitude as a numerator and a denominator. -/
def magnitude (x : Binary64) : Nat × Nat :=
  if 0 ≤ x.exponent then (x.mantissa * 2 ^ x.exponent.toNat, 1) else (x.mantissa, 2 ^ (-x.exponent).toNat)

/-- The product, `none` when it is beyond the finite numbers. -/
def mul? (x y : Binary64) : Option Binary64 :=
  let (a, b) := x.magnitude
  let (c, d) := y.magnitude
  ofRatio? (x.negative != y.negative) (a * c) (b * d)

/-- The quotient by a number that is not zero, `none` when it is beyond the finite numbers. -/
def div? (x y : Binary64) : Option Binary64 :=
  let (a, b) := x.magnitude
  let (c, d) := y.magnitude
  ofRatio? (x.negative != y.negative) (a * d) (b * c)

/-- The integer that a whole number is. -/
def toInt? (x : Binary64) : Option Int :=
  let (n, d) := x.magnitude
  if n % d = 0 then some (if x.negative then -((n / d : Nat) : Int) else (n / d : Nat)) else none

/-- The nearest integer, halves away from zero. -/
def roundHalfAway (x : Binary64) : Int :=
  let (n, d) := x.magnitude
  let r : Int := ((2 * n + d) / (2 * d) : Nat)
  if x.negative then -r else r

end Binary64
end Gatehouse
