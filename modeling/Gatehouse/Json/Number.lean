import Gatehouse.Json.Basic
/-!
# Reading a JSON number

The text of a number gives a significand of at most 64 bits and a decimal exponent.  Digits are taken into the
significand as long as it fits; from the first digit that does not fit on, the digits of that part of the number are
only counted.  A number without fraction and exponent whose digits all fit is an integer if it lies between -2^63 and
2^64 - 1 and is not negative zero; everything else is the significand as a binary64, multiplied or divided by a power
of ten that is itself a binary64, and each of these three steps rounds.
-/
namespace Gatehouse
namespace Json
namespace Number

/-- The parts of a number's text: sign, digits, digits after the point, and the exponent with its sign. -/
structure Parts where
  negative : Bool
  whole : List Nat
  fraction : Option (List Nat)
  exponent : Option (Bool × List Nat)
  deriving DecidableEq, Repr

/-- The greatest significand. -/
def maxSignificand : Nat := 2 ^ 64 - 1

/-- A significand with further digits taken in while it fits, and the digits from the first that does not. -/
def absorb (significand : Nat) : List Nat → Nat × List Nat
  | [] => (significand, [])
  | d :: ds =>
    if significand * 10 + d ≤ maxSignificand then absorb (significand * 10 + d) ds else (significand, d :: ds)

/-- The number that a list of digits writes. -/
def ofDigits (ds : List Nat) : Nat := ds.foldl (fun n d => n * 10 + d) 0

/-- The binary64 nearest to a power of ten. -/
def powTen? (k : Nat) : Option Binary64 := Binary64.ofRatio? false (10 ^ k) 1

/-- A number scaled by a power of ten.  Exponents below -308 are reached by dividing by 1e308 first; `fuel` is any
bound on how often. -/
def scale? (fuel : Nat) (x : Binary64) (exponent : Int) : Option Binary64 :=
  if exponent.natAbs ≤ 308 then do
    let p ← powTen? exponent.natAbs
    if 0 ≤ exponent then x.mul? p else x.div? p
  else if x.isZero then some x
  else if 0 ≤ exponent then none
  else match fuel with
    | 0 => none
    | fuel + 1 => do
      let p ← powTen? 308
      scale? fuel (← x.div? p) (exponent + 308)

/-- A significand times a power of ten. -/
def ofScientific? (negative : Bool) (significand : Nat) (exponent : Int) : Option Binary64 := do
  let x ← Binary64.ofRatio? false significand 1
  let y ← scale? (exponent.natAbs / 308 + 1) x exponent
  return { y with negative := negative }

/-- Decimal exponents above this are not computed with. -/
def maxExponent : Nat := 2 ^ 31 - 1

/-- The integer that sign and significand write, unless it is out of range or negative zero. -/
def ofSignificand? (negative : Bool) (significand : Nat) : Option Int :=
  if negative then
    if 0 < significand && significand ≤ 2 ^ 63 then some (-(significand : Int)) else none
  else some significand

/-- The number that a text's parts write, `none` when it is too great for a binary64. -/
def ofParts? (p : Parts) : Option Number :=
  let (whole, skipped) := absorb 0 p.whole
  match p.fraction, p.exponent, skipped with
  | none, none, [] =>
    match ofSignificand? p.negative whole with
    | some n => some (.int n)
    | none => (ofScientific? p.negative whole 0).map .float
  | fraction, exponent, _ =>
    let fractionDigits := fraction.getD []
    let (significand, dropped) := absorb whole fractionDigits
    let start : Int := (skipped.length : Int) - ((fractionDigits.length : Int) - (dropped.length : Int))
    match exponent with
    | none => (ofScientific? p.negative significand start).map .float
    | some (negativeExponent, ds) =>
      let e := ofDigits ds
      if maxExponent < e then
        if significand ≠ 0 && !negativeExponent then none else some (.float (Binary64.zero p.negative))
      else (ofScientific? p.negative significand (if negativeExponent then start - e else start + e)).map .float

end Number
end Json
end Gatehouse
