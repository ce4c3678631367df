import Gatehouse.Number.Binary64
/-!
# The shortest decimal that reads back

`Binary64.shortest` gives the fewest decimal digits that round to a number, and of those the nearest to it.  For each
count of digits the two neighbours of the value on that decimal grid are tried in exact arithmetic; a point of the
grid that reads back exists only if one of the two does.  `Binary64.text` lays the digits out: plain notation for
numbers from 1e-5 up to (not including) 1e16, always with a fraction, and an exponent with its sign elsewhere.
-/
namespace Gatehouse
namespace Binary64

/-- The number of decimal digits of a natural, at least one. -/
def decimalLength (n : Nat) : Nat := (Nat.toDigits 10 n).length

/-- The least count of tenfold steps, at most `fuel`, after which `num` reaches `den`. -/
def stepsTo (fuel num den : Nat) : Nat :=
  match fuel with
  | 0 => 0
  | fuel + 1 => if den ≤ num then 0 else stepsTo fuel (num * 10) den + 1

/-- The decimal exponent of the leading digit of a positive ratio. -/
def decimalExponent (num den : Nat) : Int :=
  if den ≤ num then (decimalLength (num / den) : Int) - 1 else -(stepsTo 400 num den : Int)

/-- `10 ^ g` as a numerator and a denominator. -/
def powTen (g : Int) : Nat × Nat :=
  if 0 ≤ g then (10 ^ g.toNat, 1) else (1, 10 ^ (-g).toNat)

/-- The interval of values that round to a positive number, and the value itself, over one denominator: four times
the mantissa, its lower and its upper bound, and the unit.  The bounds belong to it when the mantissa is even. -/
structure Interval where
  value : Nat
  low : Nat
  high : Nat
  unit : Nat × Nat
  closed : Bool

/-- The interval around a positive number.  Below a power of two the numbers lie twice as dense. -/
def interval (x : Binary64) : Interval :=
  let e := x.exponent - 2
  let unit := if 0 ≤ e then (2 ^ e.toNat, 1) else (1, 2 ^ (-e).toNat)
  let low := if x.mantissa = 2 ^ 52 && minExponent < x.exponent then 4 * x.mantissa - 1 else 4 * x.mantissa - 2
  ⟨4 * x.mantissa, low, 4 * x.mantissa + 2, unit, x.mantissa % 2 = 0⟩

/-- Whether `d · 10 ^ g` lies in an interval. -/
def Interval.holds (i : Interval) (d : Nat) (g : Int) : Bool :=
  let (p, q) := powTen g
  let v := d * p * i.unit.2
  let lo := i.low * i.unit.1 * q
  let hi := i.high * i.unit.1 * q
  if i.closed then lo ≤ v && v ≤ hi else lo < v && v < hi

/-- The neighbours of the value on the grid of multiples of `10 ^ g`, the nearer that lies in the interval. -/
def Interval.onGrid? (i : Interval) (g : Int) : Option Nat :=
  let (p, q) := powTen g
  let num := i.value * i.unit.1 * q
  let den := i.unit.2 * p
  let d := num / den
  let r := num % den
  let lower := i.holds d g
  let upper := i.holds (d + 1) g
  if lower && upper then some (if 2 * r < den || (2 * r = den && d % 2 = 0) then d else d + 1)
  else if lower then some d
  else if upper then some (d + 1)
  else none

/-- The first grid with a hit, from one digit on. -/
def Interval.search (i : Interval) (top : Int) : List Nat → Option (Nat × Int)
  | [] => none
  | n :: ns =>
    let g := top - n
    match i.onGrid? g with
    | some d => some (d, g)
    | none => i.search top ns

/-- A decimal without its trailing zeros. -/
def strip (fuel d : Nat) (g : Int) : Nat × Int :=
  match fuel with
  | 0 => (d, g)
  | fuel + 1 => if d % 10 = 0 && d ≠ 0 then strip fuel (d / 10) (g + 1) else (d, g)

/-- The shortest decimal `d · 10 ^ g` of a magnitude. -/
def shortest (x : Binary64) : Nat × Int :=
  if x.isZero then (0, 0)
  else
    let (n, d) := x.magnitude
    match (interval x).search (decimalExponent n d) (List.range 17) with
    | some (d, g) => strip 20 d g
    | none => (x.mantissa, 0)

/-- The text of a number. -/
def text (x : Binary64) : String :=
  let sign := if x.negative then "-" else ""
  let (d, g) := shortest x
  let digits := Nat.toDigits 10 d
  let count : Int := digits.length
  let point := count + g
  let body :=
    if d = 0 then "0.0".toList
    else if 0 ≤ g && point ≤ 16 then digits ++ List.replicate g.toNat '0' ++ ".0".toList
    else if 0 < point && point ≤ 16 then digits.take point.toNat ++ '.' :: digits.drop point.toNat
    else if -5 < point && point ≤ 0 then "0.".toList ++ List.replicate (-point).toNat '0' ++ digits
    else
      let fraction := match digits with
        | first :: second :: rest => first :: '.' :: second :: rest
        | other => other
      let exponent := point - 1
      fraction ++ 'e' :: (if exponent < 0 then '-' else '+') :: Nat.toDigits 10 exponent.natAbs
  sign ++ String.ofList body

/-- The text of a number without exponent, and without a fraction when it is whole; words for what is not finite. -/
def plainText (x : Binary64) : String :=
  let sign := if x.negative then "-" else ""
  if !x.isFinite then if x.isZero then "NaN" else sign ++ "inf" else
  let (d, g) := shortest x
  let digits := Nat.toDigits 10 d
  let point : Int := (digits.length : Int) + g
  let body :=
    if d = 0 then ['0']
    else if 0 ≤ g then digits ++ List.replicate g.toNat '0'
    else if 0 < point then digits.take point.toNat ++ '.' :: digits.drop point.toNat
    else "0.".toList ++ List.replicate (-point).toNat '0' ++ digits
  sign ++ String.ofList body

end Binary64
end Gatehouse
