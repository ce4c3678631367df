import Gatehouse.Number.Binary64
/-!
# Decimal numbers

The binary64 nearest to a decimal number, with one rounding.
-/
namespace Gatehouse
namespace Binary64

/-- The number nearest to `± m · 10 ^ e`, `none` when that is beyond the finite numbers.  Powers of ten far outside
their range are not computed. -/
def ofDecimal? (negative : Bool) (m : Nat) (e : Int) : Option Binary64 :=
  let places : Int := (Nat.toDigits 10 m).length + e
  if m = 0 || places < -400 then some (zero negative)
  else if 400 < places then none
  else if 0 ≤ e then ofRatio? negative (m * 10 ^ e.toNat) 1
  else ofRatio? negative m (10 ^ (-e).toNat)

end Binary64
end Gatehouse
