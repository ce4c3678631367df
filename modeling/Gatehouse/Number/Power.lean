/-!
# Powers

`a ^ n` is the power that comes with the natural numbers and the integers themselves, in every module alike, whatever
algebra a module imports besides.
-/
namespace Gatehouse

/-- The power by a natural number, before any other that an algebra brings. -/
@[default_instance 20000]
instance (priority := high) instPower {α : Type} [NatPow α] : Pow α Nat := instPowNat

end Gatehouse
