/-!
# Arithmetic modulo a number

Powers by repeated squaring, and inverses modulo a prime as powers.
-/
namespace Gatehouse
namespace Modular

/-- The power of `b` modulo `m` whose exponent is the number of the lowest `bits` bits of `e`. -/
def powBits (m : Nat) : Nat → Nat → Nat → Nat
  | 0, _, _ => 1 % m
  | bits + 1, b, e =>
    let half := powBits m bits (b * b % m) (e / 2)
    if e % 2 = 1 then b * half % m else half

/-- The power `b ^ e` modulo `m`. -/
def pow (m b e : Nat) : Nat := powBits m (Nat.log2 e + 1) b e

/-- The inverse of a number modulo a prime. -/
def inverse (p a : Nat) : Nat := pow p a (p - 2)

/-- The difference modulo `m` of two numbers below it. -/
def sub (m a b : Nat) : Nat := (a + m - b) % m

end Modular
end Gatehouse
