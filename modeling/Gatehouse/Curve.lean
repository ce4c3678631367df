import Gatehouse.Digest
import Gatehouse.Modular
/-!
# The curves P-256, P-384 and P-521

Points of a curve y² = x³ - 3x + b over a prime field.  Sums are computed in Jacobian coordinates, which need no
inverse: (x, y, z) stands for (x/z², y/z³), and z = 0 for the point at infinity.
-/
namespace Gatehouse

/-- The curves in use. -/
inductive Curve where
  | p256
  | p384
  | p521
  deriving DecidableEq, Repr

namespace Curve

/-- The prime of the field. -/
def prime : Curve → Nat
  | p256 => 2 ^ 256 - 2 ^ 224 + 2 ^ 192 + 2 ^ 96 - 1
  | p384 => 2 ^ 384 - 2 ^ 128 - 2 ^ 96 + 2 ^ 32 - 1
  | p521 => 2 ^ 521 - 1

/-- The count of points, a prime. -/
def order : Curve → Nat
  | p256 => 0xffffffff00000000ffffffffffffffffbce6faada7179e84f3b9cac2fc632551
  | p384 => 0xffffffffffffffffffffffffffffffffffffffffffffffffc7634d81f4372ddf581a0db248b0a77aecec196accc52973
  | p521 =>
    0x01fffffffffffffffffffffffffffffffffffffffffffffffffffffffffffffffffa51868783bf2f966b7fcc0148f709a5d03bb5c9b8899c47aebb6fb71e91386409

/-- The constant of the curve's equation. -/
def constant : Curve → Nat
  | p256 => 0x5ac635d8aa3a93e7b3ebbd55769886bc651d06b0cc53b0f63bce3c3e27d2604b
  | p384 => 0xb3312fa7e23ee7e4988e056be3f82d19181d9c6efe8141120314088f5013875ac656398d8a2ed19d2a85c8edd3ec2aef
  | p521 =>
    0x0051953eb9618e1c9a1f929a21a0b68540eea2da725b99b315f3b8b489918ef109e156193951ec7e937b1652c0bd3bb1bf073573df883d2c34f1ef451fd46b503f00

/-- The bytes of a coordinate. -/
def size : Curve → Nat
  | p256 => 32
  | p384 => 48
  | p521 => 66

/-- The arcs of the curve's object identifier, as its bytes. -/
def identifier : Curve → List UInt8
  | p256 => [0x2A, 0x86, 0x48, 0xCE, 0x3D, 0x03, 0x01, 0x07]
  | p384 => [0x2B, 0x81, 0x04, 0x00, 0x22]
  | p521 => [0x2B, 0x81, 0x04, 0x00, 0x23]

/-- A point other than the one at infinity. -/
structure Point where
  x : Nat
  y : Nat
  deriving DecidableEq, Repr, Inhabited

/-- The generator. -/
def generator : Curve → Point
  | p256 =>
    ⟨0x6b17d1f2e12c4247f8bce6e563a440f277037d812deb33a0f4a13945d898c296,
      0x4fe342e2fe1a7f9b8ee7eb4a7c0f9e162bce33576b315ececbb6406837bf51f5⟩
  | p384 =>
    ⟨0xaa87ca22be8b05378eb1c71ef320ad746e1d3b628ba79b9859f741e082542a385502f25dbf55296c3a545e3872760ab7,
      0x3617de4a96262c6f5d9e98bf9292dc29f8f41dbd289a147ce9da3113b5f0b8c00a60b1ce1d7e819d7a431d7c90ea0e5f⟩
  | p521 =>
    ⟨0x00c6858e06b70404e9cd9e3ecb662395b4429c648139053fb521f828af606b4d3dbaa14b5e77efe75928fe1dc127a2ffa8de3348b3c1856a429bf97e7e31c2e5bd66,
      0x011839296a789a3bc0045c8a5fb42c7d1bd998f54449579b446817afbd17273e662c97ee72995ef42640c550b9013fad0761353c7086a272c24088be94769fd16650⟩

/-- The right side of the curve's equation. -/
def cubic (c : Curve) (x : Nat) : Nat :=
  (x * x % c.prime * x + (c.prime - 3) * x + c.constant) % c.prime

/-- Whether a pair of coordinates is a point of the curve. -/
def holds (c : Curve) (p : Point) : Bool :=
  p.x < c.prime && p.y < c.prime && p.y * p.y % c.prime = c.cubic p.x

/-! ## Sums -/

/-- A point in Jacobian coordinates. -/
structure Jacobian where
  x : Nat
  y : Nat
  z : Nat
  deriving DecidableEq, Repr, Inhabited

def infinity : Jacobian := ⟨1, 1, 0⟩

def Point.jacobian (p : Point) : Jacobian := ⟨p.x, p.y, 1⟩

/-- The double of a point. -/
def double (c : Curve) (a : Jacobian) : Jacobian :=
  let p := c.prime
  if a.z = 0 || a.y = 0 then infinity
  else
    let zz := a.z * a.z % p
    let yy := a.y * a.y % p
    let s := 4 * a.x * yy % p
    let m := 3 * (Modular.sub p a.x zz) * ((a.x + zz) % p) % p
    let x := Modular.sub p (m * m % p) (2 * s % p)
    ⟨x, Modular.sub p (m * Modular.sub p s x % p) (8 * yy * yy % p), 2 * a.y * a.z % p⟩

/-- The sum of two points. -/
def add (c : Curve) (a b : Jacobian) : Jacobian :=
  let p := c.prime
  if a.z = 0 then b
  else if b.z = 0 then a
  else
    let azz := a.z * a.z % p
    let bzz := b.z * b.z % p
    let u := a.x * bzz % p
    let v := b.x * azz % p
    let s := a.y * bzz % p * b.z % p
    let t := b.y * azz % p * a.z % p
    let h := Modular.sub p v u
    let r := Modular.sub p t s
    if h = 0 then if r = 0 then c.double a else infinity
    else
      let hh := h * h % p
      let hhh := hh * h % p
      let uhh := u * hh % p
      let x := Modular.sub p (Modular.sub p (r * r % p) hhh) (2 * uhh % p)
      ⟨x, Modular.sub p (r * Modular.sub p uhh x % p) (s * hhh % p), a.z * b.z % p * h % p⟩

/-- The sum `m · a + n · b`, by the top `bits` bits of both numbers. -/
def combine (c : Curve) (a b ab : Jacobian) (m n : Nat) : Nat → Jacobian
  | 0 => infinity
  | bits + 1 =>
    let high := c.combine a b ab (m / 2) (n / 2) bits
    let twice := c.double high
    if m % 2 = 1 then if n % 2 = 1 then c.add twice ab else c.add twice a
    else if n % 2 = 1 then c.add twice b
    else twice

/-- The point of Jacobian coordinates, unless it is at infinity. -/
def point? (c : Curve) (a : Jacobian) : Option Point :=
  if a.z = 0 then none
  else
    let p := c.prime
    let i := Modular.inverse p a.z
    let ii := i * i % p
    some ⟨a.x * ii % p, a.y * ii % p * i % p⟩

/-- The sum `m · generator + n · q`. -/
def combined? (c : Curve) (m : Nat) (q : Point) (n : Nat) : Option Point :=
  let a := c.generator.jacobian
  let b := q.jacobian
  c.point? (c.combine a b (c.add a b) m n (8 * c.size))

/-- The multiple of the generator by a number. -/
def multiple? (c : Curve) (m : Nat) : Option Point :=
  c.combined? m c.generator 0

/-! ## Bytes -/

/-- The uncompressed form of a point: the byte 4 and both coordinates. -/
def uncompressed (c : Curve) (p : Point) : List UInt8 :=
  0x04 :: (Digest.toBytes c.size p.x ++ Digest.toBytes c.size p.y)

/-- The point of an uncompressed form. -/
def ofUncompressed? (c : Curve) : List UInt8 → Option Point
  | 0x04 :: rest =>
    if rest.length = 2 * c.size then
      let p : Point := ⟨Digest.ofBytes (rest.take c.size), Digest.ofBytes (rest.drop c.size)⟩
      if c.holds p then some p else none
    else none
  | _ => none

/-- The even square root of the right side of the equation, for a prime that leaves 3 modulo 4. -/
def evenRoot? (c : Curve) (x : Nat) : Option Nat :=
  let root := Modular.pow c.prime (c.cubic x) ((c.prime + 1) / 4)
  if x < c.prime && root * root % c.prime = c.cubic x then
    some (if root % 2 = 0 then root else c.prime - root)
  else none

/-- The point of any form: uncompressed, compressed with the parity of y, or compact with the lesser y. -/
def ofBytes? (c : Curve) : List UInt8 → Option Point
  | [] => none
  | tag :: rest =>
    if tag = 0x04 then c.ofUncompressed? (tag :: rest)
    else if rest.length ≠ c.size then none
    else do
      let x := Digest.ofBytes rest
      let y ← c.evenRoot? x
      let other := (c.prime - y) % c.prime
      if tag = 0x02 then some ⟨x, y⟩
      else if tag = 0x03 then some ⟨x, other⟩
      else if tag = 0x05 then some ⟨x, min y other⟩
      else none

end Curve
end Gatehouse
