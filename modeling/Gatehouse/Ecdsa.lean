import Gatehouse.Curve
/-!
# ECDSA signatures

A signature is the pair of numbers r and s below the curve's order, written with fixed lengths one after the other.
The secret number of a signature is derived from the key and the message, so signing has one result.
-/
namespace Gatehouse
namespace Ecdsa

open Digest (Hash)

/-- The number of a message's digest. -/
def digestNumber (hash : Hash) (message : List UInt8) : Nat := Digest.ofBytes (hash.digest message)

/-- Whether a point accepts the numbers of a signature. -/
def accepts (c : Curve) (hash : Hash) (key : Curve.Point) (message : List UInt8) (r s : Nat) : Bool :=
  let n := c.order
  if r = 0 || n ≤ r || s = 0 || n ≤ s then false
  else
    let w := Modular.inverse n s
    match c.combined? (digestNumber hash message * w % n) key (r * w % n) with
    | some p => p.x % n = r
    | none => false

/-- Whether a point accepts a signature. -/
def verify (c : Curve) (hash : Hash) (key : Curve.Point) (message signature : List UInt8) : Bool :=
  signature.length = 2 * c.size &&
    accepts c hash key message (Digest.ofBytes (signature.take c.size)) (Digest.ofBytes (signature.drop c.size))

/-! ## Signing -/

/-- The state that secret numbers are drawn from: a key and a value of the keyed hash. -/
structure Drawing where
  key : List UInt8
  value : List UInt8

/-- A state with data mixed in. -/
def Drawing.mix (hash : Hash) (d : Drawing) (data : List UInt8) : Drawing :=
  let key := hash.keyed d.key (d.value ++ data)
  ⟨key, hash.keyed key d.value⟩

/-- The state for a private number and a message. -/
def Drawing.start (c : Curve) (hash : Hash) (secret : Nat) (message : List UInt8) : Drawing :=
  let seed := Digest.toBytes c.size secret ++ Digest.toBytes c.size (digestNumber hash message % c.order)
  let d : Drawing := ⟨List.replicate hash.size 0, List.replicate hash.size 1⟩
  (d.mix hash (0 :: seed)).mix hash (1 :: seed)

/-- As many bits as the order has, from one or two values of the keyed hash. -/
def Drawing.number (c : Curve) (hash : Hash) (d : Drawing) : Nat × Drawing :=
  let bits := Nat.log2 c.order + 1
  let v := hash.keyed d.key d.value
  if bits ≤ 8 * hash.size then (Digest.ofBytes v / 2 ^ (8 * hash.size - bits), ⟨d.key, v⟩)
  else
    let u := hash.keyed d.key v
    (Digest.ofBytes (v ++ u) / 2 ^ (16 * hash.size - bits), ⟨d.key, u⟩)

/-- The signature of a message with a given secret number, if the number serves. -/
def signOnce? (c : Curve) (hash : Hash) (secret : Nat) (message : List UInt8) (k : Nat) : Option (Nat × Nat) := do
  let n := c.order
  if k = 0 || n ≤ k then none
  else
    let p ← c.multiple? k
    let r := p.x % n
    let s := Modular.inverse n k * (digestNumber hash message + r * secret) % n
    if r = 0 || s = 0 then none else some (r, s)

/-- The signature of a message with the first number drawn that serves, among a bounded count. -/
def signWith? (c : Curve) (hash : Hash) (secret : Nat) (message : List UInt8) : Nat → Drawing → Option (Nat × Nat)
  | 0, _ => none
  | tries + 1, d =>
    let (k, d) := d.number c hash
    match signOnce? c hash secret message k with
    | some pair => some pair
    | none => signWith? c hash secret message tries (d.mix hash [0])

/-- The signature of a message by a private number. -/
def sign? (c : Curve) (hash : Hash) (secret : Nat) (message : List UInt8) : Option (List UInt8) :=
  (signWith? c hash secret message 64 (Drawing.start c hash secret message)).map fun (r, s) =>
    Digest.toBytes c.size r ++ Digest.toBytes c.size s

end Ecdsa
end Gatehouse
