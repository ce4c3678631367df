import Gatehouse.Der
import Gatehouse.Digest
import Gatehouse.Modular
/-!
# RSA signatures (PKCS#1 v1.5)

A signature is the encoded digest of a message raised to the private exponent; it is checked by raising it to the
public exponent and comparing with the encoding, byte for byte.  Keys are read from DER at every use, and only keys of
an accepted size are used.
-/
namespace Gatehouse
namespace Rsa

open Digest (Hash)

/-- A public key: the modulus and the public exponent. -/
structure Public where
  modulus : Nat
  exponent : Nat
  deriving DecidableEq, Repr

/-- The count of bits of a number. -/
def bitLength (n : Nat) : Nat := if n = 0 then 0 else Nat.log2 n + 1

/-- The count of bytes of a number. -/
def byteLength (n : Nat) : Nat := (bitLength n + 7) / 8

/-- Whether a modulus is odd, fills at least 256 bytes and has at most `maxBits` bits. -/
def Public.hasModulusUpTo (maxBits : Nat) (k : Public) : Bool :=
  k.modulus % 2 = 1 && 256 ≤ byteLength k.modulus && bitLength k.modulus ≤ maxBits

/-- Whether the exponent is odd and lies between `least` and 2^33 - 1. -/
def Public.hasExponentFrom (least : Nat) (k : Public) : Bool :=
  k.exponent % 2 = 1 && least ≤ k.exponent && k.exponent < 2 ^ 33

/-- The public key that a DER text is: a sequence of two positive integers. -/
def Public.ofDer? (der : List UInt8) : Option Public := do
  match ← (Der.Strict.whole? 0x30 der).bind (Der.Strict.naturals? 2) with
  | [n, e] => if n = 0 || e = 0 then none else some ⟨n, e⟩
  | _ => none

/-! ## The encoded digest -/

/-- What stands before a digest: the sequence that names its algorithm. -/
def digestHead (hash : Hash) : List UInt8 :=
  let number : UInt8 := match hash with
    | .sha256 => 1
    | .sha384 => 2
    | .sha512 => 3
  let size := UInt8.ofNat hash.size
  [0x30, size + 17, 0x30, 0x0D, 0x06, 0x09, 0x60, 0x86, 0x48, 0x01, 0x65, 0x03, 0x04, 0x02, number, 0x05, 0x00,
    0x04, size]

/-- A message's encoded digest, filled up to a length. -/
def encoded (hash : Hash) (length : Nat) (message : List UInt8) : List UInt8 :=
  let tail := 0x00 :: (digestHead hash ++ hash.digest message)
  0x00 :: 0x01 :: (List.replicate (length - 2 - tail.length) 0xFF ++ tail)

/-- The number of a message's encoded digest. -/
def encodedNumber (hash : Hash) (length : Nat) (message : List UInt8) : Nat :=
  Digest.ofBytes (encoded hash length message)

/-- Whether a key accepts a signature. -/
def Public.accepts (k : Public) (hash : Hash) (message signature : List UInt8) : Bool :=
  let length := byteLength k.modulus
  let s := Digest.ofBytes signature
  signature.length = length && s ≠ 0 && s < k.modulus &&
    Modular.pow k.modulus s k.exponent = encodedNumber hash length message

/-- Whether the key that a DER text is accepts a signature; no key accepts none. -/
def verify (hash : Hash) (der message signature : List UInt8) : Bool :=
  match Public.ofDer? der with
  | some k => k.hasModulusUpTo 8192 && k.hasExponentFrom 3 && k.accepts hash message signature
  | none => false

/-! ## Private keys -/

/-- A private key with the parts for computing modulo each prime. -/
structure Private where
  modulus : Nat
  publicExponent : Nat
  exponent : Nat
  p : Nat
  q : Nat
  exponentP : Nat
  exponentQ : Nat
  inverseQ : Nat
  deriving DecidableEq, Repr

def Private.public (k : Private) : Public := ⟨k.modulus, k.publicExponent⟩

/-- Whether an exponent fits a prime: odd and smaller. -/
def fits (prime exponent : Nat) : Bool := exponent % 2 = 1 && exponent < prime

/-- Whether the parts of a key belong together and have accepted sizes. -/
def Private.isConsistent (k : Private) : Bool :=
  let half := (bitLength k.modulus + 1) / 2
  k.public.hasModulusUpTo 4096 && k.public.hasExponentFrom 65537 &&
    bitLength k.p = half && bitLength k.q = half && half % 512 = 0 && k.p % 2 = 1 && k.q % 2 = 1 &&
    k.p * k.q = k.modulus &&
    half < bitLength k.exponent && k.exponent < k.modulus && k.exponent % 2 = 1 &&
    fits k.p k.exponentP && fits k.q k.exponentQ &&
    k.inverseQ < k.p && k.inverseQ * k.q % k.p = 1

/-- The private key that a DER text is: a sequence of the version 0 and eight integers. -/
def Private.ofDer? (der : List UInt8) : Option Private := do
  match ← (Der.Strict.whole? 0x30 der).bind (Der.Strict.naturals? 9) with
  | [0, n, e, d, p, q, dp, dq, qi] => some ⟨n, e, d, p, q, dp, dq, qi⟩
  | _ => none

/-- The power to the private exponent, from the powers modulo the two primes. -/
def Private.power (k : Private) (base : Nat) : Nat :=
  let a := Modular.pow k.p (base % k.p) k.exponentP
  let b := Modular.pow k.q (base % k.q) k.exponentQ
  b + k.q * (Modular.sub k.p a (b % k.p) * k.inverseQ % k.p)

/-- Why a message cannot be signed. -/
inductive Fault where
  | invalidKey
  | failedSigning
  deriving DecidableEq, Repr

/-- The signature of a message by the key that a DER text is.  A signature that the public half would not accept is
not given out. -/
def sign (hash : Hash) (der message : List UInt8) : Except Fault (List UInt8) :=
  match Private.ofDer? der with
  | none => .error .invalidKey
  | some k =>
    if !k.isConsistent then .error .invalidKey
    else
      let length := byteLength k.modulus
      let signature := Digest.toBytes length (k.power (encodedNumber hash length message))
      if k.public.accepts hash message signature then .ok signature else .error .failedSigning

end Rsa
end Gatehouse
