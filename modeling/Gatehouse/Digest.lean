import Gatehouse.Number.Power
/-!
# SHA-2 digests

SHA-256 on 32-bit words, SHA-384 and SHA-512 on 64-bit words: one compression function, with the rotations of each
width as data.  The constants are not copied but computed from their definition, the fractional bits of the square and
cube roots of the first primes.  A digest also gives the keyed hash HMAC.
-/
namespace Gatehouse
namespace Digest

/-- The digests in use. -/
inductive Hash where
  | sha256
  | sha384
  | sha512
  deriving DecidableEq, Repr

/-! ## Constants -/

/-- The first 80 primes. -/
def primes : List Nat :=
  ((List.range 410).filter fun n => 2 ≤ n && (List.range n).all fun d => d < 2 || n % d ≠ 0).take 80

/-- The greatest `r` below `2 ^ bits` whose power `r ^ k` does not exceed `n`. -/
def rootBelow (k n : Nat) : Nat → Nat → Nat
  | 0, r => r
  | bits + 1, r => rootBelow k n bits (if (r + 2 ^ bits) ^ k ≤ n then r + 2 ^ bits else r)

/-- The first `w` fractional bits of the `k`-th root of a small number. -/
def rootBits (w k p : Nat) : BitVec w :=
  BitVec.ofNat w (rootBelow k (p * 2 ^ (k * w)) (w + 5) 0)

/-! ## Compression -/

/-- What differs between the word widths: by how much the four mixing functions rotate (the last amount of a small one
is a shift). -/
structure Mixing (w : Nat) where
  bigA : Nat × Nat × Nat
  bigE : Nat × Nat × Nat
  smallOld : Nat × Nat × Nat
  smallNew : Nat × Nat × Nat

def mixing32 : Mixing 32 :=
  ⟨(2, 13, 22), (6, 11, 25), (7, 18, 3), (17, 19, 10)⟩

def mixing64 : Mixing 64 :=
  ⟨(28, 34, 39), (14, 18, 41), (1, 8, 7), (19, 61, 6)⟩

/-- The eight words of a state. -/
structure State (w : Nat) where
  a : BitVec w
  b : BitVec w
  c : BitVec w
  d : BitVec w
  e : BitVec w
  f : BitVec w
  g : BitVec w
  h : BitVec w
  deriving DecidableEq

variable {w : Nat}

def big (r : Nat × Nat × Nat) (x : BitVec w) : BitVec w :=
  x.rotateRight r.1 ^^^ x.rotateRight r.2.1 ^^^ x.rotateRight r.2.2

def small (r : Nat × Nat × Nat) (x : BitVec w) : BitVec w :=
  x.rotateRight r.1 ^^^ x.rotateRight r.2.1 ^^^ x >>> r.2.2

/-- One round with a constant and a word of the schedule. -/
def State.round (m : Mixing w) (s : State w) (k word : BitVec w) : State w :=
  let choice := (s.e &&& s.f) ^^^ (~~~s.e &&& s.g)
  let majority := (s.a &&& s.b) ^^^ (s.a &&& s.c) ^^^ (s.b &&& s.c)
  let t := s.h + big m.bigE s.e + choice + k + word
  ⟨t + big m.bigA s.a + majority, s.a, s.b, s.c, s.d + t, s.e, s.f, s.g⟩

/-- The word that follows sixteen words of the schedule. -/
def nextWord (m : Mixing w) (window : List (BitVec w)) : BitVec w :=
  small m.smallNew (window.getD 14 0) + window.getD 9 0 + small m.smallOld (window.getD 1 0) + window.getD 0 0

/-- The rounds of a block, one for each constant, over the sliding window of the schedule. -/
def rounds (m : Mixing w) : List (BitVec w) → List (BitVec w) → State w → State w
  | [], _, s => s
  | _ :: _, [], s => s
  | k :: ks, word :: rest, s =>
    rounds m ks (rest ++ [nextWord m (word :: rest)]) (s.round m k word)

/-- A state with a block taken in. -/
def State.compress (m : Mixing w) (constants : List (BitVec w)) (s : State w) (block : List (BitVec w)) : State w :=
  let t := rounds m constants block s
  ⟨s.a + t.a, s.b + t.b, s.c + t.c, s.d + t.d, s.e + t.e, s.f + t.f, s.g + t.g, s.h + t.h⟩

/-! ## Messages -/

/-- The number that big-endian bytes write. -/
def ofBytes (bytes : List UInt8) : Nat := bytes.foldl (fun n b => n * 256 + b.toNat) 0

/-- The last `count` bytes of a number, big-endian. -/
def toBytes (count n : Nat) : List UInt8 :=
  (List.range count).map fun i => UInt8.ofNat (n / 256 ^ (count - 1 - i))

/-- Pieces of a given length; `fuel` bounds their number. -/
def pieces (length : Nat) : Nat → List α → List (List α)
  | 0, _ => []
  | _ + 1, [] => []
  | fuel + 1, x :: xs => (x :: xs).take length :: pieces length fuel ((x :: xs).drop length)

/-- A message filled up to whole blocks: a one bit, zeros, and its length in bits in the last two words. -/
def padded (w : Nat) (message : List UInt8) : List UInt8 :=
  let block := 2 * w
  let used := message.length + 1 + w / 4
  message ++ 0x80 :: (List.replicate ((block - used % block) % block) 0 ++ toBytes (w / 4) (8 * message.length))

/-- The words of a message's blocks. -/
def blocks (w : Nat) (message : List UInt8) : List (List (BitVec w)) :=
  let bytes := padded w message
  (pieces (2 * w) bytes.length bytes).map fun block =>
    (pieces (w / 8) 16 block).map fun word => BitVec.ofNat w (ofBytes word)

/-- The bytes of a state. -/
def State.bytes (s : State w) : List UInt8 :=
  [s.a, s.b, s.c, s.d, s.e, s.f, s.g, s.h].flatMap fun x => toBytes (w / 8) x.toNat

/-- The state that a digest starts with, from eight primes. -/
def initial (w : Nat) (ps : List Nat) : State w :=
  let word (i : Nat) : BitVec w := rootBits w 2 (ps.getD i 0)
  ⟨word 0, word 1, word 2, word 3, word 4, word 5, word 6, word 7⟩

def constants32 : List (BitVec 32) := (primes.take 64).map (rootBits 32 3)

def constants64 : List (BitVec 64) := primes.map (rootBits 64 3)

def initial256 : State 32 := initial 32 primes

def initial384 : State 64 := initial 64 (primes.drop 8)

def initial512 : State 64 := initial 64 primes

namespace Hash

/-- The length of a digest in bytes. -/
def size : Hash → Nat
  | sha256 => 32
  | sha384 => 48
  | sha512 => 64

/-- The digest of a message. -/
def digest (hash : Hash) (message : List UInt8) : List UInt8 :=
  match hash with
  | sha256 => ((blocks 32 message).foldl (State.compress mixing32 constants32) initial256).bytes
  | sha384 => ((blocks 64 message).foldl (State.compress mixing64 constants64) initial384).bytes.take 48
  | sha512 => ((blocks 64 message).foldl (State.compress mixing64 constants64) initial512).bytes

/-- The length of a block in bytes. -/
def blockSize : Hash → Nat
  | sha256 => 64
  | _ => 128

/-- The keyed hash of a message (HMAC).  A key that is longer than a block is digested first. -/
def keyed (hash : Hash) (key message : List UInt8) : List UInt8 :=
  let short := if hash.blockSize < key.length then hash.digest key else key
  let full := short ++ List.replicate (hash.blockSize - short.length) 0
  hash.digest (full.map (· ^^^ 0x5C) ++ hash.digest (full.map (· ^^^ 0x36) ++ message))

end Hash
end Digest
end Gatehouse
