import Gatehouse.Text.Blank
/-!
# Base64 — bytes as text

Both alphabets of the format, in one definition each way.  `encode` writes no padding; `encodePadded` adds it.
Reading is canonical: `decode?` accepts exactly what `encode` writes (no padding, unused bits zero), and
`decodePadded?` exactly what `encodePadded` writes.
-/
namespace Gatehouse
namespace Base64

/-- The standard alphabet ends with `+` and `/`, the alphabet for addresses with `-` and `_`. -/
inductive Alphabet where
  | standard
  | urlSafe
  deriving DecidableEq, Repr

/-- The character of a 6-bit digit. -/
def digit (a : Alphabet) (n : Nat) : Char :=
  if n < 26 then Char.ofNat (n + 65)
  else if n < 52 then Char.ofNat (n + 71)
  else if n < 62 then Char.ofNat (n - 4)
  else match a with
    | .standard => if n = 62 then '+' else '/'
    | .urlSafe => if n = 62 then '-' else '_'

/-- The 6-bit digit that a character stands for. -/
def value? (a : Alphabet) (c : Char) : Option Nat :=
  let n := c.toNat
  if 65 ≤ n && n ≤ 90 then some (n - 65)
  else if 97 ≤ n && n ≤ 122 then some (n - 71)
  else if 48 ≤ n && n ≤ 57 then some (n + 4)
  else match a with
    | .standard => if c = '+' then some 62 else if c = '/' then some 63 else none
    | .urlSafe => if c = '-' then some 62 else if c = '_' then some 63 else none

/-! ## Writing -/

/-- The 6-bit digits of a list of bytes: four for three bytes, two for a last one, three for a last pair. -/
def digits : List UInt8 → List Nat
  | [] => []
  | [x] => [x.toNat / 4, x.toNat % 4 * 16]
  | [x, y] => [x.toNat / 4, x.toNat % 4 * 16 + y.toNat / 16, y.toNat % 16 * 4]
  | x :: y :: z :: rest =>
    x.toNat / 4 :: (x.toNat % 4 * 16 + y.toNat / 16) :: (y.toNat % 16 * 4 + z.toNat / 64) :: z.toNat % 64 ::
      digits rest

/-- The text of a list of bytes, without padding. -/
def encode (a : Alphabet) (bytes : List UInt8) : List Char :=
  (digits bytes).map (digit a)

/-- How many `=` fill up a text of a given length. -/
def padding (length : Nat) : Nat :=
  (4 - length % 4) % 4

/-- The text of a list of bytes, filled up to a multiple of four characters. -/
def encodePadded (a : Alphabet) (bytes : List UInt8) : List Char :=
  let text := encode a bytes
  text ++ List.replicate (padding text.length) '='

/-! ## Reading -/

/-- The bytes of a list of 6-bit digits.  A lone last digit holds no byte, and bits beyond the last byte are zero. -/
def bytes? : List Nat → Option (List UInt8)
  | [] => some []
  | [_] => none
  | [p, q] => if q % 16 = 0 then some [UInt8.ofNat (p * 4 + q / 16)] else none
  | [p, q, r] =>
    if r % 4 = 0 then some [UInt8.ofNat (p * 4 + q / 16), UInt8.ofNat (q % 16 * 16 + r / 4)] else none
  | p :: q :: r :: s :: rest =>
    (bytes? rest).map fun bs =>
      UInt8.ofNat (p * 4 + q / 16) :: UInt8.ofNat (q % 16 * 16 + r / 4) :: UInt8.ofNat (r % 4 * 64 + s) :: bs

/-- The bytes that an unpadded text stands for. -/
def decode? (a : Alphabet) (text : List Char) : Option (List UInt8) := do
  bytes? (← text.mapM (value? a))

/-- The bytes that a padded text stands for. -/
def decodePadded? (a : Alphabet) (text : List Char) : Option (List UInt8) :=
  let body := Text.dropEnd (· = '=') text
  if text.length = body.length + padding body.length then decode? a body else none

end Base64
end Gatehouse
