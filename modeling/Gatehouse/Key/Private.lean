import Gatehouse.Key.Public
/-!
# Private keys

RSA keys and keys of the two smaller curves are only unwrapped when they are read and are parsed at every signature,
so a defect shows as a failure to sign.  A P-521 key is read whole, from either of the two wrappings in use.
-/
namespace Gatehouse

/-- A private key for an algorithm. -/
inductive PrivateKey where
  | rsa (hash : Digest.Hash) (der : List UInt8)
  | ec (curve : Curve) (hash : Digest.Hash) (der : List UInt8)
  | p521 (secret : Nat)
  deriving DecidableEq, Repr

namespace PrivateKey

/-- A number of a curve's private key. -/
def isSecret (c : Curve) (n : Nat) : Bool := 0 < n && n < c.order

/-! ## Elliptic-curve keys, strictly -/

/-- The content of the next element if it has a tag, and what follows it. -/
def optional? (tag : UInt8) (i : List UInt8) : Option (Option (List UInt8) × List UInt8) :=
  match i with
  | b :: _ =>
    if b = tag then (Der.Strict.content? tag i).map fun (content, rest) => (some content, rest) else some (none, i)
  | [] => some (none, [])

/-- The object identifier of a curve as an element. -/
def curveElement (c : Curve) : List UInt8 :=
  0x06 :: UInt8.ofNat c.identifier.length :: c.identifier

/-- The wrapped key of a version 0 wrapping for a curve; attributes are passed over. -/
def unwrap? (c : Curve) (der : List UInt8) : Option (List UInt8) := do
  let body ← Der.Strict.whole? 0x30 der
  let (version, body) ← Der.Strict.content? 0x02 body
  let (identifier, body) ← Der.Strict.content? 0x30 body
  let (key, body) ← Der.Strict.content? 0x04 body
  let (_, body) ← optional? 0xA0 body
  if version = [0] && identifier = PublicKey.ecIdentifier c && body.isEmpty then some key else none

/-- The private number of a wrapped key with its public key, which must belong to it. -/
def pairedSecret? (c : Curve) (key : List UInt8) : Option Nat := do
  let body ← Der.Strict.whole? 0x30 key
  let (version, body) ← Der.Strict.content? 0x02 body
  let (secret, body) ← Der.Strict.content? 0x04 body
  let (parameters, body) ← optional? 0xA0 body
  let bits ← (Der.Strict.whole? 0xA1 body).bind (Der.Strict.whole? 0x03)
  let n := Digest.ofBytes secret
  if version = [1] && secret.length = c.size && isSecret c n && parameters.all (· == curveElement c) then
    let point ← c.multiple? n
    if bits = 0x00 :: c.uncompressed point then some n else none
  else none

/-- The private number of a key for one of the smaller curves. -/
def ecSecret? (c : Curve) (der : List UInt8) : Option Nat := (unwrap? c der).bind (pairedSecret? c)

/-! ## P-521 keys -/

/-- Whether bytes are the public key of a private number, in compressed or uncompressed form. -/
def isPublicOf (c : Curve) (n : Nat) (bits : List UInt8) : Bool :=
  match bits, c.multiple? n with
  | 0x00 :: bytes, some point =>
    bytes == c.uncompressed point ||
      bytes == (if point.y % 2 = 0 then 0x02 else 0x03) :: Digest.toBytes c.size point.x
  | _, _ => false

/-- The private number of a bare key; curve and public key may be left out but not be wrong. -/
def bareSecret? (c : Curve) (key : List UInt8) : Option Nat := do
  let body ← Der.Strict.whole? 0x30 key
  let (version, body) ← Der.Strict.content? 0x02 body
  let (secret, body) ← Der.Strict.content? 0x04 body
  let (parameters, body) ← optional? 0xA0 body
  let (publicKey, body) ← optional? 0xA1 body
  let n := Digest.ofBytes secret
  let publicFits := match publicKey with
    | none => true
    | some content =>
      match Der.Strict.whole? 0x03 content with
      | some bits => isPublicOf c n bits
      | none => false
  if version = [1] && 24 ≤ secret.length && secret.length ≤ c.size && isSecret c n &&
      parameters.all (· == curveElement c) && publicFits && body.isEmpty then some n
  else none

/-- The extensions behind a wrapped key: any elements whose tags are context-specific and constructed. -/
def areExtensions (fuel : Nat) (i : List UInt8) : Bool :=
  match fuel, i with
  | _, [] => true
  | 0, _ => false
  | fuel + 1, b :: rest =>
    (0xA0 ≤ b && b < 0xBF) &&
      match Der.Strict.content? b (b :: rest) with
      | some (_, rest) => areExtensions fuel rest
      | none => false

/-- The private number of a wrapped P-521 key. -/
def wrappedSecret? (c : Curve) (der : List UInt8) : Option Nat := do
  let body ← Der.Strict.whole? 0x30 der
  let (version, body) ← Der.Strict.content? 0x02 body
  let (identifier, body) ← Der.Strict.content? 0x30 body
  let (key, body) ← Der.Strict.content? 0x04 body
  if version = [0] && identifier = PublicKey.ecIdentifier c && areExtensions body.length body then bareSecret? c key
  else none

/-- The private number of a P-521 key text. -/
def secret521? (text : List Char) : Option Nat :=
  let text := Text.trimChars text
  match (Pem.only? "PRIVATE KEY".toList text).bind (wrappedSecret? .p521) with
  | some n => some n
  | none => (Pem.only? "EC PRIVATE KEY".toList text).bind (bareSecret? .p521)

/-! ## Reading and signing -/

/-- The key of a PEM text. -/
def ofPem (algorithm : Algorithm) (text : List Char) : Except Key.Fault PrivateKey :=
  match algorithm.scheme with
  | .rsa => (Key.privateContent .rsa text).map (.rsa algorithm.hash)
  | .ecdsa .p521 =>
    match secret521? text with
    | some n => .ok (.p521 n)
    | none => .error .notPrivate521
  | .ecdsa c => (Key.privateContent .ec text).map (.ec c algorithm.hash)

/-- An elliptic-curve signature, if the key can be used. -/
def given : Option (List UInt8) → Except Key.Fault (List UInt8)
  | some signature => .ok signature
  | none => .error .unusable

/-- The bytes of a signature. -/
def signBytes (k : PrivateKey) (message : List UInt8) : Except Key.Fault (List UInt8) :=
  match k with
  | .rsa hash der =>
    match Rsa.sign hash der message with
    | .ok signature => .ok signature
    | .error .invalidKey => .error .rsaInvalid
    | .error .failedSigning => .error .rsaFailed
  | .ec c hash der => given ((ecSecret? c der).bind fun n => Ecdsa.sign? c hash n message)
  | .p521 n => given (Ecdsa.sign? .p521 .sha512 n message)

/-- The text of a signature over the text of a message. -/
def sign (k : PrivateKey) (message : List Char) : Except Key.Fault (List Char) :=
  (k.signBytes (Text.utf8 (String.ofList message))).map (Base64.encode .urlSafe)

end PrivateKey
end Gatehouse
