import Gatehouse.Ecdsa
import Gatehouse.Key.Content
import Gatehouse.Rsa
/-!
# Public keys

A public key is bound to the algorithm that it checks signatures of.  For P-521 the point is checked when the key is
read; for every other algorithm a key that cannot be used is kept and accepts no signature.
-/
namespace Gatehouse

/-- A public key for an algorithm: an RSA key in DER, or a point. -/
structure PublicKey where
  algorithm : Algorithm
  content : List UInt8
  deriving DecidableEq, Repr

namespace PublicKey

/-- The algorithm identifier of an elliptic-curve key: the kind and the curve. -/
def ecIdentifier (c : Curve) : List UInt8 :=
  [0x06, 0x07, 0x2A, 0x86, 0x48, 0xCE, 0x3D, 0x02, 0x01, 0x06, UInt8.ofNat c.identifier.length] ++ c.identifier

/-- The point of a public key in its wrapping, read strictly. -/
def wrappedPoint? (c : Curve) (der : List UInt8) : Option Curve.Point := do
  let body ← Der.Strict.whole? 0x30 der
  let (identifier, body) ← Der.Strict.content? 0x30 body
  let bits ← Der.Strict.whole? 0x03 body
  if identifier ≠ ecIdentifier c then none
  else match bits with
    | 0x00 :: bytes => c.ofBytes? bytes
    | _ => none

/-- The key of a PEM text. -/
def ofPem (algorithm : Algorithm) (text : List Char) : Except Key.Fault PublicKey :=
  match algorithm with
  | .es512 =>
    match (Pem.only? "PUBLIC KEY".toList (Text.trimChars text)).bind (wrappedPoint? .p521) with
    | some point => .ok ⟨algorithm, Curve.p521.uncompressed point⟩
    | none => .error .notPublic521
  | _ => (Key.publicContent algorithm.family text).map fun content => ⟨algorithm, content⟩

/-- Whether the key accepts the bytes of a signature. -/
def acceptsBytes (k : PublicKey) (message signature : List UInt8) : Bool :=
  match k.algorithm.scheme with
  | .rsa => Rsa.verify k.algorithm.hash k.content message signature
  | .ecdsa c =>
    match c.ofUncompressed? k.content with
    | some point => Ecdsa.verify c k.algorithm.hash point message signature
    | none => false

/-- Whether the key accepts the text of a signature over the text of a message. -/
def accepts (k : PublicKey) (message signature : List Char) : Bool :=
  match Base64.decode? .urlSafe signature with
  | some bytes => k.acceptsBytes (Text.utf8 (String.ofList message)) bytes
  | none => false

end PublicKey

/-- Whether a token's signature, the text after its last dot, is accepted over the text before it. -/
def acceptsToken (accepts : List Char → List Char → Bool) (token : List Char) : Bool :=
  match Text.splitLast? '.' token with
  | some (message, signature) => accepts message signature
  | none => false

end Gatehouse
