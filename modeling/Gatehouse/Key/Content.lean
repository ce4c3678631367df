import Gatehouse.Algorithm
import Gatehouse.Der
import Gatehouse.Pem
/-!
# What a key text holds

The first block of a PEM text says what kind of key it holds: by its label alone for the two RSA labels, otherwise by
the first algorithm that a search through its content names.  Only the kind is looked at here; whether the key itself
is usable shows when it is used.
-/
namespace Gatehouse
namespace Key

/-- Why a text gives no key. -/
inductive Fault where
  /-- No block, no well-formed content, or a key of another kind. -/
  | format
  /-- A key that cannot be found in its wrapping or cannot be used. -/
  | unusable
  | notPublic521
  | notPrivate521
  | rsaInvalid
  | rsaFailed
  deriving DecidableEq, Repr

def Fault.message : Fault → String
  | format => "InvalidKeyFormat"
  | unusable => "InvalidEcdsaKey"
  | notPublic521 => "not a P-521 public key"
  | notPrivate521 => "not a P-521 private key"
  | rsaInvalid => "RSA key invalid"
  | rsaFailed => "RsaFailedSigning"

/-- The kinds of keys that algorithm identifiers name. -/
inductive Kind where
  | rsa
  | ec
  | edwards
  deriving DecidableEq, Repr

/-- The kind that an algorithm identifier names. -/
def Kind.ofArcs? (arcs : List Nat) : Option Kind :=
  if arcs = [1, 2, 840, 10045, 2, 1] then some .ec
  else if arcs = [1, 2, 840, 113549, 1, 1, 1] then some .rsa
  else if arcs = [1, 3, 101, 112] then some .edwards
  else none

/-- The content of a key text: a bare RSA key, whatever it holds, or a key in a wrapping that names its kind. -/
inductive Content where
  | bareRsa (der : List UInt8)
  | wrapped (kind : Kind) (isPrivate : Bool) (der : List UInt8) (trees : List Der.Tree)
  deriving Repr

/-- The content of the first block of a text. -/
def content (text : List Char) : Except Fault Content :=
  match Pem.first? text with
  | none => .error .format
  | some block =>
    match Der.trees? block.content with
    | none => .error .format
    | some trees =>
      let label := String.ofList block.label
      if label = "RSA PRIVATE KEY" || label = "RSA PUBLIC KEY" then .ok (.bareRsa block.content)
      else if label = "PRIVATE KEY" || label = "PUBLIC KEY" || label = "CERTIFICATE" then
        let kind := Der.Tree.findIn? (fun
          | .identifier arcs => Kind.ofArcs? arcs
          | _ => none) trees
        match kind with
        | some kind => .ok (.wrapped kind (label = "PRIVATE KEY") block.content trees)
        | none => .error .format
      else .error .format

/-- The first bit or octet string of a wrapping. -/
def inner (trees : List Der.Tree) : Except Fault (List UInt8) :=
  match Der.firstString? trees with
  | some bytes => .ok bytes
  | none => .error .unusable

namespace Content

/-- The RSA key, private or public, that a content holds. -/
def rsaKey : Content → Except Fault (List UInt8)
  | bareRsa der => .ok der
  | wrapped .rsa _ _ trees => inner trees
  | wrapped _ _ _ _ => .error .format

/-- The point of a public elliptic-curve key. -/
def ecPoint : Content → Except Fault (List UInt8)
  | wrapped .ec false _ trees => inner trees
  | _ => .error .format

/-- The whole wrapping of a private elliptic-curve key. -/
def ecPrivate : Content → Except Fault (List UInt8)
  | wrapped .ec true der _ => .ok der
  | _ => .error .format

end Content

/-- What a text holds as a public key of a family. -/
def publicContent (family : KeyFamily) (text : List Char) : Except Fault (List UInt8) :=
  (content text).bind fun c =>
    match family with
    | .rsa => c.rsaKey
    | .ec => c.ecPoint

/-- What a text holds as a private key of a family. -/
def privateContent (family : KeyFamily) (text : List Char) : Except Fault (List UInt8) :=
  (content text).bind fun c =>
    match family with
    | .rsa => c.rsaKey
    | .ec => c.ecPrivate

end Key
end Gatehouse
