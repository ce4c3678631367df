import Gatehouse.Key.Content
/-!
# The normal form of stored keys

A public key comes as PEM or as the bare base64 of its DER.  PEM is kept as it is, trimmed and ended by one line feed;
a bare key is wrapped under the first label that makes it a key of the wanted family.
-/
namespace Gatehouse
namespace Key

/-- Why a text has no normal form. -/
inductive NormalFault where
  | empty
  | neither
  | invalidPem (family : KeyFamily) (fault : Fault)
  | invalidBare (family : KeyFamily)
  deriving DecidableEq, Repr

def NormalFault.message : NormalFault → String
  | empty => "public key is required"
  | neither => "public key is neither PEM nor base64 DER"
  | invalidPem family fault => "invalid " ++ family.name ++ " public key: " ++ fault.message
  | invalidBare family => "invalid " ++ family.name ++ " public key"

/-- The labels that a bare key is tried under. -/
def bareLabels : KeyFamily → List (List Char)
  | .rsa => ["PUBLIC KEY".toList, "RSA PUBLIC KEY".toList]
  | .ec => ["PUBLIC KEY".toList]

/-- Whether a text holds a public key of a family. -/
def isPublic (family : KeyFamily) (text : List Char) : Bool := (publicContent family text).isOk

/-- A bare key under the first label that makes it a key of the family. -/
def wrapBare? (family : KeyFamily) (der : List UInt8) : Option (List Char) :=
  ((bareLabels family).map fun label => Pem.write label der).find? (isPublic family)

/-- The normal form of a public key. -/
def normalize (family : KeyFamily) (input : List Char) : Except NormalFault (List Char) :=
  let text := Text.trimChars input
  if text.isEmpty then .error .empty
  else if (Text.dropPrefix? "-----BEGIN".toList text).isSome then
    match publicContent family (text ++ ['\n']) with
    | .ok _ => .ok (text ++ ['\n'])
    | .error fault => .error (.invalidPem family fault)
  else match Base64.decodePadded? .standard (text.filter fun c => !Text.isBlank c) with
    | none => .error .neither
    | some der =>
      match wrapBare? family der with
      | some pem => .ok pem
      | none => .error (.invalidBare family)

end Key
end Gatehouse
