import Gatehouse.Json.Shape
import Gatehouse.Key.Normal
/-!
# Records of registered identities

A record gives an identity its public key, in normal form, and an access level.  Here are also the errors that every
registry answers with, and the checks that an identity and a key pass before they are stored.
-/
namespace Gatehouse

/-- A registered identity. -/
structure KeyRecord where
  identity : String
  publicKey : String
  accessLevel : Nat
  deriving DecidableEq, Repr, Inhabited

/-- Why a registry does not do what it is asked. -/
inductive RegistryError where
  /-- A bad identity or key, or one that is registered already or not at all. -/
  | invalidInput (reason : String)
  | notImplemented
  /-- The registry itself is in trouble. -/
  | backend (reason : String)
  | timeout
  deriving DecidableEq, Repr

namespace RegistryError

def message : RegistryError → String
  | invalidInput reason => "invalid input: " ++ reason
  | notImplemented => "method not implemented"
  | backend reason => "registry backend error: " ++ reason
  | timeout => "registry backend timed out"

/-- Whether the registry itself is in trouble, rather than the request. -/
def isBackendFailure : RegistryError → Bool
  | backend _ => true
  | timeout => true
  | _ => false

end RegistryError

namespace KeyRecord

/-- The record's fields as JSON, in their order. -/
def toJson (r : KeyRecord) : Json :=
  .object [("identity", .text r.identity), ("publicKey", .text r.publicKey), ("accessLevel", .int r.accessLevel)]

/-- The shape of a record. -/
def shape : Json.Record KeyRecord where
  name := "KeyRecord"
  blank := ⟨"", "", 0⟩
  fields := [
    Json.field "identity" .required Json.string fun v r => { r with identity := v },
    Json.field "publicKey" .required Json.string fun v r => { r with publicKey := v },
    Json.field "accessLevel" .required (Json.natural .u32) fun v r => { r with accessLevel := v }]

/-- The longest identity, in bytes. -/
def maxIdentityLength : Nat := 254

/-- Whether a text is free of blanks and control characters. -/
def isPlain (s : String) : Bool :=
  s.toList.all fun c => !(Text.isBlank c || Text.isControl c)

/-- An identity is not empty, not too long, and plain. -/
def checkIdentity (identity : String) : Except RegistryError Unit :=
  if identity.isEmpty then .error (.invalidInput "identity is required")
  else if maxIdentityLength < identity.utf8ByteSize then
    .error (.invalidInput ("identity exceeds " ++ toString maxIdentityLength ++ " bytes"))
  else if isPlain identity then .ok ()
  else .error (.invalidInput "identity must not contain whitespace or control characters")

/-- The normal form of a key, once its identity and the key itself pass their checks. -/
def checkEntry (family : KeyFamily) (identity publicKey : String) : Except RegistryError String :=
  match checkIdentity identity with
  | .error e => .error e
  | .ok () =>
    match Key.normalize family publicKey.toList with
    | .ok pem => .ok (String.ofList pem)
    | .error fault => .error (.invalidInput fault.message)

end KeyRecord
end Gatehouse
