import Gatehouse.Json.Shape
import Gatehouse.Key.Pair
import Gatehouse.Registry.Record
import Gatehouse.Token
/-!
# Sessions

After a login the server signs a session token with its own key.  Its claims repeat the record's identity and access
level and give the session a window of time; `Session.check` accepts a token that the server's key accepts, inside its
window.
-/
namespace Gatehouse
namespace Session

/-- Whom a session belongs to, and the access level that it was given. -/
structure User where
  identity : String
  accessLevel : Option Nat
  deriving DecidableEq, Repr, Inhabited

/-- The claims of a session token. -/
structure Claims where
  subject : String
  issuedAt : Int
  notBefore : Option Int
  expiresAt : Int
  id : Option String
  user : Option User
  deriving DecidableEq, Repr, Inhabited

/-! ## As JSON -/

/-- A member that is left out when it has no value. -/
def member? (name : String) (f : α → Json) : Option α → List (String × Json)
  | some a => [(name, f a)]
  | none => []

def User.toJson (u : User) : Json :=
  .object (("identity", .text u.identity) :: member? "accessLevel" (fun n => Json.int (n : Nat)) u.accessLevel)

/-- The claims in the order they are signed. -/
def Claims.toJson (c : Claims) : Json :=
  .object (
    [("sub", .text c.subject), ("iat", .int c.issuedAt)] ++ member? "nbf" .int c.notBefore ++
      [("exp", .int c.expiresAt)] ++ member? "jti" .text c.id ++ member? "user" User.toJson c.user)

def User.shape : Json.Record User where
  name := "SessionUser"
  blank := ⟨"", none⟩
  fields := [
    Json.field "identity" .required Json.string fun v u => { u with identity := v },
    Json.field "accessLevel" .defaulted (Json.nullable (Json.natural .u32)) fun v u => { u with accessLevel := v }]

def Claims.shape : Json.Record Claims where
  name := "SessionClaims"
  blank := ⟨"", 0, none, 0, none, none⟩
  fields := [
    Json.field "sub" .required Json.string fun v c => { c with subject := v },
    Json.field "iat" .required (Json.integer .i64) fun v c => { c with issuedAt := v },
    Json.field "nbf" .defaulted (Json.nullable (Json.integer .i64)) fun v c => { c with notBefore := v },
    Json.field "exp" .required (Json.integer .i64) fun v c => { c with expiresAt := v },
    Json.field "jti" .defaulted (Json.nullable Json.string) fun v c => { c with id := v },
    Json.field "user" .defaulted (Json.nullable User.shape.decode) fun v c => { c with user := v }]

/-! ## Issuing -/

/-- A signed session. -/
structure Issued where
  token : List Char
  claims : Claims

/-- The claims of a session for a record, from a time on. -/
def claimsFor (timeout : Int) (record : KeyRecord) (now : Int) (id : String) : Claims where
  subject := record.identity
  issuedAt := now
  notBefore := some now
  expiresAt := Seconds.after now timeout
  id := some id
  user := some ⟨record.identity, some record.accessLevel⟩

/-- A session for a record, from a time on. -/
def issue (keys : KeyPair) (timeout : Int) (record : KeyRecord) (now : Int) (id : String) :
    Except Key.Fault Issued :=
  let claims := claimsFor timeout record now id
  (keys.token claims.toJson.compact).map fun token => ⟨token, claims⟩

/-! ## Checking -/

/-- Why a session token is not accepted. -/
inductive Fault where
  | malformed (fault : Token.Fault)
  | missingClaim (name : String)
  | invalidSignature
  | invalidClaims (mismatch : Json.Mismatch)
  | notYetValid
  | expired
  deriving Repr

def Fault.message : Fault → String
  | malformed fault => "malformed token: " ++ fault.message
  | missingClaim name => "missing claim: " ++ name
  | invalidSignature => "signature rejected"
  | invalidClaims mismatch => "invalid claims: " ++ mismatch.message
  | notYetValid => "token not yet valid"
  | expired => "token expired"

/-- The claims that every session has, in the order they are looked for. -/
def requiredClaims : List String := ["iat", "exp", "sub"]

/-- The verdict on claims at a time. -/
def judge (leeway : Int) (c : Claims) (now : Int) : Except Fault Claims :=
  if c.notBefore.any fun nbf => Seconds.after now leeway < nbf then .error .notYetValid
  else if Seconds.after c.expiresAt leeway < now then .error .expired
  else .ok c

/-- The claims of a token that the key pair accepts, at a time inside its window. -/
def check (keys : KeyPair) (leeway : Int) (text : List Char) (now : Int) : Except Fault Claims :=
  match Token.parse text with
  | .error fault => .error (.malformed fault)
  | .ok t =>
    match requiredClaims.find? fun name => !t.has name with
    | some name => .error (.missingClaim name)
    | none =>
      if t.algorithm != keys.algorithm.name || !keys.verify text then .error .invalidSignature
      else match Claims.shape.decode (.object t.claims) with
        | .error mismatch => .error (.invalidClaims mismatch)
        | .ok claims => judge leeway claims now

end Session
end Gatehouse
