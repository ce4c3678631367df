import Gatehouse.Key.Public
import Gatehouse.Registry.Reply
import Gatehouse.Token
/-!
# Login assertions

A client proves who it is by a short-lived token that it signed itself, with its identity as the issuer.  The key that
the token is checked with is looked up in the registry by that identity, so nothing else of the token is looked at
before the registry has answered.
-/
namespace Gatehouse
namespace Assertion

/-- What assertions are checked against. -/
structure Policy where
  algorithm : Algorithm
  /-- The longest time between issue and expiry. -/
  maxLifetime : Int
  /-- By how much clocks may differ. -/
  leeway : Int

/-- Why an assertion is rejected.  The client is never told. -/
inductive Reason where
  | missingIssuer
  | unknownIdentity
  | signatureRejected
  | claimsRejected
  deriving DecidableEq, Repr

/-- Why an assertion is not accepted. -/
inductive Fault where
  | malformed (fault : Token.Fault)
  | unauthenticated (reason : Reason)
  | registry (error : RegistryError)
  deriving DecidableEq, Repr

def Fault.message : Fault → String
  | malformed fault => "invalid assertion: " ++ fault.message
  | unauthenticated _ => "unauthenticated"
  | registry error => error.message

/-- The issuer of a token, if it is a text that is not empty. -/
def issuer? (t : Token) : Option String :=
  (t.text? "iss").filter fun iss => !iss.isEmpty

/-- Whether a record's key is one of the configured algorithm and accepts the token's signature. -/
def signatureHolds (p : Policy) (text : List Char) (t : Token) (record : KeyRecord) : Bool :=
  t.algorithm == p.algorithm.name &&
    match PublicKey.ofPem p.algorithm record.publicKey.toList with
    | .ok key => acceptsToken key.accepts text
    | .error _ => false

/-- Whether the token may not be used before a time that has come, as far as it says so. -/
def hasBegun (p : Policy) (t : Token) (now : Int) : Bool :=
  if t.has "nbf" then
    match t.time? "nbf" with
    | some nbf => nbf ≤ Seconds.after now p.leeway
    | none => false
  else true

/-- Whether issue and expiry are given, the time lies between them, and they are not too far apart. -/
def claimsHold (p : Policy) (t : Token) (now : Int) : Bool :=
  match t.time? "iat", t.time? "exp" with
  | some iat, some exp =>
    Seconds.before now p.leeway ≤ exp && iat ≤ Seconds.after now p.leeway && hasBegun p t now &&
      iat ≤ exp && Seconds.before exp iat ≤ p.maxLifetime
  | _, _ => false

/-- The verdict on a token whose issuer has a record. -/
def judge (p : Policy) (text : List Char) (t : Token) (record : KeyRecord) (now : Int) : Except Fault KeyRecord :=
  if !signatureHolds p text t record then .error (.unauthenticated .signatureRejected)
  else if !claimsHold p t now then .error (.unauthenticated .claimsRejected)
  else .ok record

/-- The record of the identity that a token proves at a time, given what the registry answers for its issuer. -/
def check (p : Policy) (lookup : String → Except RegistryError (Option KeyRecord)) (text : List Char) (now : Int) :
    Except Fault KeyRecord :=
  match Token.parse text with
  | .error fault => .error (.malformed fault)
  | .ok t =>
    match issuer? t with
    | none => .error (.unauthenticated .missingIssuer)
    | some iss =>
      match lookup iss with
      | .error e => .error (.registry e)
      | .ok none => .error (.unauthenticated .unknownIdentity)
      | .ok (some record) => judge p text t record now

/-- The identity that a token is looked up under, if it comes to that. -/
def lookedUp? (text : List Char) : Option String :=
  match Token.parse text with
  | .ok t => issuer? t
  | .error _ => none

/-- A check against a registry, and the registry's state after it. -/
def checkIn {σ : Type} [Registry σ] (p : Policy) (s : σ) (text : List Char) (now : Int) :
    Except Fault KeyRecord × σ :=
  (check p (fun iss => (Registry.get s iss).1.inTime) text now,
    match lookedUp? text with
    | some iss => (Registry.get s iss).2
    | none => s)

end Assertion
end Gatehouse
