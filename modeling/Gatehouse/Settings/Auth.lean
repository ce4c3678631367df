import Gatehouse.Host.Basic
import Gatehouse.Json.Scalar
import Gatehouse.Key.Pair
/-!
# Settings of authentication

What the server signs with, how long assertions and sessions last, and how sessions travel.  `AuthSettings.validate`
checks the values, `AuthSettings.loadKeys` finds and reads the server's key pair.
-/
namespace Gatehouse

structure AuthSettings where
  algorithm : String
  publicKeyPath : Option String
  /-- The key itself or, after `env:`, the name of a variable that holds it; wins over the path. -/
  publicKey : Option String
  privateKeyPath : Option String
  privateKey : Option String
  /-- The longest lifetime of an assertion, in seconds. -/
  assertionTimeout : Nat
  /-- The lifetime of a session, in seconds. -/
  sessionTimeout : Nat
  /-- By how many seconds clocks may differ. -/
  leeway : Nat
  cookieName : String
  cookieSecure : Bool
  loginPath : String
  /-- The access level that managing keys takes. -/
  adminLevel : Nat
  /-- The time limit of a registry call, in milliseconds. -/
  registryTimeout : Nat
  deriving DecidableEq, Repr

/-- Why the server does not start. -/
inductive StartupError where
  | algorithm (rejection : Algorithm.Rejection)
  | missingPublicKey (reason : String)
  | missingPrivateKey (reason : String)
  | keys (fault : KeyPair.Fault)
  | variableNotFound (name : String)
  | variableEmpty (name : String)
  | zeroTimeout (setting : String)
  | emptyCookieName
  | unknownBackend (name : String)
  | registry (reason : String)
  deriving DecidableEq, Repr

def StartupError.message : StartupError → String
  | algorithm rejection => rejection.message
  | missingPublicKey reason => "public key is required: " ++ reason
  | missingPrivateKey reason => "private key is required: " ++ reason
  | keys fault => fault.message
  | variableNotFound name =>
    "environment variable '" ++ name ++ "' not found (referenced via env:" ++ name ++ " in config)"
  | variableEmpty name =>
    "environment variable '" ++ name ++ "' is empty (referenced via env:" ++ name ++ " in config)"
  | zeroTimeout setting => setting ++ " must be greater than zero"
  | emptyCookieName => "cookie_name must not be empty"
  | unknownBackend name => "unknown registry backend: " ++ name
  | registry reason => "failed to initialize key registry: " ++ reason

namespace AuthSettings

def defaults : AuthSettings where
  algorithm := "RS256"
  publicKeyPath := none
  publicKey := none
  privateKeyPath := none
  privateKey := none
  assertionTimeout := 300
  sessionTimeout := 3600
  leeway := 5
  cookieName := "auth_token"
  cookieSecure := true
  loginPath := "/auth/login"
  adminLevel := 10
  registryTimeout := 2000

/-- The shape of the settings. -/
def shape (d : Json.Scalars) : Json.Record AuthSettings where
  name := "AuthConfig"
  blank := defaults
  fields := [
    Json.field "algorithm" .defaulted d.text fun v s => { s with algorithm := v },
    Json.field "public_key_path" .defaulted (Json.nullable d.text) fun v s => { s with publicKeyPath := v },
    Json.field "public_key" .defaulted (Json.nullable d.text) fun v s => { s with publicKey := v },
    Json.field "private_key_path" .defaulted (Json.nullable d.text) fun v s => { s with privateKeyPath := v },
    Json.field "private_key" .defaulted (Json.nullable d.text) fun v s => { s with privateKey := v },
    Json.field "authn_timeout_secs" .defaulted (d.natural .u64) fun v s => { s with assertionTimeout := v },
    Json.field "session_timeout_secs" .defaulted (d.natural .u64) fun v s => { s with sessionTimeout := v },
    Json.field "leeway_secs" .defaulted (d.natural .u64) fun v s => { s with leeway := v },
    Json.field "cookie_name" .defaulted d.text fun v s => { s with cookieName := v },
    Json.field "cookie_secure" .defaulted d.flag fun v s => { s with cookieSecure := v },
    Json.field "login_path" .defaulted d.text fun v s => { s with loginPath := v },
    Json.field "admin_access_level" .defaulted (d.natural .u32) fun v s => { s with adminLevel := v },
    Json.field "registry_timeout_ms" .defaulted (d.natural .u64) fun v s => { s with registryTimeout := v }]

/-- The settings as JSON, in the order of their fields. -/
def toJson (s : AuthSettings) : Json :=
  .object [
    ("algorithm", .text s.algorithm),
    ("public_key_path", Json.optional .text s.publicKeyPath),
    ("public_key", Json.optional .text s.publicKey),
    ("private_key_path", Json.optional .text s.privateKeyPath),
    ("private_key", Json.optional .text s.privateKey),
    ("authn_timeout_secs", .int s.assertionTimeout),
    ("session_timeout_secs", .int s.sessionTimeout),
    ("leeway_secs", .int s.leeway),
    ("cookie_name", .text s.cookieName),
    ("cookie_secure", .bool s.cookieSecure),
    ("login_path", .text s.loginPath),
    ("admin_access_level", .int s.adminLevel),
    ("registry_timeout_ms", .int s.registryTimeout)]

/-- The algorithm, once the other settings are in order. -/
def validate (s : AuthSettings) : Except StartupError Algorithm :=
  match Algorithm.ofName? s.algorithm with
  | .error rejection => .error (.algorithm rejection)
  | .ok a =>
    if s.assertionTimeout = 0 then .error (.zeroTimeout "authn_timeout_secs")
    else if s.sessionTimeout = 0 then .error (.zeroTimeout "session_timeout_secs")
    else if s.registryTimeout = 0 then .error (.zeroTimeout "registry_timeout_ms")
    else if Text.isBlankText s.cookieName then .error .emptyCookieName
    else .ok a

/-! ## Keys -/

/-- A value, or what the variable holds that it names after `env:`. -/
def resolve (h : Host) (value : String) : Except StartupError String :=
  match Text.dropPrefix? "env:".toList value.toList with
  | none => .ok value
  | some name =>
    let name := String.ofList name
    match h.lookup? name with
    | none => .error (.variableNotFound name)
    | some v => if Text.isBlankText v then .error (.variableEmpty name) else .ok v

/-- The text of a key from the value given for it or else from the file at its path.  Where neither is given, and where
the file cannot be read, the reason goes into the error. -/
def keyText (h : Host) (missing : String → StartupError) (value path : Option String) :
    Except StartupError String :=
  match value.filter fun v => !Text.isBlankText v with
  | some v => resolve h v
  | none =>
    match path.filter fun p => !Text.isBlankText p with
    | none => .error (missing "not configured")
    | some p =>
      match h.readText (h.expandTilde p) with
      | .ok text => .ok text
      | .error fault => .error (missing (p ++ ": " ++ fault.message))

/-- The key pair of the settings. -/
def loadKeys (s : AuthSettings) (h : Host) (a : Algorithm) : Except StartupError KeyPair :=
  match keyText h .missingPublicKey s.publicKey s.publicKeyPath with
  | .error e => .error e
  | .ok publicText =>
    match keyText h .missingPrivateKey s.privateKey s.privateKeyPath with
    | .error e => .error e
    | .ok privateText =>
      match KeyPair.ofPem a publicText.toList privateText.toList with
      | .ok keys => .ok keys
      | .error fault => .error (.keys fault)

end AuthSettings
end Gatehouse
