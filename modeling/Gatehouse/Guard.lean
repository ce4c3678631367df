import Gatehouse.Access
import Gatehouse.Registry.Backends
/-!
# The guard

What decides who gets in, once the settings are checked and the keys are loaded: it authenticates assertions, issues
and checks sessions, and writes the cookie that carries them.  The registry is not part of it, since requests change
the registry and never the guard.
-/
namespace Gatehouse

/-- The settings of authentication with the key pair that they lead to. -/
structure Guard where
  settings : AuthSettings
  keys : KeyPair

namespace Guard

/-- A guard and the registry of the settings.  The settings are checked first, then the keys are loaded, then the
registry is built; the first of these that fails is the error. -/
def start {σ : Type} (h : Host) (settings : AuthSettings) (registry : RegistrySettings) (backends : Backends σ) :
    Except StartupError (Guard × σ) :=
  match settings.validate with
  | .error e => .error e
  | .ok a =>
    match settings.loadKeys h a with
    | .error e => .error e
    | .ok keys =>
      match backends.build h registry a.family with
      | .error e => .error e
      | .ok store => .ok (⟨settings, keys⟩, store)

/-- What assertions are checked against. -/
def policy (g : Guard) : Assertion.Policy where
  algorithm := g.keys.algorithm
  maxLifetime := Seconds.span g.settings.assertionTimeout
  leeway := Seconds.span g.settings.leeway

/-- The lifetime of sessions. -/
def sessionTimeout (g : Guard) : Int := Seconds.span g.settings.sessionTimeout

/-- A session for a record. -/
def issue (g : Guard) (record : KeyRecord) (now : Int) (id : String) : Except Refusal Session.Issued :=
  match Session.issue g.keys g.sessionTimeout record now id with
  | .ok issued => .ok issued
  | .error fault => .error (.internal ("failed to sign session token: " ++ fault.message))

/-- The claims of an accepted session token. -/
def accept (g : Guard) (token : List Char) (now : Int) : Except Refusal Session.Claims :=
  match Session.check g.keys (Seconds.span g.settings.leeway) token now with
  | .ok claims => .ok claims
  | .error fault => .error (Refusal.ofSession fault)

/-! ## The cookie -/

/-- The cookie with a value and a lifetime. -/
def cookie (g : Guard) (value : List Char) (maxAge : Int) : String :=
  g.settings.cookieName ++ "=" ++ String.ofList value ++ "; Path=/; HttpOnly; SameSite=Lax; Max-Age=" ++
    toString maxAge ++ if g.settings.cookieSecure then "; Secure" else ""

/-- The cookie that carries a session token. -/
def sessionCookie (g : Guard) (token : List Char) : String := g.cookie token g.sessionTimeout

/-- The cookie that takes a session token back. -/
def clearingCookie (g : Guard) : String := g.cookie [] 0

end Guard
end Gatehouse
