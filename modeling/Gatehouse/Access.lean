import Gatehouse.Assertion
import Gatehouse.Session
/-!
# Refusals, and the gate of access levels

What a client is told when it is not let in.  Details of a malformed token and of an internal error stay inside.
-/
namespace Gatehouse

/-- Why a client is refused. -/
inductive Refusal where
  | missingToken
  /-- A browser without a session is sent to a path. -/
  | loginRequired (path : String)
  | invalidAuthHeader
  | malformedToken (detail : String)
  | invalidRequest (detail : String)
  | unauthenticated
  | forbidden
  | insufficientAccess (required : Nat)
  | malformedSession
  | internal (detail : String)
  deriving DecidableEq, Repr

namespace Refusal

def message : Refusal → String
  | missingToken => "missing session token"
  | loginRequired _ => "login required"
  | invalidAuthHeader => "invalid authorization header format"
  | malformedToken detail => "malformed token: " ++ detail
  | invalidRequest detail => "invalid request: " ++ detail
  | unauthenticated => "unauthenticated"
  | forbidden => "invalid session token"
  | insufficientAccess required => "insufficient access level, " ++ toString required ++ " required"
  | malformedSession => "session token carries no access level"
  | internal detail => "internal auth error: " ++ detail

/-- What the client is told of it. -/
def publicMessage : Refusal → String
  | malformedToken _ => "malformed token"
  | internal _ => "internal server error"
  | r => r.message

/-- The refusal of a login whose assertion is not accepted. -/
def ofAssertion : Assertion.Fault → Refusal
  | .malformed fault => malformedToken fault.message
  | .unauthenticated _ => unauthenticated
  | .registry e => internal e.message

/-- The refusal of a request whose session token is not accepted. -/
def ofSession : Session.Fault → Refusal
  | .malformed fault => malformedToken fault.message
  | _ => forbidden

end Refusal

namespace Access

/-- Whether a session's access level reaches a required one.  A session without one is the server's own defect. -/
def check (required : Nat) : Option Nat → Except Refusal Unit
  | some level => if required ≤ level then .ok () else .error (.insufficientAccess required)
  | none => .error .malformedSession

end Access
end Gatehouse
