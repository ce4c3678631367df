import Gatehouse.Access
import Gatehouse.Http.Message
/-!
# Refusals as responses

The status and the code of every refusal and of every registry error.  A browser without a session is redirected;
trouble inside the server is never described.
-/
namespace Gatehouse

namespace Refusal

def status : Refusal → Nat
  | missingToken => 401
  | loginRequired _ => 307
  | invalidAuthHeader => 400
  | malformedToken _ => 400
  | invalidRequest _ => 400
  | unauthenticated => 401
  | forbidden => 403
  | insufficientAccess _ => 403
  | malformedSession => 500
  | internal _ => 500

def code : Refusal → String
  | missingToken => "missing_token"
  | loginRequired _ => "login_required"
  | invalidAuthHeader => "invalid_auth_header"
  | malformedToken _ => "malformed_token"
  | invalidRequest _ => "invalid_request"
  | unauthenticated => "unauthenticated"
  | forbidden => "forbidden"
  | insufficientAccess _ => "insufficient_access"
  | malformedSession => "malformed_session"
  | internal _ => "internal_error"

/-- The response that tells a client of a refusal. -/
def response : Refusal → Http.Response
  | loginRequired path => (Http.Response.empty 307).withHeader "location" path
  | r => Http.Response.refusal r.status r.code r.publicMessage

end Refusal

namespace RegistryError

/-- The response that tells a client of a registry error. -/
def response : RegistryError → Http.Response
  | invalidInput reason => Http.Response.refusal 400 "bad_request" reason
  | notImplemented =>
    Http.Response.refusal 501 "not_implemented" "operation not supported by the key registry"
  | backend _ => Http.Response.refusal 500 "internal_error" "internal server error"
  | timeout => Http.Response.refusal 500 "internal_error" "internal server error"

end RegistryError
end Gatehouse
