import Gatehouse.Audit
import Gatehouse.Guard
import Gatehouse.Http.Credentials
import Gatehouse.Http.MediaType
import Gatehouse.Http.Refusal
import Gatehouse.Http.Route
import Gatehouse.Json.Document
/-!
# The service

Answers one request at a time: `Service.answer` takes the registry's state, the request and the moment, and gives the
response, the registry's state after it and the audit events in their order.  A protected route looks at the session
before the method, so a wrong method without a session is refused, not disallowed.
-/
namespace Gatehouse
namespace Http

/-- The guard and the limits of the service. -/
structure Service where
  guard : Guard
  /-- The longest body, in bytes. -/
  bodyLimit : Nat

/-- What a request brings along beside itself: the time, the id for a session that it may start, and how many
milliseconds it takes. -/
structure Moment where
  now : Int
  sessionId : String
  duration : Nat

/-- A response with the registry's state after it and what goes into the audit log. -/
structure Outcome (σ : Type) where
  response : Response
  state : σ
  events : List Audit.Event

/-- What ends the program in the middle of its work. -/
inductive Crash where
  /-- A product of machine integers is none of them. -/
  | overflow
  deriving DecidableEq, Repr

def Crash.message : Crash → String
  | overflow => "attempt to multiply with overflow"

/-- The limit of bodies in bytes for a setting in units of 1024, of which at least one counts. -/
def bodyLimit (kilobytes : Nat) : Nat := max kilobytes 1 * 1024

/-- The service with the limit of a setting.  The product is one of machine integers with 64 bits, and checked. -/
def Service.create (guard : Guard) (kilobytes : Nat) : Except Crash Service :=
  if Http.bodyLimit kilobytes < 2 ^ 64 then .ok ⟨guard, Http.bodyLimit kilobytes⟩ else .error .overflow

/-- The version that the service tells. -/
def version : String := "0.4.0"

/-! ## Bodies -/

structure LoginRequest where
  token : String

structure KeyRequest where
  identity : String
  publicKey : String
  accessLevel : Nat

structure DeleteRequest where
  identity : String

def LoginRequest.shape : Json.Record LoginRequest where
  name := "LoginRequest"
  blank := ⟨""⟩
  fields := [Json.field "token" .required Json.string fun v r => { r with token := v }]

def KeyRequest.identityField : Json.Field KeyRequest :=
  Json.field "identity" .required Json.string fun v r => { r with identity := v }

def KeyRequest.publicKeyField : Json.Field KeyRequest :=
  Json.field "publicKey" .required Json.string fun v r => { r with publicKey := v }

def KeyRequest.levelField (presence : Json.Presence) : Json.Field KeyRequest :=
  Json.field "accessLevel" presence (Json.natural .u32) fun v r => { r with accessLevel := v }

/-- A new key; without a level it gets level 0. -/
def KeyRequest.insertShape : Json.Record KeyRequest where
  name := "InsertKeyRequest"
  blank := ⟨"", "", 0⟩
  fields := [KeyRequest.identityField, KeyRequest.publicKeyField, KeyRequest.levelField .defaulted]

/-- A key in place of another. -/
def KeyRequest.updateShape : Json.Record KeyRequest where
  name := "UpdateKeyRequest"
  blank := ⟨"", "", 0⟩
  fields := [KeyRequest.identityField, KeyRequest.publicKeyField, KeyRequest.levelField .required]

def DeleteRequest.shape : Json.Record DeleteRequest where
  name := "DeleteKeyRequest"
  blank := ⟨""⟩
  fields := [Json.field "identity" .required Json.string fun v r => { r with identity := v }]

/-- Why a body is not taken, in words. -/
def noJson : String := "Expected request with `Content-Type: application/json`"

def tooLong : String := "Failed to buffer the request body: length limit exceeded"

/-- Whether a request says that its body is JSON. -/
def Request.isJson (r : Request) : Bool :=
  match (r.header? "content-type").bind visible? with
  | some value => MediaType.isJson value
  | none => false

/-- The record that a request's body is, or why it is none. -/
def Service.body (s : Service) (shape : Json.Record ρ) (r : Request) : Except String ρ :=
  if !r.isJson then .error noJson
  else if s.bodyLimit < r.body.length then .error tooLong
  else match Json.Document.read shape r.body with
    | .ok value => .ok value
    | .error fault => .error fault.message

/-! ## Login and logout -/

/-- The outcome of a failed login as the audit log calls it. -/
def loginOutcome : Assertion.Fault → String
  | .malformed _ => "malformed"
  | .unauthenticated _ => "rejected"
  | .registry _ => "error"

/-- The response to a login that succeeded. -/
def Service.welcome (s : Service) (issued : Session.Issued) : Response :=
  (Response.json 200 (.object [("token", .text (String.ofList issued.token))])).withHeader "set-cookie"
    (s.guard.sessionCookie issued.token)

/-- Exchanges an assertion for a session. -/
def Service.login {σ : Type} [Registry σ] (s : Service) (state : σ) (r : Request) (m : Moment) : Outcome σ :=
  match s.body LoginRequest.shape r with
  | .error reason => ⟨(Refusal.invalidRequest reason).response, state, []⟩
  | .ok request =>
    match Assertion.checkIn s.guard.policy state request.token.toList m.now with
    | (.error fault, state) =>
      ⟨(Refusal.ofAssertion fault).response, state, [.login none (loginOutcome fault) none]⟩
    | (.ok record, state) =>
      match s.guard.issue record m.now m.sessionId with
      | .error refusal => ⟨refusal.response, state, []⟩
      | .ok issued =>
        ⟨s.welcome issued, state, [.login (some record.identity) "success" issued.claims.id]⟩

/-- Takes the session cookie back. -/
def Service.logout (s : Service) : Response :=
  (Response.empty 204).withHeader "set-cookie" s.guard.clearingCookie

/-! ## Keys -/

/-- The outcome of a change as the audit log calls it. -/
def changeOutcome : Except RegistryError Unit → String
  | .ok () => "success"
  | .error (.invalidInput _) => "rejected"
  | .error .notImplemented => "not_implemented"
  | .error _ => "error"

/-- The response to a change. -/
def changeResponse : Except RegistryError Unit → Response
  | .ok () => Response.empty 204
  | .error e => e.response

/-- The outcome of a change that has been replied to. -/
def changed {σ : Type} (actor action target : String) (reply : Reply Unit × σ) : Outcome σ :=
  let result := reply.1.inTime
  ⟨changeResponse result, reply.2, [.keyChange actor action target (changeOutcome result)]⟩

/-- The refusal of a body of a change. -/
def badBody {σ : Type} (state : σ) (reason : String) : Outcome σ :=
  ⟨Response.refusal 400 "bad_request" reason, state, []⟩

/-- The list of keys as JSON. -/
def keysJson (records : SortedMap KeyRecord) : Json :=
  .object [("keys", .object (records.entries.map fun (identity, r) =>
    (identity, .object [("publicKey", .text r.publicKey), ("accessLevel", .int r.accessLevel)])))]

def listKeys {σ : Type} [Registry σ] (state : σ) : Outcome σ :=
  let (reply, state) := Registry.all state
  match reply.inTime with
  | .ok records => ⟨Response.json 200 (keysJson records), state, []⟩
  | .error e => ⟨e.response, state, []⟩

def Service.insertKey {σ : Type} [Registry σ] (s : Service) (state : σ) (actor : String) (r : Request) :
    Outcome σ :=
  match s.body KeyRequest.insertShape r with
  | .error reason => badBody state reason
  | .ok k => changed actor "key_insert" k.identity (Registry.insert state k.identity k.publicKey k.accessLevel)

def Service.updateKey {σ : Type} [Registry σ] (s : Service) (state : σ) (actor : String) (r : Request) :
    Outcome σ :=
  match s.body KeyRequest.updateShape r with
  | .error reason => badBody state reason
  | .ok k => changed actor "key_update" k.identity (Registry.update state k.identity k.publicKey k.accessLevel)

def Service.deleteKey {σ : Type} [Registry σ] (s : Service) (state : σ) (actor : String) (r : Request) :
    Outcome σ :=
  match s.body DeleteRequest.shape r with
  | .error reason => badBody state reason
  | .ok k => changed actor "key_delete" k.identity (Registry.delete state k.identity)

/-! ## Routes -/

/-- Whom a session belongs to. -/
def meJson (c : Session.Claims) : Json :=
  .object [("identity", .text c.subject),
    ("accessLevel", Json.optional (fun n => .int (n : Nat)) (c.user.bind Session.User.accessLevel))]

def healthJson : Json := .object [("status", .text "ok"), ("version", .text version)]

/-- A response that the registry has no part in. -/
def plain {σ : Type} (state : σ) (response : Response) : Outcome σ := ⟨response, state, []⟩

/-- The response to a method that a route does not handle. -/
def notAllowed : Response := Response.empty 405

/-- What a session may do on the route of keys, its access level being high enough. -/
def Service.manage {σ : Type} [Registry σ] (s : Service) (state : σ) (actor : String) (action : Option Action)
    (r : Request) : Outcome σ :=
  match action with
  | some .listKeys => listKeys state
  | some .insertKey => s.insertKey state actor r
  | some .updateKey => s.updateKey state actor r
  | some .deleteKey => s.deleteKey state actor r
  | _ => plain state notAllowed

/-- What a session may do on a protected route. -/
def Service.withSession {σ : Type} [Registry σ] (s : Service) (state : σ) (route : Route) (c : Session.Claims)
    (r : Request) : Outcome σ :=
  match route with
  | .keys =>
    match Access.check s.guard.settings.adminLevel (c.user.bind Session.User.accessLevel) with
    | .error refusal => plain state refusal.response
    | .ok () => s.manage state c.subject (route.action? r.method) r
  | _ => plain state (if (route.action? r.method).isSome then Response.json 200 (meJson c) else notAllowed)

/-- The claims of the session that a request carries. -/
def Service.session (s : Service) (r : Request) (now : Int) : Except Refusal Session.Claims :=
  match r.token s.guard.settings.cookieName s.guard.settings.loginPath with
  | .error refusal => .error refusal
  | .ok token => s.guard.accept token now

/-- What a request on a protected route leads to; every request with a session is logged. -/
def Service.protected {σ : Type} [Registry σ] (s : Service) (state : σ) (route : Route) (r : Request) (m : Moment) :
    Outcome σ :=
  match s.session r m.now with
  | .error refusal => plain state refusal.response
  | .ok c =>
    let o := s.withSession state route c r
    { o with events := o.events ++ [.http c.subject c.id r.method r.path o.response.status m.duration] }

/-- What a request on a route leads to. -/
def Service.onRoute {σ : Type} [Registry σ] (s : Service) (state : σ) (route : Route) (r : Request) (m : Moment) :
    Outcome σ :=
  if route.isProtected then s.protected state route r m
  else match route.action? r.method with
    | some .health => plain state (Response.json 200 healthJson)
    | some .login => s.login state r m
    | some .logout => plain state s.logout
    | _ => plain state notAllowed

/-- A response as it is sent: no page may frame it, a method that its route does not handle is told which ones are,
and HEAD gets no body. -/
def finish (r : Request) (route : Option Route) (response : Response) : Response :=
  let allow := match route with
    | some route => if (route.action? r.method).isSome then [] else [("allow", route.allow)]
    | none => []
  { response with
    headers := response.headers ++ allow ++ [("x-frame-options", "DENY")]
    body := if r.method = "HEAD" then "" else response.body }

/-- What a request leads to. -/
def Service.answer {σ : Type} [Registry σ] (s : Service) (state : σ) (r : Request) (m : Moment) : Outcome σ :=
  match Route.ofPath? r.path with
  | none => plain state (finish r none (Response.empty 404))
  | some route =>
    let o := s.onRoute state route r m
    { o with response := finish r (some route) o.response }

end Http
end Gatehouse
