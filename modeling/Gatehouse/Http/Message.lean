import Gatehouse.Json.Printer
import Gatehouse.Text.Blank
/-!
# Requests and responses

A request as the service sees it, and the responses that it makes.  Header names are the same in either case; of
several headers of one name the first counts.
-/
namespace Gatehouse
namespace Http

structure Request where
  method : String
  /-- The path, possibly with a query. -/
  target : String
  headers : List (String × String)
  body : List UInt8
  deriving Repr

structure Response where
  status : Nat
  headers : List (String × String)
  body : String
  deriving DecidableEq, Repr, Inhabited

/-- The value of a request's header. -/
def Request.header? (r : Request) (name : String) : Option String :=
  (r.headers.find? fun h => Text.lower h.1 = name).map Prod.snd

/-- A header's value as text, if it holds visible ASCII characters only. -/
def visible? (value : String) : Option String :=
  if value.toList.all Text.isVisibleAscii then some value else none

/-- The path of a request without its query. -/
def Request.path (r : Request) : String :=
  String.ofList (r.target.toList.takeWhile fun c => c ≠ '?' && c ≠ '#')

/-- Whether a text can be a header's value: no control characters but the tab. -/
def isHeaderValue (value : String) : Bool :=
  value.toList.all fun c => c = '\t' || (0x20 ≤ c.toNat && c.toNat ≠ 0x7F)

namespace Response

/-- A response without a body. -/
def empty (status : Nat) : Response := ⟨status, [], ""⟩

/-- A response with a JSON body. -/
def json (status : Nat) (body : Json) : Response :=
  ⟨status, [("content-type", "application/json")], body.compact⟩

/-- The response where a header's value cannot be one. -/
def badHeader : Response :=
  ⟨500, [("content-type", "text/plain; charset=utf-8")], "failed to parse header value"⟩

/-- A response with one more header, if its value can be one. -/
def withHeader (r : Response) (name value : String) : Response :=
  if isHeaderValue value then { r with headers := r.headers ++ [(name, value)] } else badHeader

/-- The body of a refusal: a message and a code. -/
def refusal (status : Nat) (code message : String) : Response :=
  json status (.object [("error", .text message), ("error_code", .text code)])

end Response
end Http
end Gatehouse
