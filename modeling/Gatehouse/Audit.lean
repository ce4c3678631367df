import Gatehouse.Json.Printer
import Gatehouse.Text.Blank
/-!
# The audit log

One line for each login, each request with a session, and each change of a key.  A line is one JSON object whose
members come in a fixed order, those without a value left out.
-/
namespace Gatehouse
namespace Audit

/-- What is logged. -/
inductive Event where
  /-- A login attempt; the identity and the session only when it succeeded. -/
  | login (identity : Option String) (outcome : String) (sessionId : Option String)
  /-- A request with a session, and the status that it was answered with. -/
  | http (identity : String) (sessionId : Option String) (method path : String) (status duration : Nat)
  /-- A change of a key by an actor, and how it went. -/
  | keyChange (actor action target outcome : String)
  deriving DecidableEq, Repr

/-- A member that is left out when it has no value. -/
def member? (name : String) : Option String → List (String × Json)
  | some s => [(name, .text s)]
  | none => []

namespace Event

/-- What an event is called. -/
def name : Event → String
  | login _ _ _ => "login"
  | http _ _ _ _ _ _ => "http_request"
  | keyChange _ action _ _ => action

/-- The members of an event beside its time and name. -/
def members : Event → List (String × Json)
  | login identity outcome sessionId =>
    member? "identity" identity ++ [("outcome", .text outcome)] ++ member? "session_id" sessionId
  | http identity sessionId method path status duration =>
    [("identity", .text identity), ("method", .text method), ("path", .text path), ("status", .int status),
      ("duration_ms", .int duration)] ++ member? "session_id" sessionId
  | keyChange actor _ target outcome =>
    [("identity", .text actor), ("outcome", .text outcome), ("target", .text target)]

/-- An event at a time as a line, without its end. -/
def line (e : Event) (timestamp : String) : String :=
  (Json.object (("timestamp", .text timestamp) :: ("event", .text e.name) :: e.members)).compact

end Event

/-- A log to which an event at a time is written: its line and the end of the line, after what the log holds. -/
def append (log : List UInt8) (entry : Event × String) : List UInt8 :=
  log ++ Text.utf8 (entry.1.line entry.2) ++ [0x0A]

end Audit
end Gatehouse
