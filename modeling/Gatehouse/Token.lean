import Gatehouse.Base64
import Gatehouse.Json.Reader
import Gatehouse.Seconds
/-!
# Tokens before their signature is checked

A token is three segments between dots: a header, a payload and a signature.  `Token.parse` reads the header's
algorithm and the payload's claims without a look at the signature, so nothing read here may be relied on until the
signature has been checked.
-/
namespace Gatehouse

/-- What a token says: the algorithm that its header names, and its claims. -/
structure Token where
  algorithm : String
  claims : List (String × Json)
  deriving Repr

namespace Token

/-- The two segments that are decoded. -/
inductive Part where
  | header
  | payload
  deriving DecidableEq, Repr

def Part.name : Part → String
  | header => "header"
  | payload => "payload"

/-- Why a text is no token. -/
inductive Fault where
  | segmentCount
  | emptySignature
  | notBase64 (part : Part)
  | notJson (part : Part)
  | noAlgorithm
  deriving DecidableEq, Repr

def Fault.message : Fault → String
  | segmentCount => "expected three dot-separated segments"
  | emptySignature => "empty signature segment"
  | notBase64 part => part.name ++ " is not base64url"
  | notJson part => part.name ++ " is not valid JSON"
  | noAlgorithm => "header has no alg"

/-- The JSON object of a segment.  Padding at its end does not count. -/
def decodeSegment (part : Part) (segment : List Char) : Except Fault (List (String × Json)) :=
  match Base64.decode? .urlSafe (Text.dropEnd (· = '=') segment) with
  | none => .error (.notBase64 part)
  | some bytes =>
    match Json.parse? bytes with
    | some (.object members) => .ok members
    | _ => .error (.notJson part)

/-- The token that a text writes. -/
def parse (text : List Char) : Except Fault Token :=
  match Text.splitOn '.' text with
  | [header, payload, signature] =>
    if signature.isEmpty then .error .emptySignature
    else match decodeSegment .header header with
      | .error fault => .error fault
      | .ok members =>
        match (Assoc.get? "alg" members).bind Json.asText? with
        | none => .error .noAlgorithm
        | some algorithm =>
          match decodeSegment .payload payload with
          | .error fault => .error fault
          | .ok claims => .ok ⟨algorithm, claims⟩
  | _ => .error .segmentCount

/-- Whether a claim is there and not null. -/
def has (t : Token) (name : String) : Bool :=
  match Assoc.get? name t.claims with
  | some v => !v.isNull
  | none => false

/-- A claim that is a text. -/
def text? (t : Token) (name : String) : Option String :=
  (Assoc.get? name t.claims).bind Json.asText?

/-- A number as a time, if it is whole. -/
def wholeNumber? : Json → Option Int
  | .number (.int n) => some (Seconds.clamp n)
  | .number (.float x) => x.toInt?.map Seconds.clamp
  | _ => none

/-- A claim that is a whole number, in whatever notation, as a time. -/
def time? (t : Token) (name : String) : Option Int :=
  (Assoc.get? name t.claims).bind wholeNumber?

end Token
end Gatehouse
