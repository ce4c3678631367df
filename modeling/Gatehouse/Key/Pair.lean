import Gatehouse.Json.Printer
import Gatehouse.Key.Private
/-!
# The server's key pair

A pair is known by what it does: sign a message, and accept a signature over one.  `KeyPair.ofPem` reads both halves
and lets the public half check a signature of the private one before the pair is used for anything.
-/
namespace Gatehouse

/-- A key pair as what it does with the texts of messages and signatures. -/
structure KeyPair where
  algorithm : Algorithm
  sign : List Char → Except Key.Fault (List Char)
  accepts : List Char → List Char → Bool

namespace KeyPair

/-- Why two texts are no key pair. -/
inductive Fault where
  | publicKey (fault : Key.Fault)
  | privateKey (fault : Key.Fault)
  | mismatch
  deriving DecidableEq, Repr

def Fault.message : Fault → String
  | publicKey fault => "invalid public key: " ++ fault.message
  | privateKey fault => "invalid private key: " ++ fault.message
  | mismatch => "public and private key do not form a pair"

/-- A JSON text as a token's segment. -/
def segment (text : String) : List Char := Base64.encode .urlSafe (Text.utf8 text)

/-- The header of the tokens of an algorithm. -/
def header (a : Algorithm) : Json := .object [("alg", .text a.name), ("typ", .text "JWT")]

/-- What is signed for a payload: the header's and the payload's segment. -/
def signingInput (a : Algorithm) (payload : String) : List Char :=
  segment (header a).compact ++ '.' :: segment payload

/-- The signed token with a payload. -/
def token (k : KeyPair) (payload : String) : Except Key.Fault (List Char) :=
  let message := signingInput k.algorithm payload
  (k.sign message).map fun signature => message ++ '.' :: signature

/-- Whether the public half accepts a token's signature. -/
def verify (k : KeyPair) (token : List Char) : Bool := acceptsToken k.accepts token

/-- The payload that a new pair is tried with. -/
def probe : String := (Json.object [("sub", .text "adsisto-key-check")]).compact

/-- The pair, if the public half accepts what the private half signs. -/
def check (k : KeyPair) : Except Fault KeyPair :=
  match k.token probe with
  | .error fault => .error (.privateKey fault)
  | .ok token => if k.verify token then .ok k else .error .mismatch

/-- The pair of two PEM texts. -/
def ofPem (algorithm : Algorithm) (publicText privateText : List Char) : Except Fault KeyPair :=
  match PublicKey.ofPem algorithm publicText with
  | .error fault => .error (.publicKey fault)
  | .ok pub =>
    match PrivateKey.ofPem algorithm privateText with
    | .error fault => .error (.privateKey fault)
    | .ok priv => check ⟨algorithm, priv.sign, pub.accepts⟩

end KeyPair
end Gatehouse
