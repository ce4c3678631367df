import Gatehouse.Curve
import Gatehouse.Text.Blank
/-!
# Signing algorithms

The allow-list: RSA and elliptic-curve signatures only.  Algorithms with a shared secret are refused by an error of
their own, because nobody who checks a signature may be able to make one.
-/
namespace Gatehouse

/-- The families of keys. -/
inductive KeyFamily where
  | rsa
  | ec
  deriving DecidableEq, Repr

def KeyFamily.name : KeyFamily → String
  | rsa => "RSA"
  | ec => "EC"

/-- The algorithms that signatures may be made with. -/
inductive Algorithm where
  | rs256
  | rs384
  | rs512
  | es256
  | es384
  | es512
  deriving DecidableEq, Repr, Inhabited

namespace Algorithm

/-- Every algorithm, in the order they are listed to users. -/
def all : List Algorithm := [rs256, rs384, rs512, es256, es384, es512]

/-- The name that configurations and token headers use. -/
def name : Algorithm → String
  | rs256 => "RS256"
  | rs384 => "RS384"
  | rs512 => "RS512"
  | es256 => "ES256"
  | es384 => "ES384"
  | es512 => "ES512"

def hash : Algorithm → Digest.Hash
  | rs256 => .sha256
  | rs384 => .sha384
  | rs512 => .sha512
  | es256 => .sha256
  | es384 => .sha384
  | es512 => .sha512

/-- What an algorithm computes with: RSA or a curve. -/
inductive Scheme where
  | rsa
  | ecdsa (c : Curve)
  deriving DecidableEq, Repr

def scheme : Algorithm → Scheme
  | rs256 => .rsa
  | rs384 => .rsa
  | rs512 => .rsa
  | es256 => .ecdsa .p256
  | es384 => .ecdsa .p384
  | es512 => .ecdsa .p521

/-- The family of keys that an algorithm needs. -/
def family (a : Algorithm) : KeyFamily :=
  match a.scheme with
  | .rsa => .rsa
  | .ecdsa _ => .ec

/-- The names of the refused algorithms with a shared secret. -/
def symmetricNames : List String := ["HS256", "HS384", "HS512"]

/-- Why a name is no algorithm. -/
inductive Rejection where
  | symmetric (name : String)
  | unknown (name : String)
  deriving DecidableEq, Repr

def Rejection.message : Rejection → String
  | symmetric name => "symmetric algorithm " ++ name ++ " is not allowed, use RS* or ES*"
  | unknown name => "invalid signing algorithm: " ++ name

/-- The algorithm of a name, in any ASCII case and with blanks around it. -/
def ofName? (s : String) : Except Rejection Algorithm :=
  let name := Text.upper (Text.trim s)
  if symmetricNames.contains name then .error (.symmetric name)
  else match all.find? fun a => a.name == name with
    | some a => .ok a
    | none => .error (.unknown (Text.trim s))

end Algorithm
end Gatehouse
