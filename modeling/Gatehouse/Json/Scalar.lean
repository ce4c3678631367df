import Gatehouse.Json.Shape
import Gatehouse.Text.Blank
/-!
# Reading scalars strictly or leniently

Settings come from two kinds of sources.  A JSON value says exactly what it means, and only a value of the wanted kind
is taken (`Scalars.strict`).  In a settings file or an environment variable the kind of a value is often an accident
of its notation, so texts, numbers and truth values are converted into each other as far as that makes sense
(`Scalars.lenient`).
-/
namespace Gatehouse
namespace Json

/-- How the scalars of a record are read. -/
structure Scalars where
  text : Decoder String
  flag : Decoder Bool
  natural : IntRange → Decoder Nat

namespace Scalars

def strict : Scalars := ⟨string, boolean, Json.natural⟩

/-! ## Conversions -/

/-- Words for a truth value. -/
def word? (s : String) : Option Bool :=
  let w := Text.lower s
  if w = "true" || w = "on" || w = "yes" then some true
  else if w = "false" || w = "off" || w = "no" then some false
  else none

/-- The number that decimal digits write, possibly after a plus sign. -/
def digits? (s : String) : Option Nat :=
  let cs := match s.toList with
    | '+' :: rest => rest
    | cs => cs
  if cs.isEmpty || !cs.all Char.isDigit then none
  else some (cs.foldl (fun n c => n * 10 + (c.toNat - 48)) 0)

/-- A whole number as 64 unsigned bits, the nearest end of the range in place of one outside. -/
def clampUnsigned (n : Int) : Nat := (min n (2 ^ 64 - 1)).toNat

def asText : Decoder String
  | .text s => .ok s
  | .bool b => .ok (if b then "true" else "false")
  | .number (.int n) => .ok (toString n)
  | .number (.float x) => .ok x.plainText
  | v => .error (.kind v "a string")

def asFlag : Decoder Bool
  | .bool b => .ok b
  | .number (.int n) => .ok (n != 0)
  | .number (.float x) => .ok (!x.isZero || !x.isFinite)
  | .text s =>
    match word? s, s with
    | some b, _ => .ok b
    | none, "1" => .ok true
    | none, "0" => .ok false
    | none, _ => .error (.kind (.text s) "a boolean")
  | v => .error (.kind v "a boolean")

/-- A natural number of a range; fractions are rounded, halves away from zero. -/
def asNatural (r : IntRange) : Decoder Nat := fun v =>
  let inRange (n : Nat) : Except Mismatch Nat :=
    if r.holds n then .ok n else .error (.range n r.name)
  match v with
  | .number (.int n) => if n < 0 then .error (.range n r.name) else inRange n.toNat
  | .number (.float x) => inRange (clampUnsigned x.roundHalfAway)
  | .bool b => .ok (if b then 1 else 0)
  | .text s =>
    match word? s with
    | some b => .ok (if b then 1 else 0)
    | none =>
      match digits? s with
      | some n => inRange n
      | none => .error (.kind (.text s) r.name)
  | v => .error (.kind v r.name)

def lenient : Scalars := ⟨asText, asFlag, asNatural⟩

end Scalars
end Json
end Gatehouse
