import Gatehouse.Number.Shortest
import Gatehouse.SortedMap
/-!
# JSON values

The values of the format and the views on them that the rest of the library uses.  An integer that fits 64 bits,
signed or unsigned, is kept exactly; every other number is a binary64.  The members of an object are a list of pairs:
a reader yields them in ascending order with the last of repeated ones (`Json.ofMembers`), a writer of a record gives
them in the order of its fields.
-/
namespace Gatehouse

/-- A number as a reader keeps it. -/
inductive Json.Number where
  | int (n : Int)
  | float (x : Binary64)
  deriving DecidableEq, Repr, Inhabited

/-- A JSON value. -/
inductive Json where
  | null
  | bool (b : Bool)
  | number (n : Json.Number)
  | text (s : String)
  | array (items : List Json)
  | object (members : List (String × Json))
  deriving Repr, Inhabited

namespace Json

/-- The number that is an integer. -/
def int (n : Int) : Json := .number (.int n)

/-- An optional value, null when absent. -/
def optional (f : α → Json) : Option α → Json
  | none => .null
  | some a => f a

/-- The member of an object by name. -/
def member? (name : String) : Json → Option Json
  | .object members => Assoc.get? name members
  | _ => none

/-- The text that a value is. -/
def asText? : Json → Option String
  | .text s => some s
  | _ => none

/-- The integer that a value is, when it was kept as one. -/
def asInt? : Json → Option Int
  | .number (.int n) => some n
  | _ => none

/-- The truth value that a value is. -/
def asBool? : Json → Option Bool
  | .bool b => some b
  | _ => none

/-- The items of an array. -/
def asArray? : Json → Option (List Json)
  | .array items => some items
  | _ => none

def isNull : Json → Bool
  | .null => true
  | _ => false

/-- The object with the members of a list, in ascending order, the last of repeated ones counting. -/
def ofMembers (members : List (String × Json)) : Json :=
  .object (members.foldl (fun acc e => Assoc.insert e.1 e.2 acc) [])

mutual
/-- Equality of values, members in the order they are kept. -/
def beq : Json → Json → Bool
  | .null, .null => true
  | .bool a, .bool b => a == b
  | .number a, .number b => a == b
  | .text a, .text b => a == b
  | .array a, .array b => beqItems a b
  | .object a, .object b => beqMembers a b
  | _, _ => false

def beqItems : List Json → List Json → Bool
  | [], [] => true
  | a :: as, b :: bs => beq a b && beqItems as bs
  | _, _ => false

def beqMembers : List (String × Json) → List (String × Json) → Bool
  | [], [] => true
  | (k, a) :: as, (l, b) :: bs => k == l && beq a b && beqMembers as bs
  | _, _ => false
end

instance : BEq Json := ⟨beq⟩

end Json
end Gatehouse
