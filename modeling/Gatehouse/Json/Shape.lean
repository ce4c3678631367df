import Gatehouse.Json.Printer
import Gatehouse.Text.Quoted
/-!
# Shapes — reading a JSON value as something else

A decoder turns a value into what the program works with or says how the value's shape differs from the expected one
(`Mismatch`).  A record is described once, by its fields in order (`Record`), and can be given as an object or as the
array of its fields.  Members are taken in the order they come, so the first ill-shaped one is reported; missing
members are looked for only after that.
-/
namespace Gatehouse
namespace Json

/-- How a value differs from the expected shape. -/
inductive Mismatch where
  /-- A value of another kind. -/
  | kind (found : Json) (expected : String)
  /-- An integer out of range. -/
  | range (found : Int) (expected : String)
  | missing (field : String)
  | duplicate (field : String)
  /-- A record given as an array of another length. -/
  | length (found : Nat) (expected : String)
  deriving Repr

/-- What a value is called in messages. -/
def describe : Json → String
  | .null => "null"
  | .bool b => "boolean `" ++ (if b then "true" else "false") ++ "`"
  | .number (.int n) => "integer `" ++ toString n ++ "`"
  | .number (.float x) => "floating point `" ++ x.text ++ "`"
  | .text s => "string " ++ Text.quoted s
  | .array _ => "sequence"
  | .object _ => "map"

def Mismatch.message : Mismatch → String
  | .kind found expected =>
    "invalid type: " ++ found.describe ++ ", expected " ++ expected
  | .range found expected =>
    "invalid value: " ++ (int found).describe ++ ", expected " ++ expected
  | .missing field => "missing field `" ++ field ++ "`"
  | .duplicate field => "duplicate field `" ++ field ++ "`"
  | .length found expected => "invalid length " ++ toString found ++ ", expected " ++ expected

/-- A reading of values as `α`. -/
abbrev Decoder (α : Type) := Json → Except Mismatch α

/-! ## Scalars -/

/-- Ranges of integers that fields are limited to, with the names that messages call them by. -/
inductive IntRange where
  | u16
  | u32
  | u64
  | usize
  | i64
  deriving DecidableEq, Repr

namespace IntRange

def name : IntRange → String
  | u16 => "u16"
  | u32 => "u32"
  | u64 => "u64"
  | usize => "usize"
  | i64 => "i64"

def least : IntRange → Int
  | i64 => -(2 ^ 63)
  | _ => 0

def greatest : IntRange → Int
  | u16 => 2 ^ 16 - 1
  | u32 => 2 ^ 32 - 1
  | u64 => 2 ^ 64 - 1
  | usize => 2 ^ 64 - 1
  | i64 => 2 ^ 63 - 1

/-- Whether an integer lies in the range. -/
def holds (r : IntRange) (n : Int) : Bool := r.least ≤ n && n ≤ r.greatest

end IntRange

def string : Decoder String
  | .text s => .ok s
  | v => .error (.kind v "a string")

def boolean : Decoder Bool
  | .bool b => .ok b
  | v => .error (.kind v "a boolean")

/-- An integer of a range.  A number with a fraction or an exponent is none, whatever its value. -/
def integer (r : IntRange) : Decoder Int
  | .number (.int n) => if r.holds n then .ok n else .error (.range n r.name)
  | v => .error (.kind v r.name)

/-- A natural number of a range. -/
def natural (r : IntRange) : Decoder Nat := fun v => (integer r v).map Int.toNat

/-- A value that may be null. -/
def nullable (d : Decoder α) : Decoder (Option α)
  | .null => .ok none
  | v => (d v).map some

/-! ## Records -/

/-- What it means that a record's member is not there. -/
inductive Presence where
  /-- An error. -/
  | required
  /-- The blank value in an object, an error in an array that ends too early. -/
  | optional
  /-- The blank value. -/
  | defaulted
  deriving DecidableEq, Repr

/-- A field of a record: its name, and how a value is put into it. -/
structure Field (ρ : Type) where
  name : String
  presence : Presence
  put : Json → ρ → Except Mismatch ρ

/-- The field with a decoder for its value. -/
def field (name : String) (presence : Presence) (d : Decoder α) (set : α → ρ → ρ) : Field ρ :=
  ⟨name, presence, fun v r => (d v).map fun a => set a r⟩

/-- A record: its name in messages, its blank form, and its fields in order. -/
structure Record (ρ : Type) where
  name : String
  blank : ρ
  fields : List (Field ρ)

namespace Record

variable {ρ : Type}

/-- The field of a name. -/
def field? (r : Record ρ) (name : String) : Option (Field ρ) :=
  r.fields.find? fun f => f.name == name

/-- The count of a record's fields in words. -/
def elements (r : Record ρ) : String :=
  if r.fields.length = 1 then "1 element" else toString r.fields.length ++ " elements"

/-- What a record is called where an array of its fields has another length. -/
def described (r : Record ρ) : String := "struct " ++ r.name ++ " with " ++ r.elements

/-- Members put into a record in the order they come, unknown ones passed over. -/
def putMembers (r : Record ρ) : List (String × Json) → ρ → Except Mismatch ρ
  | [], acc => .ok acc
  | (name, v) :: rest, acc =>
    match r.field? name with
    | none => r.putMembers rest acc
    | some f => (f.put v acc).bind (r.putMembers rest)

/-- The first required field that is not among the given names. -/
def missing? (r : Record ρ) (given : List String) : Option String :=
  (r.fields.find? fun f => f.presence == .required && !given.contains f.name).map Field.name

/-- The index of the first field, from `i` on, that may not be left out at the end of an array. -/
def endsEarly? (i : Nat) : List (Field ρ) → Option Nat
  | [] => none
  | f :: rest => if f.presence == .defaulted then endsEarly? (i + 1) rest else some i

/-- Items put into fields in order.  The index is that of the next field. -/
def putItems (r : Record ρ) (i : Nat) : List (Field ρ) → List Json → ρ → Except Mismatch ρ
  | [], _, acc => .ok acc
  | fields, [], acc =>
    match endsEarly? i fields with
    | some i => .error (.length i r.described)
    | none => .ok acc
  | f :: fields, v :: rest, acc => (f.put v acc).bind (r.putItems (i + 1) fields rest)

/-- A record from the object of its members or the array of its fields. -/
def decode (r : Record ρ) : Decoder ρ
  | .object members => do
    let acc ← r.putMembers members r.blank
    match r.missing? (members.map Prod.fst) with
    | some name => .error (.missing name)
    | none => .ok acc
  | .array items => do
    let acc ← r.putItems 0 r.fields items r.blank
    if r.fields.length < items.length then .error (.length items.length "fewer elements in array") else .ok acc
  | v => .error (.kind v ("struct " ++ r.name))

end Record
end Json
end Gatehouse
