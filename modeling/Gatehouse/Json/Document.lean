import Gatehouse.Json.Reader
import Gatehouse.Json.Shape
/-!
# Reading a record from a text

A body that is to be a record of scalars is read in one pass, and what is wrong first is reported: a break of the
grammar (`Fault.malformed`) or a member of the wrong shape (`Fault.mismatch`, with the member's path).  So a wrong
shape before a break of the grammar hides it, and the other way round.
-/
namespace Gatehouse
namespace Json
namespace Document

/-- Why a text is not the record. -/
inductive Fault where
  | malformed
  | mismatch (path : String) (m : Mismatch)
  deriving Repr

def Fault.message : Fault → String
  | malformed => "Failed to parse the request body as JSON"
  | mismatch path m =>
    "Failed to deserialize the JSON body into the target type: " ++
      (if path.isEmpty then "" else path ++ ": ") ++ m.message

/-- A shape's error at a path. -/
def atPath (path : String) : Except Mismatch α → Except Fault α
  | .ok a => .ok a
  | .error m => .error (.mismatch path m)

/-- What the grammar yields, if it is not broken. -/
def unbroken : Option α → Except Fault α
  | some a => .ok a
  | none => .error .malformed

/-- A record with the next value put into a field. -/
def putNext (f : Field ρ) (path : String) (i : Input) (acc : ρ) : Except Fault (ρ × Input) :=
  match skipSpace i with
  | [] => .error .malformed
  | b :: rest => do
    if b = byteOf '[' then return (← atPath path (f.put (.array []) acc), rest)
    else if b = byteOf '{' then return (← atPath path (f.put (.object []) acc), rest)
    else
      let (v, rest) ← unbroken (scalar? (b :: rest))
      return (← atPath path (f.put v acc), rest)

/-- The input after a byte that has to come next. -/
def expect (b : UInt8) (i : Input) : Except Fault Input :=
  match skipSpace i with
  | c :: rest => if c = b then .ok rest else .error .malformed
  | [] => .error .malformed

/-- A name after its opening quote must come next. -/
def name (i : Input) : Except Fault (String × Input) :=
  (expect (byteOf '"') i).bind fun rest => unbroken (text? rest)

/-- One member put into a record, given the names that came before it. -/
def putMember (r : Record ρ) (seen : List String) (i : Input) (acc : ρ) :
    Except Fault (List String × ρ × Input) := do
  let (key, i) ← name i
  match r.field? key with
  | none => return (seen, acc, ← unbroken (skip? (← expect (byteOf ':') i)))
  | some f =>
    if seen.contains key then .error (.mismatch "" (.duplicate key))
    else
      let (acc, i) ← putNext f key (← expect (byteOf ':') i) acc
      return (key :: seen, acc, i)

/-- The members from one on, up to the closing brace; `fuel` bounds their number. -/
def members (r : Record ρ) (fuel : Nat) (seen : List String) (i : Input) (acc : ρ) :
    Except Fault (List String × ρ × Input) :=
  match fuel with
  | 0 => .error .malformed
  | fuel + 1 => do
    let (seen, acc, i) ← putMember r seen i acc
    match skipSpace i with
    | b :: rest =>
      if b = byteOf ',' then members r fuel seen rest acc
      else if b = byteOf '}' then return (seen, acc, rest)
      else .error .malformed
    | [] => .error .malformed

/-- A record from its members, the opening brace being read. -/
def object (r : Record ρ) (i : Input) : Except Fault (ρ × Input) := do
  let (seen, acc, rest) ← match skipSpace i with
    | b :: rest =>
      if b = byteOf '}' then .ok ([], r.blank, rest) else members r (i.length + 1) [] (b :: rest) r.blank
    | [] => .error .malformed
  match r.missing? seen with
  | some field => .error (.mismatch "" (.missing field))
  | none => return (acc, rest)

/-- The record when an array ends before a field. -/
def endEarly (r : Record ρ) (index : Nat) (fields : List (Field ρ)) (acc : ρ) (rest : Input) :
    Except Fault (ρ × Input) :=
  match Record.endsEarly? index fields with
  | some index => .error (.mismatch "" (.length index r.described))
  | none => .ok (acc, rest)

/-- A record from the array of its fields, from one of them on.  `first` tells whether no comma is due. -/
def items (r : Record ρ) (index : Nat) (first : Bool) (i : Input) (acc : ρ) :
    List (Field ρ) → Except Fault (ρ × Input)
  | [] => do return (acc, ← expect (byteOf ']') i)
  | f :: fields =>
    match skipSpace i with
    | [] => .error .malformed
    | b :: rest =>
      if b = byteOf ']' then endEarly r index (f :: fields) acc rest
      else do
        let i ← if first then .ok (b :: rest) else expect (byteOf ',') (b :: rest)
        let (acc, i) ← putNext f ("[" ++ toString index ++ "]") i acc
        items r (index + 1) false i acc fields

/-- A record at the start of the input. -/
def record (r : Record ρ) (i : Input) : Except Fault (ρ × Input) :=
  match skipSpace i with
  | [] => .error .malformed
  | b :: rest =>
    if b = byteOf '{' then object r rest
    else if b = byteOf '[' then items r 0 true rest r.blank r.fields
    else do
      let (v, _) ← unbroken (scalar? (b :: rest))
      .error (.mismatch "" (.kind v ("struct " ++ r.name)))

/-- The record that a whole text is. -/
def read (r : Record ρ) (i : Input) : Except Fault ρ := do
  let (acc, rest) ← record r i
  if (skipSpace rest).isEmpty then .ok acc else .error .malformed

end Document
end Json
end Gatehouse
