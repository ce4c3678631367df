import Gatehouse.Json.Scalar
import Gatehouse.Settings.App
import Gatehouse.Text.Hex
/-!
# Layers of settings

Settings come in layers: the built-in level of logging, the file, and variables of the host.  A later layer overrides
an earlier one value by value; objects are merged.  `Layers.stack` puts the layers together, and the lenient shape of
the settings (`Json.Scalars.lenient`) reads the result.

The names of a layer are paths (`Layers.Path.read?`): parts separated by dots, and positions in brackets.  A name that
is none stands for itself.
-/
namespace Gatehouse
namespace Layers

/-- One step of a path. -/
inductive Step where
  | key (name : String)
  /-- A position in an array, from the end if negative. -/
  | index (i : Int)
  deriving DecidableEq, Repr

/-- Where a setting is. -/
abbrev Path := List Step

namespace Path

def isNameChar (c : Char) : Bool := c.isAlphanum || c = '_' || c = '-'

def isSpace (c : Char) : Bool := c = ' ' || c = '\t'

/-- A position between brackets. -/
def index? (text : List Char) : Option Int :=
  let text := Text.dropEnd isSpace (text.dropWhile isSpace)
  let (negative, ds) := match text with
    | '-' :: ds => (true, ds)
    | ds => (false, ds)
  let n := Text.ofDigits 10 ds
  if ds.isEmpty || !ds.all Char.isDigit || 2 ^ 63 ≤ n then none else some (if negative then -(n : Int) else n)

/-- The steps after the first.  `fuel` bounds their number. -/
def steps? (fuel : Nat) (text : List Char) : Option Path :=
  match fuel, text with
  | _, [] => some []
  | fuel + 1, '.' :: rest => do
    let name := rest.takeWhile isNameChar
    if name.isEmpty then none
    else return .key (String.ofList name) :: (← steps? fuel (rest.dropWhile isNameChar))
  | fuel + 1, '[' :: rest => do
    let (inside, rest) ← Text.splitFirst? ']' rest
    return .index (← index? inside) :: (← steps? fuel rest)
  | _, _ => none

/-- The path that a name writes. -/
def read? (name : String) : Option Path := do
  let text := name.toList
  let first := text.takeWhile isNameChar
  if first.isEmpty then none
  else return .key (String.ofList first) :: (← steps? text.length (text.dropWhile isNameChar))

/-- The path of a name, which stands for itself when it writes none. -/
def ofName (name : String) : Path := (read? name).getD [.key name]

end Path

/-! ## Putting values in their places -/

/-- The members of an object, none of any other value. -/
def membersOf : Json → List (String × Json)
  | .object members => members
  | _ => []

/-- The items of an array, none of any other value. -/
def itemsOf : Json → List Json
  | .array items => items
  | _ => []

mutual
/-- A value over an earlier one: objects are merged, everything else replaces what was there. -/
def merge (old : Json) : Json → Json
  | .object members => .object (mergeMembers (membersOf old) members)
  | v => v

def mergeMembers (old : List (String × Json)) : List (String × Json) → List (String × Json)
  | [] => old
  | (key, v) :: rest => mergeMembers (Assoc.insert key (merge ((Assoc.get? key old).getD .null) v) old) rest
end

/-- An array that is long enough for a position, and the place of the position in it. -/
def reach (items : List Json) (i : Int) : List Json × Nat :=
  let place := if 0 ≤ i then i else items.length + i
  if 0 ≤ place then (items ++ List.replicate (place.toNat + 1 - items.length) .null, place.toNat)
  else (List.replicate place.natAbs .null ++ items, 0)

/-- A value with another one put over what is at a path; what is missing on the way is made. -/
def put (v : Json) : Path → Json → Json
  | [], old => merge old v
  | .key name :: rest, old =>
    let members := membersOf old
    .object (Assoc.insert name (put v rest ((Assoc.get? name members).getD .null)) members)
  | .index i :: rest, old =>
    let (items, n) := reach (itemsOf old) i
    .array (items.set n (put v rest ((items[n]?).getD .null)))

/-- A layer over earlier ones, each of its values at the path of its name. -/
def apply (old : Json) (layer : List (String × Json)) : Json :=
  layer.foldl (fun v (name, layered) => put layered (Path.ofName name) v) old

/-! ## Variables -/

/-- A text with a dot in place of every two underscores. -/
def dotted : List Char → List Char
  | '_' :: '_' :: rest => '.' :: dotted rest
  | c :: rest => c :: dotted rest
  | [] => []

/-- The settings that variables give: their names begin with the prefix of the program and two underscores, in any
case, and two underscores separate parts. -/
def ofVariables (h : Host) : List (String × Json) :=
  h.environment.entries.filterMap fun (name, value) =>
    let start := (Text.lower (Host.variablePrefix ++ "__")).toList
    (Text.dropPrefix? start (Text.lower name).toList).map fun rest => (String.ofList (dotted rest), .text value)

/-- What holds when no other layer says anything. -/
def builtIn : Json :=
  .object [("logging", LoggingSettings.defaults.toJson)]

/-- All layers. -/
def stack (h : Host) (file : List (String × Json)) : Json :=
  apply (apply builtIn file) (ofVariables h)

end Layers
end Gatehouse
