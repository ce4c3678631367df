import Gatehouse.Json.Basic
/-!
# Tables under construction

A TOML document fills its tables line by line: a header opens a table, a line puts a value under a key of the table
opened last, and both may name tables on the way.  Who made a table decides who may add to it:
- a table is opened by a header at most once, and only if nothing but longer headers has named it before;
- a dotted key adds to tables that dotted keys have made, and to no other;
- an inline table is a value, and nothing adds to it.

A finished table is an object (`entriesJson`).
-/
namespace Gatehouse
namespace Toml

/-- How a table came to be. -/
inductive Origin where
  /-- By a header of its own. -/
  | header
  /-- On the way to the table of a longer header. -/
  | implied
  /-- On the way to the key of a line. -/
  | dotted
  deriving DecidableEq, Repr

/-- What a key of a table stands for. -/
inductive Item where
  | value (v : Json)
  | table (origin : Origin) (entries : List (String × Item))
  /-- An array of tables, of which the last one is still open. -/
  | tables (closed : List (List (String × Item))) (last : List (String × Item))

/-- The items of a table by key. -/
abbrev Entries := List (String × Item)

/-- The entries after a change in the table that a path leads to.  Tables that are missing on the way are made, and
`maker` says by whom. -/
def within? (maker : Origin) (change : Origin → Entries → Option Entries) (origin : Origin) (entries : Entries) :
    List String → Option Entries
  | [] => change origin entries
  | key :: rest =>
    match Assoc.get? key entries with
    | none =>
      (within? maker change maker [] rest).map fun inner => Assoc.insert key (.table maker inner) entries
    | some (.value _) => none
    | some (.table made inner) =>
      if maker = .dotted && made = .header then none
      else (within? maker change made inner rest).map fun inner => Assoc.insert key (.table made inner) entries
    | some (.tables closed last) =>
      (within? maker change .header last rest).map fun inner => Assoc.insert key (.tables closed inner) entries

/-- The entries with a value under a dotted key. -/
def put? (entries : Entries) (path : List String) (key : String) (v : Json) : Option Entries :=
  within? .dotted (fun origin entries =>
    if (Assoc.get? key entries).isSome || (origin = .dotted) != !path.isEmpty then none
    else some (Assoc.insert key (.value v) entries)) .header entries path

/-- The entries with a table opened by a header. -/
def openTable? (entries : Entries) (path : List String) (key : String) : Option Entries :=
  within? .implied (fun _ entries =>
    match Assoc.get? key entries with
    | none => some (Assoc.insert key (.table .header []) entries)
    | some (.table .implied inner) => some (Assoc.insert key (.table .header inner) entries)
    | some _ => none) .header entries path

/-- The entries with one more table in an array of tables. -/
def appendTable? (entries : Entries) (path : List String) (key : String) : Option Entries :=
  within? .implied (fun _ entries =>
    match Assoc.get? key entries with
    | none => some (Assoc.insert key (.tables [] []) entries)
    | some (.tables closed last) => some (Assoc.insert key (.tables (closed ++ [last]) []) entries)
    | some _ => none) .header entries path

/-- The entries with a value under a dotted key of the table that a path leads to. -/
def assign? (entries : Entries) (table : List String) (path : List String) (key : String) (v : Json) :
    Option Entries :=
  within? .implied (fun _ entries => put? entries path key v) .header entries table

mutual
/-- An item as a value. -/
def Item.json : Item → Json
  | .value v => v
  | .table _ entries => .object (entriesJson entries)
  | .tables closed last => .array (tablesJson closed ++ [.object (entriesJson last)])

/-- The members of a table. -/
def entriesJson : List (String × Item) → List (String × Json)
  | [] => []
  | (key, item) :: rest => (key, item.json) :: entriesJson rest

def tablesJson : List (List (String × Item)) → List Json
  | [] => []
  | entries :: rest => .object (entriesJson entries) :: tablesJson rest
end

/-- The object with the values of dotted keys. -/
def ofPairs? (pairs : List ((List String × String) × Json)) : Option Json := do
  let entries ← pairs.foldlM (fun entries ((path, key), v) => put? entries path key v) []
  return .object (entriesJson entries)

end Toml
end Gatehouse
