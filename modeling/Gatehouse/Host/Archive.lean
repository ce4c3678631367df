import Gatehouse.Host.Basic
import Gatehouse.Json.Printer
import Gatehouse.Json.Reader
import Gatehouse.Json.Shape
/-!
# Files as texts

How the content of a node is kept in a real file.  A text is kept as it is.  A database is kept as one line of JSON
after a mark, its rows under their identities.
-/
namespace Gatehouse

namespace Sql

def Row.toJson (r : Row) : Json := .object [("publicKey", .text r.publicKey), ("accessLevel", .int r.accessLevel)]

def Row.shape : Json.Record Row where
  name := "Row"
  blank := ⟨"", 0⟩
  fields := [
    Json.field "publicKey" .required Json.string fun v r => { r with publicKey := v },
    Json.field "accessLevel" .required (Json.integer .i64) fun v r => { r with accessLevel := v }]

/-- The rows by identity, null where there is no table. -/
def Database.toJson (d : Database) : Json :=
  Json.optional (fun rows => .object (rows.entries.map fun (identity, row) => (identity, row.toJson))) d.keys

/-- The database of JSON that one gives. -/
def Database.ofJson? : Json → Option Database
  | .null => some blank
  | .object members => do
    let rows ← members.mapM fun (identity, v) => ((Row.shape.decode v).toOption).map fun row => (identity, row)
    return ⟨some (SortedMap.ofList rows)⟩
  | _ => none

end Sql

namespace Node

/-- What a file with a database starts with. -/
def databaseMark : List Char := "gatehouse keys\n".toList

/-- The text in the file of a node, none for a directory. -/
def archive? : Node → Option String
  | directory => none
  | text content => some content
  | database content => some (String.ofList (databaseMark ++ content.toJson.compact.toList ++ ['\n']))

/-- The node of a file with a text. -/
def ofArchive (content : String) : Node :=
  match (Text.dropPrefix? databaseMark content.toList).bind fun rest =>
      (Json.parse? (Text.utf8 (String.ofList rest))).bind Sql.Database.ofJson? with
  | some d => database d
  | none => text content

end Node
end Gatehouse
