import Gatehouse.Json.Scalar
import Gatehouse.SortedMap
/-!
# Settings of the registry

Which registry is used, and the settings of each kind.
-/
namespace Gatehouse

/-- An identity that a registry in memory starts with. -/
structure SeedKey where
  publicKey : Option String
  publicKeyPath : Option String
  accessLevel : Nat
  deriving DecidableEq, Repr

namespace SeedKey

def blank : SeedKey := ⟨none, none, 0⟩

def shape (d : Json.Scalars) : Json.Record SeedKey where
  name := "MemoryKeyEntry"
  blank := blank
  fields := [
    Json.field "public_key" .defaulted (Json.nullable d.text) fun v s => { s with publicKey := v },
    Json.field "public_key_path" .defaulted (Json.nullable d.text) fun v s => { s with publicKeyPath := v },
    Json.field "access_level" .defaulted (d.natural .u32) fun v s => { s with accessLevel := v }]

def toJson (s : SeedKey) : Json :=
  .object [
    ("public_key", Json.optional .text s.publicKey),
    ("public_key_path", Json.optional .text s.publicKeyPath),
    ("access_level", .int s.accessLevel)]

end SeedKey

/-- Settings of a registry in memory. -/
structure MemorySettings where
  readOnly : Bool
  keys : SortedMap SeedKey

namespace MemorySettings

def defaults : MemorySettings := ⟨false, SortedMap.empty⟩

/-- A map from texts to values of one shape. -/
def mapOf (d : Json.Decoder α) : Json.Decoder (SortedMap α)
  | .object members => do
    let entries ← members.mapM fun (k, v) => (d v).map fun a => (k, a)
    return SortedMap.ofList entries
  | v => .error (.kind v "a map")

def shape (d : Json.Scalars) : Json.Record MemorySettings where
  name := "MemoryRegistryConfig"
  blank := defaults
  fields := [
    Json.field "read_only" .defaulted d.flag fun v s => { s with readOnly := v },
    Json.field "keys" .defaulted (mapOf (SeedKey.shape d).decode) fun v s => { s with keys := v }]

def toJson (s : MemorySettings) : Json :=
  .object [
    ("read_only", .bool s.readOnly),
    ("keys", .object (s.keys.entries.map fun (k, v) => (k, v.toJson)))]

end MemorySettings

/-- The statements that a registry in a database runs.  A blank one disables what it is for. -/
structure Queries where
  select : String
  index : String
  insert : String
  update : String
  delete : String
  deriving DecidableEq, Repr

namespace Queries

def defaults : Queries where
  select := "SELECT public_key, access_level FROM authorised_keys WHERE identity = ?"
  index := "SELECT identity, public_key, access_level FROM authorised_keys ORDER BY identity"
  insert := "INSERT INTO authorised_keys (identity, public_key, access_level) VALUES (?, ?, ?)"
  update := "UPDATE authorised_keys SET public_key = ?, access_level = ? WHERE identity = ?"
  delete := "DELETE FROM authorised_keys WHERE identity = ?"

def shape (d : Json.Scalars) : Json.Record Queries where
  name := "SqliteQueries"
  blank := defaults
  fields := [
    Json.field "select" .defaulted d.text fun v s => { s with select := v },
    Json.field "index" .defaulted d.text fun v s => { s with index := v },
    Json.field "insert" .defaulted d.text fun v s => { s with insert := v },
    Json.field "update" .defaulted d.text fun v s => { s with update := v },
    Json.field "delete" .defaulted d.text fun v s => { s with delete := v }]

def toJson (s : Queries) : Json :=
  .object [
    ("select", .text s.select),
    ("index", .text s.index),
    ("insert", .text s.insert),
    ("update", .text s.update),
    ("delete", .text s.delete)]

end Queries

/-- Settings of a registry in a database. -/
structure DatabaseSettings where
  url : String
  createSchema : Bool
  maxConnections : Nat
  acquireTimeout : Nat
  queries : Queries
  deriving DecidableEq, Repr

namespace DatabaseSettings

def defaults : DatabaseSettings where
  url := "sqlite://~/.local/share/adsisto/keys.db"
  createSchema := true
  maxConnections := 4
  acquireTimeout := 2000
  queries := Queries.defaults

def shape (d : Json.Scalars) : Json.Record DatabaseSettings where
  name := "SqliteRegistryConfig"
  blank := defaults
  fields := [
    Json.field "url" .defaulted d.text fun v s => { s with url := v },
    Json.field "create_schema" .defaulted d.flag fun v s => { s with createSchema := v },
    Json.field "max_connections" .defaulted (d.natural .u32) fun v s => { s with maxConnections := v },
    Json.field "acquire_timeout_ms" .defaulted (d.natural .u64) fun v s => { s with acquireTimeout := v },
    Json.field "queries" .defaulted (Queries.shape d).decode fun v s => { s with queries := v }]

def toJson (s : DatabaseSettings) : Json :=
  .object [
    ("url", .text s.url),
    ("create_schema", .bool s.createSchema),
    ("max_connections", .int s.maxConnections),
    ("acquire_timeout_ms", .int s.acquireTimeout),
    ("queries", s.queries.toJson)]

end DatabaseSettings

/-- Which registry is used, and the settings of each kind. -/
structure RegistrySettings where
  backend : String
  memory : MemorySettings
  database : DatabaseSettings

namespace RegistrySettings

def defaults : RegistrySettings := ⟨"sqlite", MemorySettings.defaults, DatabaseSettings.defaults⟩

def shape (d : Json.Scalars) : Json.Record RegistrySettings where
  name := "RegistryConfig"
  blank := defaults
  fields := [
    Json.field "backend" .defaulted d.text fun v s => { s with backend := v },
    Json.field "memory" .defaulted (MemorySettings.shape d).decode fun v s => { s with memory := v },
    Json.field "sqlite" .defaulted (DatabaseSettings.shape d).decode fun v s => { s with database := v }]

def toJson (s : RegistrySettings) : Json :=
  .object [
    ("backend", .text s.backend),
    ("memory", s.memory.toJson),
    ("sqlite", s.database.toJson)]

end RegistrySettings
end Gatehouse
