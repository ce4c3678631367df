import Gatehouse.Host.Basic
import Gatehouse.Registry.Location
import Gatehouse.Registry.Reply
import Gatehouse.Settings.Registry
import Gatehouse.Sql.Run
/-!
# A registry in a database

Records are rows of a table, reached by the statements of the settings.  The database is opened at the first call, so
a registry starts without one; what goes wrong then is the registry's trouble, not the request's.
-/
namespace Gatehouse

/-- An opened database: in a file or in memory. -/
inductive Connection where
  | file (place : List String) (readOnly : Bool)
  | memory (content : Sql.Database)

/-- Whether a connection takes no changes. -/
def Connection.isReadOnly : Connection → Bool
  | .file _ readOnly => readOnly
  | .memory _ => false

/-- A registry in a database, with the disk that it writes to. -/
structure DatabaseRegistry where
  family : KeyFamily
  settings : DatabaseSettings
  host : Host
  connection : Option Connection

namespace DatabaseRegistry

/-- Why the settings give no registry. -/
def ofSettings (h : Host) (family : KeyFamily) (s : DatabaseSettings) : Except RegistryError DatabaseRegistry :=
  if Text.isBlankText s.url then .error (.invalidInput "sqlite registry url is empty")
  else .ok ⟨family, s, h, none⟩

/-- Trouble with the database. -/
def trouble (reason : String) : RegistryError := .backend reason

/-! ## Opening -/

/-- The disk with the directory of a database file. -/
def makeDirectory (h : Host) (l : Location) : Except RegistryError Disk :=
  match Disk.parent? l.name with
  | none => .ok h.disk
  | some parent =>
    if parent.isEmpty then .ok h.disk
    else match h.disk.createDirectories h.directory parent with
      | .ok disk => .ok disk
      | .error fault => .error (trouble ("failed to create database directory: " ++ fault.message))

/-- The database in a file; an empty file is an empty database. -/
def fileContent? : Node → Option Sql.Database
  | .database content => some content
  | .text content => if content.isEmpty then some Sql.Database.blank else none
  | .directory => none

/-- The disk on which a database file is open, and where the file is. -/
def openFile (disk : Disk) (directory path : String) (readOnly : Bool) :
    Except RegistryError (Disk × List String) :=
  match disk.resolve directory path with
  | .error _ => .error (trouble "unable to open database file")
  | .ok place =>
    match disk.node? place with
    | some .directory => .error (trouble "unable to open database file")
    | some _ => .ok (disk, place)
    | none =>
      match disk.enter place.dropLast with
      | .ok () =>
        if readOnly then .error (trouble "unable to open database file")
        else .ok (disk.put place (.text ""), place)
      | .error _ => .error (trouble "unable to open database file")

/-- The content of a database that is open. -/
def content? (disk : Disk) : Connection → Option Sql.Database
  | .memory content => some content
  | .file place _ => (disk.node? place).bind fileContent?

/-- The disk and the connection after a change of the content. -/
def write? (disk : Disk) (c : Connection) (content : Sql.Database) : Option (Disk × Connection) :=
  match c with
  | .memory _ => some (disk, .memory content)
  | .file place readOnly => if readOnly then none else some (disk.put place (.database content), c)

/-- A connection on which the table exists. -/
def createTable (disk : Disk) (c : Connection) : Except RegistryError (Disk × Connection) :=
  match content? disk c with
  | none => .error (trouble "file is not a database")
  | some content =>
    if content.keys.isSome then .ok (disk, c)
    else match write? disk c content.withTable with
      | some result => .ok result
      | none => .error (trouble "attempt to write a readonly database")

/-- The registry with its database open, and the disk as far as opening it has come. -/
def connect (r : DatabaseRegistry) : Except RegistryError Connection × DatabaseRegistry :=
  match r.connection with
  | some c => (.ok c, r)
  | none =>
    match Location.ofUrl? (r.host.expandTilde r.settings.url) with
    | none => (.error (trouble "invalid url"), r)
    | some l =>
      match makeDirectory r.host l with
      | .error e => (.error e, r)
      | .ok disk =>
        let made := { r with host := { r.host with disk := disk } }
        let opened : Except RegistryError (Disk × Connection) :=
          match l.file with
          | none => .ok (disk, .memory Sql.Database.blank)
          | some path =>
            (openFile disk r.host.directory path l.readOnly).map fun (disk, place) => (disk, .file place l.readOnly)
        match opened with
        | .error e => (.error e, made)
        | .ok (disk, c) =>
          let touched := { r with host := { r.host with disk := disk } }
          match if r.settings.createSchema then createTable disk c else .ok (disk, c) with
          | .error e => (.error e, touched)
          | .ok (disk, c) =>
            (.ok c, { r with host := { r.host with disk := disk }, connection := some c })

/-! ## Statements -/

/-- The outcome of a statement with its parameters, and the registry after it.  A change of what is read-only fails
before it is looked at what it would change. -/
def execute (r : DatabaseRegistry) (text : String) (parameters : List Sql.Value) :
    Except (RegistryError × Bool) Sql.Outcome × DatabaseRegistry :=
  match r.connect with
  | (.error e, r) => (.error (e, false), r)
  | (.ok c, r) =>
    match content? r.host.disk c with
    | none => (.error (trouble "file is not a database", false), r)
    | some content =>
      match Sql.Statement.read? text, content.keys with
      | some statement, some rows =>
        if !statement.isQuery && c.isReadOnly then
          (.error (trouble "attempt to write a readonly database", false), r)
        else match statement.run rows parameters with
        | .error .duplicate => (.error (trouble "UNIQUE constraint failed", true), r)
        | .error .refused => (.error (trouble "statement failed", false), r)
        | .ok outcome =>
          if statement.isQuery then (.ok outcome, r)
          else match write? r.host.disk c ⟨some outcome.rows⟩ with
            | some (disk, c) =>
              (.ok outcome, { r with host := { r.host with disk := disk }, connection := some c })
            | none => (.error (trouble "attempt to write a readonly database", false), r)
      | none, _ => (.error (trouble "invalid statement", false), r)
      | _, none => (.error (trouble "no such table: authorised_keys", false), r)

/-- An access level as it is stored; a registry has only levels of 32 bits. -/
def level (n : Int) : Except RegistryError Nat :=
  if 0 ≤ n && n < 2 ^ 32 then .ok n.toNat
  else .error (trouble ("stored access level out of range: " ++ toString n))

/-- The record of an identity from a selected row. -/
def recordOf (identity : String) : List Sql.Value → Except RegistryError KeyRecord
  | .text publicKey :: .integer n :: _ => (level n).map fun n => ⟨identity, publicKey, n⟩
  | _ => .error (trouble "unexpected columns")

/-- A selected row that names its identity. -/
def entryOf : List Sql.Value → Except RegistryError (String × List Sql.Value)
  | .text identity :: .text publicKey :: .integer n :: _ => .ok (identity, [.text publicKey, .integer n])
  | _ => .error (trouble "unexpected columns")

/-- The records of selected rows by identity. -/
def recordsOf : List (List Sql.Value) → SortedMap KeyRecord → Except RegistryError (SortedMap KeyRecord)
  | [], acc => .ok acc
  | row :: rest, acc =>
    match entryOf row with
    | .error e => .error e
    | .ok (identity, values) =>
      match recordOf identity values with
      | .error e => .error e
      | .ok record => recordsOf rest (acc.insert identity record)

/-! ## Calls -/

/-- Runs a call only when its statement is not blank. -/
def enabled (text : String) (r : DatabaseRegistry) (call : Except RegistryError α × DatabaseRegistry) :
    Except RegistryError α × DatabaseRegistry :=
  if Text.isBlankText text then (.error .notImplemented, r) else call

def get (r : DatabaseRegistry) (identity : String) :
    Except RegistryError (Option KeyRecord) × DatabaseRegistry :=
  enabled r.settings.queries.select r
    (match r.execute r.settings.queries.select [.text identity] with
    | (.error (e, _), r) => (.error e, r)
    | (.ok outcome, r) =>
      match outcome.found with
      | [] => (.ok none, r)
      | row :: _ => ((recordOf identity row).map some, r))

def all (r : DatabaseRegistry) : Except RegistryError (SortedMap KeyRecord) × DatabaseRegistry :=
  enabled r.settings.queries.index r
    (match r.execute r.settings.queries.index [] with
    | (.error (e, _), r) => (.error e, r)
    | (.ok outcome, r) => (recordsOf outcome.found SortedMap.empty, r))

/-- The error of a change that failed; a duplicate is the request's fault. -/
def changeError (identity : String) : RegistryError × Bool → RegistryError
  | (_, true) => .invalidInput ("identity already registered: " ++ identity)
  | (e, false) => e

/-- The result of a change that has to change a row. -/
def mustChange (identity : String) (outcome : Sql.Outcome) : Except RegistryError Unit :=
  if outcome.changed = 0 then .error (.invalidInput ("identity is not registered: " ++ identity)) else .ok ()

def insert (r : DatabaseRegistry) (identity publicKey : String) (level : Nat) :
    Except RegistryError Unit × DatabaseRegistry :=
  enabled r.settings.queries.insert r
    (match KeyRecord.checkEntry r.family identity publicKey with
    | .error e => (.error e, r)
    | .ok pem =>
      match r.execute r.settings.queries.insert [.text identity, .text pem, .integer level] with
      | (.error e, r) => (.error (changeError identity e), r)
      | (.ok _, r) => (.ok (), r))

def update (r : DatabaseRegistry) (identity publicKey : String) (level : Nat) :
    Except RegistryError Unit × DatabaseRegistry :=
  enabled r.settings.queries.update r
    (match KeyRecord.checkEntry r.family identity publicKey with
    | .error e => (.error e, r)
    | .ok pem =>
      match r.execute r.settings.queries.update [.text pem, .integer level, .text identity] with
      | (.error e, r) => (.error (changeError identity e), r)
      | (.ok outcome, r) => (mustChange identity outcome, r))

def delete (r : DatabaseRegistry) (identity : String) : Except RegistryError Unit × DatabaseRegistry :=
  enabled r.settings.queries.delete r
    (match r.execute r.settings.queries.delete [.text identity] with
    | (.error (e, _), r) => (.error e, r)
    | (.ok outcome, r) => (mustChange identity outcome, r))

/-- A result as a reply in time. -/
def answered (result : Except RegistryError α × DatabaseRegistry) : Reply α × DatabaseRegistry :=
  (.answered result.1, result.2)

instance : Registry DatabaseRegistry where
  get r identity := answered (r.get identity)
  all r := answered r.all
  insert r identity publicKey level := answered (r.insert identity publicKey level)
  update r identity publicKey level := answered (r.update identity publicKey level)
  delete r identity := answered (r.delete identity)

end DatabaseRegistry
end Gatehouse
