import Gatehouse.Host.Basic
import Gatehouse.Registry.Reply
import Gatehouse.Settings.Registry
/-!
# A registry in memory

Records in a map by identity, seeded at the start and possibly read-only.  Every key is stored in normal form.
-/
namespace Gatehouse

/-- A registry in memory. -/
structure MemoryRegistry where
  family : KeyFamily
  readOnly : Bool
  records : SortedMap KeyRecord

namespace MemoryRegistry

/-- The empty registry. -/
def empty (family : KeyFamily) : MemoryRegistry := ⟨family, false, SortedMap.empty⟩

/-- Records put into a map one after another, each with its key in normal form. -/
def seed (family : KeyFamily) : List KeyRecord → SortedMap KeyRecord → Except RegistryError (SortedMap KeyRecord)
  | [], acc => .ok acc
  | r :: rest, acc =>
    match KeyRecord.checkEntry family r.identity r.publicKey with
    | .error e => .error e
    | .ok pem => seed family rest (acc.insert r.identity { r with publicKey := pem })

/-- The registry that starts with given records. -/
def ofRecords (family : KeyFamily) (records : List KeyRecord) (readOnly : Bool) :
    Except RegistryError MemoryRegistry :=
  (seed family records SortedMap.empty).map fun m => ⟨family, readOnly, m⟩

/-- The key text of a seed: the one given or else the one in the file at its path. -/
def seedText (h : Host) (identity : String) (s : SeedKey) : Except RegistryError String :=
  match s.publicKey.filter fun k => !Text.isBlankText k with
  | some key => .ok key
  | none =>
    match s.publicKeyPath.filter fun p => !Text.isBlankText p with
    | none => .error (.invalidInput ("no public key configured for " ++ identity))
    | some path =>
      match h.readText (h.expandTilde path) with
      | .ok text => .ok text
      | .error fault => .error (.invalidInput ("failed to read public key " ++ path ++ ": " ++ fault.message))

/-- The registry of its settings. -/
def ofSettings (h : Host) (family : KeyFamily) (s : MemorySettings) : Except RegistryError MemoryRegistry := do
  let records ← s.keys.entries.mapM fun (identity, key) =>
    (seedText h identity key).map fun text => (⟨identity, text, key.accessLevel⟩ : KeyRecord)
  ofRecords family records s.readOnly

/-! ## Calls -/

def get (m : MemoryRegistry) (identity : String) : Option KeyRecord := m.records.get? identity

/-- The registry with a new record. -/
def insert (m : MemoryRegistry) (identity publicKey : String) (level : Nat) : Except RegistryError MemoryRegistry :=
  if m.readOnly then .error .notImplemented
  else match KeyRecord.checkEntry m.family identity publicKey with
    | .error e => .error e
    | .ok pem =>
      if m.records.contains identity then .error (.invalidInput ("identity already registered: " ++ identity))
      else .ok { m with records := m.records.insert identity ⟨identity, pem, level⟩ }

/-- The registry with another key and level in the record of an identity. -/
def update (m : MemoryRegistry) (identity publicKey : String) (level : Nat) : Except RegistryError MemoryRegistry :=
  if m.readOnly then .error .notImplemented
  else match KeyRecord.checkEntry m.family identity publicKey with
    | .error e => .error e
    | .ok pem =>
      match m.records.get? identity with
      | none => .error (.invalidInput ("identity is not registered: " ++ identity))
      | some r =>
        .ok { m with records := m.records.insert identity { r with publicKey := pem, accessLevel := level } }

/-- The registry without an identity. -/
def delete (m : MemoryRegistry) (identity : String) : Except RegistryError MemoryRegistry :=
  if m.readOnly then .error .notImplemented
  else if m.records.contains identity then .ok { m with records := m.records.erase identity }
  else .error (.invalidInput ("identity is not registered: " ++ identity))

/-- The reply to a change, and the registry after it; a change that fails changes nothing. -/
def change (m : MemoryRegistry) (result : Except RegistryError MemoryRegistry) : Reply Unit × MemoryRegistry :=
  match result with
  | .ok next => (.answered (.ok ()), next)
  | .error e => (.answered (.error e), m)

instance : Registry MemoryRegistry where
  get m identity := (.answered (.ok (m.get identity)), m)
  all m := (.answered (.ok m.records), m)
  insert m identity publicKey level := m.change (m.insert identity publicKey level)
  update m identity publicKey level := m.change (m.update identity publicKey level)
  delete m identity := m.change (m.delete identity)

end MemoryRegistry
end Gatehouse
