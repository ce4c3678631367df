import Gatehouse.Registry.Database
import Gatehouse.Registry.Memory
/-!
# Kinds of registries

One type for every registry that the program can run with: in memory, in a database, and two that stand for a registry
in trouble, one that fails every call and one that answers none.
-/
namespace Gatehouse

/-- A registry of any kind. -/
inductive Store where
  | memory (m : MemoryRegistry)
  | database (d : DatabaseRegistry)
  | failing (reason : String)
  | stalled

namespace Store

/-- What a kind of registry is called. -/
def name : Store → String
  | memory _ => "memory"
  | database _ => "sqlite"
  | failing _ => "failing"
  | stalled => "stalled"

/-- The host as a registry has left it: a database writes to the disk. -/
def hostAfter (s : Store) (h : Host) : Host :=
  match s with
  | database d => d.host
  | _ => h

/-- A result of a registry in one of the kinds. -/
def lift (wrap : σ → Store) (result : Reply α × σ) : Reply α × Store := (result.1, wrap result.2)

/-- The reply of a registry in trouble. -/
def inTrouble (s : Store) : Reply α × Store :=
  match s with
  | failing reason => (.answered (.error (.backend reason)), s)
  | _ => (.silent, s)

instance : Registry Store where
  get s identity := match s with
    | memory m => lift memory (Registry.get m identity)
    | database d => lift database (Registry.get d identity)
    | s => s.inTrouble
  all s := match s with
    | memory m => lift memory (Registry.all m)
    | database d => lift database (Registry.all d)
    | s => s.inTrouble
  insert s identity publicKey level := match s with
    | memory m => lift memory (Registry.insert m identity publicKey level)
    | database d => lift database (Registry.insert d identity publicKey level)
    | s => s.inTrouble
  update s identity publicKey level := match s with
    | memory m => lift memory (Registry.update m identity publicKey level)
    | database d => lift database (Registry.update d identity publicKey level)
    | s => s.inTrouble
  delete s identity := match s with
    | memory m => lift memory (Registry.delete m identity)
    | database d => lift database (Registry.delete d identity)
    | s => s.inTrouble

end Store
end Gatehouse
