import Gatehouse.Registry.Store
import Gatehouse.Settings.Auth
/-!
# Backends by name

A registry is chosen by the name of its backend.  `Backends` maps names to what builds a registry from the settings;
the two standard ones are `memory` and `sqlite`.
-/
namespace Gatehouse

/-- What builds a registry from the host, the settings and the family of keys. -/
abbrev Backend (σ : Type) := Host → RegistrySettings → KeyFamily → Except RegistryError σ

/-- Backends by name. -/
structure Backends (σ : Type) where
  builders : SortedMap (Backend σ)

namespace Backends

variable {σ : Type}

def empty : Backends σ := ⟨SortedMap.empty⟩

/-- The backends with one more, in place of any earlier one of its name. -/
def register (b : Backends σ) (name : String) (build : Backend σ) : Backends σ := ⟨b.builders.insert name build⟩

/-- The names, in ascending order. -/
def names (b : Backends σ) : List String := b.builders.keys

/-- The registry of the backend that the settings name, in any ASCII case and with blanks around it. -/
def build (b : Backends σ) (h : Host) (s : RegistrySettings) (family : KeyFamily) : Except StartupError σ :=
  match b.builders.get? (Text.lower (Text.trim s.backend)) with
  | none => .error (.unknownBackend s.backend)
  | some build =>
    match build h s family with
    | .ok registry => .ok registry
    | .error e => .error (.registry e.message)

/-- The standard backends. -/
def standard : Backends Store :=
  ((empty.register "memory" fun h s family => (MemoryRegistry.ofSettings h family s.memory).map .memory).register
    "sqlite" fun h s family => (DatabaseRegistry.ofSettings h family s.database).map .database)

end Backends
end Gatehouse
