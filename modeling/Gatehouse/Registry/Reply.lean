import Gatehouse.Registry.Record
/-!
# Registries

A registry is anything with a state that answers the five calls.  A call may also never be answered; whoever waits
gives up after a time limit and then has a timeout instead of an answer.
-/
namespace Gatehouse

/-- How a registry call goes: it is answered, with a result or an error, or it never ends. -/
inductive Reply (α : Type) where
  | answered (result : Except RegistryError α)
  | silent

namespace Reply

variable {α : Type}

/-- What is known when the time limit is over. -/
def inTime : Reply α → Except RegistryError α
  | answered result => result
  | silent => .error .timeout

end Reply

/-- Registries with states in `σ`: each call gives a reply and the state after it. -/
class Registry (σ : Type) where
  get : σ → String → Reply (Option KeyRecord) × σ
  all : σ → Reply (SortedMap KeyRecord) × σ
  insert : σ → String → String → Nat → Reply Unit × σ
  update : σ → String → String → Nat → Reply Unit × σ
  delete : σ → String → Reply Unit × σ

end Gatehouse
