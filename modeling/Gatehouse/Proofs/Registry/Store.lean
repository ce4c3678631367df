import Gatehouse.Proofs.Registry.Database
import Gatehouse.Registry.Store
/-!
# Registries of any kind — what a look-up leaves

Looking an identity up writes nothing: not in memory, where a look-up gives the state back, and not in a database
whose look-up statement is a query or is left blank (`answers_get`).
-/
namespace Gatehouse
namespace Store

/-- A registry whose look-ups only read, whatever its settings say for the other calls. -/
def OnlyReads : Store → Prop
  | database d => DatabaseRegistry.OnlyReads d.settings.queries.select
  | _ => True

theorem perform_database (d : DatabaseRegistry) (c : Registry.Call) :
    Registry.perform (database d) c = ((Registry.perform d c).1, database (Registry.perform d c).2) := by
  cases c with
  | _ => rfl

theorem answers_database : ∀ (calls : List Registry.Call) (d : DatabaseRegistry),
    Registry.answers (database d) calls = Registry.answers d calls
  | [], _ => rfl
  | c :: rest, d => by
    rw [Registry.answers, Registry.answers, perform_database, answers_database rest]

/-- **A look-up that only reads leaves a registry that answers as before**, whatever it is asked from then on. -/
theorem answers_get {store : Store} (honly : store.OnlyReads) (identity : String) (calls : List Registry.Call) :
    Registry.answers (Registry.get store identity).2 calls = Registry.answers store calls := by
  cases store with
  | database d =>
    have halike : DatabaseRegistry.Alike d (d.get identity).2 := DatabaseRegistry.alike_get honly identity
    show Registry.answers (database (d.get identity).2) calls = _
    rw [answers_database, answers_database, halike.answers calls]
  | _ => rfl

end Store
end Gatehouse
