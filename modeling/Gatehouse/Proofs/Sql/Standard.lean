import Gatehouse.Proofs.SortedMap
import Gatehouse.Settings.Registry
import Gatehouse.Sql.Run
/-!
# The default statements — what they do to the table

Each of the five default statements is read as data (`read?_select` and so on), and run on any table it is one operation
of the map from identities to rows (`run_select` and so on).  A condition on the identity meets one row at most, since
the identities of a table are ascending.
-/
namespace Gatehouse
namespace Sql
namespace Standard

/-! ## As data -/

/-- A row is the one of an identity, given as a parameter. -/
def identityIs (parameter : Nat) : Condition := ⟨.column .identity, .equal, .parameter parameter⟩

def select : Statement := .select [.column .publicKey, .column .accessLevel] [identityIs 1] []

def index : Statement :=
  .select [.column .identity, .column .publicKey, .column .accessLevel] [] [⟨.identity, false⟩]

def insert : Statement :=
  .insert .fail [.identity, .publicKey, .accessLevel] [.parameter 1, .parameter 2, .parameter 3]

def update : Statement :=
  .update [(.publicKey, .parameter 1), (.accessLevel, .parameter 2)] [identityIs 3]

def delete : Statement := .delete [identityIs 1]

theorem read?_select : Statement.read? Queries.defaults.select = some select := by decide +kernel

theorem read?_index : Statement.read? Queries.defaults.index = some index := by decide +kernel

theorem read?_insert : Statement.read? Queries.defaults.insert = some insert := by decide +kernel

theorem read?_update : Statement.read? Queries.defaults.update = some update := by decide +kernel

theorem read?_delete : Statement.read? Queries.defaults.delete = some delete := by decide +kernel

/-! ## The row of an identity -/

variable {rows : SortedMap Row} {identity : String}

theorem meets?_identityIs {parameters : List Value} {n : Nat} (h : parameters[n - 1]?.getD .null = .text identity)
    (e : Entry) : meets? parameters [identityIs n] e = some (decide (e.identity = identity)) := by
  have heq : Comparison.equal.holds (if e.identity = identity then .eq else if e.identity < identity then .lt else .gt) =
      decide (e.identity = identity) := by
    by_cases he : e.identity = identity
    · simp [he, Comparison.holds]
    · by_cases hlt : e.identity < identity <;> simp [he, hlt, Comparison.holds]
  have hholds : (identityIs n).holds? parameters e = some (decide (e.identity = identity)) := by
    simp only [Condition.holds?, identityIs, Expr.eval?, Entry.value, Value.compare?, List.getD_eq_getElem?_getD, h, heq,
      Option.map_some, Option.pure_def, Option.bind_eq_bind, Option.bind_some]
  simp only [meets?, List.foldlM_cons, List.foldlM_nil, hholds, Option.map_some, Bool.true_and, Option.bind_eq_bind,
    Option.bind_some, Option.pure_def]

/-- **A fold that passes over all rows but those of one identity** makes its step at that row, if it is there. -/
theorem foldlM_entries (identity : String)
    {step : SortedMap Row × Nat → Entry → Except Fault (SortedMap Row × Nat)}
    (hskip : ∀ acc e, e.identity ≠ identity → step acc e = .ok acc) (rows : SortedMap Row)
    (acc : SortedMap Row × Nat) :
    (entries rows).foldlM step acc =
      match rows.get? identity with
      | none => .ok acc
      | some row => step acc ⟨identity, row⟩ := by
  obtain ⟨l, hl⟩ := rows
  simp only [entries, SortedMap.get?]
  induction l generalizing acc with
  | nil => rfl
  | cons e rest ih =>
    obtain ⟨key, row⟩ := e
    have hrest := fun acc => ih acc (List.Pairwise.of_cons hl)
    rw [List.map_cons, List.foldlM_cons]
    by_cases hkey : key = identity
    · subst hkey
      have hnone : Assoc.get? key rest = none := Assoc.get?_tail hl
      simp only [hnone] at hrest
      simp only [Assoc.get?, if_true]
      cases step acc ⟨key, row⟩ with
      | error fault => rfl
      | ok acc' => exact hrest acc'
    · rw [hskip acc ⟨key, row⟩ hkey]
      simp only [Assoc.get?, if_neg hkey]
      exact hrest acc

/-- The rows of an identity: one or none. -/
theorem filterMapM_entries {test : Entry → Option Bool}
    (htest : ∀ e, test e = some (decide (e.identity = identity))) (rows : SortedMap Row) :
    ((entries rows).filterMapM fun e => do
      let met ← test e
      return if met then some e else none) = some ((rows.get? identity).toList.map fun row => ⟨identity, row⟩) := by
  obtain ⟨l, hl⟩ := rows
  simp only [entries, SortedMap.get?, htest]
  induction l with
  | nil => rfl
  | cons e rest ih =>
    obtain ⟨key, row⟩ := e
    have hrest := ih (List.Pairwise.of_cons hl)
    rw [List.map_cons, List.filterMapM_cons, hrest]
    by_cases hkey : key = identity
    · subst hkey
      have hnone : Assoc.get? key rest = none := Assoc.get?_tail hl
      simp [Assoc.get?, hnone]
    · simp [Assoc.get?, hkey]

/-! ## Queries -/

theorem run_select (rows : SortedMap Row) (identity : String) :
    select.run rows [.text identity] =
      .ok ⟨(rows.get? identity).toList.map fun row => [.text row.publicKey, .integer row.accessLevel], 0, rows⟩ := by
  have hmeets : ∀ e, meets? [.text identity] [identityIs 1] e = some (decide (e.identity = identity)) :=
    meets?_identityIs rfl
  have hfound := filterMapM_entries hmeets rows
  simp only [select, Statement.run, query, hfound]
  cases rows.get? identity with
  | none => simp
  | some row => simp [Expr.eval?, Entry.value]

/-- The columns of a row. -/
def columns (e : String × Row) : List Value := [.text e.1, .text e.2.publicKey, .integer e.2.accessLevel]

theorem filterMapM_some (es : List Entry) :
    (es.filterMapM fun e => do
      let met ← meets? [] [] e
      return if met then some e else none) = some es := by
  induction es with
  | nil => rfl
  | cons e rest ih =>
    rw [List.filterMapM_cons, ih]
    rfl

theorem precedes_of_lt {a b : Entry} (h : a.identity < b.identity) : precedes [⟨.identity, false⟩] a b = true := by
  have hne : ¬ a.identity = b.identity := fun he => String.lt_irrefl b.identity (by rwa [he] at h)
  simp [precedes, Entry.value, Value.compare?, hne, h]

theorem run_index (rows : SortedMap Row) :
    index.run rows [] = .ok ⟨rows.entries.map columns, 0, rows⟩ := by
  have hsorted : (entries rows).Pairwise fun a b => precedes [⟨.identity, false⟩] a b = true :=
    List.Pairwise.map _ (fun _ _ h => precedes_of_lt h) rows.sorted
  have hvalues : ((entries rows).mapM fun e =>
      [Expr.column .identity, .column .publicKey, .column .accessLevel].mapM (Expr.eval? [] (some e))) =
        some (rows.entries.map columns) := by
    rw [entries, List.mapM_map]
    exact List.mapM_pure
  simp only [index, Statement.run, query, filterMapM_some]
  simp only [Option.bind_eq_bind, Option.bind_some, List.mergeSort_of_pairwise hsorted, hvalues]

/-! ## Changes -/

theorem run_insert (rows : SortedMap Row) (identity publicKey : String) (level : Int) :
    insert.run rows [.text identity, .text publicKey, .integer level] =
      if rows.contains identity then .error .duplicate
      else .ok ⟨[], 1, rows.insert identity ⟨publicKey, level⟩⟩ := by
  cases hcontains : rows.contains identity <;>
    simp [insert, Statement.run, insertInto, Expr.eval?, assigned, Entry.ofValues?, hcontains, Except.map]

theorem run_update (rows : SortedMap Row) (identity publicKey : String) (level : Int) :
    update.run rows [.text publicKey, .integer level, .text identity] =
      if rows.contains identity then .ok ⟨[], 1, rows.insert identity ⟨publicKey, level⟩⟩ else .ok ⟨[], 0, rows⟩ := by
  have hmeets : ∀ e, meets? [.text publicKey, .integer level, .text identity] [identityIs 3] e =
    some (decide (e.identity = identity)) := meets?_identityIs rfl
  simp only [update, Statement.run, updateIn, hmeets]
  rw [foldlM_entries identity]
  · cases hget : rows.get? identity with
    | none => simp [SortedMap.contains, hget, Except.map]
    | some row => simp [SortedMap.contains, hget, Expr.eval?, assigned, Entry.ofValues?, Entry.value, Except.map]
  · intro acc e he
    simp [he]

theorem run_delete (rows : SortedMap Row) (identity : String) :
    delete.run rows [.text identity] =
      if rows.contains identity then .ok ⟨[], 1, rows.erase identity⟩ else .ok ⟨[], 0, rows⟩ := by
  have hmeets : ∀ e, meets? [.text identity] [identityIs 1] e = some (decide (e.identity = identity)) :=
    meets?_identityIs rfl
  simp only [delete, Statement.run, deleteFrom, hmeets]
  rw [foldlM_entries identity]
  · cases hget : rows.get? identity with
    | none => simp [SortedMap.contains, hget, Except.map]
    | some row => simp [SortedMap.contains, hget, Except.map]
  · intro acc e he
    simp [he]

end Standard
end Sql
end Gatehouse
