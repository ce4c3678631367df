import Gatehouse.Proofs.Registry.Database
import Gatehouse.Proofs.Sql.Standard
/-!
# The default statements behind a registry — calls as operations of the table

A registry that opens on a table (`Holds`) answers a look-up and a listing from its rows.  If it can also write
(`Serves`), a change with a default statement does to the rows what `inserted`, `updated` and `deleted` say, and the
registry serves the rows that result.
-/
namespace Gatehouse

/-- A connection that takes changes. -/
def Connection.IsWritable : Connection → Prop
  | .file _ readOnly => readOnly = false
  | .memory _ => True

theorem Connection.IsWritable.isReadOnly {c : Connection} (h : c.IsWritable) : c.isReadOnly = false := by
  cases c with
  | file place readOnly => exact h
  | memory content => rfl

namespace DatabaseRegistry

variable {r : DatabaseRegistry} {family : KeyFamily} {settings : DatabaseSettings} {rows : SortedMap Sql.Row}
  {disk disk' : Disk} {c c' : Connection} {old new : Sql.Database} {text : String} {parameters : List Sql.Value}
  {statement : Sql.Statement} {outcome : Sql.Outcome}

/-! ## Writing -/

theorem write?_of_writable (h : c.IsWritable) (disk : Disk) (new : Sql.Database) :
    ∃ disk' c', write? disk c new = some (disk', c') := by
  cases c with
  | memory content => exact ⟨_, _, rfl⟩
  | file place readOnly =>
    have hreadOnly : readOnly = false := h
    exact ⟨_, _, by rw [write?, hreadOnly]; rfl⟩

/-- **What is written is there.** -/
theorem content?_write (hold : content? disk c = some old) (hwrite : write? disk c new = some (disk', c')) :
    content? disk' c' = some new ∧ (c.IsWritable → c'.IsWritable) := by
  cases c with
  | memory content =>
    cases hwrite
    exact ⟨rfl, id⟩
  | file place readOnly =>
    unfold write? at hwrite
    dsimp only at hwrite
    split at hwrite
    · cases hwrite
    · cases hwrite
      -- the root is a directory, so it holds no database
      have hplace : ¬ place.isEmpty = true := fun hempty => by
        rw [content?, Disk.node?, if_pos hempty] at hold
        cases hold
      refine ⟨?_, id⟩
      rw [content?, Disk.node?_put, if_neg hplace, if_pos rfl]
      rfl

/-! ## A table behind a registry -/

/-- A registry opens on a table with given rows. -/
def Holds (r : DatabaseRegistry) (rows : SortedMap Sql.Row) : Prop :=
  ∃ c, r.connect.1 = .ok c ∧ content? r.connect.2.host.disk c = some ⟨some rows⟩

/-- Its changes are written. -/
def Writes (r : DatabaseRegistry) : Prop := ∀ c, r.connect.1 = .ok c → c.IsWritable

/-- A registry of a family and with settings, on a table with given rows that it can change. -/
structure Serves (r : DatabaseRegistry) (family : KeyFamily) (settings : DatabaseSettings)
    (rows : SortedMap Sql.Row) : Prop where
  family : r.family = family
  settings : r.settings = settings
  holds : r.Holds rows
  writes : r.Writes

theorem Holds.connect (h : r.Holds rows) : r.connect.2.Holds rows := by
  rwa [Holds, connect_connect]

theorem Serves.connect (h : r.Serves family settings rows) : r.connect.2.Serves family settings rows := by
  obtain ⟨hsettings, hfamily⟩ := connect_settings r
  refine ⟨hfamily.trans h.family, hsettings.trans h.settings, h.holds.connect, ?_⟩
  rw [Writes, connect_connect]
  exact h.writes

theorem execute_query (h : r.Holds rows) (hread : Sql.Statement.read? text = some statement)
    (hrun : statement.run rows parameters = .ok outcome) (hquery : statement.isQuery = true) :
    r.execute text parameters = (.ok outcome, r.connect.2) := by
  obtain ⟨c, hconnect, hcontent⟩ := h
  have hopened : r.connect = (.ok c, r.connect.2) := Prod.ext hconnect rfl
  unfold execute
  rw [hopened]
  simp [hcontent, hread, hrun, hquery]

theorem execute_duplicate (h : r.Serves family settings rows) (hread : Sql.Statement.read? text = some statement)
    (hrun : statement.run rows parameters = .error .duplicate) :
    r.execute text parameters = (.error (trouble "UNIQUE constraint failed", true), r.connect.2) := by
  obtain ⟨c, hconnect, hcontent⟩ := h.holds
  have hopened : r.connect = (.ok c, r.connect.2) := Prod.ext hconnect rfl
  have hwritable : c.isReadOnly = false := (h.writes c hconnect).isReadOnly
  unfold execute
  rw [hopened]
  simp [hcontent, hread, hrun, hwritable]

/-- **A change that runs is written**, and the registry serves the rows that it leads to. -/
theorem execute_change (h : r.Serves family settings rows) (hread : Sql.Statement.read? text = some statement)
    (hrun : statement.run rows parameters = .ok outcome) (hchange : statement.isQuery = false) :
    ∃ after, r.execute text parameters = (.ok outcome, after) ∧ after.Serves family settings outcome.rows := by
  obtain ⟨c, hconnect, hcontent⟩ := h.holds
  have hopened : r.connect = (.ok c, r.connect.2) := Prod.ext hconnect rfl
  have hconnected := h.connect
  have hc : c.IsWritable := h.writes c hconnect
  obtain ⟨disk', c', hwrite⟩ := write?_of_writable hc r.connect.2.host.disk ⟨some outcome.rows⟩
  obtain ⟨hcontent', hwritable⟩ := content?_write hcontent hwrite
  refine ⟨{ r.connect.2.withDisk disk' with connection := some c' }, ?_, hconnected.family, hconnected.settings, ?_, ?_⟩
  · unfold execute
    rw [hopened]
    simp only [hcontent, hread, hrun, hchange, hc.isReadOnly, hwrite]
    rfl
  · refine ⟨c', ?_⟩
    rw [connect_of_connection rfl]
    exact ⟨rfl, hcontent'⟩
  · intro x hx
    rw [connect_of_connection rfl] at hx
    cases hx
    exact hwritable hc

/-! ## Look-ups and listings -/

theorem not_isBlankText : Text.isBlankText Queries.defaults.select = false ∧
    Text.isBlankText Queries.defaults.index = false ∧ Text.isBlankText Queries.defaults.insert = false ∧
    Text.isBlankText Queries.defaults.update = false ∧ Text.isBlankText Queries.defaults.delete = false := by decide +kernel

/-- **A look-up gives the row of the identity**, if its level is one of 32 bits. -/
theorem get_of_holds (hselect : r.settings.queries.select = Queries.defaults.select) (h : r.Holds rows)
    (identity : String) :
    r.get identity =
      (match rows.get? identity with
        | none => .ok none
        | some row => (level row.accessLevel).map fun n => some ⟨identity, row.publicKey, n⟩, r.connect.2) := by
  have hrun := execute_query h Sql.Standard.read?_select (Sql.Standard.run_select rows identity) rfl
  unfold get enabled
  rw [hselect, not_isBlankText.1, hrun]
  cases rows.get? identity with
  | none => rfl
  | some row => cases hlevel : level row.accessLevel <;> simp [recordOf, hlevel, Except.map]

/-- **A listing gives all rows.** -/
theorem all_of_holds (hindex : r.settings.queries.index = Queries.defaults.index) (h : r.Holds rows) :
    r.all = (recordsOf (rows.entries.map Sql.Standard.columns) SortedMap.empty, r.connect.2) := by
  have hrun := execute_query h Sql.Standard.read?_index (Sql.Standard.run_index rows) rfl
  unfold all enabled
  rw [hindex, not_isBlankText.2.1, hrun]
  rfl

/-! ## Changes -/

/-- The rows with a new one. -/
def inserted (family : KeyFamily) (rows : SortedMap Sql.Row) (identity publicKey : String) (level : Nat) :
    Except RegistryError (SortedMap Sql.Row) :=
  match KeyRecord.checkEntry family identity publicKey with
  | .error e => .error e
  | .ok pem =>
    if rows.contains identity then .error (.invalidInput ("identity already registered: " ++ identity))
    else .ok (rows.insert identity ⟨pem, level⟩)

/-- The rows with another one for an identity. -/
def updated (family : KeyFamily) (rows : SortedMap Sql.Row) (identity publicKey : String) (level : Nat) :
    Except RegistryError (SortedMap Sql.Row) :=
  match KeyRecord.checkEntry family identity publicKey with
  | .error e => .error e
  | .ok pem =>
    if rows.contains identity then .ok (rows.insert identity ⟨pem, level⟩)
    else .error (.invalidInput ("identity is not registered: " ++ identity))

/-- The rows without an identity. -/
def deleted (rows : SortedMap Sql.Row) (identity : String) : Except RegistryError (SortedMap Sql.Row) :=
  if rows.contains identity then .ok (rows.erase identity)
  else .error (.invalidInput ("identity is not registered: " ++ identity))

/-- A call went as a change of the rows goes: it is answered with the error and leaves the rows, or the rows are the
changed ones. -/
def Went (call : Except RegistryError Unit × DatabaseRegistry) (family : KeyFamily) (settings : DatabaseSettings)
    (rows : SortedMap Sql.Row) : Except RegistryError (SortedMap Sql.Row) → Prop
  | .error e => call.1 = .error e ∧ call.2.Serves family settings rows
  | .ok next => call.1 = .ok () ∧ call.2.Serves family settings next

theorem insert_of_serves (h : r.Serves family settings rows)
    (hinsert : settings.queries.insert = Queries.defaults.insert) (identity publicKey : String) (level : Nat) :
    Went (r.insert identity publicKey level) family settings rows (inserted family rows identity publicKey level) := by
  unfold DatabaseRegistry.insert enabled inserted
  rw [h.settings, hinsert, not_isBlankText.2.2.1, h.family]
  cases KeyRecord.checkEntry family identity publicKey with
  | error e => exact ⟨rfl, h⟩
  | ok pem =>
    have hrun := Sql.Standard.run_insert rows identity pem level
    cases hcontains : rows.contains identity with
    | true =>
      rw [if_pos hcontains] at hrun
      simp only [execute_duplicate h Sql.Standard.read?_insert hrun]
      exact ⟨rfl, h.connect⟩
    | false =>
      rw [hcontains, if_neg (by decide)] at hrun
      obtain ⟨after, hexecute, hserves⟩ := execute_change h Sql.Standard.read?_insert hrun rfl
      simp only [hexecute]
      exact ⟨rfl, hserves⟩

theorem update_of_serves (h : r.Serves family settings rows)
    (hupdate : settings.queries.update = Queries.defaults.update) (identity publicKey : String) (level : Nat) :
    Went (r.update identity publicKey level) family settings rows (updated family rows identity publicKey level) := by
  unfold DatabaseRegistry.update enabled updated
  rw [h.settings, hupdate, not_isBlankText.2.2.2.1, h.family]
  cases KeyRecord.checkEntry family identity publicKey with
  | error e => exact ⟨rfl, h⟩
  | ok pem =>
    have hrun := Sql.Standard.run_update rows identity pem level
    cases hcontains : rows.contains identity with
    | true =>
      rw [if_pos hcontains] at hrun
      obtain ⟨after, hexecute, hserves⟩ := execute_change h Sql.Standard.read?_update hrun rfl
      simp only [hexecute]
      exact ⟨rfl, hserves⟩
    | false =>
      rw [hcontains, if_neg (by decide)] at hrun
      obtain ⟨after, hexecute, hserves⟩ := execute_change h Sql.Standard.read?_update hrun rfl
      simp only [hexecute]
      exact ⟨rfl, hserves⟩

theorem delete_of_serves (h : r.Serves family settings rows)
    (hdelete : settings.queries.delete = Queries.defaults.delete) (identity : String) :
    Went (r.delete identity) family settings rows (deleted rows identity) := by
  unfold DatabaseRegistry.delete enabled deleted
  rw [h.settings, hdelete, not_isBlankText.2.2.2.2]
  have hrun := Sql.Standard.run_delete rows identity
  cases hcontains : rows.contains identity with
  | true =>
    rw [if_pos hcontains] at hrun
    obtain ⟨after, hexecute, hserves⟩ := execute_change h Sql.Standard.read?_delete hrun rfl
    simp only [hexecute]
    exact ⟨rfl, hserves⟩
  | false =>
    rw [hcontains, if_neg (by decide)] at hrun
    obtain ⟨after, hexecute, hserves⟩ := execute_change h Sql.Standard.read?_delete hrun rfl
    simp only [hexecute]
    exact ⟨rfl, hserves⟩

end DatabaseRegistry
end Gatehouse
