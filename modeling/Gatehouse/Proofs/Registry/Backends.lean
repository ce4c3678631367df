import Gatehouse.Proofs.Registry.Memory
import Gatehouse.Proofs.Registry.Standard
/-!
# Two kinds of registries — one behaviour

A registry in a database with the default statements and one in memory that hold the same records answer every call
alike and hold the same records after it (`Mirrors.perform`), and so any number of calls (`Mirrors.run`).  A new
database holds none, as an empty registry in memory does.  Statements that are blank stand for a registry that is read
only.
-/
namespace Gatehouse

/-- The row that a record is stored as. -/
def KeyRecord.row (r : KeyRecord) : Sql.Row := ⟨r.publicKey, r.accessLevel⟩

namespace DatabaseRegistry

variable {d : DatabaseRegistry} {m : MemoryRegistry} {records : SortedMap KeyRecord}

/-! ## Records as rows -/

/-- The table of some records. -/
def rowsOf (records : SortedMap KeyRecord) : SortedMap Sql.Row := records.map KeyRecord.row

theorem level_natCast {n : Nat} (h : n < 2 ^ 32) : level n = .ok n := by
  have hin : (decide (0 ≤ (n : Int)) && decide ((n : Int) < 2 ^ 32)) = true := by
    rw [Bool.and_eq_true, decide_eq_true_eq, decide_eq_true_eq]
    omega
  rw [level, if_pos hin]
  rfl

theorem recordOf_row {identity : String} {r : KeyRecord} (hidentity : r.identity = identity)
    (hlevel : r.accessLevel < 2 ^ 32) : recordOf identity [.text r.publicKey, .integer r.accessLevel] = .ok r := by
  subst hidentity
  simp only [recordOf]
  rw [level_natCast hlevel]
  rfl

theorem recordsOf_cons {row values : List Sql.Value} {identity : String} {r : KeyRecord}
    (hentry : entryOf row = .ok (identity, values)) (hrecord : recordOf identity values = .ok r)
    (rest : List (List Sql.Value)) (acc : SortedMap KeyRecord) :
    recordsOf (row :: rest) acc = recordsOf rest (acc.insert identity r) := by
  simp only [recordsOf, hentry, hrecord]

theorem recordsOf_columns : ∀ (l : List (String × KeyRecord)) {acc : SortedMap KeyRecord},
    Assoc.Sorted (acc.entries ++ l) → (∀ e ∈ l, e.2.identity = e.1 ∧ e.2.accessLevel < 2 ^ 32) →
    ∃ m, recordsOf (l.map fun e => Sql.Standard.columns (e.1, e.2.row)) acc = .ok m ∧ m.entries = acc.entries ++ l
  | [], acc, _, _ => ⟨acc, rfl, (List.append_nil _).symm⟩
  | (identity, r) :: rest, acc, hsorted, hkeyed => by
    obtain ⟨hidentity, hlevel⟩ := hkeyed _ List.mem_cons_self
    have hlast : ∀ e ∈ acc.entries, e.1 < identity := fun e he =>
      (List.pairwise_append.1 hsorted).2.2 e he _ List.mem_cons_self
    have hentries : (acc.insert identity r).entries = acc.entries ++ [(identity, r)] := Assoc.insert_of_lt r hlast
    have hsorted' : Assoc.Sorted ((acc.insert identity r).entries ++ rest) := by
      rw [hentries, List.append_assoc]
      exact hsorted
    obtain ⟨m, hm, hme⟩ := recordsOf_columns rest hsorted' fun e he => hkeyed e (List.mem_cons_of_mem _ he)
    refine ⟨m, ?_, by rw [hme, hentries, List.append_assoc]; rfl⟩
    rw [List.map_cons, recordsOf_cons rfl (recordOf_row hidentity hlevel)]
    exact hm

/-- **The rows of records read back as the records.** -/
theorem recordsOf_rowsOf (h : MemoryRegistry.Keyed records) :
    recordsOf ((rowsOf records).entries.map Sql.Standard.columns) SortedMap.empty = .ok records := by
  have hcolumns : (rowsOf records).entries.map Sql.Standard.columns =
      records.entries.map fun e => Sql.Standard.columns (e.1, e.2.row) := by
    simp [rowsOf, SortedMap.map, Assoc.mapValues]
  have hsorted : Assoc.Sorted ((SortedMap.empty : SortedMap KeyRecord).entries ++ records.entries) := records.sorted
  obtain ⟨m, hm, hentries⟩ := recordsOf_columns records.entries hsorted h
  rw [hcolumns, hm, SortedMap.ext_entries hentries]

/-! ## One call -/

/-- A registry in a database with the statements for its look-ups that are the default ones. -/
def ReadsByDefault (d : DatabaseRegistry) : Prop :=
  d.settings.queries.select = Queries.defaults.select ∧ d.settings.queries.index = Queries.defaults.index

/-- The statements for changes are blank. -/
def IsFixed (d : DatabaseRegistry) : Prop :=
  Text.isBlankText d.settings.queries.insert = true ∧ Text.isBlankText d.settings.queries.update = true ∧
    Text.isBlankText d.settings.queries.delete = true

/-- Two registries hold the same records, and either both take changes or neither does. -/
structure Mirrors (d : DatabaseRegistry) (m : MemoryRegistry) : Prop where
  keyed : MemoryRegistry.Keyed m.records
  reads : d.ReadsByDefault
  holds : d.Holds (rowsOf m.records)
  changes : (m.readOnly = false ∧ d.family = m.family ∧ d.settings.queries = Queries.defaults ∧ d.Writes) ∨
    (m.readOnly = true ∧ d.IsFixed)

theorem Mirrors.get (h : Mirrors d m) (identity : String) : d.get identity = (.ok (m.get identity), d.connect.2) := by
  rw [get_of_holds h.reads.1 h.holds, rowsOf, SortedMap.get?_map, MemoryRegistry.get]
  cases hget : m.records.get? identity with
  | none => rfl
  | some r =>
    obtain ⟨hidentity, hlevel⟩ := h.keyed.get? hget
    have hrow := level_natCast hlevel
    subst hidentity
    simp only [Option.map_some, KeyRecord.row]
    rw [hrow]
    rfl

theorem Mirrors.all (h : Mirrors d m) : d.all = (.ok m.records, d.connect.2) := by
  rw [all_of_holds h.reads.2 h.holds, recordsOf_rowsOf h.keyed]

theorem Mirrors.connect (h : Mirrors d m) : Mirrors d.connect.2 m := by
  obtain ⟨hsettings, hfamily⟩ := connect_settings d
  refine ⟨h.keyed, ?_, h.holds.connect, ?_⟩
  · rw [ReadsByDefault, hsettings]
    exact h.reads
  · rw [IsFixed, Writes, connect_connect, hsettings, hfamily]
    exact h.changes

/-- A change of the rows is the change of the records. -/
theorem inserted_rowsOf (hopen : m.readOnly = false) (identity publicKey : String) (level : Nat) :
    inserted m.family (rowsOf m.records) identity publicKey level =
      (m.insert identity publicKey level).map fun next => rowsOf next.records := by
  unfold inserted MemoryRegistry.insert
  rw [hopen, rowsOf, SortedMap.contains_map]
  cases KeyRecord.checkEntry m.family identity publicKey with
  | error e => rfl
  | ok pem => cases hcontains : m.records.contains identity <;> simp [Except.map, rowsOf, SortedMap.map_insert, KeyRecord.row]

/-- A row takes the place of another where a record is edited. -/
theorem updated_rowsOf (hopen : m.readOnly = false) (identity publicKey : String) (level : Nat) :
    updated m.family (rowsOf m.records) identity publicKey level =
      (m.update identity publicKey level).map fun next => rowsOf next.records := by
  unfold updated MemoryRegistry.update
  rw [hopen, rowsOf, SortedMap.contains_map, SortedMap.contains]
  cases KeyRecord.checkEntry m.family identity publicKey with
  | error e => rfl
  | ok pem =>
    cases hget : m.records.get? identity with
    | none => simp [Except.map]
    | some r => simp [Except.map, rowsOf, SortedMap.map_insert, KeyRecord.row]

theorem deleted_rowsOf (hopen : m.readOnly = false) (identity : String) :
    deleted (rowsOf m.records) identity = (m.delete identity).map fun next => rowsOf next.records := by
  unfold deleted MemoryRegistry.delete
  rw [hopen, rowsOf, SortedMap.contains_map]
  cases hcontains : m.records.contains identity <;> simp [Except.map, rowsOf, SortedMap.map_erase]

theorem Mirrors.change (h : Mirrors d m) (hopen : m.readOnly = false) (hqueries : d.settings.queries = Queries.defaults)
    {call : Except RegistryError Unit × DatabaseRegistry} {result : Except RegistryError MemoryRegistry}
    (hwent : Went call m.family d.settings (rowsOf m.records) (result.map fun next => rowsOf next.records))
    (hkeyed : ∀ next, result = .ok next → MemoryRegistry.Keyed next.records)
    (hkind : ∀ next, result = .ok next → m.SameKind next) :
    Reply.answered call.1 = (m.change result).1 ∧ Mirrors call.2 (m.change result).2 := by
  -- a registry that serves the rows of a memory's records mirrors it
  have hmirrors : ∀ {next : MemoryRegistry}, MemoryRegistry.Keyed next.records → m.SameKind next →
      call.2.Serves m.family d.settings (rowsOf next.records) → Mirrors call.2 next := by
    intro next hnext hsame hserves
    have hdefaults : call.2.settings.queries = Queries.defaults := by rw [hserves.settings, hqueries]
    have hfamily : call.2.family = next.family := by rw [hserves.family, hsame.1]
    refine ⟨hnext, ⟨by rw [hdefaults], by rw [hdefaults]⟩, hserves.holds, .inl ⟨?_, hfamily, hdefaults, hserves.writes⟩⟩
    rw [hsame.2, hopen]
  cases result with
  | error e => exact ⟨by rw [hwent.1]; rfl, hmirrors h.keyed ⟨rfl, rfl⟩ hwent.2⟩
  | ok next => exact ⟨by rw [hwent.1]; rfl, hmirrors (hkeyed next rfl) (hkind next rfl) hwent.2⟩

/-- A call of a registry that is fixed, and of one that is read-only. -/
theorem Mirrors.refused (h : Mirrors d m) {call : Except RegistryError Unit × DatabaseRegistry}
    {result : Except RegistryError MemoryRegistry} (hcall : call = (.error .notImplemented, d))
    (hresult : result = .error .notImplemented) :
    Reply.answered call.1 = (m.change result).1 ∧ Mirrors call.2 (m.change result).2 := by
  rw [hcall, hresult]
  exact ⟨rfl, h⟩

/-- **One call**: the same answer, and the same records after it. -/
theorem Mirrors.perform (h : Mirrors d m) {c : Registry.Call} (hc : c.Bounded) :
    (Registry.perform d c).1 = (Registry.perform m c).1 ∧ Mirrors (Registry.perform d c).2 (Registry.perform m c).2 := by
  cases c with
  | get identity =>
    have hget := h.get identity
    have hconnect := h.connect
    simpa only [Registry.perform, Registry.get, answered, hget, true_and] using hconnect
  | all =>
    have hall := h.all
    have hconnect := h.connect
    simpa only [Registry.perform, Registry.all, answered, hall, true_and] using hconnect
  | insert identity publicKey level =>
    have hstep : Reply.answered (d.insert identity publicKey level).1 =
        (m.change (m.insert identity publicKey level)).1 ∧
        Mirrors (d.insert identity publicKey level).2 (m.change (m.insert identity publicKey level)).2 := by
      rcases h.changes with ⟨hopen, hfamily, hqueries, hwrites⟩ | ⟨hreadOnly, hfixed⟩
      · refine h.change hopen hqueries ?_ (fun _ => MemoryRegistry.keyed_insert h.keyed hc)
          fun _ => MemoryRegistry.sameKind_insert
        rw [← inserted_rowsOf hopen]
        exact insert_of_serves ⟨hfamily, rfl, h.holds, hwrites⟩ (by rw [hqueries]) _ _ _
      · refine h.refused ?_ ?_
        · rw [DatabaseRegistry.insert, enabled, if_pos hfixed.1]
        · rw [MemoryRegistry.insert, if_pos hreadOnly]
    exact ⟨congrArg _ hstep.1, hstep.2⟩
  | update identity publicKey level =>
    have hstep : Reply.answered (d.update identity publicKey level).1 =
        (m.change (m.update identity publicKey level)).1 ∧
        Mirrors (d.update identity publicKey level).2 (m.change (m.update identity publicKey level)).2 := by
      rcases h.changes with ⟨hopen, hfamily, hqueries, hwrites⟩ | ⟨hreadOnly, hfixed⟩
      · refine h.change hopen hqueries ?_ (fun _ => MemoryRegistry.keyed_update h.keyed hc)
          fun _ => MemoryRegistry.sameKind_update
        rw [← updated_rowsOf hopen]
        exact update_of_serves ⟨hfamily, rfl, h.holds, hwrites⟩ (by rw [hqueries]) _ _ _
      · refine h.refused ?_ ?_
        · rw [DatabaseRegistry.update, enabled, if_pos hfixed.2.1]
        · rw [MemoryRegistry.update, if_pos hreadOnly]
    exact ⟨congrArg _ hstep.1, hstep.2⟩
  | delete identity =>
    have hstep : Reply.answered (d.delete identity).1 = (m.change (m.delete identity)).1 ∧
        Mirrors (d.delete identity).2 (m.change (m.delete identity)).2 := by
      rcases h.changes with ⟨hopen, hfamily, hqueries, hwrites⟩ | ⟨hreadOnly, hfixed⟩
      · refine h.change hopen hqueries ?_ (fun _ => MemoryRegistry.keyed_delete h.keyed)
          fun _ => MemoryRegistry.sameKind_delete
        rw [← deleted_rowsOf hopen]
        exact delete_of_serves ⟨hfamily, rfl, h.holds, hwrites⟩ (by rw [hqueries]) _
      · refine h.refused ?_ ?_
        · rw [DatabaseRegistry.delete, enabled, if_pos hfixed.2.2]
        · rw [MemoryRegistry.delete, if_pos hreadOnly]
    exact ⟨congrArg _ hstep.1, hstep.2⟩

/-! ## Any calls in a row -/

theorem Mirrors.run (h : Mirrors d m) {calls : List Registry.Call} (hcalls : ∀ c ∈ calls, c.Bounded) :
    Registry.answers d calls = Registry.answers m calls ∧
      Mirrors (Registry.after d calls) (Registry.after m calls) := by
  induction calls generalizing d m with
  | nil => exact ⟨rfl, h⟩
  | cons c rest ih =>
    obtain ⟨hanswer, hafter⟩ := h.perform (hcalls c List.mem_cons_self)
    obtain ⟨hrest, hlast⟩ := ih hafter fun x hx => hcalls x (List.mem_cons_of_mem c hx)
    exact ⟨by rw [Registry.answers, Registry.answers, hanswer, hrest], hlast⟩

/-- **Whatever is asked, both answer alike**, and list the same records at the end. -/
theorem Mirrors.agree (h : Mirrors d m) {calls : List Registry.Call} (hcalls : ∀ c ∈ calls, c.Bounded) :
    Registry.answers d calls = Registry.answers m calls ∧
      (Registry.all (Registry.after d calls)).1 = (Registry.all (Registry.after m calls)).1 := by
  obtain ⟨hanswers, hafter⟩ := h.run hcalls
  have hall := hafter.all
  refine ⟨hanswers, ?_⟩
  simp only [Registry.all, answered, hall]

/-! ## A new database -/

/-- A registry that is not opened yet, and whose database holds nothing so far: its place can be opened for writing,
and the table is to be made. -/
def IsFresh (d : DatabaseRegistry) : Prop :=
  d.connection = none ∧ d.settings.createSchema = true ∧
    ∃ l disk disk' c, Location.ofUrl? (d.host.expandTilde d.settings.url) = some l ∧ l.readOnly = false ∧
      makeDirectory d.host l = .ok disk ∧ opening disk d.host.directory l = .ok (disk', c) ∧
      content? disk' c = some Sql.Database.blank

theorem isWritable_of_opening {disk disk' : Disk} {directory : String} {l : Location} {c : Connection}
    (hl : l.readOnly = false) (h : opening disk directory l = .ok (disk', c)) : c.IsWritable := by
  unfold opening at h
  split at h
  · cases h
    trivial
  · rename_i path _
    cases hfile : openFile disk directory path l.readOnly with
    | error e => rw [hfile] at h; cases h
    | ok result =>
      rw [hfile] at h
      cases h
      exact hl

/-- A new database is one with an empty table. -/
theorem serves_of_isFresh (h : d.IsFresh) : d.Serves d.family d.settings SortedMap.empty := by
  obtain ⟨hclosed, hschema, l, disk, disk', c, hurl, hl, hmade, hopen, hblank⟩ := h
  have hc : c.IsWritable := isWritable_of_opening hl hopen
  obtain ⟨disk'', c', hwrite⟩ := write?_of_writable hc disk' Sql.Database.blank.withTable
  obtain ⟨hcontent, hwritable⟩ := content?_write hblank hwrite
  have hprepared : preparing d.settings disk' c = .ok (disk'', c') := by
    rw [preparing, if_pos hschema, createTable, hblank]
    dsimp only
    rw [hwrite]
    rfl
  have hconnect : d.connect = (.ok c', { d.withDisk disk'' with connection := some c' }) := by
    rw [connect_of_made hclosed hurl hmade, hopen]
    dsimp only
    rw [hprepared]
  refine ⟨rfl, rfl, ⟨c', ?_⟩, ?_⟩
  · rw [hconnect]
    exact ⟨rfl, hcontent⟩
  · intro x hx
    rw [hconnect] at hx
    cases hx
    exact hwritable hc

/-- A registry on a file that is not there yet. -/
def newFile : DatabaseRegistry :=
  ⟨.rsa, { DatabaseSettings.defaults with url := "sqlite://keys.db" }, ⟨SortedMap.empty, Disk.empty, "/"⟩, none⟩

theorem isFresh_newFile : newFile.IsFresh :=
  ⟨rfl, rfl, ⟨some "keys.db", "keys.db", false⟩, Disk.empty, Disk.empty.put ["keys.db"] (.text ""),
    .file ["keys.db"] false, by decide +kernel, rfl, rfl, rfl, rfl⟩

open MemoryRegistry (shortKey checkEntry_shortKey)

/-- A key is registered twice, another identity is taken away, and the keys are listed. -/
def someCalls : List Registry.Call :=
  [.insert "ann" shortKey 4294967295, .insert "ann" shortKey 0, .delete "bob", .all]

/-- A read-only registry in memory. -/
def fixedMemory : MemoryRegistry :=
  ⟨.rsa, true, SortedMap.empty.insert "ann" ⟨"ann", shortKey, 4294967295⟩⟩

/-- A registry on an open database with its records, whose statements for changes are blank. -/
def fixedDatabase : DatabaseRegistry :=
  ⟨.ec, { DatabaseSettings.defaults with
      queries := { Queries.defaults with insert := "", update := " ", delete := "\n" } },
    ⟨SortedMap.empty, Disk.empty, "/"⟩, some (.memory ⟨some (rowsOf fixedMemory.records)⟩)⟩

end DatabaseRegistry
end Gatehouse
