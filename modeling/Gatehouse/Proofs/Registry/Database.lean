import Gatehouse.Proofs.Host.Disk
import Gatehouse.Proofs.Registry.Calls
import Gatehouse.Registry.Database
/-!
# The registry in a database — what a call depends on and what a query leaves

A call reaches the database through `connect` alone, and a database that was opened once opens again as it is
(`connect_connect`).  So two registries that open alike answer alike (`Alike.answers`), and a query leaves one that opens
like the one before it (`alike_get`).
-/
namespace Gatehouse
namespace DatabaseRegistry

variable {h : Host} {l : Location} {disk disk' : Disk} {c : Connection} {r a b : DatabaseRegistry}

/-! ## Opening again -/

/-- The disk and the connection of a location whose directory is there. -/
def opening (disk : Disk) (directory : String) (l : Location) : Except RegistryError (Disk × Connection) :=
  match l.file with
  | none => .ok (disk, .memory Sql.Database.blank)
  | some path => (openFile disk directory path l.readOnly).map fun (disk, place) => (disk, .file place l.readOnly)

/-- The disk and the connection once the table is asked for. -/
def preparing (s : DatabaseSettings) (disk : Disk) (c : Connection) : Except RegistryError (Disk × Connection) :=
  if s.createSchema then createTable disk c else .ok (disk, c)

/-- A registry as it is after its disk has changed. -/
def withDisk (r : DatabaseRegistry) (disk : Disk) : DatabaseRegistry := { r with host := { r.host with disk := disk } }

@[simp] theorem withDisk_directory (r : DatabaseRegistry) (disk : Disk) :
    (r.withDisk disk).host.directory = r.host.directory := rfl

@[simp] theorem withDisk_settings (r : DatabaseRegistry) (disk : Disk) : (r.withDisk disk).settings = r.settings := rfl

@[simp] theorem withDisk_withDisk (r : DatabaseRegistry) (disk disk' : Disk) :
    (r.withDisk disk).withDisk disk' = r.withDisk disk' := rfl

theorem makeDirectory_again (hmade : makeDirectory h l = .ok disk) (hgrows : disk.Grows disk') :
    makeDirectory { h with disk := disk' } l = .ok disk' := by
  unfold makeDirectory at hmade ⊢
  split at hmade
  · rfl
  rename_i parent _
  dsimp only
  split at hmade
  · rename_i hempty
    rw [if_pos hempty]
  rename_i hempty
  rw [if_neg hempty]
  split at hmade
  · rename_i made hcreated
    cases hmade
    rw [Disk.createDirectories_again hcreated hgrows]
  · cases hmade

theorem openFile_again {directory path : String} {readOnly : Bool} {place : List String}
    (hopen : openFile disk directory path readOnly = .ok (disk', place)) :
    disk.Grows disk' ∧ openFile disk' directory path readOnly = .ok (disk', place) := by
  unfold openFile at hopen
  split at hopen
  · cases hopen
  rename_i found hfound
  split at hopen
  · cases hopen
  · rename_i node hdirectory hnode
    cases hopen
    refine ⟨.refl disk, ?_⟩
    rw [openFile, hfound]
    dsimp only
    rw [hnode]
    cases node with
    | directory => exact absurd rfl hdirectory
    | _ => rfl
  · rename_i hnone
    split at hopen
    · split at hopen
      · cases hopen
      · cases hopen
        have hfree := Disk.no_directory hnone
        have hgrows := Disk.grows_put hfree (.text "")
        refine ⟨hgrows, ?_⟩
        rw [openFile, Disk.resolve_of_grows hgrows hfound]
        dsimp only
        rw [Disk.node?_put_self hfree]
    · cases hopen

theorem opening_again {directory : String} (hopen : opening disk directory l = .ok (disk', c)) :
    disk.Grows disk' ∧ opening disk' directory l = .ok (disk', c) := by
  unfold opening at hopen ⊢
  split at hopen
  · cases hopen
    exact ⟨.refl disk, rfl⟩
  · rename_i path _
    cases hfile : openFile disk directory path l.readOnly with
    | error e => rw [hfile] at hopen; cases hopen
    | ok result =>
      rw [hfile] at hopen
      cases hopen
      obtain ⟨hgrows, hagain⟩ := openFile_again hfile
      exact ⟨hgrows, by rw [hagain]; rfl⟩

/-- How a registry opens whose database has a place. -/
theorem connect_of_made (hconnection : r.connection = none)
    (hurl : Location.ofUrl? (r.host.expandTilde r.settings.url) = some l) (hmade : makeDirectory r.host l = .ok disk) :
    r.connect = match opening disk r.host.directory l with
      | .error e => (.error e, r.withDisk disk)
      | .ok (disk, c) => match preparing r.settings disk c with
        | .error e => (.error e, r.withDisk disk)
        | .ok (disk, c) => (.ok c, { r.withDisk disk with connection := some c }) := by
  obtain ⟨family, settings, host, connection⟩ := r
  cases hconnection
  simp only [connect, hurl, hmade]
  rfl

theorem connect_of_connection (hconnection : r.connection = some c) : r.connect = (.ok c, r) := by
  rw [connect, hconnection]

/-- **A database opens again as it was opened**, or fails to in the same way. -/
theorem connect_connect (r : DatabaseRegistry) : r.connect.2.connect = r.connect := by
  cases hconnection : r.connection with
  | some c => rw [connect_of_connection hconnection, connect_of_connection hconnection]
  | none =>
    cases hurl : Location.ofUrl? (r.host.expandTilde r.settings.url) with
    | none =>
      have hconnect : r.connect = (.error (trouble "invalid url"), r) := by simp only [connect, hconnection, hurl]
      rw [hconnect, hconnect]
    | some l =>
      cases hmade : makeDirectory r.host l with
      | error e =>
        have hconnect : r.connect = (.error e, r) := by simp only [connect, hconnection, hurl, hmade]
        rw [hconnect, hconnect]
      | ok disk =>
        have hconnect := connect_of_made hconnection hurl hmade
        -- however far opening came, the directory is there the second time
        have hagain : ∀ {disk'}, disk.Grows disk' → (r.withDisk disk').connect = _ := fun hgrows =>
          connect_of_made hconnection hurl (makeDirectory_again hmade hgrows)
        cases hopen : opening disk r.host.directory l with
        | error e =>
          rw [hopen] at hconnect
          rw [hconnect, hagain (.refl disk), withDisk_directory, hopen, withDisk_withDisk]
        | ok opened =>
          obtain ⟨disk', c⟩ := opened
          obtain ⟨hgrows, hopen'⟩ := opening_again hopen
          rw [hopen] at hconnect
          dsimp only at hconnect
          cases hprepared : preparing r.settings disk' c with
          | error e =>
            rw [hprepared] at hconnect
            rw [hconnect, hagain hgrows, withDisk_directory, hopen']
            dsimp only
            rw [withDisk_settings, hprepared, withDisk_withDisk]
          | ok prepared =>
            rw [hprepared] at hconnect
            rw [hconnect]
            exact connect_of_connection rfl

theorem connect_settings (r : DatabaseRegistry) : r.connect.2.settings = r.settings ∧ r.connect.2.family = r.family := by
  unfold connect
  split
  · exact ⟨rfl, rfl⟩
  split
  · exact ⟨rfl, rfl⟩
  split
  · exact ⟨rfl, rfl⟩
  dsimp only
  split
  · exact ⟨rfl, rfl⟩
  split
  · exact ⟨rfl, rfl⟩
  · exact ⟨rfl, rfl⟩

/-! ## Registries that open alike -/

/-- Two registries with the same settings that open alike. -/
structure Alike (a b : DatabaseRegistry) : Prop where
  family : a.family = b.family
  settings : a.settings = b.settings
  connect : a.connect = b.connect

theorem Alike.refl (a : DatabaseRegistry) : Alike a a := ⟨rfl, rfl, rfl⟩

/-- A registry opens like the one that has been opened. -/
theorem alike_connect (r : DatabaseRegistry) : Alike r r.connect.2 :=
  ⟨(connect_settings r).2.symm, (connect_settings r).1.symm, (connect_connect r).symm⟩

theorem Alike.execute (hab : Alike a b) (text : String) (parameters : List Sql.Value) :
    a.execute text parameters = b.execute text parameters := by
  unfold DatabaseRegistry.execute
  rw [hab.connect]

variable {α : Type}

/-- The same result, and registries that open alike after it. -/
def Agree (x y : Except RegistryError α × DatabaseRegistry) : Prop := x.1 = y.1 ∧ Alike x.2 y.2

theorem Agree.refl (x : Except RegistryError α × DatabaseRegistry) : Agree x x := ⟨rfl, .refl x.2⟩

theorem Alike.enabled (hab : Alike a b) (text : String) {x y : Except RegistryError α × DatabaseRegistry}
    (hxy : Agree x y) : Agree (enabled text a x) (enabled text b y) := by
  unfold DatabaseRegistry.enabled
  by_cases hblank : Text.isBlankText text = true
  · rw [if_pos hblank, if_pos hblank]
    exact ⟨rfl, hab⟩
  · rwa [if_neg hblank, if_neg hblank]

theorem Alike.get (hab : Alike a b) (identity : String) : Agree (a.get identity) (b.get identity) := by
  unfold DatabaseRegistry.get
  rw [hab.settings, hab.execute]
  exact hab.enabled _ (.refl _)

theorem Alike.all (hab : Alike a b) : Agree a.all b.all := by
  unfold DatabaseRegistry.all
  rw [hab.settings, hab.execute]
  exact hab.enabled _ (.refl _)

theorem Alike.insert (hab : Alike a b) (identity publicKey : String) (level : Nat) :
    Agree (a.insert identity publicKey level) (b.insert identity publicKey level) := by
  unfold DatabaseRegistry.insert
  rw [hab.settings, hab.family]
  refine hab.enabled _ ?_
  split
  · exact ⟨rfl, hab⟩
  · rw [hab.execute]
    exact .refl _

theorem Alike.update (hab : Alike a b) (identity publicKey : String) (level : Nat) :
    Agree (a.update identity publicKey level) (b.update identity publicKey level) := by
  unfold DatabaseRegistry.update
  rw [hab.settings, hab.family]
  refine hab.enabled _ ?_
  split
  · exact ⟨rfl, hab⟩
  · rw [hab.execute]
    exact .refl _

theorem Alike.delete (hab : Alike a b) (identity : String) : Agree (a.delete identity) (b.delete identity) := by
  unfold DatabaseRegistry.delete
  rw [hab.settings, hab.execute]
  exact hab.enabled _ (.refl _)

/-- Results that agree make the same answer. -/
theorem Agree.answered {x y : Except RegistryError α × DatabaseRegistry} (hxy : Agree x y)
    (answer : Reply α → Registry.Answer) :
    answer (.answered x.1) = answer (.answered y.1) ∧ Alike x.2 y.2 := by
  rw [hxy.1]
  exact ⟨rfl, hxy.2⟩

/-- **One call**: the same answer, and registries that still open alike. -/
theorem Alike.perform (hab : Alike a b) (c : Registry.Call) :
    (Registry.perform a c).1 = (Registry.perform b c).1 ∧ Alike (Registry.perform a c).2 (Registry.perform b c).2 := by
  cases c with
  | get identity => exact (hab.get identity).answered .record
  | all => exact hab.all.answered .records
  | insert identity publicKey level => exact (hab.insert identity publicKey level).answered .done
  | update identity publicKey level => exact (hab.update identity publicKey level).answered .done
  | delete identity => exact (hab.delete identity).answered .done

/-- **Any calls in a row** are answered the same. -/
theorem Alike.answers : ∀ {a b : DatabaseRegistry}, Alike a b → ∀ calls : List Registry.Call,
    Registry.answers a calls = Registry.answers b calls
  | _, _, _, [] => rfl
  | a, b, hab, c :: rest => by
    obtain ⟨hanswer, hafter⟩ := hab.perform c
    rw [Registry.answers, Registry.answers, hanswer, hafter.answers rest]

/-! ## Statements -/

/-- **What a statement does to a registry.**  It opens it; more than that is done by a change alone, on a table that is
there and not read-only. -/
theorem state_execute (r : DatabaseRegistry) (text : String) (parameters : List Sql.Value) :
    (r.execute text parameters).2 = r.connect.2 ∨
      ∃ c statement rows disk next, r.connect.1 = .ok c ∧ c.isReadOnly = false ∧
        (content? r.connect.2.host.disk c).bind Sql.Database.keys = some rows ∧
        Sql.Statement.read? text = some statement ∧ statement.isQuery = false ∧
        (∃ content, write? r.connect.2.host.disk c content = some (disk, next)) ∧
        (r.execute text parameters).2 = { r.connect.2.withDisk disk with connection := some next } := by
  unfold DatabaseRegistry.execute
  rcases r.connect with ⟨e | c, after⟩
  · exact .inl rfl
  dsimp only
  cases hcontent : content? after.host.disk c with
  | none => exact .inl rfl
  | some content =>
    dsimp only
    split
    · rename_i statement rows hread hkeys
      cases hquery : statement.isQuery with
      | true =>
        rw [Bool.not_true, Bool.false_and, if_neg Bool.false_ne_true]
        split
        · exact .inl rfl
        · exact .inl rfl
        · exact .inl rfl
      | false =>
        cases hreadOnly : c.isReadOnly with
        | true => exact .inl rfl
        | false =>
          rw [Bool.not_false, Bool.true_and, if_neg Bool.false_ne_true]
          split
          · exact .inl rfl
          · exact .inl rfl
          rw [if_neg Bool.false_ne_true]
          split
          · rename_i disk next hwrite
            exact .inr ⟨c, statement, rows, disk, next, rfl, hreadOnly, by rw [hcontent]; exact hkeys, hread, hquery,
              ⟨_, hwrite⟩, rfl⟩
          · exact .inl rfl
    · exact .inl rfl
    · exact .inl rfl

/-- A registry is as another one is, or as one statement leaves that one. -/
def Runs (r after : DatabaseRegistry) : Prop := after = r ∨ ∃ text parameters, after = (r.execute text parameters).2

theorem Runs.enabled {α : Type} {call : Except RegistryError α × DatabaseRegistry} (h : Runs r call.2) (text : String) :
    Runs r (enabled text r call).2 := by
  unfold DatabaseRegistry.enabled
  split
  · exact .inl rfl
  · exact h

/-- **A call runs one statement at most.** -/
theorem runs_perform (r : DatabaseRegistry) (c : Registry.Call) : Runs r (Registry.perform r c).2 := by
  cases c with
  | get identity =>
    refine Runs.enabled (.inr ⟨r.settings.queries.select, [.text identity], ?_⟩) _
    rcases r.execute r.settings.queries.select [.text identity] with ⟨e | ⟨_ | ⟨row, rest⟩, _, _⟩, after⟩ <;> rfl
  | all =>
    refine Runs.enabled (.inr ⟨r.settings.queries.index, [], ?_⟩) _
    rcases r.execute r.settings.queries.index [] with ⟨e | outcome, after⟩ <;> rfl
  | insert identity publicKey level =>
    refine Runs.enabled ?_ _
    cases KeyRecord.checkEntry r.family identity publicKey with
    | error e => exact .inl rfl
    | ok pem =>
      refine .inr ⟨r.settings.queries.insert, [.text identity, .text pem, .integer level], ?_⟩
      dsimp only
      rcases r.execute r.settings.queries.insert [.text identity, .text pem, .integer level] with ⟨e | outcome, after⟩ <;>
        rfl
  | update identity publicKey level =>
    refine Runs.enabled ?_ _
    cases KeyRecord.checkEntry r.family identity publicKey with
    | error e => exact .inl rfl
    | ok pem =>
      refine .inr ⟨r.settings.queries.update, [.text pem, .integer level, .text identity], ?_⟩
      dsimp only
      rcases r.execute r.settings.queries.update [.text pem, .integer level, .text identity] with ⟨e | outcome, after⟩ <;>
        rfl
  | delete identity =>
    refine Runs.enabled (.inr ⟨r.settings.queries.delete, [.text identity], ?_⟩) _
    rcases r.execute r.settings.queries.delete [.text identity] with ⟨e | outcome, after⟩ <;> rfl

/-! ## Queries -/

/-- A text that is read as a query, or a blank one, which is never run.  A text that is not read here may still be a
statement to a database, and one that writes, so it does not count. -/
def OnlyReads (text : String) : Prop :=
  Text.isBlankText text = true ∨ (Sql.Statement.read? text).any Sql.Statement.isQuery = true

instance (text : String) : Decidable (OnlyReads text) := inferInstanceAs (Decidable (_ ∨ _))

/-- The look-up of the default settings only reads. -/
theorem onlyReads_defaults : OnlyReads Queries.defaults.select := by decide

/-- **A query leaves a registry that opens like the one before it.** -/
theorem alike_execute {text : String} (hquery : (Sql.Statement.read? text).any Sql.Statement.isQuery = true)
    (r : DatabaseRegistry) (parameters : List Sql.Value) : Alike r (r.execute text parameters).2 := by
  rcases state_execute r text parameters with hopened | ⟨_, statement, _, _, _, -, -, -, hread, hwrites, -⟩
  · rw [hopened]
    exact alike_connect r
  · rw [hread, Option.any_some, hwrites] at hquery
    cases hquery

/-- **So does a look-up that only reads.** -/
theorem alike_get (honly : OnlyReads r.settings.queries.select) (identity : String) :
    Alike r (r.get identity).2 := by
  unfold DatabaseRegistry.get DatabaseRegistry.enabled
  split
  · exact .refl r
  rename_i hrun
  have hafter := alike_execute (honly.resolve_left hrun) r [.text identity]
  split
  · rename_i hfailed
    rwa [hfailed] at hafter
  · rename_i hfound
    rw [hfound] at hafter
    split
    · exact hafter
    · exact hafter

end DatabaseRegistry
end Gatehouse
