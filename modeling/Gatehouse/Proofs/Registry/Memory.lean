import Gatehouse.Proofs.Registry.Calls
import Gatehouse.Proofs.Result
import Gatehouse.Proofs.SortedMap
import Gatehouse.Registry.Memory
/-!
# The registry in memory — what every state of it keeps

What holds of every record that is put in holds of every record at any time: `every_ofRecords` for the start,
`every_perform` for a call.  `Keyed` is one such property: a record lies under its own identity, and its level has
32 bits.
-/
namespace Gatehouse
namespace MemoryRegistry

variable {records : SortedMap KeyRecord} {P : String → KeyRecord → Prop}

/-- Every record, under its identity, has a property. -/
def Every (P : String → KeyRecord → Prop) (records : SortedMap KeyRecord) : Prop := ∀ e ∈ records.entries, P e.1 e.2

theorem every_empty : Every P SortedMap.empty := fun _ h => nomatch h

theorem Every.get? (h : Every P records) {identity : String} {r : KeyRecord} (hr : records.get? identity = some r) :
    P identity r :=
  h _ (Assoc.mem_of_get? hr)

theorem Every.insert (h : Every P records) {identity : String} {r : KeyRecord} (hr : P identity r) :
    Every P (records.insert identity r) := by
  intro e he
  rcases Assoc.mem_insert he with rfl | he
  · exact hr
  · exact h e he

theorem Every.erase (h : Every P records) (identity : String) : Every P (records.erase identity) :=
  fun e he => h e (Assoc.mem_erase he)

/-- Records lie under their own identities, and their levels have 32 bits. -/
def Keyed (records : SortedMap KeyRecord) : Prop :=
  ∀ e ∈ records.entries, e.2.identity = e.1 ∧ e.2.accessLevel < 2 ^ 32

/-- A record lies under its own identity, and its level has 32 bits. -/
def InPlace (identity : String) (r : KeyRecord) : Prop := r.identity = identity ∧ r.accessLevel < 2 ^ 32

theorem keyed_iff_every : Keyed records ↔ Every InPlace records := Iff.rfl

theorem Keyed.get? (h : Keyed records) {identity : String} {r : KeyRecord} (hr : records.get? identity = some r) :
    r.identity = identity ∧ r.accessLevel < 2 ^ 32 :=
  h _ (Assoc.mem_of_get? hr)

theorem keyed_empty : Keyed SortedMap.empty := keyed_iff_every.2 every_empty

theorem Keyed.insert (h : Keyed records) (identity publicKey : String) {level : Nat} (hlevel : level < 2 ^ 32) :
    Keyed (records.insert identity ⟨identity, publicKey, level⟩) :=
  keyed_iff_every.2 ((keyed_iff_every.1 h).insert ⟨rfl, hlevel⟩)

/-! ## At the start -/

theorem every_seed {family : KeyFamily} : ∀ {rs : List KeyRecord} {acc : SortedMap KeyRecord}, Every P acc →
    (∀ r ∈ rs, ∀ pem, KeyRecord.checkEntry family r.identity r.publicKey = .ok pem →
      P r.identity { r with publicKey := pem }) → seed family rs acc = .ok records → Every P records
  | [], acc, hacc, _, h => by
    rw [seed, Except.ok.injEq] at h
    rwa [← h]
  | r :: rs, acc, hacc, hput, h => by
    unfold seed at h
    split at h
    · cases h
    · rename_i pem hentry
      exact every_seed (hacc.insert (hput r List.mem_cons_self pem hentry))
        (fun x hx => hput x (List.mem_cons_of_mem r hx)) h

/-- **What holds of every given record, its key in normal form, holds at the start.** -/
theorem every_ofRecords {family : KeyFamily} {rs : List KeyRecord} {readOnly : Bool} {m : MemoryRegistry}
    (hput : ∀ r ∈ rs, ∀ pem, KeyRecord.checkEntry family r.identity r.publicKey = .ok pem →
      P r.identity { r with publicKey := pem }) (h : ofRecords family rs readOnly = .ok m) :
    m.family = family ∧ m.readOnly = readOnly ∧ Every P m.records := by
  unfold ofRecords at h
  cases hseed : seed family rs SortedMap.empty with
  | error e => rw [hseed] at h; cases h
  | ok records =>
    rw [hseed, Except.map, Except.ok.injEq] at h
    rw [← h]
    exact ⟨rfl, rfl, every_seed every_empty hput hseed⟩

/-- **A registry of given records starts keyed.** -/
theorem keyed_ofRecords {family : KeyFamily} {rs : List KeyRecord} {readOnly : Bool} {m : MemoryRegistry}
    (hlevels : ∀ r ∈ rs, r.accessLevel < 2 ^ 32) (h : ofRecords family rs readOnly = .ok m) : Keyed m.records :=
  keyed_iff_every.2 (every_ofRecords (fun r hr _ _ => ⟨rfl, hlevels r hr⟩) h).2.2

/-- One record, its key in normal form. -/
theorem ofRecords_single {family : KeyFamily} {readOnly : Bool} {identity : String} {text : List Char} {level : Nat}
    (hidentity : KeyRecord.checkIdentity identity = .ok ()) (hnormal : Key.normalize family text = .ok text) :
    ofRecords family [⟨identity, String.ofList text, level⟩] readOnly =
      .ok ⟨family, readOnly, SortedMap.empty.insert identity ⟨identity, String.ofList text, level⟩⟩ := by
  simp only [ofRecords, seed, KeyRecord.checkEntry, hidentity, String.toList_ofList, hnormal, Except.map]

/-- One identity in the settings, its key given in normal form. -/
theorem ofSettings_single (host : Host) {family : KeyFamily} {readOnly : Bool} {identity : String} {text : List Char}
    {level : Nat} (hidentity : KeyRecord.checkIdentity identity = .ok ())
    (hfilled : Text.isBlankText (String.ofList text) = false) (hnormal : Key.normalize family text = .ok text) :
    ofSettings host family ⟨readOnly, SortedMap.empty.insert identity ⟨some (String.ofList text), none, level⟩⟩ =
      .ok ⟨family, readOnly, SortedMap.empty.insert identity ⟨identity, String.ofList text, level⟩⟩ := by
  have hseed : seedText host identity ⟨some (String.ofList text), none, level⟩ = .ok (String.ofList text) := by
    simp only [seedText, Option.filter_some, hfilled, Bool.not_false, if_true]
  have hentries : (SortedMap.empty.insert identity (⟨some (String.ofList text), none, level⟩ : SeedKey)).entries =
      [(identity, ⟨some (String.ofList text), none, level⟩)] := rfl
  simp only [ofSettings, hentries, List.mapM_cons, List.mapM_nil, hseed, bind, Except.bind, Except.map, pure, Except.pure]
  exact ofRecords_single hidentity hnormal

/-- A short text that is a key of the RSA family. -/
@[irreducible] def shortKey : String := String.ofList (Pem.write "RSA PUBLIC KEY".toList [0x05, 0x00])

theorem checkEntry_shortKey : KeyRecord.checkEntry .rsa "ann" shortKey = .ok shortKey := by
  have hidentity : KeyRecord.checkIdentity "ann" = .ok () := rfl
  have hnormal : Key.normalize .rsa (Pem.write "RSA PUBLIC KEY".toList [0x05, 0x00]) =
      .ok (Pem.write "RSA PUBLIC KEY".toList [0x05, 0x00]) := toOption_eq_some_iff.1 (by decide +kernel)
  unfold shortKey
  rw [KeyRecord.checkEntry, hidentity, String.toList_ofList, hnormal]

/-! ## What a change is -/

variable {m next : MemoryRegistry} {identity publicKey : String} {level : Nat}

/-- **A record that is added, unpacked.** -/
theorem insert_ok (h : m.insert identity publicKey level = .ok next) :
    m.readOnly = false ∧ m.records.contains identity = false ∧
      ∃ pem, KeyRecord.checkEntry m.family identity publicKey = .ok pem ∧
        next = { m with records := m.records.insert identity ⟨identity, pem, level⟩ } := by
  unfold MemoryRegistry.insert at h
  split at h
  · cases h
  rename_i hwritable
  split at h
  · cases h
  rename_i pem hentry
  split at h
  · cases h
  rename_i hnew
  cases h
  exact ⟨Bool.eq_false_iff.2 hwritable, Bool.eq_false_iff.2 hnew, pem, hentry, rfl⟩

/-- **A record that is edited, unpacked.** -/
theorem update_ok (h : m.update identity publicKey level = .ok next) :
    m.readOnly = false ∧ ∃ r pem, m.records.get? identity = some r ∧
      KeyRecord.checkEntry m.family identity publicKey = .ok pem ∧
        next = { m with records := m.records.insert identity { r with publicKey := pem, accessLevel := level } } := by
  unfold MemoryRegistry.update at h
  split at h
  · cases h
  rename_i hwritable
  split at h
  · cases h
  rename_i pem hentry
  split at h
  · cases h
  rename_i r hfound
  cases h
  exact ⟨Bool.eq_false_iff.2 hwritable, r, pem, hfound, hentry, rfl⟩

/-- **A record that is taken away, unpacked.** -/
theorem delete_ok (h : m.delete identity = .ok next) :
    m.readOnly = false ∧ m.records.contains identity = true ∧
      next = { m with records := m.records.erase identity } := by
  unfold MemoryRegistry.delete at h
  split at h
  · cases h
  rename_i hwritable
  split at h
  · rename_i hknown
    cases h
    exact ⟨Bool.eq_false_iff.2 hwritable, hknown, rfl⟩
  · cases h

/-- A record is added where there is none. -/
theorem insert_of_checkEntry {pem : String} (hwritable : m.readOnly = false)
    (hentry : KeyRecord.checkEntry m.family identity publicKey = .ok pem) (hnew : m.records.contains identity = false) :
    m.insert identity publicKey level = .ok { m with records := m.records.insert identity ⟨identity, pem, level⟩ } := by
  simp only [MemoryRegistry.insert, hwritable, hentry, hnew, Bool.false_eq_true, if_false]

/-- A record is edited where there is one. -/
theorem update_of_checkEntry {pem : String} {r : KeyRecord} (hwritable : m.readOnly = false)
    (hentry : KeyRecord.checkEntry m.family identity publicKey = .ok pem) (hfound : m.records.get? identity = some r) :
    m.update identity publicKey level =
      .ok { m with records := m.records.insert identity { r with publicKey := pem, accessLevel := level } } := by
  simp only [MemoryRegistry.update, hwritable, hentry, hfound, Bool.false_eq_true, if_false]

/-- A record is taken away where there is one. -/
theorem delete_of_contains (hwritable : m.readOnly = false) (hknown : m.records.contains identity = true) :
    m.delete identity = .ok { m with records := m.records.erase identity } := by
  simp only [MemoryRegistry.delete, hwritable, hknown, Bool.false_eq_true, if_false, if_true]

/-- **A call that is not a change that was made leaves the registry as it is.** -/
theorem perform_of_not_done {c : Registry.Call} (h : (Registry.perform m c).1.isDone = false) :
    (Registry.perform m c).2 = m := by
  have hchange {result : Except RegistryError MemoryRegistry}
      (hdone : (Registry.Answer.done (m.change result).1).isDone = false) : (m.change result).2 = m := by
    cases result with
    | ok next => cases hdone
    | error e => rfl
  cases c with
  | get identity => rfl
  | all => rfl
  | insert identity publicKey level => exact hchange h
  | update identity publicKey level => exact hchange h
  | delete identity => exact hchange h

/-! ## What no call touches -/

/-- Two registries of one family, both read-only or neither. -/
def SameKind (m next : MemoryRegistry) : Prop := next.family = m.family ∧ next.readOnly = m.readOnly

theorem sameKind_insert (hnext : m.insert identity publicKey level = .ok next) : m.SameKind next := by
  obtain ⟨-, -, pem, -, rfl⟩ := insert_ok hnext
  exact ⟨rfl, rfl⟩

theorem sameKind_update (hnext : m.update identity publicKey level = .ok next) : m.SameKind next := by
  obtain ⟨-, r, pem, -, -, rfl⟩ := update_ok hnext
  exact ⟨rfl, rfl⟩

theorem sameKind_delete (hnext : m.delete identity = .ok next) : m.SameKind next := by
  obtain ⟨-, -, rfl⟩ := delete_ok hnext
  exact ⟨rfl, rfl⟩

/-! ## After any call -/

/-- What holds before a change, and of every registry that the change may lead to, holds after it. -/
theorem change_keeps {Q : MemoryRegistry → Prop} {result : Except RegistryError MemoryRegistry} (h : Q m)
    (hnext : ∀ next, result = .ok next → Q next) : Q (m.change result).2 := by
  unfold change
  split
  · rename_i next
    exact hnext next rfl
  · exact h

theorem sameKind_perform (m : MemoryRegistry) (c : Registry.Call) : m.SameKind (Registry.perform m c).2 := by
  have hself : m.SameKind m := ⟨rfl, rfl⟩
  cases c with
  | get identity => exact hself
  | all => exact hself
  | insert identity publicKey level => exact change_keeps hself fun _ => sameKind_insert
  | update identity publicKey level => exact change_keeps hself fun _ => sameKind_update
  | delete identity => exact change_keeps hself fun _ => sameKind_delete

theorem every_insert (h : Every P m.records) (hput : ∀ pem, KeyRecord.checkEntry m.family identity publicKey = .ok pem →
    P identity ⟨identity, pem, level⟩) (hnext : m.insert identity publicKey level = .ok next) : Every P next.records := by
  obtain ⟨-, -, pem, hentry, rfl⟩ := insert_ok hnext
  exact h.insert (hput pem hentry)

/-- The identity of a record that is edited is the one that it had. -/
theorem every_update (h : Every P m.records) (hnamed : ∀ r, P identity r → r.identity = identity)
    (hput : ∀ pem, KeyRecord.checkEntry m.family identity publicKey = .ok pem → P identity ⟨identity, pem, level⟩)
    (hnext : m.update identity publicKey level = .ok next) : Every P next.records := by
  obtain ⟨-, r, pem, hfound, hentry, rfl⟩ := update_ok hnext
  refine h.insert ?_
  rw [hnamed r (h.get? hfound)]
  exact hput pem hentry

theorem every_delete (h : Every P m.records) (hnext : m.delete identity = .ok next) : Every P next.records := by
  obtain ⟨-, -, rfl⟩ := delete_ok hnext
  exact h.erase identity

/-- **What holds of every record that a call gives holds after the call**, if it is about records under their own
identities. -/
theorem every_perform {c : Registry.Call} (h : Every P m.records)
    (hnamed : ∀ identity r, P identity r → r.identity = identity)
    (hput : ∀ identity publicKey level, c.Gives identity publicKey level → ∀ pem,
      KeyRecord.checkEntry m.family identity publicKey = .ok pem → P identity ⟨identity, pem, level⟩) :
    Every P (Registry.perform m c).2.records := by
  cases c with
  | get identity => exact h
  | all => exact h
  | insert identity publicKey level =>
    exact change_keeps (Q := fun m => Every P m.records) h fun _ => every_insert h (hput _ _ _ (.inl rfl))
  | update identity publicKey level =>
    exact change_keeps (Q := fun m => Every P m.records) h fun _ => every_update h (hnamed _) (hput _ _ _ (.inr rfl))
  | delete identity => exact change_keeps (Q := fun m => Every P m.records) h fun _ => every_delete h

theorem keyed_insert (h : Keyed m.records) (hlevel : level < 2 ^ 32)
    (hnext : m.insert identity publicKey level = .ok next) : Keyed next.records :=
  keyed_iff_every.2 (every_insert (keyed_iff_every.1 h) (fun _ _ => ⟨rfl, hlevel⟩) hnext)

theorem keyed_update (h : Keyed m.records) (hlevel : level < 2 ^ 32)
    (hnext : m.update identity publicKey level = .ok next) : Keyed next.records :=
  keyed_iff_every.2 (every_update (keyed_iff_every.1 h) (fun _ hr => hr.1) (fun _ _ => ⟨rfl, hlevel⟩) hnext)

theorem keyed_delete (h : Keyed m.records) (hnext : m.delete identity = .ok next) : Keyed next.records :=
  keyed_iff_every.2 (every_delete (keyed_iff_every.1 h) hnext)

/-- **No call breaks it.** -/
theorem keyed_perform (h : Keyed m.records) {c : Registry.Call} (hc : c.Bounded) :
    Keyed (Registry.perform m c).2.records := by
  refine keyed_iff_every.2 (every_perform (keyed_iff_every.1 h) (fun _ _ hr => hr.1)
    fun identity publicKey level hgives _ _ => ⟨rfl, ?_⟩)
  rcases hgives with rfl | rfl <;> exact hc

end MemoryRegistry
end Gatehouse
