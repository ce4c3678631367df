import Gatehouse.Proofs.Key.Normal
import Gatehouse.Proofs.Registry.Memory
import Gatehouse.Proofs.Registry.Record
/-!
# The registry in memory — its invariant

`IsEntry` says what lies under an identity: a record of that identity, which is a proper one, with a key of the family
in normal form.  `after_built`: it holds of every entry from the start on, however the registry was built and whatever
is called; and nothing but a change that is made changes anything, which in a read-only registry none is.
-/
namespace Gatehouse
namespace MemoryRegistry

open Registry (Call)

variable {family : KeyFamily} {m next : MemoryRegistry} {identity publicKey pem : String} {level : Nat}

/-- What lies under an identity. -/
structure IsEntry (family : KeyFamily) (identity : String) (r : KeyRecord) : Prop where
  named : r.identity = identity
  isIdentity : KeyRecord.IsIdentity identity
  normal : Key.normalize family r.publicKey.toList = .ok r.publicKey.toList
  isPublic : Key.isPublic family r.publicKey.toList = true

/-- **What passes the checks may be stored.**  The key is stored as it was normalized, and normalizing it again would
not change it. -/
theorem isEntry_of_checkEntry (h : KeyRecord.checkEntry family identity publicKey = .ok pem) (level : Nat) :
    IsEntry family identity ⟨identity, pem, level⟩ := by
  obtain ⟨hidentity, text, hnormal, rfl⟩ := KeyRecord.checkEntry_eq_ok_iff.1 h
  obtain ⟨hagain, hpublic⟩ := Key.normalize_of_normalize hnormal
  refine ⟨rfl, hidentity, ?_, ?_⟩
  · rwa [String.toList_ofList]
  · rwa [String.toList_ofList]

/-! ## Ways to build a registry -/

/-- A registry as it is built: from nothing, from records or from settings. -/
inductive Built (family : KeyFamily) : MemoryRegistry → Prop
  | blank : Built family (.empty family)
  | seeded {records : List KeyRecord} {readOnly : Bool} {m : MemoryRegistry}
      (h : ofRecords family records readOnly = .ok m) : Built family m
  | configured {host : Host} {s : MemorySettings} {m : MemoryRegistry} (h : ofSettings host family s = .ok m) :
      Built family m

/-- All three start with given records. -/
theorem Built.exists_records (h : Built family m) : ∃ records readOnly, ofRecords family records readOnly = .ok m := by
  cases h with
  | blank => exact ⟨[], false, rfl⟩
  | seeded h => exact ⟨_, _, h⟩
  | configured h =>
    simp only [ofSettings, bind, Except.bind] at h
    split at h
    · cases h
    · exact ⟨_, _, h⟩

theorem Built.every (h : Built family m) : m.family = family ∧ Every (IsEntry family) m.records := by
  obtain ⟨records, readOnly, hseeded⟩ := h.exists_records
  obtain ⟨hfamily, -, hevery⟩ :=
    every_ofRecords (fun r _ pem hentry => isEntry_of_checkEntry hentry r.accessLevel) hseeded
  exact ⟨hfamily, hevery⟩

/-! ## Calls -/

/-- One call keeps the family and every entry. -/
theorem isEntry_perform (h : m.family = family ∧ Every (IsEntry family) m.records) (c : Call) :
    (Registry.perform m c).2.family = family ∧ Every (IsEntry family) (Registry.perform m c).2.records := by
  obtain ⟨rfl, hevery⟩ := h
  exact ⟨(sameKind_perform m c).1, every_perform hevery (fun _ _ hr => hr.named)
    fun _ _ level _ _ hentry => isEntry_of_checkEntry hentry level⟩

/-- A read-only registry refuses every change. -/
theorem perform_of_readOnly (h : m.readOnly = true) (c : Call) : (Registry.perform m c).2 = m := by
  cases c with
  | get identity => rfl
  | all => rfl
  | insert identity publicKey level =>
    refine change_keeps (Q := (· = m)) rfl fun next hnext => ?_
    exact absurd (insert_ok hnext).1 (by rw [h]; decide)
  | update identity publicKey level =>
    refine change_keeps (Q := (· = m)) rfl fun next hnext => ?_
    exact absurd (update_ok hnext).1 (by rw [h]; decide)
  | delete identity =>
    refine change_keeps (Q := (· = m)) rfl fun next hnext => ?_
    exact absurd (delete_ok hnext).1 (by rw [h]; decide)

/-- **What every state of the registry keeps.**  However it was built and whatever was called: each entry is a record
of its own identity with a key in normal form, a read-only registry is as it was built, and a call that makes no
change leaves everything as it is. -/
theorem after_built (hbuilt : Built family m) (calls : List Call) :
    (∀ e ∈ (Registry.after m calls).records.entries, IsEntry family e.1 e.2) ∧
      (m.readOnly = true → Registry.after m calls = m) ∧
      ∀ c, (Registry.perform (Registry.after m calls) c).1.isDone = false →
        Registry.after m (calls ++ [c]) = Registry.after m calls := by
  refine ⟨?_, fun hreadOnly => ?_, fun c hrefused => ?_⟩
  · exact (Registry.after_keeps (P := fun m : MemoryRegistry => m.family = family ∧ Every (IsEntry family) m.records)
      (fun _ c h => isEntry_perform h c) calls hbuilt.every).2
  · refine Registry.after_keeps (P := (· = m)) (fun s c hs => ?_) calls rfl
    rw [hs]
    exact perform_of_readOnly hreadOnly c
  · rw [Registry.after_append]
    exact perform_of_not_done hrefused

/-- A key that is registered and then given another level is still in normal form. -/
theorem after_two_calls :
    Built .rsa (.empty .rsa) ∧
      (Registry.after (.empty .rsa) [.insert "ann" shortKey 1, .update "ann" shortKey 2] : MemoryRegistry).get "ann" =
        some ⟨"ann", shortKey, 2⟩ ∧
      IsEntry .rsa "ann" ⟨"ann", shortKey, 2⟩ := by
  have hget : (Registry.after (.empty .rsa) [.insert "ann" shortKey 1, .update "ann" shortKey 2] : MemoryRegistry).get
      "ann" = some ⟨"ann", shortKey, 2⟩ := by
    have hinsert : (MemoryRegistry.empty .rsa).insert "ann" shortKey 1 = _ :=
      insert_of_checkEntry rfl checkEntry_shortKey rfl
    have hupdate : MemoryRegistry.update { MemoryRegistry.empty .rsa with
        records := (MemoryRegistry.empty .rsa).records.insert "ann" ⟨"ann", shortKey, 1⟩ } "ann" shortKey 2 = _ :=
      update_of_checkEntry rfl checkEntry_shortKey rfl
    simp only [Registry.after, Registry.perform, Registry.insert, Registry.update, hinsert, hupdate, change]
    rfl
  exact ⟨.blank, hget, (after_built .blank _).1 _ (Assoc.mem_of_get? hget)⟩

end MemoryRegistry
end Gatehouse
