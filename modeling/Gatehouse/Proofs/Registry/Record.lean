import Gatehouse.Registry.Record
/-!
# Records — what may be stored

`IsIdentity` says what an identity is, and `checkEntry_eq_ok_iff` what passes the checks of an entry and what they make
of its key.
-/
namespace Gatehouse
namespace KeyRecord

variable {family : KeyFamily} {identity publicKey pem : String}

/-- One to 254 bytes without a blank or a control character. -/
structure IsIdentity (identity : String) : Prop where
  filled : 1 ≤ identity.utf8ByteSize
  bounded : identity.utf8ByteSize ≤ 254
  plain : ∀ c ∈ identity.toList, Text.isBlank c = false ∧ Text.isControl c = false

theorem isPlain_eq_true_iff {s : String} :
    isPlain s = true ↔ ∀ c ∈ s.toList, Text.isBlank c = false ∧ Text.isControl c = false := by
  simp [isPlain, List.all_eq_true]

theorem isEmpty_eq_false_iff {s : String} : s.isEmpty = false ↔ 1 ≤ s.utf8ByteSize := by
  rw [String.isEmpty, beq_eq_false_iff_ne, Nat.one_le_iff_ne_zero]

/-- **What passes as an identity.** -/
theorem checkIdentity_eq_ok_iff : checkIdentity identity = .ok () ↔ IsIdentity identity := by
  constructor
  · intro h
    unfold checkIdentity at h
    split at h
    · cases h
    rename_i hempty
    split at h
    · cases h
    rename_i hlength
    split at h
    · rename_i hplain
      exact ⟨isEmpty_eq_false_iff.1 (Bool.eq_false_iff.2 hempty), Nat.le_of_not_lt hlength, isPlain_eq_true_iff.1 hplain⟩
    · cases h
  · rintro ⟨hfilled, hbounded, hplain⟩
    have hempty : ¬ identity.isEmpty = true := Bool.eq_false_iff.1 (isEmpty_eq_false_iff.2 hfilled)
    have hlength : ¬ maxIdentityLength < identity.utf8ByteSize := Nat.not_lt.2 hbounded
    rw [checkIdentity, if_neg hempty, if_neg hlength, if_pos (isPlain_eq_true_iff.2 hplain)]

/-- **What passes as an entry**: an identity with a key of the family, which is stored in normal form. -/
theorem checkEntry_eq_ok_iff :
    checkEntry family identity publicKey = .ok pem ↔
      IsIdentity identity ∧ ∃ text, Key.normalize family publicKey.toList = .ok text ∧ pem = String.ofList text := by
  rw [← checkIdentity_eq_ok_iff]
  constructor
  · intro h
    unfold checkEntry at h
    split at h
    · cases h
    rename_i hidentity
    split at h
    · rename_i text hnormal
      cases h
      exact ⟨hidentity, text, hnormal, rfl⟩
    · cases h
  · rintro ⟨hidentity, text, hnormal, rfl⟩
    simp only [checkEntry, hidentity, hnormal]

/-- What does not pass is the request's own fault. -/
theorem error_of_checkEntry {e : RegistryError} (h : checkEntry family identity publicKey = .error e) :
    ∃ reason, e = .invalidInput reason := by
  unfold checkEntry at h
  split at h
  · rename_i e' hidentity
    cases h
    unfold checkIdentity at hidentity
    split at hidentity
    · cases hidentity
      exact ⟨_, rfl⟩
    split at hidentity
    · cases hidentity
      exact ⟨_, rfl⟩
    split at hidentity
    · cases hidentity
    · cases hidentity
      exact ⟨_, rfl⟩
  split at h
  · cases h
  · cases h
    exact ⟨_, rfl⟩

end KeyRecord
end Gatehouse
