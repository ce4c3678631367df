import Mathlib.Data.List.Forall2
import Gatehouse.Proofs.Text
/-!
# Words — texts up to the case of ASCII letters

`SameWord` compares two texts letter by letter.  Writing both in capitals, or both in small letters, decides it
(`sameWord_iff`, `sameWord_iff_lower`).  Small letters and the blanks at the ends of a text do not get into each other's
way (`lower_trim`).
-/
namespace Gatehouse
namespace Text

variable {s t : String} {c : Char}

/-- Two characters are the same up to the case of an ASCII letter. -/
def SameLetter (c d : Char) : Prop :=
  c = d ∨ c.isUpper = true ∧ d.toNat = c.toNat + 32 ∨ d.isUpper = true ∧ c.toNat = d.toNat + 32

/-- Two texts are the same up to the case of ASCII letters. -/
def SameWord (s t : String) : Prop := List.Forall₂ SameLetter s.toList t.toList

/-- A text holds nothing but blanks. -/
def Blank (s : String) : Prop := ∀ c ∈ s.toList, isBlank c = true

theorem isBlankText_iff : isBlankText s = true ↔ Blank s := List.all_eq_true

theorem isUpper_iff (c : Char) : c.isUpper = true ↔ 65 ≤ c.toNat ∧ c.toNat ≤ 90 := by
  have hrange : c.isUpper = decide (0x41 ≤ c.val ∧ c.val ≤ 0x5A) := rfl
  rw [hrange, decide_eq_true_eq]
  exact Iff.rfl

/-- Words are the same if they are written the same by what makes letters the same. -/
theorem sameWord_iff_map {f : Char → Char} (hf : ∀ c d, SameLetter c d ↔ f c = f d) :
    SameWord s t ↔ s.toList.map f = t.toList.map f := by
  rw [SameWord, ← List.forall₂_eq_eq_eq, List.forall₂_map_left_iff, List.forall₂_map_right_iff]
  exact ⟨List.Forall₂.imp fun c d => (hf c d).1, List.Forall₂.imp fun c d => (hf c d).2⟩

/-! ## Capitals -/

theorem toNat_toUpper (c : Char) :
    c.toUpper.toNat = if 97 ≤ c.toNat ∧ c.toNat ≤ 122 then c.toNat - 32 else c.toNat := by
  unfold Char.toUpper
  split
  · rename_i h
    have h : 97 ≤ c.toNat ∧ c.toNat ≤ 122 := h
    rw [if_pos h]
    show (c.val + ('A'.val - 'a'.val)).toNat = _
    rw [UInt32.toNat_add]
    show (c.toNat + 4294967264) % 4294967296 = _
    omega
  · rename_i h
    exact (if_neg h).symm

theorem sameLetter_iff (c d : Char) : SameLetter c d ↔ c.toUpper = d.toUpper := by
  rw [SameLetter, isUpper_iff, isUpper_iff, ← Char.toNat_inj, ← Char.toNat_inj, toNat_toUpper, toNat_toUpper]
  split <;> split <;> omega

theorem sameWord_iff : SameWord s t ↔ upper s = upper t := by
  rw [upper, upper, String.ofList_inj, sameWord_iff_map sameLetter_iff]

/-! ## Small letters -/

theorem toNat_toLower (c : Char) :
    c.toLower.toNat = if 65 ≤ c.toNat ∧ c.toNat ≤ 90 then c.toNat + 32 else c.toNat := by
  unfold Char.toLower
  split
  · rename_i h
    have h : 65 ≤ c.toNat ∧ c.toNat ≤ 90 := h
    rw [if_pos h]
    show (c.val + ('a'.val - 'A'.val)).toNat = _
    rw [UInt32.toNat_add]
    show (c.toNat + 32) % 4294967296 = _
    omega
  · rename_i h
    exact (if_neg h).symm

theorem sameLetter_iff_lower (c d : Char) : SameLetter c d ↔ c.toLower = d.toLower := by
  rw [SameLetter, isUpper_iff, isUpper_iff, ← Char.toNat_inj, ← Char.toNat_inj, toNat_toLower, toNat_toLower]
  split <;> split <;> omega

theorem sameWord_iff_lower : SameWord s t ↔ lower s = lower t := by
  rw [lower, lower, String.ofList_inj, sameWord_iff_map sameLetter_iff_lower]

theorem toLower_eq_self_iff : c.toLower = c ↔ c.isUpper = false := by
  rw [← Char.toNat_inj, toNat_toLower, ← Bool.not_eq_true, isUpper_iff]
  split <;> omega

theorem isBlank_toLower (c : Char) : isBlank c.toLower = isBlank c := by
  by_cases hupper : 65 ≤ c.toNat ∧ c.toNat ≤ 90
  · have hlower : c.toLower.toNat = c.toNat + 32 := by rw [toNat_toLower, if_pos hupper]
    simp only [isBlank, hlower]
    rw [Bool.eq_iff_iff]
    simp only [Bool.or_eq_true, Bool.and_eq_true, decide_eq_true_eq, beq_iff_eq]
    omega
  · rw [toLower_eq_self_iff.2 (by rwa [← Bool.not_eq_true, isUpper_iff])]

/-- Small letters are trimmed like the letters that they are made of. -/
theorem trimChars_map_toLower (cs : List Char) : trimChars (cs.map Char.toLower) = (trimChars cs).map Char.toLower := by
  have hblank : isBlank ∘ Char.toLower = isBlank := funext isBlank_toLower
  rw [trimChars, dropEnd, List.dropWhile_map, hblank, ← List.map_reverse, List.dropWhile_map, hblank, ← List.map_reverse]
  rfl

theorem lower_trim (s : String) : lower (trim s) = trim (lower s) := by
  simp only [lower, trim, String.toList_ofList, trimChars_map_toLower]

theorem lower_lower (s : String) : lower (lower s) = lower s := by
  have hletter : ∀ c : Char, c.toLower.toLower = c.toLower := fun c => by
    rw [toLower_eq_self_iff, ← Bool.not_eq_true, isUpper_iff, toNat_toLower]
    split <;> omega
  simp only [lower, String.toList_ofList, List.map_map, Function.comp_def, hletter]

theorem trim_trim (s : String) : trim (trim s) = trim s := by
  simp only [trim, String.toList_ofList, trimChars_trimChars]

end Text
end Gatehouse
