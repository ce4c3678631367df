import Gatehouse.Key.Normal
import Gatehouse.Proofs.Pem
import Gatehouse.Proofs.Result
/-!
# Normal keys — one form, reached in one step

`Normal` says what is stored: a text without outer blanks that begins like PEM, ended by one line feed, and a key of
its family.  Whatever is normalized is brought into that form (`normal_of_normalize`), a text in that form is its own
normal form (`Normal.normalize_eq`), and blanks at the ends of a text have no part in either (`normalize_stable`).
-/
namespace Gatehouse
namespace Key

variable {family : KeyFamily} {input text pem : List Char}

/-- What a normal form is before its line feed. -/
structure Normal (family : KeyFamily) (text : List Char) : Prop where
  trimmed : Text.trimChars text = text
  begins : (Text.dropPrefix? "-----BEGIN".toList text).isSome = true
  holds : isPublic family (text ++ ['\n']) = true

theorem isPublic_eq_true_iff : isPublic family text = true ↔ ∃ key, publicContent family text = .ok key := by
  unfold isPublic
  cases publicContent family text with
  | ok key => simp [Except.isOk, Except.toBool]
  | error fault => simp [Except.isOk, Except.toBool]

/-! ## Bare keys -/

/-- A block that is written begins like PEM. -/
theorem isSome_dropPrefix?_written (label : List Char) (content : List UInt8) :
    (Text.dropPrefix? "-----BEGIN".toList (Pem.written label content)).isSome = true := by
  have hmark : "-----BEGIN".toList <+: Pem.beginMark := ⟨[' '], rfl⟩
  exact Text.dropPrefix?_isSome_iff.2 (hmark.trans (Pem.beginMark_prefix_written label content))

/-- **A bare key is wrapped into its normal form.** -/
theorem normal_of_wrapBare? {der : List UInt8} (h : wrapBare? family der = some pem) :
    ∃ text, pem = text ++ ['\n'] ∧ Normal family text := by
  have hpublic : isPublic family pem = true := List.find?_some h
  obtain ⟨label, -, rfl⟩ := List.mem_map.1 (List.mem_of_find?_eq_some h)
  rw [Pem.write_eq] at hpublic
  exact ⟨_, Pem.write_eq label der, Pem.trimChars_written label der, isSome_dropPrefix?_written label der, hpublic⟩

/-! ## Any key -/

/-- **Whatever is normalized is in normal form.** -/
theorem normal_of_normalize (h : normalize family input = .ok pem) : ∃ text, pem = text ++ ['\n'] ∧ Normal family text := by
  unfold normalize at h
  dsimp only at h
  split at h
  · cases h
  split at h
  · rename_i hbegins
    split at h
    · rename_i key hkey
      cases h
      exact ⟨_, rfl, Text.trimChars_trimChars input, hbegins, isPublic_eq_true_iff.2 ⟨key, hkey⟩⟩
    · cases h
  split at h
  · cases h
  split at h
  · rename_i der _ _ hwrap
    cases h
    exact normal_of_wrapBare? hwrap
  · cases h

/-- **A normal form is normalized to itself.** -/
theorem Normal.normalize_eq (h : Normal family text) : normalize family (text ++ ['\n']) = .ok (text ++ ['\n']) := by
  obtain ⟨key, hkey⟩ := isPublic_eq_true_iff.1 h.holds
  have htrim : Text.trimChars (text ++ ['\n']) = text := by
    rw [Text.trimChars_concat (by decide), h.trimmed]
  have hsome : text.isEmpty = false := by
    cases text with
    | nil => exact absurd h.begins (by decide)
    | cons c rest => rfl
  unfold normalize
  simp only [htrim, hsome, h.begins, hkey, Bool.false_eq_true, if_false, if_true]

/-- **Normalizing twice is normalizing once**, and what comes out is a key of the family. -/
theorem normalize_of_normalize (h : normalize family input = .ok pem) :
    normalize family pem = .ok pem ∧ isPublic family pem = true := by
  obtain ⟨text, rfl, hnormal⟩ := normal_of_normalize h
  exact ⟨hnormal.normalize_eq, hnormal.holds⟩

/-! ## What a normal form depends on -/

theorem Normal.ne_nil (h : Normal family text) : text ≠ [] := by
  rintro rfl
  exact absurd h.begins (by decide)

/-- Blanks at the ends of a text have no part in its normal form, nor in why it has none. -/
theorem normalize_of_sameInside {other : List Char} (h : Text.SameInside input other) :
    normalize family other = normalize family input := by
  unfold normalize
  rw [Text.sameInside_iff.1 h]

/-- **Normal forms are stable.**  What any text is normalized to begins like PEM, ends with one line feed and no more,
is its own normal form, and is that of every text that differs from the given one in the blanks at its ends only. -/
theorem normalize_stable (h : normalize family input = .ok pem) :
    "-----BEGIN".toList <+: pem ∧ (∃ body last, pem = body ++ [last, '\n'] ∧ last ≠ '\n') ∧
      normalize family pem = .ok pem ∧ ∀ other, Text.SameInside input other → normalize family other = .ok pem := by
  obtain ⟨text, rfl, hnormal⟩ := normal_of_normalize h
  refine ⟨?_, ?_, hnormal.normalize_eq, fun other hother => ?_⟩
  · exact (Text.dropPrefix?_isSome_iff.1 hnormal.begins).trans (List.prefix_append text _)
  · obtain ⟨body, last, rfl⟩ : ∃ body last, text = body ++ [last] :=
      ⟨_, _, (List.dropLast_concat_getLast hnormal.ne_nil).symm⟩
    have hlast := Text.isBlank_of_trimChars_concat hnormal.trimmed
    refine ⟨body, last, by rw [List.append_assoc, List.singleton_append], ?_⟩
    rintro rfl
    exact absurd hlast (by decide)
  · rw [normalize_of_sameInside hother, h]

/-- A key as base64 with blanks around it and inside, and the same with other blanks around it. -/
theorem normalize_stable_bare :
    normalize .rsa " BQ\nA=\r\n".toList = .ok (Pem.write "RSA PUBLIC KEY".toList [0x05, 0x00]) ∧
      normalize .rsa "\u3000BQ\nA=".toList = .ok (Pem.write "RSA PUBLIC KEY".toList [0x05, 0x00]) := by
  have hspaced : normalize .rsa " BQ\nA=\r\n".toList = .ok (Pem.write "RSA PUBLIC KEY".toList [0x05, 0x00]) :=
    toOption_eq_some_iff.1 (by decide +kernel)
  have hother : Text.SameInside " BQ\nA=\r\n".toList "\u3000BQ\nA=".toList :=
    ⟨"BQ\nA=".toList, [' '], ['\r', '\n'], ['\u3000'], [], rfl, rfl, List.all_eq_true.1 (by decide)⟩
  exact ⟨hspaced, (normalize_stable hspaced).2.2.2 _ hother⟩

end Key
end Gatehouse
