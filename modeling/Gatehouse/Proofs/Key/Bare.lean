import Gatehouse.Proofs.Key.Usable
/-!
# Bare keys — nothing is lost in wrapping

A key that comes as base64 is laid out in lines of 64 characters that join to the base64 it came as, blanks aside, under
the first label that makes it a key (`normalize_bare`).  So blanks between the characters have no part in what is stored,
and what is stored tells the bytes apart.
-/
namespace Gatehouse
namespace Key

variable {family : KeyFamily} {input other pem : List Char} {der : List UInt8}

/-- A key that is not given as PEM. -/
def IsBare (input : List Char) : Prop := ¬ "-----BEGIN".toList <+: Text.trimChars input

/-- The label that a bare key is put under: the first one if it is a key then, the second one for RSA only. -/
inductive Labels (family : KeyFamily) (lines : List (List Char)) : List Char → Prop
  | general (holds : isPublic family (Pem.framed "PUBLIC KEY".toList lines) = true) :
      Labels family lines "PUBLIC KEY".toList
  | rsa (hfamily : family = .rsa) (hgeneral : isPublic family (Pem.framed "PUBLIC KEY".toList lines) = false) :
      Labels family lines "RSA PUBLIC KEY".toList

/-! ## What a bare key is wrapped into -/

theorem wrapBare?_eq (family : KeyFamily) (der : List UInt8) :
    wrapBare? family der =
      ((bareLabels family).find? fun label => isPublic family (Pem.framed label (Pem.bodyLines der))).map fun label =>
        Pem.framed label (Pem.bodyLines der) := by
  simp only [wrapBare?, Pem.write_eq_framed, List.find?_map]
  rfl

/-- **A bare key is laid out under its label.** -/
theorem exists_label_of_wrapBare? (h : wrapBare? family der = some pem) :
    ∃ label, pem = Pem.framed label (Pem.bodyLines der) ∧ Labels family (Pem.bodyLines der) label := by
  rw [wrapBare?_eq] at h
  obtain ⟨label, hfind, rfl⟩ := Option.map_eq_some_iff.1 h
  refine ⟨label, rfl, ?_⟩
  cases hgeneral : isPublic family (Pem.framed "PUBLIC KEY".toList (Pem.bodyLines der)) with
  | true =>
    cases family <;> simp only [bareLabels, List.find?_cons, hgeneral, Option.some.injEq] at hfind <;>
      exact hfind ▸ .general hgeneral
  | false =>
    cases family with
    | ec =>
      simp only [bareLabels, List.find?_cons, hgeneral, List.find?_nil] at hfind
      cases hfind
    | rsa =>
      have hlabel : label = "RSA PUBLIC KEY".toList := by
        simp only [bareLabels, List.find?_cons, hgeneral, List.find?_nil] at hfind
        split at hfind
        · exact (Option.some.inj hfind).symm
        · cases hfind
      exact hlabel ▸ .rsa rfl hgeneral

/-- Neither label breaks its line. -/
theorem Labels.not_mem {lines : List (List Char)} {label : List Char} (h : Labels family lines label) : '\n' ∉ label := by
  cases h with
  | general => decide
  | rsa => decide

/-! ## Blanks and bytes -/

/-- **A bare key is accepted for its bytes**, which its characters without the blanks stand for. -/
theorem normalize_of_isBare_iff (h : IsBare input) :
    normalize family input = .ok pem ↔
      ∃ der, Text.unblanked input = Base64.encodePadded .standard der ∧ der ≠ [] ∧ wrapBare? family der = some pem := by
  have hbegin : ¬ (Text.dropPrefix? "-----BEGIN".toList (Text.trimChars input)).isSome = true := fun hsome =>
    h (Text.dropPrefix?_isSome_iff.1 hsome)
  have hread (der : List UInt8) :
      Base64.decodePadded? .standard (Text.unblanked input) = some der ↔
        Text.unblanked input = Base64.encodePadded .standard der := Base64.decodePadded?_eq_some_iff
  have hempty : (Text.trimChars input).isEmpty = true ↔ Text.unblanked input = [] := by
    rw [List.isEmpty_iff, Text.trimChars_eq_nil_iff]
  have hcompact : (Text.trimChars input).filter (fun c => !Text.isBlank c) = Text.unblanked input :=
    Text.unblanked_trimChars input
  unfold normalize
  simp only [if_neg hbegin, hcompact]
  by_cases hnil : Text.unblanked input = []
  · rw [if_pos (hempty.2 hnil)]
    refine iff_of_false (fun he => by cases he) ?_
    rintro ⟨der, hder, hne, -⟩
    rw [hnil] at hder
    exact hne (Base64.encodePadded_inj (a := .standard) hder.symm)
  rw [if_neg (mt hempty.1 hnil)]
  cases hdecode : Base64.decodePadded? .standard (Text.unblanked input) with
  | none =>
    refine iff_of_false (fun he => by cases he) ?_
    rintro ⟨der, hder, -⟩
    rw [(hread der).2 hder] at hdecode
    cases hdecode
  | some der =>
    have htext := (hread der).1 hdecode
    have hne : der ≠ [] := by
      rintro rfl
      exact hnil htext
    have honly : (∃ d, Text.unblanked input = Base64.encodePadded .standard d ∧ d ≠ [] ∧ wrapBare? family d = some pem) ↔
        wrapBare? family der = some pem := by
      constructor
      · rintro ⟨d, hd, -, hwrap⟩
        rwa [Base64.encodePadded_inj (htext.symm.trans hd)]
      · exact fun hwrap => ⟨der, htext, hne, hwrap⟩
    rw [honly]
    dsimp only
    cases wrapBare? family der with
    | none => simp
    | some wrapped => simp

/-- Base64 holds no dash, so a text that is the same without its blanks is no PEM either. -/
theorem isBare_of_unblanked (hinput : Text.unblanked input = Base64.encodePadded .standard der)
    (h : Text.unblanked other = Text.unblanked input) : IsBare other := by
  intro hbegin
  have hdash : '-' ∈ Text.trimChars other := hbegin.subset (by decide)
  have hmem : '-' ∈ Text.unblanked other := List.mem_filter.2 ⟨Text.mem_of_mem_trimChars hdash, by decide⟩
  rw [h, hinput] at hmem
  rcases List.mem_append.1 hmem with hdigit | hpadding
  · exact absurd (Base64.isDigit_of_mem_encode .standard der '-' hdigit) (by decide)
  · exact absurd (List.mem_replicate.1 hpadding).2 (by decide)

/-- **The lines of a body tell its bytes.** -/
theorem bodyLines_inj {der' : List UInt8} (h : Pem.bodyLines der = Pem.bodyLines der') : der = der' := by
  have hflat := congrArg List.flatten h
  rw [Pem.flatten_bodyLines, Pem.flatten_bodyLines] at hflat
  exact Base64.encodePadded_inj hflat

/-- **What is stored tells the bytes of a bare key.** -/
theorem wrapBare?_inj {der' : List UInt8} (h : wrapBare? family der = some pem) (h' : wrapBare? family der' = some pem) :
    der = der' := by
  have hfeed (content : List UInt8) : ∀ line ∈ Pem.bodyLines content, '\n' ∉ line := fun line hline hmem =>
    (Pem.inLine_bodyLines hline '\n' hmem).1 rfl
  obtain ⟨label, rfl, hlabel⟩ := exists_label_of_wrapBare? h
  obtain ⟨label', hframed, hlabel'⟩ := exists_label_of_wrapBare? h'
  exact bodyLines_inj (Pem.framed_inj hlabel.not_mem hlabel'.not_mem (hfeed der) (hfeed der') hframed)

/-- **Wrapping loses nothing.**  A bare key that is accepted is stored as lines of 64 characters, the last one not
longer, between the BEGIN and END lines of one label; they join to the given characters without the blanks, which are
the base64 of its bytes.  Other blanks among the same characters lead to the same text, and another bare key does
exactly if it has the same bytes. -/
theorem normalize_bare (hbare : IsBare input) (h : normalize family input = .ok pem) :
    ∃ label lines der,
      pem = Pem.framed label lines ∧ Pem.IsBody 64 lines ∧ Labels family lines label ∧
        lines.flatten = Text.unblanked input ∧ Base64.decodePadded? .standard lines.flatten = some der ∧
        lines.flatten = Base64.encodePadded .standard der ∧
        (∀ other, Text.unblanked other = Text.unblanked input → normalize family other = .ok pem) ∧
        ∀ other stored, IsBare other → normalize family other = .ok stored →
          (stored = pem ↔ Base64.decodePadded? .standard (Text.unblanked other) = some der) := by
  obtain ⟨der, hder, hne, hwrap⟩ := (normalize_of_isBare_iff hbare).1 h
  obtain ⟨label, hpem, hlabel⟩ := exists_label_of_wrapBare? hwrap
  have hlines := Pem.flatten_bodyLines der
  refine ⟨label, Pem.bodyLines der, der, hpem, Pem.isBody_bodyLines der, hlabel, hlines.trans hder.symm,
    Base64.decodePadded?_eq_some_iff.2 hlines, hlines, fun other hother => ?_, fun other stored hother hstored => ?_⟩
  · exact (normalize_of_isBare_iff (isBare_of_unblanked hder hother)).2 ⟨der, hother.trans hder, hne, hwrap⟩
  · obtain ⟨der', hder', -, hwrap'⟩ := (normalize_of_isBare_iff hother).1 hstored
    rw [Base64.decodePadded?_eq_some_iff]
    constructor
    · rintro rfl
      rw [hder', wrapBare?_inj hwrap hwrap']
    · intro hsame
      rw [hder'] at hsame
      rw [Base64.encodePadded_inj hsame, hwrap, Option.some.injEq] at hwrap'
      exact hwrap'.symm

/-- A point of P-256 takes two lines, whether or not it is broken on the way in. -/
theorem normalize_bare_generator :
    IsBare Curve.p256.generatorText ∧
      normalize .ec Curve.p256.generatorText = .ok (Pem.write "PUBLIC KEY".toList Curve.p256.generatorKey) ∧
      ∃ first last, Pem.write "PUBLIC KEY".toList Curve.p256.generatorKey = Pem.framed "PUBLIC KEY".toList [first, last] ∧
        first.length = 64 ∧ last.length = 60 ∧ first ++ last = Curve.p256.generatorText ∧
        normalize .ec (first ++ "\r\n ".toList ++ last) =
          .ok (Pem.write "PUBLIC KEY".toList Curve.p256.generatorKey) := by
  have htext : Text.unblanked Curve.p256.generatorText = Base64.encodePadded .standard Curve.p256.generatorKey := by
    decide +kernel
  have hlines : Pem.bodyLines Curve.p256.generatorKey =
      [Curve.p256.generatorText.take 64, Curve.p256.generatorText.drop 64] := by decide +kernel
  have hbroken : Text.unblanked (Curve.p256.generatorText.take 64 ++ "\r\n ".toList ++ Curve.p256.generatorText.drop 64) =
      Text.unblanked Curve.p256.generatorText := by decide +kernel
  have hlength : Curve.p256.generatorText.length = 124 := by decide +kernel
  have hbare : IsBare Curve.p256.generatorText := isBare_of_unblanked htext rfl
  obtain ⟨-, -, -, -, -, -, -, -, -, hother, -⟩ := normalize_bare hbare (normalize_generatorText .p256)
  refine ⟨hbare, normalize_generatorText .p256, Curve.p256.generatorText.take 64, Curve.p256.generatorText.drop 64, ?_,
    ?_, ?_, List.take_append_drop 64 _, hother _ hbroken⟩
  · rw [Pem.write_eq_framed, hlines]
  · exact List.length_take_of_le (by omega)
  · rw [List.length_drop, hlength]

end Key
end Gatehouse
