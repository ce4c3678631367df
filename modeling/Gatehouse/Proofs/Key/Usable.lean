import Gatehouse.Proofs.Assertion
import Gatehouse.Proofs.Registry.Invariant
/-!
# Usable keys — what is registered against what logs in

A key is registered for a family of algorithms and read again for one of them.  Five algorithms read it as it was
checked.  ES512 reads it strictly, and wants a point of its own curve (`Key.strict521?`), which the family says nothing
of: `usable_of_checkEntry`.
-/
namespace Gatehouse

variable {a : Algorithm} {input text pem : List Char} {der : List UInt8}

/-! ## Keys of one algorithm -/

theorem PublicKey.ofPem_of_ne (h : a ≠ .es512) (text : List Char) :
    ofPem a text = (Key.publicContent a.family text).map fun content => ⟨a, content⟩ := by
  cases a with
  | es512 => exact absurd rfl h
  | _ => rfl

/-- A text holds a key for an algorithm. -/
def Key.Usable (a : Algorithm) (text : List Char) : Prop := ∃ key, PublicKey.ofPem a text = .ok key

namespace Key

/-- **Every algorithm but ES512 can use any key of its family.** -/
theorem usable_iff_isPublic (h : a ≠ .es512) : Usable a text ↔ isPublic a.family text = true := by
  rw [Usable, PublicKey.ofPem_of_ne h, isPublic_eq_true_iff]
  cases publicContent a.family text with
  | ok content => simp [Except.map]
  | error fault => simp [Except.map]

/-- The P-521 point of a block, read strictly. -/
def block521? (text : List Char) : Option Curve.Point :=
  (Pem.only? "PUBLIC KEY".toList text).bind (PublicKey.wrappedPoint? .p521)

/-- **ES512 can use a key whose block, read strictly, is a point of its curve.** -/
theorem usable_es512_iff : Usable .es512 text ↔ (block521? (Text.trimChars text)).isSome = true := by
  unfold Usable PublicKey.ofPem block521?
  cases (Pem.only? "PUBLIC KEY".toList (Text.trimChars text)).bind (PublicKey.wrappedPoint? .p521) with
  | none => simp
  | some point => simp

/-! ## Keys as they are given -/

/-- The P-521 point of a key as it is given, PEM or bare base64, read strictly. -/
def strict521? (input : List Char) : Option Curve.Point :=
  let text := Text.trimChars input
  if (Text.dropPrefix? "-----BEGIN".toList text).isSome then block521? text
  else (Base64.decodePadded? .standard (text.filter fun c => !Text.isBlank c)).bind (PublicKey.wrappedPoint? .p521)

theorem isPublic_write_nil : isPublic .ec (Pem.write "PUBLIC KEY".toList []) = false := by decide +kernel

theorem block521?_wrapBare (h : wrapBare? .ec der = some pem) :
    block521? (Text.trimChars pem) = PublicKey.wrappedPoint? .p521 der := by
  have hpublic : isPublic .ec pem = true := List.find?_some h
  obtain ⟨label, hlabel, rfl⟩ := List.mem_map.1 (List.mem_of_find?_eq_some h)
  obtain rfl : label = "PUBLIC KEY".toList := List.mem_singleton.1 hlabel
  have hder : der ≠ [] := by
    rintro rfl
    rw [isPublic_write_nil] at hpublic
    cases hpublic
  rw [Pem.trimChars_write, block521?, Pem.only?_written _ hder, Option.bind_some]

/-- **A normal form reads strictly as what it was made of.** -/
theorem block521?_normalize (h : normalize .ec input = .ok pem) : block521? (Text.trimChars pem) = strict521? input := by
  unfold normalize at h
  dsimp only at h
  unfold strict521?
  dsimp only
  -- the cases are those of the normal form; the strict reader asks the same question about the beginning
  split at h
  · cases h
  split at h
  · rename_i hbegins
    split at h
    · cases h
      rw [if_pos hbegins, Text.trimChars_concat (by decide), Text.trimChars_trimChars]
    · cases h
  · rename_i hbegins
    rw [if_neg hbegins]
    split at h
    · cases h
    · rename_i der hder
      rw [hder, Option.bind_some]
      split at h
      · rename_i hwrap
        cases h
        exact block521?_wrapBare hwrap
      · cases h

/-- **Which normal forms an algorithm can use.** -/
theorem usable_of_normalize (h : normalize a.family input = .ok pem) :
    Usable a pem ↔ (a = .es512 → (strict521? input).isSome = true) := by
  by_cases ha : a = .es512
  · subst ha
    rw [usable_es512_iff, block521?_normalize h]
    exact (imp_iff_right rfl).symm
  · rw [usable_iff_isPublic ha]
    exact iff_of_true (normalize_of_normalize h).2 fun hes => absurd hes ha

end Key

/-! ## At the login -/

variable {p : Assertion.Policy} {identity publicKey pem : String}

/-- **Whoever has a key that cannot be used is not let in**, whatever the token says. -/
theorem Assertion.judge_of_not_usable (r : KeyRecord) (h : ¬ Key.Usable p.algorithm r.publicKey.toList) (text : List Char)
    (t : Token) (now : Int) : judge p text t r now = .error (.unauthenticated .signatureRejected) := by
  have hfalse : signatureHolds p text t r = false := by
    rw [Bool.eq_false_iff, ne_eq, signatureHolds_iff]
    rintro ⟨-, key, hkey, -⟩
    exact h ⟨key, hkey⟩
  rw [judge, hfalse]
  rfl

/-- **Which keys that were accepted can be used.**  All of them, but for ES512 only those that are points of its curve,
read strictly; who has another key is registered and never let in. -/
theorem KeyRecord.usable_of_checkEntry (h : checkEntry a.family identity publicKey = .ok pem) :
    (Key.Usable a pem.toList ↔ (a = .es512 → (Key.strict521? publicKey.toList).isSome = true)) ∧
      ∀ p : Assertion.Policy, p.algorithm = a → ¬ Key.Usable a pem.toList → ∀ text t level now,
        Assertion.judge p text t ⟨identity, pem, level⟩ now = .error (.unauthenticated .signatureRejected) := by
  constructor
  · obtain ⟨-, text, hnormal, rfl⟩ := checkEntry_eq_ok_iff.1 h
    rw [String.toList_ofList]
    exact Key.usable_of_normalize hnormal
  · rintro p rfl hunusable text t level now
    exact Assertion.judge_of_not_usable ⟨identity, pem, level⟩ hunusable text t now

/-- The generator of a curve, as a public key in its wrapping. -/
def Curve.generatorKey (c : Curve) : List UInt8 :=
  let head : List UInt8 × List UInt8 := match c with
    | .p256 => ([0x30, 0x59, 0x30, 0x13], [0x03, 0x42, 0x00])
    | .p384 => ([0x30, 0x76, 0x30, 0x10], [0x03, 0x62, 0x00])
    | .p521 => ([0x30, 0x81, 0x9B, 0x30, 0x10], [0x03, 0x81, 0x86, 0x00])
  head.1 ++ PublicKey.ecIdentifier c ++ head.2 ++ c.uncompressed c.generator

/-- The generator of a curve, as the text of a public key. -/
def Curve.generatorText (c : Curve) : List Char := Base64.encodePadded .standard c.generatorKey

theorem normalize_generatorText (c : Curve) :
    Key.normalize .ec c.generatorText = .ok (Pem.write "PUBLIC KEY".toList c.generatorKey) := by
  refine toOption_eq_some_iff.1 ?_
  cases c <;> decide +kernel

theorem checkEntry_generatorText (c : Curve) :
    KeyRecord.checkEntry .ec "ann" (String.ofList c.generatorText) =
      .ok (String.ofList (Pem.write "PUBLIC KEY".toList c.generatorKey)) := by
  refine KeyRecord.checkEntry_eq_ok_iff.2 ⟨KeyRecord.checkIdentity_eq_ok_iff.1 rfl, _, ?_, rfl⟩
  rw [String.toList_ofList, normalize_generatorText]

theorem KeyRecord.usable_generator521 :
    Key.Usable .es512 (String.ofList (Pem.write "PUBLIC KEY".toList Curve.p521.generatorKey)).toList := by
  have hentry : checkEntry Algorithm.es512.family "ann" (String.ofList Curve.p521.generatorText) =
      .ok (String.ofList (Pem.write "PUBLIC KEY".toList Curve.p521.generatorKey)) := checkEntry_generatorText .p521
  have hstrict : (Key.strict521? (String.ofList Curve.p521.generatorText).toList).isSome = true := by
    rw [String.toList_ofList]
    decide +kernel
  exact (usable_of_checkEntry hentry).1.2 fun _ => hstrict

/-- A P-256 key is accepted where the algorithm is ES512, and cannot be used for it. -/
theorem KeyRecord.generator256_unusable :
    checkEntry Algorithm.es512.family "ann" (String.ofList Curve.p256.generatorText) =
        .ok (String.ofList (Pem.write "PUBLIC KEY".toList Curve.p256.generatorKey)) ∧
      ¬ Key.Usable .es512 (String.ofList (Pem.write "PUBLIC KEY".toList Curve.p256.generatorKey)).toList := by
  refine ⟨checkEntry_generatorText .p256, fun husable => ?_⟩
  rw [String.toList_ofList, Key.usable_of_normalize (a := .es512) (normalize_generatorText .p256)] at husable
  exact absurd (husable rfl) (by decide +kernel)

/-! ## In the registry -/

/-- **Under every algorithm but ES512, whoever is registered has a key that can be used.** -/
theorem MemoryRegistry.usable_after {m : MemoryRegistry} (hbuilt : Built a.family m) (h : a ≠ .es512)
    (calls : List Registry.Call) {r : KeyRecord} (hget : (Registry.after m calls).get identity = some r) :
    Key.Usable a r.publicKey.toList := by
  have hevery := (Registry.after_keeps
    (P := fun m : MemoryRegistry => m.family = a.family ∧ Every (IsEntry a.family) m.records)
    (fun _ c h => isEntry_perform h c) calls hbuilt.every).2
  exact (Key.usable_iff_isPublic h).2 (hevery.get? hget).isPublic

end Gatehouse
