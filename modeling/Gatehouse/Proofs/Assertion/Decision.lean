import Gatehouse.Proofs.Assertion
/-!
# Assertion decisions — the registry's trouble is no rejection

`Decides` lists the verdicts on an assertion with what each of them takes; a look-up that fails is told apart from one
that finds nobody, before the signature and the times are looked at.  `checkIn_eq_iff`: the verdict is the one that is
listed.
-/
namespace Gatehouse
namespace Assertion

variable {σ : Type} [Registry σ] {p : Policy} {s : σ} {text : List Char} {t : Token} {iss : String} {now : Int}

/-- A token names an issuer. -/
def IssuedBy (t : Token) (iss : String) : Prop := Assoc.get? "iss" t.claims = some (.text iss) ∧ iss ≠ ""

/-- A token names the configured algorithm, and the key of a record is one of it that accepts the signature. -/
def Signed (p : Policy) (text : List Char) (t : Token) (r : KeyRecord) : Prop :=
  t.algorithm = p.algorithm.name ∧
    ∃ key, PublicKey.ofPem p.algorithm r.publicKey.toList = .ok key ∧ acceptsToken key.accepts text = true

/-- The verdict on an assertion against a registry. -/
inductive Decides (p : Policy) (s : σ) (text : List Char) (now : Int) : Except Fault KeyRecord → Prop
  | malformed {fault : Token.Fault} (hparse : Token.parse text = .error fault) :
      Decides p s text now (.error (.malformed fault))
  | anonymous {t : Token} (hparse : Token.parse text = .ok t)
      (hissuer : ∀ iss, Assoc.get? "iss" t.claims = some (.text iss) → iss = "") :
      Decides p s text now (.error (.unauthenticated .missingIssuer))
  | failed {t : Token} {iss : String} {e : RegistryError} (hparse : Token.parse text = .ok t) (hissuer : IssuedBy t iss)
      (hget : (Registry.get s iss).1 = .answered (.error e)) : Decides p s text now (.error (.registry e))
  | silent {t : Token} {iss : String} (hparse : Token.parse text = .ok t) (hissuer : IssuedBy t iss)
      (hget : (Registry.get s iss).1 = .silent) : Decides p s text now (.error (.registry .timeout))
  | unknown {t : Token} {iss : String} (hparse : Token.parse text = .ok t) (hissuer : IssuedBy t iss)
      (hget : (Registry.get s iss).1 = .answered (.ok none)) :
      Decides p s text now (.error (.unauthenticated .unknownIdentity))
  | unsigned {t : Token} {iss : String} {r : KeyRecord} (hparse : Token.parse text = .ok t) (hissuer : IssuedBy t iss)
      (hget : (Registry.get s iss).1 = .answered (.ok (some r))) (hsigned : ¬ Signed p text t r) :
      Decides p s text now (.error (.unauthenticated .signatureRejected))
  | untimely {t : Token} {iss : String} {r : KeyRecord} (hparse : Token.parse text = .ok t) (hissuer : IssuedBy t iss)
      (hget : (Registry.get s iss).1 = .answered (.ok (some r))) (hsigned : Signed p text t r)
      (htimes : claimsHold p t now = false) : Decides p s text now (.error (.unauthenticated .claimsRejected))
  | accepted {t : Token} {iss : String} {r : KeyRecord} (hparse : Token.parse text = .ok t) (hissuer : IssuedBy t iss)
      (hget : (Registry.get s iss).1 = .answered (.ok (some r))) (hsigned : Signed p text t r)
      (htimes : claimsHold p t now = true) : Decides p s text now (.ok r)

theorem issuer?_eq_none_iff : issuer? t = none ↔ ∀ iss, Assoc.get? "iss" t.claims = some (.text iss) → iss = "" := by
  constructor
  · intro h iss hiss
    by_cases hne : iss = ""
    · exact hne
    · rw [(issuer?_eq_some_iff t iss).2 ⟨hiss, hne⟩] at h
      cases h
  · intro h
    cases hissuer : issuer? t with
    | none => rfl
    | some iss =>
      obtain ⟨hiss, hne⟩ := (issuer?_eq_some_iff t iss).1 hissuer
      exact absurd (h iss hiss) hne

theorem not_signatureHolds_iff {r : KeyRecord} : signatureHolds p text t r = false ↔ ¬ Signed p text t r := by
  rw [Signed, ← signatureHolds_iff, Bool.not_eq_true]

/-- What the registry has decides, once there is an issuer. -/
theorem checkIn_of_issuedBy (hparse : Token.parse text = .ok t) (hissuer : IssuedBy t iss) :
    (checkIn p s text now).1 =
      match (Registry.get s iss).1 with
      | .answered (.error e) => .error (.registry e)
      | .silent => .error (.registry .timeout)
      | .answered (.ok none) => .error (.unauthenticated .unknownIdentity)
      | .answered (.ok (some r)) => judge p text t r now := by
  unfold checkIn check
  simp only [hparse, (issuer?_eq_some_iff t iss).2 hissuer]
  rcases (Registry.get s iss).1 with (e | (_ | r)) | _ <;> rfl

/-- Without an issuer the registry is not asked. -/
theorem checkIn_of_anonymous (hissuer : ∀ t iss, Token.parse text = .ok t → ¬ IssuedBy t iss) {τ : Type} [Registry τ]
    (other : τ) : (checkIn p other text now).1 = (checkIn p s text now).1 := by
  unfold checkIn check
  cases hparse : Token.parse text with
  | error fault => rfl
  | ok t =>
    cases hiss : issuer? t with
    | none => simp only [hiss]
    | some iss => exact absurd ((issuer?_eq_some_iff t iss).1 hiss) (hissuer t iss hparse)

/-- A verdict that is listed is the one that is given. -/
theorem Decides.checkIn_eq {v : Except Fault KeyRecord} (h : Decides p s text now v) : (checkIn p s text now).1 = v := by
  cases h with
  | malformed hparse => simp only [checkIn, check, hparse]
  | anonymous hparse hissuer => simp only [checkIn, check, hparse, issuer?_eq_none_iff.2 hissuer]
  | failed hparse hissuer hget => rw [checkIn_of_issuedBy hparse hissuer, hget]
  | silent hparse hissuer hget => rw [checkIn_of_issuedBy hparse hissuer, hget]
  | unknown hparse hissuer hget => rw [checkIn_of_issuedBy hparse hissuer, hget]
  | unsigned hparse hissuer hget hsigned =>
    have hfalse := not_signatureHolds_iff.2 hsigned
    rw [checkIn_of_issuedBy hparse hissuer, hget]
    simp only [judge, hfalse, Bool.not_false, if_true]
  | untimely hparse hissuer hget hsigned htimes =>
    have htrue := (signatureHolds_iff _ _ _ _).2 hsigned
    rw [checkIn_of_issuedBy hparse hissuer, hget]
    simp only [judge, htrue, htimes, Bool.not_true, Bool.false_eq_true, if_false, Bool.not_false, if_true]
  | accepted hparse hissuer hget hsigned htimes =>
    have htrue := (signatureHolds_iff _ _ _ _).2 hsigned
    rw [checkIn_of_issuedBy hparse hissuer, hget]
    exact (judge_eq_ok_iff _ _ _ _ _ _).2 ⟨htrue, htimes, rfl⟩

/-- Some verdict is listed for every text. -/
theorem exists_decides (p : Policy) (s : σ) (text : List Char) (now : Int) : ∃ v, Decides p s text now v := by
  cases hparse : Token.parse text with
  | error fault => exact ⟨_, .malformed hparse⟩
  | ok t =>
    cases hissuer : issuer? t with
    | none => exact ⟨_, .anonymous hparse (issuer?_eq_none_iff.1 hissuer)⟩
    | some iss =>
      have hissuer : IssuedBy t iss := (issuer?_eq_some_iff t iss).1 hissuer
      cases hget : (Registry.get s iss).1 with
      | silent => exact ⟨_, .silent hparse hissuer hget⟩
      | answered result =>
        cases result with
        | error e => exact ⟨_, .failed hparse hissuer hget⟩
        | ok found =>
          cases found with
          | none => exact ⟨_, .unknown hparse hissuer hget⟩
          | some r =>
            by_cases hsigned : Signed p text t r
            · cases htimes : claimsHold p t now with
              | false => exact ⟨_, .untimely hparse hissuer hget hsigned htimes⟩
              | true => exact ⟨_, .accepted hparse hissuer hget hsigned htimes⟩
            · exact ⟨_, .unsigned hparse hissuer hget hsigned⟩

/-- **The verdict on an assertion is the one that is listed.** -/
theorem checkIn_eq_iff {v : Except Fault KeyRecord} : (checkIn p s text now).1 = v ↔ Decides p s text now v := by
  constructor
  · rintro rfl
    obtain ⟨v, hv⟩ := exists_decides p s text now
    rwa [hv.checkIn_eq]
  · exact Decides.checkIn_eq

end Assertion
end Gatehouse
