import Gatehouse.Proofs.Assertion
import Gatehouse.Proofs.Session.Claims
/-!
# Session decisions — the first check that fails decides

`Decides` lists the verdicts on a text in the order of the checks, each with what its check found and with the checks
before it passed; the window is in unbounded integers.  `check_eq_iff`: the verdict is the one that is listed, and what
an accepted text signs is the claims that are accepted.
-/
namespace Gatehouse

/-- A claim is there and is not null. -/
def Token.Gives (t : Token) (name : String) : Prop := ∃ v, Assoc.get? name t.claims = some v ∧ v ≠ .null

theorem Token.has_eq_true_iff (t : Token) (name : String) : t.has name = true ↔ t.Gives name := by
  unfold has Gives
  cases Assoc.get? name t.claims with
  | none => simp
  | some v => cases v <;> simp [Json.isNull]

namespace Session

open Seconds (IsTime IsSpan)

variable {keys : KeyPair} {leeway : Int} {text : List Char} {now : Int}

/-- A token names the algorithm of a key pair, and the pair accepts what stands after the last dot as a signature of
what stands before it. -/
def Signed (keys : KeyPair) (text : List Char) (t : Token) : Prop :=
  t.algorithm = keys.algorithm.name ∧
    ∃ message signature, text = message ++ '.' :: signature ∧ '.' ∉ signature ∧ keys.accepts message signature = true

/-- The verdict on a text, by the first check that fails. -/
inductive Decides (keys : KeyPair) (leeway : Int) (text : List Char) (now : Int) : Except Fault Claims → Prop
  | malformed {fault : Token.Fault} (hparse : Token.parse text = .error fault) :
      Decides keys leeway text now (.error (.malformed fault))
  | missing {t : Token} {before after : List String} {name : String} (hparse : Token.parse text = .ok t)
      (horder : ["iat", "exp", "sub"] = before ++ name :: after) (hbefore : ∀ n ∈ before, t.Gives n)
      (hname : ¬ t.Gives name) : Decides keys leeway text now (.error (.missingClaim name))
  | unsigned {t : Token} (hparse : Token.parse text = .ok t) (hgiven : ∀ n ∈ ["iat", "exp", "sub"], t.Gives n)
      (hsigned : ¬ Signed keys text t) : Decides keys leeway text now (.error .invalidSignature)
  | mistyped {t : Token} {mismatch : Json.Mismatch} (hparse : Token.parse text = .ok t)
      (hgiven : ∀ n ∈ ["iat", "exp", "sub"], t.Gives n) (hsigned : Signed keys text t)
      (hreads : ∀ c, ¬ Claims.Reads t.claims c) (hdecode : Claims.shape.decode (.object t.claims) = .error mismatch) :
      Decides keys leeway text now (.error (.invalidClaims mismatch))
  | early {t : Token} {c : Claims} {nbf : Int} (hparse : Token.parse text = .ok t)
      (hgiven : ∀ n ∈ ["iat", "exp", "sub"], t.Gives n) (hsigned : Signed keys text t)
      (hreads : Claims.Reads t.claims c) (hnbf : c.notBefore = some nbf) (hearly : now + leeway < nbf) :
      Decides keys leeway text now (.error .notYetValid)
  | late {t : Token} {c : Claims} (hparse : Token.parse text = .ok t)
      (hgiven : ∀ n ∈ ["iat", "exp", "sub"], t.Gives n) (hsigned : Signed keys text t)
      (hreads : Claims.Reads t.claims c) (hbegun : ∀ nbf, c.notBefore = some nbf → nbf ≤ now + leeway)
      (hlate : c.expiresAt + leeway < now) : Decides keys leeway text now (.error .expired)
  | accepted {t : Token} {c : Claims} (hparse : Token.parse text = .ok t)
      (hgiven : ∀ n ∈ ["iat", "exp", "sub"], t.Gives n) (hsigned : Signed keys text t)
      (hreads : Claims.Reads t.claims c) (hbegun : ∀ nbf, c.notBefore = some nbf → nbf ≤ now + leeway)
      (hlasts : now ≤ c.expiresAt + leeway) : Decides keys leeway text now (.ok c)

/-! ## The checks one at a time -/

theorem find?_requiredClaims_eq_none_iff {t : Token} :
    (requiredClaims.find? fun name => !t.has name) = none ↔ ∀ n ∈ ["iat", "exp", "sub"], t.Gives n := by
  rw [requiredClaims, List.find?_eq_none]
  simp only [Bool.not_eq_true', Bool.not_eq_false, Token.has_eq_true_iff]

theorem find?_requiredClaims_eq_some_iff {t : Token} {name : String} :
    (requiredClaims.find? fun name => !t.has name) = some name ↔
      ∃ before after, ["iat", "exp", "sub"] = before ++ name :: after ∧ (∀ n ∈ before, t.Gives n) ∧ ¬ t.Gives name := by
  rw [requiredClaims, List.find?_eq_some_iff_append]
  simp only [Bool.not_eq_true', Bool.not_not, Token.has_eq_true_iff, ← Bool.not_eq_true]
  constructor
  · rintro ⟨hname, before, after, horder, hbefore⟩
    exact ⟨before, after, horder, hbefore, hname⟩
  · rintro ⟨before, after, horder, hbefore, hname⟩
    exact ⟨hname, before, after, horder, hbefore⟩

theorem signed_iff {t : Token} :
    (t.algorithm != keys.algorithm.name || !keys.verify text) = false ↔ Signed keys text t := by
  rw [Bool.or_eq_false_iff, bne_eq_false_iff_eq, Bool.not_eq_false', KeyPair.verify, acceptsToken_eq_true_iff, Signed]

/-- A beginning is compared as if the leeway were added in unbounded integers. -/
theorem early_iff (hleeway : IsSpan leeway) (hnow : IsTime now) {members : List (String × Json)} {c : Claims}
    (hreads : Claims.Reads members c) :
    (c.notBefore.any fun nbf => Seconds.after now leeway < nbf) = true ↔
      ∃ nbf, c.notBefore = some nbf ∧ now + leeway < nbf := by
  cases hnbf : c.notBefore with
  | none => simp
  | some nbf =>
    have hle := Seconds.le_after_iff hnow hleeway.1 (hreads.isTime_notBefore hnbf)
    have hlt : Seconds.after now leeway < nbf ↔ now + leeway < nbf := by omega
    simp [hlt]

theorem not_early (hleeway : IsSpan leeway) (hnow : IsTime now) {members : List (String × Json)} {c : Claims}
    (hreads : Claims.Reads members c) (hbegun : ∀ nbf, c.notBefore = some nbf → nbf ≤ now + leeway) :
    ¬ (c.notBefore.any fun nbf => Seconds.after now leeway < nbf) = true := by
  intro h
  obtain ⟨nbf, hnbf, hearly⟩ := (early_iff hleeway hnow hreads).1 h
  have hle := hbegun nbf hnbf
  omega

/-- An expiry is compared as if the leeway were added in unbounded integers. -/
theorem late_iff (hleeway : IsSpan leeway) (hnow : IsTime now) {members : List (String × Json)} {c : Claims}
    (hreads : Claims.Reads members c) :
    Seconds.after c.expiresAt leeway < now ↔ c.expiresAt + leeway < now := by
  have hle := Seconds.le_after_iff hreads.expiresAt.2 hleeway.1 hnow
  omega

/-! ## The verdict -/

/-- What a text without a missing claim and with a signature is judged by. -/
theorem check_of_signed {t : Token} (hparse : Token.parse text = .ok t) (hgiven : ∀ n ∈ ["iat", "exp", "sub"], t.Gives n)
    (hsigned : Signed keys text t) :
    check keys leeway text now =
      match Claims.shape.decode (.object t.claims) with
      | .error mismatch => .error (.invalidClaims mismatch)
      | .ok claims => judge leeway claims now := by
  have hnone := find?_requiredClaims_eq_none_iff.2 hgiven
  have hfalse := signed_iff.2 hsigned
  cases hdecode : Claims.shape.decode (.object t.claims) <;>
    simp only [check, hparse, hnone, hfalse, hdecode, Bool.false_eq_true, if_false]

theorem check_of_reads {t : Token} {c : Claims} (hparse : Token.parse text = .ok t)
    (hgiven : ∀ n ∈ ["iat", "exp", "sub"], t.Gives n) (hsigned : Signed keys text t)
    (hreads : Claims.Reads t.claims c) : check keys leeway text now = judge leeway c now := by
  have hdecode := (Claims.decode_eq_ok_iff (Token.sorted_of_parse hparse)).2 hreads
  rw [check_of_signed hparse hgiven hsigned, hdecode]

/-- A verdict that is listed is the one that is given. -/
theorem Decides.check_eq (hleeway : IsSpan leeway) (hnow : IsTime now) {v : Except Fault Claims}
    (h : Decides keys leeway text now v) : check keys leeway text now = v := by
  cases h with
  | malformed hparse => simp only [check, hparse]
  | missing hparse horder hbefore hname =>
    have hfind := find?_requiredClaims_eq_some_iff.2 ⟨_, _, horder, hbefore, hname⟩
    simp only [check, hparse, hfind]
  | unsigned hparse hgiven hsigned =>
    rw [← signed_iff, Bool.not_eq_false] at hsigned
    simp only [check, hparse, find?_requiredClaims_eq_none_iff.2 hgiven, hsigned, if_true]
  | mistyped hparse hgiven hsigned _ hdecode => rw [check_of_signed hparse hgiven hsigned, hdecode]
  | early hparse hgiven hsigned hreads hnbf hearly =>
    have h := (early_iff hleeway hnow hreads).2 ⟨_, hnbf, hearly⟩
    rw [check_of_reads hparse hgiven hsigned hreads, judge, if_pos h]
  | late hparse hgiven hsigned hreads hbegun hlate =>
    have hlate := (late_iff hleeway hnow hreads).2 hlate
    rw [check_of_reads hparse hgiven hsigned hreads, judge, if_neg (not_early hleeway hnow hreads hbegun), if_pos hlate]
  | accepted hparse hgiven hsigned hreads hbegun hlasts =>
    have hlast := mt (late_iff hleeway hnow hreads).1 (Int.not_lt.2 hlasts)
    rw [check_of_reads hparse hgiven hsigned hreads, judge, if_neg (not_early hleeway hnow hreads hbegun), if_neg hlast]

/-- Some verdict is listed for every text. -/
theorem exists_decides (keys : KeyPair) (leeway : Int) (text : List Char) (now : Int) :
    ∃ v, Decides keys leeway text now v := by
  cases hparse : Token.parse text with
  | error fault => exact ⟨_, .malformed hparse⟩
  | ok t =>
    cases hfind : requiredClaims.find? fun name => !t.has name with
    | some name =>
      obtain ⟨before, after, horder, hbefore, hname⟩ := find?_requiredClaims_eq_some_iff.1 hfind
      exact ⟨_, .missing hparse horder hbefore hname⟩
    | none =>
      have hgiven := find?_requiredClaims_eq_none_iff.1 hfind
      by_cases hsigned : Signed keys text t
      · have hdecoded (c : Claims) := Claims.decode_eq_ok_iff (c := c) (Token.sorted_of_parse hparse)
        cases hdecode : Claims.shape.decode (.object t.claims) with
        | error mismatch =>
          refine ⟨_, .mistyped hparse hgiven hsigned (fun c hreads => ?_) hdecode⟩
          rw [(hdecoded c).2 hreads] at hdecode
          cases hdecode
        | ok c =>
          have hreads := (hdecoded c).1 hdecode
          by_cases hearly : ∃ nbf, c.notBefore = some nbf ∧ now + leeway < nbf
          · obtain ⟨nbf, hnbf, hlt⟩ := hearly
            exact ⟨_, .early hparse hgiven hsigned hreads hnbf hlt⟩
          · have hbegun : ∀ nbf, c.notBefore = some nbf → nbf ≤ now + leeway := fun nbf hnbf =>
              Int.not_lt.1 fun hlt => hearly ⟨nbf, hnbf, hlt⟩
            by_cases hlate : c.expiresAt + leeway < now
            · exact ⟨_, .late hparse hgiven hsigned hreads hbegun hlate⟩
            · exact ⟨_, .accepted hparse hgiven hsigned hreads hbegun (Int.not_lt.1 hlate)⟩
      · exact ⟨_, .unsigned hparse hgiven hsigned⟩

/-- **The first check that fails decides**, over the bytes that are signed: an accepted text has exactly two dots, its
signature is checked over all that stands before the second, and what stands between them is the claims. -/
theorem check_eq_iff (keys : KeyPair) (hleeway : IsSpan leeway) (text : List Char) (hnow : IsTime now) :
    (∀ v, check keys leeway text now = v ↔ Decides keys leeway text now v) ∧
      ∀ c, check keys leeway text now = .ok c →
        ∃ header payload signature bytes members,
          text = header ++ '.' :: (payload ++ '.' :: signature) ∧ '.' ∉ header ∧ '.' ∉ payload ∧ '.' ∉ signature ∧
            signature ≠ [] ∧ keys.verify text = keys.accepts (header ++ '.' :: payload) signature ∧
            keys.accepts (header ++ '.' :: payload) signature = true ∧
            Base64.decode? .urlSafe (Text.dropEnd (· = '=') payload) = some bytes ∧
            Json.parse? bytes = some (.object members) ∧ Claims.shape.decode (.object members) = .ok c := by
  have hdecides : ∀ v, check keys leeway text now = v ↔ Decides keys leeway text now v := by
    intro v
    constructor
    · rintro rfl
      obtain ⟨v, hv⟩ := exists_decides keys leeway text now
      rwa [hv.check_eq hleeway hnow]
    · exact Decides.check_eq hleeway hnow
  refine ⟨hdecides, fun c hc => ?_⟩
  cases (hdecides (.ok c)).1 hc with
  | accepted hparse _ _ hreads _ _ =>
    obtain ⟨header, payload, signature, htext, hheader, hpayload, hdot, hne, hclaims⟩ := Token.segments_of_parse hparse
    obtain ⟨bytes, hbytes, hmembers⟩ := Token.decodeSegment_eq_ok_iff.1 hclaims
    -- After the last dot stands the third segment, so the two splits agree on what is signed.
    have hmessage : text = (header ++ '.' :: payload) ++ '.' :: signature := by
      rw [htext, List.append_assoc, List.cons_append]
    have hverify : keys.verify text = keys.accepts (header ++ '.' :: payload) signature := by
      rw [hmessage, KeyPair.verify, acceptsToken_append _ _ hdot]
    exact ⟨header, payload, signature, bytes, _, htext, hheader, hpayload, hdot, hne, hverify,
      hverify ▸ verify_of_check hc, hbytes, hmembers,
      (Claims.decode_eq_ok_iff (Token.sorted_of_parse hparse)).2 hreads⟩

/-- The session of the last second is listed as accepted, and as unsigned for a pair that accepts nothing. -/
theorem decides_lastClaims :
    IsSpan Seconds.latest ∧ IsTime Seconds.latest ∧
      ∃ text, Decides lastPair Seconds.latest text Seconds.latest (.ok lastClaims) ∧
        Decides ⟨.es256, lastPair.sign, fun _ _ => false⟩ Seconds.latest text Seconds.latest
          (.error .invalidSignature) := by
  have hspan : IsSpan Seconds.latest := by decide
  have htime : IsTime Seconds.latest := by decide
  obtain ⟨signature, -, haccepts, hne, hdigits⟩ := signs_lastClaims
  have hdot : '.' ∉ signature := fun h => (Base64.ne_of_isDigit (hdigits '.' h)).1 rfl
  have hlevel : (⟨"zoë \"q\"", "", 4294967295⟩ : KeyRecord).accessLevel < 2 ^ 32 := by
    show 4294967295 < 2 ^ 32
    omega
  have hcheck (pair : KeyPair) (hpair : pair.algorithm = .es256) :
      check pair Seconds.latest (KeyPair.signingInput .es256 lastClaims.toJson.compact ++ '.' :: signature)
          Seconds.latest =
        if pair.accepts (KeyPair.signingInput .es256 lastClaims.toJson.compact) signature
        then judge Seconds.latest lastClaims Seconds.latest else .error .invalidSignature := by
    rw [← hpair]
    exact check_signed htime hlevel hne hdot
  refine ⟨hspan, htime, KeyPair.signingInput .es256 lastClaims.toJson.compact ++ '.' :: signature, ?_, ?_⟩
  · refine ((check_eq_iff lastPair hspan _ htime).1 _).1 ?_
    rw [hcheck lastPair rfl, if_pos haccepts, lastClaims, judge_claimsFor hspan hspan htime htime, if_neg (by decide),
      if_neg (by decide)]
  · refine ((check_eq_iff _ hspan _ htime).1 _).1 ?_
    rw [hcheck _ rfl]
    rfl

end Session
end Gatehouse
