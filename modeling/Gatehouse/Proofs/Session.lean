import Gatehouse.Proofs.Json.Shape
import Gatehouse.Proofs.Token
import Gatehouse.Session
/-!
# Sessions — what is issued is accepted, in its window

`check_issue`: a session token is accepted from the time of issue on, for the lifetime, with the leeway on both sides,
and its claims are those that were issued.  `check_signed` is the same for any text that carries the signing input of a
session, whatever its signature.
-/
namespace Gatehouse
namespace Session

open Seconds (IsTime IsSpan)

/-! ## The claims of a record's session -/

/-- The claims of a record's session as they are read, in ascending order. -/
def claimMembers (timeout : Int) (record : KeyRecord) (now : Int) (id : String) : List (String × Json) :=
  [("exp", .int (Seconds.after now timeout)), ("iat", .int now), ("jti", .text id), ("nbf", .int now),
    ("sub", .text record.identity),
    ("user", .object [("accessLevel", .int record.accessLevel), ("identity", .text record.identity)])]

variable {timeout now : Int} {record : KeyRecord} {id : String}

theorem normal_claimsFor :
    (claimsFor timeout record now id).toJson.normal = .object (claimMembers timeout record now id) := by
  simp only [claimsFor, Claims.toJson, member?, User.toJson, List.cons_append, List.nil_append, Json.int, Json.normal,
    Json.normalMembers, Json.ofMembers, List.foldl_cons, List.foldl_nil, Assoc.insert, String.reduceEq, String.reduceLT,
    if_true, if_false, claimMembers]

theorem fits_claimsFor (hnow : IsTime now) (hlevel : record.accessLevel < 2 ^ 32) :
    (claimsFor timeout record now id).toJson.Fits Json.maxDepth := by
  have htime := Json.isExact_of_isTime hnow
  have hexp : Json.IsExact (Seconds.after now timeout) := Json.isExact_of_isTime (Seconds.isTime_clamp _)
  have hexact : Json.IsExact record.accessLevel := ⟨by omega, by omega⟩
  refine ⟨126, rfl, ?_⟩
  simp only [Json.FitsMembers, Json.Fits, claimsFor, member?, User.toJson, List.cons_append, List.nil_append, Json.int,
    htime, hexp, true_and, and_true]
  exact ⟨125, rfl, hexact⟩

theorem decode_user (hlevel : record.accessLevel < 2 ^ 32) :
    User.shape.decode (.object [("accessLevel", .int record.accessLevel), ("identity", .text record.identity)]) =
      .ok ⟨record.identity, some record.accessLevel⟩ := by
  refine Json.decode_object ?_ rfl
  rw [Json.putMembers_field rfl (Json.nullable_of_ok rfl (Json.natural_u32 hlevel)),
    Json.putMembers_field rfl (Json.string_text _)]
  rfl

/-- **The claims read back.** -/
theorem decode_claimMembers (hnow : IsTime now) (hlevel : record.accessLevel < 2 ^ 32) :
    Claims.shape.decode (.object (claimMembers timeout record now id)) = .ok (claimsFor timeout record now id) := by
  have hexp : Json.integer .i64 (.int (Seconds.after now timeout)) = .ok (Seconds.after now timeout) :=
    Json.integer_i64 (Seconds.isTime_clamp _)
  have htime := Json.integer_i64 hnow
  refine Json.decode_object ?_ rfl
  rw [claimMembers, Json.putMembers_field rfl hexp, Json.putMembers_field rfl htime,
    Json.putMembers_field rfl (Json.nullable_of_ok rfl (Json.string_text id)),
    Json.putMembers_field rfl (Json.nullable_of_ok rfl htime), Json.putMembers_field rfl (Json.string_text _),
    Json.putMembers_field rfl (Json.nullable_of_ok rfl (decode_user hlevel))]
  rfl

theorem issue_of_sign {keys : KeyPair} {signature : List Char}
    (hsign : keys.sign (KeyPair.signingInput keys.algorithm (claimsFor timeout record now id).toJson.compact) =
      .ok signature) :
    issue keys timeout record now id =
      .ok ⟨KeyPair.signingInput keys.algorithm (claimsFor timeout record now id).toJson.compact ++ '.' :: signature,
        claimsFor timeout record now id⟩ := by
  simp only [issue, KeyPair.token, hsign, Except.map]

theorem issue_of_sign_error {keys : KeyPair} {fault : Key.Fault}
    (hsign : keys.sign (KeyPair.signingInput keys.algorithm (claimsFor timeout record now id).toJson.compact) =
      .error fault) :
    issue keys timeout record now id = .error fault := by
  simp only [issue, KeyPair.token, hsign, Except.map]

/-- A session that is issued is the record's, in a token that the key pair made. -/
theorem token_of_issue {keys : KeyPair} {issued : Issued} (h : issue keys timeout record now id = .ok issued) :
    issued.claims = claimsFor timeout record now id ∧ keys.token issued.claims.toJson.compact = .ok issued.token := by
  unfold issue at h
  cases htoken : keys.token (claimsFor timeout record now id).toJson.compact with
  | error fault =>
    simp only [htoken, Except.map] at h
    cases h
  | ok token =>
    simp only [htoken, Except.map, Except.ok.injEq] at h
    rw [← h]
    exact ⟨rfl, htoken⟩

/-- Its token signs it. -/
theorem issued_of_issue {keys : KeyPair} {issued : Issued} (h : issue keys timeout record now id = .ok issued) :
    issued.claims = claimsFor timeout record now id ∧
      ∃ signature, issued.token =
        KeyPair.signingInput keys.algorithm issued.claims.toJson.compact ++ '.' :: signature := by
  obtain ⟨hclaims, htoken⟩ := token_of_issue h
  obtain ⟨signature, -, hsigned⟩ := KeyPair.token_eq_ok_iff.1 htoken
  exact ⟨hclaims, signature, hsigned⟩

/-! ## The window -/

/-- **The verdict on a record's session, in unbounded integers.** -/
theorem judge_claimsFor (htimeout : IsSpan timeout) {leeway t : Int} (hleeway : IsSpan leeway) (hnow : IsTime now)
    (ht : IsTime t) :
    judge leeway (claimsFor timeout record now id) t =
      if t < now - leeway then .error .notYetValid
      else if now + timeout + leeway < t then .error .expired
      else .ok (claimsFor timeout record now id) := by
  have hearly : Seconds.after t leeway < now ↔ t < now - leeway := by
    have h := Seconds.le_after_iff ht hleeway.1 hnow
    omega
  have hlate : Seconds.after (Seconds.after now timeout) leeway < t ↔ now + timeout + leeway < t := by
    have hspan := htimeout.1
    have hleeway := hleeway.1
    unfold IsTime Seconds.earliest Seconds.latest at *
    unfold Seconds.after Seconds.clamp Seconds.earliest Seconds.latest
    omega
  simp only [judge, claimsFor, Option.any_some, decide_eq_true_eq, hearly, hlate]

/-! ## Checking what was signed -/

variable {keys : KeyPair} {leeway t : Int}

/-- Every claim that is required is there. -/
theorem requiredClaims_find? {claims : List (String × Json)} {algorithm : String}
    (hclaims : claims = claimMembers timeout record now id) :
    (requiredClaims.find? fun name => !(Token.mk algorithm claims).has name) = none := by
  subst hclaims
  rfl

/-- **A text over the signing input of a session**: only its signature can be refused. -/
theorem check_signed (hnow : IsTime now) (hlevel : record.accessLevel < 2 ^ 32) {signature : List Char}
    (hne : signature ≠ []) (hdot : '.' ∉ signature) :
    check keys leeway
        (KeyPair.signingInput keys.algorithm (claimsFor timeout record now id).toJson.compact ++ '.' :: signature) t =
      if keys.accepts (KeyPair.signingInput keys.algorithm (claimsFor timeout record now id).toJson.compact) signature
      then judge leeway (claimsFor timeout record now id) t
      else .error .invalidSignature := by
  have hfits : (claimsFor timeout record now id).toJson.Fits Json.maxDepth := fits_claimsFor hnow hlevel
  have hparse := Token.parse_signed keys.algorithm hfits normal_claimsFor hne hdot
  unfold check
  rw [hparse, KeyPair.verify, acceptsToken_append _ _ hdot]
  simp only [requiredClaims_find? rfl, decode_claimMembers hnow hlevel, bne_self_eq_false, Bool.false_or,
    Bool.not_eq_true']
  cases keys.accepts _ signature <;> rfl

theorem parse_of_check {text : List Char} {c : Claims} (h : check keys leeway text t = .ok c) :
    ∃ token, Token.parse text = .ok token := by
  unfold check at h
  split at h
  · cases h
  · rename_i token hparse
    exact ⟨token, hparse⟩

/-- An accepted text has a signature that the key pair accepts. -/
theorem verify_of_check {text : List Char} {c : Claims} (h : check keys leeway text t = .ok c) :
    keys.verify text = true := by
  unfold check at h
  split at h
  · cases h
  split at h
  · cases h
  split at h
  · cases h
  · rename_i hsignature
    simp only [Bool.or_eq_true, Bool.not_eq_true', not_or, Bool.not_eq_false] at hsignature
    exact hsignature.2

/-- **The probe is no session**, whatever its signature: it has no time of issue. -/
theorem check_probe (keys : KeyPair) (leeway : Int) (signature : List Char) (now : Int) (c : Claims) :
    check keys leeway (KeyPair.signingInput keys.algorithm KeyPair.probe ++ '.' :: signature) now ≠ .ok c := by
  intro h
  unfold check at h
  split at h
  · cases h
  rename_i t ht
  have hprobe := Token.eq_of_parse_signed Token.fits_probe Token.normal_probe ht
  have hmissing : (requiredClaims.find? fun name => !t.has name) = some "iat" := by
    rw [hprobe]
    rfl
  rw [hmissing] at h
  cases h

/-- **A text over the signing input of a session that is accepted** says that session, and its window lasts. -/
theorem claims_of_check (htimeout : IsSpan timeout) (hleeway : IsSpan leeway) (hnow : IsTime now) (ht : IsTime t)
    (hlevel : record.accessLevel < 2 ^ 32) {signature : List Char} {c : Claims}
    (h : check keys leeway
      (KeyPair.signingInput keys.algorithm (claimsFor timeout record now id).toJson.compact ++ '.' :: signature) t =
        .ok c) :
    c = claimsFor timeout record now id ∧ now - leeway ≤ t ∧ t ≤ now + timeout + leeway := by
  obtain ⟨token, hparse⟩ := parse_of_check h
  have hsignature := Token.signature_of_parse hparse
  rw [check_signed hnow hlevel hsignature.1 hsignature.2] at h
  split at h
  · rw [judge_claimsFor htimeout hleeway hnow ht] at h
    split at h
    · cases h
    split at h
    · cases h
    · cases h
      exact ⟨rfl, by omega, by omega⟩
  · cases h

/-- **A session that is issued is accepted in its window, and nowhere else**: before it the token is not yet valid,
after it expired, both ends being those of the integers. -/
theorem check_issue (keys : KeyPair) {timeout leeway now t : Int} (htimeout : IsSpan timeout) (hleeway : IsSpan leeway)
    (hnow : IsTime now) (ht : IsTime t) (record : KeyRecord) (hlevel : record.accessLevel < 2 ^ 32) (id : String)
    (hkeys : keys.Signs (KeyPair.signingInput keys.algorithm (claimsFor timeout record now id).toJson.compact)) :
    ∃ issued, issue keys timeout record now id = .ok issued ∧
      issued.claims.subject = record.identity ∧ issued.claims.issuedAt = now ∧
      issued.claims.notBefore = some now ∧ issued.claims.id = some id ∧
      issued.claims.user = some ⟨record.identity, some record.accessLevel⟩ ∧
      check keys leeway issued.token t =
        if t < now - leeway then .error .notYetValid
        else if now + timeout + leeway < t then .error .expired
        else .ok issued.claims := by
  obtain ⟨signature, hsign, haccepts, hne, hdigits⟩ := hkeys
  have hdot : '.' ∉ signature := fun h => (Base64.ne_of_isDigit (hdigits '.' h)).1 rfl
  refine ⟨_, issue_of_sign hsign, rfl, rfl, rfl, rfl, rfl, ?_⟩
  rw [check_signed hnow hlevel hne hdot, if_pos haccepts, judge_claimsFor htimeout hleeway hnow ht]

/-- The public key of the private number 7 on P-256. -/
def seventhKey : PublicKey where
  algorithm := .es256
  content := Curve.p256.uncompressed
    ⟨0x8e533b6fa0bf7b4625bb30667c01fb607ef9f8b8a80fef5b300628703187b2a3,
      0x73eb1dbde03318366d069f83a6f5900053c73633cb041b21c55e1a86c1f400b4⟩

/-- A session of the greatest lifetime, from the last second on. -/
def lastClaims : Claims := claimsFor Seconds.latest ⟨"zoë \"q\"", "", 4294967295⟩ Seconds.latest "a"

/-- The signature of the private number 7 over it. -/
def lastSignature : List UInt8 :=
  Digest.toBytes 32 0xdc45510f8aeceec1adbf63fb236c73a9233f2f445b27d0b86671d804b59cdb88 ++
    Digest.toBytes 32 0x24bcfd9e621512475dc95742ba2eda2b5d87599ba1c67d2903d7097fadb103d5

/-- The pair as far as that one message goes. -/
def lastPair : KeyPair := ⟨.es256, fun _ => .ok (Base64.encode .urlSafe lastSignature), seventhKey.accepts⟩

theorem signs_lastClaims : lastPair.Signs (KeyPair.signingInput .es256 lastClaims.toJson.compact) := by
  have hne : lastSignature ≠ [] := List.cons_ne_nil _ _
  have haccepts : lastPair.accepts = seventhKey.accepts := rfl
  refine KeyPair.signs_of_encode hne rfl ?_
  rw [haccepts, PublicKey.accepts_encode]
  decide +kernel

/-- A session that starts in the last second does not expire. -/
theorem check_issue_last_second :
    IsSpan Seconds.latest ∧ IsTime Seconds.latest ∧
      lastPair.Signs (KeyPair.signingInput .es256 lastClaims.toJson.compact) ∧
      ∃ issued, issue lastPair Seconds.latest ⟨"zoë \"q\"", "", 4294967295⟩ Seconds.latest "a" = .ok issued ∧
        check lastPair Seconds.latest issued.token Seconds.latest = .ok issued.claims := by
  have hspan : IsSpan Seconds.latest := by decide
  have htime : IsTime Seconds.latest := by decide
  obtain ⟨issued, hissue, -, -, -, -, -, hcheck⟩ :=
    check_issue lastPair hspan hspan htime htime ⟨"zoë \"q\"", "", 4294967295⟩ (by decide) "a"
      signs_lastClaims
  refine ⟨hspan, htime, signs_lastClaims, issued, hissue, ?_⟩
  rw [hcheck, if_neg (by decide), if_neg (by decide)]

end Session
end Gatehouse
