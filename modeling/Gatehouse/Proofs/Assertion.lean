import Gatehouse.Assertion
import Gatehouse.Proofs.Number.Rounding
import Gatehouse.Proofs.Seconds
import Gatehouse.Proofs.Session
import Gatehouse.Registry.Memory
/-!
# Assertion — when a login assertion is accepted

`check` accepts a token for the record that the registry has under its issuer exactly when the record's key accepts the
signature under the configured algorithm and the times hold in unbounded integers (`checkIn_eq_ok_iff`).  What a claim
must hold to be read as a time is `Token.ReadsTime`.  One assertion that a key accepts, `rootAssertion`, stands for the
others where a run is shown.
-/
namespace Gatehouse

namespace Binary64

/-- The magnitude's numerator with the number's sign. -/
def numerator (x : Binary64) : Int := if x.negative then -(x.magnitude.1 : Int) else x.magnitude.1

/-- **`toInt?` reads exactly the whole numbers.** -/
theorem toInt?_eq_some_iff (x : Binary64) (z : Int) : x.toInt? = some z ↔ x.numerator = z * x.magnitude.2 := by
  have hd := x.magnitude_snd_pos
  unfold toInt? numerator
  generalize x.magnitude = m at hd ⊢
  obtain ⟨n, d⟩ := m
  dsimp only at hd ⊢
  have hd' : (d : Int) ≠ 0 := by omega
  constructor
  · intro h
    split at h
    · rename_i hn
      have hnd : (n : Int) = (n / d : Nat) * d := by
        rw [← Int.natCast_mul, Nat.div_mul_cancel (Nat.dvd_of_mod_eq_zero hn)]
      cases hneg : x.negative <;> simp only [hneg, if_true, Bool.false_eq_true, if_false, Option.some.injEq] at h ⊢
      · rw [← h, ← hnd]
      · rw [← h, Int.neg_mul, ← hnd]
    · cases h
  · intro h
    have hdvd : (d : Int) ∣ n := by
      cases hneg : x.negative <;> simp only [hneg, if_true, Bool.false_eq_true, if_false] at h
      · exact ⟨z, by rw [h, Int.mul_comm]⟩
      · exact ⟨-z, by rw [Int.mul_neg, Int.mul_comm, ← h, Int.neg_neg]⟩
    have hn : d ∣ n := Int.natCast_dvd_natCast.1 hdvd
    rw [if_pos (Nat.mod_eq_zero_of_dvd hn)]
    cases hneg : x.negative <;> simp only [hneg, if_true, Bool.false_eq_true, if_false, Option.some.injEq] at h ⊢
    · rw [Int.natCast_ediv, h, Int.mul_ediv_cancel _ hd']
    · rw [Int.natCast_ediv, show (n : Int) = -z * d by rw [Int.neg_mul, ← h, Int.neg_neg],
        Int.mul_ediv_cancel _ hd', Int.neg_neg]

end Binary64

/-- The integer that a number is, in whatever notation it was written. -/
inductive Json.Number.IsInteger : Json.Number → Int → Prop
  | int (n : Int) : IsInteger (.int n) n
  | float (x : Binary64) (z : Int) (h : x.numerator = z * x.magnitude.2) : IsInteger (.float x) z

namespace Token

/-- A claim is a whole number, and a time is the one nearest to it. -/
def ReadsTime (t : Token) (name : String) (time : Int) : Prop :=
  ∃ n z, Assoc.get? name t.claims = some (.number n) ∧ n.IsInteger z ∧ time = Seconds.clamp z

theorem wholeNumber?_eq_some_iff (v : Json) (time : Int) :
    wholeNumber? v = some time ↔ ∃ n z, v = .number n ∧ n.IsInteger z ∧ time = Seconds.clamp z := by
  constructor
  · intro h
    unfold wholeNumber? at h
    split at h
    · rename_i n
      exact ⟨.int n, n, rfl, .int n, (Option.some.inj h).symm⟩
    · rename_i x
      obtain ⟨z, hz, rfl⟩ := Option.map_eq_some_iff.1 h
      exact ⟨.float x, z, rfl, .float x z ((x.toInt?_eq_some_iff z).1 hz), rfl⟩
    · cases h
  · rintro ⟨n, z, rfl, hn, rfl⟩
    cases hn with
    | int n => rfl
    | float x z h =>
      have hz := (x.toInt?_eq_some_iff z).2 h
      simp only [wholeNumber?, hz, Option.map_some]

theorem time?_eq_some_iff (t : Token) (name : String) (time : Int) :
    t.time? name = some time ↔ t.ReadsTime name time := by
  unfold time? ReadsTime
  rw [Option.bind_eq_some_iff]
  constructor
  · rintro ⟨v, hv, h⟩
    obtain ⟨n, z, rfl, hn, ht⟩ := (wholeNumber?_eq_some_iff v time).1 h
    exact ⟨n, z, hv, hn, ht⟩
  · rintro ⟨n, z, hv, hn, ht⟩
    exact ⟨.number n, hv, (wholeNumber?_eq_some_iff _ time).2 ⟨n, z, rfl, hn, ht⟩⟩

theorem ReadsTime.isTime {t : Token} {name : String} {time : Int} (h : t.ReadsTime name time) :
    Seconds.IsTime time := by
  obtain ⟨n, z, -, -, rfl⟩ := h
  exact Seconds.isTime_clamp z

theorem ReadsTime.eq {t : Token} {name : String} {time other : Int} (h : t.ReadsTime name time)
    (h' : t.ReadsTime name other) : time = other := by
  rw [← time?_eq_some_iff] at h h'
  exact Option.some.inj (h.symm.trans h')

theorem has_eq_false_iff (t : Token) (name : String) :
    t.has name = false ↔ Assoc.get? name t.claims = none ∨ Assoc.get? name t.claims = some .null := by
  unfold has
  cases h : Assoc.get? name t.claims with
  | none => simp
  | some v => cases v <;> simp [Json.isNull]

end Token

namespace Assertion

/-- A policy as settings give it. -/
structure Policy.Configured (p : Policy) : Prop where
  maxLifetime_pos : 1 ≤ p.maxLifetime
  maxLifetime_isSpan : Seconds.IsSpan p.maxLifetime
  leeway_isSpan : Seconds.IsSpan p.leeway

/-! ## The parts of the verdict -/

theorem issuer?_eq_some_iff (t : Token) (iss : String) :
    issuer? t = some iss ↔ Assoc.get? "iss" t.claims = some (.text iss) ∧ iss ≠ "" := by
  have htext : t.text? "iss" = some iss ↔ Assoc.get? "iss" t.claims = some (.text iss) := by
    unfold Token.text?
    cases Assoc.get? "iss" t.claims with
    | none => simp
    | some v => cases v <;> simp [Json.asText?]
  unfold issuer?
  rw [Option.filter_eq_some_iff, htext]
  simp

theorem signatureHolds_iff (p : Policy) (text : List Char) (t : Token) (record : KeyRecord) :
    signatureHolds p text t record = true ↔
      t.algorithm = p.algorithm.name ∧
        ∃ key, PublicKey.ofPem p.algorithm record.publicKey.toList = .ok key ∧ acceptsToken key.accepts text = true := by
  unfold signatureHolds
  rw [Bool.and_eq_true, beq_iff_eq]
  cases PublicKey.ofPem p.algorithm record.publicKey.toList with
  | error fault => simp
  | ok key => simp

/-- A token that says from when on it may be used says a time that has come, the leeway added. -/
def Begun (p : Policy) (t : Token) (now : Int) : Prop :=
  Assoc.get? "nbf" t.claims = none ∨ Assoc.get? "nbf" t.claims = some .null ∨
    ∃ nbf, t.ReadsTime "nbf" nbf ∧ nbf ≤ now + p.leeway

theorem hasBegun_iff {p : Policy} (hp : p.Configured) (t : Token) {now : Int} (hnow : Seconds.IsTime now) :
    hasBegun p t now = true ↔ Begun p t now := by
  unfold hasBegun Begun
  cases hn : t.has "nbf" with
  | false =>
    have h := (t.has_eq_false_iff "nbf").1 hn
    simp only [Bool.false_eq_true, if_false, true_iff]
    exact h.imp id .inl
  | true =>
    have h : ¬ (Assoc.get? "nbf" t.claims = none ∨ Assoc.get? "nbf" t.claims = some .null) := fun h => by
      rw [(t.has_eq_false_iff "nbf").2 h] at hn
      cases hn
    rw [not_or] at h
    simp only [if_true, h.1, h.2, false_or]
    cases ht : t.time? "nbf" with
    | none =>
      simp only [Bool.false_eq_true, false_iff]
      rintro ⟨nbf, hr, -⟩
      rw [(t.time?_eq_some_iff "nbf" nbf).2 hr] at ht
      cases ht
    | some nbf =>
      have hr := (t.time?_eq_some_iff "nbf" nbf).1 ht
      have hle := Seconds.le_after_iff hnow hp.leeway_isSpan.1 hr.isTime
      rw [decide_eq_true_iff, hle]
      constructor
      · exact fun h => ⟨nbf, hr, h⟩
      · rintro ⟨nbf', hr', h⟩
        rw [(t.time?_eq_some_iff "nbf" nbf').2 hr', Option.some.injEq] at ht
        rwa [← ht]

/-- **The times of an accepted token, in unbounded integers.** -/
theorem claimsHold_iff {p : Policy} (hp : p.Configured) (t : Token) {now : Int} (hnow : Seconds.IsTime now) :
    claimsHold p t now = true ↔
      ∃ iat exp, t.ReadsTime "iat" iat ∧ t.ReadsTime "exp" exp ∧ now - p.leeway ≤ exp ∧ iat ≤ now + p.leeway ∧
        Begun p t now ∧ iat ≤ exp ∧ (exp - iat ≤ p.maxLifetime ∨ p.maxLifetime = Seconds.latest) := by
  constructor
  · intro h
    unfold claimsHold at h
    split at h
    · rename_i iat exp hiat hexp
      have hi := (t.time?_eq_some_iff _ iat).1 hiat
      have he := (t.time?_eq_some_iff _ exp).1 hexp
      simp only [Bool.and_eq_true, decide_eq_true_eq] at h
      obtain ⟨⟨⟨⟨h1, h2⟩, h3⟩, h4⟩, h5⟩ := h
      exact ⟨iat, exp, hi, he, (Seconds.before_le_iff hnow hp.leeway_isSpan.1 he.isTime).1 h1,
        (Seconds.le_after_iff hnow hp.leeway_isSpan.1 hi.isTime).1 h2, (hasBegun_iff hp t hnow).1 h3, h4,
        (Seconds.before_le_span_iff h4 hp.maxLifetime_isSpan).1 h5⟩
    · cases h
  · rintro ⟨iat, exp, hi, he, h1, h2, h3, h4, h5⟩
    unfold claimsHold
    rw [(t.time?_eq_some_iff _ iat).2 hi, (t.time?_eq_some_iff _ exp).2 he]
    simp only [Bool.and_eq_true, decide_eq_true_eq]
    exact ⟨⟨⟨⟨(Seconds.before_le_iff hnow hp.leeway_isSpan.1 he.isTime).2 h1,
      (Seconds.le_after_iff hnow hp.leeway_isSpan.1 hi.isTime).2 h2⟩, (hasBegun_iff hp t hnow).2 h3⟩, h4⟩,
      (Seconds.before_le_span_iff h4 hp.maxLifetime_isSpan).2 h5⟩

/-! ## The verdict -/

theorem judge_eq_ok_iff (p : Policy) (text : List Char) (t : Token) (record r : KeyRecord) (now : Int) :
    judge p text t record now = .ok r ↔
      signatureHolds p text t record = true ∧ claimsHold p t now = true ∧ record = r := by
  unfold judge
  cases signatureHolds p text t record <;> cases claimsHold p t now <;> simp

theorem check_eq_ok_iff (p : Policy) (lookup : String → Except RegistryError (Option KeyRecord)) (text : List Char)
    (now : Int) (r : KeyRecord) :
    check p lookup text now = .ok r ↔
      ∃ t iss, Token.parse text = .ok t ∧ issuer? t = some iss ∧ lookup iss = .ok (some r) ∧
        signatureHolds p text t r = true ∧ claimsHold p t now = true := by
  constructor
  · intro h
    unfold check at h
    split at h
    · cases h
    rename_i t ht
    split at h
    · cases h
    rename_i iss hiss
    split at h
    · cases h
    · cases h
    rename_i record hrecord
    obtain ⟨hs, hc, rfl⟩ := (judge_eq_ok_iff p text t record r now).1 h
    exact ⟨t, iss, ht, hiss, hrecord, hs, hc⟩
  · rintro ⟨t, iss, ht, hiss, hr, hs, hc⟩
    unfold check
    simp only [ht, hiss, hr]
    exact (judge_eq_ok_iff p text t r r now).2 ⟨hs, hc, rfl⟩

/-- The times at which a token's claims hold have no gap. -/
theorem claimsHold_between {p : Policy} (hp : p.Configured) {t : Token} {early now late : Int}
    (he : Seconds.IsTime early) (hl : Seconds.IsTime late) (hen : early ≤ now) (hnl : now ≤ late)
    (h₁ : claimsHold p t early = true) (h₂ : claimsHold p t late = true) : claimsHold p t now = true := by
  have hnow : Seconds.IsTime now := ⟨Int.le_trans he.1 hen, Int.le_trans hnl hl.2⟩
  obtain ⟨iat, exp, hi, hx, -, hiat, hb, hle, hlife⟩ := (claimsHold_iff hp t he).1 h₁
  obtain ⟨iat', exp', -, hx', hexp, -⟩ := (claimsHold_iff hp t hl).1 h₂
  have hxx := hx.eq hx'
  have hbegun : Begun p t now := hb.imp id (Or.imp id fun ⟨nbf, hn, hle⟩ => ⟨nbf, hn, by omega⟩)
  exact (claimsHold_iff hp t hnow).2 ⟨iat, exp, hi, hx, by omega, by omega, hbegun, hle, hlife⟩

theorem inTime_eq_ok_iff {α : Type} (reply : Reply α) (a : α) :
    reply.inTime = .ok a ↔ reply = .answered (.ok a) := by
  cases reply <;> simp [Reply.inTime]

/-- **When an assertion is accepted**, for any registry: the token parses, its issuer is registered, the signature is
one of the configured algorithm by the registered key, and the times hold, all sums and differences being those of
the integers.  The times of acceptance have no gap. -/
theorem checkIn_eq_ok_iff {σ : Type} [Registry σ] (p : Policy) (hp : p.Configured) (s : σ) (text : List Char)
    (now : Int) (hnow : Seconds.IsTime now) (r : KeyRecord) :
    ((checkIn p s text now).1 = .ok r ↔
      ∃ t iss key iat exp,
        Token.parse text = .ok t ∧
        Assoc.get? "iss" t.claims = some (.text iss) ∧ iss ≠ "" ∧
        (Registry.get s iss).1 = .answered (.ok (some r)) ∧
        t.algorithm = p.algorithm.name ∧
        PublicKey.ofPem p.algorithm r.publicKey.toList = .ok key ∧ acceptsToken key.accepts text = true ∧
        t.ReadsTime "iat" iat ∧ t.ReadsTime "exp" exp ∧
        (Assoc.get? "nbf" t.claims = none ∨ Assoc.get? "nbf" t.claims = some .null ∨
          ∃ nbf, t.ReadsTime "nbf" nbf ∧ nbf ≤ now + p.leeway) ∧
        exp ≥ now - p.leeway ∧ iat ≤ now + p.leeway ∧ exp ≥ iat ∧
        (exp - iat ≤ p.maxLifetime ∨ p.maxLifetime = Seconds.latest)) ∧
    ∀ early late r', Seconds.IsTime early → Seconds.IsTime late → early ≤ now → now ≤ late →
      (checkIn p s text early).1 = .ok r → (checkIn p s text late).1 = .ok r' → (checkIn p s text now).1 = .ok r := by
  constructor
  · unfold checkIn
    rw [check_eq_ok_iff]
    constructor
    · rintro ⟨t, iss, ht, hiss, hr, hs, hc⟩
      obtain ⟨hi, hne⟩ := (issuer?_eq_some_iff t iss).1 hiss
      obtain ⟨halg, key, hkey, hsig⟩ := (signatureHolds_iff p text t r).1 hs
      obtain ⟨iat, exp, hiat, hexp, h1, h2, h3, h4, h5⟩ := (claimsHold_iff hp t hnow).1 hc
      exact ⟨t, iss, key, iat, exp, ht, hi, hne, (inTime_eq_ok_iff _ _).1 hr, halg, hkey, hsig, hiat, hexp, h3, h1, h2,
        h4, h5⟩
    · rintro ⟨t, iss, key, iat, exp, ht, hi, hne, hr, halg, hkey, hsig, hiat, hexp, h3, h1, h2, h4, h5⟩
      exact ⟨t, iss, ht, (issuer?_eq_some_iff t iss).2 ⟨hi, hne⟩, (inTime_eq_ok_iff _ _).2 hr,
        (signatureHolds_iff p text t r).2 ⟨halg, key, hkey, hsig⟩,
        (claimsHold_iff hp t hnow).2 ⟨iat, exp, hiat, hexp, h1, h2, h3, h4, h5⟩⟩
  · intro early late r' he hl hen hnl h₁ h₂
    obtain ⟨t, iss, ht, hiss, hr, hs, hc⟩ := (check_eq_ok_iff _ _ _ _ _).1 h₁
    obtain ⟨t', -, ht', -, -, -, hc'⟩ := (check_eq_ok_iff _ _ _ _ _).1 h₂
    rw [ht, Except.ok.injEq] at ht'
    subst ht'
    exact (check_eq_ok_iff _ _ _ _ _).2 ⟨t, iss, ht, hiss, hr, hs, claimsHold_between hp he hl hen hnl hc hc'⟩

end Assertion

/-! ## An assertion that is accepted -/

/-- The key of the private number 7 as text. -/
def rootText : List Char :=
  Pem.write "PUBLIC KEY".toList
    ([0x30, 0x59, 0x30, 0x13] ++ PublicKey.ecIdentifier .p256 ++ [0x03, 0x42, 0x00] ++ Session.seventhKey.content)

def root : KeyRecord := ⟨"root", String.ofList rootText, 9⟩

def rootRegistry : MemoryRegistry := ⟨.ec, false, SortedMap.empty.insert "root" root⟩

/-- What an issuer says to be let in within ten seconds. -/
def payloadOf (iss : String) : Json := .object [("exp", .int 9), ("iat", .int 0), ("iss", .text iss)]

/-- The signature of what `root` says by the private number 7. -/
def rootProof : List UInt8 :=
  Digest.toBytes 32 0x163ee5d9a881d11ce388cfe5d9a52a2dda1fb6f5e3b5cbea7e1851e40b6e0842 ++
    Digest.toBytes 32 0x0b135642358418ca2e597088f0d3b2ef50b5d155eeaec6ae5e223d31b271f588

/-- An assertion of `root`. -/
def rootAssertion : List Char :=
  KeyPair.signingInput .es256 (payloadOf "root").compact ++ '.' :: Base64.encode .urlSafe rootProof

theorem ofPem_root : PublicKey.ofPem .es256 root.publicKey.toList = .ok Session.seventhKey := by
  have hcontent : Key.publicContent .ec rootText = .ok Session.seventhKey.content :=
    toOption_eq_some_iff.1 (by decide +kernel)
  rw [root, String.toList_ofList]
  simp only [PublicKey.ofPem, show Algorithm.family .es256 = .ec from rfl, hcontent]
  rfl

theorem accepts_rootAssertion : acceptsToken Session.seventhKey.accepts rootAssertion = true := by
  rw [rootAssertion, acceptsToken_append _ _ (Base64.dot_not_mem_encode rootProof), PublicKey.accepts_encode]
  decide +kernel

theorem parse_payloadOf (a : Algorithm) (iss : String) {proof : List UInt8} (hne : proof ≠ []) :
    Token.parse (KeyPair.signingInput a (payloadOf iss).compact ++ '.' :: Base64.encode .urlSafe proof) =
      .ok ⟨a.name, [("exp", .int 9), ("iat", .int 0), ("iss", .text iss)]⟩ := by
  have hfits : (payloadOf iss).Fits Json.maxDepth := by
    refine ⟨126, rfl, ?_⟩
    simp only [Json.FitsMembers, Json.Fits, Json.int, Json.IsExact]
    decide
  have hnormal : (payloadOf iss).normal = .object [("exp", .int 9), ("iat", .int 0), ("iss", .text iss)] := by
    simp only [payloadOf, Json.int, Json.normal, Json.normalMembers, Json.ofMembers, List.foldl_cons, List.foldl_nil,
      Assoc.insert, String.reduceEq, String.reduceLT, if_false]
  exact Token.parse_signed a hfits hnormal (Base64.encode_ne_nil .urlSafe hne) (Base64.dot_not_mem_encode proof)

theorem parse_rootAssertion :
    Token.parse rootAssertion = .ok ⟨"ES256", [("exp", .int 9), ("iat", .int 0), ("iss", .text "root")]⟩ :=
  parse_payloadOf .es256 "root" (List.cons_ne_nil _ _)

namespace Assertion

/-- **The assertion of `root` at the ends of its times**: it is accepted in its first second and in its last, but not a
second before or after, and not where its lifetime is a second too long. -/
theorem checkIn_in_its_times :
    (∀ lifetime ∈ [8, 9], Policy.Configured ⟨.es256, lifetime, 0⟩) ∧ (∀ now ∈ [-1, 0, 9, 10], Seconds.IsTime now) ∧
      ∀ lifetime ∈ [8, 9], ∀ now ∈ [-1, 0, 9, 10],
        ((checkIn ⟨.es256, lifetime, 0⟩ rootRegistry rootAssertion now).1 = .ok root ↔ lifetime = 9 ∧ now ∈ [0, 9]) := by
  have hconfigured : ∀ lifetime ∈ [8, 9], Policy.Configured ⟨.es256, lifetime, 0⟩ := by
    intro lifetime hmem
    have hpos : ∀ lifetime ∈ [8, 9], (1 : Int) ≤ lifetime := by decide
    have hspan : ∀ span ∈ [0, 8, 9], Seconds.IsSpan span := by decide
    exact ⟨hpos lifetime hmem, hspan lifetime (List.mem_cons_of_mem 0 hmem), hspan 0 List.mem_cons_self⟩
  have htimes : ∀ now ∈ [-1, 0, 9, 10], Seconds.IsTime now := by decide
  have hiat : Token.ReadsTime ⟨"ES256", [("exp", .int 9), ("iat", .int 0), ("iss", .text "root")]⟩ "iat" 0 :=
    ⟨.int 0, 0, rfl, .int 0, by decide⟩
  have hexp : Token.ReadsTime ⟨"ES256", [("exp", .int 9), ("iat", .int 0), ("iss", .text "root")]⟩ "exp" 9 :=
    ⟨.int 9, 9, rfl, .int 9, by decide⟩
  have hdecided : ∀ lifetime ∈ [8, 9], ∀ now ∈ [-1, 0, 9, 10],
      ((9 : Int) ≥ now - 0 ∧ 0 ≤ now + 0 ∧ ((9 : Int) - 0 ≤ lifetime ∨ lifetime = Seconds.latest) ↔
        lifetime = 9 ∧ now ∈ [0, 9]) := by decide
  refine ⟨hconfigured, htimes, fun lifetime hlifetime now hnow => ?_⟩
  rw [(checkIn_eq_ok_iff _ (hconfigured lifetime hlifetime) rootRegistry _ _ (htimes now hnow) root).1,
    ← hdecided lifetime hlifetime now hnow]
  constructor
  · rintro ⟨t, iss, key, iat, exp, hparse, -, -, -, -, -, -, hi, hx, -, hto, hfrom, -, hlong⟩
    rw [parse_rootAssertion, Except.ok.injEq] at hparse
    subst hparse
    obtain rfl := hi.eq hiat
    obtain rfl := hx.eq hexp
    exact ⟨hto, hfrom, hlong⟩
  · rintro ⟨hto, hfrom, hlong⟩
    exact ⟨_, "root", Session.seventhKey, 0, 9, parse_rootAssertion, rfl, by decide, rfl, rfl, ofPem_root,
      accepts_rootAssertion, hiat, hexp, .inl rfl, hto, hfrom, by decide, hlong⟩

end Assertion
end Gatehouse
