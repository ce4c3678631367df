import Gatehouse.Proofs.Http.Refusals
import Gatehouse.Proofs.Key.Signature
/-!
# The server's own tokens — no login takes one

A session token says who its holder is and is signed by a key that could be registered, yet it is no assertion: it names
no issuer, whatever the identity inside it looks like.  The same goes for the token that a new key pair is tried with.
So neither is ever exchanged for a session (`checkIn_of_makes`).
-/
namespace Gatehouse

open Seconds (IsTime)

/-- A token that a key pair signs of the server's own accord: a session's, for any record, or the probe. -/
inductive KeyPair.Makes (keys : KeyPair) : List Char → Prop
  | session {timeout start : Int} {record : KeyRecord} {id : String} {issued : Session.Issued} (hstart : IsTime start)
      (hlevel : record.accessLevel < 2 ^ 32) (hissue : Session.issue keys timeout record start id = .ok issued) :
      Makes keys issued.token
  | probe {token : List Char} (htoken : keys.token KeyPair.probe = .ok token) : Makes keys token

theorem Session.not_issuer_claimMembers (timeout now : Int) (record : KeyRecord) (id : String) :
    Assoc.get? "iss" (claimMembers timeout record now id) = none := by
  simp only [claimMembers, Assoc.get?, String.reduceEq, if_false]

/-- **What such a token says**: no issuer. -/
theorem KeyPair.Makes.parse {keys : KeyPair} {token : List Char} (hkeys : keys.Encodes) (h : keys.Makes token) :
    ∃ claims, Token.parse token = .ok ⟨keys.algorithm.name, claims⟩ ∧ Assoc.get? "iss" claims = none := by
  -- whatever payload the pair signs, the token parses as it
  have hsigned : ∀ {payload : Json} {claims token}, payload.Fits Json.maxDepth → payload.normal = .object claims →
      keys.token payload.compact = .ok token → Token.parse token = .ok ⟨keys.algorithm.name, claims⟩ := by
    intro payload claims token hfits hnormal htoken
    obtain ⟨signature, hsign, rfl⟩ := token_eq_ok_iff.1 htoken
    exact Token.parse_signed keys.algorithm hfits hnormal (hkeys _ _ hsign).1 (hkeys.dot_not_mem hsign)
  cases h with
  | session hstart hlevel hissue =>
    obtain ⟨hclaims, htoken⟩ := Session.token_of_issue hissue
    rw [hclaims] at htoken
    exact ⟨_, hsigned (Session.fits_claimsFor hstart hlevel) Session.normal_claimsFor htoken,
      Session.not_issuer_claimMembers _ _ _ _⟩
  | probe htoken => exact ⟨_, hsigned Token.fits_probe Token.normal_probe htoken, rfl⟩

namespace Assertion

/-- A token without an issuer is rejected without a look at the registry. -/
theorem checkIn_of_nobody {σ : Type} [Registry σ] {text : List Char} {t : Token} (hparse : Token.parse text = .ok t)
    (hissuer : Assoc.get? "iss" t.claims = none) (p : Policy) (state : σ) (now : Int) :
    checkIn p state text now = (.error (.unauthenticated .missingIssuer), state) := by
  have hnone : issuer? t = none := issuer?_eq_none_iff.2 fun iss hiss => by
    rw [hissuer] at hiss
    cases hiss
  simp only [checkIn, check, lookedUp?, hparse, hnone]

end Assertion

namespace Http

theorem login_of_checkIn {σ : Type} [Registry σ] {s : Service} {state after : σ} {r : Request} {m : Moment}
    {request : LoginRequest} {fault : Assertion.Fault} (hbody : s.body LoginRequest.shape r = .ok request)
    (hcheck : Assertion.checkIn s.guard.policy state request.token.toList m.now = (.error fault, after)) :
    s.login state r m = ⟨(Refusal.ofAssertion fault).response, after, [.login none (loginOutcome fault) none]⟩ := by
  simp only [Service.login, hbody, hcheck]

/-- **The server's own tokens are no assertions.**  Key pairs that are read encode their signatures.  If a pair does,
then whatever session it signs, and whenever: any registry, any policy and any time reject the token for want of an
issuer, and the registry is not even asked.  The same holds of the probe.  So a login with such a token is refused by
any service and changes nothing, and no login that starts a session was made with one. -/
theorem checkIn_of_makes :
    (∀ a publicText privateText keys, KeyPair.ofPem a publicText privateText = .ok keys → keys.Encodes) ∧
      ∀ (keys : KeyPair) (token : List Char), keys.Encodes → keys.Makes token → ∀ {σ : Type} [Registry σ] (state : σ),
        (∀ p now, Assertion.checkIn p state token now = (.error (.unauthenticated .missingIssuer), state)) ∧
        (∀ (s : Service) (r : Request) (m : Moment) (request : LoginRequest), r.method = "POST" → r.path = "/auth/login" →
          s.body LoginRequest.shape r = .ok request → request.token.toList = token →
          s.answer state r m = ⟨refusedAs .rejected, state, [.login none "rejected" none]⟩) ∧
        ∀ (s : Service) (r : Request) (m : Moment) (l : Login), s.login? state r m = some l → l.assertion ≠ token := by
  refine ⟨fun a publicText privateText keys => KeyPair.encodes_of_ofPem, ?_⟩
  intro keys token hkeys hmakes σ _ state
  obtain ⟨claims, hparse, hissuer⟩ := hmakes.parse hkeys
  have hcheck := fun p now => Assertion.checkIn_of_nobody hparse hissuer p state now
  refine ⟨hcheck, ?_, ?_⟩
  · intro s r m request hmethod hpath hbody htoken
    have ha := action_of_post hmethod hpath
    have hlogin : s.login state r m = _ := login_of_checkIn hbody (by rw [htoken]; exact hcheck s.guard.policy m.now)
    rw [answer_of_login ha, hlogin]
    exact congrArg (Outcome.mk · state _) (finish_refusal ha _ _ _)
  · rintro s r m l hlogin rfl
    obtain ⟨-, -, -, -, hok, -⟩ := login?_eq_some_iff.1 hlogin
    rw [hcheck] at hok
    cases hok

/-- The root service signs in base64url digits. -/
theorem encodes_root : rootService.guard.keys.Encodes := by
  intro message signature hsign
  have hsignature : Base64.encode .urlSafe rootSignature = signature := Except.ok.inj hsign
  rw [← hsignature]
  exact ⟨Base64.encode_ne_nil .urlSafe (List.cons_ne_nil _ _), Base64.isDigit_of_mem_encode .urlSafe rootSignature⟩

/-- **The root's session token is no assertion of the root**, though the server's key is the root's. -/
theorem checkIn_of_makes_root :
    rootService.guard.keys.Encodes ∧ rootService.guard.keys.Makes rootToken ∧
      Assertion.checkIn rootService.guard.policy rootRegistry rootToken 0 =
        (.error (.unauthenticated .missingIssuer), rootRegistry) := by
  have hmakes : rootService.guard.keys.Makes rootToken :=
    .session (by decide) (by decide) (issue_eq_ok_iff.1 issue_root)
  exact ⟨encodes_root, hmakes, (checkIn_of_makes.2 _ _ encodes_root hmakes rootRegistry).1 _ _⟩

end Http
end Gatehouse
