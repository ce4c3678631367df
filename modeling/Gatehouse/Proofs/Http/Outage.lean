import Gatehouse.Proofs.Assertion.Decision
import Gatehouse.Proofs.Http.Run
import Gatehouse.Registry.Store
/-!
# Outages — a login fails closed

`login_of_lookup`: a look-up that fails, or that is never answered, is told to the client as trouble of the server, and
nothing else is; no session starts.  For that a session's cookie has to be a header's value (`isHeaderValue_session`).
-/
namespace Gatehouse
namespace Http

/-! ## Cookies as header values -/

theorem isHeaderValue_append (a b : String) : isHeaderValue (a ++ b) = (isHeaderValue a && isHeaderValue b) := by
  simp only [isHeaderValue, String.toList_append, List.all_append]

theorem isHeaderValue_ofList {cs : List Char} (h : ∀ c ∈ cs, 0x20 ≤ c.toNat ∧ c.toNat < 0x7F) :
    isHeaderValue (String.ofList cs) = true := by
  rw [isHeaderValue, String.toList_ofList, List.all_eq_true]
  intro c hc
  have hrange := h c hc
  simp only [Bool.or_eq_true, Bool.and_eq_true, decide_eq_true_eq, ne_eq]
  omega

theorem isHeaderValue_int (n : Int) : isHeaderValue (toString n) = true := by
  rw [← String.ofList_toList (s := toString n), Json.toList_toString]
  refine isHeaderValue_ofList fun c hc => ?_
  rcases List.mem_append.1 hc with hsign | hdigit
  · split at hsign
    · rw [List.mem_singleton.1 hsign]
      decide
    · cases hsign
  · have hc := Json.isDigit_of_mem_toDigits _ c hdigit
    simp only [Char.isDigit, Bool.and_eq_true, decide_eq_true_eq, ge_iff_le, UInt32.le_iff_toNat_le] at hc
    have hlow : 48 ≤ c.toNat := hc.1
    have hhigh : c.toNat ≤ 57 := hc.2
    omega

theorem isHeaderValue_session {g : Guard} (hname : isHeaderValue g.settings.cookieName = true) {payload : String}
    (bytes : List UInt8) :
    isHeaderValue (g.sessionCookie (KeyPair.signingInput g.keys.algorithm payload ++ '.' :: Base64.encode .urlSafe bytes)) =
      true := by
  have htoken : isHeaderValue (String.ofList
      (KeyPair.signingInput g.keys.algorithm payload ++ '.' :: Base64.encode .urlSafe bytes)) = true := by
    refine isHeaderValue_ofList fun c hc => ?_
    have hrange := KeyPair.range_of_mem_token hc
    omega
  have hequals : isHeaderValue "=" = true := by decide
  have hpath : isHeaderValue "; Path=/; HttpOnly; SameSite=Lax; Max-Age=" = true := by decide
  have hsecure : isHeaderValue (if g.settings.cookieSecure then "; Secure" else "") = true := by
    split <;> decide
  unfold Guard.sessionCookie Guard.cookie
  simp only [isHeaderValue_append, hname, htoken, hequals, hpath, hsecure, isHeaderValue_int, Bool.and_self]

/-! ## The response to a login -/

variable {σ : Type} [Registry σ] {state : σ} {s : Service} {r : Request} {m : Moment} {request : LoginRequest}

theorem action_of_post (hmethod : r.method = "POST") (hpath : r.path = "/auth/login") : r.action? = some .login := by
  unfold Request.action?
  rw [hmethod, hpath]
  decide

/-- A login that is refused is told so. -/
theorem login_of_fault (hbody : s.body LoginRequest.shape r = .ok request) {fault : Assertion.Fault}
    (hcheck : (Assertion.checkIn s.guard.policy state request.token.toList m.now).1 = .error fault) :
    (s.login state r m).response = (Refusal.ofAssertion fault).response := by
  unfold Service.login
  simp only [hbody]
  split
  · rename_i h
    rw [h] at hcheck
    cases hcheck
    rfl
  · rename_i h
    rw [h] at hcheck
    cases hcheck

theorem answer_of_fault (ha : r.action? = some .login) (hbody : s.body LoginRequest.shape r = .ok request)
    {fault : Assertion.Fault}
    (hcheck : (Assertion.checkIn s.guard.policy state request.token.toList m.now).1 = .error fault) :
    (s.answer state r m).response = finish r (some .login) (Refusal.ofAssertion fault).response := by
  rw [answer_of_login ha, login_of_fault hbody hcheck]

/-- A login that is granted is told the session in a cookie. -/
theorem status_of_record (ha : r.action? = some .login) (hbody : s.body LoginRequest.shape r = .ok request)
    {record : KeyRecord}
    (hcheck : (Assertion.checkIn s.guard.policy state request.token.toList m.now).1 = .ok record)
    (hname : isHeaderValue s.guard.settings.cookieName = true) {bytes : List UInt8}
    (hsign : s.guard.keys.sign (s.message (Session.claimsFor s.guard.sessionTimeout record m.now m.sessionId)) =
      .ok (Base64.encode .urlSafe bytes)) : (s.answer state r m).response.status = 200 := by
  have hissue := issue_eq_ok_iff.2 (Session.issue_of_sign hsign)
  have hlogin : s.login? state r m = some ⟨request.token.toList, record, _⟩ :=
    login?_eq_some_iff.2 ⟨ha, request, hbody, rfl, hcheck, hissue⟩
  rw [answer_of_login ha, (login_of_login? hlogin).1, finish, Service.welcome, Response.withHeader,
    if_pos (isHeaderValue_session hname bytes)]
  rfl

/-! ## Trouble with the registry -/

/-- The registry does not tell whether it has a record for an identity. -/
def LookupFails (state : σ) (identity : String) : Prop :=
  (Registry.get state identity).1 = .silent ∨ ∃ e, (Registry.get state identity).1 = .answered (.error e)

variable {t : Token} {iss : String}

theorem exists_fault_of_lookupFails (hparse : Token.parse request.token.toList = .ok t)
    (hissuer : Assertion.IssuedBy t iss) (hfails : LookupFails state iss) (p : Assertion.Policy) (now : Int) :
    ∃ e, (Assertion.checkIn p state request.token.toList now).1 = .error (.registry e) := by
  rcases hfails with hsilent | ⟨e, herror⟩
  · exact ⟨.timeout, Assertion.checkIn_eq_iff.2 (.silent hparse hissuer hsilent)⟩
  · exact ⟨e, Assertion.checkIn_eq_iff.2 (.failed hparse hissuer herror)⟩

/-- The response to a login that meets trouble. -/
theorem answer_of_lookupFails (ha : r.action? = some .login) (hbody : s.body LoginRequest.shape r = .ok request)
    (hparse : Token.parse request.token.toList = .ok t) (hissuer : Assertion.IssuedBy t iss)
    (hfails : LookupFails state iss) :
    (s.answer state r m).response =
      finish r (some .login) (Response.refusal 500 "internal_error" "internal server error") := by
  obtain ⟨e, hcheck⟩ := exists_fault_of_lookupFails hparse hissuer hfails s.guard.policy m.now
  rw [answer_of_fault ha hbody hcheck]
  rfl

/-- A look-up that succeeds leads to a rejection or to a session. -/
theorem status_of_lookup (ha : r.action? = some .login) (hbody : s.body LoginRequest.shape r = .ok request)
    (hparse : Token.parse request.token.toList = .ok t) (hissuer : Assertion.IssuedBy t iss)
    (hname : isHeaderValue s.guard.settings.cookieName = true)
    (hsign : ∀ record, (Registry.get state iss).1 = .answered (.ok (some record)) →
      ∃ bytes, s.guard.keys.sign (s.message (Session.claimsFor s.guard.sessionTimeout record m.now m.sessionId)) =
        .ok (Base64.encode .urlSafe bytes)) (hlookup : ¬ LookupFails state iss) :
    (s.answer state r m).response.status = 401 ∨ (s.answer state r m).response.status = 200 := by
  have hrejected {reason : Assertion.Reason}
      (hcheck : (Assertion.checkIn s.guard.policy state request.token.toList m.now).1 = .error (.unauthenticated reason)) :
      (s.answer state r m).response.status = 401 := by
    rw [answer_of_fault ha hbody hcheck]
    rfl
  cases hget : (Registry.get state iss).1 with
  | silent => exact absurd (.inl hget) hlookup
  | answered result =>
    cases result with
    | error e => exact absurd (.inr ⟨e, hget⟩) hlookup
    | ok found =>
      cases found with
      | none => exact .inl (hrejected (Assertion.checkIn_eq_iff.2 (.unknown hparse hissuer hget)))
      | some record =>
        by_cases hsigned : Assertion.Signed s.guard.policy request.token.toList t record
        · cases htimes : Assertion.claimsHold s.guard.policy t m.now with
          | false => exact .inl (hrejected (Assertion.checkIn_eq_iff.2 (.untimely hparse hissuer hget hsigned htimes)))
          | true =>
            have hcheck := Assertion.checkIn_eq_iff.2 (.accepted hparse hissuer hget hsigned htimes)
            obtain ⟨bytes, hbytes⟩ := hsign record hget
            exact .inr (status_of_record ha hbody hcheck hname hbytes)
        · exact .inl (hrejected (Assertion.checkIn_eq_iff.2 (.unsigned hparse hissuer hget hsigned)))

/-- **A login fails closed.**  Against any registry the verdict on an assertion is the one that is listed; without an
issuer no registry has a part in it.  A login whose token names an issuer is answered as trouble of the server, without
a cookie, exactly when the look-up fails; it is not called a rejection then, and no session starts. -/
theorem login_of_lookup (state : σ) :
    (∀ p text now v, (Assertion.checkIn p state text now).1 = v ↔ Assertion.Decides p state text now v) ∧
      (∀ p text now, (∀ t iss, Token.parse text = .ok t → ¬ Assertion.IssuedBy t iss) →
        ∀ {τ : Type} [Registry τ] (other : τ),
          (Assertion.checkIn p other text now).1 = (Assertion.checkIn p state text now).1) ∧
      ∀ (s : Service) (r : Request) (m : Moment) (request : LoginRequest) (t : Token) (iss : String),
        r.method = "POST" → r.path = "/auth/login" → s.body LoginRequest.shape r = .ok request →
        Token.parse request.token.toList = .ok t → Assertion.IssuedBy t iss →
        isHeaderValue s.guard.settings.cookieName = true →
        (∀ record, (Registry.get state iss).1 = .answered (.ok (some record)) →
          ∃ bytes, s.guard.keys.sign (s.message (Session.claimsFor s.guard.sessionTimeout record m.now m.sessionId)) =
            .ok (Base64.encode .urlSafe bytes)) →
        (((s.answer state r m).response.status = 500 ∧
            ∀ h ∈ (s.answer state r m).response.headers, h.1 ≠ "set-cookie") ↔ LookupFails state iss) ∧
          (LookupFails state iss → (s.answer state r m).response.status ≠ 401 ∧ s.login? state r m = none) := by
  refine ⟨fun p text now v => Assertion.checkIn_eq_iff, fun p text now hissuer τ _ other =>
    Assertion.checkIn_of_anonymous hissuer other, ?_⟩
  intro s r m request t iss hmethod hpath hbody hparse hissuer hname hsign
  have ha := action_of_post hmethod hpath
  refine ⟨⟨fun ⟨hstatus, _⟩ => ?_, fun hfails => ?_⟩, fun hfails => ⟨?_, ?_⟩⟩
  · by_cases hlookup : LookupFails state iss
    · exact hlookup
    -- Any other verdict is a rejection or a session, and neither is 500.
    · have hother := status_of_lookup ha hbody hparse hissuer hname hsign hlookup
      omega
  · have hhandled : (Route.login.action? r.method).isSome = true := by rw [(route_of_login ha).2]; rfl
    rw [answer_of_lookupFails ha hbody hparse hissuer hfails, finish]
    simp only [hhandled, if_true, Response.refusal, Response.json]
    decide
  · rw [answer_of_lookupFails ha hbody hparse hissuer hfails]
    exact (by decide : 500 ≠ 401)
  · obtain ⟨e, hcheck⟩ := exists_fault_of_lookupFails hparse hissuer hfails s.guard.policy m.now
    cases hlogin : s.login? state r m with
    | none => rfl
    | some l =>
      obtain ⟨-, request', hbody', hassertion, hok, -⟩ := login?_eq_some_iff.1 hlogin
      rw [hbody, Except.ok.injEq] at hbody'
      rw [hassertion, ← hbody', hcheck] at hok
      cases hok

/-- **A registry that never answers lets nobody in**, and is not taken for a rejection. -/
theorem login_of_stalled :
    rootLogin.1.method = "POST" ∧ rootLogin.1.path = "/auth/login" ∧
      rootService.body LoginRequest.shape rootLogin.1 = .ok ⟨String.ofList rootAssertion⟩ ∧
      Token.parse rootAssertion = .ok ⟨"ES256", [("exp", .int 9), ("iat", .int 0), ("iss", .text "root")]⟩ ∧
      isHeaderValue rootService.guard.settings.cookieName = true ∧ LookupFails Store.stalled "root" ∧
      (rootService.answer Store.stalled rootLogin.1 rootLogin.2).response.status = 500 ∧
      rootService.login? Store.stalled rootLogin.1 rootLogin.2 = none := by
  have hmethod : rootLogin.1.method = "POST" := rfl
  have hpath : rootLogin.1.path = "/auth/login" := by decide
  have hparse : Token.parse (String.ofList rootAssertion).toList =
      .ok ⟨"ES256", [("exp", .int 9), ("iat", .int 0), ("iss", .text "root")]⟩ := by
    rw [String.toList_ofList]
    exact parse_rootAssertion
  have hname : isHeaderValue rootService.guard.settings.cookieName = true := by decide
  have hsilent : (Registry.get Store.stalled "root").1 = .silent := rfl
  have hsign : ∀ record, (Registry.get Store.stalled "root").1 = .answered (.ok (some record)) →
      ∃ bytes, rootService.guard.keys.sign (rootService.message
        (Session.claimsFor rootService.guard.sessionTimeout record rootLogin.2.now rootLogin.2.sessionId)) =
          .ok (Base64.encode .urlSafe bytes) := by
    intro record hrecord
    rw [hsilent] at hrecord
    cases hrecord
  obtain ⟨hanswer, hclosed⟩ := (login_of_lookup Store.stalled).2.2 rootService rootLogin.1 rootLogin.2 _ _ "root" hmethod
    hpath body_root hparse ⟨rfl, by decide⟩ hname hsign
  exact ⟨hmethod, hpath, body_root, parse_rootAssertion, hname, .inl hsilent, (hanswer.2 (.inl hsilent)).1,
    (hclosed (.inl hsilent)).2⟩

end Http
end Gatehouse
