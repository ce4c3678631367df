import Gatehouse.Proofs.Http.Outage
/-!
# Refused logins — all that a client is told

A refusal falls into one of three kinds, and the response is the kind's and nothing more (`answer_of_refused`).  So two
refusals, over any two registries and at any two times, are answered alike exactly when both tokens parse or neither
does, and both look-ups fail or neither does (`answers_of_refusals`).
-/
namespace Gatehouse

namespace Assertion

/-- What a client can tell of a fault. -/
inductive Fault.Kind where
  | malformed
  | rejected
  | unavailable
  deriving DecidableEq, Repr

def Fault.kind : Fault → Kind
  | .malformed _ => .malformed
  | .unauthenticated _ => .rejected
  | .registry _ => .unavailable

end Assertion

namespace Http

open Assertion (Fault)

variable {σ : Type} [Registry σ] {state : σ} {s : Service} {r : Request} {m : Moment} {text : List Char} {fault : Fault}

/-- A login whose body can be read, and why its assertion is not accepted. -/
def Service.Refuses (s : Service) (state : σ) (r : Request) (m : Moment) (text : List Char) (fault : Fault) : Prop :=
  r.method = "POST" ∧ r.path = "/auth/login" ∧
    ∃ request, s.body LoginRequest.shape r = .ok request ∧ request.token.toList = text ∧
      (Assertion.checkIn s.guard.policy state text m.now).1 = .error fault

/-- The look-up of the identity that an assertion names fails. -/
def IssuerFails (state : σ) (text : List Char) : Prop :=
  ∃ t iss, Token.parse text = .ok t ∧ Assertion.IssuedBy t iss ∧ LookupFails state iss

/-! ## One refusal -/

/-- The response to a refusal of a kind. -/
def refused (status : Nat) (code message : String) : Response :=
  ⟨status, [("content-type", "application/json"), ("x-frame-options", "DENY")],
    (Json.object [("error", .text message), ("error_code", .text code)]).compact⟩

def refusedAs : Fault.Kind → Response
  | .malformed => refused 400 "malformed_token" "malformed token"
  | .rejected => refused 401 "unauthenticated" "unauthenticated"
  | .unavailable => refused 500 "internal_error" "internal server error"

theorem refusedAs_inj {k l : Fault.Kind} : refusedAs k = refusedAs l ↔ k = l := by
  constructor
  · intro h
    have hstatus := congrArg Response.status h
    cases k <;> cases l <;> first | rfl | cases hstatus
  · rintro rfl
    rfl

/-- A refusal by a handler, sent with a body. -/
theorem finish_of_handled {route : Route} (hhandled : (route.action? r.method).isSome = true) (hbody : r.method ≠ "HEAD")
    (status : Nat) (code message : String) :
    finish r (some route) (Response.refusal status code message) = refused status code message := by
  rw [finish, Response.refusal, Response.json]
  simp only [hhandled, if_true, if_neg hbody]
  rfl

theorem finish_refusal (ha : r.action? = some .login) (status : Nat) (code message : String) :
    finish r (some .login) (Response.refusal status code message) = refused status code message := by
  have hhandled : (Route.login.action? r.method).isSome = true := by rw [(route_of_login ha).2]; rfl
  exact finish_of_handled hhandled (by rw [(post_of_login ha).1]; decide) status code message

/-- **A refusal tells its kind**, whatever the detail of the fault is. -/
theorem answer_of_refused (h : s.Refuses state r m text fault) : (s.answer state r m).response = refusedAs fault.kind := by
  obtain ⟨hmethod, hpath, request, hbody, rfl, hcheck⟩ := h
  have ha := action_of_post hmethod hpath
  rw [answer_of_fault ha hbody hcheck]
  cases fault with
  | malformed detail => exact finish_refusal ha _ _ _
  | unauthenticated reason => exact finish_refusal ha _ _ _
  | registry e => exact finish_refusal ha _ _ _

/-! ## What the kind depends on -/

/-- A fault is malformed if the token does not parse. -/
theorem kind_eq_malformed_iff (h : s.Refuses state r m text fault) :
    fault.kind = .malformed ↔ ∀ t, Token.parse text ≠ .ok t := by
  obtain ⟨-, -, -, -, -, hcheck⟩ := h
  cases Assertion.checkIn_eq_iff.1 hcheck with
  | malformed hparse => simp [Fault.kind, hparse]
  | anonymous hparse _ | failed hparse _ _ | silent hparse _ _ | unknown hparse _ _ | unsigned hparse _ _ _
  | untimely hparse _ _ _ _ => simp [Fault.kind, hparse]

/-- A look-up that is answered did not fail. -/
theorem not_issuerFails {t : Token} {iss : String} {found : Option KeyRecord} (hparse : Token.parse text = .ok t)
    (hissuer : Assertion.IssuedBy t iss) (hget : (Registry.get state iss).1 = .answered (.ok found)) :
    ¬ IssuerFails state text := by
  rintro ⟨t', iss', hparse', hissuer', hfails⟩
  rw [hparse, Except.ok.injEq] at hparse'
  subst hparse'
  have hsame : iss = iss' := Json.text.inj (Option.some.inj (hissuer.1.symm.trans hissuer'.1))
  rw [← hsame, LookupFails, hget] at hfails
  rcases hfails with hsilent | ⟨e, herror⟩
  · cases hsilent
  · cases herror

/-- A fault is the registry's if the look-up fails. -/
theorem kind_eq_unavailable_iff (h : s.Refuses state r m text fault) :
    fault.kind = .unavailable ↔ IssuerFails state text := by
  obtain ⟨-, -, -, -, -, hcheck⟩ := h
  have hother {k : Fault.Kind} (hk : k ≠ .unavailable) (hlookup : ¬ IssuerFails state text) :
      k = .unavailable ↔ IssuerFails state text := iff_of_false hk hlookup
  cases Assertion.checkIn_eq_iff.1 hcheck with
  | malformed hparse =>
    refine hother nofun ?_
    rintro ⟨t, iss, hparse', -⟩
    rw [hparse] at hparse'
    cases hparse'
  | anonymous hparse hissuer =>
    refine hother nofun ?_
    rintro ⟨t, iss, hparse', hissuer', -⟩
    rw [hparse, Except.ok.injEq] at hparse'
    subst hparse'
    exact hissuer'.2 (hissuer iss hissuer'.1)
  | failed hparse hissuer hget => exact iff_of_true rfl ⟨_, _, hparse, hissuer, .inr ⟨_, hget⟩⟩
  | silent hparse hissuer hget => exact iff_of_true rfl ⟨_, _, hparse, hissuer, .inl hget⟩
  | unknown hparse hissuer hget => exact hother nofun (not_issuerFails hparse hissuer hget)
  | unsigned hparse hissuer hget _ => exact hother nofun (not_issuerFails hparse hissuer hget)
  | untimely hparse hissuer hget _ _ => exact hother nofun (not_issuerFails hparse hissuer hget)

theorem kind_eq_iff {k l : Fault.Kind} :
    k = l ↔ (k = .malformed ↔ l = .malformed) ∧ (k = .unavailable ↔ l = .unavailable) := by
  cases k <;> cases l <;> decide

/-! ## Two refusals -/

/-- **Refused logins reveal their kind only.**  Two refusals by one service, over any registries and at any times, get
the same response exactly when their kinds agree, and the kind depends on no more than whether the token parses and
whether the look-up fails. -/
theorem answers_of_refusals (s : Service) {τ : Type} [Registry τ] {state : σ} {other : τ} {r r' : Request}
    {m m' : Moment} {text text' : List Char} {fault fault' : Fault} (h : s.Refuses state r m text fault)
    (h' : s.Refuses other r' m' text' fault') :
    ((s.answer state r m).response = (s.answer other r' m').response ↔ fault.kind = fault'.kind) ∧
      (fault.kind = fault'.kind ↔
        ((∀ t, Token.parse text ≠ .ok t) ↔ ∀ t, Token.parse text' ≠ .ok t) ∧
          (IssuerFails state text ↔ IssuerFails other text')) := by
  constructor
  · rw [answer_of_refused h, answer_of_refused h', refusedAs_inj]
  · rw [kind_eq_iff, kind_eq_malformed_iff h, kind_eq_malformed_iff h', kind_eq_unavailable_iff h,
      kind_eq_unavailable_iff h']

/-- **A stranger and an assertion that comes too late** are told the same. -/
theorem answers_of_root :
    rootService.Refuses (MemoryRegistry.empty .ec) rootLogin.1 rootLogin.2 rootAssertion
        (.unauthenticated .unknownIdentity) ∧
      rootService.Refuses rootRegistry rootLogin.1 ⟨100, "b", 1⟩ rootAssertion (.unauthenticated .claimsRejected) ∧
      (rootService.answer (MemoryRegistry.empty .ec) rootLogin.1 rootLogin.2).response =
        (rootService.answer rootRegistry rootLogin.1 ⟨100, "b", 1⟩).response := by
  have hmethod : rootLogin.1.method = "POST" := rfl
  have hpath : rootLogin.1.path = "/auth/login" := by decide
  have hissuer : Assertion.IssuedBy ⟨"ES256", [("exp", .int 9), ("iat", .int 0), ("iss", .text "root")]⟩ "root" :=
    ⟨rfl, by decide⟩
  obtain ⟨t, iss, hparse, hiss, hget, hholds, -⟩ := (Assertion.check_eq_ok_iff _ _ _ _ _).1 checkIn_root
  have hsigned := (Assertion.signatureHolds_iff _ _ _ _).1 hholds
  rw [parse_rootAssertion, Except.ok.injEq] at hparse
  subst hparse
  have hstranger : rootService.Refuses (MemoryRegistry.empty .ec) rootLogin.1 rootLogin.2 rootAssertion
      (.unauthenticated .unknownIdentity) :=
    ⟨hmethod, hpath, _, body_root, String.toList_ofList,
      Assertion.checkIn_eq_iff.2 (.unknown parse_rootAssertion hissuer rfl)⟩
  have hlate : rootService.Refuses rootRegistry rootLogin.1 ⟨100, "b", 1⟩ rootAssertion
      (.unauthenticated .claimsRejected) :=
    ⟨hmethod, hpath, _, body_root, String.toList_ofList,
      Assertion.checkIn_eq_iff.2 (.untimely parse_rootAssertion hissuer rfl hsigned (by decide))⟩
  exact ⟨hstranger, hlate, (answers_of_refusals rootService hstranger hlate).1.2 rfl⟩

end Http
end Gatehouse
