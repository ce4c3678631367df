import Gatehouse.Proofs.Http.Run
import Gatehouse.Proofs.Registry.Store
/-!
# Requests without authority — what they change and what they see

A request without a session of a sufficient level gets to no action on the keys.  All that is left to it is a login,
which looks one identity up; so it writes nothing that its registry's look-ups do not write (`answer_of_not_authorised`),
and unless it is a login it sees nothing of the registry either.
-/
namespace Gatehouse
namespace Http

variable {s : Service} {r : Request} {m : Moment}

/-- Whether a request carries the token of a session that is accepted and has a level for the keys. -/
def Service.Authorised (s : Service) (r : Request) (now : Int) : Prop :=
  ∃ token c level, r.token s.guard.settings.cookieName s.guard.settings.loginPath = .ok token ∧
    Session.check s.guard.keys (Seconds.span s.guard.settings.leeway) token now = .ok c ∧
    c.user.bind Session.User.accessLevel = some level ∧ s.guard.settings.adminLevel ≤ level

theorem authorised_of_reached {now : Int} {action : Action} {c : Session.Claims}
    (h : s.reached? r now = some (action, c)) : s.Authorised r now := by
  obtain ⟨-, hsession, ⟨level, hlevel, hadmin⟩, -⟩ := reached?_eq_some_iff.1 h
  obtain ⟨token, htoken, hcheck⟩ := session_eq_ok_iff.1 hsession
  exact ⟨token, c, level, htoken, hcheck, hlevel, hadmin⟩

theorem reached?_of_not_authorised {now : Int} (h : ¬ s.Authorised r now) : s.reached? r now = none := by
  cases hreached : s.reached? r now with
  | none => rfl
  | some p => exact absurd (authorised_of_reached hreached) h

/-- A request without a token is without authority. -/
theorem not_authorised_of_token {now : Int} {refusal : Refusal}
    (h : r.token s.guard.settings.cookieName s.guard.settings.loginPath = .error refusal) : ¬ s.Authorised r now := by
  rintro ⟨token, c, level, htoken, -⟩
  rw [h] at htoken
  cases htoken

/-- **Without authority one look-up is all that happens to a registry.** -/
theorem lookedUp_of_not_authorised (h : ¬ s.Authorised r m.now) {σ : Type} [Registry σ] (state : σ) :
    LookedUp state (s.answer state r m).state := by
  rcases answer_of_unreached (reached?_of_not_authorised h) with ⟨-, hlogin⟩ | ⟨response, events, hanswer⟩
  · rw [hlogin]
    exact lookedUp_login state
  · rw [hanswer]
    exact .inl rfl

/-- A registry in a database, opened with an empty table. -/
def emptyStore (queries : Queries) : Store :=
  .database ⟨.ec, { DatabaseSettings.defaults with queries := queries }, ⟨SortedMap.empty, Disk.empty, "/"⟩,
    some (.memory ⟨some SortedMap.empty⟩)⟩

/-- Statements whose look-up registers the identity that it is for. -/
def registering : Queries :=
  { Queries.defaults with
    select := "INSERT INTO authorised_keys (identity, public_key, access_level) VALUES (?, 'k', 3)" }

/-- A look at the keys without a session. -/
def stranger : Request := ⟨"GET", "/api/keys", [], []⟩

theorem not_authorised_rootLogin : ¬ rootService.Authorised rootLogin.1 0 := by
  obtain ⟨refusal, hnone⟩ := token_rootLogin
  exact not_authorised_of_token hnone

theorem state_rootLogin (store : Store) :
    (rootService.answer store rootLogin.1 rootLogin.2).state = (Registry.get store "root").2 := by
  have hlooked : Assertion.lookedUp? rootAssertion = some "root" := by
    rw [Assertion.lookedUp?, parse_rootAssertion]
    rfl
  rw [state_answer store (by decide) body_root, String.toList_ofList, Assertion.checkIn, hlooked]

end Http
end Gatehouse
