import Gatehouse.Proofs.Http.Credentials
import Gatehouse.Proofs.Http.Run
/-!
# Sources — which token of a request counts

A protected route takes the token from the Authorization header if there is one, good or bad, and from the session
cookie only if there is none; without either it is the Accept header that tells a browser from other clients.
`Service.Sourced` lists what a request leads to by where its token is, and `answer_of_sources` says that nothing of
lower rank has a part in it.
-/
namespace Gatehouse
namespace Http

variable {σ : Type} [Registry σ] {s : Service} {state : σ} {r r' : Request} {m : Moment} {route : Route}
  {token : List Char}

/-! ## Where the token is -/

/-- What a session leads to: what is done on its route, and a line in the audit log. -/
def Service.inner (s : Service) (state : σ) (route : Route) (c : Session.Claims) (r : Request) (m : Moment) : Outcome σ :=
  let o := s.withSession state route c r
  ⟨finish r (some route) o.response, o.state,
    o.events ++ [.http c.subject c.id r.method r.path o.response.status m.duration]⟩

/-- A request that gets no further than to its session. -/
def turnedAway (state : σ) (route : Route) (r : Request) (response : Response) : Outcome σ :=
  plain state (finish r (some route) response)

/-- What the session check says of a token. -/
def Service.verdict (s : Service) (token : List Char) (now : Int) : Except Session.Fault Session.Claims :=
  Session.check s.guard.keys (Seconds.span s.guard.settings.leeway) token now

/-- A request carries a token, in its Authorization header or else in the session cookie. -/
def Service.Finds (s : Service) (r : Request) (token : List Char) : Prop := r.Carries s.guard.settings.cookieName token

/-- What a request on a protected route leads to. -/
inductive Service.Sourced (s : Service) (state : σ) (route : Route) (r : Request) (m : Moment) : Outcome σ → Prop
  /-- Its token is accepted. -/
  | admitted {token : List Char} {c : Session.Claims} (hfinds : s.Finds r token) (hverdict : s.verdict token m.now = .ok c) :
      Sourced s state route r m (s.inner state route c r m)
  /-- Its token is not accepted. -/
  | rejected {token : List Char} {fault : Session.Fault} (hfinds : s.Finds r token)
      (hverdict : s.verdict token m.now = .error fault) :
      Sourced s state route r m (turnedAway state route r (Refusal.ofSession fault).response)
  /-- Its Authorization header bears no token. -/
  | unreadable {value : String} (hheader : r.header? "authorization" = some value)
      (hbad : ¬ (IsVisible value ∧ ∃ token, Bears value token)) :
      Sourced s state route r m
        (turnedAway state route r (Response.refusal 400 "invalid_auth_header" "invalid authorization header format"))
  /-- It carries no token, and comes from a browser. -/
  | browser (hnone : r.header? "authorization" = none) (hno : ∀ token, ¬ s.Finds r token) (hhtml : r.AsksForHtml) :
      Sourced s state route r m (turnedAway state route r ⟨307, [("location", s.guard.settings.loginPath)], ""⟩)
  /-- It carries no token, and does not come from a browser. -/
  | anonymous (hnone : r.header? "authorization" = none) (hno : ∀ token, ¬ s.Finds r token) (hhtml : ¬ r.AsksForHtml) :
      Sourced s state route r m
        (turnedAway state route r (Response.refusal 401 "missing_token" "missing session token"))

theorem answer_of_protected (hroute : Route.ofPath? r.path = some route) (hprotected : route.isProtected = true) :
    s.answer state r m = match s.session r m.now with
      | .error refusal => turnedAway state route r refusal.response
      | .ok c => s.inner state route c r m := by
  simp only [Service.answer, hroute, Service.onRoute, hprotected, if_true, Service.protected]
  cases s.session r m.now with
  | error refusal => rfl
  | ok c => rfl

theorem session_of_finds {now : Int} (h : s.Finds r token) :
    s.session r now = match s.verdict token now with
      | .error fault => .error (Refusal.ofSession fault)
      | .ok c => .ok c := by
  unfold Service.session
  rw [h.token_eq]
  dsimp only
  unfold Guard.accept Service.verdict
  cases Session.check s.guard.keys (Seconds.span s.guard.settings.leeway) token now with
  | error fault => rfl
  | ok c => rfl

theorem session_of_error {now : Int} {refusal : Refusal}
    (h : r.token s.guard.settings.cookieName s.guard.settings.loginPath = .error refusal) :
    s.session r now = .error refusal := by
  rw [Service.session, h]

/-- What is listed is what happens. -/
theorem Service.Sourced.answer_eq (hroute : Route.ofPath? r.path = some route) (hprotected : route.isProtected = true)
    (hlogin : isHeaderValue s.guard.settings.loginPath = true) {o : Outcome σ} (h : s.Sourced state route r m o) :
    s.answer state r m = o := by
  rw [answer_of_protected hroute hprotected]
  cases h with
  | admitted hfinds hverdict => rw [session_of_finds hfinds, hverdict]
  | rejected hfinds hverdict => rw [session_of_finds hfinds, hverdict]
  | unreadable hheader hbad =>
    rw [session_of_error (token_of_unreadable hheader hbad)]
    rfl
  | browser hnone hno hhtml =>
    have hresponse : (Refusal.loginRequired s.guard.settings.loginPath).response =
        ⟨307, [("location", s.guard.settings.loginPath)], ""⟩ := by
      rw [Refusal.response, Response.withHeader, if_pos hlogin]
      rfl
    rw [session_of_error (token_of_nothing hnone hno), if_pos (wantsHtml_iff.2 hhtml)]
    dsimp only
    rw [hresponse]
  | anonymous hnone hno hhtml =>
    rw [session_of_error (token_of_nothing hnone hno), if_neg fun h => hhtml (wantsHtml_iff.1 h)]
    rfl

/-- Something is listed for every request. -/
theorem exists_sourced (s : Service) (state : σ) (route : Route) (r : Request) (m : Moment) :
    ∃ o, s.Sourced state route r m o := by
  rcases exists_carries r s.guard.settings.cookieName with ⟨token, hfinds⟩ | ⟨value, hheader, hbad⟩ | ⟨hnone, hno⟩
  · cases hverdict : s.verdict token m.now with
    | error fault => exact ⟨_, .rejected hfinds hverdict⟩
    | ok c => exact ⟨_, .admitted hfinds hverdict⟩
  · exact ⟨_, .unreadable hheader hbad⟩
  · by_cases hhtml : r.AsksForHtml
    · exact ⟨_, .browser hnone hno hhtml⟩
    · exact ⟨_, .anonymous hnone hno hhtml⟩

/-- Whoever is turned away leaves no line in the audit log. -/
theorem turnedAway_ne_inner (response : Response) (c : Session.Claims) :
    turnedAway state route r response ≠ s.inner state route c r m := by
  intro h
  have hevents : [] = (s.inner state route c r m).events := congrArg Outcome.events h
  exact List.append_ne_nil_of_right_ne_nil _ (List.cons_ne_nil _ _) hevents.symm

/-! ## What has no part in it -/

/-- Two requests that differ in headers of some names at most. -/
def Request.SameBut (names : List String) (r r' : Request) : Prop :=
  r.method = r'.method ∧ r.target = r'.target ∧ r.body = r'.body ∧
    r.headers.filter (fun h => !names.contains (Text.lower h.1)) =
      r'.headers.filter fun h => !names.contains (Text.lower h.1)

theorem Request.SameBut.header? {names : List String} (h : r.SameBut names r') {name : String} (hname : name ∉ names) :
    r'.header? name = r.header? name := by
  have hpass : ∀ headers : List (String × String),
      (headers.filter fun h => !names.contains (Text.lower h.1)).find? (fun h => Text.lower h.1 = name) =
        headers.find? fun h => Text.lower h.1 = name := by
    intro headers
    rw [List.find?_filter]
    congr
    funext header
    by_cases hheader : Text.lower header.1 = name
    · simp [hheader, hname]
    · simp [hheader]
  unfold Request.header?
  rw [← hpass r.headers, h.2.2.2, hpass]

theorem Request.SameBut.body {names : List String} (h : r.SameBut names r') (hname : "content-type" ∉ names) {ρ : Type}
    (shape : Json.Record ρ) : s.body shape r' = s.body shape r := by
  have hjson : r'.isJson = r.isJson := by rw [Request.isJson, h.header? hname, Request.isJson]
  rw [Service.body, hjson, ← h.2.2.1, Service.body]

theorem Request.SameBut.withSession {names : List String} (h : r.SameBut names r') (hname : "content-type" ∉ names)
    (c : Session.Claims) : s.withSession state route c r' = s.withSession state route c r := by
  have hmanage : ∀ actor action, s.manage state actor action r' = s.manage state actor action r := by
    intro actor action
    unfold Service.manage Service.insertKey Service.updateKey Service.deleteKey
    simp only [h.body hname]
  unfold Service.withSession
  simp only [hmanage, h.1]

/-- **Only the token counts** of the headers that two requests may differ in. -/
theorem Request.SameBut.answer {names : List String} (h : r.SameBut names r') (hname : "content-type" ∉ names)
    (htoken : r'.token s.guard.settings.cookieName s.guard.settings.loginPath =
      r.token s.guard.settings.cookieName s.guard.settings.loginPath)
    (hroute : Route.ofPath? r.path = some route) (hprotected : route.isProtected = true) :
    s.answer state r' m = s.answer state r m := by
  have hpath : r'.path = r.path := by rw [Request.path, ← h.2.1, Request.path]
  have hsession : s.session r' m.now = s.session r m.now := by rw [Service.session, htoken, Service.session]
  have hfinish : finish r' = finish r := by
    funext route response
    simp only [finish, h.1]
  have hinner : ∀ c, s.inner state route c r' m = s.inner state route c r m := by
    intro c
    rw [Service.inner, h.withSession hname, hfinish, hpath, ← h.1, Service.inner]
  rw [answer_of_protected (hpath ▸ hroute) hprotected, answer_of_protected hroute hprotected, hsession]
  cases s.session r m.now with
  | error refusal => simp only [turnedAway, hfinish]
  | ok c => exact hinner c

theorem Service.Finds.of_sameBut (hfinds : s.Finds r token) (h : r.SameBut ["accept"] r') : s.Finds r' token := by
  have hauthorization : r'.header? "authorization" = r.header? "authorization" := h.header? (by decide)
  have hcookie : r'.header? "cookie" = r.header? "cookie" := h.header? (by decide)
  cases hfinds with
  | header hheader hvisible hbears => exact .header (hauthorization.trans hheader) hvisible hbears
  | cookie hnone hheader hvisible hgives =>
    exact .cookie (hauthorization.trans hnone) (hcookie.trans hheader) hvisible hgives

/-- **Where the token of a request comes from.**  On a protected route, for whatever headers: what a request leads to is
what is listed for it, and its handler runs exactly when the token that it carries is accepted.  If there is an
Authorization header, cookies and the Accept header change nothing of the outcome; if the token is in the session
cookie, the Accept header changes nothing of it. -/
theorem answer_of_sources (s : Service) (hlogin : isHeaderValue s.guard.settings.loginPath = true) (state : σ)
    (r : Request) (m : Moment) {route : Route} (hprotected : route = .me ∨ route = .keys) (hpath : r.path = route.path) :
    (∀ o, s.answer state r m = o ↔ s.Sourced state route r m o) ∧
      ((∃ c, s.answer state r m = s.inner state route c r m) ↔
        ∃ token c, s.Finds r token ∧ s.verdict token m.now = .ok c) ∧
      (∀ value r', r.header? "authorization" = some value → r.SameBut ["cookie", "accept"] r' →
        s.answer state r' m = s.answer state r m) ∧
      ∀ token r', s.Finds r token → r.SameBut ["accept"] r' → s.answer state r' m = s.answer state r m := by
  have hroute : Route.ofPath? r.path = some route := by
    rw [hpath]
    rcases hprotected with rfl | rfl <;> decide
  have hprotected : route.isProtected = true := by rcases hprotected with rfl | rfl <;> rfl
  obtain ⟨listed, hlisted⟩ := exists_sourced s state route r m
  have hanswer := hlisted.answer_eq hroute hprotected hlogin
  refine ⟨fun o => ⟨?_, fun h => h.answer_eq hroute hprotected hlogin⟩, ⟨?_, ?_⟩, ?_, ?_⟩
  · rintro rfl
    rwa [hanswer]
  · rintro ⟨c, hc⟩
    rw [hanswer] at hc
    -- whoever is turned away leaves no line, so only an accepted token comes to this
    cases hlisted with
    | admitted hfinds hverdict => exact ⟨_, _, hfinds, hverdict⟩
    | rejected _ _ | unreadable _ _ | browser _ _ _ | anonymous _ _ _ => exact absurd hc (turnedAway_ne_inner _ c)
  · rintro ⟨token, c, hfinds, hverdict⟩
    exact ⟨c, Service.Sourced.answer_eq hroute hprotected hlogin (.admitted hfinds hverdict)⟩
  · intro value r' hheader hsame
    have hheader' : r'.header? "authorization" = some value := (hsame.header? (by decide)).trans hheader
    refine hsame.answer (by decide) ?_ hroute hprotected
    unfold Request.token
    rw [hheader, hheader']
  · intro token r' hfinds hsame
    have hfinds' : s.Finds r' token := hfinds.of_sameBut hsame
    refine hsame.answer (by decide) ?_ hroute hprotected
    rw [hfinds.token_eq, hfinds'.token_eq]

/-- The look at the keys with a cookie that is no session, from a browser. -/
def rootBrowserLook : Request :=
  ⟨"GET", "/api/keys", [("authorization", String.ofList ("Bearer ".toList ++ rootToken)), ("cookie", "session=junk"),
    ("accept", "text/html")], []⟩

/-- **A cookie that is no session spoils nothing.** -/
theorem answer_of_sources_root :
    isHeaderValue rootService.guard.settings.loginPath = true ∧ rootLook.1.path = Route.keys.path ∧
      rootLook.1.SameBut ["cookie", "accept"] rootBrowserLook ∧
      rootService.answer rootRegistry rootBrowserLook rootLook.2 = rootService.answer rootRegistry rootLook.1 rootLook.2 ∧
      ∃ c, rootService.answer rootRegistry rootLook.1 rootLook.2 =
        rootService.inner rootRegistry .keys c rootLook.1 rootLook.2 := by
  have hlogin : isHeaderValue rootService.guard.settings.loginPath = true := by decide
  have hpath : rootLook.1.path = Route.keys.path := by decide
  have hheader : rootLook.1.header? "authorization" = some (String.ofList ("Bearer ".toList ++ rootToken)) := by
    unfold rootLook
    exact header?_cons (by decide)
  have hsame : rootLook.1.SameBut ["cookie", "accept"] rootBrowserLook := by
    refine ⟨rfl, rfl, rfl, ?_⟩
    unfold rootLook rootBrowserLook
    rfl
  obtain ⟨token, htoken, hverdict⟩ := session_eq_ok_iff.1 session_root
  obtain ⟨-, hinner, hspoils, -⟩ :=
    answer_of_sources rootService hlogin rootRegistry rootLook.1 rootLook.2 (.inr rfl) hpath
  exact ⟨hlogin, hpath, hsame, hspoils _ _ hheader hsame,
    hinner.2 ⟨token, _, token_eq_ok_iff.1 htoken, hverdict⟩⟩

end Http
end Gatehouse
