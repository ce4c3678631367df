import Gatehouse.Http.Service
import Gatehouse.Proofs.Json.Document
import Gatehouse.Proofs.Json.Shape
import Gatehouse.Proofs.Registry.Calls
/-!
# The service — what a request can do

A request gets to the registry in two ways only.  It gets to an action on the keys, with a session of a sufficient
level (`Service.reached?`), or it is a login.  Every other request is answered without a look at the registry
(`answer_of_apart`).  `touched_answer` says what one request makes of the registry: nothing, or what one call does.
-/
namespace Gatehouse
namespace Http

variable {s : Service} {r : Request} {m : Moment}

/-! ## Tokens -/

theorem header?_cons {method target name value : String} {rest : List (String × String)} {body : List UInt8}
    (h : Text.lower name = name) :
    (⟨method, target, (name, value) :: rest, body⟩ : Request).header? name = some value := by
  simp [Request.header?, h]

theorem visible?_ofList {cs : List Char} (h : cs.all Text.isVisibleAscii = true) :
    visible? (String.ofList cs) = some (String.ofList cs) := by
  rw [visible?, String.toList_ofList, if_pos h]

/-- A bearer token is taken from its header. -/
theorem token_of_bearer {value cookieName loginPath : String} {token : List Char}
    (hheader : r.header? "authorization" = some value) (hvisible : visible? value = some value)
    (hbearer : bearerToken? value = some token) : r.token cookieName loginPath = .ok token := by
  unfold Request.token
  simp only [hheader, hvisible, Option.bind_some, hbearer]

/-! ## Sessions -/

theorem accept_eq_ok_iff {g : Guard} {token : List Char} {now : Int} {c : Session.Claims} :
    g.accept token now = .ok c ↔ Session.check g.keys (Seconds.span g.settings.leeway) token now = .ok c := by
  unfold Guard.accept
  cases Session.check g.keys (Seconds.span g.settings.leeway) token now with
  | ok c' => simp
  | error fault => simp

theorem session_eq_ok_iff {s : Service} {r : Request} {now : Int} {c : Session.Claims} :
    s.session r now = .ok c ↔
      ∃ token, r.token s.guard.settings.cookieName s.guard.settings.loginPath = .ok token ∧
        Session.check s.guard.keys (Seconds.span s.guard.settings.leeway) token now = .ok c := by
  unfold Service.session
  cases r.token s.guard.settings.cookieName s.guard.settings.loginPath with
  | error refusal => simp
  | ok token => simp [accept_eq_ok_iff]

/-! ## Actions on the keys -/

/-- What a request asks for. -/
def Request.action? (r : Request) : Option Action := (Route.ofPath? r.path).bind fun route => route.action? r.method

/-- The action on the keys that a request gets to, and the session that takes it there. -/
def Service.reached? (s : Service) (r : Request) (now : Int) : Option (Action × Session.Claims) :=
  match Route.ofPath? r.path, s.session r now with
  | some .keys, .ok c =>
    match Access.check s.guard.settings.adminLevel (c.user.bind Session.User.accessLevel) with
    | .ok () => (Route.keys.action? r.method).map fun action => (action, c)
    | .error _ => none
  | _, _ => none

theorem Access.check_eq_ok_iff {required : Nat} {level : Option Nat} :
    Access.check required level = .ok () ↔ ∃ n, level = some n ∧ required ≤ n := by
  cases level with
  | none => simp [Access.check]
  | some n => by_cases h : required ≤ n <;> simp [Access.check, h]

/-- **Who gets to the keys**: a session whose level reaches the required one. -/
theorem reached?_eq_some_iff {now : Int} {action : Action} {c : Session.Claims} :
    s.reached? r now = some (action, c) ↔
      Route.ofPath? r.path = some .keys ∧ s.session r now = .ok c ∧
        (∃ level, c.user.bind Session.User.accessLevel = some level ∧ s.guard.settings.adminLevel ≤ level) ∧
        Route.keys.action? r.method = some action := by
  rw [← Access.check_eq_ok_iff]
  constructor
  · intro h
    unfold Service.reached? at h
    split at h
    · rename_i c' hroute hsession
      split at h
      · rename_i hcheck
        obtain ⟨a, ha, he⟩ := Option.map_eq_some_iff.1 h
        cases he
        exact ⟨hroute, hsession, hcheck, ha⟩
      · cases h
    · cases h
  · rintro ⟨hroute, hsession, hcheck, ha⟩
    simp only [Service.reached?, hroute, hsession, hcheck, ha, Option.map_some]

/-- A session of a sufficient level gets to no action only where there is none. -/
theorem action?_of_unreached {route : Route} (hroute : Route.ofPath? r.path = some route) {now : Int}
    (hreached : s.reached? r now = none) (c : Session.Claims) (hkeys : route = .keys) (hsession : s.session r now = .ok c)
    (hcheck : Access.check s.guard.settings.adminLevel (c.user.bind Session.User.accessLevel) = .ok ()) :
    route.action? r.method = none := by
  subst hkeys
  cases ha : Route.keys.action? r.method with
  | none => rfl
  | some action =>
    rw [reached?_eq_some_iff.2 ⟨hroute, hsession, Access.check_eq_ok_iff.1 hcheck, ha⟩] at hreached
    cases hreached

/-- A request that gets to the keys is answered by its action. -/
theorem answer_of_reached {action : Action} {c : Session.Claims} (h : s.reached? r m.now = some (action, c))
    {σ : Type} [Registry σ] (state : σ) :
    s.answer state r m =
      ⟨finish r (some .keys) (s.manage state c.subject (some action) r).response,
        (s.manage state c.subject (some action) r).state,
        (s.manage state c.subject (some action) r).events ++
          [.http c.subject c.id r.method r.path (s.manage state c.subject (some action) r).response.status
            m.duration]⟩ := by
  obtain ⟨hroute, hsession, hlevel, ha⟩ := reached?_eq_some_iff.1 h
  have hcheck := Access.check_eq_ok_iff.2 hlevel
  simp only [Service.answer, hroute, Service.onRoute, Route.isProtected, if_true, Service.protected, hsession,
    Service.withSession, hcheck, ha]

/-! ## Everything else -/

theorem withSession_apart {route : Route} {c : Session.Claims}
    (h : route = .keys → Access.check s.guard.settings.adminLevel (c.user.bind Session.User.accessLevel) = .ok () →
      route.action? r.method = none) :
    ∃ response, ∀ (σ : Type) [Registry σ] (state : σ), s.withSession state route c r = plain state response := by
  cases route with
  | keys =>
    cases hcheck : Access.check s.guard.settings.adminLevel (c.user.bind Session.User.accessLevel) with
    | error refusal => exact ⟨refusal.response, fun σ _ state => by simp only [Service.withSession, hcheck]⟩
    | ok u =>
      have hnone := h rfl hcheck
      exact ⟨notAllowed, fun σ _ state => by simp only [Service.withSession, hcheck, hnone, Service.manage]⟩
  | _ => exact ⟨_, fun σ _ state => rfl⟩

theorem protected_apart {route : Route}
    (h : ∀ c, route = .keys → s.session r m.now = .ok c →
      Access.check s.guard.settings.adminLevel (c.user.bind Session.User.accessLevel) = .ok () →
      route.action? r.method = none) :
    ∃ response events, ∀ (σ : Type) [Registry σ] (state : σ),
      s.protected state route r m = ⟨response, state, events⟩ := by
  cases hsession : s.session r m.now with
  | error refusal => exact ⟨refusal.response, [], fun σ _ state => by simp only [Service.protected, hsession, plain]⟩
  | ok c =>
    obtain ⟨response, hplain⟩ := withSession_apart (s := s) (r := r) fun hroute => h c hroute hsession
    refine ⟨response, [.http c.subject c.id r.method r.path response.status m.duration], fun σ _ state => ?_⟩
    simp only [Service.protected, hsession, hplain, plain, List.nil_append]

theorem open_apart {route : Route} (hopen : route.isProtected = false) (hlogin : route.action? r.method ≠ some .login) :
    ∃ response, ∀ (σ : Type) [Registry σ] (state : σ), s.onRoute state route r m = plain state response := by
  cases ha : route.action? r.method with
  | none => exact ⟨notAllowed, fun σ _ state => by unfold Service.onRoute; rw [hopen, ha]; rfl⟩
  | some action =>
    cases action with
    | login => exact absurd ha hlogin
    | health => exact ⟨Response.json 200 healthJson, fun σ _ state => by unfold Service.onRoute; rw [hopen, ha]; rfl⟩
    | logout => exact ⟨s.logout, fun σ _ state => by unfold Service.onRoute; rw [hopen, ha]; rfl⟩
    | _ => exact ⟨notAllowed, fun σ _ state => by unfold Service.onRoute; rw [hopen, ha]; rfl⟩

/-- **A request that is no login and gets to no action on the keys is answered without the registry.** -/
theorem answer_of_apart (hreached : s.reached? r m.now = none) (hlogin : r.action? ≠ some .login) :
    ∃ response events, ∀ (σ : Type) [Registry σ] (state : σ), s.answer state r m = ⟨response, state, events⟩ := by
  cases hroute : Route.ofPath? r.path with
  | none => exact ⟨finish r none (Response.empty 404), [], fun σ _ state => by simp only [Service.answer, hroute, plain]⟩
  | some route =>
    cases hopen : route.isProtected with
    | false =>
      have haction : route.action? r.method ≠ some .login := by
        rwa [Request.action?, hroute, Option.bind_some] at hlogin
      obtain ⟨response, hplain⟩ := open_apart (s := s) (m := m) hopen haction
      exact ⟨finish r (some route) response, [], fun σ _ state => by simp only [Service.answer, hroute, hplain, plain]⟩
    | true =>
      obtain ⟨response, events, hprotected⟩ := protected_apart (action?_of_unreached hroute hreached)
      refine ⟨finish r (some route) response, events, fun σ _ state => ?_⟩
      simp only [Service.answer, hroute, Service.onRoute, hopen, if_true, hprotected]

/-! ## Logins -/

/-- A login that succeeds: the assertion, the record that it proves, and the session that starts. -/
structure Login where
  assertion : List Char
  record : KeyRecord
  session : Session.Issued

/-- The login that a request is, if it succeeds. -/
def Service.login? {σ : Type} [Registry σ] (s : Service) (state : σ) (r : Request) (m : Moment) : Option Login :=
  match r.action?, s.body LoginRequest.shape r with
  | some .login, .ok request =>
    match (Assertion.checkIn s.guard.policy state request.token.toList m.now).1 with
    | .ok record =>
      match s.guard.issue record m.now m.sessionId with
      | .ok issued => some ⟨request.token.toList, record, issued⟩
      | .error _ => none
    | .error _ => none
  | _, _ => none

theorem eq_login_of_action? {route : Route} {method : String} (h : route.action? method = some .login) :
    route = .login := by
  unfold Route.action? at h
  generalize (if method = "HEAD" then "GET" else method) = verb at h
  cases route with
  | login => rfl
  | _ => dsimp only at h; grind

theorem route_of_login (h : r.action? = some .login) :
    Route.ofPath? r.path = some .login ∧ Route.login.action? r.method = some .login := by
  obtain ⟨route, hroute, ha⟩ := Option.bind_eq_some_iff.1 h
  cases eq_login_of_action? ha
  exact ⟨hroute, ha⟩

/-- **What a login is**: a POST to its path. -/
theorem post_of_login (h : r.action? = some .login) : r.method = "POST" ∧ r.path = "/auth/login" := by
  obtain ⟨hroute, ha⟩ := route_of_login h
  constructor
  · unfold Route.action? at ha
    by_cases hhead : r.method = "HEAD"
    · rw [hhead] at ha
      exact absurd ha (by decide)
    · simp only [if_neg hhead] at ha
      split at ha
      · assumption
      · cases ha
  · unfold Route.ofPath? at hroute
    have hpath := List.find?_some hroute
    exact (beq_iff_eq.1 hpath).symm

/-- A login is answered as such. -/
theorem answer_of_login (h : r.action? = some .login) {σ : Type} [Registry σ] (state : σ) :
    s.answer state r m =
      ⟨finish r (some .login) (s.login state r m).response, (s.login state r m).state, (s.login state r m).events⟩ := by
  obtain ⟨hroute, ha⟩ := route_of_login h
  simp only [Service.answer, hroute, Service.onRoute, Route.isProtected, Bool.false_eq_true, if_false, ha]

theorem login?_eq_some_iff {σ : Type} [Registry σ] {state : σ} {l : Login} :
    s.login? state r m = some l ↔
      r.action? = some .login ∧ ∃ request, s.body LoginRequest.shape r = .ok request ∧
        l.assertion = request.token.toList ∧
        (Assertion.checkIn s.guard.policy state l.assertion m.now).1 = .ok l.record ∧
        s.guard.issue l.record m.now m.sessionId = .ok l.session := by
  constructor
  · intro h
    unfold Service.login? at h
    split at h
    · rename_i request ha hbody
      split at h
      · rename_i record hcheck
        split at h
        · rename_i issued hissue
          cases h
          exact ⟨ha, request, hbody, rfl, hcheck, hissue⟩
        · cases h
      · cases h
    · cases h
  · obtain ⟨assertion, record, session⟩ := l
    rintro ⟨ha, request, hbody, rfl, hcheck, hissue⟩
    simp only [Service.login?, ha, hbody, hcheck, hissue]

/-- **A login that succeeds is told its session**, and the audit log says so. -/
theorem login_of_login? {σ : Type} [Registry σ] {state : σ} {l : Login} (h : s.login? state r m = some l) :
    (s.login state r m).response = s.welcome l.session ∧
      (s.login state r m).events = [.login (some l.record.identity) "success" l.session.claims.id] := by
  obtain ⟨-, request, hbody, hassertion, hcheck, hissue⟩ := login?_eq_some_iff.1 h
  rw [hassertion] at hcheck
  unfold Service.login
  simp only [hbody]
  split
  · rename_i hfault
    rw [hfault] at hcheck
    cases hcheck
  · rename_i hrecord
    rw [hrecord] at hcheck
    cases hcheck
    simp only [hissue, and_self]

/-- **A request that gets to no action on the keys** is a login, or it is answered without the registry. -/
theorem answer_of_unreached (hreached : s.reached? r m.now = none) :
    (r.action? = some .login ∧ ∀ (σ : Type) [Registry σ] (state : σ), s.answer state r m =
        ⟨finish r (some .login) (s.login state r m).response, (s.login state r m).state, (s.login state r m).events⟩) ∨
      ∃ response events, ∀ (σ : Type) [Registry σ] (state : σ), s.answer state r m = ⟨response, state, events⟩ := by
  by_cases hlogin : r.action? = some .login
  · exact .inl ⟨hlogin, fun σ _ state => answer_of_login hlogin state⟩
  · exact .inr (answer_of_apart hreached hlogin)

/-! ## The registry after a request -/

/-- A body brings a level of 32 bits. -/
theorem body_level {shape : Json.Record KeyRequest} {presence : Json.Presence}
    (hfields : shape.fields = [KeyRequest.identityField, KeyRequest.publicKeyField, KeyRequest.levelField presence])
    (hblank : shape.blank = ⟨"", "", 0⟩) {k : KeyRequest} (h : s.body shape r = .ok k) : k.accessLevel < 2 ^ 32 := by
  have hkeep : Json.Document.FieldsKeep shape fun k => k.accessLevel < 2 ^ 32 := by
    intro f hf v a b ha hput
    rw [hfields] at hf
    simp only [List.mem_cons, List.not_mem_nil, or_false] at hf
    rcases hf with rfl | rfl | rfl
    · obtain ⟨x, -, rfl⟩ := Json.put_field_eq_ok hput
      exact ha
    · obtain ⟨x, -, rfl⟩ := Json.put_field_eq_ok hput
      exact ha
    · obtain ⟨x, hx, rfl⟩ := Json.put_field_eq_ok hput
      exact Json.lt_of_natural_u32 hx
  unfold Service.body at h
  split at h
  · cases h
  split at h
  · cases h
  split at h
  · rename_i value hread
    cases h
    exact Json.Document.read_keeps hkeep (by rw [hblank]; decide) hread
  · cases h

variable {σ : Type} [Registry σ] (state : σ)

/-- One call, or none, leads from a state to another. -/
def Touched (state after : σ) : Prop := after = state ∨ ∃ c : Registry.Call, c.Bounded ∧ after = (Registry.perform state c).2

theorem touched_perform (c : Registry.Call) (hc : c.Bounded) : Touched state (Registry.perform state c).2 :=
  .inr ⟨c, hc, rfl⟩

/-- One look-up, or none, leads from a state to another. -/
def LookedUp (state after : σ) : Prop := after = state ∨ ∃ identity, after = (Registry.get state identity).2

theorem lookedUp_checkIn (p : Assertion.Policy) (text : List Char) (now : Int) :
    LookedUp state (Assertion.checkIn p state text now).2 := by
  unfold Assertion.checkIn
  dsimp only
  split
  · rename_i iss _
    exact .inr ⟨iss, rfl⟩
  · exact .inl rfl

/-- What is left of the registry after a login whose body can be read. -/
theorem state_login {request : LoginRequest} (hbody : s.body LoginRequest.shape r = .ok request) :
    (s.login state r m).state = (Assertion.checkIn s.guard.policy state request.token.toList m.now).2 := by
  unfold Service.login
  simp only [hbody]
  split
  · rename_i hcheck
    rw [hcheck]
  · rename_i hcheck
    rw [hcheck]
    split
    · rfl
    · rfl

theorem state_answer {request : LoginRequest} (ha : r.action? = some .login)
    (hbody : s.body LoginRequest.shape r = .ok request) :
    (s.answer state r m).state = (Assertion.checkIn s.guard.policy state request.token.toList m.now).2 := by
  rw [answer_of_login ha state]
  exact state_login state hbody

/-- A login is granted or refused after one look-up. -/
theorem lookedUp_login : LookedUp state (s.login state r m).state := by
  cases hbody : s.body LoginRequest.shape r with
  | error reason =>
    rw [Service.login, hbody]
    exact .inl rfl
  | ok request =>
    rw [state_login state hbody]
    exact lookedUp_checkIn state _ _ _

theorem touched_login : Touched state (s.login state r m).state := by
  rcases lookedUp_login (s := s) (r := r) (m := m) state with hsame | ⟨identity, hget⟩
  · exact .inl hsame
  · exact .inr ⟨.get identity, trivial, hget⟩

theorem touched_manage (actor : String) (action : Action) :
    Touched state (s.manage state actor (some action) r).state := by
  cases action with
  | listKeys =>
    have htouched := touched_perform state .all trivial
    unfold Service.manage listKeys
    dsimp only
    split <;> exact htouched
  | insertKey =>
    unfold Service.manage Service.insertKey
    dsimp only
    split
    · exact .inl rfl
    · rename_i k hbody
      exact touched_perform state (.insert k.identity k.publicKey k.accessLevel) (body_level rfl rfl hbody)
  | updateKey =>
    unfold Service.manage Service.updateKey
    dsimp only
    split
    · exact .inl rfl
    · rename_i k hbody
      exact touched_perform state (.update k.identity k.publicKey k.accessLevel) (body_level rfl rfl hbody)
  | deleteKey =>
    unfold Service.manage Service.deleteKey
    dsimp only
    split
    · exact .inl rfl
    · rename_i k hbody
      exact touched_perform state (.delete k.identity) trivial
  | _ => exact .inl rfl

/-- **What a request makes of the registry**: nothing, or what one call does. -/
theorem touched_answer : Touched state (s.answer state r m).state := by
  cases hreached : s.reached? r m.now with
  | some p =>
    rw [answer_of_reached hreached state]
    exact touched_manage state _ _
  | none =>
    rcases answer_of_unreached hreached with ⟨-, hlogin⟩ | ⟨response, events, hanswer⟩
    · rw [hlogin]
      exact touched_login state
    · rw [hanswer]
      exact .inl rfl

end Http
end Gatehouse
