import Gatehouse.Proofs.Http.KeyMap
import Gatehouse.Proofs.Startup
/-!
# The audit trail — what a run leaves in the log

`Service.Logs` lists the lines that one request leaves, by what becomes of it (`logs_iff`), and `trail_of_run` says that a
run leaves them one after another.  So the changes of keys that the log calls a success are those that were made, and a
registry in memory is what they make of it.  A login whose assertion is accepted leaves nothing if its session cannot be
signed (`login_leaves_nothing`).
-/
namespace Gatehouse
namespace Http

open Audit (Event)
open Registry (Call)

section

variable {σ : Type} [Registry σ]

/-- The lines that requests leave in the audit log, one after another. -/
def Service.trail (s : Service) (start : σ) : List Arrival → List Event
  | [] => []
  | (r, m) :: rest => (s.answer start r m).events ++ s.trail (s.answer start r m).state rest

/-- The change that a request makes, with the session's subject, if it makes one. -/
def Service.made (s : Service) (state : σ) (r : Request) (now : Int) : List (String × Call) :=
  ((s.asked? r now).filter fun p => (Registry.perform state p.2).1.isDone).toList.map fun p => (p.1.subject, p.2)

/-- The changes that a run makes. -/
def Service.changes (s : Service) (start : σ) : List Arrival → List (String × Call)
  | [] => []
  | (r, m) :: rest => s.made start r m.now ++ s.changes (s.answer start r m).state rest

/-- The lines of one request. -/
inductive Service.Logs (s : Service) (state : σ) (r : Request) (m : Moment) : List Event → Prop
  /-- A login that is granted. -/
  | granted {l : Login} (hlogin : s.login? state r m = some l) :
      Logs s state r m [.login (some l.record.identity) "success" l.session.claims.id]
  /-- A login whose assertion is not accepted. -/
  | refused (ha : r.action? = some .login) {request : LoginRequest} (hbody : s.body LoginRequest.shape r = .ok request)
      {fault : Assertion.Fault}
      (hcheck : (Assertion.checkIn s.guard.policy state request.token.toList m.now).1 = .error fault) :
      Logs s state r m [.login none (loginOutcome fault) none]
  /-- A login whose assertion is accepted and whose session cannot be signed. -/
  | unsigned (ha : r.action? = some .login) {request : LoginRequest} (hbody : s.body LoginRequest.shape r = .ok request)
      {record : KeyRecord} (hcheck : (Assertion.checkIn s.guard.policy state request.token.toList m.now).1 = .ok record)
      {refusal : Refusal} (hissue : s.guard.issue record m.now m.sessionId = .error refusal) : Logs s state r m []
  /-- A login whose body cannot be read. -/
  | unreadable (ha : r.action? = some .login) {reason : String} (hbody : s.body LoginRequest.shape r = .error reason) :
      Logs s state r m []
  /-- A change of a key, asked for with a session of a sufficient level. -/
  | changed {c : Session.Claims} {call : Call} {action target : String} {reply : Reply Unit}
      (hasked : s.asked? r m.now = some (c, call)) (hchange : change? call = some (action, target))
      (hreply : (Registry.perform state call).1 = .done reply) :
      Logs s state r m [.keyChange c.subject action target (changeOutcome reply.inTime),
        .http c.subject c.id r.method r.path (s.answer state r m).response.status m.duration]
  /-- Any other request with a session. -/
  | admitted {c : Session.Claims} (hpath : r.path = "/api/me" ∨ r.path = "/api/keys") (hsession : s.session r m.now = .ok c)
      (hidle : ∀ call, s.asked? r m.now = some (c, call) → change? call = none) :
      Logs s state r m [.http c.subject c.id r.method r.path (s.answer state r m).response.status m.duration]
  /-- A request that is no login and has no session where one is due. -/
  | silent (ha : r.action? ≠ some .login)
      (hsession : r.path = "/api/me" ∨ r.path = "/api/keys" → ∀ c, s.session r m.now ≠ .ok c) : Logs s state r m []

end

/-! ## One request -/

variable {σ : Type} [Registry σ] {s : Service} {state : σ} {r : Request} {m : Moment}

theorem isProtected_iff {route : Route} (h : Route.ofPath? r.path = some route) :
    route.isProtected = true ↔ r.path = "/api/me" ∨ r.path = "/api/keys" := by
  unfold Route.ofPath? at h
  have hpath : route.path = r.path := by simpa using List.find?_some h
  rw [← hpath]
  cases route <;> decide

theorem events_of_unreadable (ha : r.action? = some .login) {reason : String}
    (hbody : s.body LoginRequest.shape r = .error reason) : (s.answer state r m).events = [] := by
  rw [answer_of_login ha]
  simp only [Service.login, hbody]

theorem events_of_refused (ha : r.action? = some .login) {request : LoginRequest}
    (hbody : s.body LoginRequest.shape r = .ok request) {fault : Assertion.Fault}
    (hcheck : (Assertion.checkIn s.guard.policy state request.token.toList m.now).1 = .error fault) :
    (s.answer state r m).events = [.login none (loginOutcome fault) none] := by
  rw [answer_of_login ha]
  cases hverdict : Assertion.checkIn s.guard.policy state request.token.toList m.now with
  | mk verdict after =>
    rw [hverdict] at hcheck
    subst hcheck
    simp only [Service.login, hbody, hverdict]

theorem events_of_unsigned (ha : r.action? = some .login) {request : LoginRequest}
    (hbody : s.body LoginRequest.shape r = .ok request) {record : KeyRecord}
    (hcheck : (Assertion.checkIn s.guard.policy state request.token.toList m.now).1 = .ok record) {refusal : Refusal}
    (hissue : s.guard.issue record m.now m.sessionId = .error refusal) : (s.answer state r m).events = [] := by
  rw [answer_of_login ha]
  cases hverdict : Assertion.checkIn s.guard.policy state request.token.toList m.now with
  | mk verdict after =>
    rw [hverdict] at hcheck
    subst hcheck
    simp only [Service.login, hbody, hverdict, hissue]

theorem route_of_path (h : r.path = "/api/me" ∨ r.path = "/api/keys") :
    ∃ route, Route.ofPath? r.path = some route ∧ route.isProtected = true := by
  rcases h with hpath | hpath <;> rw [hpath]
  · exact ⟨.me, by decide, rfl⟩
  · exact ⟨.keys, by decide, rfl⟩

/-- A session that asks for nothing of the keys leaves nothing by itself. -/
theorem withSession_of_unasked {route : Route} (hroute : Route.ofPath? r.path = some route) {c : Session.Claims}
    (hsession : s.session r m.now = .ok c) (h : s.asked? r m.now = none) (state : σ) :
    ∃ response, s.withSession state route c r = plain state response := by
  cases hreached : s.reached? r m.now with
  | none =>
    obtain ⟨response, hplain⟩ :=
      withSession_apart fun hkeys => action?_of_unreached hroute hreached c hkeys hsession
    exact ⟨response, hplain σ state⟩
  | some p =>
    obtain ⟨action, c'⟩ := p
    obtain ⟨hkeys, hsession', hlevel, ha⟩ := reached?_eq_some_iff.1 hreached
    rw [hroute, Option.some.injEq] at hkeys
    rw [hsession, Except.ok.injEq] at hsession'
    subst hkeys hsession'
    rw [Service.asked?, hreached, Option.bind_some, Option.map_eq_none_iff] at h
    obtain ⟨response, hmanage⟩ := manage_of_not_call? h
    refine ⟨response, ?_⟩
    simp only [Service.withSession, Access.check_eq_ok_iff.2 hlevel, ha, hmanage]

theorem events_of_unasked {route : Route} (hroute : Route.ofPath? r.path = some route)
    (hprotected : route.isProtected = true) {c : Session.Claims} (hsession : s.session r m.now = .ok c)
    (h : s.asked? r m.now = none) :
    (s.answer state r m).events =
      [.http c.subject c.id r.method r.path (s.answer state r m).response.status m.duration] := by
  obtain ⟨response, hplain⟩ := withSession_of_unasked hroute hsession h state
  simp only [Service.answer, hroute, Service.onRoute, hprotected, if_true, Service.protected, hsession, hplain, plain,
    List.nil_append, finish]

theorem events_of_silent (ha : r.action? ≠ some .login)
    (hsession : r.path = "/api/me" ∨ r.path = "/api/keys" → ∀ c, s.session r m.now ≠ .ok c) :
    (s.answer state r m).events = [] := by
  cases hroute : Route.ofPath? r.path with
  | none => simp only [Service.answer, hroute, plain]
  | some route =>
    cases hprotected : route.isProtected with
    | false =>
      have haction : route.action? r.method ≠ some .login := by
        rwa [Request.action?, hroute, Option.bind_some] at ha
      obtain ⟨response, hplain⟩ := open_apart (s := s) (m := m) hprotected haction
      simp only [Service.answer, hroute, hplain, plain]
    | true =>
      cases hs : s.session r m.now with
      | ok c => exact absurd hs (hsession ((isProtected_iff hroute).1 hprotected) c)
      | error refusal => simp only [Service.answer, hroute, Service.onRoute, hprotected, if_true, Service.protected, hs, plain]

theorem exists_reply {call : Call} {action target : String} (h : change? call = some (action, target)) (state : σ) :
    ∃ reply, (Registry.perform state call).1 = .done reply := by
  cases call with
  | get identity | all => cases h
  | insert identity publicKey level => exact ⟨_, rfl⟩
  | update identity publicKey level => exact ⟨_, rfl⟩
  | delete identity => exact ⟨_, rfl⟩

theorem changeLines_of_change {actor : String} {call : Call} {action target : String}
    (h : change? call = some (action, target)) (reply : Reply Unit) :
    changeLines actor call (.done reply) = [.keyChange actor action target (changeOutcome reply.inTime)] := by
  unfold changeLines
  rw [h]

theorem changeLines_of_none {actor : String} {call : Call} (h : change? call = none) (answer : Registry.Answer) :
    changeLines actor call answer = [] := by
  unfold changeLines
  rw [h]

/-- A request to the keys leaves its own line, after that of a change. -/
theorem events_of_asked {c : Session.Claims} {call : Call} (h : s.asked? r m.now = some (c, call)) :
    (s.answer state r m).events = changeLines c.subject call (Registry.perform state call).1 ++
      [.http c.subject c.id r.method r.path (s.answer state r m).response.status m.duration] := by
  have hstatus : (s.answer state r m).response.status = (respond (Registry.perform state call).1).status := by
    rw [answer_of_asked h]
    rfl
  rw [hstatus, answer_of_asked h]

/-- What is listed for a request is what it leaves. -/
theorem Service.Logs.events_eq {lines : List Event} (h : s.Logs state r m lines) : (s.answer state r m).events = lines := by
  cases h with
  | granted hlogin => rw [answer_of_login (login?_eq_some_iff.1 hlogin).1, (login_of_login? hlogin).2]
  | refused ha hbody hcheck => exact events_of_refused ha hbody hcheck
  | unsigned ha hbody hcheck hissue => exact events_of_unsigned ha hbody hcheck hissue
  | unreadable ha hbody => exact events_of_unreadable ha hbody
  | changed hasked hchange hreply =>
    rw [events_of_asked hasked, hreply, changeLines_of_change hchange]
    rfl
  | @admitted c hpath hsession hidle =>
    cases hasked : s.asked? r m.now with
    | none =>
      obtain ⟨route, hroute, hprotected⟩ := route_of_path hpath
      exact events_of_unasked hroute hprotected hsession hasked
    | some p =>
      obtain ⟨c', call⟩ := p
      have hsame : c' = c := Except.ok.inj ((asked?_eq_some_iff.1 hasked).2.1.symm.trans hsession)
      subst hsame
      rw [events_of_asked hasked, changeLines_of_none (hidle call hasked)]
      rfl
  | silent ha hsession => exact events_of_silent ha hsession

/-- Something is listed for every request. -/
theorem exists_logs (s : Service) (state : σ) (r : Request) (m : Moment) : ∃ lines, s.Logs state r m lines := by
  by_cases ha : r.action? = some .login
  · cases hbody : s.body LoginRequest.shape r with
    | error reason => exact ⟨_, .unreadable ha hbody⟩
    | ok request =>
      cases hcheck : (Assertion.checkIn s.guard.policy state request.token.toList m.now).1 with
      | error fault => exact ⟨_, .refused ha hbody hcheck⟩
      | ok record =>
        cases hissue : s.guard.issue record m.now m.sessionId with
        | error refusal => exact ⟨_, .unsigned ha hbody hcheck hissue⟩
        | ok issued =>
          exact ⟨_, .granted (l := ⟨request.token.toList, record, issued⟩)
            (login?_eq_some_iff.2 ⟨ha, request, hbody, rfl, hcheck, hissue⟩)⟩
  by_cases hsession : (r.path = "/api/me" ∨ r.path = "/api/keys") ∧ ∃ c, s.session r m.now = .ok c
  · obtain ⟨hpath, c, hc⟩ := hsession
    by_cases hchange : ∃ call target, s.asked? r m.now = some (c, call) ∧ change? call = some target
    · obtain ⟨call, ⟨action, target⟩, hasked, hchange⟩ := hchange
      obtain ⟨reply, hreply⟩ := exists_reply hchange state
      exact ⟨_, .changed hasked hchange hreply⟩
    · refine ⟨_, .admitted hpath hc fun call hasked => ?_⟩
      exact Option.eq_none_iff_forall_ne_some.2 fun target htarget => hchange ⟨call, target, hasked, htarget⟩
  · exact ⟨_, .silent ha fun hpath c hc => hsession ⟨hpath, c, hc⟩⟩

/-- **A request leaves the lines that are listed**, and no others are. -/
theorem logs_iff {lines : List Event} : s.Logs state r m lines ↔ lines = (s.answer state r m).events := by
  constructor
  · intro h
    exact h.events_eq.symm
  · rintro rfl
    obtain ⟨lines, h⟩ := exists_logs s state r m
    rwa [h.events_eq]

/-! ## Runs -/

theorem stateAfter_append (s : Service) : ∀ (before : List Arrival) {rest : List Arrival} (start : σ),
    s.stateAfter start (before ++ rest) = s.stateAfter (s.stateAfter start before) rest
  | [], _, _ => rfl
  | (r, m) :: before, _, start => stateAfter_append s before (s.answer start r m).state

theorem trail_append (s : Service) : ∀ (before : List Arrival) {rest : List Arrival} (start : σ),
    s.trail start (before ++ rest) = s.trail start before ++ s.trail (s.stateAfter start before) rest
  | [], _, _ => rfl
  | (r, m) :: before, rest, start => by
    rw [List.cons_append, Service.trail, Service.trail, Service.stateAfter, trail_append s before, List.append_assoc]

theorem trail_singleton (s : Service) (start : σ) (arrival : Arrival) :
    s.trail start [arrival] = (s.answer start arrival.1 arrival.2).events := List.append_nil _

/-! ## The changes that were made -/

/-- Whether a line says that a change was made. -/
def tellsChange : Event → Bool
  | .keyChange _ _ _ outcome => outcome == "success"
  | _ => false

/-- The lines of a change that was made. -/
def madeLines (p : String × Call) : List Event := changeLines p.1 p.2 (.done (.answered (.ok ())))

theorem changeOutcome_eq_success_iff {result : Except RegistryError Unit} :
    (changeOutcome result == "success") = true ↔ result = .ok () := by
  unfold changeOutcome
  split <;> simp

theorem isDone_done_iff {reply : Reply Unit} : (Registry.Answer.done reply).isDone = true ↔ reply.inTime = .ok () := by
  rcases reply with (e | u) | _ <;> simp [Registry.Answer.isDone, Reply.inTime]

theorem not_isDone_of_not_change {call : Call} (h : change? call = none) (state : σ) :
    (Registry.perform state call).1.isDone = false := by
  cases call with
  | get identity | all => rfl
  | insert identity publicKey level | update identity publicKey level | delete identity => cases h

theorem asked?_of_login (ha : r.action? = some .login) : s.asked? r m.now = none := by
  cases hasked : s.asked? r m.now with
  | none => rfl
  | some p =>
    have hpath := (asked?_eq_some_iff.1 hasked).1
    rw [(post_of_login ha).2] at hpath
    exact absurd hpath (by decide)

theorem made_of_unasked {now : Int} (h : s.asked? r now = none) : s.made state r now = [] := by
  rw [Service.made, h]
  rfl

theorem made_of_asked {now : Int} {c : Session.Claims} {call : Call} (h : s.asked? r now = some (c, call)) :
    s.made state r now = if (Registry.perform state call).1.isDone then [(c.subject, call)] else [] := by
  rw [Service.made, h, Option.filter_some]
  split
  · rfl
  · rfl

/-- The line of a change tells of it if it was made. -/
theorem filter_changeLines {actor : String} {call : Call} {action target : String}
    (h : change? call = some (action, target)) (reply : Reply Unit) :
    (changeLines actor call (.done reply)).filter tellsChange =
      if (Registry.Answer.done reply).isDone then madeLines (actor, call) else [] := by
  rw [madeLines, changeLines_of_change h, changeLines_of_change h]
  by_cases hdone : reply.inTime = .ok ()
  · rw [if_pos (isDone_done_iff.2 hdone), hdone]
    rfl
  · rw [if_neg (mt isDone_done_iff.1 hdone)]
    exact List.filter_cons_of_neg (mt changeOutcome_eq_success_iff.1 hdone)

/-- **The lines of a request that tell of a change are those of the change that it made.** -/
theorem tellsChange_answer (s : Service) (state : σ) (r : Request) (m : Moment) :
    (s.answer state r m).events.filter tellsChange = (s.made state r m.now).flatMap madeLines := by
  cases hasked : s.asked? r m.now with
  | none =>
    obtain ⟨lines, hlogs⟩ := exists_logs s state r m
    rw [made_of_unasked hasked, hlogs.events_eq]
    cases hlogs with
    | changed hother =>
      rw [hasked] at hother
      cases hother
    | granted | refused | unsigned | unreadable | admitted | silent => rfl
  | some p =>
    obtain ⟨c, call⟩ := p
    -- The request's own line is no line of a change, so only that of its call is looked at.
    rw [made_of_asked hasked, events_of_asked hasked, List.filter_append]
    show _ ++ [] = _
    rw [List.append_nil]
    cases hchange : change? call with
    | none =>
      rw [changeLines_of_none hchange, not_isDone_of_not_change hchange]
      rfl
    | some p =>
      obtain ⟨reply, hreply⟩ := exists_reply hchange state
      rw [hreply, filter_changeLines hchange]
      split
      · exact (List.append_nil _).symm
      · rfl

/-- **A registry in memory changes by the changes that are made.** -/
theorem state_of_made (s : Service) (state : MemoryRegistry) (r : Request) (m : Moment) :
    (s.answer state r m).state = Registry.after state ((s.made state r m.now).map Prod.snd) := by
  cases hasked : s.asked? r m.now with
  | none =>
    rw [made_of_unasked hasked, answer_keeps hasked]
    rfl
  | some p =>
    obtain ⟨c, call⟩ := p
    rw [made_of_asked hasked, answer_of_asked hasked]
    by_cases hdone : (Registry.perform state call).1.isDone = true
    · rw [if_pos hdone]
      rfl
    · rw [if_neg hdone]
      exact MemoryRegistry.perform_of_not_done (Bool.eq_false_iff.2 hdone)

/-- **The audit trail of a run.**  Each request leaves the lines that are listed for it, no others being listed, at the
state that the earlier ones led to and after their lines.  The lines that tell of a change are those of the changes that were made, in their
order; and these changes, made again by themselves, lead a registry in memory to where the run led it. -/
theorem trail_of_run (s : Service) (arrivals : List Arrival) :
    (∀ {σ : Type} [Registry σ] (start : σ) (past : List Arrival) (r : Request) (m : Moment) (future : List Arrival),
      arrivals = past ++ (r, m) :: future →
      ∃ lines, (∀ listed, s.Logs (s.stateAfter start past) r m listed ↔ listed = lines) ∧
        s.trail start arrivals =
          s.trail start past ++ lines ++ s.trail (s.stateAfter start (past ++ [(r, m)])) future) ∧
      (∀ {σ : Type} [Registry σ] (start : σ),
        (s.trail start arrivals).filter tellsChange = (s.changes start arrivals).flatMap madeLines) ∧
      ∀ start : MemoryRegistry,
        s.stateAfter start arrivals = Registry.after start ((s.changes start arrivals).map Prod.snd) := by
  refine ⟨?_, ?_, ?_⟩
  · rintro σ _ start past r m future rfl
    refine ⟨_, fun _ => logs_iff, ?_⟩
    rw [trail_append, stateAfter_append, List.append_assoc]
    rfl
  · intro σ _ start
    induction arrivals generalizing start with
    | nil => rfl
    | cons arrival rest ih =>
      rw [Service.trail, Service.changes, List.filter_append, List.flatMap_append, tellsChange_answer, ih]
  · intro start
    induction arrivals generalizing start with
    | nil => rfl
    | cons arrival rest ih =>
      rw [Service.stateAfter, Service.changes, List.map_append, Registry.after_append, ← state_of_made]
      exact ih _

/-! ## A run, and a login that is not told -/

/-- **A login and the removal of a key**: the one change that the trail tells is the one that was made. -/
theorem trail_of_root :
    ∃ lines, (∀ listed, rootService.Logs rootRegistry rootRemoval.1 rootRemoval.2 listed ↔ listed = lines) ∧
      rootService.trail rootRegistry [rootLogin, rootRemoval] = rootService.trail rootRegistry [rootLogin] ++ lines ∧
      (rootService.trail rootRegistry [rootLogin, rootRemoval]).filter tellsChange =
        [.keyChange "root" "key_delete" "root" "success"] := by
  have hlogin : rootService.asked? rootLogin.1 rootLogin.2.now = none := asked?_of_login (by decide)
  have hkept : (rootService.answer rootRegistry rootLogin.1 rootLogin.2).state = rootRegistry :=
    answer_keeps hlogin rootRegistry
  have hmade : rootService.made rootRegistry rootRemoval.1 rootRemoval.2.now = [("root", .delete "root")] := by
    rw [show rootRemoval.2.now = 60 from rfl, made_of_asked asked?_rootRemoval]
    rfl
  have hchanges : rootService.changes rootRegistry [rootLogin, rootRemoval] = [("root", .delete "root")] := by
    rw [Service.changes, made_of_unasked hlogin, hkept, Service.changes, hmade]
    rfl
  obtain ⟨hlines, htells, -⟩ := trail_of_run rootService [rootLogin, rootRemoval]
  obtain ⟨lines, hlogs, htrail⟩ := hlines rootRegistry [rootLogin] rootRemoval.1 rootRemoval.2 [] rfl
  rw [Service.stateAfter, hkept] at hlogs
  refine ⟨lines, hlogs, ?_, ?_⟩
  · rw [htrail, Service.trail, List.append_nil]
  · rw [htells, hchanges]
    rfl

section

open Guard (pairedSettings annSettings annRegistry ann starts_pairedSettings)

/-- The service of the broken key. -/
def brokenService : Service := ⟨⟨pairedSettings, KeyPair.broken⟩, bodyLimit 64⟩

/-- The signature of what `ann` says by the sound key, which has the same public half. -/
def annProof : List UInt8 :=
  Digest.toBytes 256 (Rsa.soundKey.power (Rsa.encodedNumber .sha256 256
    (Text.bytes (KeyPair.signingInput .rs256 (payloadOf "ann").compact))))

def annAssertion : List Char :=
  KeyPair.signingInput .rs256 (payloadOf "ann").compact ++ '.' :: Base64.encode .urlSafe annProof

/-- The login of `ann`. -/
def annLogin : Arrival := (loginOf annAssertion, ⟨0, "a", 1⟩)

theorem body_ann : brokenService.body LoginRequest.shape annLogin.1 = .ok ⟨String.ofList annAssertion⟩ := by
  refine body_loginOf ?_
  unfold brokenService loginOf
  simp only [Json.chars, Json.memberChars, Json.quote, String.toList_ofList]
  decide +kernel

theorem accepts_annAssertion :
    acceptsToken (⟨.rs256, Rsa.brokenKey.public.der⟩ : PublicKey).accepts annAssertion = true := by
  rw [annAssertion, acceptsToken_append _ _ (Base64.dot_not_mem_encode annProof), PublicKey.accepts_encode]
  decide +kernel

theorem parse_annAssertion :
    Token.parse annAssertion = .ok ⟨"RS256", [("exp", .int 9), ("iat", .int 0), ("iss", .text "ann")]⟩ := by
  have hne : annProof ≠ [] := by
    refine List.ne_nil_of_length_pos ?_
    rw [annProof, Digest.length_toBytes]
    decide
  unfold annAssertion
  exact parse_payloadOf .rs256 "ann" hne

theorem checkIn_ann :
    (Assertion.checkIn brokenService.guard.policy (Store.memory annRegistry) annAssertion 0).1 = .ok ann := by
  refine (Assertion.check_eq_ok_iff _ _ _ _ _).2 ⟨_, "ann", parse_annAssertion, rfl, rfl, ?_, by decide⟩
  refine (Assertion.signatureHolds_iff _ _ _ _).2 ⟨rfl, ⟨.rs256, Rsa.brokenKey.public.der⟩, ?_, accepts_annAssertion⟩
  rw [ann, String.toList_ofList]
  exact PublicKey.ofPem_publicText

/-- **The number of the session is no such power**, so the broken key gives no signature for it. -/
theorem issue_ann : ∃ refusal, brokenService.guard.issue ann 0 "a" = .error refusal := by
  have hspan : brokenService.guard.sessionTimeout = 3600 := by decide
  have hnone : (KeyPair.broken.sign (KeyPair.signingInput .rs256
      (Session.claimsFor 3600 ann 0 "a").toJson.compact)).toOption = none := by
    decide +kernel
  cases hsign : KeyPair.broken.sign (KeyPair.signingInput .rs256
      (Session.claimsFor 3600 ann 0 "a").toJson.compact) with
  | ok signature =>
    rw [hsign] at hnone
    cases hnone
  | error fault =>
    have hkeys : brokenService.guard.keys = KeyPair.broken := rfl
    have hissue : Session.issue KeyPair.broken 3600 ann 0 "a" = .error fault := Session.issue_of_sign_error hsign
    rw [Guard.issue, hspan, hkeys, hissue]
    exact ⟨_, rfl⟩

/-- **A login whose assertion is accepted and that leaves no line**, to a server that has started. -/
theorem login_leaves_nothing :
    (∀ h, Guard.start h pairedSettings annSettings Backends.standard =
        .ok (brokenService.guard, .memory annRegistry)) ∧
      annLogin.1.action? = some .login ∧
      (∃ request, brokenService.body LoginRequest.shape annLogin.1 = .ok request ∧
        (Assertion.checkIn brokenService.guard.policy (Store.memory annRegistry) request.token.toList 0).1 =
          .ok ann) ∧
      brokenService.trail (Store.memory annRegistry) [annLogin] = [] := by
  have ha : annLogin.1.action? = some .login := by decide
  have hcheck : (Assertion.checkIn brokenService.guard.policy (Store.memory annRegistry)
      (String.ofList annAssertion).toList 0).1 = .ok ann := by
    rw [String.toList_ofList]
    exact checkIn_ann
  obtain ⟨refusal, hissue⟩ := issue_ann
  refine ⟨fun h => (starts_pairedSettings h).start_eq, ha, ⟨_, body_ann, hcheck⟩, ?_⟩
  rw [trail_singleton]
  exact events_of_unsigned ha body_ann hcheck hissue

end

end Http
end Gatehouse
