import Gatehouse.Proofs.Assertion
import Gatehouse.Proofs.Http.Service
import Gatehouse.Proofs.Registry.Memory
import Gatehouse.Proofs.Session
/-!
# Runs of the service — nobody gets to the keys without a login

Requests arrive one after another, and each changes the registry by one call at most, so what every call keeps holds
after any run (`stateAfter_keeps`).  `reached_by_login`: as long as nobody else signs for the server, a session that
gets to the keys was given by an earlier login, to an identity that was registered with a sufficient level then, and
it still lasts.  `check_probe`: the token that a new key pair is tried with is no session.
-/
namespace Gatehouse
namespace Http

open Seconds (IsTime)

/-- A request with what it brings along. -/
abbrev Arrival := Request × Moment

section

variable {σ : Type} [Registry σ]

/-- The registry after requests have been answered one after another. -/
def Service.stateAfter (s : Service) (start : σ) : List Arrival → σ
  | [] => start
  | (r, m) :: rest => s.stateAfter (s.answer start r m).state rest

/-- **What every call keeps holds after any run.** -/
theorem stateAfter_keeps (s : Service) {P : σ → Prop}
    (hstep : ∀ state (c : Registry.Call), c.Bounded → P state → P (Registry.perform state c).2) :
    ∀ (arrivals : List Arrival) {start : σ}, P start → P (s.stateAfter start arrivals)
  | [], _, h => h
  | (r, m) :: rest, start, h => by
    refine stateAfter_keeps s hstep rest ?_
    rcases touched_answer (s := s) (r := r) (m := m) start with hsame | ⟨c, hc, hcall⟩
    · rwa [hsame]
    · rw [hcall]
      exact hstep start c hc h

/-- A login that one of some requests was granted, at a state of the registry and a moment. -/
def Service.Granted (s : Service) (start : σ) (past : List Arrival) (state : σ) (m : Moment) (l : Login) : Prop :=
  ∃ before r after, past = before ++ (r, m) :: after ∧ state = s.stateAfter start before ∧
    s.login? state r m = some l

/-- What the server signs for claims: the header and the payload of their token. -/
def Service.message (s : Service) (c : Session.Claims) : List Char := KeyPair.signingInput s.guard.keys.algorithm c.toJson.compact

/-- Nobody else signs for the server: a token of a request whose signature its public key accepts has the header and
the payload of the probe, or of a session that was given before. -/
def Service.Unforged (s : Service) (start : σ) (arrivals : List Arrival) : Prop :=
  ∀ past r m future, arrivals = past ++ (r, m) :: future →
    ∀ token message signature, r.token s.guard.settings.cookieName s.guard.settings.loginPath = .ok token →
      token = message ++ '.' :: signature → '.' ∉ signature → s.guard.keys.accepts message signature = true →
      message = KeyPair.signingInput s.guard.keys.algorithm KeyPair.probe ∨
        ∃ state lm l, s.Granted start past state lm l ∧ message = s.message l.session.claims

end

/-! ## What a login proves -/

theorem issue_eq_ok_iff {g : Guard} {record : KeyRecord} {now : Int} {id : String} {issued : Session.Issued} :
    g.issue record now id = .ok issued ↔ Session.issue g.keys g.sessionTimeout record now id = .ok issued := by
  unfold Guard.issue
  cases Session.issue g.keys g.sessionTimeout record now id with
  | ok issued' => simp
  | error fault => simp

/-- **A granted login**: the assertion's issuer was registered under a key that accepted the assertion, and the
session is that record's. -/
theorem proof_of_login? {s : Service} {state : MemoryRegistry} {r : Request} {m : Moment} {l : Login}
    (h : s.login? state r m = some l) :
    ∃ t iss key, Token.parse l.assertion = .ok t ∧ Assoc.get? "iss" t.claims = some (.text iss) ∧
      state.get iss = some l.record ∧
      PublicKey.ofPem s.guard.keys.algorithm l.record.publicKey.toList = .ok key ∧
      acceptsToken key.accepts l.assertion = true ∧
      l.session.claims = Session.claimsFor s.guard.sessionTimeout l.record m.now m.sessionId ∧
      ∃ signature, l.session.token = s.message l.session.claims ++ '.' :: signature := by
  obtain ⟨-, request, -, -, hcheck, hissue⟩ := login?_eq_some_iff.1 h
  obtain ⟨t, iss, hparse, hiss, hrecord, hsignature, -⟩ := (Assertion.check_eq_ok_iff _ _ _ _ _).1 hcheck
  obtain ⟨-, key, hkey, haccepts⟩ := (Assertion.signatureHolds_iff _ _ _ _).1 hsignature
  obtain ⟨hclaims, htoken⟩ := Session.issued_of_issue (issue_eq_ok_iff.1 hissue)
  exact ⟨t, iss, key, hparse, ((Assertion.issuer?_eq_some_iff t iss).1 hiss).1, Except.ok.inj hrecord, hkey, haccepts,
    hclaims, htoken⟩

/-! ## What a session at the keys proves -/

/-- **Nobody gets to the keys without a login.**  In any run from a registry of given records, as long as nobody else
signs for the server: a request that gets to an action on the keys, which then answers it, carries the header and the
payload of a session that an earlier login was granted; the assertion of that login was accepted by the key that its
issuer had at that state, with a level that reaches the required one; the session is the issuer's, and its window lasts.
Every other request is a login or has no part in the registry, and the probe is no session. -/
theorem reached_by_login {family : KeyFamily} {records : List KeyRecord} {readOnly : Bool} {start : MemoryRegistry}
    (hlevels : ∀ r ∈ records, r.accessLevel < 2 ^ 32)
    (hstart : MemoryRegistry.ofRecords family records readOnly = .ok start) (s : Service) (arrivals : List Arrival)
    (htimes : ∀ a ∈ arrivals, IsTime a.2.now) (hkeys : s.Unforged start arrivals) :
    (∀ past r m future action c, arrivals = past ++ (r, m) :: future → s.reached? r m.now = some (action, c) →
      (∀ state : MemoryRegistry, s.answer state r m =
        ⟨finish r (some .keys) (s.manage state c.subject (some action) r).response,
          (s.manage state c.subject (some action) r).state,
          (s.manage state c.subject (some action) r).events ++
            [.http c.subject c.id r.method r.path (s.manage state c.subject (some action) r).response.status
              m.duration]⟩) ∧
      ∃ state lm l given signature t iss key,
        s.Granted start past state lm l ∧
        l.session.token = s.message l.session.claims ++ '.' :: given ∧
        r.token s.guard.settings.cookieName s.guard.settings.loginPath =
          .ok (s.message l.session.claims ++ '.' :: signature) ∧
        Token.parse l.assertion = .ok t ∧ Assoc.get? "iss" t.claims = some (.text iss) ∧
        state.get iss = some l.record ∧ s.guard.settings.adminLevel ≤ l.record.accessLevel ∧
        PublicKey.ofPem s.guard.keys.algorithm l.record.publicKey.toList = .ok key ∧
        acceptsToken key.accepts l.assertion = true ∧
        c = l.session.claims ∧ c.subject = iss ∧
        lm.now - Seconds.span s.guard.settings.leeway ≤ m.now ∧
        m.now ≤ lm.now + s.guard.sessionTimeout + Seconds.span s.guard.settings.leeway) ∧
    (∀ r m, s.reached? r m.now = none →
      (r.action? = some .login ∧ ∀ state : MemoryRegistry, s.answer state r m =
        ⟨finish r (some .login) (s.login state r m).response, (s.login state r m).state, (s.login state r m).events⟩) ∨
      ∃ response events, ∀ state : MemoryRegistry, s.answer state r m = ⟨response, state, events⟩) ∧
    ∀ signature now c,
      s.guard.accept (KeyPair.signingInput s.guard.keys.algorithm KeyPair.probe ++ '.' :: signature) now ≠ .ok c := by
  refine ⟨?_, fun r m hreached => ?_, ?_⟩
  · intro past r m future action c hrun hreached
    refine ⟨answer_of_reached hreached, ?_⟩
    obtain ⟨-, hsession, ⟨level, hlevel, hadmin⟩, -⟩ := reached?_eq_some_iff.1 hreached
    obtain ⟨token, htoken, hcheck⟩ := session_eq_ok_iff.1 hsession
    obtain ⟨message, signature, hsplit, hdot, haccepts⟩ :=
      (acceptsToken_eq_true_iff _ _).1 (Session.verify_of_check hcheck)
    rcases hkeys past r m future hrun token message signature htoken hsplit hdot haccepts with hprobe |
      ⟨state, lm, l, hgranted, hmessage⟩
    · rw [hsplit, hprobe] at hcheck
      exact absurd hcheck (Session.check_probe _ _ _ _ _)
    · obtain ⟨before, r', after, hpast, rfl, hlogin⟩ := hgranted
      have hkeyed : MemoryRegistry.Keyed (s.stateAfter start before).records :=
        stateAfter_keeps s (P := fun m : MemoryRegistry => MemoryRegistry.Keyed m.records)
          (fun _ _ hc h => MemoryRegistry.keyed_perform h hc) before (MemoryRegistry.keyed_ofRecords hlevels hstart)
      obtain ⟨t, iss, key, hparse, hiss, hrecord, hkey, hassertion, hclaims, given, hgiven⟩ := proof_of_login? hlogin
      obtain ⟨hidentity, hbound⟩ := hkeyed.get? hrecord
      have hlm : IsTime lm.now := htimes (r', lm) (by rw [hrun, hpast]; simp)
      have hm : IsTime m.now := htimes (r, m) (by rw [hrun]; simp)
      rw [hsplit, hmessage, Service.message, hclaims] at hcheck
      obtain ⟨hc, hfrom, hto⟩ := Session.claims_of_check (Seconds.isSpan_span _) (Seconds.isSpan_span _) hlm hm hbound
        hcheck
      have hrecordLevel : l.record.accessLevel = level := by
        rw [hc] at hlevel
        exact Option.some.inj hlevel
      exact ⟨_, lm, l, given, signature, t, iss, key, ⟨before, r', after, hpast, rfl, hlogin⟩, hgiven,
        by rw [htoken, hsplit, hmessage], hparse, hiss, hrecord, by rwa [hrecordLevel], hkey, hassertion,
        hc.trans hclaims.symm, by rw [hc]; exact hidentity, hfrom, hto⟩
  · exact (answer_of_unreached hreached).imp (fun h => ⟨h.1, h.2 _⟩) fun ⟨response, events, h⟩ => ⟨response, events, h _⟩
  · exact fun signature now c h => Session.check_probe _ _ _ _ _ (accept_eq_ok_iff.1 h)

/-! ## A run that gets there -/

/-- The session that it leads to. -/
def rootClaims : Session.Claims := Session.claimsFor 60 root 0 "a"

/-- The signature of that session by the same key. -/
def rootSignature : List UInt8 :=
  Digest.toBytes 32 0x7ce872251cb4fb44332edfbd0e752b9a854033265abc4955b5ed2578072d3583 ++
    Digest.toBytes 32 0x147eb5543769665fa0184937fff17d9c77b716d1cafa70d6098e18fd933e2165

def rootToken : List Char :=
  KeyPair.signingInput .es256 rootClaims.toJson.compact ++ '.' :: Base64.encode .urlSafe rootSignature

/-- A service that keys of level 9 manage, with the pair of that key as far as it goes. -/
def rootService : Service where
  guard :=
    ⟨{ algorithm := "ES256", publicKeyPath := none, publicKey := none, privateKeyPath := none, privateKey := none,
       assertionTimeout := 60, sessionTimeout := 60, leeway := 0, cookieName := "session", cookieSecure := true,
       loginPath := "/", adminLevel := 9, registryTimeout := 1000 },
      ⟨.es256, fun _ => .ok (Base64.encode .urlSafe rootSignature), Session.seventhKey.accepts⟩⟩
  bodyLimit := 1024

/-- A login with an assertion. -/
def loginOf (assertion : List Char) : Request :=
  ⟨"POST", "/auth/login", [("content-type", "application/json")],
    Text.bytes (Json.chars (.object [("token", .text (String.ofList assertion))]))⟩

/-- The login of `root`. -/
def rootLogin : Arrival := (loginOf rootAssertion, ⟨0, "a", 1⟩)

/-- A look at the keys in the last second of the session. -/
def rootLook : Arrival :=
  (⟨"GET", "/api/keys", [("authorization", String.ofList ("Bearer ".toList ++ rootToken))], []⟩, ⟨60, "b", 1⟩)

theorem normalize_rootText : Key.normalize .ec rootText = .ok rootText := toOption_eq_some_iff.1 (by decide +kernel)

theorem ofRecords_root : MemoryRegistry.ofRecords .ec [root] false = .ok rootRegistry :=
  MemoryRegistry.ofRecords_single rfl normalize_rootText

/-- The body of a login brings its assertion. -/
theorem body_loginOf {s : Service} {assertion : List Char}
    (hlimit : ¬ s.bodyLimit < (loginOf assertion).body.length) :
    s.body LoginRequest.shape (loginOf assertion) = .ok ⟨String.ofList assertion⟩ := by
  have hjson : (loginOf assertion).isJson = true := rfl
  have hbody : (loginOf assertion).body =
      Text.bytes (Json.chars (.object [("token", .text (String.ofList assertion))])) := rfl
  unfold Service.body
  rw [hjson, if_neg (by decide), if_neg hlimit, hbody, Json.Document.read_single rfl rfl rfl]

theorem body_root : rootService.body LoginRequest.shape rootLogin.1 = .ok ⟨String.ofList rootAssertion⟩ := by
  refine body_loginOf ?_
  unfold rootService loginOf
  simp only [Json.chars, Json.memberChars, Json.quote, String.toList_ofList]
  decide +kernel

theorem checkIn_root : (Assertion.checkIn rootService.guard.policy rootRegistry rootAssertion 0).1 = .ok root := by
  refine (Assertion.check_eq_ok_iff _ _ _ _ _).2 ⟨_, "root", parse_rootAssertion, rfl, rfl, ?_, by decide⟩
  exact (Assertion.signatureHolds_iff _ _ _ _).2 ⟨rfl, Session.seventhKey, ofPem_root, accepts_rootAssertion⟩

theorem issue_root : rootService.guard.issue root 0 "a" = .ok ⟨rootToken, rootClaims⟩ := by
  have hspan : rootService.guard.sessionTimeout = 60 := by decide
  have hsign : ∀ message, rootService.guard.keys.sign message = .ok (Base64.encode .urlSafe rootSignature) := by
    unfold rootService
    exact fun _ => rfl
  refine issue_eq_ok_iff.2 ?_
  rw [hspan, Session.issue_of_sign (hsign _)]
  rfl

/-- The login is granted. -/
theorem login?_root :
    rootService.login? rootRegistry rootLogin.1 rootLogin.2 = some ⟨rootAssertion, root, ⟨rootToken, rootClaims⟩⟩ :=
  login?_eq_some_iff.2 ⟨by decide, _, body_root, String.toList_ofList.symm, checkIn_root, issue_root⟩

/-- A request with the session in its first header. -/
theorem token_of_rootHeader {method target : String} {rest : List (String × String)} {body : List UInt8} :
    (⟨method, target, ("authorization", String.ofList ("Bearer ".toList ++ rootToken)) :: rest, body⟩ : Request).token
      "session" "/" = .ok rootToken := by
  have hbearer : bearerToken? (String.ofList ("Bearer ".toList ++ rootToken)) = some rootToken := by
    unfold bearerToken?
    rw [String.toList_ofList]
    decide +kernel
  have hvisible : ("Bearer ".toList ++ rootToken).all Text.isVisibleAscii = true := by
    have hword : "Bearer ".toList.all Text.isVisibleAscii = true := by decide
    rw [List.all_append, hword, Bool.true_and, List.all_eq_true]
    intro c hc
    have hrange := KeyPair.range_of_mem_token hc
    simp only [Text.isVisibleAscii, Bool.or_eq_true, Bool.and_eq_true, decide_eq_true_eq]
    omega
  exact token_of_bearer (header?_cons (by decide)) (visible?_ofList hvisible) hbearer

theorem token_root : rootLook.1.token "session" "/" = .ok rootToken := by
  unfold rootLook
  exact token_of_rootHeader

theorem accepts_rootToken : rootService.guard.keys.accepts
    (KeyPair.signingInput rootService.guard.keys.algorithm (Session.claimsFor 60 root 0 "a").toJson.compact)
    (Base64.encode .urlSafe rootSignature) = true := by
  have haccepts : rootService.guard.keys.accepts = Session.seventhKey.accepts := by
    unfold rootService
    rfl
  rw [haccepts, PublicKey.accepts_encode]
  decide +kernel

theorem rootToken_eq : rootToken = rootService.message rootClaims ++ '.' :: Base64.encode .urlSafe rootSignature := by
  unfold rootToken Service.message
  rfl

theorem session_root : rootService.session rootLook.1 60 = .ok rootClaims := by
  have hne : Base64.encode .urlSafe rootSignature ≠ [] := Base64.encode_ne_nil .urlSafe (List.cons_ne_nil _ _)
  refine session_eq_ok_iff.2 ⟨rootToken, token_root, ?_⟩
  rw [rootToken_eq, Service.message, rootClaims,
    Session.check_signed (by decide) (by decide) hne (Base64.dot_not_mem_encode rootSignature), if_pos accepts_rootToken]
  rfl

/-- The login brings no token. -/
theorem token_rootLogin : ∃ refusal, rootLogin.1.token "session" "/" = .error refusal := ⟨_, rfl⟩

/-- The one token of the run was given before. -/
theorem unforged_root : rootService.Unforged rootRegistry [rootLogin, rootLook] := by
  intro past r m future hrun token message signature htoken hsplit hdot haccepts
  rcases past with _ | ⟨first, _ | ⟨second, past⟩⟩
  · have hr : r = rootLogin.1 := (congrArg Prod.fst (List.cons.inj hrun).1).symm
    obtain ⟨refusal, hnone⟩ := token_rootLogin
    rw [hr] at htoken
    cases hnone.symm.trans htoken
  · obtain ⟨hfirst, hrun⟩ := List.cons.inj hrun
    have hr : r = rootLook.1 := (congrArg Prod.fst (List.cons.inj hrun).1).symm
    rw [hr] at htoken
    have hroot : token = rootToken := Except.ok.inj (htoken.symm.trans token_root)
    have hlast := Text.splitLast?_eq_some_iff.2 ⟨hsplit, hdot⟩
    rw [hroot, Text.splitLast?_eq_some_iff.2 ⟨rootToken_eq, Base64.dot_not_mem_encode rootSignature⟩] at hlast
    have hmessage : rootService.message rootClaims = message := congrArg Prod.fst (Option.some.inj hlast)
    rw [← hfirst]
    exact .inr ⟨rootRegistry, rootLogin.2, _, ⟨[], rootLogin.1, [], rfl, rfl, login?_root⟩, hmessage.symm⟩
  · simp at hrun

/-- **A login, and a look at the keys in the last second of its session.** -/
theorem reached_by_root :
    (∀ r ∈ [root], r.accessLevel < 2 ^ 32) ∧ MemoryRegistry.ofRecords .ec [root] false = .ok rootRegistry ∧
      (∀ a ∈ [rootLogin, rootLook], IsTime a.2.now) ∧ rootService.Unforged rootRegistry [rootLogin, rootLook] ∧
      rootService.reached? rootLook.1 60 = some (.listKeys, rootClaims) ∧
      ∃ state lm l, rootService.Granted rootRegistry [rootLogin] state lm l ∧ rootClaims = l.session.claims ∧
        9 ≤ l.record.accessLevel := by
  have hlevels : ∀ r ∈ [root], r.accessLevel < 2 ^ 32 := by decide
  have htimes : ∀ a ∈ [rootLogin, rootLook], IsTime a.2.now := by decide
  have hreached : rootService.reached? rootLook.1 60 = some (.listKeys, rootClaims) :=
    reached?_eq_some_iff.2 ⟨by decide, session_root, ⟨9, rfl, Nat.le_refl 9⟩, by decide⟩
  obtain ⟨-, state, lm, l, -, -, -, -, -, hgranted, -, -, -, -, -, hlevel, -, -, hclaims, -⟩ :=
    (reached_by_login hlevels ofRecords_root rootService [rootLogin, rootLook] htimes unforged_root).1 [rootLogin]
      rootLook.1 rootLook.2 [] .listKeys rootClaims rfl hreached
  exact ⟨hlevels, ofRecords_root, htimes, unforged_root, hreached, state, lm, l, hgranted, hclaims, hlevel⟩

end Http
end Gatehouse
