import Gatehouse.Proofs.Http.Service
import Gatehouse.Proofs.Json.Given
/-!
# Requests to the keys — which call is made and what is answered

A request to the keys comes down to one registry call (`Service.asked?`), whose answer makes its response, its lines in
the audit log and the registry's next state (`answer_of_asked`).  A request that asks for nothing leaves the registry
alone.  `from_of_body` and `from_of_deleteBody` say what of a body the call is made of.
-/
namespace Gatehouse
namespace Http

open Json (Presence)
open Json.Document (Gives given?)
open Registry (Call Answer)

variable {s : Service} {r : Request} {m : Moment} {c : Session.Claims} {call : Call}

/-! ## What is asked -/

/-- The call that a request asks for, by its method and its body. -/
inductive Service.Asks (s : Service) (r : Request) : Call → Prop
  | list (hmethod : r.method = "GET" ∨ r.method = "HEAD") : Asks s r .all
  | insert (hmethod : r.method = "POST") {k : KeyRequest} (hbody : s.body KeyRequest.insertShape r = .ok k) :
      Asks s r (.insert k.identity k.publicKey k.accessLevel)
  | update (hmethod : r.method = "PUT") {k : KeyRequest} (hbody : s.body KeyRequest.updateShape r = .ok k) :
      Asks s r (.update k.identity k.publicKey k.accessLevel)
  | delete (hmethod : r.method = "DELETE") {k : DeleteRequest} (hbody : s.body DeleteRequest.shape r = .ok k) :
      Asks s r (.delete k.identity)

/-- The call that an action makes of a request's body. -/
def Service.call? (s : Service) (r : Request) : Action → Option Call
  | .listKeys => some .all
  | .insertKey => (s.body KeyRequest.insertShape r).toOption.map fun k => .insert k.identity k.publicKey k.accessLevel
  | .updateKey => (s.body KeyRequest.updateShape r).toOption.map fun k => .update k.identity k.publicKey k.accessLevel
  | .deleteKey => (s.body DeleteRequest.shape r).toOption.map fun k => .delete k.identity
  | _ => none

/-- The call that a request gets to, and the session that takes it there. -/
def Service.asked? (s : Service) (r : Request) (now : Int) : Option (Session.Claims × Call) :=
  (s.reached? r now).bind fun (action, c) => (s.call? r action).map fun call => (c, call)

/-- The methods on the route of keys. -/
theorem action?_keys (method : String) (action : Action) :
    Route.keys.action? method = some action ↔
      (method = "GET" ∨ method = "HEAD") ∧ action = .listKeys ∨ method = "POST" ∧ action = .insertKey ∨
        method = "PUT" ∧ action = .updateKey ∨ method = "DELETE" ∧ action = .deleteKey := by
  unfold Route.action?
  grind

theorem asks_iff : s.Asks r call ↔ ∃ action, Route.keys.action? r.method = some action ∧ s.call? r action = some call := by
  constructor
  · rintro (hmethod | ⟨hmethod, hbody⟩ | ⟨hmethod, hbody⟩ | ⟨hmethod, hbody⟩)
    · exact ⟨.listKeys, (action?_keys _ _).2 (.inl ⟨hmethod, rfl⟩), rfl⟩
    · refine ⟨.insertKey, (action?_keys _ _).2 (.inr (.inl ⟨hmethod, rfl⟩)), ?_⟩
      rw [Service.call?, hbody]
      rfl
    · refine ⟨.updateKey, (action?_keys _ _).2 (.inr (.inr (.inl ⟨hmethod, rfl⟩))), ?_⟩
      rw [Service.call?, hbody]
      rfl
    · refine ⟨.deleteKey, (action?_keys _ _).2 (.inr (.inr (.inr ⟨hmethod, rfl⟩))), ?_⟩
      rw [Service.call?, hbody]
      rfl
  · rintro ⟨action, ha, hcall⟩
    rcases (action?_keys _ _).1 ha with ⟨hmethod, rfl⟩ | ⟨hmethod, rfl⟩ | ⟨hmethod, rfl⟩ | ⟨hmethod, rfl⟩
    · cases hcall
      exact .list hmethod
    all_goals
      obtain ⟨k, hbody, rfl⟩ := Option.map_eq_some_iff.1 hcall
      rw [toOption_eq_some_iff] at hbody
    · exact .insert hmethod hbody
    · exact .update hmethod hbody
    · exact .delete hmethod hbody

theorem ofPath?_eq_keys_iff {path : String} : Route.ofPath? path = some .keys ↔ path = "/api/keys" := by
  constructor
  · intro h
    unfold Route.ofPath? at h
    have hpath := List.find?_some h
    exact (beq_iff_eq.1 hpath).symm
  · rintro rfl
    decide

/-- **Who asks for what**: a request to the path of keys, with an accepted session of a sufficient level, whose body,
if its method takes one, can be read. -/
theorem asked?_eq_some_iff {now : Int} :
    s.asked? r now = some (c, call) ↔
      r.path = "/api/keys" ∧ s.session r now = .ok c ∧
        (∃ level, c.user.bind Session.User.accessLevel = some level ∧ s.guard.settings.adminLevel ≤ level) ∧
        s.Asks r call := by
  rw [asks_iff, ← ofPath?_eq_keys_iff]
  constructor
  · intro h
    obtain ⟨⟨action, c'⟩, hreached, hcall⟩ := Option.bind_eq_some_iff.1 h
    obtain ⟨call', hcall, he⟩ := Option.map_eq_some_iff.1 hcall
    cases he
    obtain ⟨hroute, hsession, hlevel, ha⟩ := reached?_eq_some_iff.1 hreached
    exact ⟨hroute, hsession, hlevel, action, ha, hcall⟩
  · rintro ⟨hroute, hsession, hlevel, action, ha, hcall⟩
    simp only [Service.asked?, reached?_eq_some_iff.2 ⟨hroute, hsession, hlevel, ha⟩, Option.bind_some, hcall,
      Option.map_some]

/-! ## What is answered -/

/-- The response to an answered call.  No request to the keys looks one identity up. -/
def respond : Answer → Response
  | .records reply =>
    match reply.inTime with
    | .ok records => Response.json 200 (keysJson records)
    | .error e => e.response
  | .done reply => changeResponse reply.inTime
  | .record _ => notAllowed

/-- What a change is called in the audit log, and the identity that it is about. -/
def change? : Call → Option (String × String)
  | .insert identity _ _ => some ("key_insert", identity)
  | .update identity _ _ => some ("key_update", identity)
  | .delete identity => some ("key_delete", identity)
  | _ => none

/-- The lines of an answered call. -/
def changeLines (actor : String) (call : Call) (answer : Answer) : List Audit.Event :=
  match change? call, answer with
  | some (action, target), .done reply => [.keyChange actor action target (changeOutcome reply.inTime)]
  | _, _ => []

variable {σ : Type} [Registry σ]

theorem manage_of_call? {action : Action} (h : s.call? r action = some call) (state : σ) (actor : String) :
    s.manage state actor (some action) r =
      ⟨respond (Registry.perform state call).1, (Registry.perform state call).2,
        changeLines actor call (Registry.perform state call).1⟩ := by
  cases action with
  | listKeys =>
    cases h
    unfold Service.manage listKeys respond Registry.perform
    dsimp only
    cases (Registry.all state).1.inTime with
    | ok records => rfl
    | error e => rfl
  | insertKey =>
    obtain ⟨k, hbody, rfl⟩ := Option.map_eq_some_iff.1 h
    simp only [Service.manage, Service.insertKey, toOption_eq_some_iff.1 hbody]
    rfl
  | updateKey =>
    obtain ⟨k, hbody, rfl⟩ := Option.map_eq_some_iff.1 h
    simp only [Service.manage, Service.updateKey, toOption_eq_some_iff.1 hbody]
    rfl
  | deleteKey =>
    obtain ⟨k, hbody, rfl⟩ := Option.map_eq_some_iff.1 h
    simp only [Service.manage, Service.deleteKey, toOption_eq_some_iff.1 hbody]
    rfl
  | health | login | logout | showMe => cases h

/-- An action whose body cannot be read is answered without the registry. -/
theorem manage_of_not_call? {action : Action} (h : s.call? r action = none) :
    ∃ response, ∀ (σ : Type) [Registry σ] (state : σ) (actor : String),
      s.manage state actor (some action) r = plain state response := by
  have hbody {ρ : Type} {shape : Json.Record ρ} {f : ρ → Call} (hnone : (s.body shape r).toOption.map f = none) :
      ∃ reason, s.body shape r = .error reason := by
    cases hread : s.body shape r with
    | ok k => rw [hread] at hnone; cases hnone
    | error reason => exact ⟨reason, rfl⟩
  cases action with
  | listKeys => cases h
  | insertKey =>
    obtain ⟨reason, hreason⟩ := hbody h
    exact ⟨_, fun σ _ state actor => by simp only [Service.manage, Service.insertKey, hreason]; rfl⟩
  | updateKey =>
    obtain ⟨reason, hreason⟩ := hbody h
    exact ⟨_, fun σ _ state actor => by simp only [Service.manage, Service.updateKey, hreason]; rfl⟩
  | deleteKey =>
    obtain ⟨reason, hreason⟩ := hbody h
    exact ⟨_, fun σ _ state actor => by simp only [Service.manage, Service.deleteKey, hreason]; rfl⟩
  | health | login | logout | showMe => exact ⟨notAllowed, fun _ _ _ _ => rfl⟩

/-- **A request to the keys is one call.** -/
theorem answer_of_asked (h : s.asked? r m.now = some (c, call)) (state : σ) :
    s.answer state r m =
      ⟨finish r (some .keys) (respond (Registry.perform state call).1), (Registry.perform state call).2,
        changeLines c.subject call (Registry.perform state call).1 ++
          [.http c.subject c.id r.method r.path (respond (Registry.perform state call).1).status m.duration]⟩ := by
  obtain ⟨⟨action, c'⟩, hreached, hcall⟩ := Option.bind_eq_some_iff.1 h
  obtain ⟨call', hcall, he⟩ := Option.map_eq_some_iff.1 hcall
  cases he
  rw [answer_of_reached hreached, manage_of_call? hcall]

/-- **A request that is no login and asks for nothing leaves the registry alone.** -/
theorem state_of_unasked (h : s.asked? r m.now = none) (hlogin : r.action? ≠ some .login) (state : σ) :
    (s.answer state r m).state = state := by
  cases hreached : s.reached? r m.now with
  | none =>
    obtain ⟨response, events, hanswer⟩ := answer_of_apart hreached hlogin
    rw [hanswer]
  | some p =>
    rw [Service.asked?, hreached, Option.bind_some, Option.map_eq_none_iff] at h
    obtain ⟨response, hmanage⟩ := manage_of_not_call? h
    rw [answer_of_reached hreached, hmanage]
    rfl

/-! ## What a body says -/

/-- What a body says of a key. -/
structure KeyRequest.From (presence : Presence) (body : List UInt8) (k : KeyRequest) : Prop where
  identity : Gives (given? "identity" 0 body) .required Json.string "" k.identity
  publicKey : Gives (given? "publicKey" 1 body) .required Json.string "" k.publicKey
  level : Gives (given? "accessLevel" 2 body) presence (Json.natural .u32) 0 k.accessLevel

theorem read_of_body {ρ : Type} {shape : Json.Record ρ} {k : ρ} (h : s.body shape r = .ok k) :
    Json.Document.read shape r.body = .ok k := by
  unfold Service.body at h
  split at h
  · cases h
  split at h
  · cases h
  split at h
  · rename_i hread
    cases h
    exact hread
  · cases h

/-- The fields of a key. -/
def KeyRequest.fields (presence : Presence) : List (Json.Field KeyRequest) :=
  [KeyRequest.identityField, KeyRequest.publicKeyField, KeyRequest.levelField presence]

/-- A field changes nothing but its own. -/
theorem KeyRequest.put_fields {presence : Presence} {f : Json.Field KeyRequest} (hf : f ∈ KeyRequest.fields presence)
    {v : Json} {a b : KeyRequest} (h : f.put v a = .ok b) :
    (f.name ≠ "identity" → b.identity = a.identity) ∧ (f.name ≠ "publicKey" → b.publicKey = a.publicKey) ∧
      (f.name ≠ "accessLevel" → b.accessLevel = a.accessLevel) := by
  simp only [KeyRequest.fields, List.mem_cons, List.not_mem_nil, or_false] at hf
  rcases hf with rfl | rfl | rfl
  all_goals obtain ⟨x, -, rfl⟩ := Json.put_field_eq_ok h
  · exact ⟨fun hne => absurd rfl hne, fun _ => rfl, fun _ => rfl⟩
  · exact ⟨fun _ => rfl, fun hne => absurd rfl hne, fun _ => rfl⟩
  · exact ⟨fun _ => rfl, fun _ => rfl, fun hne => absurd rfl hne⟩

/-- **A key that is read is what its body says.** -/
theorem from_of_body {shape : Json.Record KeyRequest} {presence : Presence}
    (hfields : shape.fields = KeyRequest.fields presence) (hblank : shape.blank = ⟨"", "", 0⟩) {k : KeyRequest}
    (h : s.body shape r = .ok k) : k.From presence r.body := by
  obtain ⟨shapeName, blank, fields⟩ := shape
  dsimp only at hfields hblank
  subst hfields hblank
  have hscalars : Json.Document.TakesScalars ⟨shapeName, ⟨"", "", 0⟩, KeyRequest.fields presence⟩ := by
    intro f hf a b
    simp only [KeyRequest.fields, List.mem_cons, List.not_mem_nil, or_false] at hf
    rcases hf with rfl | rfl | rfl <;> exact ⟨fun h => (nomatch h), fun h => (nomatch h)⟩
  have hnodup : ((KeyRequest.fields presence).map Json.Field.name).Nodup := by
    simp [KeyRequest.fields, KeyRequest.identityField, KeyRequest.publicKeyField, KeyRequest.levelField, Json.field]
  have hidentity : Json.Record.Sees ⟨shapeName, ⟨"", "", 0⟩, KeyRequest.fields presence⟩ "identity" Json.string
      KeyRequest.identity :=
    Json.sees_field rfl (fun _ _ => rfl) fun _ hf hne _ _ _ h => (KeyRequest.put_fields hf h).1 hne
  have hkey : Json.Record.Sees ⟨shapeName, ⟨"", "", 0⟩, KeyRequest.fields presence⟩ "publicKey" Json.string
      KeyRequest.publicKey :=
    Json.sees_field rfl (fun _ _ => rfl) fun _ hf hne _ _ _ h => (KeyRequest.put_fields hf h).2.1 hne
  have hlevel : Json.Record.Sees ⟨shapeName, ⟨"", "", 0⟩, KeyRequest.fields presence⟩ "accessLevel" (Json.natural .u32)
      KeyRequest.accessLevel :=
    Json.sees_field rfl (fun _ _ => rfl) fun _ hf hne _ _ _ h => (KeyRequest.put_fields hf h).2.2 hne
  have hread := read_of_body h
  exact ⟨Json.Document.gives_of_read hscalars hidentity hnodup rfl rfl hread,
    Json.Document.gives_of_read hscalars hkey hnodup rfl rfl hread,
    Json.Document.gives_of_read hscalars hlevel hnodup rfl rfl hread⟩

/-- **An identity that is read to be taken away is what its body says.** -/
theorem from_of_deleteBody {k : DeleteRequest} (h : s.body DeleteRequest.shape r = .ok k) :
    Gives (given? "identity" 0 r.body) .required Json.string "" k.identity := by
  have hscalars : Json.Document.TakesScalars DeleteRequest.shape := by
    intro f hf a b
    simp only [DeleteRequest.shape, List.mem_cons, List.not_mem_nil, or_false] at hf
    subst hf
    exact ⟨fun h => (nomatch h), fun h => (nomatch h)⟩
  have hsees : DeleteRequest.shape.Sees "identity" Json.string DeleteRequest.identity := by
    refine Json.sees_field rfl (fun _ _ => rfl) fun f hf hne => ?_
    simp only [DeleteRequest.shape, List.mem_cons, List.not_mem_nil, or_false] at hf
    subst hf
    exact absurd rfl hne
  have hindex : DeleteRequest.shape.fields[0]? = DeleteRequest.shape.field? "identity" := rfl
  exact Json.Document.gives_of_read hscalars hsees (by simp [DeleteRequest.shape]) rfl hindex (read_of_body h)

end Http
end Gatehouse
