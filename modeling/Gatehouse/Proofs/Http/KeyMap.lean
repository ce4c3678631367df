import Gatehouse.Proofs.Http.Keys
import Gatehouse.Proofs.Http.Run
import Gatehouse.Proofs.Registry.Record
/-!
# The keys as a finite map

Over a registry in memory the requests to the keys read and write a finite map from identities to keys and levels.
`KeyMap.Serves` says what one request does to the map and what it is answered, `serves_of_asked` that it is so, and
`run_exchanges` carries it over a run of any requests.
-/
namespace Gatehouse

/-- A finite map from identities to keys and levels, as its look-ups. -/
abbrev KeyMap := String → Option (String × Nat)

/-- The map that a registry in memory holds. -/
def MemoryRegistry.keyMap (m : MemoryRegistry) : KeyMap := fun identity =>
  (m.get identity).map fun r => (r.publicKey, r.accessLevel)

namespace Http

open Json (Presence)
open Json.Document (Gives given?)
open Registry (Call)

/-- A request to the keys with the call that it makes and its response. -/
structure Exchange where
  request : Request
  call : Call
  response : Response

/-- The exchanges of a run, its other requests left out. -/
def Service.exchanges {σ : Type} [Registry σ] (s : Service) (start : σ) : List Arrival → List Exchange
  | [] => []
  | (r, m) :: rest =>
    ((s.asked? r m.now).toList.map fun p => ⟨r, p.2, (s.answer start r m).response⟩) ++
      s.exchanges (s.answer start r m).state rest

end Http

namespace KeyMap

open Http (Exchange)
open Registry (Call)

/-- An identity is a proper one, and its key is one of the family. -/
def Passes (family : KeyFamily) (identity publicKey : String) : Prop :=
  KeyRecord.IsIdentity identity ∧ ∃ text, Key.normalize family publicKey.toList = .ok text

/-- When a change is made. -/
def Admits (family : KeyFamily) (readOnly : Bool) (keys : KeyMap) : Call → Prop
  | .insert identity publicKey _ => readOnly = false ∧ Passes family identity publicKey ∧ keys identity = none
  | .update identity publicKey _ => readOnly = false ∧ Passes family identity publicKey ∧ keys identity ≠ none
  | .delete identity => readOnly = false ∧ keys identity ≠ none
  | _ => False

/-- The map with a key, in normal form, and a level for an identity. -/
def Put (family : KeyFamily) (identity publicKey : String) (level : Nat) (before after : KeyMap) : Prop :=
  ∃ text, Key.normalize family publicKey.toList = .ok text ∧
    ∀ other, after other = if identity = other then some (String.ofList text, level) else before other

/-- What a change makes of the map. -/
def Becomes (family : KeyFamily) (before : KeyMap) : Call → KeyMap → Prop
  | .insert identity publicKey level, after => Put family identity publicKey level before after
  | .update identity publicKey level, after => Put family identity publicKey level before after
  | .delete identity, after => ∀ other, after other = if identity = other then none else before other
  | _, _ => False

/-- A body that lists the map: each identity once, in order, with its key and its level. -/
def Listed (keys : KeyMap) (body : String) : Prop :=
  ∃ members, body = (Json.object [("keys", .object members)]).compact ∧ Assoc.Sorted members ∧
    ∀ identity, Assoc.get? identity members = (keys identity).map fun (publicKey, level) =>
      .object [("publicKey", .text publicKey), ("accessLevel", .int level)]

/-- **What an exchange does to the map, and how it is answered.** -/
structure Serves (family : KeyFamily) (readOnly : Bool) (before : KeyMap) (x : Exchange) (after : KeyMap) : Prop where
  granted : x.call ≠ .all → (x.response.status = 204 ↔ Admits family readOnly before x.call)
  refused : x.call ≠ .all → x.response.status ≠ 204 → x.response.status = if readOnly then 501 else 400
  changed : x.response.status = 204 → Becomes family before x.call after
  kept : x.response.status ≠ 204 → after = before
  listed : x.call = .all → x.response.status = 200 ∧ (x.request.method = "GET" → Listed before x.response.body)

/-- Exchanges one after another, from a map to a map. -/
inductive Run (family : KeyFamily) (readOnly : Bool) : KeyMap → List Exchange → KeyMap → Prop
  | done (keys : KeyMap) : Run family readOnly keys [] keys
  | step {before middle after : KeyMap} {x : Exchange} {rest : List Exchange}
      (hserves : Serves family readOnly before x middle) (hrest : Run family readOnly middle rest after) :
      Run family readOnly before (x :: rest) after

end KeyMap

namespace MemoryRegistry

open Registry (Call)
open KeyMap (Passes Admits Put Becomes)

variable {m next : MemoryRegistry} {identity publicKey : String} {level : Nat}

/-! ## The map of a registry -/

theorem contains_eq_false_iff : m.records.contains identity = false ↔ m.keyMap identity = none := by
  show (m.records.get? identity).isSome = false ↔ (m.records.get? identity).map _ = none
  rw [Option.map_eq_none_iff, Option.isSome_eq_false_iff, Option.isNone_iff_eq_none]

theorem contains_eq_true_iff : m.records.contains identity = true ↔ m.keyMap identity ≠ none := by
  rw [Ne, ← contains_eq_false_iff, Bool.not_eq_false]

theorem keyMap_ne_none_iff : m.keyMap identity ≠ none ↔ ∃ r, m.records.get? identity = some r := by
  rw [← contains_eq_true_iff]
  exact Option.isSome_iff_exists

theorem passes_iff {family : KeyFamily} :
    Passes family identity publicKey ↔ ∃ pem, KeyRecord.checkEntry family identity publicKey = .ok pem := by
  constructor
  · rintro ⟨hidentity, text, hnormal⟩
    exact ⟨String.ofList text, KeyRecord.checkEntry_eq_ok_iff.2 ⟨hidentity, text, hnormal, rfl⟩⟩
  · rintro ⟨pem, hentry⟩
    obtain ⟨hidentity, text, hnormal, -⟩ := KeyRecord.checkEntry_eq_ok_iff.1 hentry
    exact ⟨hidentity, text, hnormal⟩

/-- Whatever identity a record says, the map has its key and its level. -/
theorem put_of_insert {name pem : String} (hentry : KeyRecord.checkEntry m.family identity publicKey = .ok pem)
    (hnext : next = { m with records := m.records.insert identity ⟨name, pem, level⟩ }) :
    Put m.family identity publicKey level m.keyMap next.keyMap := by
  obtain ⟨-, text, hnormal, rfl⟩ := KeyRecord.checkEntry_eq_ok_iff.1 hentry
  refine ⟨text, hnormal, fun other => ?_⟩
  subst hnext
  show ((m.records.insert identity _).get? other).map _ = _
  rw [SortedMap.get?_insert]
  split
  · rfl
  · rfl

/-- The error of a change that is not made. -/
def Refuses (m : MemoryRegistry) (e : RegistryError) : Prop :=
  if m.readOnly then e = .notImplemented else ∃ reason, e = .invalidInput reason

/-- A read-only registry refuses at once; another one for the reason that its checks give. -/
theorem refuses_of_guard {result : Except RegistryError MemoryRegistry} {e : RegistryError}
    (h : (if m.readOnly then .error .notImplemented else result) = Except.error e)
    (hresult : result = .error e → ∃ reason, e = .invalidInput reason) : m.Refuses e := by
  unfold Refuses
  split at h
  · rename_i hreadOnly
    rw [if_pos hreadOnly]
    exact (Except.error.inj h).symm
  · rename_i hwritable
    rw [if_neg hwritable]
    exact hresult h

theorem refuses_insert {e : RegistryError} (h : m.insert identity publicKey level = .error e) : m.Refuses e := by
  refine refuses_of_guard h fun hresult => ?_
  split at hresult
  · rename_i hentry
    cases hresult
    exact KeyRecord.error_of_checkEntry hentry
  split at hresult
  · cases hresult
    exact ⟨_, rfl⟩
  · cases hresult

theorem refuses_update {e : RegistryError} (h : m.update identity publicKey level = .error e) : m.Refuses e := by
  refine refuses_of_guard h fun hresult => ?_
  split at hresult
  · rename_i hentry
    cases hresult
    exact KeyRecord.error_of_checkEntry hentry
  split at hresult
  · cases hresult
    exact ⟨_, rfl⟩
  · cases hresult

theorem refuses_delete {e : RegistryError} (h : m.delete identity = .error e) : m.Refuses e := by
  refine refuses_of_guard h fun hresult => ?_
  split at hresult
  · cases hresult
  · cases hresult
    exact ⟨_, rfl⟩

/-- How a change goes: it is made, which the map admitted, or it is refused and the map did not admit it. -/
inductive Changes (m : MemoryRegistry) (c : Call) (result : Except RegistryError MemoryRegistry) : Prop
  | made {next : MemoryRegistry} (hresult : result = .ok next) (hadmits : Admits m.family m.readOnly m.keyMap c)
      (hbecomes : Becomes m.family m.keyMap c next.keyMap)
  | refused {e : RegistryError} (hresult : result = .error e) (hadmits : ¬ Admits m.family m.readOnly m.keyMap c)
      (hrefuses : m.Refuses e)

theorem changes_insert (m : MemoryRegistry) (identity publicKey : String) (level : Nat) :
    m.Changes (.insert identity publicKey level) (m.insert identity publicKey level) := by
  cases hresult : m.insert identity publicKey level with
  | ok next =>
    obtain ⟨hwritable, hnew, pem, hentry, hnext⟩ := insert_ok hresult
    exact .made rfl ⟨hwritable, passes_iff.2 ⟨pem, hentry⟩, contains_eq_false_iff.1 hnew⟩ (put_of_insert hentry hnext)
  | error e =>
    refine .refused rfl ?_ (refuses_insert hresult)
    rintro ⟨hwritable, hpasses, hnew⟩
    obtain ⟨pem, hentry⟩ := passes_iff.1 hpasses
    rw [insert_of_checkEntry hwritable hentry (contains_eq_false_iff.2 hnew)] at hresult
    cases hresult

theorem changes_update (m : MemoryRegistry) (identity publicKey : String) (level : Nat) :
    m.Changes (.update identity publicKey level) (m.update identity publicKey level) := by
  cases hresult : m.update identity publicKey level with
  | ok next =>
    obtain ⟨hwritable, r, pem, hfound, hentry, hnext⟩ := update_ok hresult
    exact .made rfl ⟨hwritable, passes_iff.2 ⟨pem, hentry⟩, keyMap_ne_none_iff.2 ⟨r, hfound⟩⟩ (put_of_insert hentry hnext)
  | error e =>
    refine .refused rfl ?_ (refuses_update hresult)
    rintro ⟨hwritable, hpasses, hknown⟩
    obtain ⟨pem, hentry⟩ := passes_iff.1 hpasses
    obtain ⟨r, hfound⟩ := keyMap_ne_none_iff.1 hknown
    rw [update_of_checkEntry hwritable hentry hfound] at hresult
    cases hresult

theorem changes_delete (m : MemoryRegistry) (identity : String) : m.Changes (.delete identity) (m.delete identity) := by
  cases hresult : m.delete identity with
  | ok next =>
    obtain ⟨hwritable, hknown, rfl⟩ := delete_ok hresult
    refine .made rfl ⟨hwritable, contains_eq_true_iff.1 hknown⟩ fun other => ?_
    show ((m.records.erase identity).get? other).map _ = _
    rw [SortedMap.get?_erase]
    split
    · rfl
    · rfl
  | error e =>
    refine .refused rfl ?_ (refuses_delete hresult)
    rintro ⟨hwritable, hknown⟩
    rw [delete_of_contains hwritable (contains_eq_true_iff.2 hknown)] at hresult
    cases hresult

end MemoryRegistry

namespace Http

open Json (Presence)
open Json.Document (Gives given?)
open Registry (Call)
open KeyMap (Serves Listed)

variable {s : Service} {r : Request} {moment : Moment} {c : Session.Claims} {call : Call}

/-! ## One exchange -/

theorem serves_of_changes {m : MemoryRegistry} {result : Except RegistryError MemoryRegistry}
    (hchange : (change? call).isSome = true) (hchanges : m.Changes call result) (route : Option Route) :
    Serves m.family m.readOnly m.keyMap ⟨r, call, finish r route (changeResponse (m.change result).1.inTime)⟩
      (m.change result).2.keyMap := by
  have hcall : call ≠ .all := by
    rintro rfl
    cases hchange
  cases hchanges with
  | made hresult hadmits hbecomes =>
    subst hresult
    exact ⟨fun _ => iff_of_true rfl hadmits, fun _ hother => absurd rfl hother, fun _ => hbecomes,
      fun hother => absurd rfl hother, fun hall => absurd hall hcall⟩
  | @refused e hresult hadmits hrefuses =>
    subst hresult
    have hstatus : (finish r route (changeResponse (.error e))).status = if m.readOnly then 501 else 400 := by
      unfold MemoryRegistry.Refuses at hrefuses
      split at hrefuses
      · rename_i hreadOnly
        rw [hrefuses, hreadOnly]
        rfl
      · rename_i hwritable
        obtain ⟨reason, rfl⟩ := hrefuses
        rw [Bool.not_eq_true] at hwritable
        rw [hwritable]
        rfl
    have hne : (finish r route (changeResponse (.error e))).status ≠ 204 := by
      rw [hstatus]
      split <;> decide
    exact ⟨fun _ => iff_of_false hne hadmits, fun _ _ => hstatus, fun hmade => absurd hmade hne, fun _ => rfl,
      fun hall => absurd hall hcall⟩

theorem listed_keysJson (m : MemoryRegistry) : Listed m.keyMap (keysJson m.records).compact := by
  refine ⟨Assoc.mapValues (fun r : KeyRecord => Json.object [("publicKey", .text r.publicKey), ("accessLevel", .int r.accessLevel)])
    m.records.entries, rfl, Assoc.sorted_mapValues _ m.records.sorted, fun identity => ?_⟩
  rw [Assoc.get?_mapValues]
  show _ = ((m.records.get? identity).map _).map _
  rw [Option.map_map]
  rfl

/-- **A request to the keys reads and writes the map.** -/
theorem serves_of_asked (m : MemoryRegistry) (h : s.asked? r moment.now = some (c, call)) :
    Serves m.family m.readOnly m.keyMap ⟨r, call, (s.answer m r moment).response⟩ (s.answer m r moment).state.keyMap := by
  rw [answer_of_asked h]
  obtain ⟨-, -, -, hasks⟩ := asked?_eq_some_iff.1 h
  cases hasks with
  | list hmethod =>
    refine ⟨fun hne => absurd rfl hne, fun hne => absurd rfl hne, fun hstatus => absurd hstatus (by decide : 200 ≠ 204),
      fun _ => rfl, fun _ => ⟨rfl, fun hget => ?_⟩⟩
    -- A HEAD asks for the listing too, and gets it without its body.
    have hhead : r.method ≠ "HEAD" := by
      intro hhead
      exact absurd (hget.symm.trans hhead) (by decide)
    show Listed m.keyMap (if r.method = "HEAD" then "" else _)
    rw [if_neg hhead]
    exact listed_keysJson m
  | @insert _ k hbody => exact serves_of_changes rfl (m.changes_insert k.identity k.publicKey k.accessLevel) (some .keys)
  | @update _ k hbody => exact serves_of_changes rfl (m.changes_update k.identity k.publicKey k.accessLevel) (some .keys)
  | @delete _ k hbody => exact serves_of_changes rfl (m.changes_delete k.identity) (some .keys)

/-! ## Runs -/

theorem sameKind_answer (s : Service) (m : MemoryRegistry) (r : Request) (moment : Moment) :
    m.SameKind (s.answer m r moment).state := by
  rcases touched_answer (s := s) (r := r) (m := moment) m with hsame | ⟨call, -, hcall⟩
  · rw [hsame]
    exact ⟨rfl, rfl⟩
  · rw [hcall]
    exact MemoryRegistry.sameKind_perform m call

/-- A request that asks for nothing of the keys, a login among them, changes nothing. -/
theorem answer_keeps (h : s.asked? r moment.now = none) (m : MemoryRegistry) : (s.answer m r moment).state = m := by
  by_cases hlogin : r.action? = some .login
  · rw [answer_of_login hlogin]
    rcases lookedUp_login (s := s) (r := r) (m := moment) m with hsame | ⟨identity, hget⟩
    · exact hsame
    · exact hget
  · exact state_of_unasked h hlogin m

/-- **The keys are a finite map.**  Who asks for what of the keys is listed, and what it is made of is what the body
says, level 0 where a new key comes without one.  In any run of any requests over a registry in memory, those to the
keys are answered from a finite map and change it as they are told. -/
theorem run_exchanges (s : Service) :
    (∀ r now c call, s.asked? r now = some (c, call) ↔
      r.path = "/api/keys" ∧ s.session r now = .ok c ∧
        (∃ level, c.user.bind Session.User.accessLevel = some level ∧ s.guard.settings.adminLevel ≤ level) ∧
        s.Asks r call) ∧
      (∀ r k, s.body KeyRequest.insertShape r = .ok k → k.From .defaulted r.body) ∧
      (∀ r k, s.body KeyRequest.updateShape r = .ok k → k.From .required r.body) ∧
      (∀ r k, s.body DeleteRequest.shape r = .ok k →
        Gives (given? "identity" 0 r.body) .required Json.string "" k.identity) ∧
      ∀ (start : MemoryRegistry) (arrivals : List Arrival),
        KeyMap.Run start.family start.readOnly start.keyMap (s.exchanges start arrivals)
          (s.stateAfter start arrivals).keyMap := by
  refine ⟨fun r now c call => asked?_eq_some_iff, fun r k h => from_of_body rfl rfl h, fun r k h => from_of_body rfl rfl h,
    fun r k h => from_of_deleteBody h, fun start arrivals => ?_⟩
  induction arrivals generalizing start with
  | nil => exact .done _
  | cons arrival rest ih =>
    obtain ⟨r, m⟩ := arrival
    -- The rest of the run starts from another registry, of the same family and mode.
    obtain ⟨hfamily, hreadOnly⟩ := sameKind_answer s start r m
    have hrest := ih (s.answer start r m).state
    rw [hfamily, hreadOnly] at hrest
    unfold Service.exchanges Service.stateAfter
    cases hasked : s.asked? r m.now with
    | some p => exact .step (serves_of_asked start hasked) hrest
    | none =>
      rw [answer_keeps hasked] at hrest ⊢
      exact hrest

/-- A new key without a level, and one with level 3 that comes as an array. -/
example :
    given? "accessLevel" 2 (Text.utf8 "\x7b\"identity\":\"a\",\"publicKey\":\"k\"\x7d") = none ∧
      (given? "accessLevel" 2 (Text.utf8 "[\"a\",\"k\", 3]")).isSome = true := by
  decide +kernel

/-- `root` takes its own key away. -/
def rootRemoval : Arrival :=
  (⟨"DELETE", "/api/keys",
    [("authorization", String.ofList ("Bearer ".toList ++ rootToken)), ("content-type", "application/json")],
    Text.bytes (Json.chars (.object [("identity", .text "root")]))⟩, ⟨60, "b", 1⟩)

theorem session_rootRemoval : rootService.session rootRemoval.1 60 = .ok rootClaims := by
  obtain ⟨token, htoken, hcheck⟩ := session_eq_ok_iff.1 session_root
  have hsame : token = rootToken := Except.ok.inj (htoken.symm.trans token_root)
  refine session_eq_ok_iff.2 ⟨rootToken, ?_, hsame ▸ hcheck⟩
  unfold rootRemoval
  exact token_of_rootHeader

theorem body_rootRemoval : rootService.body DeleteRequest.shape rootRemoval.1 = .ok ⟨"root"⟩ := by
  have hjson : rootRemoval.1.isJson = true := by decide
  have hlimit : ¬ rootService.bodyLimit < rootRemoval.1.body.length := by decide +kernel
  have hread : Json.Document.read DeleteRequest.shape rootRemoval.1.body = .ok ⟨"root"⟩ :=
    Json.Document.read_single rfl rfl rfl
  unfold Service.body
  rw [hjson, if_neg (by decide), if_neg hlimit, hread]

theorem asked?_rootRemoval : rootService.asked? rootRemoval.1 60 = some (rootClaims, .delete "root") :=
  asked?_eq_some_iff.2 ⟨by decide, session_rootRemoval, ⟨9, rfl, Nat.le_refl 9⟩, .delete rfl body_rootRemoval⟩

/-- **A key that is taken away is gone.** -/
theorem run_of_removal :
    ∃ k x, rootService.body DeleteRequest.shape rootRemoval.1 = .ok k ∧
      Gives (given? "identity" 0 rootRemoval.1.body) .required Json.string "" k.identity ∧
      rootService.asked? rootRemoval.1 60 = some (rootClaims, .delete "root") ∧
      rootService.exchanges rootRegistry [rootRemoval] = [x] ∧ x.response.status = 204 ∧
        (rootService.stateAfter rootRegistry [rootRemoval]).keyMap "root" = none := by
  have hexchanges : rootService.exchanges rootRegistry [rootRemoval] =
      [⟨rootRemoval.1, .delete "root", (rootService.answer rootRegistry rootRemoval.1 rootRemoval.2).response⟩] := by
    unfold Service.exchanges
    rw [show rootRemoval.2.now = 60 from rfl, asked?_rootRemoval]
    rfl
  obtain ⟨-, -, -, hdelete, hruns⟩ := run_exchanges rootService
  have hgives := hdelete rootRemoval.1 _ body_rootRemoval
  have hrun := hruns rootRegistry [rootRemoval]
  rw [hexchanges] at hrun
  refine ⟨_, _, body_rootRemoval, hgives, asked?_rootRemoval, hexchanges, ?_⟩
  cases hrun with
  | step hserves hrest =>
    cases hrest
    have hstatus := (hserves.granted nofun).2 ⟨rfl, by decide⟩
    exact ⟨hstatus, hserves.changed hstatus "root"⟩

end Http
end Gatehouse
