import Gatehouse.CommandLine.Run
import Gatehouse.Proofs.Http.Keys
import Gatehouse.Proofs.Http.Refusals
import Gatehouse.Proofs.Http.Run
import Gatehouse.Proofs.Startup
/-!
# The limit of bodies — which settings give the size that they name

The limit is a checked product, so there is a service for settings below 2^54 units and for no other
(`create_eq_ok_iff`), and a body is refused for its size exactly when it is longer than the limit
(`body_eq_tooLong_iff`).  `limit_of_setting` puts the two together, for a service and for the server that is started:
it listens with that limit, or it crashes (`prepare_of_created`, `prepare_of_overflow`).
-/
namespace Gatehouse

namespace Json

/-- Whatever its notation, a number that is read as 64 bits is in their range. -/
theorem lt_of_asNatural_usize {v : Json} {n : Nat} (h : Scalars.asNatural .usize v = .ok n) : n < 2 ^ 64 := by
  have hrange {k : Nat}
      (h : (if IntRange.usize.holds k then Except.ok k else .error (Mismatch.range k IntRange.usize.name)) = .ok n) :
      n < 2 ^ 64 := by
    split at h
    · rename_i hholds
      have hle : (k : Int) ≤ 2 ^ 64 - 1 := of_decide_eq_true (Bool.and_eq_true_iff.1 hholds).2
      cases h
      omega
    · cases h
  have hflag {b : Bool} (h : (.ok (if b then 1 else 0) : Except Mismatch Nat) = .ok n) : n < 2 ^ 64 := by
    cases b <;> cases h <;> decide
  unfold Scalars.asNatural at h
  split at h
  · split at h
    · cases h
    · exact hrange h
  · exact hrange h
  · exact hflag h
  · split at h
    · exact hflag h
    · split at h
      · exact hrange h
      · cases h
  · cases h

end Json

theorem ServerSettings.maxBody_lt {v : Json} {s : ServerSettings} (h : (shape .lenient).decode v = .ok s) :
    s.maxBody < 2 ^ 64 := by
  refine Json.Document.decode_keeps (P := fun s => s.maxBody < 2 ^ 64) ?_ (by decide) h
  intro f hf v a b ha hput
  simp only [shape, List.mem_cons, List.not_mem_nil, or_false] at hf
  rcases hf with rfl | rfl | rfl
  all_goals obtain ⟨x, hx, rfl⟩ := Json.put_field_eq_ok hput
  · exact ha
  · exact ha
  · exact Json.lt_of_asNatural_usize hx

/-- The setting of the limit has 64 bits, wherever it comes from. -/
theorem Settings.maxBody_lt {h : Host} {path : String} {s : Settings} (hload : Settings.load h path = .ok s) :
    s.server.maxBody < 2 ^ 64 := by
  unfold Settings.load at hload
  split at hload
  · cases hload
  split at hload
  · rename_i hdecode
    cases hload
    refine Json.Document.decode_keeps (P := fun s => s.server.maxBody < 2 ^ 64) ?_ (by decide) hdecode
    intro f hf v a b ha hput
    simp only [shape, List.mem_cons, List.not_mem_nil, or_false] at hf
    rcases hf with rfl | rfl | rfl | rfl | rfl
    all_goals obtain ⟨x, hx, rfl⟩ := Json.put_field_eq_ok hput
    case inr.inl => exact ServerSettings.maxBody_lt hx
    all_goals exact ha
  · cases hload

namespace Http

variable {σ : Type} [Registry σ] {state : σ} {s : Service} {r : Request} {m : Moment} {ρ : Type}

/-! ## The limit -/

theorem bodyLimit_lt_iff {kilobytes : Nat} : bodyLimit kilobytes < 2 ^ 64 ↔ kilobytes < 2 ^ 54 := by
  unfold bodyLimit
  omega

theorem bodyLimit_mono {k l : Nat} (h : k ≤ l) : bodyLimit k ≤ bodyLimit l := by
  unfold bodyLimit
  omega

/-- **Which settings give a service**, with the size that they name. -/
theorem create_eq_ok_iff {g : Guard} {kilobytes : Nat} :
    Service.create g kilobytes = .ok s ↔ kilobytes < 2 ^ 54 ∧ s = ⟨g, bodyLimit kilobytes⟩ := by
  unfold Service.create
  split
  · rename_i hfits
    rw [Except.ok.injEq, eq_comm, and_iff_right (bodyLimit_lt_iff.1 hfits)]
  · rename_i hover
    exact iff_of_false (by rintro ⟨⟩) fun h => hover (bodyLimit_lt_iff.2 h.1)

theorem create_eq_overflow_iff {g : Guard} {kilobytes : Nat} :
    Service.create g kilobytes = .error .overflow ↔ 2 ^ 54 ≤ kilobytes := by
  unfold Service.create
  split
  · rename_i hfits
    exact iff_of_false (by rintro ⟨⟩) (Nat.not_le.2 (bodyLimit_lt_iff.1 hfits))
  · rename_i hover
    exact iff_of_true rfl (Nat.not_lt.1 fun h => hover (bodyLimit_lt_iff.2 h))

/-! ## Bodies over the limit -/

/-- Nothing that is wrong with a body's JSON is told like its size. -/
theorem message_ne_tooLong (fault : Json.Document.Fault) : fault.message ≠ tooLong := by
  -- the texts part before the path of a fault
  have hstart : fault.message.toList.take 12 ≠ tooLong.toList.take 12 := by
    cases fault with
    | malformed => decide +kernel
    | mismatch path mismatch =>
      have hlong : 12 ≤ "Failed to deserialize the JSON body into the target type: ".toList.length := by
        decide +kernel
      unfold Json.Document.Fault.message
      dsimp only
      rw [String.append_assoc, String.toList_append, List.take_append_of_le_length hlong]
      decide +kernel
  exact fun h => hstart (by rw [h])

/-- **A body is refused for its size exactly when it is longer than the limit**, if it is said to be JSON at all. -/
theorem body_eq_tooLong_iff {shape : Json.Record ρ} :
    s.body shape r = .error tooLong ↔ r.isJson = true ∧ s.bodyLimit < r.body.length := by
  unfold Service.body
  split
  · rename_i hjson
    rw [Bool.not_eq_true'] at hjson
    simp [hjson, noJson, tooLong]
  rename_i hjson
  rw [Bool.not_eq_true', Bool.not_eq_false] at hjson
  split
  · rename_i hlong
    simp [hjson, hlong]
  · rename_i hfits
    refine iff_of_false ?_ fun h => hfits h.2
    split
    · nofun
    · exact fun h => message_ne_tooLong _ (Except.error.inj h)

/-- A login with a body that is too long is told so, and nothing happens. -/
theorem answer_of_longLogin (ha : r.action? = some .login) (hlong : r.isJson = true ∧ s.bodyLimit < r.body.length) :
    s.answer state r m = ⟨refused 400 "invalid_request" ("invalid request: " ++ tooLong), state, []⟩ := by
  rw [answer_of_login ha, Service.login, body_eq_tooLong_iff.2 hlong]
  dsimp only
  rw [Refusal.response]
  · rw [finish_refusal ha]
    rfl
  · intro path he
    cases he

/-- A change of the keys with a body that is too long is told so, and nothing happens. -/
theorem answer_of_longChange {action : Action} {c : Session.Claims} (h : s.reached? r m.now = some (action, c))
    (hchange : action ≠ .listKeys) (hlong : r.isJson = true ∧ s.bodyLimit < r.body.length) :
    s.answer state r m =
      ⟨refused 400 "bad_request" tooLong, state, [.http c.subject c.id r.method r.path 400 m.duration]⟩ := by
  obtain ⟨-, -, -, ha⟩ := reached?_eq_some_iff.1 h
  have hbody {ρ : Type} (shape : Json.Record ρ) : s.body shape r = .error tooLong := body_eq_tooLong_iff.2 hlong
  have hmanage : s.manage state c.subject (some action) r = badBody state tooLong := by
    rcases (action?_keys _ _).1 ha with ⟨-, rfl⟩ | ⟨-, rfl⟩ | ⟨-, rfl⟩ | ⟨-, rfl⟩
    · exact absurd rfl hchange
    · simp only [Service.manage, Service.insertKey, hbody]
    · simp only [Service.manage, Service.updateKey, hbody]
    · simp only [Service.manage, Service.deleteKey, hbody]
  have hhead : r.method ≠ "HEAD" := by
    intro hhead
    rw [hhead] at ha
    exact hchange (Option.some.inj ha).symm
  rw [answer_of_reached h, hmanage, badBody, finish_of_handled (by rw [ha]; rfl) hhead]
  rfl

/-- **A body that fits under two limits is handled the same under both.** -/
theorem answer_of_fits {g : Guard} {k l : Nat} (hk : r.body.length ≤ k) (hl : r.body.length ≤ l) :
    (⟨g, k⟩ : Service).answer state r m = (⟨g, l⟩ : Service).answer state r m := by
  have hbody {ρ : Type} (shape : Json.Record ρ) : (⟨g, k⟩ : Service).body shape r = (⟨g, l⟩ : Service).body shape r := by
    unfold Service.body
    rw [if_neg (Nat.not_lt.2 hk), if_neg (Nat.not_lt.2 hl)]
  unfold Service.answer Service.onRoute Service.login Service.protected Service.withSession Service.manage
    Service.insertKey Service.updateKey Service.deleteKey
  simp only [hbody]
  rfl

/-! ## The limit of a setting -/

/-- A service refuses bodies over a size, and no other for their size. -/
structure ReadsUpTo (s : Service) (size : Nat) : Prop where
  body : ∀ {ρ : Type} (shape : Json.Record ρ) (r : Request),
    s.body shape r = .error tooLong ↔ r.isJson = true ∧ size < r.body.length
  login : ∀ {σ : Type} [Registry σ] (state : σ) (r : Request) (m : Moment), r.action? = some .login → r.isJson = true →
    size < r.body.length → s.answer state r m = ⟨refused 400 "invalid_request" ("invalid request: " ++ tooLong), state, []⟩
  change : ∀ {σ : Type} [Registry σ] (state : σ) (r : Request) (m : Moment) (action : Action) (c : Session.Claims),
    s.reached? r m.now = some (action, c) → action ≠ .listKeys → r.isJson = true → size < r.body.length →
      s.answer state r m =
        ⟨refused 400 "bad_request" tooLong, state, [.http c.subject c.id r.method r.path 400 m.duration]⟩
  /-- Up to the size the limit has no part in what happens. -/
  fits : ∀ {σ : Type} [Registry σ] (state : σ) (r : Request) (m : Moment) (limit : Nat), r.body.length ≤ size →
    r.body.length ≤ limit → s.answer state r m = (⟨s.guard, limit⟩ : Service).answer state r m

theorem readsUpTo_bodyLimit (s : Service) : ReadsUpTo s s.bodyLimit where
  body _ _ := body_eq_tooLong_iff
  login _ _ _ ha hjson hlong := answer_of_longLogin ha ⟨hjson, hlong⟩
  change _ _ _ _ _ h hchange hjson hlong := answer_of_longChange h hchange ⟨hjson, hlong⟩
  fits _ _ _ _ hs hlimit := answer_of_fits hs hlimit

/-! ## The limit of the server that is started -/

section

variable {h audited after : Host} {settings : Settings} {host : Option String} {port : Option Nat} {store : Store}

/-- **A server that listens has the limit of its setting.** -/
theorem create_of_listening {address : Address}
    (hserve : CommandLine.prepare h settings host port = (.listening s store address, after)) :
    ∃ g, Service.create g settings.server.maxBody = .ok s := by
  unfold CommandLine.prepare at hserve
  split at hserve
  · cases hserve
  split at hserve
  · cases hserve
  split at hserve
  · cases hserve
  rename_i service hservice
  dsimp only at hserve
  split at hserve
  · cases hserve
  · cases hserve
    exact ⟨_, hservice⟩

/-- **Where the setting gives no service, the server crashes**, once its guard has started and its audit log is open. -/
theorem prepare_of_overflow {g : Guard}
    (hstart : Guard.start h settings.auth settings.registry Backends.standard = .ok (g, store))
    (haudit : CommandLine.openAudit h settings.audit = .ok audited) (hlarge : 2 ^ 54 ≤ settings.server.maxBody) :
    CommandLine.prepare h settings host port = (.crashed .overflow, audited) := by
  unfold CommandLine.prepare
  rw [hstart]
  dsimp only
  rw [haudit]
  dsimp only
  rw [create_eq_overflow_iff.2 hlarge]

theorem prepare_of_created {g : Guard} {address : Address}
    (hstart : Guard.start h settings.auth settings.registry Backends.standard = .ok (g, store))
    (haudit : CommandLine.openAudit h settings.audit = .ok audited)
    (hcreate : Service.create g settings.server.maxBody = .ok s)
    (haddress : Address.read? (host.getD settings.server.host ++ ":" ++ toString (port.getD settings.server.port)) =
      some address) :
    CommandLine.prepare h settings host port = (.listening s store address, audited) := by
  unfold CommandLine.prepare
  rw [hstart]
  dsimp only
  rw [haudit]
  dsimp only
  rw [hcreate]
  dsimp only
  rw [haddress]

end

/-- **What the setting of the limit comes to.**  Settings below 2^54 units, and no others, give a service, and its limit
is the size that they name: 1024 bytes at least, no smaller than that of a smaller setting, and bodies are refused for
their size exactly above it.  A setting that is loaded has 64 bits.  If the server listens, the setting is one of those,
and the limit is its own; and from 2^54 units on the server crashes, its guard and its audit log being fine. -/
theorem limit_of_setting (kilobytes : Nat) :
    (∀ (g : Guard) (s : Service), Service.create g kilobytes = .ok s ↔
        kilobytes < 2 ^ 54 ∧ s = ⟨g, max kilobytes 1 * 1024⟩) ∧
      (∀ g : Guard, Service.create g kilobytes = .error .overflow ↔ 2 ^ 54 ≤ kilobytes) ∧
      (∀ (g : Guard) (s : Service), Service.create g kilobytes = .ok s →
        1024 ≤ s.bodyLimit ∧ ReadsUpTo s (max kilobytes 1 * 1024) ∧
          ∀ smaller ≤ kilobytes, ∃ s', Service.create g smaller = .ok s' ∧ s'.bodyLimit ≤ s.bodyLimit) ∧
      ∀ (h : Host) (settings : Settings), settings.server.maxBody = kilobytes →
        (∀ path : String, Settings.load h path = .ok settings → kilobytes < 2 ^ 64) ∧
          ∀ (host : Option String) (port : Option Nat),
            (∀ (s : Service) (store : Store) (address : Address) (after : Host),
              CommandLine.prepare h settings host port = (.listening s store address, after) →
                kilobytes < 2 ^ 54 ∧ s.bodyLimit = max kilobytes 1 * 1024) ∧
            (2 ^ 54 ≤ kilobytes → ∀ (g : Guard) (store : Store) (audited : Host),
              Guard.start h settings.auth settings.registry Backends.standard = .ok (g, store) →
              CommandLine.openAudit h settings.audit = .ok audited →
                CommandLine.prepare h settings host port = (.crashed .overflow, audited)) := by
  refine ⟨fun _ _ => create_eq_ok_iff, fun _ => create_eq_overflow_iff, fun g s hs => ?_, ?_⟩
  · obtain ⟨hsmall, rfl⟩ := create_eq_ok_iff.1 hs
    refine ⟨bodyLimit_mono (Nat.zero_le kilobytes), readsUpTo_bodyLimit _, fun smaller hle => ?_⟩
    exact ⟨_, create_eq_ok_iff.2 ⟨Nat.lt_of_le_of_lt hle hsmall, rfl⟩, bodyLimit_mono hle⟩
  · rintro h settings rfl
    refine ⟨fun path hload => Settings.maxBody_lt hload, fun host port => ⟨fun s store address after hserve => ?_, ?_⟩⟩
    · obtain ⟨g, hcreate⟩ := create_of_listening hserve
      obtain ⟨hsmall, hs⟩ := create_eq_ok_iff.1 hcreate
      exact ⟨hsmall, congrArg Service.bodyLimit hs⟩
    · exact fun hlarge g store audited hstart haudit => prepare_of_overflow hstart haudit hlarge

/-- A login that brings an empty object after blanks. -/
def blankLogin (blanks : Nat) : Request :=
  ⟨"POST", "/auth/login", [("content-type", "application/json")], List.replicate blanks 0x20 ++ [0x7B, 0x7D]⟩

theorem length_blankLogin (blanks : Nat) : (blankLogin blanks).body.length = blanks + 2 := by
  rw [blankLogin, List.length_append, List.length_replicate, List.length_cons, List.length_singleton]

/-- A host with one variable, the setting of the limit. -/
def limitedHost (setting : String) : Host :=
  ⟨SortedMap.empty.insert "ADSISTO__SERVER__MAX_BODY_KB" setting, Disk.empty, "/"⟩

/-- Settings with a pair of keys, with which a guard starts on any host. -/
def limitedSettings (kilobytes : Nat) : Settings :=
  { Settings.defaults with
    server := { ServerSettings.defaults with maxBody := kilobytes }
    auth := Guard.pairedSettings
    registry := Guard.annSettings }

/-- One unit takes bodies of 1024 bytes, and no longer one; it is loaded, and a server listens with it. -/
theorem limit_of_one :
    (∃ s, Service.create rootService.guard 1 = .ok s ∧
      s.answer rootRegistry (blankLogin 1023) ⟨0, "a", 1⟩ =
          ⟨refused 400 "invalid_request" ("invalid request: " ++ tooLong), rootRegistry, []⟩ ∧
        s.answer rootRegistry (blankLogin 1022) ⟨0, "a", 1⟩ =
          (⟨rootService.guard, 2048⟩ : Service).answer rootRegistry (blankLogin 1022) ⟨0, "a", 1⟩) ∧
      (∃ settings, Settings.load (limitedHost "1") "config.toml" = .ok settings ∧ settings.server.maxBody = 1 ∧
        1 < 2 ^ 64) ∧
      ∃ s store address, CommandLine.prepare (limitedHost "1") (limitedSettings 1) none none =
        (.listening s store address, limitedHost "1") ∧ s.bodyLimit = 1024 := by
  obtain ⟨hcreate, -, hreads, hserver⟩ := limit_of_setting 1
  refine ⟨?_, ?_, ?_⟩
  · have hone := (hcreate rootService.guard _).2 ⟨by decide, rfl⟩
    obtain ⟨-, hreads, -⟩ := hreads _ _ hone
    have hlong : max 1 1 * 1024 < (blankLogin 1023).body.length := by
      rw [length_blankLogin]
      decide
    have hfits : ∀ limit, 1024 ≤ limit → (blankLogin 1022).body.length ≤ limit := by
      intro limit hlimit
      rwa [length_blankLogin]
    exact ⟨_, hone, hreads.login _ _ _ (action_of_post rfl rfl) (by decide) hlong,
      hreads.fits _ _ _ 2048 (hfits _ (by decide)) (hfits _ (by decide))⟩
  · have hread : (Settings.load (limitedHost "1") "config.toml").toOption.map (fun s => s.server.maxBody) = some 1 := by
      decide +kernel
    obtain ⟨settings, hsome, hone⟩ := Option.map_eq_some_iff.1 hread
    have hload := toOption_eq_some_iff.1 hsome
    exact ⟨settings, hload, hone, (hserver _ settings hone).1 _ hload⟩
  · obtain ⟨address, haddress⟩ : ∃ address, Address.read? "0.0.0.0:8080" = some address :=
      Option.isSome_iff_exists.1 (by decide +kernel)
    have hlisten : CommandLine.prepare (limitedHost "1") (limitedSettings 1) none none =
        (.listening ⟨⟨Guard.pairedSettings, KeyPair.broken⟩, 1024⟩ (.memory Guard.annRegistry) address, limitedHost "1") :=
      prepare_of_created (Guard.starts_pairedSettings _).start_eq rfl
        ((hcreate _ _).2 ⟨by decide, rfl⟩) haddress
    exact ⟨_, _, _, hlisten, (((hserver _ (limitedSettings 1) rfl).2 none none).1 _ _ _ _ hlisten).2⟩

/-- **2^54 units give no service at all**, whatever the guard, though a variable can set them; a server with keys and a
registry that are fine crashes on every host.  With the size that the setting names the service would read a body of
two bytes and miss the token in it. -/
theorem limit_of_crashed :
    (Settings.load (limitedHost "18014398509481984") "config.toml").toOption.map (fun s => s.server.maxBody) =
        some (2 ^ 54) ∧
      (∀ g : Guard, Service.create g (2 ^ 54) = .error .overflow) ∧
      (∀ h : Host, CommandLine.prepare h (limitedSettings (2 ^ 54)) none none = (.crashed .overflow, h)) ∧
      ((⟨rootService.guard, max (2 ^ 54) 1 * 1024⟩ : Service).answer rootRegistry (blankLogin 0) ⟨0, "a", 1⟩).response =
        refused 400 "invalid_request"
          "invalid request: Failed to deserialize the JSON body into the target type: missing field `token`" := by
  refine ⟨by decide +kernel, fun g => create_eq_overflow_iff.2 (Nat.le_refl _), fun h => ?_, by decide +kernel⟩
  exact prepare_of_overflow (Guard.starts_pairedSettings h).start_eq rfl (Nat.le_refl _)

end Http
end Gatehouse
