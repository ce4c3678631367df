import Gatehouse.Proofs.Assertion.Decision
import Gatehouse.Proofs.Json.Shape
import Gatehouse.Proofs.Registry.Memory
import Gatehouse.Proofs.Registry.Record
import Gatehouse.Proofs.Token
/-!
# Histories — rotation and revocation take effect at once

What a registry in memory has for an identity is what the last change that was done left there, or the last of the
records that it started with (`has_after`).  `checkIn_after`: at every point of a run assertions are checked against
that.
-/
namespace Gatehouse
namespace Registry

/-- What a call that is done leaves under an identity: a key and a level, or no record.  Nothing, if it is no change to
that identity. -/
def Call.leaves? (identity : String) : Call → Option (Option (String × Nat))
  | .insert i publicKey level => if i = identity then some (some (publicKey, level)) else none
  | .update i publicKey level => if i = identity then some (some (publicKey, level)) else none
  | .delete i => if i = identity then some none else none
  | _ => none

/-- What the calls that were done have left under an identity, one after another. -/
def changes (identity : String) : List Call → List Answer → List (Option (String × Nat))
  | c :: calls, a :: answers =>
    (if a.isDone then (c.leaves? identity).toList else []) ++ changes identity calls answers
  | _, _ => []

/-- What one call does to what an identity has. -/
inductive Step (family : KeyFamily) (identity : String) (c : Call) (a : Answer) (found after : Option KeyRecord) : Prop
  | kept (hidle : a.isDone = false ∨ c.leaves? identity = none) (hafter : after = found)
  | given {publicKey : String} {level : Nat} {pem : List Char} (hdone : a.isDone = true)
      (hleaves : c.leaves? identity = some (some (publicKey, level)))
      (hnormal : Key.normalize family publicKey.toList = .ok pem)
      (hafter : after = some ⟨identity, String.ofList pem, level⟩)
  | taken (hdone : a.isDone = true) (hleaves : c.leaves? identity = some none) (hafter : after = none)

end Registry

namespace MemoryRegistry

open Registry (Call Answer Step changes)

variable {family : KeyFamily} {m next : MemoryRegistry} {identity : String} {past : List (Option (String × Nat))}

/-- What records that a registry starts with leave under an identity. -/
def seeds (identity : String) (records : List KeyRecord) : List (Option (String × Nat)) :=
  (records.filter fun r => r.identity = identity).map fun r => some (r.publicKey, r.accessLevel)

/-- What an identity has after a history: what the last change gave it, the key in normal form. -/
def Has (family : KeyFamily) (identity : String) (history : List (Option (String × Nat))) (found : Option KeyRecord) :
    Prop :=
  match history.getLast? with
  | some (some (publicKey, level)) =>
    ∃ pem, Key.normalize family publicKey.toList = .ok pem ∧ found = some ⟨identity, String.ofList pem, level⟩
  | _ => found = none

theorem Has.eq_some {history : List (Option (String × Nat))} {found : Option KeyRecord}
    (h : Has family identity history found) {publicKey : String} {level : Nat}
    (hlast : history.getLast? = some (some (publicKey, level))) :
    ∃ pem, Key.normalize family publicKey.toList = .ok pem ∧ found = some ⟨identity, String.ofList pem, level⟩ := by
  unfold Has at h
  rwa [hlast] at h

/-- What an identity has is of that identity. -/
theorem Has.named {history : List (Option (String × Nat))} {found : Option KeyRecord}
    (h : Has family identity history found) {r : KeyRecord} (hr : found = some r) : r.identity = identity := by
  unfold Has at h
  split at h
  · obtain ⟨pem, -, hfound⟩ := h
    rw [hr, Option.some.injEq] at hfound
    rw [hfound]
  · rw [hr] at h
    cases h

theorem Has.eq_none {history : List (Option (String × Nat))} {found : Option KeyRecord}
    (h : Has family identity history found) (hlast : history.getLast? = none ∨ history.getLast? = some none) :
    found = none := by
  unfold Has at h
  rcases hlast with hnever | htaken
  · rwa [hnever] at h
  · rwa [htaken] at h

/-! ## One call -/

/-- A change that puts a record under some identity, of that identity if it is the one looked at. -/
theorem step_put {c : Call} {other name publicKey pem : String} {level : Nat} {a : Answer} (hdone : a.isDone = true)
    (hleaves : c.leaves? identity = if other = identity then some (some (publicKey, level)) else none)
    (hname : other = identity → name = identity) (hentry : KeyRecord.checkEntry family other publicKey = .ok pem)
    (records : SortedMap KeyRecord) :
    Step family identity c a (records.get? identity) ((records.insert other ⟨name, pem, level⟩).get? identity) := by
  rw [SortedMap.get?_insert]
  by_cases hother : other = identity
  · obtain rfl := hname hother
    obtain ⟨-, text, hnormal, rfl⟩ := KeyRecord.checkEntry_eq_ok_iff.1 hentry
    rw [if_pos hother] at hleaves
    exact .given hdone hleaves hnormal (if_pos hother)
  · rw [if_neg hother] at hleaves
    exact .kept (.inr hleaves) (if_neg hother)

/-- A change that fails leaves everything as it is. -/
theorem step_change {c : Call} {result : Except RegistryError MemoryRegistry}
    (hnext : ∀ next, result = .ok next → next.family = m.family ∧
      Step m.family identity c (.done (.answered (.ok ()))) (m.get identity) (next.get identity)) :
    (m.change result).2.family = m.family ∧
      Step m.family identity c (.done (m.change result).1) (m.get identity) ((m.change result).2.get identity) := by
  unfold change
  split
  · rename_i next
    exact hnext next rfl
  · exact ⟨rfl, .kept (.inl rfl) rfl⟩

/-- **What a call does to an identity** whose record, if there is one, is its own: an update leaves the identity that the
record says. -/
theorem step_perform (m : MemoryRegistry) (c : Call) (hnamed : ∀ r, m.get identity = some r → r.identity = identity) :
    (Registry.perform m c).2.family = m.family ∧
      Step m.family identity c (Registry.perform m c).1 (m.get identity) ((Registry.perform m c).2.get identity) := by
  cases c with
  | get other => exact ⟨rfl, .kept (.inr rfl) rfl⟩
  | all => exact ⟨rfl, .kept (.inr rfl) rfl⟩
  | insert other publicKey level =>
    refine step_change fun next hnext => ?_
    obtain ⟨-, -, pem, hentry, rfl⟩ := insert_ok hnext
    exact ⟨rfl, step_put rfl rfl id hentry m.records⟩
  | update other publicKey level =>
    refine step_change fun next hnext => ?_
    obtain ⟨-, r, pem, hfound, hentry, rfl⟩ := update_ok hnext
    exact ⟨rfl, step_put rfl rfl (fun hother => hnamed r (hother ▸ hfound)) hentry m.records⟩
  | delete other =>
    refine step_change fun next hnext => ?_
    obtain ⟨-, -, rfl⟩ := delete_ok hnext
    have hget : (m.records.erase other).get? identity = _ := SortedMap.get?_erase _ _ _
    by_cases hother : other = identity
    · exact ⟨rfl, .taken rfl (if_pos hother) (hget.trans (if_pos hother))⟩
    · exact ⟨rfl, .kept (.inr (if_neg hother)) (hget.trans (if_neg hother))⟩

theorem Has.step {c : Call} {a : Answer} {found after : Option KeyRecord} (h : Has family identity past found)
    (hstep : Step family identity c a found after) :
    Has family identity (past ++ if a.isDone then (c.leaves? identity).toList else []) after := by
  cases hstep with
  | kept hidle hafter =>
    subst hafter
    have hnothing : (if a.isDone = true then (c.leaves? identity).toList else []) = [] := by
      rcases hidle with hnot | hnone
      · rw [hnot]; rfl
      · rw [hnone]; exact ite_self _
    rwa [hnothing, List.append_nil]
  | given hdone hleaves hnormal hafter =>
    rw [hdone, hleaves, hafter]
    simp only [if_true, Option.toList_some, Has, List.getLast?_concat]
    exact ⟨_, hnormal, rfl⟩
  | taken hdone hleaves hafter =>
    rw [hdone, hleaves, hafter]
    simp only [if_true, Option.toList_some, Has, List.getLast?_concat]

/-! ## Calls in a row -/

/-- **What an identity has is what its history says**, after any calls. -/
theorem has_after : ∀ (calls : List Call) {m : MemoryRegistry} {past : List (Option (String × Nat))},
    m.family = family → Has family identity past (m.get identity) →
    Has family identity (past ++ changes identity calls (Registry.answers m calls)) ((Registry.after m calls).get identity)
  | [], m, past, _, h => by
    show Has family identity (past ++ []) (m.get identity)
    rwa [List.append_nil]
  | c :: rest, m, past, hfamily, h => by
    -- What the first call leaves becomes part of the past that the other calls start from.
    obtain ⟨hkind, hstep⟩ := step_perform m c fun _ => h.named
    rw [hfamily] at hkind hstep
    have hrest := has_after rest hkind (h.step hstep)
    rwa [List.append_assoc] at hrest

/-- What an identity has at the start. -/
theorem has_seed : ∀ {rs : List KeyRecord} {acc records : SortedMap KeyRecord} {past : List (Option (String × Nat))},
    Has family identity past (acc.get? identity) → seed family rs acc = .ok records →
    Has family identity (past ++ seeds identity rs) (records.get? identity)
  | [], acc, records, past, h, hseed => by
    cases hseed
    rwa [seeds, List.filter_nil, List.map_nil, List.append_nil]
  | r :: rs, acc, records, past, h, hseed => by
    unfold seed at hseed
    split at hseed
    · cases hseed
    rename_i pem hentry
    have hstep : Step family identity (.insert r.identity r.publicKey r.accessLevel) (.done (.answered (.ok ())))
        (acc.get? identity) ((acc.insert r.identity { r with publicKey := pem }).get? identity) :=
      step_put rfl rfl id hentry acc
    have hrest := has_seed (h.step hstep) hseed
    have hseeds : (if (Answer.done (.answered (.ok ()))).isDone = true then
          ((Call.insert r.identity r.publicKey r.accessLevel).leaves? identity).toList else []) ++ seeds identity rs =
        seeds identity (r :: rs) := by
      by_cases hother : r.identity = identity <;> simp [Answer.isDone, Call.leaves?, seeds, hother]
    rwa [List.append_assoc, hseeds] at hrest

/-- What has been left under an identity by the records that a registry starts with, and by the calls since then. -/
def history (identity : String) (records : List KeyRecord) (m : MemoryRegistry) (calls : List Call) :
    List (Option (String × Nat)) :=
  seeds identity records ++ changes identity calls (Registry.answers m calls)

/-- What an identity has at any point of a run, from the records at the start on. -/
theorem has_history {records : List KeyRecord} {readOnly : Bool} (hstart : ofRecords family records readOnly = .ok m)
    (calls : List Call) (identity : String) :
    Has family identity (history identity records m calls) ((Registry.after m calls).get identity) := by
  unfold ofRecords at hstart
  obtain ⟨found, hseed, rfl⟩ := map_eq_ok hstart
  have hempty : Has family identity [] ((SortedMap.empty : SortedMap KeyRecord).get? identity) := rfl
  exact has_after calls rfl (has_seed hempty hseed)

end MemoryRegistry

namespace Assertion

open Registry (Call)

variable {p : Policy} {m : MemoryRegistry} {text : List Char} {t : Token} {iss : String} {now : Int}

/-- A call that is refused, or that is about somebody else, decides no assertion of an issuer. -/
theorem checkIn_perform (hparse : Token.parse text = .ok t) (hissuer : Assoc.get? "iss" t.claims = some (.text iss))
    (hnamed : ∀ r, m.get iss = some r → r.identity = iss) {c : Call}
    (hidle : (Registry.perform m c).1.isDone = false ∨ c.leaves? iss = none) :
    (checkIn p (Registry.perform m c).2 text now).1 = (checkIn p m text now).1 := by
  by_cases hempty : iss = ""
  · refine checkIn_of_anonymous (fun t' iss' hparse' hissuer' => ?_) _
    rw [hparse, Except.ok.injEq] at hparse'
    have hsame := hissuer'.1
    rw [← hparse', hissuer, Option.some.injEq, Json.text.injEq] at hsame
    exact hissuer'.2 (hsame ▸ hempty)
  · have hget : (Registry.perform m c).2.get iss = m.get iss := by
      cases (MemoryRegistry.step_perform m c hnamed).2 with
      | kept _ hafter => exact hafter
      | given hdone hleaves _ _ => simp [hdone, hleaves] at hidle
      | taken hdone hleaves _ => simp [hdone, hleaves] at hidle
    rw [checkIn_of_issuedBy hparse ⟨hissuer, hempty⟩, checkIn_of_issuedBy hparse ⟨hissuer, hempty⟩]
    simp only [Registry.get, hget]

/-- **Rotation and revocation take effect at once.**  At any point of a run from a registry of given records, an
assertion of an issuer is checked against the key and the level that the last change of the issuer brought, the key in
normal form, and the issuer is unknown if there was none or if it took the record away.  An issuer without a name is
missing.  A call that is refused, or that is about somebody else, changes no verdict. -/
theorem checkIn_after {family : KeyFamily} {records : List KeyRecord} {readOnly : Bool}
    (hstart : MemoryRegistry.ofRecords family records readOnly = .ok m) (calls : List Call) (p : Policy)
    (hparse : Token.parse text = .ok t) (hissuer : Assoc.get? "iss" t.claims = some (.text iss)) (now : Int) :
    (iss = "" → (checkIn p (Registry.after m calls) text now).1 = .error (.unauthenticated .missingIssuer)) ∧
      (iss ≠ "" → ∀ publicKey level,
        (MemoryRegistry.history iss records m calls).getLast? = some (some (publicKey, level)) →
        ∃ pem, Key.normalize family publicKey.toList = .ok pem ∧
          (checkIn p (Registry.after m calls) text now).1 = judge p text t ⟨iss, String.ofList pem, level⟩ now) ∧
      (iss ≠ "" → (MemoryRegistry.history iss records m calls).getLast? = none ∨
          (MemoryRegistry.history iss records m calls).getLast? = some none →
        (checkIn p (Registry.after m calls) text now).1 = .error (.unauthenticated .unknownIdentity)) ∧
      ∀ c, (Registry.perform (Registry.after m calls) c).1.isDone = false ∨ c.leaves? iss = none →
        (checkIn p (Registry.after m (calls ++ [c])) text now).1 = (checkIn p (Registry.after m calls) text now).1 := by
  have hhas := MemoryRegistry.has_history hstart calls iss
  have hget {found : Option KeyRecord} (hfound : (Registry.after m calls).get iss = found) :
      (Registry.get (Registry.after m calls) iss).1 = .answered (.ok found) := by
    rw [← hfound]
    rfl
  refine ⟨fun hempty => ?_, fun hnamed publicKey level hlast => ?_, fun hnamed hlast => ?_, fun c hidle => ?_⟩
  · refine checkIn_eq_iff.2 (.anonymous hparse fun other hother => ?_)
    rw [hissuer, Option.some.injEq, Json.text.injEq] at hother
    rw [← hother, hempty]
  · obtain ⟨pem, hnormal, hfound⟩ := hhas.eq_some hlast
    refine ⟨pem, hnormal, ?_⟩
    rw [checkIn_of_issuedBy hparse ⟨hissuer, hnamed⟩, hget hfound]
  · exact checkIn_eq_iff.2 (.unknown hparse ⟨hissuer, hnamed⟩ (hget (hhas.eq_none hlast)))
  · rw [Registry.after_append]
    exact checkIn_perform hparse hissuer (fun _ => hhas.named) hidle

/-- A token that says its issuer and nothing else. -/
def bareAssertion (iss : String) : List Char :=
  KeyPair.signingInput .rs256 (Json.object [("iss", .text iss)]).compact ++ '.' :: ['A', 'A']

theorem parse_bareAssertion (iss : String) :
    Token.parse (bareAssertion iss) = .ok ⟨"RS256", [("iss", .text iss)]⟩ := by
  have hfits : (Json.object [("iss", .text iss)]).Fits Json.maxDepth :=
    ⟨126, rfl, by simp only [Json.FitsMembers, Json.Fits, and_self]⟩
  have hnormal : (Json.object [("iss", .text iss)]).normal = .object [("iss", .text iss)] := by
    simp only [Json.normal, Json.normalMembers]
    rfl
  exact Token.parse_signed .rs256 hfits hnormal (List.cons_ne_nil _ _) (by decide)

/-- A key is registered and put in place of itself with another level. -/
def rotation (publicKey : String) : List Call := [.insert "ann" publicKey 1, .update "ann" publicKey 2]

theorem history_rotation {publicKey : String} (hentry : KeyRecord.checkEntry .rsa "ann" publicKey = .ok publicKey) :
    MemoryRegistry.history "ann" [] (MemoryRegistry.empty .rsa) (rotation publicKey) =
        [some (publicKey, 1), some (publicKey, 2)] ∧
      MemoryRegistry.history "ann" [] (MemoryRegistry.empty .rsa) (rotation publicKey ++ [.delete "ann"]) =
        [some (publicKey, 1), some (publicKey, 2), none] := by
  have hinsert : (MemoryRegistry.empty .rsa).insert "ann" publicKey 1 = _ :=
    MemoryRegistry.insert_of_checkEntry rfl hentry rfl
  have hupdate : MemoryRegistry.update { MemoryRegistry.empty .rsa with
      records := (MemoryRegistry.empty .rsa).records.insert "ann" ⟨"ann", publicKey, 1⟩ } "ann" publicKey 2 = _ :=
    MemoryRegistry.update_of_checkEntry rfl hentry rfl
  constructor
  · simp only [MemoryRegistry.history, rotation, Registry.answers, Registry.perform, Registry.insert, Registry.update,
      hinsert, hupdate, MemoryRegistry.change]
    rfl
  · simp only [MemoryRegistry.history, rotation, List.cons_append, List.nil_append, Registry.answers, Registry.perform,
      Registry.insert, Registry.update, hinsert, hupdate, MemoryRegistry.change]
    rfl

/-- A key that is replaced decides the next assertion, and its removal the one after that. -/
theorem checkIn_rotated :
    MemoryRegistry.ofRecords .rsa [] false = .ok (MemoryRegistry.empty .rsa) ∧
      Token.parse (bareAssertion "ann") = .ok ⟨"RS256", [("iss", .text "ann")]⟩ ∧
      (∃ pem, Key.normalize .rsa MemoryRegistry.shortKey.toList = .ok pem ∧
        (checkIn ⟨.rs256, 300, 60⟩ (Registry.after (MemoryRegistry.empty .rsa) (rotation MemoryRegistry.shortKey)) (bareAssertion "ann") 0).1 =
          judge ⟨.rs256, 300, 60⟩ (bareAssertion "ann") ⟨"RS256", [("iss", .text "ann")]⟩ ⟨"ann", String.ofList pem, 2⟩ 0) ∧
      (checkIn ⟨.rs256, 300, 60⟩ (Registry.after (MemoryRegistry.empty .rsa) (rotation MemoryRegistry.shortKey ++ [.delete "ann"]))
        (bareAssertion "ann") 0).1 = .error (.unauthenticated .unknownIdentity) := by
  have hstart : MemoryRegistry.ofRecords .rsa [] false = .ok (MemoryRegistry.empty .rsa) := rfl
  have hparse := parse_bareAssertion "ann"
  have hnamed : "ann" ≠ "" := by decide
  have hiss : Assoc.get? "iss" [("iss", Json.text "ann")] = some (.text "ann") := rfl
  obtain ⟨hrotated, hremoved⟩ := history_rotation MemoryRegistry.checkEntry_shortKey
  have hrun (calls : List Call) := checkIn_after hstart calls ⟨.rs256, 300, 60⟩ hparse hiss 0
  have hlast : (MemoryRegistry.history "ann" [] (MemoryRegistry.empty .rsa) (rotation MemoryRegistry.shortKey)).getLast? =
      some (some (MemoryRegistry.shortKey, 2)) := by
    rw [hrotated]
    rfl
  have hgone : (MemoryRegistry.history "ann" [] (MemoryRegistry.empty .rsa)
      (rotation MemoryRegistry.shortKey ++ [.delete "ann"])).getLast? = some none := by
    rw [hremoved]
    rfl
  exact ⟨hstart, hparse, (hrun _).2.1 hnamed _ 2 hlast, (hrun _).2.2.1 hnamed (.inr hgone)⟩

/-- **An issuer without a name is never registered, and never unknown.** -/
theorem checkIn_nameless :
    MemoryRegistry.ofRecords .rsa [] false = .ok (MemoryRegistry.empty .rsa) ∧
      Token.parse (bareAssertion "") = .ok ⟨"RS256", [("iss", .text "")]⟩ ∧
      MemoryRegistry.history "" [] (MemoryRegistry.empty .rsa) [] = [] ∧
      (checkIn ⟨.rs256, 300, 60⟩ (Registry.after (MemoryRegistry.empty .rsa) []) (bareAssertion "") 0).1 ≠
        .error (.unauthenticated .unknownIdentity) := by
  refine ⟨rfl, parse_bareAssertion "", rfl, fun h => ?_⟩
  cases checkIn_eq_iff.1 h with
  | unknown hparse hissuer _ =>
    rw [parse_bareAssertion, Except.ok.injEq] at hparse
    obtain ⟨hiss, hnamed⟩ := hissuer
    rw [← hparse] at hiss
    exact hnamed (Json.text.inj (Option.some.inj hiss)).symm

end Assertion
end Gatehouse
