import Gatehouse.Proofs.Session
/-!
# Session claims — which members decode

`Claims.decode_eq_ok_iff`: the members of a payload decode exactly when each claim has its type, a claim that may be
left out being absent, null or of its type; and then to the claims that they say.
-/
namespace Gatehouse
namespace Session

open Seconds (IsTime)

/-- The claims that members say.  A claim that may be left out may also be null. -/
structure Claims.Reads (members : List (String × Json)) (c : Claims) : Prop where
  subject : Assoc.get? "sub" members = some (.text c.subject)
  issuedAt : Assoc.get? "iat" members = some (.int c.issuedAt) ∧ IsTime c.issuedAt
  expiresAt : Assoc.get? "exp" members = some (.int c.expiresAt) ∧ IsTime c.expiresAt
  notBefore : Json.nullable (Json.integer .i64) ((Assoc.get? "nbf" members).getD .null) = .ok c.notBefore
  id : Json.nullable Json.string ((Assoc.get? "jti" members).getD .null) = .ok c.id
  user : Json.nullable User.shape.decode ((Assoc.get? "user" members).getD .null) = .ok c.user

namespace Claims

variable {members : List (String × Json)} {c d : Claims}

theorem Reads.unique (hc : Reads members c) (hd : Reads members d) : c = d := by
  have hsubject : c.subject = d.subject := by simpa using hc.subject.symm.trans hd.subject
  have hissued : c.issuedAt = d.issuedAt := by simpa [Json.int] using hc.issuedAt.1.symm.trans hd.issuedAt.1
  have hexpires : c.expiresAt = d.expiresAt := by simpa [Json.int] using hc.expiresAt.1.symm.trans hd.expiresAt.1
  have hbegins : c.notBefore = d.notBefore := Except.ok.inj (hc.notBefore.symm.trans hd.notBefore)
  have hid : c.id = d.id := Except.ok.inj (hc.id.symm.trans hd.id)
  have huser : c.user = d.user := Except.ok.inj (hc.user.symm.trans hd.user)
  cases c
  cases d
  simp_all

theorem Reads.isTime_notBefore (h : Reads members c) {nbf : Int} (hnbf : c.notBefore = some nbf) : IsTime nbf := by
  have hread := h.notBefore
  rw [hnbf] at hread
  unfold Json.nullable at hread
  split at hread
  · cases hread
  · obtain ⟨n, hn, hsome⟩ := map_eq_ok hread
    cases hsome
    exact (Json.integer_i64_eq_ok_iff.1 hn).2

/-- Every field puts its own value and keeps the others. -/
theorem put_shape {f : Json.Field Claims} (hf : f ∈ shape.fields) {v : Json} {a b : Claims} (h : f.put v a = .ok b) :
    (f.name ≠ "sub" → b.subject = a.subject) ∧ (f.name ≠ "iat" → b.issuedAt = a.issuedAt) ∧
      (f.name ≠ "nbf" → b.notBefore = a.notBefore) ∧ (f.name ≠ "exp" → b.expiresAt = a.expiresAt) ∧
      (f.name ≠ "jti" → b.id = a.id) ∧ (f.name ≠ "user" → b.user = a.user) := by
  simp only [shape, List.mem_cons, List.not_mem_nil, or_false] at hf
  rcases hf with rfl | rfl | rfl | rfl | rfl | rfl <;> obtain ⟨x, -, rfl⟩ := Json.put_field_eq_ok h <;>
    simp [Json.field]

theorem sees_subject : shape.Sees "sub" Json.string subject :=
  Json.sees_field rfl (fun _ _ => rfl) fun _ hf hne _ _ _ h => (put_shape hf h).1 hne

theorem sees_issuedAt : shape.Sees "iat" (Json.integer .i64) issuedAt :=
  Json.sees_field rfl (fun _ _ => rfl) fun _ hf hne _ _ _ h => (put_shape hf h).2.1 hne

theorem sees_notBefore : shape.Sees "nbf" (Json.nullable (Json.integer .i64)) notBefore :=
  Json.sees_field rfl (fun _ _ => rfl) fun _ hf hne _ _ _ h => (put_shape hf h).2.2.1 hne

theorem sees_expiresAt : shape.Sees "exp" (Json.integer .i64) expiresAt :=
  Json.sees_field rfl (fun _ _ => rfl) fun _ hf hne _ _ _ h => (put_shape hf h).2.2.2.1 hne

theorem sees_id : shape.Sees "jti" (Json.nullable Json.string) id :=
  Json.sees_field rfl (fun _ _ => rfl) fun _ hf hne _ _ _ h => (put_shape hf h).2.2.2.2.1 hne

theorem sees_user : shape.Sees "user" (Json.nullable User.shape.decode) user :=
  Json.sees_field rfl (fun _ _ => rfl) fun _ hf hne _ _ _ h => (put_shape hf h).2.2.2.2.2 hne

/-- A required member of decoded claims is there and decodes. -/
theorem required_of_decode {α : Type} {name : String} {decoder : Json.Decoder α} {get : Claims → α}
    (hsees : shape.Sees name decoder get) (hname : name ∈ ["sub", "iat", "exp"]) (hsorted : Assoc.Sorted members)
    (h : shape.decode (.object members) = .ok c) :
    ∃ v, Assoc.get? name members = some v ∧ decoder v = .ok (get c) := by
  obtain ⟨hput, hall⟩ := Json.putMembers_of_decode h
  have hgiven : name ∈ members.map Prod.fst := by
    have hrequired := Json.missing?_eq_none_iff.1 hall
    simp only [shape, List.mem_cons, List.not_mem_nil, or_false, forall_eq_or_imp, forall_eq, Json.field] at hrequired
    simp only [List.mem_cons, List.not_mem_nil, or_false] at hname
    rcases hname with rfl | rfl | rfl
    · exact hrequired.1 trivial
    · exact hrequired.2.1 trivial
    · exact hrequired.2.2.2.1 trivial
  obtain ⟨v, hv⟩ := Assoc.get?_of_mem_keys hgiven
  exact ⟨v, hv, (hsees.putMembers hsorted hput).1 v hv⟩

/-- Any other member decodes, null in its place if it is not there. -/
theorem defaulted_of_decode {α : Type} {name : String} {decoder : Json.Decoder α} {get : Claims → Option α}
    (hsees : shape.Sees name (Json.nullable decoder) get) (hblank : get shape.blank = none)
    (hsorted : Assoc.Sorted members) (h : shape.decode (.object members) = .ok c) :
    Json.nullable decoder ((Assoc.get? name members).getD .null) = .ok (get c) := by
  obtain ⟨hgiven, hleft⟩ := hsees.putMembers hsorted (Json.putMembers_of_decode h).1
  cases hv : Assoc.get? name members with
  | none => rw [hleft hv, hblank]; rfl
  | some v => exact hgiven v hv

theorem reads_of_decode (hsorted : Assoc.Sorted members) (h : shape.decode (.object members) = .ok c) :
    Reads members c := by
  obtain ⟨sub, hsub, hsubject⟩ := required_of_decode sees_subject (by simp) hsorted h
  obtain ⟨iat, hiat, hissued⟩ := required_of_decode sees_issuedAt (by simp) hsorted h
  obtain ⟨exp, hexp, hexpires⟩ := required_of_decode sees_expiresAt (by simp) hsorted h
  obtain ⟨rfl, hissue⟩ := Json.integer_i64_eq_ok_iff.1 hissued
  obtain ⟨rfl, hexpiry⟩ := Json.integer_i64_eq_ok_iff.1 hexpires
  rw [Json.string_eq_ok_iff.1 hsubject] at hsub
  exact ⟨hsub, ⟨hiat, hissue⟩, ⟨hexp, hexpiry⟩, defaulted_of_decode sees_notBefore rfl hsorted h,
    defaulted_of_decode sees_id rfl hsorted h, defaulted_of_decode sees_user rfl hsorted h⟩

/-- Members that say claims are all put into their fields. -/
theorem Reads.put (hsorted : Assoc.Sorted members) (h : Reads members c) {e : String × Json} (he : e ∈ members)
    {f : Json.Field Claims} (hf : shape.field? e.1 = some f) (a : Claims) : ∃ b, f.put e.2 a = .ok b := by
  obtain ⟨name, v⟩ := e
  have hget := Assoc.get?_of_mem hsorted he
  obtain ⟨hmem, hname⟩ := Json.mem_of_field? hf
  simp only [shape, List.mem_cons, List.not_mem_nil, or_false] at hmem
  rcases hmem with rfl | rfl | rfl | rfl | rfl | rfl <;> cases hname
  · refine Json.put_field_of_ok (x := c.subject) ?_ a
    rw [← Option.some.inj (h.subject.symm.trans hget)]
    rfl
  · refine Json.put_field_of_ok (x := c.issuedAt) ?_ a
    rw [← Option.some.inj (h.issuedAt.1.symm.trans hget)]
    exact Json.integer_i64 h.issuedAt.2
  · have hbegins := h.notBefore
    rw [hget] at hbegins
    exact Json.put_field_of_ok hbegins a
  · refine Json.put_field_of_ok (x := c.expiresAt) ?_ a
    rw [← Option.some.inj (h.expiresAt.1.symm.trans hget)]
    exact Json.integer_i64 h.expiresAt.2
  · have hid := h.id
    rw [hget] at hid
    exact Json.put_field_of_ok hid a
  · have huser := h.user
    rw [hget] at huser
    exact Json.put_field_of_ok huser a

/-- **Which members decode, and to what.** -/
theorem decode_eq_ok_iff (hsorted : Assoc.Sorted members) :
    shape.decode (.object members) = .ok c ↔ Reads members c := by
  constructor
  · exact reads_of_decode hsorted
  · intro h
    obtain ⟨d, hd⟩ := Json.putMembers_of_forall shape.blank fun e he f hf => h.put hsorted he hf
    have hall : shape.missing? (members.map Prod.fst) = none := by
      rw [Json.missing?_eq_none_iff]
      have hsub := Assoc.mem_keys_of_get? h.subject
      have hiat := Assoc.mem_keys_of_get? h.issuedAt.1
      have hexp := Assoc.mem_keys_of_get? h.expiresAt.1
      simp only [shape, List.mem_cons, List.not_mem_nil, or_false, forall_eq_or_imp, forall_eq, Json.field]
      simp [hsub, hiat, hexp]
    -- The members decode to something, and they say one thing only.
    have hdecode := Json.decode_object hd hall
    rw [hdecode, (reads_of_decode hsorted hdecode).unique h]

end Claims
end Session
end Gatehouse
