import Gatehouse.Json.Shape
import Gatehouse.Proofs.Json.Number
import Gatehouse.Proofs.Result
import Gatehouse.Proofs.Seconds
import Gatehouse.Proofs.SortedMap
/-!
# Shapes — values that decode

Numbers in range, and the members of a record one at a time: `putMembers_field` is the step, `decode_object` the whole.
-/
namespace Gatehouse
namespace Json

/-! ## Scalars -/

theorem string_text (s : String) : string (.text s) = .ok s := rfl

theorem integer_i64 {n : Int} (h : Seconds.IsTime n) : integer .i64 (int n) = .ok n := by
  have hr : IntRange.i64.holds n = true := Bool.and_eq_true_iff.2 ⟨decide_eq_true h.1, decide_eq_true h.2⟩
  rw [int, integer, if_pos hr]

theorem string_eq_ok_iff {v : Json} {s : String} : string v = .ok s ↔ v = .text s := by
  cases v <;> simp [string]

/-- **An integer is read in its own notation, in range.** -/
theorem integer_i64_eq_ok_iff {v : Json} {n : Int} : integer .i64 v = .ok n ↔ v = int n ∧ Seconds.IsTime n := by
  constructor
  · intro h
    unfold integer at h
    split at h
    · split at h
      · rename_i z hholds
        cases h
        have hends := Bool.and_eq_true_iff.1 hholds
        exact ⟨rfl, of_decide_eq_true hends.1, of_decide_eq_true hends.2⟩
      · cases h
    · cases h
  · rintro ⟨rfl, hn⟩
    exact integer_i64 hn

theorem natural_u32 {n : Nat} (h : n < 2 ^ 32) : natural .u32 (int n) = .ok n := by
  have hle : (n : Int) ≤ 2 ^ 32 - 1 := by omega
  have hr : IntRange.u32.holds n = true :=
    Bool.and_eq_true_iff.2 ⟨decide_eq_true (Int.natCast_nonneg n), decide_eq_true hle⟩
  rw [natural, int, integer, if_pos hr]
  rfl

theorem lt_of_natural_u32 {v : Json} {n : Nat} (h : natural .u32 v = .ok n) : n < 2 ^ 32 := by
  unfold natural integer at h
  split at h
  · split at h
    · rename_i z hholds
      have hle : z ≤ 2 ^ 32 - 1 := of_decide_eq_true (Bool.and_eq_true_iff.1 hholds).2
      cases h
      omega
    · cases h
  · cases h

theorem isExact_of_isTime {n : Int} (h : Seconds.IsTime n) : IsExact n := by
  unfold Seconds.IsTime Seconds.earliest Seconds.latest at h
  unfold IsExact
  omega

theorem nullable_of_ok {d : Decoder α} {v : Json} {a : α} (hv : v.isNull = false) (h : d v = .ok a) :
    nullable d v = .ok (some a) := by
  cases v <;> simp only [nullable, h, Except.map]
  cases hv

/-! ## Records -/

variable {ρ : Type}

theorem put_field_eq_ok {name : String} {presence : Presence} {d : Decoder α} {set : α → ρ → ρ} {v : Json} {a b : ρ}
    (h : (field name presence d set).put v a = .ok b) : ∃ x, d v = .ok x ∧ set x a = b :=
  map_eq_ok h

/-- **A member whose value decodes is put into its field.** -/
theorem putMembers_field {r : Record ρ} {name : String} {presence : Presence} {d : Decoder α} {set : α → ρ → ρ}
    (hfield : r.field? name = some (field name presence d set)) {v : Json} {a : α} (hv : d v = .ok a)
    (rest : List (String × Json)) (acc : ρ) :
    r.putMembers ((name, v) :: rest) acc = r.putMembers rest (set a acc) := by
  rw [Record.putMembers, hfield]
  simp only [field, hv, Except.map, Except.bind]

theorem decode_object {r : Record ρ} {members : List (String × Json)} {a : ρ}
    (hput : r.putMembers members r.blank = .ok a) (hall : r.missing? (members.map Prod.fst) = none) :
    r.decode (.object members) = .ok a := by
  unfold Record.decode
  dsimp only
  rw [hput]
  simp only [hall, bind, Except.bind]

theorem putMembers_of_decode {r : Record ρ} {members : List (String × Json)} {a : ρ}
    (h : r.decode (.object members) = .ok a) :
    r.putMembers members r.blank = .ok a ∧ r.missing? (members.map Prod.fst) = none := by
  unfold Record.decode at h
  dsimp only at h
  cases hput : r.putMembers members r.blank with
  | error mismatch => rw [hput] at h; cases h
  | ok acc =>
    rw [hput] at h
    simp only [bind, Except.bind] at h
    split at h
    · cases h
    · rename_i hall
      cases h
      exact ⟨rfl, hall⟩

theorem missing?_eq_none_iff {r : Record ρ} {given : List String} :
    r.missing? given = none ↔ ∀ f ∈ r.fields, f.presence = .required → f.name ∈ given := by
  rw [Record.missing?, Option.map_eq_none_iff, List.find?_eq_none]
  simp

theorem mem_of_field? {r : Record ρ} {name : String} {f : Field ρ} (h : r.field? name = some f) :
    f ∈ r.fields ∧ f.name = name :=
  ⟨List.mem_of_find?_eq_some h, by simpa using List.find?_some h⟩

/-- What the field of a name decodes is seen by a projection, and nothing else changes that. -/
structure Record.Sees (r : Record ρ) (name : String) (d : Decoder α) (get : ρ → α) : Prop where
  own : ∃ f, r.field? name = some f ∧ ∀ v a b, f.put v a = .ok b → d v = .ok (get b)
  others : ∀ f ∈ r.fields, f.name ≠ name → ∀ v a b, f.put v a = .ok b → get b = get a

theorem sees_field {r : Record ρ} {name : String} {presence : Presence} {d : Decoder α} {set : α → ρ → ρ} {get : ρ → α}
    (hfield : r.field? name = some (field name presence d set)) (hset : ∀ x a, get (set x a) = x)
    (hothers : ∀ f ∈ r.fields, f.name ≠ name → ∀ v a b, f.put v a = .ok b → get b = get a) : r.Sees name d get := by
  refine ⟨⟨_, hfield, fun v a b h => ?_⟩, hothers⟩
  obtain ⟨x, hx, rfl⟩ := put_field_eq_ok h
  rw [hset, hx]

/-- **What a record has from its members**: the value of a member is decoded, and without one nothing changes. -/
theorem Record.Sees.putMembers {r : Record ρ} {name : String} {d : Decoder α} {get : ρ → α} (hsees : r.Sees name d get) :
    ∀ {members : List (String × Json)} {a b : ρ}, Assoc.Sorted members → r.putMembers members a = .ok b →
      (∀ v, Assoc.get? name members = some v → d v = .ok (get b)) ∧
        (Assoc.get? name members = none → get b = get a)
  | [], a, b, _, h => by
    cases h
    refine ⟨fun v hv => ?_, fun _ => rfl⟩
    cases hv
  | (key, v) :: rest, a, b, hsorted, h => by
    have hrest : Assoc.Sorted rest := List.Pairwise.of_cons hsorted
    unfold Record.putMembers at h
    by_cases hkey : key = name
    · subst hkey
      obtain ⟨f, hf, hown⟩ := hsees.own
      rw [hf] at h
      obtain ⟨x, hx, h⟩ := bind_eq_ok h
      -- The keys are sorted, so no member after this one has its name.
      have hkept : get b = get x := (hsees.putMembers hrest h).2 (Assoc.get?_tail hsorted)
      rw [Assoc.get?, if_pos rfl]
      refine ⟨fun w hw => ?_, fun hnone => ?_⟩
      · cases hw
        rw [hkept]
        exact hown v a x hx
      · cases hnone
    · rw [Assoc.get?, if_neg hkey]
      split at h
      · exact hsees.putMembers hrest h
      · rename_i f hf
        obtain ⟨x, hx, h⟩ := bind_eq_ok h
        obtain ⟨hmem, hname⟩ := mem_of_field? hf
        rw [← hsees.others f hmem (hname ▸ hkey) v a x hx]
        exact hsees.putMembers hrest h

/-- **Members that all decode are put together.** -/
theorem putMembers_of_forall {r : Record ρ} : ∀ {members : List (String × Json)} (acc : ρ),
    (∀ e ∈ members, ∀ f, r.field? e.1 = some f → ∀ a, ∃ b, f.put e.2 a = .ok b) →
    ∃ b, r.putMembers members acc = .ok b
  | [], acc, _ => ⟨acc, rfl⟩
  | e :: rest, acc, h => by
    have hrest := fun acc => putMembers_of_forall acc fun e he => h e (List.mem_cons_of_mem _ he)
    unfold Record.putMembers
    cases hf : r.field? e.1 with
    | none => exact hrest acc
    | some f =>
      obtain ⟨x, hx⟩ := h e List.mem_cons_self f hf acc
      simp only [hx, Except.bind]
      exact hrest x

theorem put_field_of_ok {name : String} {presence : Presence} {d : Decoder α} {set : α → ρ → ρ} {v : Json} {x : α}
    (h : d v = .ok x) (a : ρ) : ∃ b, (field name presence d set).put v a = .ok b :=
  ⟨set x a, by simp only [field, h, Except.map]⟩

end Json
end Gatehouse
