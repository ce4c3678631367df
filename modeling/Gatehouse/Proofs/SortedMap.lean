import Gatehouse.SortedMap
/-!
# Sorted maps — look-ups after a change, and maps of values

What a map answers after one key has been set or taken away, what entries put in one after another make, and how all
this goes together with a function on the values.  Look-ups after an erasure need the order: a bare list could hold its
key twice.
-/
namespace Gatehouse
namespace Assoc

variable {α β : Type} {key : String} {l : List (String × α)}

theorem get?_insert (key : String) (value : α) (other : String) : ∀ l : List (String × α),
    get? other (insert key value l) = if key = other then some value else get? other l
  | [] => rfl
  | (k, v) :: rest => by
    unfold insert
    by_cases hk : key = k
    · subst hk
      rw [if_pos rfl, get?, get?]
      by_cases ho : key = other
      · rw [if_pos ho, if_pos ho]
      · rw [if_neg ho, if_neg ho, if_neg ho]
    rw [if_neg hk]
    by_cases hlt : key < k
    · rw [if_pos hlt, get?]
    · rw [if_neg hlt, get?, get?, get?_insert key value other rest]
      by_cases ho : k = other
      · rw [if_pos ho, if_pos ho, if_neg fun h => hk (h.trans ho.symm)]
      · rw [if_neg ho, if_neg ho]

theorem mem_of_get? {value : α} : ∀ {l : List (String × α)}, get? key l = some value → (key, value) ∈ l
  | [], h => nomatch h
  | (k, v) :: rest, h => by
    unfold get? at h
    by_cases hk : k = key
    · rw [if_pos hk, Option.some.injEq] at h
      rw [hk, h]
      exact List.mem_cons_self
    · rw [if_neg hk] at h
      exact List.mem_cons_of_mem _ (mem_of_get? h)

theorem get?_eq_none_of_lt (h : ∀ e ∈ l, key < e.1) : get? key l = none := by
  cases hget : get? key l with
  | none => rfl
  | some value => exact absurd (h _ (mem_of_get? hget)) (String.lt_irrefl key)

theorem get?_of_mem_keys : ∀ {l : List (String × α)}, key ∈ l.map Prod.fst → ∃ value, get? key l = some value
  | [], h => nomatch h
  | (k, v) :: rest, h => by
    by_cases hk : k = key
    · exact ⟨v, by rw [get?, if_pos hk]⟩
    · rw [List.map_cons, List.mem_cons] at h
      obtain ⟨value, hvalue⟩ := get?_of_mem_keys (h.resolve_left (Ne.symm hk))
      exact ⟨value, by rw [get?, if_neg hk, hvalue]⟩

theorem mem_keys_of_get? {value : α} (h : get? key l = some value) : key ∈ l.map Prod.fst :=
  List.mem_map_of_mem (f := Prod.fst) (mem_of_get? h)

/-- The first key of a sorted list is not met again. -/
theorem get?_tail {value : α} {rest : List (String × α)} (h : Sorted ((key, value) :: rest)) : get? key rest = none :=
  get?_eq_none_of_lt fun _ he => List.rel_of_pairwise_cons h he

/-- In a sorted list an entry is the one that is found. -/
theorem get?_of_mem {value : α} : ∀ {l : List (String × α)}, Sorted l → (key, value) ∈ l → get? key l = some value
  | [], _, h => nomatch h
  | (k, v) :: rest, hsorted, h => by
    rcases List.mem_cons.1 h with he | hrest
    · cases he
      rw [get?, if_pos rfl]
    · have hlt : k < key := List.rel_of_pairwise_cons hsorted hrest
      have hne : k ≠ key := fun he => String.lt_irrefl key (by rwa [he] at hlt)
      rw [get?, if_neg hne]
      exact get?_of_mem (List.Pairwise.of_cons hsorted) hrest

/-- **Sorted lists with the same look-ups are the same.** -/
theorem eq_of_get? {l m : List (String × α)} (hl : Sorted l) (hm : Sorted m) (h : ∀ key, get? key l = get? key m) :
    l = m := by
  have hne : ∀ {a b : String × α}, a.1 < b.1 → a ≠ b := by
    rintro a b hlt rfl
    exact String.lt_irrefl _ hlt
  have hnodup : ∀ {l : List (String × α)}, Sorted l → l.Nodup := fun hl => List.Pairwise.imp hne hl
  have hmem : ∀ e, e ∈ l ↔ e ∈ m := by
    intro e
    constructor
    · intro he
      exact mem_of_get? ((h e.1).symm.trans (get?_of_mem hl he))
    · intro he
      exact mem_of_get? ((h e.1).trans (get?_of_mem hm he))
  have hperm : l.Perm m := (List.perm_ext_iff_of_nodup (hnodup hl) (hnodup hm)).2 hmem
  have hasymm : ∀ a b : String × α, a ∈ l → b ∈ m → a.1 < b.1 → b.1 < a.1 → a = b := fun a b _ _ hab hba =>
    absurd (String.lt_trans hab hba) (String.lt_irrefl _)
  exact hperm.eq_of_pairwise hasymm hl hm

theorem get?_erase (other : String) : ∀ {l : List (String × α)}, Sorted l →
    get? other (erase key l) = if key = other then none else get? other l
  | [], _ => by simp [erase, get?]
  | (k, v) :: rest, h => by
    have ih := get?_erase other (List.Pairwise.of_cons h)
    unfold erase
    by_cases hk : k = key
    · subst hk
      by_cases ho : k = other
      · subst ho
        simp [get?_tail h]
      · simp [get?, ho]
    · by_cases ho : k = other
      · subst ho
        simp [get?, hk, Ne.symm hk]
      · simp [get?, hk, ho, ih]

/-- A key above all others goes to the end. -/
theorem insert_of_lt (value : α) : ∀ {l : List (String × α)}, (∀ e ∈ l, e.1 < key) →
    insert key value l = l ++ [(key, value)]
  | [], _ => rfl
  | (k, v) :: rest, h => by
    have hk : k < key := h _ List.mem_cons_self
    have hne : ¬ key = k := fun he => String.lt_irrefl k (by rwa [he] at hk)
    have hnlt : ¬ key < k := fun hlt => String.lt_irrefl k (String.lt_trans hk hlt)
    have ih := insert_of_lt value fun e he => h e (List.mem_cons_of_mem _ he)
    simp [insert, hne, hnlt, ih]

/-! ## Entries put in one after another -/

theorem perm_insert {value : α} : ∀ {l : List (String × α)}, key ∉ l.map Prod.fst → (insert key value l).Perm ((key, value) :: l)
  | [], _ => .refl _
  | (k, v) :: rest, h => by
    have hk : ¬ key = k := fun he => h (by simp [he])
    have hrest : key ∉ rest.map Prod.fst := fun hm => h (List.mem_cons_of_mem _ hm)
    unfold insert
    rw [if_neg hk]
    by_cases hlt : key < k
    · rw [if_pos hlt]
    · rw [if_neg hlt]
      exact ((perm_insert hrest).cons (k, v)).trans (.swap _ _ _)

/-- Entries put in one after another are all there, if no key comes twice. -/
theorem perm_foldl_insert : ∀ (l acc : List (String × α)), ((acc ++ l).map Prod.fst).Nodup →
    (l.foldl (fun acc e => insert e.1 e.2 acc) acc).Perm (acc ++ l)
  | [], acc, _ => by rw [List.foldl_nil, List.append_nil]
  | (k, v) :: rest, acc, h => by
    have hmiddle : ((acc ++ (k, v) :: rest).map Prod.fst).Perm (k :: (acc ++ rest).map Prod.fst) := by
      rw [List.map_append, List.map_append, List.map_cons]
      exact List.perm_middle
    have hnodup := List.nodup_cons.1 (hmiddle.nodup_iff.1 h)
    have hnew : k ∉ acc.map Prod.fst := fun hm => hnodup.1 (by rw [List.map_append]; exact List.mem_append_left _ hm)
    have hinsert : (insert k v acc).Perm ((k, v) :: acc) := perm_insert hnew
    have hstart : (insert k v acc ++ rest).Perm (acc ++ (k, v) :: rest) :=
      (hinsert.append_right rest).trans List.perm_middle.symm
    rw [List.foldl_cons]
    exact (perm_foldl_insert rest _ ((hstart.map Prod.fst).nodup_iff.2 h)).trans hstart

/-- Entries put in one after another in ascending order stay in it. -/
theorem foldl_insert_of_sorted : ∀ (l acc : List (String × α)), Sorted (acc ++ l) →
    l.foldl (fun acc e => insert e.1 e.2 acc) acc = acc ++ l
  | [], acc, _ => by rw [List.foldl_nil, List.append_nil]
  | (k, v) :: rest, acc, h => by
    have hlast : ∀ e ∈ acc, e.1 < k := fun e he => (List.pairwise_append.1 h).2.2 e he _ List.mem_cons_self
    have hshift : acc ++ [(k, v)] ++ rest = acc ++ (k, v) :: rest := by rw [List.append_assoc, List.singleton_append]
    rw [List.foldl_cons, insert_of_lt v hlast, foldl_insert_of_sorted rest _ (by rwa [hshift]), hshift]

/-! ## Values -/

/-- The entries with a function applied to their values. -/
def mapValues (f : α → β) (l : List (String × α)) : List (String × β) := l.map fun e => (e.1, f e.2)

theorem sorted_mapValues (f : α → β) (h : Sorted l) : Sorted (mapValues f l) :=
  List.Pairwise.map _ (fun _ _ h => h) h

/-- What is made of the entries one by one, their keys kept, is found under the same keys. -/
theorem get?_map_entries (f : String → α → β) (key : String) (l : List (String × α)) :
    get? key (l.map fun e => (e.1, f e.1 e.2)) = (get? key l).map (f key) := by
  induction l with
  | nil => rfl
  | cons e rest ih => by_cases hk : e.1 = key <;> simp [get?, hk, ih]

theorem get?_mapValues (f : α → β) (key : String) (l : List (String × α)) :
    get? key (mapValues f l) = (get? key l).map f :=
  get?_map_entries (fun _ => f) key l

theorem mapValues_insert (f : α → β) (key : String) (value : α) (l : List (String × α)) :
    mapValues f (insert key value l) = insert key (f value) (mapValues f l) := by
  induction l with
  | nil => rfl
  | cons e rest ih =>
    have ih : (insert key value rest).map (fun e => (e.1, f e.2)) =
      insert key (f value) (rest.map fun e => (e.1, f e.2)) := ih
    by_cases hk : key = e.1
    · simp [mapValues, insert, hk]
    · by_cases hlt : key < e.1 <;> simp [mapValues, insert, hk, hlt, ih]

theorem mapValues_erase (f : α → β) (key : String) (l : List (String × α)) :
    mapValues f (erase key l) = erase key (mapValues f l) := by
  induction l with
  | nil => rfl
  | cons e rest ih =>
    have ih : (erase key rest).map (fun e => (e.1, f e.2)) = erase key (rest.map fun e => (e.1, f e.2)) := ih
    by_cases hk : e.1 = key <;> simp [mapValues, erase, hk, ih]

end Assoc

namespace SortedMap

variable {α β : Type} (m : SortedMap α) (key other : String)

@[simp] theorem get?_empty : (empty : SortedMap α).get? key = none := rfl

theorem get?_insert (value : α) : (m.insert key value).get? other = if key = other then some value else m.get? other :=
  Assoc.get?_insert key value other m.entries

theorem get?_erase : (m.erase key).get? other = if key = other then none else m.get? other :=
  Assoc.get?_erase other m.sorted

/-- **Maps with the same look-ups are the same.** -/
theorem ext_get? {m n : SortedMap α} (h : ∀ key, m.get? key = n.get? key) : m = n :=
  ext_entries (Assoc.eq_of_get? m.sorted n.sorted h)

/-- The map with a function applied to its values. -/
def map (f : α → β) : SortedMap β := ⟨Assoc.mapValues f m.entries, Assoc.sorted_mapValues f m.sorted⟩

@[simp] theorem map_empty (f : α → β) : (empty : SortedMap α).map f = empty := rfl

theorem get?_map (f : α → β) : (m.map f).get? key = (m.get? key).map f := Assoc.get?_mapValues f key m.entries

theorem contains_map (f : α → β) : (m.map f).contains key = m.contains key := by
  rw [contains, get?_map, Option.isSome_map, contains]

theorem map_insert (f : α → β) (value : α) : (m.insert key value).map f = (m.map f).insert key (f value) :=
  ext_entries (Assoc.mapValues_insert f key value m.entries)

theorem map_erase (f : α → β) : (m.erase key).map f = (m.map f).erase key :=
  ext_entries (Assoc.mapValues_erase f key m.entries)

end SortedMap
end Gatehouse
