/-!
# Maps in the order of their keys

A finite map from texts as the list of its entries in ascending order of the keys, the order in which every listing of
the program shows them.  `Assoc` holds the operations on bare lists; `SortedMap` carries the order in the type, so that
two maps with the same look-ups are the same map.
-/
namespace Gatehouse
namespace Assoc

variable {α : Type}

/-- The value under a key. -/
def get? (key : String) : List (String × α) → Option α
  | [] => none
  | (k, v) :: rest => if k = key then some v else get? key rest

/-- The list with a value under a key, in place of any earlier one. -/
def insert (key : String) (value : α) : List (String × α) → List (String × α)
  | [] => [(key, value)]
  | (k, v) :: rest =>
    if key = k then (key, value) :: rest
    else if key < k then (key, value) :: (k, v) :: rest
    else (k, v) :: insert key value rest

/-- The list without a key. -/
def erase (key : String) : List (String × α) → List (String × α)
  | [] => []
  | (k, v) :: rest => if k = key then rest else (k, v) :: erase key rest

/-- Ascending keys, each once. -/
def Sorted (entries : List (String × α)) : Prop :=
  entries.Pairwise fun a b => a.1 < b.1

theorem mem_insert {key : String} {value : α} {e : String × α} :
    ∀ {l : List (String × α)}, e ∈ insert key value l → e = (key, value) ∨ e ∈ l
  | [], h => by simp [insert] at h; exact .inl h
  | (k, v) :: rest, h => by
    unfold insert at h
    split at h
    · simp only [List.mem_cons] at h ⊢
      rcases h with h | h
      · exact .inl h
      · exact .inr (.inr h)
    · split at h
      · simp only [List.mem_cons] at h ⊢
        exact h
      · simp only [List.mem_cons] at h ⊢
        rcases h with h | h
        · exact .inr (.inl h)
        · rcases mem_insert h with h | h
          · exact .inl h
          · exact .inr (.inr h)

theorem mem_erase {key : String} {e : String × α} :
    ∀ {l : List (String × α)}, e ∈ erase key l → e ∈ l
  | [], h => by simp [erase] at h
  | (k, v) :: rest, h => by
    unfold erase at h
    split at h
    · exact List.mem_cons_of_mem _ h
    · simp only [List.mem_cons] at h ⊢
      exact h.imp id mem_erase

theorem sorted_insert {key : String} {value : α} :
    ∀ {l : List (String × α)}, Sorted l → Sorted (insert key value l)
  | [], _ => by simp [insert, Sorted]
  | (k, v) :: rest, h => by
    have hrest : Sorted rest := List.Pairwise.of_cons h
    have hk : ∀ e ∈ rest, k < e.1 := fun e he => List.rel_of_pairwise_cons h he
    unfold insert
    split
    · next heq =>
      subst heq
      exact List.pairwise_cons.mpr ⟨hk, hrest⟩
    · next hne =>
      split
      · next hlt =>
        refine List.pairwise_cons.mpr ⟨fun e he => ?_, h⟩
        simp only [List.mem_cons] at he
        rcases he with rfl | he
        · exact hlt
        · exact String.lt_trans hlt (hk e he)
      · next hnlt =>
        have hkk : k < key := by
          rcases Decidable.em (k < key) with hlt | hge
          · exact hlt
          · exact absurd (String.le_antisymm (String.not_lt.mp hge) (String.not_lt.mp hnlt)) hne
        refine List.pairwise_cons.mpr ⟨fun e he => ?_, sorted_insert hrest⟩
        rcases mem_insert he with rfl | he
        · exact hkk
        · exact hk e he

theorem sorted_erase {key : String} :
    ∀ {l : List (String × α)}, Sorted l → Sorted (erase key l)
  | [], _ => by simp [erase, Sorted]
  | (k, v) :: rest, h => by
    have hrest : Sorted rest := List.Pairwise.of_cons h
    unfold erase
    split
    · exact hrest
    · exact List.pairwise_cons.mpr
        ⟨fun e he => List.rel_of_pairwise_cons h (mem_erase he), sorted_erase hrest⟩

end Assoc

/-- A finite map from texts, its entries in ascending order of the keys. -/
structure SortedMap (α : Type) where
  entries : List (String × α)
  sorted : Assoc.Sorted entries

namespace SortedMap

variable {α β : Type}

/-- The map without entries. -/
def empty : SortedMap α := ⟨[], List.Pairwise.nil⟩

instance : Inhabited (SortedMap α) := ⟨empty⟩

instance [BEq α] : BEq (SortedMap α) := ⟨fun a b => a.entries == b.entries⟩

/-- The value under a key. -/
def get? (m : SortedMap α) (key : String) : Option α := Assoc.get? key m.entries

/-- Whether a key has a value. -/
def contains (m : SortedMap α) (key : String) : Bool := (m.get? key).isSome

/-- The map with a value under a key, in place of any earlier one. -/
def insert (m : SortedMap α) (key : String) (value : α) : SortedMap α :=
  ⟨Assoc.insert key value m.entries, Assoc.sorted_insert m.sorted⟩

/-- The map without a key. -/
def erase (m : SortedMap α) (key : String) : SortedMap α :=
  ⟨Assoc.erase key m.entries, Assoc.sorted_erase m.sorted⟩

/-- The map with the entries of a list, the last one of a key counting. -/
def ofList (entries : List (String × α)) : SortedMap α :=
  entries.foldl (fun m e => m.insert e.1 e.2) empty

/-- The keys in ascending order. -/
def keys (m : SortedMap α) : List String := m.entries.map Prod.fst

theorem ext_entries {a b : SortedMap α} (h : a.entries = b.entries) : a = b := by
  cases a; cases b; simp_all

end SortedMap
end Gatehouse
