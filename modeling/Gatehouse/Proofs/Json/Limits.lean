import Gatehouse.Proofs.Json.Grammar
import Gatehouse.Proofs.SortedMap
/-!
# JSON trees — the limits of a reader, and the members that an object keeps

`exists_value_iff`: the trees that have a value are those within the limits.  `value?_object_eq_some_iff`: the value of
an object is the list, in ascending order, of the last member of each name.
-/
namespace Gatehouse
namespace Json

/-- A tree is within the limits of a reader: its arrays and objects nest at most `depth` deep, no number in it is too
great for a binary64, and the surrogates in its texts and names come in pairs. -/
inductive Tree.Within : Nat → Tree → Prop
  | null {depth : Nat} : Within depth .null
  | bool {depth : Nat} {b : Bool} : Within depth (.bool b)
  | number {depth : Nat} {p : Number.Parts} {n : Number} (h : Number.ofParts? p = some n) : Within depth (.number p)
  | text {depth : Nat} {letters : List Letter} {s : String} (h : name? letters = some s) : Within depth (.text letters)
  | array {depth : Nat} {items : List Tree} (h : ∀ t ∈ items, Within depth t) : Within (depth + 1) (.array items)
  | object {depth : Nat} {members : List (List Letter × Tree)} (hname : ∀ m ∈ members, ∃ s, name? m.1 = some s)
      (h : ∀ m ∈ members, Within depth m.2) : Within (depth + 1) (.object members)

theorem exists_mapM_iff {f : α → Option β} : ∀ {xs : List α},
    (∃ ys, xs.mapM f = some ys) ↔ ∀ x ∈ xs, ∃ y, f x = some y
  | [] => by simp
  | x :: xs => by
    have ih : (∃ ys, xs.mapM f = some ys) ↔ ∀ x ∈ xs, ∃ y, f x = some y := exists_mapM_iff
    rw [List.forall_mem_cons, ← ih]
    constructor
    · rintro ⟨ys, h⟩
      rw [List.mapM_cons] at h
      obtain ⟨y, hy, h⟩ := Option.bind_eq_some_iff.1 h
      obtain ⟨zs, hzs, -⟩ := Option.bind_eq_some_iff.1 h
      exact ⟨⟨y, hy⟩, zs, hzs⟩
    · rintro ⟨⟨y, hy⟩, ys, hys⟩
      exact ⟨y :: ys, by rw [List.mapM_cons, hy, hys]; rfl⟩

theorem named?_eq_some_iff {value : Tree → Option Json} {m : List Letter × Tree} {e : String × Json} :
    named? value m = some e ↔ name? m.1 = some e.1 ∧ value m.2 = some e.2 := by
  obtain ⟨name, v⟩ := e
  unfold named?
  cases name? m.1 with
  | none => simp
  | some s =>
    cases value m.2 with
    | none => simp
    | some w => simp

theorem exists_array_iff {depth : Nat} (ih : ∀ {t : Tree}, (∃ v, t.value? depth = some v) ↔ t.Within depth)
    {items : List Tree} :
    (∃ v, (Tree.array items).value? (depth + 1) = some v) ↔ (Tree.array items).Within (depth + 1) := by
  have hitems : (∃ vs, items.mapM (Tree.value? depth) = some vs) ↔ ∀ t ∈ items, t.Within depth := by
    rw [exists_mapM_iff]
    simp only [ih]
  rw [Tree.value?]
  constructor
  · rintro ⟨v, h⟩
    obtain ⟨vs, hvs, -⟩ := Option.map_eq_some_iff.1 h
    exact .array (hitems.1 ⟨vs, hvs⟩)
  · rintro (_ | _ | _ | _ | h)
    obtain ⟨vs, hvs⟩ := hitems.2 h
    exact ⟨_, congrArg (Option.map Json.array) hvs⟩

theorem exists_object_iff {depth : Nat} (ih : ∀ {t : Tree}, (∃ v, t.value? depth = some v) ↔ t.Within depth)
    {members : List (List Letter × Tree)} :
    (∃ v, (Tree.object members).value? (depth + 1) = some v) ↔ (Tree.object members).Within (depth + 1) := by
  have hnamed : ∀ m, (∃ e, named? (Tree.value? depth) m = some e) ↔ (∃ s, name? m.1 = some s) ∧ m.2.Within depth := by
    intro m
    simp only [named?_eq_some_iff, ← ih]
    constructor
    · rintro ⟨e, hs, hv⟩
      exact ⟨⟨e.1, hs⟩, e.2, hv⟩
    · rintro ⟨⟨s, hs⟩, v, hv⟩
      exact ⟨(s, v), hs, hv⟩
  have hmembers : (∃ es, members.mapM (named? (Tree.value? depth)) = some es) ↔
      ∀ m ∈ members, (∃ s, name? m.1 = some s) ∧ m.2.Within depth := by
    rw [exists_mapM_iff]
    simp only [hnamed]
  rw [Tree.value?]
  constructor
  · rintro ⟨v, h⟩
    obtain ⟨es, hes, -⟩ := Option.map_eq_some_iff.1 h
    have hall := hmembers.1 ⟨es, hes⟩
    exact .object (fun m hm => (hall m hm).1) fun m hm => (hall m hm).2
  · rintro (_ | _ | _ | _ | _ | ⟨hname, h⟩)
    obtain ⟨es, hes⟩ := hmembers.2 fun m hm => ⟨hname m hm, h m hm⟩
    exact ⟨_, congrArg (Option.map ofMembers) hes⟩

/-- **The trees that have a value are those within the limits.** -/
theorem exists_value_iff {depth : Nat} {t : Tree} : (∃ v, t.value? depth = some v) ↔ t.Within depth := by
  induction depth using Nat.strongRecOn generalizing t with
  | _ depth ih =>
    cases t with
    | null => exact ⟨fun _ => .null, fun _ => ⟨.null, by rw [Tree.value?]⟩⟩
    | bool b => exact ⟨fun _ => .bool, fun _ => ⟨.bool b, by rw [Tree.value?]⟩⟩
    | number p =>
      rw [Tree.value?]
      constructor
      · rintro ⟨v, h⟩
        obtain ⟨n, hn, -⟩ := Option.map_eq_some_iff.1 h
        exact .number hn
      · rintro (_ | _ | h)
        exact ⟨_, congrArg (Option.map Json.number) h⟩
    | text letters =>
      rw [Tree.value?]
      constructor
      · rintro ⟨v, h⟩
        obtain ⟨s, hs, -⟩ := Option.map_eq_some_iff.1 h
        exact .text hs
      · rintro (_ | _ | _ | h)
        exact ⟨_, congrArg (Option.map Json.text) h⟩
    | array items =>
      cases depth with
      | zero =>
        rw [Tree.value?]
        constructor
        · rintro ⟨v, h⟩
          cases h
        · intro h
          cases h
      | succ depth => exact exists_array_iff (ih depth (Nat.lt_succ_self depth))
    | object members =>
      cases depth with
      | zero =>
        rw [Tree.value?]
        constructor
        · rintro ⟨v, h⟩
          cases h
        · intro h
          cases h
      | succ depth => exact exists_object_iff (ih depth (Nat.lt_succ_self depth))

/-! ## Arrays in arrays -/

/-- An empty array within as many others. -/
def nested : Nat → Tree
  | 0 => .array []
  | n + 1 => .array [nested n]

theorem spells_nested : ∀ n, Spells (nested n) (List.replicate (n + 1) '[' ++ List.replicate (n + 1) ']')
  | 0 => @Spells.array [] [] (.nil nofun)
  | n + 1 => by
    have hlisted := Listed.last (a := []) (b := []) nofun (spells_nested n) nofun
    have happend : List.replicate (n + 1 + 1) '[' ++ List.replicate (n + 1 + 1) ']' =
        '[' :: ([] ++ ((List.replicate (n + 1) '[' ++ List.replicate (n + 1) ']') ++ []) ++ [']']) := by
      rw [List.replicate_succ (n := n + 1) (a := '['), List.replicate_succ' (n := n + 1) (a := ']')]
      simp
    rw [happend]
    exact .array hlisted

theorem not_within_nested : ∀ n, ¬ (nested n).Within n
  | 0, h => by cases h
  | n + 1, h => by
    cases h with
    | array h => exact not_within_nested n (h _ (List.mem_singleton.2 rfl))

/-! ## Objects -/

/-- The last member of a name. -/
def last? (name : String) (members : List (List Letter × Tree)) : Option Tree :=
  (members.reverse.find? fun m => name? m.1 = some name).map Prod.snd

theorem last?_cons (name : String) (m : List Letter × Tree) (rest : List (List Letter × Tree)) :
    last? name (m :: rest) = (last? name rest).or (if name? m.1 = some name then some m.2 else none) := by
  unfold last?
  rw [List.reverse_cons, List.find?_append, Option.map_or]
  by_cases h : name? m.1 = some name <;> simp [h]

theorem last?_single (name : String) (t : Tree) : last? name [(name.toList.map .char, t)] = some t := by
  rw [last?_cons, name?_plain, String.ofList_toList, if_pos rfl]
  rfl

theorem within_single {depth : Nat} {name : List Char} {t : Tree} :
    (Tree.object [(name.map .char, t)]).Within (depth + 1) ↔ t.Within depth := by
  constructor
  · rintro (_ | _ | _ | _ | _ | ⟨-, h⟩)
    exact h _ (List.mem_singleton.2 rfl)
  · intro h
    refine .object (fun m hm => ?_) fun m hm => ?_
    · rw [List.mem_singleton.1 hm]
      exact ⟨_, name?_plain name⟩
    · rwa [List.mem_singleton.1 hm]

/-- The list that an object keeps of its members: the last of each name, in ascending order. -/
structure Keeps (depth : Nat) (members : List (List Letter × Tree)) (kept : List (String × Json)) : Prop where
  sorted : Assoc.Sorted kept
  get?_eq : ∀ name, Assoc.get? name kept = (last? name members).bind (Tree.value? depth)

theorem Keeps.unique {depth : Nat} {members : List (List Letter × Tree)} {kept kept' : List (String × Json)}
    (h : Keeps depth members kept) (h' : Keeps depth members kept') : kept = kept' :=
  Assoc.eq_of_get? h.sorted h'.sorted fun name => (h.get?_eq name).trans (h'.get?_eq name).symm

theorem value_of_last? {value : Tree → Option Json} {name : String} {t : Tree} :
    ∀ {members : List (List Letter × Tree)} {es : List (String × Json)}, members.mapM (named? value) = some es →
      last? name members = some t → ∃ v, value t = some v := by
  intro members es hes hlast
  obtain ⟨m, hm, rfl⟩ := Option.map_eq_some_iff.1 hlast
  obtain ⟨e, he⟩ := exists_mapM_iff.1 ⟨es, hes⟩ m (List.mem_reverse.1 (List.mem_of_find?_eq_some hm))
  exact ⟨e.2, (named?_eq_some_iff.1 he).2⟩

theorem get?_foldl_insert {value : Tree → Option Json} (name : String) :
    ∀ {members : List (List Letter × Tree)} {es acc : List (String × Json)}, members.mapM (named? value) = some es →
      Assoc.get? name (es.foldl (fun acc e => Assoc.insert e.1 e.2 acc) acc) =
        ((last? name members).bind value).or (Assoc.get? name acc)
  | [], es, acc, h => by
    obtain rfl := Option.some.inj h
    rfl
  | m :: rest, es, acc, h => by
    rw [List.mapM_cons] at h
    obtain ⟨e, he, h⟩ := Option.bind_eq_some_iff.1 h
    obtain ⟨es', hes, h⟩ := Option.bind_eq_some_iff.1 h
    obtain rfl := Option.some.inj h
    obtain ⟨hname, hvalue⟩ := named?_eq_some_iff.1 he
    rw [List.foldl_cons, get?_foldl_insert name hes, Assoc.get?_insert, last?_cons, hname]
    -- A later member of the name wins, and has a value since all of them have.
    cases hlast : last? name rest with
    | none => by_cases heq : e.1 = name <;> simp [heq, hvalue]
    | some t =>
      obtain ⟨v, hv⟩ := value_of_last? hes hlast
      simp [hv]

/-- **The value of an object is the list of the members that it keeps.** -/
theorem value?_object_eq_some_iff {depth : Nat} {members : List (List Letter × Tree)} {v : Json} :
    (Tree.object members).value? (depth + 1) = some v ↔
      (Tree.object members).Within (depth + 1) ∧ ∃ kept, v = .object kept ∧ Keeps depth members kept := by
  have hkeeps : ∀ {w}, (Tree.object members).value? (depth + 1) = some w →
      ∃ kept, w = .object kept ∧ Keeps depth members kept := by
    intro w hw
    rw [Tree.value?] at hw
    obtain ⟨es, hes, rfl⟩ := Option.map_eq_some_iff.1 hw
    refine ⟨_, rfl, sorted_foldl_insert es List.Pairwise.nil, fun name => ?_⟩
    rw [get?_foldl_insert name hes, Assoc.get?, Option.or_none]
  constructor
  · intro h
    exact ⟨exists_value_iff.1 ⟨v, h⟩, hkeeps h⟩
  · rintro ⟨hwithin, kept, rfl, hkept⟩
    obtain ⟨w, hw⟩ := exists_value_iff.2 hwithin
    obtain ⟨kept', rfl, hkept'⟩ := hkeeps hw
    rw [hw, hkept.unique hkept']

/-- Only objects have objects as values. -/
theorem object_of_value? {depth : Nat} {t : Tree} {kept : List (String × Json)} (h : t.value? depth = some (.object kept)) :
    ∃ members, t = .object members := by
  cases t with
  | object members => exact ⟨members, rfl⟩
  | array items =>
    cases depth with
    | zero =>
      rw [Tree.value?] at h
      cases h
    | succ depth =>
      rw [Tree.value?] at h
      obtain ⟨_, -, h⟩ := Option.map_eq_some_iff.1 h
      cases h
  | null | bool | number | text =>
    rw [Tree.value?] at h
    simp at h

end Json
end Gatehouse
