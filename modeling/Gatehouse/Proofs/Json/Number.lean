import Gatehouse.Proofs.Json.Text
/-!
# Integers in JSON — what is written reads back

`scalar?_int`: an integer that a reader keeps exactly is read back from its decimal text, provided that what follows
cannot extend it (`Ends`).
-/
namespace Gatehouse
namespace Json

open Text (bytes)

/-! ## Digits -/

/-- The decimal digits of a natural. -/
def decimals (m : Nat) : List Nat := (Nat.toDigits 10 m).map fun c => c.toNat - 48

/-- What may follow a number: nothing that extends it. -/
def Ends (i : Input) : Prop :=
  ∀ b ∈ i.head?, digit? b = none ∧ b ≠ byteOf '.' ∧ b ≠ byteOf 'e' ∧ b ≠ byteOf 'E'

theorem toNat_of_isDigit {c : Char} (h : c.isDigit = true) : 48 ≤ c.toNat ∧ c.toNat ≤ 57 := by
  simp only [Char.isDigit, Bool.and_eq_true, decide_eq_true_eq, ge_iff_le, UInt32.le_iff_toNat_le] at h
  exact h

theorem digit?_byteOf {c : Char} (h : c.isDigit = true) : digit? (byteOf c) = some (c.toNat - 48) := by
  have hb := toNat_of_isDigit h
  have hall : ∀ n ≤ 57, 48 ≤ n → digit? (UInt8.ofNat n) = some (n - 48) := by decide
  exact hall c.toNat hb.2 hb.1

theorem isDigit_lt {c : Char} (h : c.isDigit = true) : c.toNat < 0x80 :=
  Nat.lt_of_le_of_lt (toNat_of_isDigit h).2 (by decide)

/-- **The digits at the start of the input are those that were written.** -/
theorem digits_append : ∀ {cs : List Char} {rest : Input}, (∀ c ∈ cs, c.isDigit = true) →
    (∀ b ∈ rest.head?, digit? b = none) → digits (bytes cs ++ rest) = (cs.map fun c => c.toNat - 48, rest)
  | [], [], _, _ => rfl
  | [], b :: rest, _, hr => by
    rw [Text.bytes_nil, List.nil_append, digits, hr b rfl]
    rfl
  | c :: cs, rest, h, hr => by
    have hc := h c List.mem_cons_self
    rw [bytes_cons_ascii (isDigit_lt hc), List.cons_append, digits, digit?_byteOf hc]
    simp only [digits_append (fun x hx => h x (List.mem_cons_of_mem c hx)) hr, List.map_cons]

theorem isDigit_of_mem_toDigits (m : Nat) : ∀ c ∈ Nat.toDigits 10 m, c.isDigit = true := fun _ h =>
  Nat.isDigit_of_mem_toDigits (by decide) (by decide) h

theorem digits_toDigits (m : Nat) {rest : Input} (hr : Ends rest) :
    digits (bytes (Nat.toDigits 10 m) ++ rest) = (decimals m, rest) :=
  digits_append (isDigit_of_mem_toDigits m) fun b hb => (hr b hb).1

theorem foldl_decimals (m : Nat) : (decimals m).foldl (fun n d => n * 10 + d) 0 = m := by
  have h := Nat.ofDigitChars_ten_toDigits (n := m)
  rw [Nat.ofDigitChars_eq_foldl] at h
  rw [decimals, List.foldl_map]
  conv => rhs; rw [← h]
  simp only [Nat.mul_comm 10, Char.reduceToNat]

theorem decimals_ne_nil (m : Nat) : decimals m ≠ [] := fun h => Nat.toDigits_ne_nil (List.map_eq_nil_iff.1 h)

/-- A positive natural is written without a leading zero. -/
theorem decimals_head (m : Nat) : 0 < m → ∀ ds, decimals m ≠ 0 :: ds := by
  induction m using Nat.base_induction 10 (by decide) with
  | single m hm =>
    intro hpos ds h
    have hall : ∀ m < 10, 0 < m → (decimals m).head? ≠ some 0 := by decide
    exact hall m hm hpos (by rw [h]; rfl)
  | digit m k hk hm ih =>
    intro _ ds h
    rw [decimals, ← Nat.toDigits_append_toDigits (by decide) hm hk, List.map_append] at h
    obtain ⟨x, xs, hx⟩ := List.exists_cons_of_ne_nil (decimals_ne_nil m)
    rw [show (Nat.toDigits 10 m).map (fun c => c.toNat - 48) = x :: xs from hx, List.cons_append,
      List.cons.injEq] at h
    exact ih hm xs (h.1 ▸ hx)

/-- A leading zero stands alone. -/
theorem decimals_cases (m : Nat) : decimals m = [0] ∨ ∃ d ds, decimals m = (d + 1) :: ds := by
  rcases Nat.eq_zero_or_pos m with rfl | hm
  · exact .inl rfl
  · obtain ⟨d, ds, h⟩ := List.exists_cons_of_ne_nil (decimals_ne_nil m)
    cases d with
    | zero => exact absurd h (decimals_head m hm ds)
    | succ d => exact .inr ⟨d, ds, h⟩

/-! ## Numbers -/

theorem le_foldl (ds : List Nat) (n : Nat) : n ≤ ds.foldl (fun n d => n * 10 + d) n := by
  induction ds generalizing n with
  | nil => exact Nat.le_refl n
  | cons d ds ih =>
    rw [List.foldl_cons]
    exact Nat.le_trans (by omega) (ih (n * 10 + d))

/-- A significand takes in all digits of a number that fits. -/
theorem absorb_of_le : ∀ (ds : List Nat) (n : Nat), ds.foldl (fun n d => n * 10 + d) n ≤ Number.maxSignificand →
    Number.absorb n ds = (ds.foldl (fun n d => n * 10 + d) n, [])
  | [], _, _ => rfl
  | d :: ds, n, h => by
    rw [List.foldl_cons] at h ⊢
    rw [Number.absorb, if_pos (Nat.le_trans (le_foldl ds _) h), absorb_of_le ds _ h]

/-- An integer that a reader keeps exactly. -/
def IsExact (n : Int) : Prop := -(2 ^ 63) ≤ n ∧ n < 2 ^ 64

theorem ofParts?_int {n : Int} (h : IsExact n) :
    Number.ofParts? ⟨decide (n < 0), decimals n.natAbs, none, none⟩ = some (.int n) := by
  obtain ⟨hlo, hhi⟩ := h
  have hab : Number.absorb 0 (decimals n.natAbs) = (n.natAbs, []) := by
    have hf := foldl_decimals n.natAbs
    rw [absorb_of_le _ 0 (by rw [hf]; unfold Number.maxSignificand; omega), hf]
  unfold Number.ofParts?
  simp only [hab]
  unfold Number.ofSignificand?
  by_cases hn : n < 0
  · rw [decide_eq_true hn, if_pos rfl, if_pos (by simp only [Bool.and_eq_true, decide_eq_true_eq]; omega)]
    simp only [Option.some.injEq, Number.int.injEq]
    omega
  · rw [decide_eq_false hn, if_neg (by simp)]
    simp only [Option.some.injEq, Number.int.injEq]
    omega

theorem fraction?_of_ends {rest : Input} (hr : Ends rest) : fraction? rest = some (none, rest) := by
  cases rest with
  | nil => rfl
  | cons b rest => rw [fraction?, if_neg (hr b rfl).2.1]

theorem exponent?_of_ends {rest : Input} (hr : Ends rest) : exponent? rest = some (none, rest) := by
  cases rest with
  | nil => rfl
  | cons b rest =>
    obtain ⟨-, -, he, hE⟩ := hr b rfl
    unfold exponent?
    dsimp only
    rw [if_neg (by simp [he, hE])]

/-- The text of an integer: a sign for a negative one, and the digits. -/
theorem toList_toString (n : Int) :
    (toString n).toList = (if n < 0 then ['-'] else []) ++ Nat.toDigits 10 n.natAbs := by
  rw [Int.toString_eq_repr, Int.repr_eq_if]
  by_cases hn : n < 0
  · have habs : (-n).toNat = n.natAbs := by omega
    rw [if_neg (by omega), if_pos hn, String.toList_append, Nat.toList_repr, habs]
    rfl
  · have habs : n.toNat = n.natAbs := by omega
    rw [if_pos (by omega), if_neg hn, Nat.toList_repr, habs]
    rfl

/-- The digits of a natural begin with a digit. -/
theorem bytes_toDigits (m : Nat) : ∃ c tl, c.isDigit = true ∧ bytes (Nat.toDigits 10 m) = byteOf c :: tl := by
  obtain ⟨c, cs, h⟩ := List.exists_cons_of_ne_nil (Nat.toDigits_ne_nil (n := m) (b := 10))
  have hc := isDigit_of_mem_toDigits m c (h ▸ List.mem_cons_self)
  exact ⟨c, bytes cs, hc, by rw [h, bytes_cons_ascii (isDigit_lt hc)]⟩

/-- **The parts of an integer's text.** -/
theorem numberParts?_int (n : Int) {rest : Input} (hr : Ends rest) :
    numberParts? (bytes (toString n).toList ++ rest) =
      some (⟨decide (n < 0), decimals n.natAbs, none, none⟩, rest) := by
  have hd := digits_toDigits n.natAbs hr
  rw [toList_toString]
  by_cases hn : n < 0
  · rw [if_pos hn, List.singleton_append, bytes_cons_ascii (by decide), List.cons_append, decide_eq_true hn]
    rcases decimals_cases n.natAbs with h | ⟨d, ds, h⟩ <;> rw [h] at hd ⊢ <;>
      simp only [numberParts?, if_true, hd, fraction?_of_ends hr, exponent?_of_ends hr, Option.bind_eq_bind,
        Option.bind_some, Option.pure_def]
  · obtain ⟨c, tl, hc, hb⟩ := bytes_toDigits n.natAbs
    have hne : ¬ byteOf c = byteOf '-' := fun h => by
      have hminus : digit? (byteOf '-') = none := rfl
      rw [← h, digit?_byteOf hc] at hminus
      cases hminus
    rw [if_neg hn, List.nil_append, decide_eq_false hn]
    rw [hb, List.cons_append] at hd ⊢
    rcases decimals_cases n.natAbs with h | ⟨d, ds, h⟩ <;> rw [h] at hd ⊢ <;>
      simp only [numberParts?, if_neg hne, hd, fraction?_of_ends hr, exponent?_of_ends hr, Option.bind_eq_bind,
        Option.bind_some, Option.pure_def]

/-- The text of an integer begins with a minus sign or a digit. -/
theorem bytes_int (n : Int) :
    ∃ b tl, bytes (toString n).toList = b :: tl ∧ (b = byteOf '-' ∨ (digit? b).isSome = true) := by
  rw [toList_toString]
  by_cases hn : n < 0
  · exact ⟨byteOf '-', bytes (Nat.toDigits 10 n.natAbs),
      by rw [if_pos hn, List.singleton_append, bytes_cons_ascii (by decide)], .inl rfl⟩
  · obtain ⟨c, tl, hc, hb⟩ := bytes_toDigits n.natAbs
    exact ⟨byteOf c, tl, by rw [if_neg hn, List.nil_append, hb], .inr (by rw [digit?_byteOf hc]; rfl)⟩

/-- A byte that is no sign and no digit does not begin an integer. -/
theorem ne_of_begins {b : UInt8} (h : b = byteOf '-' ∨ (digit? b).isSome = true) (c : UInt8)
    (hc : ¬ c = byteOf '-' ∧ digit? c = none) : ¬ b = c := by
  rintro rfl
  rcases h with h | h
  · exact hc.1 h
  · rw [hc.2] at h
    cases h

/-- **An integer reads back.** -/
theorem scalar?_int {n : Int} (h : IsExact n) {rest : Input} (hr : Ends rest) :
    scalar? (bytes (toString n).toList ++ rest) = some (int n, rest) := by
  have hparts := numberParts?_int n hr
  obtain ⟨b, tl, hb, hbegins⟩ := bytes_int n
  have hne := ne_of_begins hbegins
  rw [hb, List.cons_append] at hparts ⊢
  unfold scalar?
  dsimp only
  rw [if_neg (hne _ (by decide)), if_neg (hne _ (by decide)), if_neg (hne _ (by decide)), if_neg (hne _ (by decide)),
    hparts]
  simp only [Option.bind_eq_bind, Option.bind_some, ofParts?_int h]
  rfl

end Json
end Gatehouse
