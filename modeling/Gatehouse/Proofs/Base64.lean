import Gatehouse.Base64
import Gatehouse.Proofs.Text
/-!
# Base64 — what is written reads back

`decode?_encode` for both alphabets, and `decodePadded?_encodePadded`; nothing else is read (`decode?_eq_some_iff`,
`decodePadded?_eq_some_iff`).  A text that is written without padding holds digits only (`isDigit_of_mem_encode`), so no
dot.
-/
namespace Gatehouse
namespace Base64

/-- A character of an alphabet. -/
def isDigit (a : Alphabet) (c : Char) : Bool := (value? a c).isSome

/-! ## Digits -/

theorem value?_digit (a : Alphabet) {n : Nat} (h : n < 64) : value? a (digit a n) = some n := by
  have hall : ∀ n < 64, value? .standard (digit .standard n) = some n ∧ value? .urlSafe (digit .urlSafe n) = some n := by
    decide
  cases a with
  | standard => exact (hall n h).1
  | urlSafe => exact (hall n h).2

/-- A character is the one of the digit that it stands for. -/
theorem eq_digit_of_value? {a : Alphabet} {c : Char} {n : Nat} (h : value? a c = some n) : n < 64 ∧ c = digit a n := by
  have hchar : Char.ofNat c.toNat = c := Char.ofNat_toNat c
  unfold value? at h
  unfold digit
  cases a <;> grind

/-- Characters that stand for digits are the characters of these digits. -/
theorem eq_map_digit_of_mapM {a : Alphabet} : ∀ {text : List Char} {ns : List Nat}, text.mapM (value? a) = some ns →
    (∀ n ∈ ns, n < 64) ∧ text = ns.map (digit a)
  | [], ns, h => by
    cases h
    simp
  | c :: cs, ns, h => by
    rw [List.mapM_cons] at h
    obtain ⟨n, hn, h⟩ := Option.bind_eq_some_iff.1 h
    obtain ⟨rest, hrest, h⟩ := Option.bind_eq_some_iff.1 h
    cases h
    obtain ⟨hlt, hc⟩ := eq_digit_of_value? hn
    obtain ⟨hall, hcs⟩ := eq_map_digit_of_mapM hrest
    rw [List.map_cons, ← hc, ← hcs]
    exact ⟨List.forall_mem_cons.2 ⟨hlt, hall⟩, rfl⟩

theorem mapM_value?_map_digit (a : Alphabet) : ∀ {ns : List Nat}, (∀ n ∈ ns, n < 64) →
    (ns.map (digit a)).mapM (value? a) = some ns
  | [], _ => rfl
  | n :: ns, h => by
    have ih := mapM_value?_map_digit a fun m hm => h m (List.mem_cons_of_mem n hm)
    rw [List.map_cons, List.mapM_cons, value?_digit a (h n List.mem_cons_self), ih]
    rfl

theorem digits_lt (bs : List UInt8) : ∀ n ∈ digits bs, n < 64 := by
  fun_induction digits bs with
  | case1 => exact fun n h => by cases h
  | case2 x =>
    have := x.toNat_lt
    simp only [List.mem_cons, List.not_mem_nil, or_false, forall_eq_or_imp, forall_eq]
    omega
  | case3 x y =>
    have := x.toNat_lt
    have := y.toNat_lt
    simp only [List.mem_cons, List.not_mem_nil, or_false, forall_eq_or_imp, forall_eq]
    omega
  | case4 x y z rest ih =>
    have := x.toNat_lt
    have := y.toNat_lt
    have := z.toNat_lt
    simp only [List.mem_cons, forall_eq_or_imp]
    exact ⟨by omega, by omega, by omega, by omega, ih⟩

/-! ## Bytes -/

theorem ofNat_eq_of_toNat {x : UInt8} {n : Nat} (h : n = x.toNat) : UInt8.ofNat n = x := by
  rw [h, UInt8.ofNat_toNat]

theorem toNat_ofNat {n : Nat} (h : n < 256) : (UInt8.ofNat n).toNat = n := UInt8.toNat_ofNat_of_lt' h

/-- **The bytes of the digits are the bytes.** -/
theorem bytes?_digits (bs : List UInt8) : bytes? (digits bs) = some bs := by
  fun_induction digits bs with
  | case1 => rfl
  | case2 x =>
    have hx := x.toNat_lt
    rw [bytes?, if_pos (by omega), ofNat_eq_of_toNat (x := x) (by omega)]
  | case3 x y =>
    have hx := x.toNat_lt
    have hy := y.toNat_lt
    rw [bytes?, if_pos (by omega), ofNat_eq_of_toNat (x := x) (by omega), ofNat_eq_of_toNat (x := y) (by omega)]
  | case4 x y z rest ih =>
    have hx := x.toNat_lt
    have hy := y.toNat_lt
    have hz := z.toNat_lt
    rw [bytes?, ih, Option.map_some, ofNat_eq_of_toNat (x := x) (by omega), ofNat_eq_of_toNat (x := y) (by omega),
      ofNat_eq_of_toNat (x := z) (by omega)]

/-- **The digits of the bytes are the digits**: reading drops no bit, since those beyond the last byte are zero. -/
theorem digits_of_bytes? {ns : List Nat} {bs : List UInt8} (hlt : ∀ n ∈ ns, n < 64) (h : bytes? ns = some bs) :
    digits bs = ns := by
  fun_induction bytes? ns generalizing bs with
  | case1 =>
    cases h
    rfl
  | case2 => cases h
  | case3 p q hq =>
    cases h
    simp only [List.mem_cons, List.not_mem_nil, or_false, forall_eq_or_imp, forall_eq] at hlt
    rw [digits, toNat_ofNat (by omega)]
    simp only [List.cons.injEq, and_true]
    omega
  | case4 => cases h
  | case5 p q r hr =>
    cases h
    simp only [List.mem_cons, List.not_mem_nil, or_false, forall_eq_or_imp, forall_eq] at hlt
    rw [digits, toNat_ofNat (by omega), toNat_ofNat (by omega)]
    simp only [List.cons.injEq, and_true]
    omega
  | case6 => cases h
  | case7 p q r s rest ih =>
    obtain ⟨bytes, hbytes, rfl⟩ := Option.map_eq_some_iff.1 h
    simp only [List.mem_cons, forall_eq_or_imp] at hlt
    obtain ⟨hp, hq, hr, hs, hrest⟩ := hlt
    rw [digits, ih hrest hbytes, toNat_ofNat (by omega), toNat_ofNat (by omega),
      toNat_ofNat (by omega)]
    simp only [List.cons.injEq, and_true]
    omega

/-- **What is written reads back.** -/
theorem decode?_encode (a : Alphabet) (bs : List UInt8) : decode? a (encode a bs) = some bs := by
  unfold decode? encode
  rw [mapM_value?_map_digit a (digits_lt bs)]
  exact bytes?_digits bs

/-- **Reading is canonical**: a text that is read is the one that is written. -/
theorem decode?_eq_some_iff {a : Alphabet} {text : List Char} {bs : List UInt8} :
    decode? a text = some bs ↔ text = encode a bs := by
  constructor
  · intro h
    obtain ⟨ns, hns, hbytes⟩ := Option.bind_eq_some_iff.1 h
    obtain ⟨hlt, htext⟩ := eq_map_digit_of_mapM hns
    rw [encode, digits_of_bytes? hlt hbytes, htext]
  · rintro rfl
    exact decode?_encode a bs

theorem isDigit_of_mem_encode (a : Alphabet) (bs : List UInt8) : ∀ c ∈ encode a bs, isDigit a c = true := by
  intro c hc
  obtain ⟨n, hn, rfl⟩ := List.mem_map.1 hc
  rw [isDigit, value?_digit a (digits_lt bs n hn)]
  rfl

theorem encode_ne_nil (a : Alphabet) {bs : List UInt8} (h : bs ≠ []) : encode a bs ≠ [] := fun hnil => by
  have hread := decode?_encode a bs
  rw [hnil] at hread
  exact h (Option.some.inj hread).symm

/-- Neither the dot nor the padding is a digit. -/
theorem ne_of_isDigit {a : Alphabet} {c : Char} (h : isDigit a c = true) : c ≠ '.' ∧ c ≠ '=' := by
  cases a <;> constructor <;> rintro rfl <;> revert h <;> decide

/-- The digits are visible. -/
theorem range_of_isDigit {a : Alphabet} {c : Char} (h : isDigit a c = true) : 0x20 < c.toNat ∧ c.toNat < 0x7F := by
  have hspecial : ∀ d, d = '+' ∨ d = '/' ∨ d = '-' ∨ d = '_' → 0x20 < d.toNat ∧ d.toNat < 0x7F := by
    rintro d (rfl | rfl | rfl | rfl) <;> decide
  by_cases hc : c = '+' ∨ c = '/' ∨ c = '-' ∨ c = '_'
  · exact hspecial c hc
  · simp only [not_or] at hc
    unfold isDigit value? at h
    cases a <;> grind

theorem dot_not_mem_encode (bytes : List UInt8) : '.' ∉ encode .urlSafe bytes := fun h =>
  (ne_of_isDigit (isDigit_of_mem_encode .urlSafe bytes '.' h)).1 rfl

/-! ## Padding -/

theorem range_of_mem_encodePadded {a : Alphabet} {bs : List UInt8} {c : Char} (h : c ∈ encodePadded a bs) :
    0x20 < c.toNat ∧ c.toNat < 0x7F := by
  rcases List.mem_append.1 h with hdigit | hpadding
  · exact range_of_isDigit (isDigit_of_mem_encode a bs c hdigit)
  · rw [(List.mem_replicate.1 hpadding).2]
    decide

/-- **What is written with padding reads back.** -/
theorem decodePadded?_encodePadded (a : Alphabet) (bs : List UInt8) : decodePadded? a (encodePadded a bs) = some bs := by
  have hequals : ∀ c ∈ List.replicate (padding (encode a bs).length) '=', decide (c = '=') = true := fun c hc =>
    decide_eq_true (List.mem_replicate.1 hc).2
  have hdigits : ∀ c ∈ encode a bs, decide (c = '=') = false := fun c hc =>
    decide_eq_false (ne_of_isDigit (isDigit_of_mem_encode a bs c hc)).2
  have hbody : Text.dropEnd (· = '=') (encodePadded a bs) = encode a bs := by
    rw [encodePadded, Text.dropEnd_append _ hequals, Text.dropEnd_of_forall hdigits]
  have hlength : (encodePadded a bs).length = (encode a bs).length + padding (encode a bs).length := by
    rw [encodePadded, List.length_append, List.length_replicate]
  unfold decodePadded?
  dsimp only
  rw [hbody, if_pos hlength, decode?_encode]

/-- **Reading is canonical with padding, too.** -/
theorem decodePadded?_eq_some_iff {a : Alphabet} {text : List Char} {bs : List UInt8} :
    decodePadded? a text = some bs ↔ text = encodePadded a bs := by
  constructor
  · intro h
    obtain ⟨tail, htext, htail⟩ := Text.exists_dropEnd (· = '=') text
    unfold decodePadded? at h
    dsimp only at h
    split at h
    · rename_i hlength
      have hbody := decode?_eq_some_iff.1 h
      have hequals : tail = List.replicate (padding (encode a bs).length) '=' := by
        refine List.eq_replicate_iff.2 ⟨?_, fun c hc => of_decide_eq_true (htail c hc)⟩
        have hsum := congrArg List.length htext
        rw [List.length_append] at hsum
        rw [← hbody]
        omega
      rw [encodePadded, ← hequals, ← hbody]
      exact htext
    · cases h
  · rintro rfl
    exact decodePadded?_encodePadded a bs

theorem encodePadded_inj {a : Alphabet} {bs cs : List UInt8} (h : encodePadded a bs = encodePadded a cs) : bs = cs := by
  have hread := decodePadded?_encodePadded a bs
  rw [h, decodePadded?_encodePadded] at hread
  exact (Option.some.inj hread).symm

end Base64
end Gatehouse
