import Gatehouse.Json.Printer
import Gatehouse.Json.Reader
import Gatehouse.Proofs.Text
/-!
# Texts in JSON — what is quoted reads back

`text?_quote`: the reader of a text gives back what `quote` wrote, whatever follows the closing quote.  Characters are
followed one at a time (`textBytes?_escapeChar`): an escaped one is two or six bytes, any other one is its UTF-8 form,
which holds neither a quote nor a backslash nor a control byte.
-/
namespace Gatehouse
namespace Json

open Text (bytes)

theorem encode_ascii {c : Char} (h : c.toNat < 0x80) : String.utf8EncodeChar c = [byteOf c] := by
  unfold String.utf8EncodeChar
  exact if_pos (Nat.le_of_lt_succ h)

theorem bytes_cons_ascii {c : Char} (h : c.toNat < 0x80) (cs : List Char) : bytes (c :: cs) = byteOf c :: bytes cs := by
  rw [Text.bytes_cons, encode_ascii h]
  rfl

/-! ## Bytes that stand for themselves -/

/-- A byte that a reader of texts takes as it is. -/
def IsPlain (b : UInt8) : Prop := 0x20 ≤ b.toNat ∧ b.toNat ≠ 0x22 ∧ b.toNat ≠ 0x5C

theorem isPlain_ofNat {n : Nat} (h : n < 256) (hp : 0x20 ≤ n ∧ n ≠ 0x22 ∧ n ≠ 0x5C) : IsPlain (UInt8.ofNat n) := by
  have hn : (UInt8.ofNat n).toNat = n := UInt8.toNat_ofNat_of_lt h
  unfold IsPlain
  rwa [hn]

/-- **A character that needs no escape is written in plain bytes.** -/
theorem isPlain_encode {c : Char} (hq : c ≠ '"') (hb : c ≠ '\\') (hc : ¬ c.toNat < 0x20) :
    ∀ b ∈ String.utf8EncodeChar c, IsPlain b := by
  have h22 : c.val.toNat ≠ 0x22 := fun h => hq (Char.ext (UInt32.toNat_inj.1 h))
  have h5C : c.val.toNat ≠ 0x5C := fun h => hb (Char.ext (UInt32.toNat_inj.1 h))
  have h20 : 0x20 ≤ c.val.toNat := Nat.le_of_not_lt hc
  unfold String.utf8EncodeChar
  intro b h
  dsimp only at h
  split at h
  · rw [List.mem_singleton.1 h]
    exact isPlain_ofNat (by omega) ⟨h20, h22, h5C⟩
  split at h
  · simp only [List.mem_cons, List.not_mem_nil, or_false] at h
    rcases h with rfl | rfl <;> exact isPlain_ofNat (by omega) (by omega)
  split at h
  · simp only [List.mem_cons, List.not_mem_nil, or_false] at h
    rcases h with rfl | rfl | rfl <;> exact isPlain_ofNat (by omega) (by omega)
  · simp only [List.mem_cons, List.not_mem_nil, or_false] at h
    rcases h with rfl | rfl | rfl | rfl <;> exact isPlain_ofNat (by omega) (by omega)

theorem textBytes?_plain {b : UInt8} (h : IsPlain b) (acc rest : List UInt8) :
    textBytes? acc (b :: rest) = textBytes? (b :: acc) rest := by
  obtain ⟨h20, h22, h5C⟩ := h
  have hq : ¬ b = byteOf '"' := fun e => h22 (by rw [e]; rfl)
  have hb : ¬ b = byteOf '\\' := fun e => h5C (by rw [e]; rfl)
  have hc : ¬ b < 0x20 := fun hlt => Nat.not_lt.2 h20 (UInt8.lt_iff_toNat_lt.1 hlt)
  conv => lhs; rw [textBytes?.eq_def]
  dsimp only
  rw [if_neg hq, if_neg hb, if_neg hc]

theorem textBytes?_plains : ∀ {bs : List UInt8} (acc rest : List UInt8), (∀ b ∈ bs, IsPlain b) →
    textBytes? acc (bs ++ rest) = textBytes? (bs.reverse ++ acc) rest
  | [], _, _, _ => rfl
  | b :: bs, acc, rest, h => by
    rw [List.cons_append, textBytes?_plain (h b List.mem_cons_self),
      textBytes?_plains (b :: acc) rest fun x hx => h x (List.mem_cons_of_mem b hx), List.reverse_cons,
      List.append_assoc, List.singleton_append]

/-! ## Escapes -/

theorem textBytes?_escape {e x : UInt8} (he : escaped? e = some x) (hu : ¬ e = byteOf 'u') (acc rest : List UInt8) :
    textBytes? acc (byteOf '\\' :: e :: rest) = textBytes? (x :: acc) rest := by
  conv => lhs; rw [textBytes?.eq_def]
  dsimp only
  rw [if_neg (by decide), if_pos rfl, if_neg hu, he]

theorem textBytes?_codePoint {a b c d : UInt8} {n : Nat} (h : hex4? a b c d = some n) (hn : n < 0xD800)
    (acc rest : List UInt8) :
    textBytes? acc (byteOf '\\' :: byteOf 'u' :: a :: b :: c :: d :: rest) =
      textBytes? ((scalarBytes n).reverse ++ acc) rest := by
  have hl : isLowSurrogate n = false := by simp [isLowSurrogate]; omega
  have hh : isHighSurrogate n = false := by simp [isHighSurrogate]; omega
  conv => lhs; rw [textBytes?.eq_def]
  dsimp only
  rw [if_neg (by decide), if_pos rfl, if_pos rfl, h]
  simp only [hl, hh, Bool.false_eq_true, if_false]

theorem hexDigit_spec : ∀ d < 16, (hexDigit d).toNat < 0x80 ∧ hexDigit? (byteOf (hexDigit d)) = some d := by decide

/-- **An escaped character reads as itself.** -/
theorem textBytes?_escapeChar (c : Char) (acc rest : List UInt8) :
    textBytes? acc (bytes (escapeChar c) ++ rest) = textBytes? ((String.utf8EncodeChar c).reverse ++ acc) rest := by
  unfold escapeChar
  by_cases hq : c = '"'
  · subst hq
    exact textBytes?_escape rfl (by decide) acc rest
  by_cases hb : c = '\\'
  · subst hb
    exact textBytes?_escape rfl (by decide) acc rest
  rw [if_neg hq, if_neg hb]
  by_cases hc : c.toNat < 0x20
  · have hcc : c = Char.ofNat c.toNat := (Char.ofNat_toNat c).symm
    rw [if_pos hc]
    split
    · rename_i h; rw [hcc, h]; exact textBytes?_escape rfl (by decide) acc rest
    · rename_i h; rw [hcc, h]; exact textBytes?_escape rfl (by decide) acc rest
    · rename_i h; rw [hcc, h]; exact textBytes?_escape rfl (by decide) acc rest
    · rename_i h; rw [hcc, h]; exact textBytes?_escape rfl (by decide) acc rest
    · rename_i h; rw [hcc, h]; exact textBytes?_escape rfl (by decide) acc rest
    · obtain ⟨h1, v1⟩ := hexDigit_spec (c.toNat / 16) (by omega)
      obtain ⟨h2, v2⟩ := hexDigit_spec (c.toNat % 16) (by omega)
      have hex : hex4? (byteOf '0') (byteOf '0') (byteOf (hexDigit (c.toNat / 16)))
          (byteOf (hexDigit (c.toNat % 16))) = some c.toNat := by
        have h0 : hexDigit? (byteOf '0') = some 0 := rfl
        simp only [hex4?, h0, v1, v2, Option.bind_eq_bind, Option.bind_some, Option.pure_def, Option.some.injEq]
        omega
      have hchar : scalarBytes c.toNat = String.utf8EncodeChar c := by rw [scalarBytes, Char.ofNat_toNat]
      rw [bytes_cons_ascii (by decide), bytes_cons_ascii (by decide), bytes_cons_ascii (by decide),
        bytes_cons_ascii (by decide), bytes_cons_ascii h1, bytes_cons_ascii h2, Text.bytes_nil, ← hchar]
      exact textBytes?_codePoint hex (by omega) acc rest
  · rw [if_neg hc, Text.bytes_cons, Text.bytes_nil, List.append_nil]
    exact textBytes?_plains acc rest (isPlain_encode hq hb hc)

/-! ## Texts -/

theorem textBytes?_quoted : ∀ (cs : List Char) (acc rest : List UInt8),
    textBytes? acc (bytes (cs.flatMap escapeChar) ++ byteOf '"' :: rest) = some (acc.reverse ++ bytes cs, rest)
  | [], acc, rest => by
    rw [List.flatMap_nil, Text.bytes_nil, List.nil_append, textBytes?.eq_def, List.append_nil]
    exact if_pos rfl
  | c :: cs, acc, rest => by
    rw [List.flatMap_cons, Text.bytes_append, List.append_assoc, textBytes?_escapeChar, textBytes?_quoted cs,
      List.reverse_append, List.reverse_reverse, Text.bytes_cons, List.append_assoc]

/-- **What is quoted reads back.** -/
theorem text?_quote (s : String) (rest : List UInt8) :
    text? (bytes (s.toList.flatMap escapeChar ++ ['"']) ++ rest) = some (s, rest) := by
  have hq : bytes ['"'] = [byteOf '"'] := rfl
  unfold text?
  rw [Text.bytes_append, hq, List.append_assoc, List.singleton_append, textBytes?_quoted]
  simp only [List.reverse_nil, List.nil_append, Option.bind_eq_bind, Option.bind_some, Text.ofUtf8?_bytes,
    String.ofList_toList, Option.pure_def]

theorem bytes_quote (s : String) : bytes (quote s) = byteOf '"' :: bytes (s.toList.flatMap escapeChar ++ ['"']) := by
  rw [quote, bytes_cons_ascii (by decide)]

/-! ## What is taken -/

theorem prefix_of_step {acc new out : List UInt8} (h : (new.reverse ++ acc).reverse <+: out) : acc.reverse <+: out := by
  rw [List.reverse_append, List.reverse_reverse] at h
  exact (List.prefix_append _ _).trans h

/-- What a reader gives begins with what it has already taken. -/
theorem prefix_of_textBytes? {acc i out rest : List UInt8} (h : textBytes? acc i = some (out, rest)) :
    acc.reverse <+: out := by
  fun_induction textBytes? acc i with
  | case1 | case3 | case4 | case5 | case6 | case8 | case9 | case10 | case12 | case14 | case15 => cases h
  | case2 acc i =>
    obtain ⟨rfl, -⟩ := Prod.mk.inj (Option.some.inj h)
    exact List.prefix_rfl
  | case7 acc a b c d n _ _ _ s u e f g j i _ m _ _ _ _ ih => exact prefix_of_step (ih h)
  | case11 acc a b c d i n _ _ _ _ ih => exact prefix_of_step (ih h)
  | case13 acc e i _ x _ _ ih => exact @prefix_of_step acc [x] _ (ih h)
  | case16 acc b i _ _ _ ih => exact @prefix_of_step acc [b] _ (ih h)

end Json
end Gatehouse
