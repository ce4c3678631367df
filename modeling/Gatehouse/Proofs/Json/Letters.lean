import Gatehouse.Proofs.Json.Grammar
/-!
# Texts in JSON — the reader against the grammar

`text?_letters`: letters and a closing quote are read as the text that they mean, and refused if they mean none.
`exists_letters`: what is read is spelled by letters.  A reader takes a text byte by byte and looks at its encoding only
at the end, so the second is an induction with the bytes that are still due of a character that has begun.
-/
namespace Gatehouse
namespace Json

open Text (bytes)

/-! ## Bytes of a character -/

/-- A byte that is not the first of a character. -/
def IsContinuation (b : UInt8) : Prop := 0x80 ≤ b.toNat ∧ b.toNat < 0xC0

theorem isContinuation_ofNat (n : Nat) : IsContinuation (UInt8.ofNat (n % 64 + 128)) := by
  have hlt : n % 64 + 128 < 256 := by omega
  have h : (UInt8.ofNat (n % 64 + 128)).toNat = n % 64 + 128 := UInt8.toNat_ofNat_of_lt hlt
  unfold IsContinuation
  omega

/-- **The first byte of a character tells itself from the others**, and an ASCII character has no others. -/
theorem encode_cases (c : Char) :
    (c.toNat < 0x80 ∧ String.utf8EncodeChar c = [byteOf c]) ∨
      (0x80 ≤ c.toNat ∧ ∃ b tl, String.utf8EncodeChar c = b :: tl ∧ 0xC0 ≤ b.toNat ∧ ∀ x ∈ tl, IsContinuation x) := by
  by_cases hascii : c.toNat < 0x80
  · exact .inl ⟨hascii, encode_ascii hascii⟩
  refine .inr ⟨Nat.le_of_not_lt hascii, ?_⟩
  have hval : ¬ c.val.toNat ≤ 127 := fun h => hascii (Nat.lt_succ_of_le h)
  have hfirst : ∀ {n : Nat}, 0xC0 ≤ n → n < 256 → 0xC0 ≤ (UInt8.ofNat n).toNat := by
    intro n hlo hhi
    have hto : (UInt8.ofNat n).toNat = n := UInt8.toNat_ofNat_of_lt hhi
    rwa [hto]
  unfold String.utf8EncodeChar
  dsimp only
  rw [if_neg hval]
  split
  · refine ⟨_, _, rfl, hfirst (by omega) (by omega), fun x hx => ?_⟩
    rw [List.mem_singleton.1 hx]
    exact isContinuation_ofNat _
  split
  · refine ⟨_, _, rfl, hfirst (by omega) (by omega), fun x hx => ?_⟩
    simp only [List.mem_cons, List.not_mem_nil, or_false] at hx
    rcases hx with rfl | rfl <;> exact isContinuation_ofNat _
  · refine ⟨_, _, rfl, hfirst (by omega) (by omega), fun x hx => ?_⟩
    simp only [List.mem_cons, List.not_mem_nil, or_false] at hx
    rcases hx with rfl | rfl | rfl <;> exact isContinuation_ofNat _

theorem toNat_byteOf {c : Char} (h : c.toNat < 0x80) : (byteOf c).toNat = c.toNat :=
  UInt8.toNat_ofNat_of_lt (Nat.lt_trans h (by decide))

theorem byteOf_inj {c d : Char} (hc : c.toNat < 0x80) (hd : d.toNat < 0x80) : byteOf c = byteOf d ↔ c = d := by
  constructor
  · intro h
    have hto := congrArg UInt8.toNat h
    rw [toNat_byteOf hc, toNat_byteOf hd] at hto
    exact Char.toNat_inj.1 hto
  · rintro rfl
    rfl

theorem toNat_charOf (b : UInt8) : (Char.ofNat b.toNat).toNat = b.toNat := by
  have hb := b.toNat_lt
  rw [Char.ofNat, dif_pos (.inl (by omega))]
  rfl

theorem byteOf_charOf (b : UInt8) : byteOf (Char.ofNat b.toNat) = b := by
  rw [byteOf, toNat_charOf, UInt8.ofNat_toNat]

/-- The character that the first byte of UTF-8 begins, and what is due of it. -/
theorem cons_of_bytes {cs : List Char} {b : UInt8} {out : List UInt8} (h : bytes cs = b :: out) :
    ∃ c tail rest, cs = c :: rest ∧ String.utf8EncodeChar c = b :: tail ∧ out = tail ++ bytes rest ∧
      ∀ x ∈ tail, IsContinuation x := by
  cases cs with
  | nil => cases h
  | cons c rest =>
    rw [Text.bytes_cons] at h
    rcases encode_cases c with ⟨-, henc⟩ | ⟨-, first, tail, henc, -, htail⟩
    · rw [henc, List.singleton_append, List.cons.injEq] at h
      exact ⟨c, [], rest, rfl, by rw [henc, h.1], h.2.symm, by simp⟩
    · rw [henc, List.cons_append, List.cons.injEq] at h
      exact ⟨c, tail, rest, rfl, by rw [henc, h.1], h.2.symm, htail⟩

theorem eq_of_bytes_append {cs : List Char} {c : Char} {out : List UInt8}
    (h : bytes cs = String.utf8EncodeChar c ++ out) : ∃ rest, cs = c :: rest ∧ out = bytes rest := by
  have hstart : bytes [c] ++ out = bytes cs := by rw [h, Text.bytes_cons, Text.bytes_nil, List.append_nil]
  obtain ⟨rest, rfl⟩ := Text.prefix_of_bytes hstart
  rw [Text.bytes_append] at hstart
  exact ⟨rest, rfl, List.append_cancel_left hstart⟩

/-! ## Hexadecimal digits -/

theorem hexDigit?_eq (b : UInt8) : hexDigit? b = Text.hexValue? (Char.ofNat b.toNat) := by
  have hto := toNat_charOf b
  have hval : (Char.ofNat b.toNat).val.toNat = b.toNat := hto
  simp only [hexDigit?, Text.hexValue?, byteOf, UInt8.le_iff_toNat_le, Char.le_def, UInt32.le_iff_toNat_le, hval, hto]
  rfl

theorem lt_of_hexValue? {c : Char} {n : Nat} (h : Text.hexValue? c = some n) : c.toNat < 0x80 := by
  simp only [Text.hexValue?, Bool.and_eq_true, decide_eq_true_eq, Char.le_def, UInt32.le_iff_toNat_le] at h
  have hto : c.val.toNat = c.toNat := rfl
  split at h
  · rename_i hd
    have h9 : '9'.val.toNat = 57 := rfl
    omega
  split at h
  · rename_i hd
    have hf : 'f'.val.toNat = 102 := rfl
    omega
  split at h
  · rename_i hd
    have hF : 'F'.val.toNat = 70 := rfl
    omega
  · cases h

theorem hexDigit?_byteOf {c : Char} {n : Nat} (h : Text.hexValue? c = some n) : hexDigit? (byteOf c) = some n := by
  rw [hexDigit?_eq, toNat_byteOf (lt_of_hexValue? h), Char.ofNat_toNat, h]

theorem exists_of_hexDigit? {b : UInt8} {n : Nat} (h : hexDigit? b = some n) :
    ∃ c, b = byteOf c ∧ Text.hexValue? c = some n :=
  ⟨Char.ofNat b.toNat, (byteOf_charOf b).symm, hexDigit?_eq b ▸ h⟩

theorem hex4?_byteOf {a b c d : Char} {i j k l : Nat} (ha : Text.hexValue? a = some i) (hb : Text.hexValue? b = some j)
    (hc : Text.hexValue? c = some k) (hd : Text.hexValue? d = some l) :
    hex4? (byteOf a) (byteOf b) (byteOf c) (byteOf d) = some (((i * 16 + j) * 16 + k) * 16 + l) := by
  simp only [hex4?, hexDigit?_byteOf ha, hexDigit?_byteOf hb, hexDigit?_byteOf hc, hexDigit?_byteOf hd,
    Option.bind_eq_bind, Option.bind_some, Option.pure_def]

theorem bytes_code {a b c d : Char} {i j k l : Nat} (ha : Text.hexValue? a = some i) (hb : Text.hexValue? b = some j)
    (hc : Text.hexValue? c = some k) (hd : Text.hexValue? d = some l) :
    bytes ['\\', 'u', a, b, c, d] =
      [byteOf '\\', byteOf 'u', byteOf a, byteOf b, byteOf c, byteOf d] := by
  rw [bytes_cons_ascii (by decide), bytes_cons_ascii (by decide), bytes_cons_ascii (lt_of_hexValue? ha),
    bytes_cons_ascii (lt_of_hexValue? hb), bytes_cons_ascii (lt_of_hexValue? hc),
    bytes_cons_ascii (lt_of_hexValue? hd), Text.bytes_nil]

/-- **Four hexadecimal digits are a code.** -/
theorem code_of_hex4? {a b c d : UInt8} {n : Nat} (h : hex4? a b c d = some n) :
    ∃ cs, LetterOf (.code n) cs ∧ bytes cs = [byteOf '\\', byteOf 'u', a, b, c, d] := by
  obtain ⟨i, hi, hrest⟩ := Option.bind_eq_some_iff.1 h
  obtain ⟨j, hj, hrest⟩ := Option.bind_eq_some_iff.1 hrest
  obtain ⟨k, hk, hrest⟩ := Option.bind_eq_some_iff.1 hrest
  obtain ⟨l, hl, hrest⟩ := Option.bind_eq_some_iff.1 hrest
  obtain rfl := Option.some.inj hrest
  obtain ⟨ca, rfl, ha⟩ := exists_of_hexDigit? hi
  obtain ⟨cb, rfl, hb⟩ := exists_of_hexDigit? hj
  obtain ⟨cc, rfl, hc⟩ := exists_of_hexDigit? hk
  obtain ⟨cd, rfl, hd⟩ := exists_of_hexDigit? hl
  exact ⟨_, .code ha hb hc hd, bytes_code ha hb hc hd⟩

theorem hex4?_of_code {n : Nat} {cs : List Char} (h : LetterOf (.code n) cs) :
    ∃ a b c d, hex4? a b c d = some n ∧
      ∀ rest, bytes cs ++ rest = byteOf '\\' :: byteOf 'u' :: a :: b :: c :: d :: rest := by
  cases h with
  | code ha hb hc hd =>
    exact ⟨_, _, _, _, hex4?_byteOf ha hb hc hd, fun rest => by rw [bytes_code ha hb hc hd]; rfl⟩

/-! ## Letters are read -/

theorem escaped?_of_mem {mark c : Char} (h : (mark, c) ∈ escapes) :
    mark.toNat < 0x80 ∧ mark ≠ 'u' ∧ c.toNat < 0x80 ∧ escaped? (byteOf mark) = some (byteOf c) := by
  simp only [escapes, List.mem_cons, List.not_mem_nil, or_false, Prod.mk.injEq] at h
  rcases h with ⟨rfl, rfl⟩ | ⟨rfl, rfl⟩ | ⟨rfl, rfl⟩ | ⟨rfl, rfl⟩ | ⟨rfl, rfl⟩ | ⟨rfl, rfl⟩ | ⟨rfl, rfl⟩ | ⟨rfl, rfl⟩ <;>
    decide

variable {a b c d : UInt8} {n : Nat}

theorem isLowSurrogate_of_high (h : isHighSurrogate n = true) : isLowSurrogate n = false := by
  simp only [isHighSurrogate, isLowSurrogate, Bool.and_eq_true, decide_eq_true_eq, Bool.and_eq_false_iff,
    decide_eq_false_iff_not] at h ⊢
  omega

theorem textBytes?_single (h : hex4? a b c d = some n) (hlow : isLowSurrogate n = false)
    (hhigh : isHighSurrogate n = false) (acc rest : Input) :
    textBytes? acc (byteOf '\\' :: byteOf 'u' :: a :: b :: c :: d :: rest) =
      textBytes? ((scalarBytes n).reverse ++ acc) rest := by
  conv => lhs; rw [textBytes?.eq_def]
  dsimp only
  rw [if_neg (by decide), if_pos rfl, if_pos rfl, h]
  simp only [hlow, hhigh, Bool.false_eq_true, if_false]

theorem textBytes?_low (h : hex4? a b c d = some n) (hlow : isLowSurrogate n = true) (acc rest : Input) :
    textBytes? acc (byteOf '\\' :: byteOf 'u' :: a :: b :: c :: d :: rest) = none := by
  rw [textBytes?.eq_def]
  dsimp only
  rw [if_neg (by decide), if_pos rfl, if_pos rfl, h]
  simp only [hlow, if_true]

theorem textBytes?_pair {e f g i : UInt8} {m : Nat} (h : hex4? a b c d = some n) (hhigh : isHighSurrogate n = true)
    (hcode : hex4? e f g i = some m) (acc rest : Input) :
    textBytes? acc (byteOf '\\' :: byteOf 'u' :: a :: b :: c :: d :: byteOf '\\' :: byteOf 'u' :: e :: f :: g :: i :: rest) =
      if isLowSurrogate m then textBytes? ((String.utf8EncodeChar (paired n m)).reverse ++ acc) rest else none := by
  conv => lhs; rw [textBytes?.eq_def]
  dsimp only
  rw [if_neg (by decide), if_pos rfl, if_pos rfl, h]
  simp only [isLowSurrogate_of_high hhigh, hhigh, hcode, Bool.false_eq_true, if_false, if_true, decide_true, Bool.and_self]
  rfl

theorem textBytes?_lone (h : hex4? a b c d = some n) (hhigh : isHighSurrogate n = true) (acc : Input) {rest : Input}
    (hrest : ∀ tl, rest ≠ byteOf '\\' :: byteOf 'u' :: tl) :
    textBytes? acc (byteOf '\\' :: byteOf 'u' :: a :: b :: c :: d :: rest) = none := by
  rw [textBytes?.eq_def]
  dsimp only
  rw [if_neg (by decide), if_pos rfl, if_pos rfl, h]
  simp only [isLowSurrogate_of_high hhigh, hhigh, Bool.false_eq_true, if_false, if_true]
  split
  · rw [if_neg]
    simp only [Bool.and_eq_true, decide_eq_true_eq]
    rintro ⟨rfl, rfl⟩
    exact hrest _ rfl
  · rfl

/-- Letters begin with a code if they begin with its mark. -/
theorem ne_code_of_letters {letters : List Letter} {cs : List Char} (h : Letters letters cs)
    (hcode : ∀ m rest, letters ≠ .code m :: rest) (tail tl : Input) :
    bytes cs ++ byteOf '"' :: tail ≠ byteOf '\\' :: byteOf 'u' :: tl := by
  have hslash : '\\'.toNat < 0x80 := by decide
  have hquote : byteOf '"' ≠ byteOf '\\' := by decide
  intro he
  cases h with
  | nil => exact hquote (List.cons.inj he).1
  | cons h hrest =>
    cases h with
    | @plain c hcontrol hquote hne =>
      rw [List.singleton_append, Text.bytes_cons, List.append_assoc] at he
      rcases encode_cases c with ⟨hascii, henc⟩ | ⟨-, b, tl', henc, hb, -⟩
      · rw [henc] at he
        exact hne ((byteOf_inj hascii hslash).1 (List.cons.inj he).1)
      · rw [henc] at he
        rw [(List.cons.inj he).1] at hb
        revert hb
        decide
    | escape hmem =>
      obtain ⟨hascii, hu, -, -⟩ := escaped?_of_mem hmem
      rw [List.cons_append, List.singleton_append, bytes_cons_ascii hslash, bytes_cons_ascii hascii] at he
      exact hu ((byteOf_inj hascii (by decide)).1 (List.cons.inj (List.cons.inj he).2).1)
    | code => exact hcode _ _ rfl

theorem reverse_encode_append (acc : Input) (c : Char) (out : List Char) :
    ((String.utf8EncodeChar c).reverse ++ acc).reverse ++ bytes out = acc.reverse ++ bytes (c :: out) := by
  rw [List.reverse_append, List.reverse_reverse, Text.bytes_cons, List.append_assoc]

theorem textBytes?_char {c : Char} {cs : List Char} (h : LetterOf (.char c) cs) (acc rest : Input) :
    textBytes? acc (bytes cs ++ rest) = textBytes? ((String.utf8EncodeChar c).reverse ++ acc) rest := by
  cases h with
  | plain hcontrol hquote hslash =>
    rw [Text.bytes_cons, Text.bytes_nil, List.append_nil]
    exact textBytes?_plains acc rest (isPlain_encode hquote hslash hcontrol)
  | escape hmem =>
    obtain ⟨hascii, hu, hc, hescape⟩ := escaped?_of_mem hmem
    have hne : ¬ byteOf _ = byteOf 'u' := mt (byteOf_inj hascii (by decide)).1 hu
    rw [bytes_cons_ascii (by decide), bytes_cons_ascii hascii, Text.bytes_nil, encode_ascii hc]
    exact textBytes?_escape hescape hne acc rest

/-- **Letters are read as the characters that they mean**, and refused if they mean none. -/
theorem textBytes?_letters : ∀ {letters : List Letter} {cs : List Char}, Letters letters cs → ∀ acc rest : Input,
    textBytes? acc (bytes cs ++ byteOf '"' :: rest) =
      (characters? letters).map fun out => (acc.reverse ++ bytes out, rest)
  | [], _, .nil, acc, rest => by
    rw [Text.bytes_nil, List.nil_append, textBytes?.eq_def, characters?, Option.map_some, Text.bytes_nil,
      List.append_nil]
    exact if_pos rfl
  | .char c :: letters, _, .cons h hrest, acc, rest => by
    rw [Text.bytes_append, List.append_assoc, textBytes?_char h, textBytes?_letters hrest, characters?, Option.map_map]
    simp only [Function.comp_def, reverse_encode_append]
  | .code n :: letters, _, .cons h hrest, acc, rest => by
    obtain ⟨a, b, c, d, hcode, happend⟩ := hex4?_of_code h
    rw [Text.bytes_append, List.append_assoc, happend]
    unfold characters?
    by_cases hlow : isLowSurrogate n
    · rw [if_pos hlow, Option.map_none, textBytes?_low hcode hlow]
    rw [if_neg hlow]
    by_cases hhigh : isHighSurrogate n
    · rw [if_pos hhigh]
      -- The first half of a pair: the reader and the letters both look at what stands next.
      cases hrest with
      | nil => exact textBytes?_lone hcode hhigh acc (ne_code_of_letters .nil (fun _ _ h => by cases h) rest)
      | cons h' hrest' =>
        rename_i letter letters cs ds
        cases letter with
        | char e =>
          exact textBytes?_lone hcode hhigh acc (ne_code_of_letters (.cons h' hrest') (fun _ _ h => by cases h) rest)
        | code m =>
          obtain ⟨a', b', c', d', hcode', happend'⟩ := hex4?_of_code h'
          rw [Text.bytes_append, List.append_assoc, happend', textBytes?_pair hcode hhigh hcode']
          by_cases hpair : isLowSurrogate m
          · simp only [if_pos hpair, textBytes?_letters hrest', Option.map_map, Function.comp_def, reverse_encode_append]
          · simp only [if_neg hpair, Option.map_none]
    · rw [if_neg hhigh, textBytes?_single hcode (by simpa using hlow) (by simpa using hhigh)]
      simp only [scalarBytes, textBytes?_letters hrest, Option.map_map, Function.comp_def, reverse_encode_append]

/-- **A quoted text is read as the text that its letters mean**, and refused if they mean none. -/
theorem text?_letters {letters : List Letter} {cs : List Char} (h : Letters letters cs) (rest : Input) :
    text? (bytes cs ++ byteOf '"' :: rest) = (name? letters).map (·, rest) := by
  rw [text?, textBytes?_letters h, name?]
  cases characters? letters with
  | none => rfl
  | some out =>
    simp only [Option.map_some, Option.bind_eq_bind, Option.bind_some, List.reverse_nil, List.nil_append,
      Text.ofUtf8?_bytes, Option.pure_def]

/-! ## What is read is letters -/

/-- What a reader gives after a step holds the bytes of the step next. -/
theorem exists_of_step {acc new i out rest due : Input} (h : textBytes? (new.reverse ++ acc) i = some (out, rest))
    (hout : out = acc.reverse ++ due) : ∃ more, due = new ++ more ∧ out = (new.reverse ++ acc).reverse ++ more := by
  obtain ⟨more, hmore⟩ := prefix_of_textBytes? h
  refine ⟨more, ?_, hmore.symm⟩
  rw [hout, List.reverse_append, List.reverse_reverse, List.append_assoc] at hmore
  exact (List.append_cancel_left hmore).symm

theorem eq_nil_of_due {tail more : Input} {cs : List Char} {c : Char} (htail : ∀ x ∈ tail, IsContinuation x)
    (h : tail ++ bytes cs = String.utf8EncodeChar c ++ more) : tail = [] ∧ ∃ rest, cs = c :: rest ∧ more = bytes rest := by
  cases tail with
  | nil => exact ⟨rfl, eq_of_bytes_append h⟩
  | cons x tail =>
    have hx : 0x80 ≤ x.toNat ∧ x.toNat < 0xC0 := htail x List.mem_cons_self
    rcases encode_cases c with ⟨hascii, henc⟩ | ⟨-, b, tl, henc, hb, -⟩
    · rw [henc, List.cons_append, List.singleton_append] at h
      rw [(List.cons.inj h).1, toNat_byteOf hascii] at hx
      omega
    · rw [henc, List.cons_append, List.cons_append] at h
      rw [(List.cons.inj h).1] at hx
      omega

theorem exists_escape {e x : UInt8} (h : escaped? e = some x) :
    ∃ c cs, LetterOf (.char c) cs ∧ bytes cs = [byteOf '\\', e] ∧ String.utf8EncodeChar c = [x] := by
  have hletter {mark c : Char} (hmem : (mark, c) ∈ escapes) :
      ∃ c' cs, LetterOf (.char c') cs ∧ bytes cs = [byteOf '\\', byteOf mark] ∧
        String.utf8EncodeChar c' = [byteOf c] := by
    obtain ⟨hmark, -, hc, -⟩ := escaped?_of_mem hmem
    exact ⟨c, _, .escape hmem, by rw [bytes_cons_ascii (by decide), bytes_cons_ascii hmark, Text.bytes_nil],
      encode_ascii hc⟩
  unfold escaped? at h
  split at h
  · rename_i hself
    cases h
    simp only [Bool.or_eq_true, decide_eq_true_eq] at hself
    rcases hself with (rfl | rfl) | rfl <;> exact hletter (by simp [escapes])
  split at h
  · rename_i he
    rw [he]
    cases h
    exact hletter (c := '\x08') (by simp [escapes])
  split at h
  · rename_i he
    rw [he]
    cases h
    exact hletter (c := '\x0C') (by simp [escapes])
  split at h
  · rename_i he
    rw [he]
    cases h
    exact hletter (c := '\n') (by simp [escapes])
  split at h
  · rename_i he
    rw [he]
    cases h
    exact hletter (c := '\r') (by simp [escapes])
  split at h
  · rename_i he
    rw [he]
    cases h
    exact hletter (c := '\t') (by simp [escapes])
  · cases h

/-- A byte that a reader takes as it is begins a character that stands for itself. -/
theorem letterOf_of_plain {b : UInt8} {c : Char} {tl : Input} (hc : String.utf8EncodeChar c = b :: tl)
    (hquote : ¬ b = byteOf '"') (hslash : ¬ b = byteOf '\\') (hcontrol : ¬ b < 0x20) : LetterOf (.char c) [c] := by
  rcases encode_cases c with ⟨hascii, henc⟩ | ⟨hwide, -⟩
  · obtain ⟨rfl, rfl⟩ := List.cons.inj (henc.symm.trans hc)
    refine .plain (fun hlt => hcontrol ?_) (fun he => hquote (by rw [he])) (fun he => hslash (by rw [he]))
    rw [UInt8.lt_iff_toNat_lt, toNat_byteOf hascii]
    exact hlt
  · refine .plain (by omega) ?_ ?_
    · rintro rfl
      revert hwide
      decide
    · rintro rfl
      revert hwide
      decide

/-- An input is letters that mean some characters, and a closing quote before the rest. -/
def Quotes (cs : List Char) (i rest : Input) : Prop :=
  ∃ letters ds, i = bytes ds ++ byteOf '"' :: rest ∧ Letters letters ds ∧ characters? letters = some cs

theorem Quotes.char {cs ds : List Char} {i rest : Input} {e : Char} (h : Quotes cs i rest) (hletter : LetterOf (.char e) ds) :
    Quotes (e :: cs) (bytes ds ++ i) rest := by
  obtain ⟨letters, es, rfl, hletters, hmeans⟩ := h
  refine ⟨.char e :: letters, ds ++ es, ?_, .cons hletter hletters, ?_⟩
  · rw [Text.bytes_append, List.append_assoc]
  · rw [characters?, hmeans, Option.map_some]

theorem Quotes.single {cs : List Char} {i rest : Input} (h : Quotes cs i rest) (hcode : hex4? a b c d = some n)
    (hlow : ¬ isLowSurrogate n = true) (hhigh : ¬ isHighSurrogate n = true) :
    Quotes (Char.ofNat n :: cs) (byteOf '\\' :: byteOf 'u' :: a :: b :: c :: d :: i) rest := by
  obtain ⟨letters, es, rfl, hletters, hmeans⟩ := h
  obtain ⟨ds, hletter, hds⟩ := code_of_hex4? hcode
  refine ⟨.code n :: letters, ds ++ es, ?_, .cons hletter hletters, ?_⟩
  · rw [Text.bytes_append, hds]
    rfl
  · rw [characters?.eq_def]
    dsimp only
    rw [if_neg hlow, if_neg hhigh, hmeans, Option.map_some]

theorem Quotes.pair {cs : List Char} {i rest : Input} {e f g j : UInt8} {m : Nat} (h : Quotes cs i rest)
    (hcode : hex4? a b c d = some n) (hhigh : isHighSurrogate n = true) (hcode' : hex4? e f g j = some m)
    (hlow : isLowSurrogate m = true) :
    Quotes (paired n m :: cs)
      (byteOf '\\' :: byteOf 'u' :: a :: b :: c :: d :: byteOf '\\' :: byteOf 'u' :: e :: f :: g :: j :: i) rest := by
  obtain ⟨letters, es, rfl, hletters, hmeans⟩ := h
  obtain ⟨ds, hletter, hds⟩ := code_of_hex4? hcode
  obtain ⟨ds', hletter', hds'⟩ := code_of_hex4? hcode'
  refine ⟨.code n :: .code m :: letters, ds ++ (ds' ++ es), ?_, .cons hletter (.cons hletter' hletters), ?_⟩
  · rw [Text.bytes_append, Text.bytes_append, hds, hds']
    rfl
  · rw [characters?, isLowSurrogate_of_high hhigh, if_neg (by simp), if_pos hhigh, if_pos hlow, hmeans, Option.map_some]

/-- Where a character has been read whole, what follows it is read as the rest. -/
theorem quotes_after {acc i out rest tail : Input} {cs : List Char} {e : Char}
    (h : textBytes? ((String.utf8EncodeChar e).reverse ++ acc) i = some (out, rest))
    (ih : ∀ {tail : Input} {cs : List Char}, (∀ x ∈ tail, IsContinuation x) →
      out = ((String.utf8EncodeChar e).reverse ++ acc).reverse ++ (tail ++ bytes cs) →
        ∃ i', i = tail ++ i' ∧ Quotes cs i' rest)
    (htail : ∀ x ∈ tail, IsContinuation x) (hout : out = acc.reverse ++ (tail ++ bytes cs)) :
    tail = [] ∧ ∃ cs', cs = e :: cs' ∧ Quotes cs' i rest := by
  obtain ⟨more, hdue, hmore⟩ := exists_of_step h hout
  obtain ⟨hnil, cs', hcs, rfl⟩ := eq_nil_of_due htail hdue
  have hnone : ∀ x ∈ ([] : Input), IsContinuation x := nofun
  obtain ⟨i', hi, hquotes⟩ := ih hnone hmore
  rw [List.nil_append] at hi
  exact ⟨hnil, cs', hcs, hi ▸ hquotes⟩

/-- **What is read is quoted**, behind the bytes `tail` that are still due of a character begun. -/
theorem quotes_of_textBytes? {acc i out rest : Input} (h : textBytes? acc i = some (out, rest)) :
    ∀ {tail : Input} {cs : List Char}, (∀ x ∈ tail, IsContinuation x) → out = acc.reverse ++ (tail ++ bytes cs) →
      ∃ i', i = tail ++ i' ∧ Quotes cs i' rest := by
  fun_induction textBytes? acc i with
  | case1 | case3 | case4 | case5 | case6 | case8 | case9 | case10 | case12 | case14 | case15 => cases h
  | case2 acc i =>
    intro tail cs htail hout
    obtain ⟨rfl, rfl⟩ := Prod.mk.inj (Option.some.inj h)
    obtain ⟨rfl, hnil⟩ := List.append_eq_nil_iff.1 (List.append_right_eq_self.1 hout.symm)
    have hcs : cs = [] := by
      cases cs with
      | nil => rfl
      | cons e cs =>
        rw [Text.bytes_cons] at hnil
        exact absurd (List.append_eq_nil_iff.1 hnil).1 (by rcases encode_cases e with ⟨-, he⟩ | ⟨-, _, _, he, -⟩ <;> simp [he])
    exact ⟨_, rfl, [], [], rfl, .nil, by rw [hcs]; rfl⟩
  | case7 acc a b c d n hcode hlow hhigh s u e f g j i hmark m hcode' hlow' _ _ ih =>
    intro tail cs htail hout
    obtain ⟨rfl, cs', rfl, hquotes⟩ := quotes_after h (ih h) htail hout
    simp only [Bool.and_eq_true, decide_eq_true_eq] at hmark
    rw [hmark.1, hmark.2]
    exact ⟨_, rfl, hquotes.pair hcode hhigh hcode' hlow'⟩
  | case11 acc a b c d i n hcode hlow hhigh _ ih =>
    intro tail cs htail hout
    obtain ⟨rfl, cs', rfl, hquotes⟩ := quotes_after h (ih h) htail hout
    exact ⟨_, rfl, hquotes.single hcode hlow hhigh⟩
  | case13 acc e i hu x hescape _ ih =>
    intro tail cs htail hout
    obtain ⟨e', ds, hletter, hds, henc⟩ := exists_escape hescape
    have hacc : x :: acc = (String.utf8EncodeChar e').reverse ++ acc := by rw [henc]; rfl
    rw [hacc] at h ih
    obtain ⟨rfl, cs', rfl, hquotes⟩ := quotes_after h (ih h) htail hout
    have hchar := hquotes.char hletter
    rw [hds] at hchar
    exact ⟨_, rfl, hchar⟩
  | case16 acc b i hquote hslash hcontrol ih =>
    intro tail cs htail hout
    have hstep : textBytes? ([b].reverse ++ acc) i = some (out, rest) := h
    obtain ⟨more, hdue, hmore⟩ := exists_of_step hstep hout
    cases tail with
    | cons x tail =>
      -- The byte is one of those that are due.
      rw [List.cons_append, List.singleton_append, List.cons.injEq] at hdue
      obtain ⟨rfl, rfl⟩ := hdue
      obtain ⟨i', rfl, hquotes⟩ := ih h (fun y hy => htail y (List.mem_cons_of_mem x hy)) hmore
      exact ⟨i', rfl, hquotes⟩
    | nil =>
      -- The byte begins a character, of which the bytes behind it are due.
      have hbytes : bytes cs = b :: more := hdue
      obtain ⟨e, due, cs', rfl, henc, rfl, hcontinue⟩ := cons_of_bytes hbytes
      obtain ⟨i', rfl, hquotes⟩ := ih h hcontinue hmore
      have hchar := hquotes.char (letterOf_of_plain henc hquote hslash hcontrol)
      rw [Text.bytes_cons, Text.bytes_nil, henc, List.append_nil] at hchar
      exact ⟨_, rfl, hchar⟩

/-- **What is read as a text is quoted.** -/
theorem exists_letters {i rest : Input} {s : String} (h : text? i = some (s, rest)) :
    ∃ letters cs, i = bytes cs ++ byteOf '"' :: rest ∧ Letters letters cs ∧ name? letters = some s := by
  obtain ⟨⟨out, rest'⟩, hread, h⟩ := Option.bind_eq_some_iff.1 h
  obtain ⟨s', hs, h⟩ := Option.bind_eq_some_iff.1 h
  obtain ⟨rfl, rfl⟩ := Prod.mk.inj (Option.some.inj h)
  have hnone : ∀ x ∈ ([] : Input), IsContinuation x := nofun
  obtain ⟨i', hi, letters, cs, hquote, hletters, hmeans⟩ :=
    quotes_of_textBytes? hread hnone (Text.ofUtf8?_eq_some_iff.1 hs)
  rw [List.nil_append] at hi
  exact ⟨letters, cs, hi.trans hquote, hletters, by rw [name?, hmeans, Option.map_some, String.ofList_toList]⟩

end Json
end Gatehouse
