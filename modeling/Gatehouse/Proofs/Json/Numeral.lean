import Gatehouse.Proofs.Json.Grammar
/-!
# Numbers in JSON — the reader against the grammar

`numberParts?_numeral`: a numeral is read as its digits, if what follows cannot extend it.  `exists_numeral`: what is
read as a number is a numeral.
-/
namespace Gatehouse
namespace Json

open Text (bytes)

/-! ## Digits -/

theorem toNat_digitChar {d : Nat} (h : d < 10) : (Nat.digitChar d).toNat = 48 + d := Nat.toNat_digitChar_of_lt_ten h

theorem digitChar_ascii {d : Nat} (h : d < 10) : (Nat.digitChar d).toNat < 0x80 := by
  rw [toNat_digitChar h]
  omega

/-- A byte that is a digit. -/
theorem digit?_eq_some_iff {b : UInt8} {d : Nat} : digit? b = some d ↔ d < 10 ∧ b = byteOf (Nat.digitChar d) := by
  have h0 : (byteOf '0').toNat = 48 := rfl
  have h9 : (byteOf '9').toNat = 57 := rfl
  constructor
  · intro h
    unfold digit? at h
    split at h
    · rename_i hrange
      cases h
      simp only [Bool.and_eq_true, decide_eq_true_eq, UInt8.le_iff_toNat_le] at hrange
      refine ⟨by omega, ?_⟩
      rw [byteOf, toNat_digitChar (by omega), show 48 + (b.toNat - 48) = b.toNat by omega, UInt8.ofNat_toNat]
    · cases h
  · rintro ⟨hd, rfl⟩
    have hdigit : (Nat.digitChar d).isDigit = true := by simpa using hd
    rw [digit?_byteOf hdigit, toNat_digitChar hd, Nat.add_sub_cancel_left]

theorem digitChar_ne {d : Nat} (h : d < 10) {b : UInt8} (hb : digit? b = none) : byteOf (Nat.digitChar d) ≠ b := by
  rintro rfl
  rw [digit?_eq_some_iff.2 ⟨h, rfl⟩] at hb
  cases hb

theorem map_digitChar {ds : List Nat} (h : ∀ d ∈ ds, d < 10) :
    (ds.map Nat.digitChar).map (fun c => c.toNat - 48) = ds := by
  rw [List.map_map]
  refine (List.map_congr_left fun d hd => ?_).trans (List.map_id ds)
  rw [Function.comp_apply, toNat_digitChar (h d hd), Nat.add_sub_cancel_left]
  rfl

theorem digits_digitChar {ds : List Nat} (h : ∀ d ∈ ds, d < 10) {rest : Input}
    (hrest : ∀ b ∈ rest.head?, digit? b = none) : digits (bytes (ds.map Nat.digitChar) ++ rest) = (ds, rest) := by
  have hdigits : ∀ c ∈ ds.map Nat.digitChar, c.isDigit = true := by
    intro c hc
    obtain ⟨d, hd, rfl⟩ := List.mem_map.1 hc
    simpa using h d hd
  rw [digits_append hdigits hrest, map_digitChar h]

/-- What is read as digits are digits. -/
theorem digits_sound : ∀ (i : Input), (∀ d ∈ (digits i).1, d < 10) ∧
    i = bytes ((digits i).1.map Nat.digitChar) ++ (digits i).2
  | [] => ⟨by simp [digits], rfl⟩
  | b :: i => by
    obtain ⟨hlt, hi⟩ := digits_sound i
    cases hb : digit? b with
    | none => simp [digits, hb]
    | some d =>
      obtain ⟨hd, rfl⟩ := digit?_eq_some_iff.1 hb
      simp only [digits, hb, List.map_cons, List.mem_cons, forall_eq_or_imp, bytes_cons_ascii (digitChar_ascii hd),
        List.cons_append]
      exact ⟨⟨hd, hlt⟩, by rw [← hi]⟩

theorem exists_digits {i rest : Input} {ds : List Nat} (h : digits i = (ds, rest)) (hne : ds ≠ []) :
    AreDigits ds ∧ i = bytes (ds.map Nat.digitChar) ++ rest := by
  have hsound := digits_sound i
  rw [h] at hsound
  exact ⟨⟨hne, hsound.1⟩, hsound.2⟩

/-! ## Fraction and exponent -/

variable {rest : Input}

/-- What follows digits is no digit. -/
theorem Exponent.head {p : Option (Bool × List Nat)} {cs : List Char} (h : Exponent p cs) (hends : Ends rest) :
    ∀ b ∈ (bytes cs ++ rest).head?, digit? b = none ∧ b ≠ byteOf '.' := by
  intro b hb
  cases h with
  | absent => exact ⟨(hends b hb).1, (hends b hb).2.1⟩
  | present hmark =>
    rcases hmark with rfl | rfl <;> rw [bytes_cons_ascii (by decide)] at hb <;> cases hb <;> decide

theorem Fraction.head {f : Option (List Nat)} {cs : List Char} {p : Option (Bool × List Nat)} {es : List Char}
    (h : Fraction f cs) (hexponent : Exponent p es) (hends : Ends rest) :
    ∀ b ∈ (bytes cs ++ (bytes es ++ rest)).head?, digit? b = none := by
  intro b hb
  cases h with
  | absent => exact (hexponent.head hends b hb).1
  | present =>
    rw [bytes_cons_ascii (by decide)] at hb
    cases hb
    decide

theorem fraction?_fraction {f : Option (List Nat)} {cs : List Char} {p : Option (Bool × List Nat)} {es : List Char}
    (h : Fraction f cs) (hexponent : Exponent p es) (hends : Ends rest) :
    fraction? (bytes cs ++ (bytes es ++ rest)) = some (f, bytes es ++ rest) := by
  have hhead := hexponent.head hends
  cases h with
  | absent =>
    rw [Text.bytes_nil, List.nil_append]
    cases hi : bytes es ++ rest with
    | nil => rfl
    | cons b tl =>
      rw [hi] at hhead
      rw [fraction?, if_neg (hhead b rfl).2]
  | present hds =>
    have hread := digits_digitChar hds.2 fun b hb => (hhead b hb).1
    rw [bytes_cons_ascii (by decide), List.cons_append, fraction?, if_pos rfl, hread]
    obtain ⟨hne, -⟩ := hds
    split
    · rename_i heq
      exact absurd (Prod.mk.inj heq).1 hne
    · rename_i heq
      obtain ⟨rfl, rfl⟩ := Prod.mk.inj heq
      rfl

theorem exists_fraction {i rest : Input} {f : Option (List Nat)} (h : fraction? i = some (f, rest)) :
    ∃ cs, i = bytes cs ++ rest ∧ Fraction f cs := by
  unfold fraction? at h
  split at h
  · split at h
    · rename_i hb
      split at h
      · cases h
      · rename_i ds tl hne hdigits
        obtain ⟨rfl, rfl⟩ := Prod.mk.inj (Option.some.inj h)
        obtain ⟨hds, hi⟩ := exists_digits hdigits hne
        exact ⟨_, by rw [hb, hi, bytes_cons_ascii (by decide)]; rfl, .present hds⟩
    · obtain ⟨rfl, rfl⟩ := Prod.mk.inj (Option.some.inj h)
      exact ⟨[], rfl, .absent⟩
  · obtain ⟨rfl, rfl⟩ := Prod.mk.inj (Option.some.inj h)
    exact ⟨[], rfl, .absent⟩

/-- The sign of an exponent, if one stands there, and the input after it. -/
def signOf (i : Input) : Bool × Input :=
  match i with
  | s :: after => if s = byteOf '-' then (true, after) else if s = byteOf '+' then (false, after) else (false, i)
  | [] => (false, i)

theorem exponent?_mark {b : UInt8} (hb : b = byteOf 'e' ∨ b = byteOf 'E') {i rest : Input} {p : Option (Bool × List Nat)} :
    exponent? (b :: i) = some (p, rest) ↔
      ∃ ds, ds ≠ [] ∧ digits (signOf i).2 = (ds, rest) ∧ p = some ((signOf i).1, ds) := by
  have hread : exponent? (b :: i) =
      if (digits (signOf i).2).1 = [] then none
      else some (some ((signOf i).1, (digits (signOf i).2).1), (digits (signOf i).2).2) := by
    unfold exponent?
    refine (if_pos (by simpa using hb)).trans ?_
    cases i with
    | nil => rfl
    | cons s after =>
      by_cases hminus : s = byteOf '-'
      · simp only [signOf, if_pos hminus]
        rcases digits after with ⟨_ | ⟨d, ds⟩, tl⟩ <;> rfl
      by_cases hplus : s = byteOf '+'
      · simp only [signOf, if_neg hminus, if_pos hplus]
        rcases digits after with ⟨_ | ⟨d, ds⟩, tl⟩ <;> rfl
      · simp only [signOf, if_neg hminus, if_neg hplus]
        rcases digits (s :: after) with ⟨_ | ⟨d, ds⟩, tl⟩ <;> rfl
  rw [hread]
  constructor
  · intro h
    split at h
    · cases h
    · rename_i hne
      obtain ⟨rfl, rfl⟩ := Prod.mk.inj (Option.some.inj h)
      exact ⟨_, hne, rfl, rfl⟩
  · rintro ⟨ds, hne, heq, rfl⟩
    rw [heq, if_neg hne]

theorem signOf_sign {negative : Bool} {cs : List Char} {ds : List Nat} (h : Sign negative cs) (hds : AreDigits ds)
    (rest : Input) :
    signOf (bytes cs ++ (bytes (ds.map Nat.digitChar) ++ rest)) = (negative, bytes (ds.map Nat.digitChar) ++ rest) := by
  cases h with
  | absent =>
    obtain ⟨d, tl, rfl⟩ := List.exists_cons_of_ne_nil hds.1
    have hd := hds.2 d List.mem_cons_self
    rw [Text.bytes_nil, List.nil_append, List.map_cons, bytes_cons_ascii (digitChar_ascii hd), List.cons_append, signOf,
      if_neg (digitChar_ne hd rfl), if_neg (digitChar_ne hd rfl)]
  | plus => rfl
  | minus => rfl

theorem exists_sign (i : Input) : ∃ cs, Sign (signOf i).1 cs ∧ i = bytes cs ++ (signOf i).2 := by
  unfold signOf
  split
  · split
    · rename_i h
      exact ⟨['-'], .minus, by rw [h]; rfl⟩
    split
    · rename_i h
      exact ⟨['+'], .plus, by rw [h]; rfl⟩
    · exact ⟨[], .absent, rfl⟩
  · exact ⟨[], .absent, rfl⟩

theorem exponent?_exponent {p : Option (Bool × List Nat)} {cs : List Char} (h : Exponent p cs) (hends : Ends rest) :
    exponent? (bytes cs ++ rest) = some (p, rest) := by
  cases h with
  | absent => exact exponent?_of_ends hends
  | present hmark hsign hds =>
    have hread := digits_digitChar hds.2 fun b hb => (hends b hb).1
    have hascii : ∀ c, c = 'e' ∨ c = 'E' → c.toNat < 0x80 ∧ (byteOf c = byteOf 'e' ∨ byteOf c = byteOf 'E') := by
      rintro c (rfl | rfl) <;> decide
    obtain ⟨hlt, hbyte⟩ := hascii _ hmark
    rw [bytes_cons_ascii hlt, Text.bytes_append, List.cons_append, List.append_assoc]
    refine (exponent?_mark hbyte).2 ⟨_, hds.1, ?_, ?_⟩
    · rw [signOf_sign hsign hds, hread]
    · rw [signOf_sign hsign hds]

theorem exists_exponent {i rest : Input} {p : Option (Bool × List Nat)} (h : exponent? i = some (p, rest)) :
    ∃ cs, i = bytes cs ++ rest ∧ Exponent p cs := by
  have habsent (h : some (none, i) = some (p, rest)) : ∃ cs, i = bytes cs ++ rest ∧ Exponent p cs := by
    obtain ⟨rfl, rfl⟩ := Prod.mk.inj (Option.some.inj h)
    exact ⟨[], rfl, .absent⟩
  cases i with
  | nil => exact habsent h
  | cons b i =>
    by_cases hb : b = byteOf 'e' ∨ b = byteOf 'E'
    · obtain ⟨ds, hne, hdigits, rfl⟩ := (exponent?_mark hb).1 h
      obtain ⟨hds, hi⟩ := exists_digits hdigits hne
      obtain ⟨sign, hsign, hstart⟩ := exists_sign i
      obtain ⟨mark, hmark, hascii, rfl⟩ : ∃ mark, (mark = 'e' ∨ mark = 'E') ∧ mark.toNat < 0x80 ∧ b = byteOf mark := by
        rcases hb with rfl | rfl
        · exact ⟨'e', .inl rfl, by decide, rfl⟩
        · exact ⟨'E', .inr rfl, by decide, rfl⟩
      refine ⟨_, ?_, .present hmark hsign hds⟩
      rw [bytes_cons_ascii hascii, Text.bytes_append, List.cons_append, List.append_assoc, ← hi, ← hstart]
    · rw [exponent?.eq_def] at h
      dsimp only at h
      rw [if_neg (by simpa using hb)] at h
      exact habsent h

/-! ## Numbers -/

/-- The minus of a number, if one stands there, and the input after it. -/
def minusOf (i : Input) : Bool × Input :=
  match i with
  | b :: rest => if b = byteOf '-' then (true, rest) else (false, i)
  | [] => (false, i)

theorem numberParts?_eq_some_iff {i rest : Input} {p : Number.Parts} :
    numberParts? i = some (p, rest) ↔
      ∃ tail tail', digits (minusOf i).2 = (p.whole, tail) ∧ p.whole ≠ [] ∧ (p.whole.head? = some 0 → p.whole = [0]) ∧
        fraction? tail = some (p.fraction, tail') ∧ exponent? tail' = some (p.exponent, rest) ∧
        p.negative = (minusOf i).1 := by
  -- The digits are looked at by a test and not by their shape: no zero stands before others.
  have hread : numberParts? i =
      if (digits (minusOf i).2).1 ≠ [] ∧ ((digits (minusOf i).2).1.head? = some 0 → (digits (minusOf i).2).1 = [0]) then
        (fraction? (digits (minusOf i).2).2).bind fun f => (exponent? f.2).bind fun e =>
          some (⟨(minusOf i).1, (digits (minusOf i).2).1, f.1, e.1⟩, e.2)
      else none := by
    cases i with
    | nil => rfl
    | cons b tl =>
      by_cases hb : b = byteOf '-'
      · simp only [numberParts?, minusOf, if_pos hb]
        rcases digits tl with ⟨_ | ⟨_ | d, _ | ⟨e, es⟩⟩, rest⟩ <;> simp
      · simp only [numberParts?, minusOf, if_neg hb]
        rcases digits (b :: tl) with ⟨_ | ⟨_ | d, _ | ⟨e, es⟩⟩, rest⟩ <;> simp
  rw [hread]
  constructor
  · intro h
    split at h
    · rename_i hdigits
      obtain ⟨⟨fraction, tail'⟩, hfraction, h⟩ := Option.bind_eq_some_iff.1 h
      obtain ⟨⟨exponent, rest'⟩, hexponent, h⟩ := Option.bind_eq_some_iff.1 h
      obtain ⟨rfl, rfl⟩ := Prod.mk.inj (Option.some.inj h)
      exact ⟨_, _, rfl, hdigits.1, hdigits.2, hfraction, hexponent, rfl⟩
    · cases h
  · rintro ⟨tail, tail', hdigits, hne, hzero, hfraction, hexponent, hminus⟩
    rw [hdigits, if_pos ⟨hne, hzero⟩]
    simp only [Option.bind_some, hfraction, hexponent, ← hminus]

/-- **A numeral is read as its digits**, if nothing behind it extends it. -/
theorem numberParts?_numeral {p : Number.Parts} {cs : List Char} (h : Numeral p cs) (hends : Ends rest) :
    numberParts? (bytes cs ++ rest) = some (p, rest) := by
  cases h with
  | mk h hzero hfraction hexponent =>
    rename_i fraction exponent
    have hdigits := digits_digitChar h.2 (hfraction.head hexponent hends)
    have hminus : minusOf (bytes (if p.negative then ['-'] else []) ++
        (bytes (p.whole.map Nat.digitChar) ++ (bytes fraction ++ (bytes exponent ++ rest)))) =
        (p.negative, bytes (p.whole.map Nat.digitChar) ++ (bytes fraction ++ (bytes exponent ++ rest))) := by
      cases p.negative with
      | true => rfl
      | false =>
        obtain ⟨d, ds, hds⟩ := List.exists_cons_of_ne_nil h.1
        have hd := h.2 d (hds ▸ List.mem_cons_self)
        have hne : byteOf (Nat.digitChar d) ≠ byteOf '-' := digitChar_ne hd rfl
        simp only [hds, Bool.false_eq_true, if_false, Text.bytes_nil, List.nil_append, List.map_cons,
          bytes_cons_ascii (digitChar_ascii hd), List.cons_append, minusOf, if_neg hne]
    simp only [Text.bytes_append, List.append_assoc]
    refine numberParts?_eq_some_iff.2 ⟨_, _, ?_, h.1, hzero, fraction?_fraction hfraction hexponent hends,
      exponent?_exponent hexponent hends, ?_⟩
    · rw [hminus, hdigits]
    · rw [hminus]

/-- **What is read as a number is a numeral.** -/
theorem exists_numeral {i rest : Input} {p : Number.Parts} (h : numberParts? i = some (p, rest)) :
    ∃ cs, i = bytes cs ++ rest ∧ Numeral p cs := by
  obtain ⟨tail, tail', hdigits, hne, hzero, hfraction, hexponent, hminus⟩ := numberParts?_eq_some_iff.1 h
  obtain ⟨hds, hstart⟩ := exists_digits hdigits hne
  obtain ⟨fs, rfl, hfs⟩ := exists_fraction hfraction
  obtain ⟨es, rfl, hes⟩ := exists_exponent hexponent
  have hi : i = bytes (if (minusOf i).1 then ['-'] else []) ++ (minusOf i).2 := by
    unfold minusOf
    split
    · split
      · rename_i hb
        rw [hb]
        rfl
      · rfl
    · rfl
  refine ⟨_, ?_, .mk hds hzero hfs hes⟩
  rw [hminus]
  simp only [Text.bytes_append, List.append_assoc]
  rw [← hstart]
  exact hi

end Json
end Gatehouse
