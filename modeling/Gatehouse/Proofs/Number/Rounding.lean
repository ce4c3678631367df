import Gatehouse.Number.Binary64
/-!
# Rounding to a binary64

`exists_ofRatio?`: a ratio of at least one that is not too great has a nearest number, and that is `Near` it: the
relative error is 2^-53 at most, no power of two is passed, and from 2^52 on it is whole.
-/
namespace Gatehouse
namespace Binary64

/-- **The quotient is rounded to nearest.** -/
theorem divRound_bounds {n d : Nat} (hd : 0 < d) :
    2 * (divRound n d * d) ≤ 2 * n + d ∧ 2 * n ≤ 2 * (divRound n d * d) + d := by
  have hn : n / d * d + n % d = n := Nat.div_add_mod' n d
  have hr : n % d < d := Nat.mod_lt n hd
  unfold divRound
  dsimp only
  split
  · rename_i h
    simp only [Bool.or_eq_true, Bool.and_eq_true, decide_eq_true_eq] at h
    rw [Nat.add_mul, Nat.one_mul]
    omega
  · rename_i h
    simp only [Bool.or_eq_true, Bool.and_eq_true, decide_eq_true_eq, not_or, not_and] at h
    omega

/-! ## Units -/

variable {num den f : Nat}

theorem inUnits_of_le (h : 52 ≤ f) : inUnits num den ((f : Int) - 52) = (num, den * 2 ^ (f - 52)) := by
  have hto : ((f : Int) - 52).toNat = f - 52 := by omega
  rw [inUnits, if_pos (by omega), hto]

theorem inUnits_of_lt (h : f < 52) : inUnits num den ((f : Int) - 52) = (num * 2 ^ (52 - f), den) := by
  have hto : (-((f : Int) - 52)).toNat = 52 - f := by omega
  rw [inUnits, if_neg (by omega), hto]

theorem pow_split (h : f ≤ 52) : 2 ^ f * 2 ^ (52 - f) = 2 ^ 52 := by
  rw [← Nat.pow_add, Nat.add_sub_cancel' h]

theorem pow_split' (h : 52 ≤ f) : 2 ^ (f - 52) * 2 ^ 52 = 2 ^ f := by
  rw [← Nat.pow_add, Nat.sub_add_cancel h]

/-- The same ratio in units of 2 ^ (f - 52). -/
theorem inUnits_mul (num den f : Nat) :
    (inUnits num den ((f : Int) - 52)).1 * (den * 2 ^ f) = num * 2 ^ 52 * (inUnits num den ((f : Int) - 52)).2 := by
  by_cases h : 52 ≤ f
  · rw [inUnits_of_le h, ← pow_split' h]
    grind
  · have hlt : f < 52 := Nat.lt_of_not_le h
    rw [inUnits_of_lt hlt, ← pow_split (Nat.le_of_lt hlt)]
    grind

theorem inUnits_snd_pos (hden : 0 < den) : 0 < (inUnits num den ((f : Int) - 52)).2 := by
  by_cases h : 52 ≤ f
  · rw [inUnits_of_le h]
    exact Nat.mul_pos hden (Nat.two_pow_pos _)
  · rw [inUnits_of_lt (Nat.lt_of_not_le h)]
    exact hden

/-- A mantissa of 52 bits at most, or a ratio below a power of two. -/
theorem inUnits_lt_iff (hden : 0 < den) :
    (inUnits num den ((f : Int) - 52)).1 < (inUnits num den ((f : Int) - 52)).2 * 2 ^ 52 ↔ num < den * 2 ^ f := by
  have hd : 0 < (inUnits num den ((f : Int) - 52)).2 := inUnits_snd_pos hden
  have hmul := inUnits_mul num den f
  generalize inUnits num den ((f : Int) - 52) = u at hd hmul ⊢
  obtain ⟨n, d⟩ := u
  dsimp only at hd hmul ⊢
  have hu : 0 < den * 2 ^ f := Nat.mul_pos hden (Nat.two_pow_pos _)
  have hv : 0 < 2 ^ 52 * d := Nat.mul_pos (Nat.two_pow_pos _) hd
  calc n < d * 2 ^ 52 ↔ n * (den * 2 ^ f) < d * 2 ^ 52 * (den * 2 ^ f) := (Nat.mul_lt_mul_right hu).symm
    _ ↔ num * (2 ^ 52 * d) < den * 2 ^ f * (2 ^ 52 * d) := by
      rw [hmul, Nat.mul_assoc, Nat.mul_comm d, Nat.mul_comm (2 ^ 52 * d) (den * 2 ^ f)]
    _ ↔ num < den * 2 ^ f := Nat.mul_lt_mul_right hv

theorem log2_bounds (hden : 0 < den) (hle : den ≤ num) :
    den * 2 ^ Nat.log2 (num / den) ≤ num ∧ num < den * 2 ^ (Nat.log2 (num / den) + 1) := by
  have hq : num / den ≠ 0 := Nat.ne_of_gt (Nat.div_pos hle hden)
  have hlo : 2 ^ Nat.log2 (num / den) ≤ num / den := Nat.log2_self_le hq
  have hhi : num / den < 2 ^ (Nat.log2 (num / den) + 1) := Nat.lt_log2_self
  constructor
  · rw [Nat.mul_comm]
    exact (Nat.le_div_iff_mul_le hden).1 hlo
  · rw [Nat.mul_comm]
    exact (Nat.div_lt_iff_lt_mul hden).1 hhi

/-- **The exponent of a ratio of at least one** is that of its leading bit. -/
theorem exponentOf_eq (hden : 0 < den) (hle : den ≤ num) :
    exponentOf num den = (Nat.log2 (num / den) : Int) - 52 := by
  obtain ⟨hlo, hhi⟩ := log2_bounds hden hle
  have hnum : num ≠ 0 := Nat.ne_of_gt (Nat.lt_of_lt_of_le hden hle)
  have hnumlo : 2 ^ Nat.log2 num ≤ num := Nat.log2_self_le hnum
  have hnumhi : num < 2 ^ (Nat.log2 num + 1) := Nat.lt_log2_self
  have hdenlo : 2 ^ Nat.log2 den ≤ den := Nat.log2_self_le (Nat.ne_of_gt hden)
  have hdenhi : den < 2 ^ (Nat.log2 den + 1) := Nat.lt_log2_self
  have hle : Nat.log2 den + Nat.log2 (num / den) < Nat.log2 num + 1 := by
    refine (Nat.pow_lt_pow_iff_right (by decide : 1 < 2)).1 (Nat.lt_of_le_of_lt ?_ hnumhi)
    rw [Nat.pow_add]
    exact Nat.le_trans (Nat.mul_le_mul_right _ hdenlo) hlo
  have hge : Nat.log2 num < Nat.log2 den + 1 + (Nat.log2 (num / den) + 1) := by
    refine (Nat.pow_lt_pow_iff_right (by decide : 1 < 2)).1 (Nat.lt_of_le_of_lt hnumlo (Nat.lt_trans hhi ?_))
    rw [Nat.pow_add _ (Nat.log2 den + 1)]
    exact Nat.mul_lt_mul_of_pos_right hdenhi (Nat.two_pow_pos _)
  unfold exponentOf minExponent
  dsimp only
  generalize hL : Nat.log2 (num / den) = L at *
  -- The guess is right, or one too great; which of them it is shows in the mantissa.
  rcases (by omega : Nat.log2 num = Nat.log2 den + L ∨ Nat.log2 num = Nat.log2 den + L + 1) with h | h
  · have hguess : (Nat.log2 num : Int) - Nat.log2 den - 52 = (L : Int) - 52 := by omega
    rw [hguess, if_neg (fun hlt => Nat.not_lt.2 hlo ((inUnits_lt_iff hden).1 hlt))]
    omega
  · have hguess : (Nat.log2 num : Int) - Nat.log2 den - 52 = ((L + 1 : Nat) : Int) - 52 := by omega
    rw [hguess, if_pos ((inUnits_lt_iff hden).2 hhi)]
    omega

/-! ## The nearest number -/

/-- The nearest mantissa to a ratio in units of 2 ^ (f - 52), against the ratio itself. -/
theorem divRound_inUnits (num f : Nat) (hden : 0 < den) :
    let u := inUnits num den ((f : Int) - 52)
    2 * (divRound u.1 u.2 * (den * 2 ^ f)) ≤ 2 * (num * 2 ^ 52) + den * 2 ^ f ∧
      2 * (num * 2 ^ 52) ≤ 2 * (divRound u.1 u.2 * (den * 2 ^ f)) + den * 2 ^ f := by
  have hd : 0 < (inUnits num den ((f : Int) - 52)).2 := inUnits_snd_pos hden
  have hmul := inUnits_mul num den f
  obtain ⟨hhi, hlo⟩ := divRound_bounds (n := (inUnits num den ((f : Int) - 52)).1) hd
  dsimp only
  generalize inUnits num den ((f : Int) - 52) = u at *
  obtain ⟨n, d⟩ := u
  dsimp only at *
  generalize divRound n d = m at *
  generalize den * 2 ^ f = v at *
  generalize num * 2 ^ 52 = w at *
  -- each bound, multiplied by the other denominator
  constructor
  · refine Nat.le_of_mul_le_mul_right ?_ hd
    calc 2 * (m * v) * d = 2 * (m * d) * v := by grind
      _ ≤ (2 * n + d) * v := Nat.mul_le_mul_right v hhi
      _ = 2 * (n * v) + d * v := by grind
      _ = (2 * w + v) * d := by rw [hmul]; grind
  · refine Nat.le_of_mul_le_mul_right ?_ hd
    calc 2 * w * d = 2 * n * v := by grind
      _ ≤ (2 * (m * d) + d) * v := Nat.mul_le_mul_right v hlo
      _ = (2 * (m * v) + v) * d := by grind

theorem log2_le_of_lt {k : Nat} (hden : 0 < den) (hle : den ≤ num) (hlt : 2 * num < 3 * (den * 2 ^ k)) :
    Nat.log2 (num / den) ≤ k := by
  obtain ⟨hlo, -⟩ := log2_bounds hden hle
  refine Nat.le_of_not_lt fun hgt => ?_
  have hpow : 2 ^ (k + 1) ≤ 2 ^ Nat.log2 (num / den) := Nat.pow_le_pow_right (by decide) hgt
  have hmul : den * 2 ^ (k + 1) ≤ num := Nat.le_trans (Nat.mul_le_mul_left den hpow) hlo
  rw [Nat.pow_succ, ← Nat.mul_assoc] at hmul
  omega

/-- The mantissa nearest to a ratio of at least one unit has its leading bit. -/
theorem leading_le {m u : Nat} (hu : 0 < u) (hlo : u ≤ num) (h : 2 * (num * 2 ^ 52) ≤ 2 * (m * u) + u) : 2 ^ 52 ≤ m := by
  have hmul : 2 ^ 53 * u ≤ (2 * m + 1) * u := by
    rw [Nat.add_mul, Nat.one_mul, Nat.mul_assoc 2 m]
    omega
  have hle := Nat.le_of_mul_le_mul_right hmul hu
  omega

/-- **The nearest mantissa to a ratio of at least one**, against its leading bit and the ratio itself. -/
theorem exists_roundRatio (hden : 0 < den) (hle : den ≤ num) (hlt : 2 * num < 3 * (den * 2 ^ 1023)) :
    ∃ m f : Nat, roundRatio num den = some (m, (f : Int) - 52) ∧ Nat.log2 (num / den) ≤ f ∧
      2 ^ 52 * 2 ^ Nat.log2 (num / den) ≤ m * 2 ^ f ∧
      2 * (m * 2 ^ f * den) ≤ 2 * (num * 2 ^ 52) + den * 2 ^ Nat.log2 (num / den) ∧
      2 * (num * 2 ^ 52) ≤ 2 * (m * 2 ^ f * den) + den * 2 ^ Nat.log2 (num / den) := by
  have hlo := (log2_bounds hden hle).1
  have hL := log2_le_of_lt hden hle hlt
  have hu : 0 < den * 2 ^ Nat.log2 (num / den) := Nat.mul_pos hden (Nat.two_pow_pos _)
  have hnum : num ≠ 0 := Nat.ne_of_gt (Nat.lt_of_lt_of_le hden hle)
  obtain ⟨hmhi, hmlo⟩ := divRound_inUnits num (Nat.log2 (num / den)) hden
  rw [roundRatio, if_neg hnum, exponentOf_eq hden hle]
  dsimp only
  generalize divRound _ _ = m at *
  have hm : 2 ^ 52 ≤ m := leading_le hu hlo hmlo
  have hcomm : ∀ a b : Nat, a * b * den = a * (den * b) := fun a b => by rw [Nat.mul_assoc, Nat.mul_comm b]
  -- Rounded up to the next power of two, the mantissa is halved and the exponent grows, and is still a finite one.
  by_cases hcarry : m = 2 ^ 53
  · have hne : Nat.log2 (num / den) ≠ 1023 := by
      intro h
      rw [h, hcarry] at hmhi
      generalize den * 2 ^ 1023 = v at *
      omega
    have hfinite : (Nat.log2 (num / den) : Int) - 52 + 1 ≤ maxExponent := by
      unfold maxExponent
      omega
    have hunits : (Nat.log2 (num / den) : Int) - 52 + 1 = ((Nat.log2 (num / den) + 1 : Nat) : Int) - 52 := by omega
    have hdouble : 2 ^ 52 * 2 ^ (Nat.log2 (num / den) + 1) = m * 2 ^ Nat.log2 (num / den) := by
      rw [hcarry, Nat.pow_succ]
      omega
    simp only [if_pos hcarry, if_pos hfinite]
    refine ⟨2 ^ 52, Nat.log2 (num / den) + 1, by rw [hunits], Nat.le_succ _, ?_, ?_⟩
    · rw [hdouble]
      exact Nat.mul_le_mul_right _ hm
    · rw [hdouble, hcomm]
      exact ⟨hmhi, hmlo⟩
  · have hfinite : (Nat.log2 (num / den) : Int) - 52 ≤ maxExponent := by
      unfold maxExponent
      omega
    simp only [if_neg hcarry, if_pos hfinite]
    refine ⟨m, Nat.log2 (num / den), rfl, Nat.le_refl _, Nat.mul_le_mul_right _ hm, ?_⟩
    rw [hcomm]
    exact ⟨hmhi, hmlo⟩

/-- A number is near a ratio of at least one: its relative error is 2^-53 at most, no power of two lies between them,
and it is whole if the ratio has 53 bits before the point. -/
structure Near (x : Binary64) (num den : Nat) : Prop where
  le : 2 ^ 53 * (x.magnitude.1 * den) ≤ (2 ^ 53 + 1) * (num * x.magnitude.2)
  ge : (2 ^ 53 - 1) * (num * x.magnitude.2) ≤ 2 ^ 53 * (x.magnitude.1 * den)
  keeps : ∀ k, 2 ^ k * den ≤ num → 2 ^ k * x.magnitude.2 ≤ x.magnitude.1
  whole : 2 ^ 52 * den ≤ num → x.magnitude.2 = 1

theorem magnitude_mul {x : Binary64} (h : x.exponent = (f : Int) - 52) :
    x.magnitude.1 * 2 ^ 52 = x.mantissa * 2 ^ f * x.magnitude.2 := by
  unfold magnitude
  by_cases hf : 52 ≤ f
  · have hto : ((f : Int) - 52).toNat = f - 52 := by omega
    rw [h, if_pos (by omega), hto]
    dsimp only
    rw [Nat.mul_one, Nat.mul_assoc, pow_split' hf]
  · have hto : (-((f : Int) - 52)).toNat = 52 - f := by omega
    rw [h, if_neg (by omega), hto]
    dsimp only
    rw [Nat.mul_assoc, pow_split (Nat.le_of_not_le hf)]

theorem magnitude_whole {x : Binary64} (h : 0 ≤ x.exponent) : x.magnitude.2 = 1 := by
  rw [magnitude, if_pos h]

theorem le_log2_of_le {k : Nat} (hden : 0 < den) (hle : den ≤ num) (h : 2 ^ k * den ≤ num) :
    k ≤ Nat.log2 (num / den) := by
  have hhi := (log2_bounds hden hle).2
  rw [Nat.mul_comm den] at hhi
  have hpow := Nat.lt_of_mul_lt_mul_right (Nat.lt_of_le_of_lt h hhi)
  exact Nat.le_of_lt_succ ((Nat.pow_lt_pow_iff_right (by decide : 1 < 2)).1 hpow)

/-- **A ratio of at least one that is not too great has a number near it.** -/
theorem exists_ofRatio? (negative : Bool) (hden : 0 < den) (hle : den ≤ num)
    (hlt : 2 * num < 3 * (den * 2 ^ 1023)) :
    ∃ x, ofRatio? negative num den = some x ∧ x.negative = negative ∧ x.Near num den := by
  obtain ⟨m, f, hround, hf, hm, hhi, hlo⟩ := exists_roundRatio hden hle hlt
  have hleading := (log2_bounds hden hle).1
  clear hlt
  let x : Binary64 := ⟨negative, m, (f : Int) - 52⟩
  have hx : x.magnitude.1 * 2 ^ 52 = m * 2 ^ f * x.magnitude.2 := magnitude_mul rfl
  have hvalue : 2 ^ 53 * (x.magnitude.1 * den) = 2 * (m * 2 ^ f * den) * x.magnitude.2 := by
    calc 2 ^ 53 * (x.magnitude.1 * den) = 2 * den * (x.magnitude.1 * 2 ^ 52) := by grind
      _ = 2 * den * (m * 2 ^ f * x.magnitude.2) := by rw [hx]
      _ = 2 * (m * 2 ^ f * den) * x.magnitude.2 := by grind
  have habove : 2 * (m * 2 ^ f * den) ≤ (2 ^ 53 + 1) * num := by omega
  have hbelow : (2 ^ 53 - 1) * num ≤ 2 * (m * 2 ^ f * den) := by omega
  refine ⟨x, congrArg (Option.map _) hround, rfl, ?_, ?_, fun k hk => ?_, fun h => magnitude_whole ?_⟩
  · rw [hvalue, ← Nat.mul_assoc (2 ^ 53 + 1)]
    exact Nat.mul_le_mul_right x.magnitude.2 habove
  · rw [hvalue, ← Nat.mul_assoc (2 ^ 53 - 1)]
    exact Nat.mul_le_mul_right x.magnitude.2 hbelow
  · have hpow : 2 ^ k ≤ 2 ^ Nat.log2 (num / den) := Nat.pow_le_pow_right (by decide) (le_log2_of_le hden hle hk)
    have hscaled : 2 ^ k * x.magnitude.2 * 2 ^ 52 ≤ x.magnitude.1 * 2 ^ 52 :=
      calc 2 ^ k * x.magnitude.2 * 2 ^ 52 = 2 ^ 52 * 2 ^ k * x.magnitude.2 := by grind
        _ ≤ 2 ^ 52 * 2 ^ Nat.log2 (num / den) * x.magnitude.2 := Nat.mul_le_mul_right _ (Nat.mul_le_mul_left _ hpow)
        _ ≤ m * 2 ^ f * x.magnitude.2 := Nat.mul_le_mul_right _ hm
        _ = x.magnitude.1 * 2 ^ 52 := hx.symm
    exact Nat.le_of_mul_le_mul_right hscaled (Nat.two_pow_pos 52)
  · have hexp := le_log2_of_le hden hle h
    show 0 ≤ (f : Int) - 52
    omega

/-! ## Products -/

variable {x y : Binary64} {a b : Nat}

theorem magnitude_snd_pos (x : Binary64) : 0 < x.magnitude.2 := by
  unfold magnitude
  split
  · exact Nat.one_pos
  · exact Nat.two_pow_pos _

theorem Near.one_le (hx : x.Near a 1) (ha : 0 < a) : x.magnitude.2 ≤ x.magnitude.1 := by
  have h := hx.keeps 0 (by omega)
  omega

/-- Two relative errors of 2^-53 do not make a product half as great again as the bound of the exact one. -/
theorem Near.mul_lt (hx : x.Near a 1) (hy : y.Near b 1) (hlt : a * b < 2 ^ 1023) :
    2 * (x.magnitude.1 * y.magnitude.1) < 3 * (x.magnitude.2 * y.magnitude.2 * 2 ^ 1023) := by
  have hxle := hx.le
  have hyle := hy.le
  have hpos : 0 < x.magnitude.2 * y.magnitude.2 := Nat.mul_pos x.magnitude_snd_pos y.magnitude_snd_pos
  rw [Nat.mul_one] at hxle hyle
  generalize x.magnitude.1 = p at *
  generalize x.magnitude.2 = q at *
  generalize y.magnitude.1 = r at *
  generalize y.magnitude.2 = s at *
  generalize (2 : Nat) ^ 1023 = bound at *
  have hmul : 2 ^ 106 * (p * r) ≤ (2 ^ 53 + 1) * (2 ^ 53 + 1) * (a * b * (q * s)) := by
    calc 2 ^ 106 * (p * r) = 2 ^ 53 * p * (2 ^ 53 * r) := by grind
      _ ≤ (2 ^ 53 + 1) * (a * q) * ((2 ^ 53 + 1) * (b * s)) := Nat.mul_le_mul hxle hyle
      _ = (2 ^ 53 + 1) * (2 ^ 53 + 1) * (a * b * (q * s)) := by grind
  have hbound : a * b * (q * s) < q * s * bound := by
    rw [Nat.mul_comm (q * s)]
    exact Nat.mul_lt_mul_of_pos_right hlt hpos
  generalize a * b * (q * s) = exact at *
  generalize q * s * bound = limit at *
  omega

/-- **A product of numbers near naturals has a number near it**, if the product of the naturals is not too great. -/
theorem exists_mul? (hx : x.Near a 1) (hy : y.Near b 1) (ha : 0 < a) (hb : 0 < b) (hlt : a * b < 2 ^ 1023) :
    ∃ z, x.mul? y = some z ∧ z.Near (x.magnitude.1 * y.magnitude.1) (x.magnitude.2 * y.magnitude.2) := by
  have hden : 0 < x.magnitude.2 * y.magnitude.2 := Nat.mul_pos x.magnitude_snd_pos y.magnitude_snd_pos
  have hle := Nat.mul_le_mul (hx.one_le ha) (hy.one_le hb)
  obtain ⟨z, hz, -, hnear⟩ := exists_ofRatio? (x.negative != y.negative) hden hle (hx.mul_lt hy hlt)
  exact ⟨z, hz, hnear⟩

theorem Near.pow_le_mul (hx : x.Near a 1) (hy : y.Near b 1) {i j : Nat} (hi : 2 ^ i ≤ a) (hj : 2 ^ j ≤ b) :
    2 ^ (i + j) * (x.magnitude.2 * y.magnitude.2) ≤ x.magnitude.1 * y.magnitude.1 := by
  have hmul := Nat.mul_le_mul (hx.keeps i (by rwa [Nat.mul_one])) (hy.keeps j (by rwa [Nat.mul_one]))
  calc 2 ^ (i + j) * (x.magnitude.2 * y.magnitude.2) = 2 ^ i * x.magnitude.2 * (2 ^ j * y.magnitude.2) := by
        rw [Nat.pow_add]
        grind
    _ ≤ x.magnitude.1 * y.magnitude.1 := hmul

end Binary64
end Gatehouse
