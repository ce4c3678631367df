import Gatehouse.Proofs.Assertion
import Gatehouse.Proofs.Json.Grammar
/-!
# Integers in JSON — what a reader keeps of those it does not keep exactly

An integer is kept as it is, as the digits that fit 64 bits times a power of ten, or as a negative zero.  The last two
are binary64 numbers, made in three steps that each round.  `exists_ofParts?`: no step passes a power of two, so the
number that is kept is whole and lies beyond the range of times where the integer does.
-/
namespace Gatehouse
namespace Json
namespace Number

open Seconds (clamp)

/-! ## The significand -/

theorem pow_mul_le_foldl : ∀ (ds : List Nat) (n : Nat), n * 10 ^ ds.length ≤ ds.foldl (fun n d => n * 10 + d) n
  | [], n => by simp
  | d :: ds, n => by
    have ih := pow_mul_le_foldl ds (n * 10 + d)
    rw [List.length_cons, List.foldl_cons, Nat.pow_succ']
    refine Nat.le_trans ?_ ih
    rw [← Nat.mul_assoc]
    exact Nat.mul_le_mul_right _ (by omega)

/-- **What a significand takes in**: all digits, or so many that it has 61 bits at least. -/
theorem absorb_spec : ∀ {ds : List Nat} {n s : Nat} {rest : List Nat}, (∀ d ∈ ds, d < 10) → n ≤ maxSignificand →
    absorb n ds = (s, rest) →
      s ≤ maxSignificand ∧ s * 10 ^ rest.length ≤ ds.foldl (fun n d => n * 10 + d) n ∧
        (rest = [] → ds.foldl (fun n d => n * 10 + d) n = s) ∧ (rest ≠ [] → 2 ^ 60 ≤ s)
  | [], n, s, rest, _, hn, h => by
    obtain ⟨rfl, rfl⟩ := Prod.mk.inj h
    exact ⟨hn, by simp, fun _ => rfl, fun h => absurd rfl h⟩
  | d :: ds, n, s, rest, hds, hn, h => by
    have hd := hds d List.mem_cons_self
    unfold absorb at h
    by_cases hfits : n * 10 + d ≤ maxSignificand
    · rw [if_pos hfits] at h
      exact @absorb_spec ds _ s rest (fun x hx => hds x (List.mem_cons_of_mem d hx)) hfits h
    · rw [if_neg hfits] at h
      obtain ⟨rfl, rfl⟩ := Prod.mk.inj h
      refine ⟨hn, pow_mul_le_foldl (d :: ds) n, fun hnil => absurd hnil (List.cons_ne_nil d ds), fun _ => ?_⟩
      unfold maxSignificand at hfits
      omega

/-! ## The power of ten -/

theorem le_308_of_pow_lt {k : Nat} (h : 10 ^ k < 2 ^ 1023) : k ≤ 308 := by
  have hpow : (2 : Nat) ^ 1023 < 10 ^ 308 := by
    rw [show 1023 = 3 + 255 * 4 from rfl, show 308 = 77 * 4 from rfl, Nat.pow_add, Nat.pow_mul 2 255 4,
      Nat.pow_mul 10 77 4]
    decide
  refine Nat.le_of_not_lt fun hgt => ?_
  have hmono : ∀ m ≤ k, 10 ^ m ≤ 10 ^ k := fun m hm => Nat.pow_le_pow_right (by decide) hm
  exact Nat.lt_irrefl _ (Nat.lt_trans h (Nat.lt_of_lt_of_le hpow (hmono 308 (Nat.le_of_lt hgt))))

theorem near_one_of_lt {n : Nat} (hn : 0 < n) (hlt : n < 2 ^ 1023) :
    ∃ x, Binary64.ofRatio? false n 1 = some x ∧ x.negative = false ∧ x.Near n 1 := by
  have hbound : 2 * n < 3 * (1 * 2 ^ 1023) := by
    rw [Nat.one_mul]
    generalize (2 : Nat) ^ 1023 = bound at *
    omega
  exact Binary64.exists_ofRatio? false Nat.one_pos hn hbound

/-- **A great integer is kept as a whole number that is great, too.** -/
theorem exists_ofScientific? (negative : Bool) {s k i j : Nat} (hi : 2 ^ i ≤ s) (hj : 2 ^ j ≤ 10 ^ k) (hij : 63 ≤ i + j)
    (hlt : s * 10 ^ k < 2 ^ 1023) :
    ∃ x, ofScientific? negative s k = some x ∧ x.negative = negative ∧ x.magnitude.2 = 1 ∧ 2 ^ 63 ≤ x.magnitude.1 := by
  have hs : 0 < s := Nat.lt_of_lt_of_le (Nat.two_pow_pos i) hi
  have hten : 0 < 10 ^ k := Nat.pow_pos (by decide)
  have hslt : s < 2 ^ 1023 := Nat.lt_of_le_of_lt (Nat.le_mul_of_pos_right s hten) hlt
  have htenlt : 10 ^ k < 2 ^ 1023 := Nat.lt_of_le_of_lt (Nat.le_mul_of_pos_left _ hs) hlt
  obtain ⟨x, hx, -, hxnear⟩ := near_one_of_lt hs hslt
  obtain ⟨p, hp, -, hpnear⟩ := near_one_of_lt hten htenlt
  obtain ⟨z, hz, hznear⟩ := Binary64.exists_mul? hxnear hpnear hs hten hlt
  have hpow := hxnear.pow_le_mul hpnear hi hj
  have hgreat : ∀ m ≤ 63, 2 ^ m * (x.magnitude.2 * p.magnitude.2) ≤ x.magnitude.1 * p.magnitude.1 := fun m hm =>
    Nat.le_trans (Nat.mul_le_mul_right _ (Nat.pow_le_pow_right (by decide) (Nat.le_trans hm hij))) hpow
  have hwhole : z.magnitude.2 = 1 := hznear.whole (hgreat 52 (by decide))
  have hkeeps := hznear.keeps 63 (hgreat 63 (by decide))
  rw [hwhole, Nat.mul_one] at hkeeps
  have hscale : scale? ((k : Int).natAbs / 308 + 1) x k = some z := by
    have hle : (k : Int).natAbs ≤ 308 := le_308_of_pow_lt htenlt
    have hpow : powTen? (k : Int).natAbs = some p := hp
    rw [scale?, if_pos hle, hpow, Option.bind_eq_bind, Option.bind_some, if_pos (Int.natCast_nonneg k), hz]
  refine ⟨{ z with negative := negative }, ?_, rfl, hwhole, hkeeps⟩
  rw [ofScientific?, hx]
  simp only [Option.bind_eq_bind, Option.bind_some, hscale, Option.pure_def]

/-! ## Integers -/

/-- The integer of a sign and a magnitude. -/
def signed (negative : Bool) (n : Nat) : Int := if negative then -(n : Int) else n

theorem isInteger_float {x : Binary64} (h : x.magnitude.2 = 1) :
    (Number.float x).IsInteger (signed x.negative x.magnitude.1) := by
  refine .float x _ ?_
  rw [h]
  exact (Int.mul_one _).symm

/-- Beyond the range of times all integers of one sign are one. -/
theorem clamp_signed {m n : Nat} (hm : 2 ^ 63 ≤ m) (hn : 2 ^ 63 ≤ n) (negative : Bool) :
    clamp (signed negative m) = clamp (signed negative n) := by
  unfold clamp Seconds.latest Seconds.earliest signed
  cases negative <;> simp <;> omega

theorem exists_float {negative : Bool} {s k i j n : Nat} (hi : 2 ^ i ≤ s) (hj : 2 ^ j ≤ 10 ^ k) (hij : 63 ≤ i + j)
    (hle : s * 10 ^ k ≤ n) (hn : n < 2 ^ 1023) :
    ∃ x z, (ofScientific? negative s k).map Number.float = some x ∧ x.IsInteger z ∧
      clamp z = clamp (signed negative n) := by
  obtain ⟨x, hx, hnegative, hwhole, hgreat⟩ := exists_ofScientific? negative hi hj hij (Nat.lt_of_le_of_lt hle hn)
  have hpow : 2 ^ 63 ≤ n := by
    calc 2 ^ 63 ≤ 2 ^ (i + j) := Nat.pow_le_pow_right (by decide) hij
      _ = 2 ^ i * 2 ^ j := Nat.pow_add 2 i j
      _ ≤ s * 10 ^ k := Nat.mul_le_mul hi hj
      _ ≤ n := hle
  refine ⟨.float x, _, by rw [hx, Option.map_some], isInteger_float hwhole, ?_⟩
  rw [hnegative]
  exact clamp_signed hgreat hpow negative

/-- **Every integer below 2^1023 is kept as a whole number**, and of those beyond the range of times only the side of
zero that they are on matters. -/
theorem exists_ofParts? (negative : Bool) {ds : List Nat} (hds : ∀ d ∈ ds, d < 10) (hlt : ofDigits ds < 2 ^ 1023) :
    ∃ x z, ofParts? ⟨negative, ds, none, none⟩ = some x ∧ x.IsInteger z ∧
      clamp z = clamp (signed negative (ofDigits ds)) := by
  obtain ⟨s, rest, habsorb⟩ : ∃ s rest, absorb 0 ds = (s, rest) := ⟨_, _, rfl⟩
  obtain ⟨hfits, hle, hall, hsome⟩ := absorb_spec hds (Nat.zero_le _) habsorb
  unfold ofParts?
  simp only [habsorb]
  cases rest with
  | nil =>
    have hn : ofDigits ds = s := hall rfl
    rw [hn] at hlt ⊢
    dsimp only
    cases negative with
    | false => exact ⟨.int s, s, rfl, .int s, rfl⟩
    | true =>
      by_cases hexact : 0 < s ∧ s ≤ 2 ^ 63
      · have hcond : (decide (0 < s) && decide (s ≤ 2 ^ 63)) = true := by simpa using hexact
        refine ⟨.int (-s), -s, ?_, .int (-s), rfl⟩
        rw [ofSignificand?, if_pos rfl, if_pos hcond]
      · have hcond : ¬ (decide (0 < s) && decide (s ≤ 2 ^ 63)) = true := by simpa using hexact
        rw [ofSignificand?, if_pos rfl, if_neg hcond]
        dsimp only
        -- Only a negative zero and what is below the signed integers are not kept exactly.
        rcases Nat.eq_zero_or_pos s with rfl | hpos
        · have hzero : (Binary64.zero true).numerator = 0 * (Binary64.zero true).magnitude.2 := by
            rw [Int.zero_mul]
            rfl
          exact ⟨.float (Binary64.zero true), 0, rfl, .float _ 0 hzero, rfl⟩
        · exact exists_float (i := 63) (j := 0) (k := 0) (by omega) (Nat.le_refl _) (Nat.le_refl _) (by omega) hlt
  | cons d rest =>
    -- At least one digit did not fit: ten has three bits more than the sixty of the significand.
    have hten : 2 ^ 3 ≤ 10 ^ (d :: rest).length := by
      rw [List.length_cons, Nat.pow_succ]
      have hpos : 0 < 10 ^ rest.length := Nat.pow_pos (by decide)
      omega
    exact exists_float (i := 60) (j := 3) (hsome (List.cons_ne_nil d rest)) hten (Nat.le_refl _) hle hlt

end Number
end Json
end Gatehouse
