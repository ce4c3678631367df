import Gatehouse.Seconds
/-!
# Exact times — stopping at the ends decides nothing

A sum or difference of times stops at an end of the range.  Compared with a time, it still decides as the exact sum or
difference does (`before_le_iff`, `le_after_iff`); only a difference compared with the greatest span does not
(`before_le_span_iff`).
-/
namespace Gatehouse
namespace Seconds

/-- An integer in the range of times. -/
def IsTime (t : Int) : Prop := earliest ≤ t ∧ t ≤ latest

instance (t : Int) : Decidable (IsTime t) := inferInstanceAs (Decidable (_ ∧ _))

/-- An integer in the range of spans. -/
def IsSpan (d : Int) : Prop := 0 ≤ d ∧ d ≤ latest

instance (d : Int) : Decidable (IsSpan d) := inferInstanceAs (Decidable (_ ∧ _))

theorem isTime_clamp (n : Int) : IsTime (clamp n) := by
  unfold IsTime clamp earliest latest
  omega

theorem clamp_of_isTime {n : Int} (h : IsTime n) : clamp n = n := by
  unfold IsTime at h
  unfold clamp
  omega

theorem clamp_of_latest_lt {n : Int} (h : latest < n) : clamp n = latest := by
  unfold clamp earliest latest at *
  omega

theorem clamp_of_lt_earliest {n : Int} (h : n < earliest) : clamp n = earliest := by
  unfold clamp earliest latest at *
  omega

theorem clamp_mono {m n : Int} (h : m ≤ n) : clamp m ≤ clamp n := by
  unfold clamp
  omega

theorem isSpan_span (n : Nat) : IsSpan (span n) := by
  unfold IsSpan span latest
  omega

/-- **A time against a moved one**: an earlier end. -/
theorem before_le_iff {now d t : Int} (hnow : IsTime now) (hd : 0 ≤ d) (ht : IsTime t) :
    before now d ≤ t ↔ now - d ≤ t := by
  unfold IsTime earliest latest at *
  unfold before clamp earliest latest
  omega

/-- **A time against a moved one**: a later end. -/
theorem le_after_iff {now d t : Int} (hnow : IsTime now) (hd : 0 ≤ d) (ht : IsTime t) :
    t ≤ after now d ↔ t ≤ now + d := by
  unfold IsTime earliest latest at *
  unfold after clamp earliest latest
  omega

/-- The time between two times against a span: the greatest span bounds nothing. -/
theorem before_le_span_iff {t u d : Int} (h : t ≤ u) (hd : IsSpan d) :
    before u t ≤ d ↔ u - t ≤ d ∨ d = latest := by
  unfold IsSpan at hd
  unfold before clamp earliest latest at *
  omega

end Seconds
end Gatehouse
