import Gatehouse.Number.Power
/-!
# Seconds

Times are seconds since 1970 and lie in the range of a signed 64-bit integer.  A sum or difference that leaves the
range stops at its end.
-/
namespace Gatehouse
namespace Seconds

/-- The last time. -/
def latest : Int := 2 ^ 63 - 1

/-- The first time. -/
def earliest : Int := -(2 ^ 63)

/-- The time nearest to an integer. -/
def clamp (n : Int) : Int := max earliest (min latest n)

/-- A time later by some seconds. -/
def after (t d : Int) : Int := clamp (t + d)

/-- A time earlier by some seconds. -/
def before (t d : Int) : Int := clamp (t - d)

/-- A configured span, which may be greater than any time. -/
def span (n : Nat) : Int := min latest n

end Seconds
end Gatehouse
