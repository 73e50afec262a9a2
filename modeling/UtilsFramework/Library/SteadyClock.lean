import Mathlib.Algebra.Order.Ring.Int
import Mathlib.Tactic.Common

/-!
# A clock with 64-bit dates

A date is a signed 64-bit count of nanoseconds.  A span in a coarser unit is
converted before it is added, and both operations wrap.
-/

namespace UtilsFramework
namespace Library

/-- The value of a 64-bit signed integer after an operation that wraps. -/
def toInt64 (value : Int) : Int := Int.bmod value (2 ^ 64)

/-- The date `span` units of `unit` nanoseconds after `now`. -/
def dateAfter (unit now span : Int) : Int := toInt64 (now + toInt64 (span * unit))

/-- Two wraps are one. -/
theorem dateAfter_eq_toInt64 (unit now span : Int) :
    dateAfter unit now span = toInt64 (now + span * unit) := by
  simp only [dateAfter, toInt64, Int.add_bmod_bmod]

theorem toInt64_range (value : Int) : -2 ^ 63 ≤ toInt64 value ∧ toInt64 value < 2 ^ 63 := by
  have hLow := Int.le_bmod (x := value) (show 0 < 2 ^ 64 by decide)
  have hHigh := Int.bmod_lt (x := value) (show 0 < 2 ^ 64 by decide)
  unfold toInt64
  omega

/-- Both wraps vanish if the date itself fits. -/
theorem dateAfter_eq {unit now span : Int} (hLow : -2 ^ 63 ≤ now + span * unit)
    (hHigh : now + span * unit < 2 ^ 63) : dateAfter unit now span = now + span * unit := by
  rw [dateAfter_eq_toInt64]
  apply Int.bmod_eq_of_le
  · omega
  · omega

/-- The date is exact only if it fits. -/
theorem range_of_dateAfter_eq {unit now span : Int}
    (hExact : dateAfter unit now span = now + span * unit) :
    -2 ^ 63 ≤ now + span * unit ∧ now + span * unit < 2 ^ 63 := by
  rw [dateAfter_eq_toInt64] at hExact
  have hRange := toInt64_range (now + span * unit)
  rwa [hExact] at hRange

end Library
end UtilsFramework
