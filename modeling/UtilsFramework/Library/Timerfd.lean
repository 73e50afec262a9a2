import Mathlib.Algebra.Order.Ring.Int
import Mathlib.Tactic.Common

/-!
# The kernel timer behind a timerfd

A one-shot timer on an absolute clock has three states: nothing set, an expiry
still to come, and an expiration nobody has read.  A setting replaces the state
and with it an unread expiration; a zero value disarms; a time already reached
expires at once.  Times are whole nanoseconds.
-/

namespace UtilsFramework
namespace Library

/-- A `struct timespec`. -/
structure Timespec where
  tvSec : Int
  tvNsec : Int
deriving DecidableEq, Repr

/-- The point in time a `timespec` denotes. -/
def Timespec.nanoseconds (value : Timespec) : Int :=
  value.tvSec * 1000000000 + value.tvNsec

/-- The state of a one-shot timerfd; `expired` is a pending tick. -/
inductive Timerfd
  | disarmed
  | armed (expiry : Int)
  | expired
deriving DecidableEq, Repr

namespace Timerfd

/-- What the clock reading `now` does to the timer. -/
def settle (now : Int) : Timerfd → Timerfd
  | .armed expiry => if expiry ≤ now then .expired else .armed expiry
  | .disarmed => .disarmed
  | .expired => .expired

/-- A successful `timerfd_settime` with `TFD_TIMER_ABSTIME` and no interval. -/
def setTime (now : Int) (value : Timespec) : Timerfd :=
  if value = ⟨0, 0⟩ then .disarmed else settle now (.armed value.nanoseconds)

/-- A successful `read` consumes the tick. -/
def read : Timerfd → Timerfd
  | .expired => .disarmed
  | .armed expiry => .armed expiry
  | .disarmed => .disarmed

/-- No tick of this timer, as it is now set, can be read before `date`. -/
def NotBefore (now date : Int) : Timerfd → Prop
  | .disarmed => True
  | .armed expiry => date ≤ expiry
  | .expired => date ≤ now

instance (now date : Int) (timer : Timerfd) : Decidable (timer.NotBefore now date) :=
  match timer with
  | .disarmed => isTrue trivial
  | .armed expiry => inferInstanceAs (Decidable (date ≤ expiry))
  | .expired => inferInstanceAs (Decidable (date ≤ now))

theorem setTime_zero (now : Int) : setTime now ⟨0, 0⟩ = .disarmed := by
  rw [setTime, if_pos rfl]

/-- The timer after a setting that does not disarm. -/
theorem setTime_of_ne_zero {now : Int} {value : Timespec} (hValue : value ≠ ⟨0, 0⟩) :
    setTime now value =
      if value.nanoseconds ≤ now then .expired else .armed value.nanoseconds := by
  rw [setTime, if_neg hValue, settle]

/-- A setting and the passing of time afterwards amount to a later setting. -/
theorem settle_setTime {now later : Int} (hLater : now ≤ later) (value : Timespec) :
    (setTime now value).settle later = setTime later value := by
  by_cases hZero : value = ⟨0, 0⟩
  · rw [hZero, setTime_zero, setTime_zero, settle]
  · rw [setTime_of_ne_zero hZero, setTime_of_ne_zero hZero]
    by_cases hReached : value.nanoseconds ≤ now
    · rw [if_pos hReached, if_pos (hReached.trans hLater), settle]
    · rw [if_neg hReached, settle]

/-- A setting ticks at its own time. -/
theorem notBefore_setTime (now : Int) (value : Timespec) :
    (setTime now value).NotBefore now value.nanoseconds := by
  by_cases hZero : value = ⟨0, 0⟩
  · rw [hZero, setTime_zero]
    trivial
  · rw [setTime_of_ne_zero hZero]
    by_cases hReached : value.nanoseconds ≤ now
    · rw [if_pos hReached]
      exact hReached
    · rw [if_neg hReached]
      exact le_refl value.nanoseconds

/-- Time passing produces no early tick. -/
theorem NotBefore.settle {now later date : Int} {timer : Timerfd}
    (hTimer : timer.NotBefore now date) (hLater : now ≤ later) :
    (timer.settle later).NotBefore later date := by
  cases timer with
  | disarmed => trivial
  | expired => exact le_trans hTimer hLater
  | armed expiry =>
      rw [Timerfd.settle]
      by_cases hReached : expiry ≤ later
      · rw [if_pos hReached]
        exact le_trans hTimer hReached
      · rw [if_neg hReached]
        exact hTimer

end Timerfd
end Library
end UtilsFramework
