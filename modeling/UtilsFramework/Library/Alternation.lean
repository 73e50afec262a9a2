import Mathlib.Data.List.Basic
import Mathlib.Tactic.Common

/-!
# Alternating openings and closings

A thing that is opened and closed in turn, beginning closed.  `follow` rejects
an opening of what is open and a closing of what is closed; `followAll` is the
state after a whole word.  A word that is accepted balances: its openings are
its closings, and one more if the thing is open at the end.
-/

namespace UtilsFramework
namespace Library
namespace Alternation

inductive Event
  | opens
  | closes
deriving DecidableEq, Repr

/-- The state after one event; `true` is open. -/
def follow : Bool → Event → Option Bool
  | false, .opens => some true
  | true, .closes => some false
  | true, .opens => none
  | false, .closes => none

/-- The state after all events. -/
def followAll (start : Bool) (events : List Event) : Option Bool :=
  events.foldlM follow start

@[simp]
theorem followAll_nil (start : Bool) : followAll start [] = some start := rfl

@[simp]
theorem followAll_cons (start : Bool) (event : Event) (events : List Event) :
    followAll start (event :: events) =
      (follow start event).bind fun next => followAll next events :=
  List.foldlM_cons

theorem followAll_append (start : Bool) (before after : List Event) :
    followAll start (before ++ after) =
      (followAll start before).bind fun next => followAll next after :=
  List.foldlM_append

/-- An accepted word balances. -/
theorem count_opens {events : List Event} {start final : Bool}
    (hFollows : followAll start events = some final) :
    start.toNat + events.count .opens = events.count .closes + final.toNat := by
  induction events generalizing start with
  | nil =>
      obtain rfl : start = final := by simpa using hFollows
      simp
  | cons event events ih =>
      rw [followAll_cons] at hFollows
      cases hNext : follow start event with
      | none =>
          rw [hNext] at hFollows
          cases hFollows
      | some next =>
          rw [hNext] at hFollows
          have hRest := ih hFollows
          have hStart : start.toNat + [event].count .opens =
              [event].count .closes + next.toNat := by
            revert hNext
            cases start <;> cases event <;> cases next <;> decide
          rw [← List.singleton_append, List.count_append, List.count_append]
          omega

/-- After a closing nothing closes again before something opens. -/
theorem closes_notMem {before rest : List Event} {final : Bool}
    (hFollows : followAll false (before ++ .closes :: rest) = some final)
    (hNoOpening : .opens ∉ rest) : .closes ∉ rest := by
  rw [followAll_append] at hFollows
  obtain ⟨middle, -, hClosed⟩ := Option.bind_eq_some_iff.mp hFollows
  rw [followAll_cons] at hClosed
  obtain ⟨next, hNext, hRest⟩ := Option.bind_eq_some_iff.mp hClosed
  obtain rfl : next = false := by
    cases middle with
    | true => exact (Option.some.inj hNext).symm
    | false => cases hNext
  have hBalance := count_opens hRest
  rw [List.count_eq_zero.mpr hNoOpening] at hBalance
  rw [← List.count_eq_zero]
  simp only [Bool.toNat_false] at hBalance
  omega

end Alternation
end Library
end UtilsFramework
