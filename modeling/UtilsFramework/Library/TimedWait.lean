import Mathlib.Data.List.Basic
import Mathlib.Data.List.Forall2
import Mathlib.Order.MinMax
import Mathlib.Tactic.Common

/-!
# Waiting for results in turn

A wait ends when its result is there or its deadline has passed, whichever is
first, and at once if that has happened before it begins.  A result that comes
with the deadline is in time.

Of several waits each begins when the one before it has ended.  If the deadlines
come in the order of the waits, the waits do not delay each other: no wait ends
after its own deadline, unless all of them began later, and whether it finds its
result depends on no other result.
-/

namespace UtilsFramework
namespace Library
namespace TimedWait

/-- What is waited for: `available` is when the result is there, if ever. -/
structure Awaited (Time : Type*) where
  deadline : Time
  available : Option Time

/-- How a wait ends: with its result or without, and when. -/
structure End (Time : Type*) where
  ready : Bool
  time : Time

section Ends

variable {Time : Type*}

/-- When the last of several waits has ended. -/
def lastEnd (now : Time) (ends : List (End Time)) : Time :=
  ends.foldl (fun _ ended => ended.time) now

@[simp]
theorem lastEnd_nil (now : Time) : lastEnd now [] = now := rfl

@[simp]
theorem lastEnd_append_singleton (now : Time) (ends : List (End Time)) (ended : End Time) :
    lastEnd now (ends ++ [ended]) = ended.time := by
  simp [lastEnd]

end Ends

variable {Time : Type*} [LinearOrder Time]

/-- A wait that begins at `now`. -/
def waitUntil (now : Time) (awaited : Awaited Time) : End Time :=
  match awaited.available with
  | some time =>
      if time ≤ max now awaited.deadline then ⟨true, max now time⟩
      else ⟨false, max now awaited.deadline⟩
  | none => ⟨false, max now awaited.deadline⟩

/-- Waits one after the other, the first of which begins at `now`. -/
def waitAll (now : Time) : List (Awaited Time) → List (End Time)
  | [] => []
  | awaited :: rest =>
      waitUntil now awaited :: waitAll (waitUntil now awaited).time rest

variable {now time : Time} {awaited : Awaited Time}

/-! ## One wait -/

theorem waitUntil_of_none (hAvailable : awaited.available = none) :
    waitUntil now awaited = ⟨false, max now awaited.deadline⟩ := by
  simp [waitUntil, hAvailable]

theorem waitUntil_of_le (hAvailable : awaited.available = some time)
    (hTime : time ≤ max now awaited.deadline) :
    waitUntil now awaited = ⟨true, max now time⟩ := by
  simp only [waitUntil, hAvailable, if_pos hTime]

/-- A result that comes too late makes no difference. -/
theorem waitUntil_of_lt (hAvailable : awaited.available = some time)
    (hTime : max now awaited.deadline < time) :
    waitUntil now awaited = ⟨false, max now awaited.deadline⟩ := by
  simp only [waitUntil, hAvailable, if_neg (not_le.mpr hTime)]

theorem ready_iff : (waitUntil now awaited).ready = true ↔
    ∃ time ∈ awaited.available, time ≤ max now awaited.deadline := by
  cases hAvailable : awaited.available with
  | none => simp [waitUntil_of_none hAvailable]
  | some time =>
      rcases le_or_gt time (max now awaited.deadline) with hTime | hTime
      · rw [waitUntil_of_le hAvailable hTime]
        exact iff_of_true rfl ⟨time, rfl, hTime⟩
      · rw [waitUntil_of_lt hAvailable hTime]
        refine iff_of_false Bool.false_ne_true ?_
        rintro ⟨found, hFound, hLe⟩
        obtain rfl : time = found := Option.some.inj hFound
        exact absurd hLe (not_le.mpr hTime)

theorem time_le : (waitUntil now awaited).time ≤ max now awaited.deadline := by
  cases hAvailable : awaited.available with
  | none => rw [waitUntil_of_none hAvailable]
  | some time =>
      rcases le_or_gt time (max now awaited.deadline) with hTime | hTime
      · rw [waitUntil_of_le hAvailable hTime]
        exact max_le (le_max_left _ _) hTime
      · rw [waitUntil_of_lt hAvailable hTime]

theorem le_time : now ≤ (waitUntil now awaited).time := by
  cases hAvailable : awaited.available with
  | none =>
      rw [waitUntil_of_none hAvailable]
      exact le_max_left _ _
  | some time =>
      rcases le_or_gt time (max now awaited.deadline) with hTime | hTime
      · rw [waitUntil_of_le hAvailable hTime]
        exact le_max_left _ _
      · rw [waitUntil_of_lt hAvailable hTime]
        exact le_max_left _ _

/-- A wait that finds the result, and has not gone on after it could. -/
theorem waitUntil_eq_of_found {returned : Time} (hAvailable : awaited.available = some time)
    (hBegun : now ≤ returned) (hFound : time ≤ returned)
    (hEnd : returned ≤ (waitUntil now awaited).time) :
    waitUntil now awaited = ⟨true, returned⟩ := by
  have hTime : time ≤ max now awaited.deadline := hFound.trans (hEnd.trans time_le)
  rw [waitUntil_of_le hAvailable hTime] at hEnd ⊢
  rw [le_antisymm (max_le hBegun hFound) hEnd]

/-- A wait that ends with its deadline, and has not gone on after that. -/
theorem waitUntil_eq_of_expired {returned : Time} (hAvailable : awaited.available = none)
    (hBegun : now ≤ returned) (hExpired : awaited.deadline ≤ returned)
    (hEnd : returned ≤ (waitUntil now awaited).time) :
    waitUntil now awaited = ⟨false, returned⟩ := by
  rw [waitUntil_of_none hAvailable] at hEnd ⊢
  rw [le_antisymm (max_le hBegun hExpired) hEnd]

/-- A result that comes after the wait has ended without one. -/
theorem waitUntil_eq_of_late {before after : Awaited Time} {ended : End Time}
    (hEnded : waitUntil now before = ended) (hDeadline : after.deadline = before.deadline)
    (hBefore : before.available = none)
    (hLate : ∀ time ∈ after.available, ended.time < time) :
    waitUntil now after = ended := by
  subst hEnded
  rw [waitUntil_of_none hBefore] at hLate ⊢
  rw [← hDeadline] at hLate ⊢
  cases hAfter : after.available with
  | none => exact waitUntil_of_none hAfter
  | some time => exact waitUntil_of_lt hAfter (hLate time hAfter)

/-! ## Waits in turn -/

theorem waitAll_append_singleton (earlier : List (Awaited Time)) (last : Awaited Time) :
    waitAll now (earlier ++ [last]) =
      waitAll now earlier ++ [waitUntil (lastEnd now (waitAll now earlier)) last] := by
  induction earlier generalizing now with
  | nil => rfl
  | cons first earlier ih =>
      rw [List.cons_append, waitAll, waitAll, ih]
      rfl

/-- Results that come after their waits have ended without one. -/
theorem waitAll_eq_of_late {Item : Type*} {items : List Item}
    {before after : Item → Awaited Time} {ended : Item → End Time}
    (hEnded : waitAll now (items.map before) = items.map ended)
    (hLate : ∀ item ∈ items, after item = before item ∨
      (after item).deadline = (before item).deadline ∧ (before item).available = none ∧
        ∀ time ∈ (after item).available, (ended item).time < time) :
    waitAll now (items.map after) = items.map ended := by
  induction items generalizing now with
  | nil => rfl
  | cons first items ih =>
      simp only [List.map_cons, waitAll, List.cons.injEq] at hEnded ⊢
      obtain ⟨hFirst, hRest⟩ := hEnded
      have hSame : waitUntil now (after first) = ended first := by
        rcases hLate first List.mem_cons_self with hAfter | ⟨hDeadline, hNone, hAfter⟩
        · rw [hAfter, hFirst]
        · exact waitUntil_eq_of_late hFirst hDeadline hNone hAfter
      rw [hFirst] at hRest
      rw [hSame]
      exact ⟨rfl, ih hRest fun item hItem => hLate item (List.mem_cons_of_mem _ hItem)⟩

/-- A wait that finds its result exactly if it would have, had it begun at `now`, and
ends no later than it might have. -/
structure Unhindered (now : Time) (awaited : Awaited Time) (ended : End Time) : Prop where
  ready_iff : ended.ready = true ↔
    ∃ time ∈ awaited.available, time ≤ max now awaited.deadline
  time_le : ended.time ≤ max now awaited.deadline

theorem unhindered_waitUntil : Unhindered now awaited (waitUntil now awaited) where
  ready_iff := ready_iff
  time_le := time_le

/-- It makes no difference that a wait has begun later, if not after the deadline. -/
theorem Unhindered.of_le {begun : Time} {ended : End Time}
    (hEnded : Unhindered begun awaited ended) (hLater : now ≤ begun)
    (hBegun : begun ≤ max now awaited.deadline) : Unhindered now awaited ended := by
  have hLimit : max begun awaited.deadline = max now awaited.deadline := by
    apply le_antisymm
    · exact max_le hBegun (le_max_right _ _)
    · exact max_le_max hLater le_rfl
  constructor
  · rw [hEnded.ready_iff, hLimit]
  · rw [← hLimit]
    exact hEnded.time_le

/-- Waits whose deadlines are in order do not hinder each other. -/
theorem waitAll_unhindered {waits : List (Awaited Time)}
    (hOrder : (waits.map Awaited.deadline).Pairwise (· ≤ ·)) :
    List.Forall₂ (Unhindered now) waits (waitAll now waits) := by
  induction waits generalizing now with
  | nil => exact .nil
  | cons first waits ih =>
      rw [List.map_cons, List.pairwise_cons] at hOrder
      obtain ⟨hFirst, hRest⟩ := hOrder
      refine .cons unhindered_waitUntil ?_
      have hLater : ∀ awaited ∈ waits, first.deadline ≤ awaited.deadline :=
        fun awaited hAwaited => hFirst _ (List.mem_map_of_mem hAwaited)
      refine ((List.forall₂_and_left _ _).mpr ⟨hLater, ih hRest⟩).imp ?_
      -- the next wait begins by the first deadline, and no later one is earlier
      rintro awaited ended ⟨hDeadline, hEnded⟩
      exact hEnded.of_le le_time (time_le.trans (max_le_max le_rfl hDeadline))

end TimedWait
end Library
end UtilsFramework
