import UtilsFramework.Timer.Manager

/-!
# The entries of the timer manager

Every pair of a subscriber and a user id has at most one entry, because
`launchNewTimer` searches for the pair first.  No entry is flagged periodical:
neither start function sets the flag that `onTimerExpired` tests, so the first
entry is dropped whenever a tick is read.
-/

namespace UtilsFramework
namespace Timer

open Library
open Library.TransitionSystem

namespace TimerManagerImpl

/-- The pairs of the active timers, one for each entry. -/
def timerIds (s : TimerManagerImpl) : List TimerId :=
  s.activeTimers.entries.map fun entry => entry.2.id

/-- The number of entries for a pair. -/
def entriesFor (s : TimerManagerImpl) (timer : TimerId) : Nat :=
  s.timerIds.count timer

/-- A pair has at most one entry, and no entry is flagged periodical. -/
structure WellKept (s : TimerManagerImpl) : Prop where
  distinct : s.timerIds.Nodup
  unflagged : ∀ entry ∈ s.activeTimers.entries, entry.2.isPeriodical = false

theorem wellKept_construct (threadId : ThreadId) (now : Int) :
    (construct threadId now).WellKept where
  distinct := List.nodup_nil
  unflagged := by simp [construct]

/-- Without the flag the first entry is dropped. -/
theorem WellKept.afterExpiry_eq {s : TimerManagerImpl} (hKept : s.WellKept)
    {date : Int} {tmoObj : TimerObject}
    (hFirst : s.activeTimers.first? = some (date, tmoObj)) :
    s.afterExpiry tmoObj = s.activeTimers.eraseAt 0 := by
  have hFlag : tmoObj.isPeriodical = false :=
    hKept.unflagged (date, tmoObj) (OrderedMultimap.mem_of_first? hFirst)
  simp [afterExpiry, hFlag]

/-- The entries before and after the expiry of the first timer. -/
theorem WellKept.entries_of_first {s : TimerManagerImpl} (hKept : s.WellKept)
    {date : Int} {tmoObj : TimerObject}
    (hFirst : s.activeTimers.first? = some (date, tmoObj)) :
    s.activeTimers.entries = (date, tmoObj) :: (s.afterExpiry tmoObj).entries := by
  obtain ⟨rest, hEntries⟩ := List.head?_eq_some_iff.mp hFirst
  rw [hKept.afterExpiry_eq hFirst, OrderedMultimap.entries_eraseAt_zero, hEntries,
    List.tail_cons]

/-- The other entries are of other pairs. -/
theorem WellKept.id_ne {s : TimerManagerImpl} (hKept : s.WellKept)
    {before after : List (Int × TimerObject)} {found entry : Int × TimerObject}
    (hEntries : s.activeTimers.entries = before ++ found :: after)
    (hOther : entry ∈ before ++ after) : entry.2.id ≠ found.2.id := by
  have hDistinct := hKept.distinct
  rw [timerIds, hEntries, (List.perm_middle.map _).nodup_iff, List.map_cons,
    List.nodup_cons] at hDistinct
  intro hSame
  apply hDistinct.1
  rw [← hSame]
  exact List.mem_map_of_mem hOther

theorem perm_timerIds_emplace (timers : OrderedMultimap Int TimerObject) (date : Int)
    (tmoObj : TimerObject) :
    ((timers.emplace date tmoObj).entries.map fun entry => entry.2.id).Perm
      (tmoObj.id :: timers.entries.map fun entry => entry.2.id) :=
  (timers.emplace_perm date tmoObj).map fun entry => entry.2.id

theorem WellKept.step {s t : TimerManagerImpl} {action : Action} {new : List Output}
    (hKept : s.WellKept) (moves : Moves s action t new) : t.WellKept := by
  cases moves with
  | startRefused => exact ⟨hKept.distinct, hKept.unflagged⟩
  | cancelRefused => exact hKept
  | readFailed => exact hKept
  | nothingActive => exact ⟨hKept.distinct, hKept.unflagged⟩
  | elapsed => exact ⟨hKept.distinct, hKept.unflagged⟩
  | @started kind _ _ timeout timer _ _ _ _ _ _ _ _ hNew _ =>
      constructor
      · have hPerm := perm_timerIds_emplace s.activeTimers (expiredDate s.now timeout)
          (launchedTimer timeout timer kind)
        refine hPerm.nodup_iff.mpr (List.nodup_cons.mpr ⟨?_, hKept.distinct⟩)
        rw [launchedTimer_id, List.mem_map]
        rintro ⟨entry, hEntry, hSame⟩
        exact hNew entry hEntry hSame
      · intro entry hEntry
        rcases OrderedMultimap.mem_emplace.mp hEntry with rfl | hOld
        · exact launchedTimer_isPeriodical timeout timer kind
        · exact hKept.unflagged entry hOld
  | @cancelled _ _ _ before _ _ _ _ _ _ _ _ _ _ =>
      constructor
      · exact hKept.distinct.sublist ((List.eraseIdx_sublist _ _).map _)
      · intro entry hEntry
        exact hKept.unflagged entry (OrderedMultimap.mem_of_mem_eraseAt hEntry)
  | @expired _ date tmoObj _ hFirst =>
      have hEntries := hKept.entries_of_first hFirst
      constructor
      · have hDistinct := hKept.distinct
        rw [timerIds, hEntries] at hDistinct
        exact (List.nodup_cons.mp hDistinct).2
      · intro entry hEntry
        apply hKept.unflagged entry
        rw [hEntries]
        exact List.mem_cons_of_mem _ hEntry

/-- Every entry after a step was there before it or is that of a timer the step has
started. -/
theorem WellKept.entry_of_moves {s t : TimerManagerImpl} {action : Action}
    {new : List Output} (hKept : s.WellKept) (moves : Moves s action t new)
    {entry : Int × TimerObject} (hEntry : entry ∈ t.activeTimers.entries) :
    entry ∈ s.activeTimers.entries ∨
      ∃ kind caller syscalls timeout timer,
        action = .start kind caller syscalls timeout timer ∧
        entry = (expiredDate s.now timeout, launchedTimer timeout timer kind) := by
  cases moves with
  | startRefused | cancelRefused | readFailed | nothingActive | elapsed => exact Or.inl hEntry
  | started =>
      rcases OrderedMultimap.mem_emplace.mp hEntry with rfl | hOld
      · exact Or.inr ⟨_, _, _, _, _, rfl, rfl⟩
      · exact Or.inl hOld
  | cancelled => exact Or.inl (OrderedMultimap.mem_of_mem_eraseAt hEntry)
  | expired _ hFirst =>
      rw [hKept.entries_of_first hFirst]
      exact Or.inl (List.mem_cons_of_mem _ hEntry)

theorem wellKept_of_run {steps : List (TimerManagerImpl × Action)}
    {history : List Output} {s : TimerManagerImpl}
    (run : timerSystem.Run steps history s) : s.WellKept := by
  refine run.invariant_of_all (fun _ s => s.WellKept) ?_ ?_
  · rintro s ⟨threadId, now, rfl⟩
    exact wellKept_construct threadId now
  · intro history s action t new hKept hStep
    exact hKept.step (moves_of_step hStep)

end TimerManagerImpl

end Timer
end UtilsFramework
