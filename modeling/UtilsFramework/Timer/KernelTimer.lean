import UtilsFramework.Timer.Entries

/-!
# The kernel timer and the first deadline

`launchNewTimer`, `cancelTimer` and `onTimerExpired` set the kernel timer only
when the beginning of the multimap changes.  As long as `timerfd_settime`
succeeds, the kernel timer is in every state what a setting for the first date
would make it now: `Tracks`.  A setting needs renewal only when the first date
changes, because the passing of time commutes with it.
-/

namespace UtilsFramework
namespace Timer

open Library
open Library.TransitionSystem

/-- The deadline of a start, `now + timeout` in nanoseconds without wrapping. -/
def deadlineOf (now timeout : Int) : Int := now + timeout * 1000000

/-- Both wraps vanish if the deadline itself fits. -/
theorem expiredDate_eq {now timeout : Int} (hLow : -2 ^ 63 ≤ deadlineOf now timeout)
    (hHigh : deadlineOf now timeout < 2 ^ 63) :
    expiredDate now timeout = deadlineOf now timeout :=
  dateAfter_eq hLow hHigh

/-- The `timerfd_settime` of `setTimerFd` succeeds. -/
def SetTimeSucceeds (_ : TimerManagerImpl) : Action → Prop
  | .start _ _ syscalls _ _ => syscalls.timerFdSetTimeSucceeds = true
  | .cancelTimer _ timerFdSetTimeSucceeds _ => timerFdSetTimeSucceeds = true
  | .onTimerExpired _ timerFdSetTimeSucceeds => timerFdSetTimeSucceeds = true
  | .elapse _ => True

/-- A start whose deadline is positive and fits in 64 bits. -/
def PositiveDeadline (s : TimerManagerImpl) : Action → Prop
  | .start _ _ _ timeout _ =>
      0 < deadlineOf s.now timeout ∧ deadlineOf s.now timeout < 2 ^ 63
  | _ => True

instance (s : TimerManagerImpl) (action : Action) : Decidable (SetTimeSucceeds s action) :=
  match action with
  | .start _ _ syscalls _ _ =>
      inferInstanceAs (Decidable (syscalls.timerFdSetTimeSucceeds = true))
  | .cancelTimer _ succeeds _ => inferInstanceAs (Decidable (succeeds = true))
  | .onTimerExpired _ succeeds => inferInstanceAs (Decidable (succeeds = true))
  | .elapse _ => isTrue trivial

instance (s : TimerManagerImpl) (action : Action) : Decidable (PositiveDeadline s action) :=
  match action with
  | .start _ _ _ timeout _ => inferInstanceAs (Decidable
      (0 < deadlineOf s.now timeout ∧ deadlineOf s.now timeout < 2 ^ 63))
  | .cancelTimer _ _ _ | .onTimerExpired _ _ | .elapse _ => isTrue trivial

namespace TimerManagerImpl

/-- The kernel timer is what a setting for the first date would make it, and
without a timerfd there are no timers. -/
structure Tracks (s : TimerManagerImpl) : Prop where
  kernelTimer_eq : s.kernelTimer = .setTime s.now (armValue s.activeTimers)
  withoutFd : s.timerFd = -1 → s.activeTimers.entries = []

theorem armValue_of_first? {timers others : OrderedMultimap Int TimerObject}
    (hFirst : timers.first? = others.first?) : armValue timers = armValue others := by
  rw [armValue, armValue, hFirst]

theorem armValue_of_empty {timers : OrderedMultimap Int TimerObject}
    (hEntries : timers.entries = []) : armValue timers = ⟨0, 0⟩ := by
  rw [armValue, OrderedMultimap.first?_eq_none.mpr hEntries]

theorem rearmed_of_success (timers : OrderedMultimap Int TimerObject) (now : Int)
    (kernelTimer : Timerfd) :
    rearmed timers now true kernelTimer = .setTime now (armValue timers) := by
  rw [rearmed, if_pos rfl]

/-- A timerfd created late starts where the empty multimap requires it. -/
theorem Tracks.kept {s : TimerManagerImpl} (hTracks : s.Tracks) {fd : Int}
    {kernelTimer : Timerfd} (hKept : s.TimerFdKept fd kernelTimer) :
    kernelTimer = .setTime s.now (armValue s.activeTimers) ∧
      (fd = -1 → s.activeTimers.entries = []) := by
  rcases hKept with ⟨rfl, rfl⟩ | ⟨hNone, hFd, rfl⟩
  · exact ⟨hTracks.kernelTimer_eq, hTracks.withoutFd⟩
  · have hEntries := hTracks.withoutFd hNone
    rw [armValue_of_empty hEntries, Timerfd.setTime_zero]
    exact ⟨rfl, fun hMissing => absurd hMissing hFd⟩

theorem tracks_construct (threadId : ThreadId) (now : Int) :
    (construct threadId now).Tracks where
  kernelTimer_eq := rfl
  withoutFd := fun _ => rfl

theorem Tracks.step {s t : TimerManagerImpl} {action : Action} {new : List Output}
    (hTracks : s.Tracks) (hSucceeds : SetTimeSucceeds s action)
    (moves : Moves s action t new) : t.Tracks := by
  cases moves with
  | startRefused _ _ hKept => exact ⟨(hTracks.kept hKept).1, (hTracks.kept hKept).2⟩
  | @started kind _ _ timeout timer fd kept kernelTimer _ _ hKept _ hFd _ hKernel =>
      refine ⟨?_, fun hMissing => absurd hMissing hFd⟩
      rcases hKernel with ⟨hZero, rfl⟩ | ⟨hNonzero, rfl⟩
      · have hFirst := OrderedMultimap.first?_emplace_of_zero
          (launchedTimer timeout timer kind) hZero
        simp only [armValue, hFirst]
      · have hFirst := (OrderedMultimap.first?_emplace_of_ne_zero
          (launchedTimer timeout timer kind) hNonzero).1
        rw [armValue_of_first? hFirst]
        exact (hTracks.kept hKept).1
  | cancelRefused => exact hTracks
  | @cancelled _ succeeds _ before after found kernelTimer _ _ _ hEntries _ _ hKernel =>
      obtain rfl : succeeds = true := hSucceeds
      constructor
      · rcases hKernel with ⟨rfl, rfl⟩ | ⟨hBefore, rfl⟩
        · exact rearmed_of_success _ _ s.kernelTimer
        · -- the first timer is still the first
          have hPosition : before.length ≠ 0 := fun hZero =>
            hBefore (List.length_eq_zero_iff.mp hZero)
          rw [armValue_of_first? (OrderedMultimap.first?_eraseAt_of_ne_zero hPosition)]
          exact hTracks.kernelTimer_eq
      · intro hMissing
        rw [hTracks.withoutFd hMissing] at hEntries
        simp at hEntries
  | readFailed => exact hTracks
  | nothingActive _ hNone =>
      refine ⟨?_, hTracks.withoutFd⟩
      have hEntries := OrderedMultimap.first?_eq_none.mp hNone
      have hKernel := hTracks.kernelTimer_eq
      rw [armValue_of_empty hEntries, Timerfd.setTime_zero] at hKernel
      simp only [hKernel, armValue_of_empty hEntries, Timerfd.setTime_zero, Timerfd.read]
  | @expired succeeds date tmoObj hFd _ =>
      obtain rfl : succeeds = true := hSucceeds
      exact ⟨rearmed_of_success _ _ s.kernelTimer.read, fun hMissing => absurd hMissing hFd⟩
  | elapsed hLater =>
      refine ⟨?_, hTracks.withoutFd⟩
      rw [hTracks.kernelTimer_eq]
      exact Timerfd.settle_setTime hLater _

/-- Every date is positive. -/
def DatesPositive (s : TimerManagerImpl) : Prop :=
  ∀ entry ∈ s.activeTimers.entries, 0 < entry.1

theorem DatesPositive.step {s t : TimerManagerImpl} {action : Action}
    {new : List Output} (hPositive : s.DatesPositive) (hKept : s.WellKept)
    (hRange : PositiveDeadline s action) (moves : Moves s action t new) :
    t.DatesPositive := by
  intro entry hEntry
  rcases hKept.entry_of_moves moves hEntry with hOld | ⟨_, _, _, _, _, rfl, rfl⟩
  · exact hPositive entry hOld
  · rw [expiredDate_eq (by have := hRange.1; omega) hRange.2]
    exact hRange.1

end TimerManagerImpl

/-- In every run in which `timerfd_settime` succeeds and all deadlines are
positive and fit in 64 bits: without timers the kernel timer is disarmed,
otherwise it is armed at the first date, or a tick is pending and this date has
been reached.  A timer whose date has been reached therefore has its tick. -/
theorem run_tracks_first_deadline {steps : List (TimerManagerImpl × Action)}
    {history : List Output} {s : TimerManagerImpl}
    (run : timerSystem.Run steps history s)
    (hSetTime : EveryStep SetTimeSucceeds steps)
    (hDeadlines : EveryStep PositiveDeadline steps) :
    (s.activeTimers.entries = [] → s.kernelTimer = .disarmed) ∧
      (∀ date tmoObj, s.activeTimers.first? = some (date, tmoObj) →
        s.kernelTimer = .armed date ∨ (s.kernelTimer = .expired ∧ date ≤ s.now)) ∧
      ∀ entry ∈ s.activeTimers.entries, entry.1 ≤ s.now → s.kernelTimer = .expired := by
  have hInv : s.WellKept ∧ s.Tracks ∧ s.DatesPositive := by
    refine run.invariant
      (fun s action => SetTimeSucceeds s action ∧ PositiveDeadline s action)
      (fun _ s => s.WellKept ∧ s.Tracks ∧ s.DatesPositive) ?_ ?_
      (fun visited hVisited => ⟨hSetTime visited hVisited, hDeadlines visited hVisited⟩)
    · rintro s ⟨threadId, now, rfl⟩
      exact ⟨TimerManagerImpl.wellKept_construct threadId now,
        TimerManagerImpl.tracks_construct threadId now,
        by simp [TimerManagerImpl.DatesPositive, TimerManagerImpl.construct]⟩
    · rintro history s action t new ⟨hKept, hTracks, hPositive⟩ ⟨hSet, hRange⟩ hStep
      have moves := TimerManagerImpl.moves_of_step hStep
      exact ⟨hKept.step moves, hTracks.step hSet moves,
        hPositive.step hKept hRange moves⟩
  obtain ⟨-, hTracks, hPositive⟩ := hInv
  have hFirst : ∀ date tmoObj, s.activeTimers.first? = some (date, tmoObj) →
      s.kernelTimer = if date ≤ s.now then .expired else .armed date := by
    intro date tmoObj hFirst
    have hDate : date ≠ 0 :=
      (hPositive (date, tmoObj) (OrderedMultimap.mem_of_first? hFirst)).ne'
    rw [hTracks.kernelTimer_eq]
    simp only [TimerManagerImpl.armValue, hFirst]
    rw [Timerfd.setTime_of_ne_zero (fun hZero => hDate (itValue_eq_zero.mp hZero)),
      nanoseconds_itValue]
  refine ⟨?_, ?_, ?_⟩
  · intro hEntries
    rw [hTracks.kernelTimer_eq, TimerManagerImpl.armValue_of_empty hEntries,
      Timerfd.setTime_zero]
  · intro date tmoObj hSome
    rw [hFirst date tmoObj hSome]
    by_cases hReached : date ≤ s.now
    · exact Or.inr ⟨if_pos hReached, hReached⟩
    · exact Or.inl (if_neg hReached)
  · intro entry hEntry hReached
    cases hSome : s.activeTimers.first? with
    | none =>
        rw [OrderedMultimap.first?_eq_none.mp hSome] at hEntry
        cases hEntry
    | some first =>
        rw [hFirst first.1 first.2 hSome]
        exact if_pos ((OrderedMultimap.first_le hSome hEntry).trans hReached)

/-- A timer of 10 ms, then one of 5 ms, then 6 ms pass. -/
def earlierSecond : List Action :=
  [.start .oneShot 0 ⟨3, true, true, true⟩ 10 (1, 7),
    .start .oneShot 0 ⟨-1, true, true, true⟩ 5 (2, 7),
    .elapse 6000000]

/-- The manager after `earlierSecond`. -/
def afterEarlierSecond : TimerManagerImpl where
  threadId := 0
  timerFd := 3
  activeTimers := (OrderedMultimap.empty.emplace 10000000
    (TimerManagerImpl.oneShotTimer (1, 7))).emplace 5000000
      (TimerManagerImpl.oneShotTimer (2, 7))
  kernelTimer := .expired
  now := 6000000

/-- The timer started second has its tick. -/
theorem earlierSecond_tracked :
    afterEarlierSecond.activeTimers.entries.head? =
        some (5000000, TimerManagerImpl.oneShotTimer (2, 7)) ∧
      ∀ entry ∈ afterEarlierSecond.activeTimers.entries,
        entry.1 ≤ afterEarlierSecond.now → afterEarlierSecond.kernelTimer = .expired :=
  ⟨rfl, (run_tracks_first_deadline
    (run_of_replay (.construct 0 0) earlierSecond (t := afterEarlierSecond)
      ⟨0, 0, rfl⟩ rfl) (by decide) (by decide)).2.2⟩

end Timer
end UtilsFramework
