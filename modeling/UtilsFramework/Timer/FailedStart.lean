import UtilsFramework.Timer.Entries

/-!
# Starts that fail

`launchNewTimer` can fail after it has created the timerfd and inserted the new
timer.  It takes the timer back by erasing its date, which erases every timer of
that date.  The kernel is only asked to arm for a timer that was inserted at the
beginning, and no other timer can have the date of such a timer.

This file proves that in every reachable state a start that fails leaves the
timers and the kernel timer as they were.  Without a timerfd the kernel timer is
disarmed, so this includes a timerfd that the failed start has created.
-/

namespace UtilsFramework
namespace Timer

open Library
open Library.TransitionSystem

namespace TimerManagerImpl

/-- The start function of a kind. -/
def startOf (s : TimerManagerImpl) (kind : TimerKind) (caller : ThreadId)
    (syscalls : Syscalls) (timeout : Int) (timer : TimerId) :
    ReturnCode × TimerManagerImpl × List Output :=
  match kind with
  | .oneShot => s.startTimer caller syscalls timeout timer
  | .periodical => s.startPeriodicalTimer caller syscalls timeout timer

/-- Nothing changes but `m_timerFd`, which may refer to a new timerfd that is
registered and disarmed. -/
structure ChangesNothing (s t : TimerManagerImpl) (syscalls : Syscalls) : Prop where
  entries_eq : t.activeTimers.entries = s.activeTimers.entries
  kernelTimer_eq : t.kernelTimer = s.kernelTimer
  timerFd_cases : t.timerFd = s.timerFd ∨
    (s.timerFd = -1 ∧ t.timerFd = syscalls.timerFdCreate ∧
      syscalls.addFdHandlerSucceeds = true ∧ t.kernelTimer = .disarmed)
  rest_eq : t.threadId = s.threadId ∧ t.now = s.now

/-- The rollback of `launchNewTimer` erases the inserted timer and no other. -/
def ErasesOnlyInserted (timers : OrderedMultimap Int TimerObject) : Prop :=
  ∀ date tmoObj, timers.upperBound date = 0 →
    (∀ entry ∈ (timers.emplace date tmoObj).entries,
      entry.1 = date → entry = (date, tmoObj)) ∧
    ((timers.emplace date tmoObj).eraseKey date).entries = timers.entries

theorem erasesOnlyInserted (timers : OrderedMultimap Int TimerObject) :
    ErasesOnlyInserted timers := by
  intro date tmoObj hZero
  constructor
  · intro entry hEntry hDate
    exact OrderedMultimap.eq_of_mem_emplace_of_zero hZero hEntry hDate
  · rw [OrderedMultimap.eraseKey_emplace_of_zero tmoObj hZero]

/-! ## Every reachable state -/

/-- Without a timerfd there is no timer to arm for, and nothing is armed. -/
structure IdleWithoutFd (s : TimerManagerImpl) : Prop where
  entries_eq : s.timerFd = -1 → s.activeTimers.entries = []
  kernelTimer_eq : s.timerFd = -1 → s.kernelTimer = .disarmed

theorem idleWithoutFd_construct (threadId : ThreadId) (now : Int) :
    (construct threadId now).IdleWithoutFd where
  entries_eq := fun _ => rfl
  kernelTimer_eq := fun _ => rfl

theorem idleWithoutFd_of_fd {s : TimerManagerImpl} (hFd : s.timerFd ≠ -1) :
    s.IdleWithoutFd where
  entries_eq := fun hNone => absurd hNone hFd
  kernelTimer_eq := fun hNone => absurd hNone hFd

theorem IdleWithoutFd.step {s t : TimerManagerImpl} {action : Action} {new : List Output}
    (hIdle : s.IdleWithoutFd) (moves : Moves s action t new) : t.IdleWithoutFd := by
  cases moves with
  | startRefused _ _ hKept =>
      rcases hKept with ⟨rfl, rfl⟩ | ⟨-, hFd, rfl⟩
      · exact ⟨hIdle.entries_eq, hIdle.kernelTimer_eq⟩
      · exact idleWithoutFd_of_fd hFd
  | started _ _ _ hFd => exact idleWithoutFd_of_fd hFd
  | cancelRefused => exact hIdle
  | cancelled _ _ hEntries =>
      -- there is a timer to cancel, so there is a timerfd
      apply idleWithoutFd_of_fd
      intro hNone
      rw [hIdle.entries_eq hNone] at hEntries
      simp at hEntries
  | readFailed => exact hIdle
  | nothingActive hFd => exact idleWithoutFd_of_fd hFd
  | expired hFd => exact idleWithoutFd_of_fd hFd
  | elapsed =>
      refine ⟨hIdle.entries_eq, fun hNone => ?_⟩
      rw [hIdle.kernelTimer_eq hNone, Timerfd.settle]

theorem idleWithoutFd_of_run {steps : List (TimerManagerImpl × Action)}
    {history : List Output} {s : TimerManagerImpl}
    (run : timerSystem.Run steps history s) : s.IdleWithoutFd := by
  refine run.invariant_of_all (fun _ s => s.IdleWithoutFd) ?_ ?_
  · rintro s ⟨threadId, now, rfl⟩
    exact idleWithoutFd_construct threadId now
  · intro history s action t new hIdle hStep
    exact hIdle.step (moves_of_step hStep)

theorem IdleWithoutFd.changesNothing {s : TimerManagerImpl} (hIdle : s.IdleWithoutFd)
    {caller : ThreadId} {syscalls : Syscalls} {tmoObj : TimerObject} {timeout : Int}
    (hFailed : (s.launchNewTimer caller syscalls tmoObj timeout).1 ≠ .normal) :
    ChangesNothing s (s.launchNewTimer caller syscalls tmoObj timeout).2.1 syscalls := by
  cases hLaunch : s.launchNewTimer caller syscalls tmoObj timeout with
  | mk rc rest =>
      obtain ⟨next, calls⟩ := rest
      rw [hLaunch] at hFailed
      obtain ⟨-, fd, kept, kernelTimer, hKept, hOrigin, hCases⟩ :=
        launchNewTimer_cases hLaunch
      rcases hCases with ⟨-, rfl, rfl⟩ | ⟨hNormal, -⟩
      · rcases hKept with ⟨rfl, rfl⟩ | ⟨hNone, hNew, rfl⟩
        · exact ⟨rfl, rfl, Or.inl rfl, rfl, rfl⟩
        · -- the kernel timer of the new timerfd is like the one there was not
          have hCreated := hOrigin.resolve_left fun hOld => hNew (hOld.trans hNone)
          exact ⟨rfl, (hIdle.kernelTimer_eq hNone).symm,
            Or.inr ⟨hNone, hCreated.1, hCreated.2, rfl⟩, rfl, rfl⟩
      · exact absurd hNormal hFailed

theorem startOf_eq (s : TimerManagerImpl) (kind : TimerKind) (caller : ThreadId)
    (syscalls : Syscalls) (timeout : Int) (timer : TimerId) :
    s.startOf kind caller syscalls timeout timer =
      s.launchNewTimer caller syscalls (launchedTimer timeout timer kind) timeout := by
  cases kind <;> rfl

end TimerManagerImpl

/-- In every reachable state, whatever the system calls return: a start function that
does not return NORMAL leaves the timers and the kernel timer as they were, and
the rollback it may have to make erases the new timer only. -/
theorem run_failed_start_changes_nothing {steps : List (TimerManagerImpl × Action)}
    {history : List Output} {s : TimerManagerImpl}
    (run : timerSystem.Run steps history s) (kind : TimerKind) (caller : ThreadId)
    (syscalls : Syscalls) (timeout : Int) (timer : TimerId) :
    ((s.startOf kind caller syscalls timeout timer).1 ≠ .normal →
      TimerManagerImpl.ChangesNothing s
        (s.startOf kind caller syscalls timeout timer).2.1 syscalls) ∧
      TimerManagerImpl.ErasesOnlyInserted s.activeTimers := by
  refine ⟨fun hFailed => ?_, TimerManagerImpl.erasesOnlyInserted s.activeTimers⟩
  rw [TimerManagerImpl.startOf_eq] at hFailed ⊢
  exact (TimerManagerImpl.idleWithoutFd_of_run run).changesNothing hFailed

/-- Two timers of 10 ms, started at the same time. -/
def equalDeadlines : List Action :=
  [.start .oneShot 0 ⟨3, true, true, true⟩ 10 (1, 7),
    .start .oneShot 0 ⟨-1, true, true, true⟩ 10 (2, 7)]

/-- The manager after `equalDeadlines`. -/
def afterEqualDeadlines : TimerManagerImpl where
  threadId := 0
  timerFd := 3
  activeTimers := (OrderedMultimap.empty.emplace 10000000
    (TimerManagerImpl.oneShotTimer (1, 7))).emplace 10000000
      (TimerManagerImpl.oneShotTimer (2, 7))
  kernelTimer := .armed 10000000
  now := 0

/-- A timer of 5 ms that cannot be armed leaves both as they were. -/
theorem equalDeadlines_kept : TimerManagerImpl.ChangesNothing afterEqualDeadlines
    (afterEqualDeadlines.startOf .oneShot 0 ⟨-1, true, true, false⟩ 5 (3, 7)).2.1
    ⟨-1, true, true, false⟩ :=
  (run_failed_start_changes_nothing
    (run_of_replay (.construct 0 0) equalDeadlines (t := afterEqualDeadlines)
      ⟨0, 0, rfl⟩ rfl) .oneShot 0 ⟨-1, true, true, false⟩ 5 (3, 7)).1 (by decide)

end Timer
end UtilsFramework
