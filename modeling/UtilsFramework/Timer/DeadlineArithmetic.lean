import UtilsFramework.Timer.FailedStart
import UtilsFramework.Timer.KernelTimer

/-!
# The arithmetic of deadlines

`launchNewTimer` converts a timeout from milliseconds to nanoseconds and adds it
to the clock, both in 64 bits and without a check.  A deadline that does not fit
is stored as another date; the date zero makes `setTimerFd` pass the value that
disarms.  Negative dates are harmless: such a date comes before all others, so
the kernel is asked to arm for it and refuses.

This file proves that an accepted start has an exact date that can be armed for
exactly if its deadline is positive and fits.
-/

namespace UtilsFramework
namespace Timer

open Library
open Library.TransitionSystem

/-- No successful `timerfd_settime` with a negative part. -/
def NotNegative : Output → Prop
  | .timerFdSetTime value true => 0 ≤ value.tvSec ∧ 0 ≤ value.tvNsec
  | .timerFdSetTime _ false | .started _ _ _ _ _ | .cancelled _ _
  | .handleTimerExpired _ _ => True

instance (output : Output) : Decidable (NotNegative output) :=
  match output with
  | .timerFdSetTime value true =>
      inferInstanceAs (Decidable (0 ≤ value.tvSec ∧ 0 ≤ value.tvNsec))
  | .timerFdSetTime _ false | .started _ _ _ _ _ | .cancelled _ _
  | .handleTimerExpired _ _ => isTrue trivial

/-- The kernel fails on a negative second or nanosecond. -/
def RejectsNegative (history : List Output) : Prop :=
  ∀ output ∈ history, NotNegative output

instance (history : List Output) : Decidable (RejectsNegative history) :=
  inferInstanceAs (Decidable (∀ output ∈ history, NotNegative output))

theorem RejectsNegative.append {history new : List Output}
    (hRejects : RejectsNegative (history ++ new)) :
    RejectsNegative history ∧ RejectsNegative new :=
  List.forall_mem_append.mp hRejects

/-- The value makes `timerfd_settime` arm for `date`. -/
structure ArmsAt (value : Timespec) (date : Int) : Prop where
  nonneg : 0 ≤ value.tvNsec
  lt_second : value.tvNsec < 1000000000
  nanoseconds_eq : value.tvSec * 1000000000 + value.tvNsec = date
  ne_zero : value ≠ ⟨0, 0⟩

/-- The seconds and nanoseconds of a positive date. -/
theorem armsAt_itValue {date : Int} (hDate : 0 < date) : ArmsAt (itValue date) date := by
  have hSplit : (itValue date).tvNsec = date.tmod 1000000000 := by
    rw [Int.tmod_def]
    simp only [itValue]
    omega
  refine ⟨?_, ?_, nanoseconds_itValue date, ?_⟩
  · rw [hSplit]
    exact Int.tmod_nonneg _ hDate.le
  · rw [hSplit]
    exact Int.tmod_lt_of_pos _ (by decide)
  · intro hZero
    exact hDate.ne' (itValue_eq_zero.mp hZero)

/-- A value without negative parts is of a date that is not negative. -/
theorem nonneg_of_itValue {date : Int} (hSec : 0 ≤ (itValue date).tvSec)
    (hNsec : 0 ≤ (itValue date).tvNsec) : 0 ≤ date := by
  have hDate := nanoseconds_itValue date
  rw [Timespec.nanoseconds] at hDate
  omega

namespace TimerManagerImpl

/-- The timer is stored under its deadline, and for this date `setTimerFd` arms. -/
structure ExactDeadline (s : TimerManagerImpl) (timer : TimerId) (deadline : Int) :
    Prop where
  stored : ∃ entry ∈ s.activeTimers.entries, entry.2.id = timer
  key_eq : ∀ entry ∈ s.activeTimers.entries, entry.2.id = timer → entry.1 = deadline
  armed : ∀ (manager : TimerManagerImpl) (tmoObj : TimerObject) (succeeds : Bool)
    (value : Timespec) (succeeded : Bool),
    manager.activeTimers.first? = some (deadline, tmoObj) →
    .timerFdSetTime value succeeded ∈ (manager.setTimerFd succeeds).2.2 →
    ArmsAt value deadline

/-- The values passed for a first timer are those of its date. -/
theorem mem_setTimerFd {s : TimerManagerImpl} {date : Int} {tmoObj : TimerObject}
    (hFirst : s.activeTimers.first? = some (date, tmoObj)) (succeeds : Bool)
    (value : Timespec) (succeeded : Bool) :
    .timerFdSetTime value succeeded ∈ (s.setTimerFd succeeds).2.2 ↔
      value = itValue date ∧ succeeded = succeeds := by
  simp [setTimerFd_eq, armValue, hFirst]

/-- No date is negative. -/
def DatesNonNegative (s : TimerManagerImpl) : Prop :=
  ∀ entry ∈ s.activeTimers.entries, 0 ≤ entry.1

/-- A start with a negative date is not accepted. -/
theorem DatesNonNegative.launch {s next : TimerManagerImpl} (hDates : s.DatesNonNegative)
    {caller : ThreadId} {syscalls : Syscalls} {tmoObj : TimerObject} {timeout : Int}
    {calls : List Output}
    (hLaunch : s.launchNewTimer caller syscalls tmoObj timeout = (.normal, next, calls))
    (hRejects : RejectsNegative calls) : 0 ≤ expiredDate s.now timeout := by
  obtain ⟨-, fd, kept, kernelTimer, -, -, hCases⟩ := launchNewTimer_cases hLaunch
  obtain ⟨-, -, -, -, hKernel, -⟩ := hCases.resolve_left fun hRefused => hRefused.1 rfl
  rcases hKernel with ⟨-, -, hArmed⟩ | ⟨hLater, -⟩
  · obtain ⟨hSec, hNsec⟩ := hRejects _ hArmed
    exact nonneg_of_itValue hSec hNsec
  · -- a timer that expires no later is there already
    rw [Ne, OrderedMultimap.upperBound_eq_zero] at hLater
    push Not at hLater
    obtain ⟨entry, hEntry, hEarlier⟩ := hLater
    exact (hDates entry hEntry).trans hEarlier

theorem step_start (s : TimerManagerImpl) (kind : TimerKind) (caller : ThreadId)
    (syscalls : Syscalls) (timeout : Int) (timer : TimerId) :
    s.step (.start kind caller syscalls timeout timer) =
      some ((s.startOf kind caller syscalls timeout timer).2.1,
        (s.startOf kind caller syscalls timeout timer).2.2 ++
          [.started kind timer s.now timeout
            (s.startOf kind caller syscalls timeout timer).1]) := by
  cases kind <;> rfl

theorem DatesNonNegative.step {s t : TimerManagerImpl} {action : Action}
    {new : List Output} (hDates : s.DatesNonNegative) (hKept : s.WellKept)
    (hStep : s.step action = some (t, new)) (hRejects : RejectsNegative new) :
    t.DatesNonNegative := by
  intro entry hEntry
  rcases hKept.entry_of_moves (moves_of_step hStep) hEntry with
    hOld | ⟨kind, caller, syscalls, timeout, timer, rfl, rfl⟩
  · exact hDates entry hOld
  · rw [step_start, startOf_eq] at hStep
    cases hLaunch : s.launchNewTimer caller syscalls (launchedTimer timeout timer kind)
        timeout with
    | mk rc rest =>
        obtain ⟨next, calls⟩ := rest
        rw [hLaunch] at hStep
        obtain ⟨rfl, rfl⟩ := Prod.mk.inj (Option.some.inj hStep)
        obtain ⟨-, fd, kept, kernelTimer, -, -, hCases⟩ := launchNewTimer_cases hLaunch
        rcases hCases with ⟨-, -, rfl⟩ | ⟨rfl, -⟩
        · exact hDates _ hEntry
        · exact hDates.launch hLaunch hRejects.append.1

theorem datesNonNegative_of_run {steps : List (TimerManagerImpl × Action)}
    {history : List Output} {s : TimerManagerImpl}
    (run : timerSystem.Run steps history s) (hRejects : RejectsNegative history) :
    s.DatesNonNegative := by
  induction run with
  | start hInitial =>
      obtain ⟨threadId, now, rfl⟩ := hInitial
      exact fun entry hEntry => absurd hEntry List.not_mem_nil
  | next run hStep ih =>
      exact (ih hRejects.append.1).step (wellKept_of_run run) hStep hRejects.append.2

/-- The date under which an accepted start stores its timer. -/
theorem exactDeadline_iff {s next : TimerManagerImpl} {caller : ThreadId}
    {syscalls : Syscalls} {tmoObj : TimerObject} {timeout : Int} {calls : List Output}
    (hLaunch : s.launchNewTimer caller syscalls tmoObj timeout = (.normal, next, calls))
    (hDate : 0 ≤ expiredDate s.now timeout) :
    next.ExactDeadline tmoObj.id (deadlineOf s.now timeout) ↔
      0 < deadlineOf s.now timeout ∧ deadlineOf s.now timeout < 2 ^ 63 := by
  obtain ⟨-, fd, kept, kernelTimer, -, -, hCases⟩ := launchNewTimer_cases hLaunch
  obtain ⟨-, -, -, hNew, -, hNext⟩ := hCases.resolve_left fun hRefused => hRefused.1 rfl
  have hStored : (expiredDate s.now timeout, tmoObj) ∈ next.activeTimers.entries := by
    rw [hNext]
    exact OrderedMultimap.mem_emplace.mpr (Or.inl rfl)
  constructor
  · intro hExact
    have hKey : expiredDate s.now timeout = deadlineOf s.now timeout :=
      hExact.key_eq _ hStored rfl
    have hRange := range_of_dateAfter_eq hKey
    refine ⟨lt_of_le_of_ne (hKey ▸ hDate) fun hZero => ?_, hRange.2⟩
    -- alone in the multimap the timer would disarm the kernel timer
    let alone := { next with activeTimers := OrderedMultimap.empty.emplace 0 tmoObj }
    have hFirst : alone.activeTimers.first? = some (0, tmoObj) := rfl
    have hArms := hExact.armed alone tmoObj true (itValue 0) true (hZero ▸ hFirst)
      ((mem_setTimerFd hFirst true _ _).mpr ⟨rfl, rfl⟩)
    exact hArms.ne_zero rfl
  · rintro ⟨hPositive, hHigh⟩
    have hKey : expiredDate s.now timeout = deadlineOf s.now timeout :=
      expiredDate_eq (by omega) hHigh
    refine ⟨⟨_, hStored, rfl⟩, ?_, ?_⟩
    · intro entry hEntry hId
      rw [hNext] at hEntry
      rcases OrderedMultimap.mem_emplace.mp hEntry with rfl | hOld
      · exact hKey
      · exact absurd hId (hNew entry hOld)
    · intro manager first succeeds value succeeded hFirst hValue
      rw [((mem_setTimerFd hFirst succeeds value succeeded).mp hValue).1]
      exact armsAt_itValue hPositive

end TimerManagerImpl

/-- In every reachable state, for a kernel that rejects negative values: a start that
returns NORMAL stores the exact deadline as a date that `setTimerFd` can arm for if
and only if the deadline is positive and fits in 64 bits. -/
theorem run_deadline_exact_iff {steps : List (TimerManagerImpl × Action)}
    {history : List Output} {s : TimerManagerImpl}
    (run : timerSystem.Run steps history s) (kind : TimerKind) (caller : ThreadId)
    (syscalls : Syscalls) (timeout : Int) (timer : TimerId)
    (hRejects : RejectsNegative
      (history ++ (s.startOf kind caller syscalls timeout timer).2.2))
    (hNormal : (s.startOf kind caller syscalls timeout timer).1 = .normal) :
    (s.startOf kind caller syscalls timeout timer).2.1.ExactDeadline timer
        (deadlineOf s.now timeout) ↔
      0 < deadlineOf s.now timeout ∧ deadlineOf s.now timeout < 2 ^ 63 := by
  rw [TimerManagerImpl.startOf_eq] at hRejects hNormal ⊢
  have hDates := TimerManagerImpl.datesNonNegative_of_run run hRejects.append.1
  have hLaunch : s.launchNewTimer caller syscalls
      (TimerManagerImpl.launchedTimer timeout timer kind) timeout = (.normal, _, _) :=
    Prod.ext hNormal rfl
  have hExact := TimerManagerImpl.exactDeadline_iff hLaunch
    (hDates.launch hLaunch hRejects.append.2)
  rwa [TimerManagerImpl.launchedTimer_id] at hExact

/-- A timer of 10 ms, started half a second after the clock. -/
theorem tenMilliseconds_exact :
    ((TimerManagerImpl.construct 0 500000000).startOf .oneShot 0 ⟨3, true, true, true⟩ 10
      (1, 7)).2.1.ExactDeadline (1, 7) 510000000 :=
  (run_deadline_exact_iff (.start ⟨0, 500000000, rfl⟩) .oneShot 0 ⟨3, true, true, true⟩
    10 (1, 7) (by decide) (by decide)).mpr (by decide)

/-- A timer of 584 years is accepted with the date 448384 ns. -/
theorem hugeTimeout_wraps :
    timerSystem.Run [] [] (.construct 0 0) ∧ (18446744073710 : Int) < 2 ^ 63 ∧
      ((TimerManagerImpl.construct 0 0).startOf .oneShot 0 ⟨3, true, true, true⟩
        18446744073710 (1, 7)).1 = .normal ∧
      RejectsNegative ((TimerManagerImpl.construct 0 0).startOf .oneShot 0
        ⟨3, true, true, true⟩ 18446744073710 (1, 7)).2.2 ∧
      ¬ ((TimerManagerImpl.construct 0 0).startOf .oneShot 0 ⟨3, true, true, true⟩
        18446744073710 (1, 7)).2.1.ExactDeadline (1, 7) (deadlineOf 0 18446744073710) := by
  refine ⟨.start ⟨0, 0, rfl⟩, by decide, by decide, by decide, fun hExact => ?_⟩
  have hKey := hExact.key_eq (448384, TimerManagerImpl.oneShotTimer (1, 7)) (by decide) rfl
  exact absurd hKey (by decide)

end Timer
end UtilsFramework
