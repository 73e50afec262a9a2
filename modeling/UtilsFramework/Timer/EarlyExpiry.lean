import UtilsFramework.Timer.Ledger

/-!
# When a failing re-arm makes a timer expire early

`onTimerExpired` serves the first timer without looking at the clock, so no
subscriber is called early only as long as no tick can come before the first
date: `OnTime`.  A failing `timerfd_settime` is harmless in `launchNewTimer`,
which takes the insertion back, and in `onTimerExpired`, where the kernel timer
has just been consumed.  It is not in `cancelTimer`: the setting for the erased
timer stays behind and ticks for the next one.
-/

namespace UtilsFramework
namespace Timer

open Library
open Library.TransitionSystem

namespace TimerManagerImpl

/-- No tick can be read before the first date. -/
def OnTime (s : TimerManagerImpl) : Prop :=
  ∀ date tmoObj, s.activeTimers.first? = some (date, tmoObj) →
    s.kernelTimer.NotBefore s.now date

/-- The step is not a cancel of the first timer that fails to re-arm while the
setting left behind, or its tick, is early for the timer that is then first. -/
def CancelOnTime (s : TimerManagerImpl) : Action → Prop
  | .cancelTimer caller timerFdSetTimeSucceeds timer =>
      caller = s.threadId → timerFdSetTimeSucceeds = false →
        match s.activeTimers.entries with
        | found :: next :: _ => found.2.id = timer → s.kernelTimer.NotBefore s.now next.1
        | _ => True
  | _ => True

instance (s : TimerManagerImpl) (action : Action) : Decidable (CancelOnTime s action) :=
  match action with
  | .cancelTimer caller succeeds timer =>
      match hEntries : s.activeTimers.entries with
      | found :: next :: _ =>
          decidable_of_iff (caller = s.threadId → succeeds = false →
            found.2.id = timer → s.kernelTimer.NotBefore s.now next.1)
            (by simp only [CancelOnTime, hEntries])
      | [_] => isTrue (by simp [CancelOnTime, hEntries])
      | [] => isTrue (by simp [CancelOnTime, hEntries])
  | .start _ _ _ _ _ | .onTimerExpired _ _ | .elapse _ => isTrue trivial

/-- A successful setting for the first date ticks at this date. -/
theorem notBefore_setTime_armValue {timers : OrderedMultimap Int TimerObject}
    {date : Int} {tmoObj : TimerObject} (hFirst : timers.first? = some (date, tmoObj))
    (now : Int) : (Timerfd.setTime now (armValue timers)).NotBefore now date := by
  have hArm : armValue timers = itValue date := by
    simp only [armValue, hFirst]
  rw [hArm]
  have hTicks := Timerfd.notBefore_setTime now (itValue date)
  rwa [nanoseconds_itValue] at hTicks

theorem OnTime.kept {s : TimerManagerImpl} (hOnTime : s.OnTime) {fd : Int}
    {kernelTimer : Timerfd} (hKept : s.TimerFdKept fd kernelTimer) {date : Int}
    {tmoObj : TimerObject} (hFirst : s.activeTimers.first? = some (date, tmoObj)) :
    kernelTimer.NotBefore s.now date := by
  rcases hKept with ⟨-, rfl⟩ | ⟨-, -, rfl⟩
  · exact hOnTime date tmoObj hFirst
  · trivial

theorem onTime_construct (threadId : ThreadId) (now : Int) :
    (construct threadId now).OnTime := by
  intro date tmoObj _
  trivial

theorem OnTime.step {s t : TimerManagerImpl} {action : Action} {new : List Output}
    (hOnTime : s.OnTime) (hRead : ReadNeedsTick s action)
    (hCancel : s.CancelOnTime action) (moves : Moves s action t new) : t.OnTime := by
  cases moves with
  | startRefused _ _ hKept =>
      intro date tmoObj hFirst
      exact hOnTime.kept hKept hFirst
  | @started kind _ _ timeout timer _ kept _ _ _ hKept _ _ _ hKernel =>
      intro date tmoObj hFirst
      rcases hKernel with ⟨hZero, rfl⟩ | ⟨hNonzero, rfl⟩
      · rw [OrderedMultimap.first?_emplace_of_zero _ hZero, Option.some.injEq,
          Prod.mk.injEq] at hFirst
        rw [← hFirst.1]
        have hTicks := Timerfd.notBefore_setTime s.now (itValue (expiredDate s.now timeout))
        rwa [nanoseconds_itValue] at hTicks
      · rw [(OrderedMultimap.first?_emplace_of_ne_zero _ hNonzero).1] at hFirst
        exact hOnTime.kept hKept hFirst
  | cancelRefused => exact hOnTime
  | @cancelled caller succeeds timer before after found _ _ _ hOwn hEntries hErased
      hFound hKernel =>
      intro date tmoObj hFirst
      rcases hKernel with ⟨rfl, rfl⟩ | ⟨hBefore, rfl⟩
      · cases succeeds with
        | true => exact notBefore_setTime_armValue hFirst s.now
        | false =>
            -- what was set for the erased timer is now judged by its successor
            have hRest : after.head? = some (date, tmoObj) := by
              rw [← hFirst, OrderedMultimap.first?, hErased, List.nil_append]
            obtain ⟨others, rfl⟩ := List.head?_eq_some_iff.mp hRest
            have hLate := hCancel hOwn rfl
            rw [hEntries] at hLate
            exact hLate hFound
      · have hPosition : before.length ≠ 0 := fun hZero =>
          hBefore (List.length_eq_zero_iff.mp hZero)
        rw [OrderedMultimap.first?_eraseAt_of_ne_zero hPosition] at hFirst
        exact hOnTime date tmoObj hFirst
  | readFailed => exact hOnTime
  | nothingActive _ hNone =>
      intro date tmoObj hFirst
      rw [hNone] at hFirst
      cases hFirst
  | @expired succeeds _ expiredObj _ _ =>
      intro date tmoObj hFirst
      cases succeeds with
      | true => exact notBefore_setTime_armValue hFirst s.now
      | false =>
          -- the tick has been consumed, so nothing is set
          simp only [rearmed, hRead rfl, Timerfd.read]
          trivial
  | elapsed hLater =>
      intro date tmoObj hFirst
      exact (hOnTime date tmoObj hFirst).settle hLater

end TimerManagerImpl

/-- No call of a subscriber came before the deadline of the start it ended. -/
def NoneEarly (ledger : Ledger) : Prop :=
  ∀ firing ∈ ledger.fired, ∃ launch, firing.1 = some launch ∧ launch.deadline ≤ firing.2

/-- A tick that is read means that the first date has been reached. -/
theorem TimerManagerImpl.OnTime.reached {s : TimerManagerImpl} (hOnTime : s.OnTime)
    {succeeds : Bool} (hRead : ReadNeedsTick s (.onTimerExpired true succeeds))
    {date : Int} {tmoObj : TimerObject}
    (hFirst : s.activeTimers.first? = some (date, tmoObj)) : date ≤ s.now := by
  have hTicks := hOnTime date tmoObj hFirst
  rw [hRead rfl] at hTicks
  exact hTicks

/-- The steps of a run that keep every expiry on time. -/
def StepOnTime (s : TimerManagerImpl) (action : Action) : Prop :=
  DeadlineInRange s action ∧ ReadNeedsTick s action ∧ s.CancelOnTime action

/-- What holds in every state of such a run. -/
structure OnTimeRun (history : List Output) (s : TimerManagerImpl) (waiting : Waiting) :
    Prop where
  kept : s.WellKept
  onTime : s.OnTime
  recorded : Recorded (Ledger.ofHistory history) s waiting

/-- The first entry that a step serves has reached its deadline. -/
theorem OnTimeRun.reached {history : List Output} {s : TimerManagerImpl}
    {waiting : Waiting} (hInv : OnTimeRun history s waiting) {succeeds : Bool}
    (hRead : ReadNeedsTick s (.onTimerExpired true succeeds))
    {entry : Int × TimerObject × Nat} (hFirst : waiting.first? = some entry) :
    entry.1 ≤ s.now := by
  refine hInv.onTime.reached hRead (?_ : _ = some (entry.1, entry.2.1))
  rw [hInv.recorded.timers_eq, OrderedMultimap.first?_mapValues, hFirst, Option.map_some]

theorem OnTimeRun.step {history new : List Output} {s t : TimerManagerImpl}
    {action : Action} {waiting : Waiting} (hInv : OnTimeRun history s waiting)
    (hStep : StepOnTime s action) (moves : TimerManagerImpl.Moves s action t new) :
    ∃ waiting', OnTimeRun (history ++ new) t waiting' ∧
      Booked s action (Ledger.ofHistory history) waiting
        (Ledger.ofHistory (history ++ new)) waiting' := by
  obtain ⟨waiting', hRecorded, hBooked⟩ := hInv.recorded.step hInv.kept hStep.1 moves
  rw [← Ledger.ofHistory_append] at hRecorded hBooked
  exact ⟨waiting', ⟨hInv.kept.step moves, hInv.onTime.step hStep.2.1 hStep.2.2 moves,
    hRecorded⟩, hBooked⟩

/-- In every run with deadlines in range in which a tick is read only when one
is pending, any `timerfd_settime` may fail: as long as no failing re-arm of a
cancel leaves a setting that is early for the timer then first, no subscriber
is called before the deadline of its own timer. -/
theorem run_never_early {steps : List (TimerManagerImpl × Action)}
    {history : List Output} {s : TimerManagerImpl}
    (run : timerSystem.Run steps history s)
    (hDeadlines : EveryStep DeadlineInRange steps)
    (hReads : EveryStep ReadNeedsTick steps)
    (hCancels : EveryStep TimerManagerImpl.CancelOnTime steps) :
    NoneEarly (Ledger.ofHistory history) := by
  have hInv : (∃ waiting, OnTimeRun history s waiting) ∧
      NoneEarly (Ledger.ofHistory history) := by
    refine run.invariant StepOnTime
      (fun history s => (∃ waiting, OnTimeRun history s waiting) ∧
        NoneEarly (Ledger.ofHistory history)) ?_ ?_
      (fun visited hVisited => ⟨hDeadlines visited hVisited, hReads visited hVisited,
        hCancels visited hVisited⟩)
    · rintro s ⟨threadId, now, rfl⟩
      exact ⟨⟨.empty, TimerManagerImpl.wellKept_construct threadId now,
        TimerManagerImpl.onTime_construct threadId now,
        recorded_construct threadId now⟩, by simp [NoneEarly, Ledger.ofHistory,
          Ledger.empty]⟩
    · rintro history s action t new ⟨⟨waiting, hInv⟩, hNone⟩ hGuard hStep
      obtain ⟨waiting', hNext, hBooked⟩ :=
        hInv.step hGuard (TimerManagerImpl.moves_of_step hStep)
      refine ⟨⟨waiting', hNext⟩, ?_⟩
      cases hBooked with
      | unchanged _ hFired =>
          rw [NoneEarly, hFired]
          exact hNone
      | admitted _ _ hFired =>
          rw [NoneEarly, hFired]
          exact hNone
      | withdrawn _ hFired =>
          rw [NoneEarly, hFired]
          exact hNone
      | served hAction hFirst _ hFired =>
          subst hAction
          intro firing hFiring
          rw [hFired, List.mem_append, List.mem_singleton] at hFiring
          rcases hFiring with hOld | rfl
          · exact hNone firing hOld
          · exact ⟨_, rfl, hInv.reached hGuard.2.1 hFirst⟩
  exact hInv.2

/-- Two timers of 10 ms; the cancel of the first fails to re-arm, and the other
one expires. -/
def harmlessCancel : List Action :=
  [.start .oneShot 0 ⟨3, true, true, true⟩ 10 (1, 7),
    .start .oneShot 0 ⟨-1, true, true, true⟩ 10 (2, 7),
    .cancelTimer 0 false (1, 7),
    .elapse 10000000,
    .onTimerExpired true true]

/-- The setting left behind is not early for a timer with the same deadline. -/
theorem harmlessCancel_never_early : NoneEarly (Ledger.ofHistory
    [.timerFdSetTime ⟨0, 0⟩ true, .timerFdSetTime ⟨0, 10000000⟩ true,
      .started .oneShot (1, 7) 0 10 .normal, .started .oneShot (2, 7) 0 10 .normal,
      .timerFdSetTime ⟨0, 10000000⟩ false, .cancelled (1, 7) .normal,
      .timerFdSetTime ⟨0, 0⟩ true, .handleTimerExpired (2, 7) 10000000]) :=
  run_never_early
    (run_of_replay (.construct 0 0) harmlessCancel ⟨0, 0, rfl⟩ rfl)
    (by decide) (by decide) (by decide)

/-- A timer of 10 ms and one of 100 ms; the cancel of the first fails to re-arm,
and its tick comes after 10 ms. -/
def earlyAfterCancel : List Action :=
  [.start .oneShot 0 ⟨3, true, true, true⟩ 10 (1, 7),
    .start .oneShot 0 ⟨-1, true, true, true⟩ 100 (2, 7),
    .cancelTimer 0 false (1, 7),
    .elapse 10000000,
    .onTimerExpired true true]

/-- What is observed of `earlyAfterCancel`. -/
def earlyAfterCancelHistory : List Output :=
  [.timerFdSetTime ⟨0, 0⟩ true, .timerFdSetTime ⟨0, 10000000⟩ true,
    .started .oneShot (1, 7) 0 10 .normal, .started .oneShot (2, 7) 0 100 .normal,
    .timerFdSetTime ⟨0, 100000000⟩ false, .cancelled (1, 7) .normal,
    .timerFdSetTime ⟨0, 0⟩ true, .handleTimerExpired (2, 7) 10000000]

/-- The timer of 100 ms is served after 10 ms. -/
theorem earlyAfterCancel_early :
    (∃ steps s, timerSystem.Run steps earlyAfterCancelHistory s ∧
      EveryStep DeadlineInRange steps ∧ EveryStep ReadNeedsTick steps) ∧
    ¬ NoneEarly (Ledger.ofHistory earlyAfterCancelHistory) := by
  constructor
  · exact ⟨_, _, run_of_replay (.construct 0 0) earlyAfterCancel ⟨0, 0, rfl⟩ rfl,
      by decide, by decide⟩
  · intro hNone
    have hFired : (Ledger.ofHistory earlyAfterCancelHistory).fired =
        [(some ⟨100000000, 1⟩, 10000000)] := rfl
    obtain ⟨launch, hLaunch, hReached⟩ := hNone (some ⟨100000000, 1⟩, 10000000)
      (by rw [hFired]; exact List.mem_cons_self)
    obtain rfl := Option.some.inj hLaunch
    exact absurd hReached (by decide)

end Timer
end UtilsFramework
