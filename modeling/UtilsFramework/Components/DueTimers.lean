import UtilsFramework.Components.OwnDescriptors
import UtilsFramework.Timer.KernelTimer

/-!
# A due timer is not forgotten

The way of an expiry crosses three components and the kernel: the timer manager keeps
the kernel timer set for its first date, the timerfd becomes readable, the event loop
is told and calls `onTimerExpired` of the manager, which handles its first timer.

This file puts the way together for the thread as a whole.  On the side of the timers
it needs what the timer manager needs by itself, system calls that succeed and
deadlines in range; on the side of the loop it needs users who leave the descriptors of
the components alone.
-/

namespace UtilsFramework
namespace Components

open Library
open Library.TransitionSystem
open EventLoop (LoopThread fdEventIn)
open Timer (TimerManagerImpl TimerObject TimerId)
open ItcPubSub (ItcPubSubImpl)

variable {UserCallback EventHandlerFunc MsgHandler : Type}

/-- A timer whose date has been reached has its tick. -/
theorem expired_of_due {manager : TimerManagerImpl} (hTracks : manager.Tracks)
    (hPositive : manager.DatesPositive) {entry : Int × TimerObject}
    (hEntry : entry ∈ manager.activeTimers.entries) (hDue : entry.1 ≤ manager.now) :
    manager.kernelTimer = .expired := by
  cases hFirst : manager.activeTimers.first? with
  | none =>
      rw [OrderedMultimap.first?_eq_none.mp hFirst] at hEntry
      cases hEntry
  | some first =>
      have hDate : first.1 ≠ 0 :=
        (hPositive first (OrderedMultimap.mem_of_first? hFirst)).ne'
      have hReached := (OrderedMultimap.first_le hFirst hEntry).trans hDue
      have hArmed : TimerManagerImpl.armValue manager.activeTimers = Timer.itValue first.1 := by
        simp only [TimerManagerImpl.armValue, hFirst]
      rw [hTracks.kernelTimer_eq, hArmed,
        Timerfd.setTime_of_ne_zero (fun hZero => hDate (Timer.itValue_eq_zero.mp hZero)),
        Timer.nanoseconds_itValue, if_pos hReached]

/-- `onTimerExpired` handles the first timer. -/
theorem handles_first {manager : TimerManagerImpl} (hFd : manager.timerFd ≠ -1)
    {date : Int} {tmoObj : TimerObject}
    (hFirst : manager.activeTimers.first? = some (date, tmoObj)) (succeeds : Bool) :
    ∃ next outputs, manager.step (.onTimerExpired true succeeds) = some (next, outputs) ∧
      .handleTimerExpired tmoObj.id manager.now ∈ outputs :=
  ⟨_, _, if_pos hFd, by
    simp [hFirst, TimerManagerImpl.setTimerFd_eq]⟩

/-- The clock of a timer manager moves by `elapse` only. -/
theorem now_of_step {manager next : TimerManagerImpl} {action : Timer.Action}
    {outputs : List Timer.Output} (hStep : manager.step action = some (next, outputs)) :
    next.now = match action with
      | .elapse later => later
      | _ => manager.now := by
  cases TimerManagerImpl.moves_of_step hStep <;> rfl

namespace Thread

variable {s t : Thread UserCallback EventHandlerFunc MsgHandler}

/-- Every `timerfd_settime` succeeds, and every timer is started with a positive
deadline that fits in 64 bits. -/
def SetsTimers (s : Thread UserCallback EventHandlerFunc MsgHandler) :
    Action UserCallback EventHandlerFunc MsgHandler → Prop
  | .start _ _ timerSyscalls _ timeout _ =>
      timerSyscalls.timerFdSetTimeSucceeds = true ∧
        0 < Timer.deadlineOf s.now timeout ∧ Timer.deadlineOf s.now timeout < 2 ^ 63
  | .cancelTimer _ timerFdSetTimeSucceeds _ => timerFdSetTimeSucceeds = true
  | .loop outcomes _ => outcomes.timerFdSetTimeSucceeds = true
  | _ => True

instance (s : Thread UserCallback EventHandlerFunc MsgHandler)
    (action : Action UserCallback EventHandlerFunc MsgHandler) :
    Decidable (s.SetsTimers action) :=
  match action with
  | .start _ _ timerSyscalls _ timeout _ =>
      inferInstanceAs (Decidable (timerSyscalls.timerFdSetTimeSucceeds = true ∧
        0 < Timer.deadlineOf s.now timeout ∧ Timer.deadlineOf s.now timeout < 2 ^ 63))
  | .cancelTimer _ succeeds _ => inferInstanceAs (Decidable (succeeds = true))
  | .loop outcomes _ => inferInstanceAs (Decidable (outcomes.timerFdSetTimeSucceeds = true))
  | .elapse _ | .addItcFd .. | .registerMsg .. | .deregisterMsg .. | .reset .. | .exit _ =>
      isTrue trivial

/-- A timer manager on the clock of the thread whose kernel timer is right. -/
structure InTime (s : Thread UserCallback EventHandlerFunc MsgHandler)
    (manager : TimerManagerImpl) : Prop where
  now_eq : manager.now = s.now
  wellKept : manager.WellKept
  tracks : manager.Tracks
  positive : manager.DatesPositive

/-- The timer manager of the thread, if it has one, is in time. -/
def TimersInTime (s : Thread UserCallback EventHandlerFunc MsgHandler) : Prop :=
  ∀ manager, s.timerManager = some manager → s.InTime manager.object

theorem inTime_construct (s : Thread UserCallback EventHandlerFunc MsgHandler) :
    s.InTime (.construct s.id s.now) where
  now_eq := rfl
  wellKept := TimerManagerImpl.wellKept_construct s.id s.now
  tracks := TimerManagerImpl.tracks_construct s.id s.now
  positive := by simp [TimerManagerImpl.DatesPositive, TimerManagerImpl.construct]

theorem InTime.step {manager next : TimerManagerImpl} (inTime : s.InTime manager)
    {action : Timer.Action} {outputs : List Timer.Output}
    (hStep : manager.step action = some (next, outputs))
    (hSet : Timer.SetTimeSucceeds manager action)
    (hDeadline : Timer.PositiveDeadline manager action)
    (hNow : t.now = next.now) : t.InTime next := by
  have moves := TimerManagerImpl.moves_of_step hStep
  exact ⟨hNow.symm, inTime.wellKept.step moves, inTime.tracks.step hSet moves,
    inTime.positive.step inTime.wellKept hDeadline moves⟩

theorem TimersInTime.of_subset (inTime : s.TimersInTime) (hNow : t.now = s.now)
    (hTimer : t.timerManager = s.timerManager ∨ t.timerManager = none) : t.TimersInTime := by
  intro manager hManager
  rcases hTimer with hSame | hNone
  · obtain ⟨hClock, wellKept, tracks, positive⟩ := inTime manager (hSame ▸ hManager)
    exact ⟨hClock.trans hNow.symm, wellKept, tracks, positive⟩
  · rw [hNone] at hManager
    cases hManager

/-- The timer manager a call finds is in time, be it a new one. -/
theorem TimersInTime.getTimerManager (inTime : s.TimersInTime)
    {manager : Instance TimerManagerImpl} (hGet : s.getTimerManager = (manager, t)) :
    s.InTime manager.object ∧ t.now = s.now := by
  unfold Thread.getTimerManager at hGet
  split at hGet
  · rename_i hSome
    obtain ⟨rfl, rfl⟩ := Prod.mk.inj hGet
    exact ⟨inTime _ hSome, rfl⟩
  · obtain ⟨rfl, rfl⟩ := Prod.mk.inj hGet
    exact ⟨s.inTime_construct, rfl⟩

theorem TimersInTime.of_manager {manager : Instance TimerManagerImpl} {next : TimerManagerImpl}
    (hNext : t.timerManager = some { manager with object := next }) (inTime : t.InTime next) :
    t.TimersInTime := by
  intro other hOther
  obtain rfl := Option.some.inj (hNext.symm.trans hOther)
  exact inTime

theorem now_addTimerFdHandler {manager : Instance TimerManagerImpl} {caller : ThreadId}
    {timer : TimerId} {fd : EventLoop.Fd} {loopSyscalls : EventLoop.Syscalls} {added : Bool}
    {calls : List (Output UserCallback EventHandlerFunc MsgHandler)}
    (hAsk : s.addTimerFdHandler manager caller timer fd loopSyscalls = (added, t, calls)) :
    t.now = s.now := by
  rcases addTimerFdHandler_cases hAsk with ⟨-, -, rfl, -⟩ | ⟨-, rc, opened, hCall, -, -⟩
  · rfl
  · rw [callEventLoop_keeps hCall]

theorem getItcPubSub_timer :
    s.getItcPubSub.2.now = s.now ∧ s.getItcPubSub.2.timerManager = s.timerManager := by
  unfold getItcPubSub
  split <;> exact ⟨rfl, rfl⟩

theorem addItcFd_timer (caller : ThreadId) (loopSyscalls : EventLoop.Syscalls)
    (fd : EventLoop.Fd) :
    (s.addItcFd caller loopSyscalls fd).1.now = s.now ∧
      (s.addItcFd caller loopSyscalls fd).1.timerManager = s.timerManager := by
  unfold Thread.addItcFd
  dsimp only
  split <;> exact getItcPubSub_timer

theorem destroy_timer (syscalls : DestructorSyscalls) (component : Component) :
    (s.destroy syscalls component).1.now = s.now ∧
      ((s.destroy syscalls component).1.timerManager = s.timerManager ∨
        (s.destroy syscalls component).1.timerManager = none) := by
  cases component with
  | eventLoop =>
      simp only [Thread.destroy]
      split <;> exact ⟨rfl, Or.inl rfl⟩
  | timerManager =>
      simp only [Thread.destroy]
      split
      · exact ⟨rfl, Or.inl rfl⟩
      · unfold Thread.destroyTimerManager
        split <;> exact ⟨rfl, Or.inr rfl⟩
  | itcPubSub =>
      simp only [Thread.destroy]
      split
      · exact ⟨rfl, Or.inl rfl⟩
      · unfold Thread.destroyItcPubSub
        split <;> exact ⟨rfl, Or.inl rfl⟩

theorem TimersInTime.destroy (inTime : s.TimersInTime) (syscalls : DestructorSyscalls)
    (component : Component) : (s.destroy syscalls component).1.TimersInTime :=
  inTime.of_subset (destroy_timer syscalls component).1 (destroy_timer syscalls component).2

theorem TimersInTime.step (inTime : s.TimersInTime)
    {action : Action UserCallback EventHandlerFunc MsgHandler}
    {new : List (Output UserCallback EventHandlerFunc MsgHandler)}
    (hSets : s.SetsTimers action) (moves : Moves s action t new) : t.TimersInTime := by
  cases moves with
  | looped => exact inTime.of_subset rfl (Or.inl rfl)
  | messageHandled => exact inTime.of_subset rfl (Or.inl rfl)
  | timerExpired _ _ hManager hExpired =>
      have manager := inTime _ hManager
      refine .of_manager rfl (manager.step hExpired hSets trivial ?_)
      exact manager.now_eq.symm.trans (now_of_step hExpired).symm
  | started hGet hAsk hStep =>
      obtain ⟨manager, hGot⟩ := inTime.getTimerManager hGet
      have hDeadline := hSets.2
      rw [← manager.now_eq] at hDeadline
      refine .of_manager rfl (manager.step hStep hSets.1 hDeadline ?_)
      exact (now_addTimerFdHandler hAsk).trans
        (hGot.trans (manager.now_eq.symm.trans (now_of_step hStep).symm))
  | cancelled hGet hStep =>
      obtain ⟨manager, hGot⟩ := inTime.getTimerManager hGet
      refine .of_manager rfl (manager.step hStep hSets trivial ?_)
      exact hGot.trans (manager.now_eq.symm.trans (now_of_step hStep).symm)
  | elapsed hManager hStep =>
      exact .of_manager rfl ((inTime _ hManager).step hStep trivial trivial
        (now_of_step hStep).symm)
  | elapsedAlone hNone =>
      intro manager hManager
      rw [hNone] at hManager
      cases hManager
  | mboxAdded =>
      exact inTime.of_subset (addItcFd_timer _ _ _).1 (Or.inl (addItcFd_timer _ _ _).2)
  | registered => exact inTime.of_subset getItcPubSub_timer.1 (Or.inl getItcPubSub_timer.2)
  | deregistered => exact inTime.of_subset getItcPubSub_timer.1 (Or.inl getItcPubSub_timer.2)
  | wasReset => exact inTime.destroy _ _
  | ended =>
      exact (exitRounds_keeps (fun _ _ _ inTime => inTime.destroy _ _) _ s inTime).of_subset rfl
        (Or.inl rfl)

end Thread

section

variable
  {steps : List (Thread UserCallback EventHandlerFunc MsgHandler ×
    Action UserCallback EventHandlerFunc MsgHandler)}
  {history : List (Output UserCallback EventHandlerFunc MsgHandler)}
  {s : Thread UserCallback EventHandlerFunc MsgHandler}

theorem timersInTime_of_run
    (run : (threadSystem UserCallback EventHandlerFunc MsgHandler).Run steps history s)
    (hSets : EveryStep Thread.SetsTimers steps) : s.TimersInTime := by
  refine run.invariant Thread.SetsTimers (fun _ s => s.TimersInTime) ?_ ?_ hSets
  · rintro s ⟨id, now, rfl⟩ manager hManager
    cases hManager
  · intro history s action t new inTime hStepSets hStep
    exact inTime.step hStepSets (Thread.moves_of_step hStep)

/-- In every run whose users leave the descriptors of the components and the event
loop under them alone, in which `timerfd_settime` succeeds and the deadlines are in
range: when the thread waits in `run()` and the date of some active timer has been
reached, then the timerfd is readable, the event loop may be told of it, and as soon
as its tick is read the timer with the first date is handled, which is due as well.
No other system call need succeed, and any component may have been reset before. -/
theorem run_handles_due_timers
    (run : (threadSystem UserCallback EventHandlerFunc MsgHandler).Run steps history s)
    (hLeaves : EveryStep Thread.LeavesOwn steps) (hSets : EveryStep Thread.SetsTimers steps)
    {below : List (EventLoop.Frame EventHandlerFunc)}
    (hWaiting : s.getEventLoop.stack = .run .waiting :: below)
    {manager : Instance TimerManagerImpl} (hManager : s.timerManager = some manager)
    {entry : Int × TimerObject} (hEntry : entry ∈ manager.object.activeTimers.entries)
    (hDue : entry.1 ≤ s.now) (outcomes : Outcomes) (hRead : outcomes.readSucceeds = true) :
    manager.object.kernelTimer = .expired ∧
      ∃ date tmoObj, manager.object.activeTimers.first? = some (date, tmoObj) ∧
        date ≤ entry.1 ∧
        ∃ object reported handled outputs,
          s.getEventLoop.loop.interestList.lookup manager.object.timerFd =
            some ⟨Epoll.epollIn, object⟩ ∧
          s.step (.loop outcomes (.epollWaitReturns (.events [⟨Epoll.epollIn, object⟩]))) =
            some (reported, []) ∧
          reported.step (.loop outcomes .proceed) = some (handled, outputs) ∧
          .timer (.handleTimerExpired tmoObj.id s.now) ∈ outputs := by
  obtain ⟨hNow, -, tracks, positive⟩ := timersInTime_of_run run hSets manager hManager
  have hOpen := open_of_waiting run hWaiting
  have hTimer : manager.object.timerFd ≠ -1 := fun hNone => by
    rw [tracks.withoutFd hNone] at hEntry
    cases hEntry
  have hOwn : (manager.object.timerFd, .onTimerExpired manager.address) ∈
      s.ownDescriptors := by
    simp [Thread.ownDescriptors, timerDescriptor, hManager, hTimer]
  refine ⟨expired_of_due tracks positive hEntry (hNow ▸ hDue), ?_⟩
  obtain ⟨object, reported, calling, hInterest, hReports, hCalls⟩ :=
    (watched_of_run run hLeaves hOpen).reaches hOpen hWaiting hOwn outcomes
  cases hFirst : manager.object.activeTimers.first? with
  | none =>
      rw [OrderedMultimap.first?_eq_none.mp hFirst] at hEntry
      cases hEntry
  | some first =>
      obtain ⟨next, expired, hExpires, hHandled⟩ :=
        handles_first hTimer hFirst outcomes.timerFdSetTimeSucceeds
      rw [hNow] at hHandled
      refine ⟨first.1, first.2, rfl, OrderedMultimap.first_le hFirst hEntry, object, _,
        { s with
          eventLoop := some calling
          timerManager := some { manager with object := next } },
        .eventLoop (.dispatched (.onTimerExpired manager.address) manager.object.timerFd
          fdEventIn) :: expired.map .timer, hInterest, hReports, ?_, ?_⟩
      · rw [hCalls]
        simp [Thread.callBound, hManager, Thread.stepTimerManager, hRead, hExpires]
      · exact List.mem_cons_of_mem _ (List.mem_map_of_mem hHandled)

/-- A timer manager is reset while its timer runs, its successor gets the same
descriptor and two timers; 6 ms pass while the loop waits. -/
def restartedTimers : List (Action Unit Unit Unit) :=
  let outcomes : Outcomes := ⟨true, true, none⟩
  [.start .oneShot 0 ⟨7, false, true, true⟩ ⟨3, true⟩ 4 (1, 7),
    .reset .timerManager ⟨false, ⟨-1, false⟩⟩,
    .start .oneShot 0 ⟨7, false, true, true⟩ ⟨-1, true⟩ 10 (1, 7),
    .start .oneShot 0 ⟨-1, true, true, true⟩ ⟨-1, true⟩ 5 (2, 7),
    .loop outcomes (.run 0), .loop outcomes .proceed, .loop outcomes .proceed,
    .loop outcomes .proceed, .loop outcomes .proceed, .elapse 6000000]

/-- The second timer of the successor is due and handled. -/
theorem restartedTimers_handled : ∃ (reported handled : Thread Unit Unit Unit)
    (outputs : List (Output Unit Unit Unit)),
    reported.step (.loop ⟨true, false, none⟩ .proceed) = some (handled, outputs) ∧
      .timer (.handleTimerExpired (2, 7) 6000000) ∈ outputs := by
  obtain ⟨steps, history, s, manager, entry, run, hLeaves, hSets, hWaiting, hManager, hEntry,
      hDate, hNow, hFirst⟩ :
      ∃ steps history s manager entry, (threadSystem Unit Unit Unit).Run steps history s ∧
        EveryStep Thread.LeavesOwn steps ∧ EveryStep Thread.SetsTimers steps ∧
        s.getEventLoop.stack = [.run .waiting] ∧ s.timerManager = some manager ∧
        entry ∈ manager.object.activeTimers.entries ∧ entry.1 ≤ 6000000 ∧ s.now = 6000000 ∧
        manager.object.activeTimers.first? =
          some (5000000, TimerManagerImpl.oneShotTimer (2, 7)) :=
    ⟨_, _, _, _, (5000000, TimerManagerImpl.oneShotTimer (2, 7)),
      run_of_replay (Thread.begin 0 0) restartedTimers ⟨0, 0, rfl⟩ rfl, by decide, by decide,
      rfl, rfl, by decide, by decide, rfl, rfl⟩
  obtain ⟨-, date, tmoObj, hSome, -, object, reported, handled, outputs, -, -, hHandled,
      hExpired⟩ := run_handles_due_timers run hLeaves hSets hWaiting hManager hEntry
    (hNow ▸ hDate) ⟨true, false, none⟩ rfl
  obtain ⟨rfl, rfl⟩ := Prod.mk.inj (Option.some.inj (hFirst.symm.trans hSome))
  rw [hNow] at hExpired
  exact ⟨reported, handled, outputs, hHandled, hExpired⟩

end

end Components
end UtilsFramework
