import UtilsFramework.Components.LiveInstances
import UtilsFramework.Library.Erasure

/-!
# Confinement

The components belong to the thread they were created on, and every function of
their interfaces compares the caller with it first.  This file shows what that is
worth: whatever other threads do with references to the components of a thread,
they only get `NOT_THREAD_LOCAL`, and the thread with its timers, descriptors and
messages goes on exactly as if they had done nothing.
-/

namespace UtilsFramework
namespace Components

open Library
open Library.TransitionSystem
open EventLoop (EventLoopImpl LoopThread)
open Timer (TimerManagerImpl)
open ItcPubSub (ItcPubSubImpl)

variable {UserCallback EventHandlerFunc MsgHandler : Type}

/-- A call that another thread makes through a reference. -/
def foreign (thread : ThreadId) : Action UserCallback EventHandlerFunc MsgHandler → Bool
  | .loop _ action => callerOf thread action ≠ thread
  | .start _ caller _ _ _ _ | .cancelTimer caller _ _ | .addItcFd caller _ _
  | .registerMsg caller _ _ | .deregisterMsg caller _ => caller ≠ thread
  | .elapse _ | .reset _ _ | .exit _ => false

/-- The output is a `NOT_THREAD_LOCAL` that a caller gets. -/
def Output.IsRefusal : Output UserCallback EventHandlerFunc MsgHandler → Prop
  | .eventLoop (.returned _ rc) | .eventLoop (.runReturned rc) => rc = .notThreadLocal
  | .timer (.started _ _ _ _ rc) | .timer (.cancelled _ rc) => rc = .notThreadLocal
  | .itcPubSub (.returned _ rc) => rc = .notThreadLocal
  | _ => False

/-- A step of the timer manager leaves it with its thread. -/
theorem timer_threadId_of_step {manager next : TimerManagerImpl} {action : Timer.Action}
    {outputs : List Timer.Output} (hStep : manager.step action = some (next, outputs)) :
    next.threadId = manager.threadId := by
  cases TimerManagerImpl.moves_of_step hStep <;> rfl

variable (UserCallback EventHandlerFunc MsgHandler) in
theorem timer_step_elsewhere {manager next : TimerManagerImpl} {action : Timer.Action}
    {outputs : List Timer.Output} {caller : ThreadId} (hForeign : caller ≠ manager.threadId)
    (hAction : (∃ kind syscalls timeout timer, action = .start kind caller syscalls timeout
      timer) ∨ ∃ succeeds timer, action = .cancelTimer caller succeeds timer)
    (hStep : manager.step action = some (next, outputs)) :
    next = manager ∧ ∃ output, outputs = [output] ∧
      (.timer output : Output UserCallback EventHandlerFunc MsgHandler).IsRefusal := by
  rcases hAction with ⟨kind, syscalls, timeout, timer, rfl⟩ | ⟨succeeds, timer, rfl⟩
  · cases kind <;>
      (simp only [TimerManagerImpl.step, TimerManagerImpl.startTimer,
        TimerManagerImpl.startPeriodicalTimer, TimerManagerImpl.launchNewTimer, hForeign,
        ne_eq, not_false_eq_true, if_true, Option.some.injEq, Prod.mk.injEq] at hStep
       obtain ⟨rfl, rfl⟩ := hStep
       exact ⟨rfl, _, rfl, rfl⟩)
  · simp only [TimerManagerImpl.step, TimerManagerImpl.cancelTimer, hForeign, ne_eq,
      not_false_eq_true, if_true, Option.some.injEq, Prod.mk.injEq] at hStep
    obtain ⟨rfl, rfl⟩ := hStep
    exact ⟨rfl, _, rfl, rfl⟩

theorem pubSub_threadId_of_perform {pubSub : ItcPubSubImpl MsgHandler} (caller : ThreadId)
    (call : ItcPubSub.Call MsgHandler) :
    (pubSub.perform caller call).2.threadId = pubSub.threadId := by
  cases call with
  | addItcFd fd answer =>
      simp only [ItcPubSubImpl.perform, ItcPubSubImpl.addItcFd]
      split
      · rfl
      split
      · rfl
      split <;> rfl
  | registerMsg msgNo msgHandler =>
      simp only [ItcPubSubImpl.perform, ItcPubSubImpl.registerMsg]
      split
      · rfl
      split <;> rfl
  | deregisterMsg msgNo =>
      simp only [ItcPubSubImpl.perform, ItcPubSubImpl.deregisterMsg]
      split
      · rfl
      split <;> rfl

theorem pubSub_perform_elsewhere {pubSub : ItcPubSubImpl MsgHandler} {caller : ThreadId}
    (hForeign : caller ≠ pubSub.threadId) (call : ItcPubSub.Call MsgHandler) :
    pubSub.perform caller call = (.notThreadLocal, pubSub) := by
  cases call <;>
    simp [ItcPubSubImpl.perform, ItcPubSubImpl.addItcFd, ItcPubSubImpl.registerMsg,
      ItcPubSubImpl.deregisterMsg, hForeign]

variable (MsgHandler) in
/-- A call of the loop, or of `run()`, from another thread. -/
theorem loop_step_elsewhere {current after : LoopThread (Callback UserCallback)
      EventHandlerFunc} {thread : ThreadId} (hOwn : current.loop.threadId = thread)
    {action : EventLoop.Action UserCallback EventHandlerFunc}
    (hForeign : callerOf thread action ≠ thread)
    {outputs : List (EventLoop.Output (Callback UserCallback) EventHandlerFunc)}
    (hStep : current.step (boundAction action) = some (after, outputs)) :
    after = current ∧ Thread.dispatchedCallback outputs = none ∧ ∃ output, outputs = [output] ∧
      (.eventLoop output : Output UserCallback EventHandlerFunc MsgHandler).IsRefusal := by
  have hThread : current.loop.threadId ≠ callerOf thread action :=
    fun hSame => hForeign (hSame.symm.trans hOwn)
  cases action with
  | call caller syscalls call =>
      cases LoopThread.moves_of_step hStep with
      | call _ hPerform =>
          obtain ⟨rfl, rfl⟩ := EventLoopImpl.perform_elsewhere hThread hPerform
          exact ⟨rfl, rfl, _, rfl, rfl⟩
  | run caller =>
      cases LoopThread.moves_of_step hStep with
      | runElsewhere => exact ⟨rfl, rfl, _, rfl, rfl⟩
      | runEnters hSame => exact absurd hSame hThread
  | userReturns | epollWaitReturns | signalStop | proceed => exact absurd rfl hForeign

namespace Thread

variable {s t : Thread UserCallback EventHandlerFunc MsgHandler}

/-- The instances know the thread they belong to. -/
structure Owned (s : Thread UserCallback EventHandlerFunc MsgHandler) : Prop where
  eventLoop : s.getEventLoop.loop.threadId = s.id
  timerManager : ∀ manager, s.timerManager = some manager → manager.object.threadId = s.id
  itcPubSub : ∀ pubSub, s.itcPubSub = some pubSub → pubSub.object.threadId = s.id

theorem owned_begin (id : ThreadId) (now : Int) :
    (begin id now : Thread UserCallback EventHandlerFunc MsgHandler).Owned where
  eventLoop := rfl
  timerManager := nofun
  itcPubSub := nofun

theorem Owned.getTimerManager (owned : s.Owned) :
    s.getTimerManager.2.Owned ∧ s.getTimerManager.2.id = s.id ∧
      s.getTimerManager.1.object.threadId = s.id := by
  unfold Thread.getTimerManager
  split
  · rename_i manager hManager
    exact ⟨owned, rfl, owned.timerManager manager hManager⟩
  · refine ⟨⟨owned.eventLoop, ?_, owned.itcPubSub⟩, rfl, rfl⟩
    rintro manager hManager
    rw [← Option.some.inj hManager]
    rfl

theorem Owned.getItcPubSub (owned : s.Owned) :
    s.getItcPubSub.2.Owned ∧ s.getItcPubSub.2.id = s.id ∧
      s.getItcPubSub.1.object.threadId = s.id := by
  unfold Thread.getItcPubSub
  split
  · rename_i pubSub hLive
    exact ⟨owned, rfl, owned.itcPubSub pubSub hLive⟩
  · refine ⟨⟨owned.eventLoop, owned.timerManager, ?_⟩, rfl, rfl⟩
    rintro pubSub hLive
    rw [← Option.some.inj hLive]
    rfl

theorem Owned.callEventLoop (owned : s.Owned) (syscalls : EventLoop.Syscalls)
    (call : EventLoop.Call (Callback UserCallback) EventHandlerFunc) :
    (s.callEventLoop syscalls call).2.1.Owned ∧
      (s.callEventLoop syscalls call).2.1.id = s.id :=
  ⟨⟨(EventLoopImpl.perform_threadId rfl).trans owned.eventLoop, owned.timerManager,
    owned.itcPubSub⟩, rfl⟩

theorem Owned.with_timer (owned : s.Owned) {manager : Instance TimerManagerImpl}
    (hThread : manager.object.threadId = s.id) :
    ({ s with timerManager := some manager } : Thread UserCallback EventHandlerFunc
      MsgHandler).Owned where
  eventLoop := owned.eventLoop
  timerManager := by
    rintro other hOther
    rw [← Option.some.inj hOther]
    exact hThread
  itcPubSub := owned.itcPubSub

theorem Owned.with_pubSub (owned : s.Owned) {pubSub : Instance (ItcPubSubImpl MsgHandler)}
    (hThread : pubSub.object.threadId = s.id) :
    ({ s with itcPubSub := some pubSub } : Thread UserCallback EventHandlerFunc
      MsgHandler).Owned where
  eventLoop := owned.eventLoop
  timerManager := owned.timerManager
  itcPubSub := by
    rintro other hOther
    rw [← Option.some.inj hOther]
    exact hThread

theorem Owned.with_loop (owned : s.Owned)
    {action : EventLoop.Action (Callback UserCallback) EventHandlerFunc}
    {after : LoopThread (Callback UserCallback) EventHandlerFunc}
    {outputs : List (EventLoop.Output (Callback UserCallback) EventHandlerFunc)}
    (hStep : s.getEventLoop.step action = some (after, outputs)) :
    ({ s with eventLoop := some after } : Thread UserCallback EventHandlerFunc
      MsgHandler).Owned where
  eventLoop := (LoopThread.moves_of_step hStep).threadId.trans owned.eventLoop
  timerManager := owned.timerManager
  itcPubSub := owned.itcPubSub

theorem Owned.addItcFd (owned : s.Owned) (caller : ThreadId)
    (loopSyscalls : EventLoop.Syscalls) (fd : EventLoop.Fd) :
    (s.addItcFd caller loopSyscalls fd).1.Owned ∧
      (s.addItcFd caller loopSyscalls fd).1.id = s.id := by
  obtain ⟨hGot, hId, hThread⟩ := owned.getItcPubSub
  unfold Thread.addItcFd
  dsimp only
  split
  · obtain ⟨hAsked, hAskedId⟩ := hGot.callEventLoop loopSyscalls
      (.addFdHandler fd EventLoop.fdEventIn (.handleFdEvent s.getItcPubSub.1.address))
    exact ⟨hAsked.with_pubSub ((pubSub_threadId_of_perform caller (.addItcFd fd _)).trans
      (hThread.trans (hAskedId.trans hId).symm)), hAskedId.trans hId⟩
  · exact ⟨hGot.with_pubSub ((pubSub_threadId_of_perform caller (.addItcFd fd _)).trans
      (hThread.trans hId.symm)), hId⟩

theorem Owned.callItcPubSub (owned : s.Owned) (caller : ThreadId)
    (call : ItcPubSub.Call MsgHandler) :
    (s.callItcPubSub caller call).1.Owned ∧ (s.callItcPubSub caller call).1.id = s.id := by
  obtain ⟨hGot, hId, hThread⟩ := owned.getItcPubSub
  exact ⟨hGot.with_pubSub ((pubSub_threadId_of_perform caller call).trans
    (hThread.trans hId.symm)), hId⟩

theorem Owned.dropInterest (owned : s.Owned) (fd : EventLoop.Fd) :
    (s.dropInterest fd).Owned where
  eventLoop := by
    have hOwn := owned.eventLoop
    cases hLoop : s.eventLoop with
    | none => simp [Thread.dropInterest, getEventLoop, hLoop, EventLoopImpl.construct]
    | some current => simpa [Thread.dropInterest, getEventLoop, hLoop] using hOwn
  timerManager := owned.timerManager
  itcPubSub := owned.itcPubSub

theorem Owned.destroy (owned : s.Owned) (syscalls : DestructorSyscalls)
    (component : Component) :
    (s.destroy syscalls component).1.Owned ∧ (s.destroy syscalls component).1.id = s.id := by
  cases component with
  | eventLoop =>
      simp only [Thread.destroy]
      split
      · exact ⟨owned, rfl⟩
      · exact ⟨⟨rfl, owned.timerManager, owned.itcPubSub⟩, rfl⟩
  | timerManager =>
      simp only [Thread.destroy]
      split
      · exact ⟨owned, rfl⟩
      · have hWithout : ({ s with timerManager := none } : Thread UserCallback
            EventHandlerFunc MsgHandler).Owned := ⟨owned.eventLoop, by simp, owned.itcPubSub⟩
        unfold destroyTimerManager
        split
        · exact (hWithout.dropInterest _).callEventLoop _ _
        · exact ⟨hWithout, rfl⟩
  | itcPubSub =>
      simp only [Thread.destroy]
      split
      · exact ⟨owned, rfl⟩
      · have hWithout : ({ s with itcPubSub := none } : Thread UserCallback EventHandlerFunc
            MsgHandler).Owned := ⟨owned.eventLoop, owned.timerManager, by simp⟩
        unfold destroyItcPubSub
        split
        · exact hWithout.callEventLoop _ _
        · exact ⟨hWithout, rfl⟩

theorem Owned.step (owned : s.Owned)
    {action : Action UserCallback EventHandlerFunc MsgHandler}
    {new : List (Output UserCallback EventHandlerFunc MsgHandler)}
    (moves : Moves s action t new) : t.Owned ∧ t.id = s.id := by
  cases moves with
  | looped hStep => exact ⟨owned.with_loop hStep, rfl⟩
  | messageHandled hStep => exact ⟨owned.with_loop hStep, rfl⟩
  | timerExpired hStep _ hManager hExpired =>
      refine ⟨(owned.with_loop hStep).with_timer ?_, rfl⟩
      exact (timer_threadId_of_step hExpired).trans (owned.timerManager _ hManager)
  | started hGet hAsk hStep =>
      obtain ⟨hGot, hId, hThread⟩ := owned.getTimerManager
      rw [hGet] at hGot hId hThread
      have hNext := (timer_threadId_of_step hStep).trans hThread
      rcases addTimerFdHandler_cases hAsk with ⟨-, -, rfl, -⟩ | ⟨-, rc, opened, hCall, -, -⟩
      · exact ⟨hGot.with_timer (hNext.trans hId.symm), hId⟩
      · obtain ⟨hAsked, hAskedId⟩ := hGot.callEventLoop _ _
        rw [hCall] at hAsked hAskedId
        exact ⟨hAsked.with_timer (hNext.trans (hAskedId.trans hId).symm), hAskedId.trans hId⟩
  | cancelled hGet hStep =>
      obtain ⟨hGot, hId, hThread⟩ := owned.getTimerManager
      rw [hGet] at hGot hId hThread
      exact ⟨hGot.with_timer ((timer_threadId_of_step hStep).trans (hThread.trans hId.symm)),
        hId⟩
  | elapsed hManager hStep =>
      have hThread := (timer_threadId_of_step hStep).trans (owned.timerManager _ hManager)
      exact ⟨⟨owned.eventLoop, (owned.with_timer hThread).timerManager, owned.itcPubSub⟩, rfl⟩
  | elapsedAlone => exact ⟨⟨owned.eventLoop, owned.timerManager, owned.itcPubSub⟩, rfl⟩
  | mboxAdded => exact owned.addItcFd _ _ _
  | registered => exact owned.callItcPubSub _ _
  | deregistered => exact owned.callItcPubSub _ _
  | wasReset => exact owned.destroy _ _
  | @ended rounds hRounds =>
      have hEnd := exitRounds_keeps
        (P := fun after : Thread UserCallback EventHandlerFunc MsgHandler =>
          after.Owned ∧ after.id = s.id)
        (fun _ _ _ hKept => ⟨(hKept.1.destroy _ _).1, (hKept.1.destroy _ _).2.trans hKept.2⟩)
        rounds s ⟨owned, rfl⟩
      exact ⟨⟨hEnd.1.eventLoop, hEnd.1.timerManager, hEnd.1.itcPubSub⟩, hEnd.2⟩

/-! ## Calls from other threads -/

/-- Another thread needs an instance to call. -/
theorem isSome_of_mayCall {caller : ThreadId} {instanceExists : Bool}
    (hCaller : caller ≠ s.id) (hMay : s.mayCall caller instanceExists = true) :
    instanceExists = true := by
  simpa [mayCall, hCaller] using hMay

theorem stepTimerManager_elsewhere (owned : s.Owned) {manager : Instance TimerManagerImpl}
    (hManager : s.timerManager = some manager) {caller : ThreadId} (hCaller : caller ≠ s.id)
    {action : Timer.Action}
    (hAction : (∃ kind syscalls timeout timer, action = .start kind caller syscalls timeout
      timer) ∨ ∃ succeeds timer, action = .cancelTimer caller succeeds timer)
    {new : List (Output UserCallback EventHandlerFunc MsgHandler)}
    (hStep : s.stepTimerManager manager action = some (t, new)) :
    t = s ∧ ∃ output, new = [output] ∧ output.IsRefusal := by
  obtain ⟨next, outputs, hNext, rfl, rfl⟩ := stepTimerManager_some hStep
  have hForeign : caller ≠ manager.object.threadId :=
    fun hSame => hCaller (hSame.trans (owned.timerManager manager hManager))
  obtain ⟨rfl, output, rfl, hRefused⟩ := timer_step_elsewhere UserCallback EventHandlerFunc
    MsgHandler hForeign hAction hNext
  refine ⟨?_, .timer output, rfl, hRefused⟩
  rw [← hManager]

theorem callItcPubSub_elsewhere (owned : s.Owned) (hLive : s.itcPubSub.isSome = true)
    {caller : ThreadId} (hCaller : caller ≠ s.id) (call : ItcPubSub.Call MsgHandler) :
    (s.callItcPubSub caller call).1 = s ∧
      ∃ output, (s.callItcPubSub caller call).2 = [output] ∧ output.IsRefusal := by
  obtain ⟨pubSub, hPubSub⟩ := Option.isSome_iff_exists.mp hLive
  have hForeign : caller ≠ pubSub.object.threadId :=
    fun hSame => hCaller (hSame.trans (owned.itcPubSub pubSub hPubSub))
  simp only [callItcPubSub, getItcPubSub, hPubSub, pubSub_perform_elsewhere hForeign]
  refine ⟨?_, _, rfl, rfl⟩
  rw [← hPubSub]

theorem addItcFd_elsewhere (owned : s.Owned) (hLive : s.itcPubSub.isSome = true)
    {caller : ThreadId} (hCaller : caller ≠ s.id) (loopSyscalls : EventLoop.Syscalls)
    (fd : EventLoop.Fd) :
    (s.addItcFd caller loopSyscalls fd).1 = s ∧
      ∃ output, (s.addItcFd caller loopSyscalls fd).2 = [output] ∧ output.IsRefusal := by
  obtain ⟨pubSub, hPubSub⟩ := Option.isSome_iff_exists.mp hLive
  have hForeign : caller ≠ pubSub.object.threadId :=
    fun hSame => hCaller (hSame.trans (owned.itcPubSub pubSub hPubSub))
  simp only [addItcFd, getItcPubSub, hPubSub, hForeign, false_and, if_false,
    ItcPubSubImpl.addItcFd, ne_eq, not_false_eq_true, if_true]
  refine ⟨?_, _, rfl, rfl⟩
  rw [← hPubSub]

/-- A call from another thread is refused, and that is all it does. -/
theorem Owned.refuses (owned : s.Owned)
    {action : Action UserCallback EventHandlerFunc MsgHandler}
    (hForeign : foreign s.id action = true)
    {new : List (Output UserCallback EventHandlerFunc MsgHandler)}
    (hStep : s.step action = some (t, new)) :
    t = s ∧ ∃ output, new = [output] ∧ output.IsRefusal := by
  have moves := moves_of_step hStep
  unfold Thread.step at hStep
  split at hStep
  · cases hStep
  cases action with
  | loop outcomes action =>
      have hCaller : callerOf s.id action ≠ s.id := by simpa [foreign] using hForeign
      simp only [hCaller, decide_false, Bool.false_or, Option.ite_none_right_eq_some] at hStep
      obtain ⟨current, hLoop⟩ := Option.isSome_iff_exists.mp hStep.1
      have hGet : s.getEventLoop = current := by simp [getEventLoop, hLoop]
      have hStepLoop := hStep.2
      unfold stepLoop at hStepLoop
      dsimp only at hStepLoop
      split at hStepLoop
      · cases hStepLoop
      rename_i after outputs hNext
      obtain ⟨rfl, hNone, output, rfl, hRefused⟩ := loop_step_elsewhere MsgHandler
        owned.eventLoop hCaller hNext
      simp only [hNone, Option.some.injEq, Prod.mk.injEq] at hStepLoop
      obtain ⟨rfl, rfl⟩ := hStepLoop
      refine ⟨?_, .eventLoop output, by simp [openedEpfd], hRefused⟩
      rw [hGet, ← hLoop]
  | start kind caller timerSyscalls loopSyscalls timeout timer =>
      have hCaller : caller ≠ s.id := by simpa [foreign] using hForeign
      simp only [Option.ite_none_right_eq_some] at hStep
      obtain ⟨manager, hManager⟩ :=
        Option.isSome_iff_exists.mp (isSome_of_mayCall hCaller hStep.1)
      have hNotOwn : caller ≠ manager.object.threadId :=
        fun hSame => hCaller (hSame.trans (owned.timerManager manager hManager))
      cases moves with
      | @started _ _ _ _ _ _ other got asked added calls next outputs hGet hAsk hNext =>
          simp only [Thread.getTimerManager, hManager, Prod.mk.injEq] at hGet
          obtain ⟨rfl, rfl⟩ := hGet
          -- the event loop is not asked
          rcases addTimerFdHandler_cases hAsk with ⟨-, rfl, rfl, rfl⟩ | ⟨hRegisters, -⟩
          · have hStepManager : asked.stepTimerManager manager (.start kind caller
                { timerSyscalls with addFdHandlerSucceeds := false } timeout timer) =
                  some ({ asked with timerManager := some { manager with object := next } },
                    outputs.map .timer) := by
              rw [stepTimerManager, hNext]
              rfl
            exact stepTimerManager_elsewhere owned hManager hCaller (Or.inl ⟨_, _, _, _, rfl⟩)
              hStepManager
          · simp [registersTimerFd, hNotOwn] at hRegisters
  | cancelTimer caller succeeds timer =>
      have hCaller : caller ≠ s.id := by simpa [foreign] using hForeign
      simp only [Option.ite_none_right_eq_some] at hStep
      obtain ⟨manager, hManager⟩ :=
        Option.isSome_iff_exists.mp (isSome_of_mayCall hCaller hStep.1)
      have hCancel := hStep.2
      simp only [Thread.getTimerManager, hManager] at hCancel
      exact stepTimerManager_elsewhere owned hManager hCaller (Or.inr ⟨_, _, rfl⟩) hCancel
  | addItcFd caller loopSyscalls fd =>
      have hCaller : caller ≠ s.id := by simpa [foreign] using hForeign
      simp only [Option.ite_none_right_eq_some, Bool.and_eq_true, Option.some.injEq] at hStep
      have hResult := addItcFd_elsewhere owned (isSome_of_mayCall hCaller hStep.1.1) hCaller
        loopSyscalls fd
      rw [hStep.2] at hResult
      exact hResult
  | registerMsg caller msgNo msgHandler =>
      have hCaller : caller ≠ s.id := by simpa [foreign] using hForeign
      simp only [Option.ite_none_right_eq_some, Option.some.injEq] at hStep
      have hResult := callItcPubSub_elsewhere owned (isSome_of_mayCall hCaller hStep.1) hCaller
        (.registerMsg msgNo msgHandler)
      rw [hStep.2] at hResult
      exact hResult
  | deregisterMsg caller msgNo =>
      have hCaller : caller ≠ s.id := by simpa [foreign] using hForeign
      simp only [Option.ite_none_right_eq_some, Option.some.injEq] at hStep
      have hResult := callItcPubSub_elsewhere owned (isSome_of_mayCall hCaller hStep.1) hCaller
        (.deregisterMsg msgNo)
      rw [hStep.2] at hResult
      exact hResult
  | elapse | reset | exit => cases hForeign

end Thread

/-- In every run of a thread with its components, a call that another thread makes
through a reference gets `NOT_THREAD_LOCAL`, which is all there is to observe of it, and
the run without these calls is a run as well: it leads to the same state and what is
observed of it is observed in the same order, so that no timer, descriptor or message
handler depends on them. -/
theorem run_ignores_other_threads
    {steps : List (Thread UserCallback EventHandlerFunc MsgHandler ×
      Action UserCallback EventHandlerFunc MsgHandler)}
    {history : List (Output UserCallback EventHandlerFunc MsgHandler)}
    {s : Thread UserCallback EventHandlerFunc MsgHandler}
    (run : (threadSystem UserCallback EventHandlerFunc MsgHandler).Run steps history s) :
    (∃ remaining, remaining.Sublist history ∧
      (threadSystem UserCallback EventHandlerFunc MsgHandler).Run
        (steps.filter fun visited => !foreign visited.1.id visited.2) remaining s) ∧
      ∀ action t new, foreign s.id action = true → s.step action = some (t, new) →
        t = s ∧ ∃ output, new = [output] ∧ output.IsRefusal := by
  obtain ⟨owned, hErased⟩ := run.erase (fun s action => foreign s.id action) Thread.Owned
    (by
      rintro s ⟨id, now, rfl⟩
      exact Thread.owned_begin id now)
    (fun s action t new owned hStep => (owned.step (Thread.moves_of_step hStep)).1)
    (fun s action t new owned hForeign hStep => (owned.refuses hForeign hStep).1)
  exact ⟨hErased, fun action t new hForeign hStep => owned.refuses hForeign hStep⟩

/-- Another thread tries to start a timer, to cancel one and to stop the loop. -/
def meddledWith : List (Action Unit Unit Unit) :=
  [.start .oneShot 0 ⟨7, true, true, true⟩ ⟨3, true⟩ 10 (1, 7),
    .start .oneShot 1 ⟨8, true, true, true⟩ ⟨-1, true⟩ 10 (1, 8), .cancelTimer 1 true (1, 7),
    .loop ⟨true, true, none⟩ (.run 0), .loop ⟨true, true, none⟩ .proceed,
    .loop ⟨true, true, none⟩ (.call 1 ⟨-1, true⟩ .stop)]

theorem meddledWith_ignored : ∃ (steps : List (Thread Unit Unit Unit × Action Unit Unit Unit))
    (remaining history : List (Output Unit Unit Unit)) (s : Thread Unit Unit Unit),
    remaining.Sublist history ∧ (threadSystem Unit Unit Unit).Run
      (steps.filter fun visited => !foreign visited.1.id visited.2) remaining s := by
  obtain ⟨steps, history, s, run⟩ : ∃ steps history s,
      (threadSystem Unit Unit Unit).Run steps history s :=
    ⟨_, _, _, run_of_replay (Thread.begin 0 0) meddledWith ⟨0, 0, rfl⟩ rfl⟩
  obtain ⟨⟨remaining, hErased⟩, -⟩ := run_ignores_other_threads run
  exact ⟨steps, remaining, history, s, hErased⟩

end Components
end UtilsFramework
