import UtilsFramework.Components.Thread
import UtilsFramework.EventLoop.RegisteredHandlers

/-!
# The event loop calls live instances only

`onTimerExpired` and `handleFdEvent` are registered bound to `this`, so the
event loop must not call them once their instance has been destroyed.  In every
run, with resets anywhere in between and the components created again, a
registered bound member function belongs to the live instance, under the
descriptor that the destructor of this instance will remove.
-/

namespace UtilsFramework
namespace Components

open Library
open Library.TransitionSystem
open EventLoop (EventLoopImpl LoopThread Fd FdHandler fdEventIn)
open Timer (TimerManagerImpl TimerId TimerKind)
open ItcPubSub (ItcPubSubImpl MsgNo)

variable {UserCallback EventHandlerFunc MsgHandler : Type}

/-! ## The descriptor of a timer manager -/

theorem timerFd_ensureTimerFd (manager : TimerManagerImpl) (syscalls : Timer.Syscalls) :
    (manager.ensureTimerFd syscalls).1.timerFd =
      if manager.timerFd = -1 ∧ syscalls.timerFdCreate ≠ -1 ∧
          syscalls.addFdHandlerSucceeds = true then
        syscalls.timerFdCreate
      else manager.timerFd := by
  unfold TimerManagerImpl.ensureTimerFd
  split
  · rename_i hNone
    by_cases hCreated : syscalls.timerFdCreate = -1
    · simp [TimerManagerImpl.createTimerFd, hCreated, hNone]
    · cases hAdded : syscalls.addFdHandlerSucceeds <;>
        simp [TimerManagerImpl.createTimerFd, hCreated, hNone, hAdded]
  · rename_i hSome
    simp [hSome]

/-- A start sets `m_timerFd` exactly when it gets to `addFdHandler` and this
succeeds. -/
theorem timerFd_of_launch {manager next : TimerManagerImpl} {caller : ThreadId}
    {syscalls : Timer.Syscalls} {tmoObj : Timer.TimerObject} {timeout : Int}
    {rc : Timer.ReturnCode} {calls : List Timer.Output}
    (hLaunch : manager.launchNewTimer caller syscalls tmoObj timeout = (rc, next, calls)) :
    next.timerFd =
      if registersTimerFd manager caller (tmoObj.subscriber, tmoObj.userId)
          syscalls.timerFdCreate && syscalls.addFdHandlerSucceeds then
        syscalls.timerFdCreate
      else manager.timerFd := by
  unfold TimerManagerImpl.launchNewTimer at hLaunch
  split at hLaunch
  · rename_i hThread
    obtain ⟨rfl, rfl, rfl⟩ := by simpa using hLaunch
    simp [registersTimerFd, hThread]
  rename_i hThread
  split at hLaunch
  · rename_i hFound
    obtain ⟨rfl, rfl, rfl⟩ := by simpa using hLaunch
    simp [registersTimerFd, Option.isNone_eq_false_iff.mpr hFound]
  rename_i hAbsent
  have hEnsured : (manager.ensureTimerFd syscalls).1.timerFd =
      if registersTimerFd manager caller (tmoObj.subscriber, tmoObj.userId)
          syscalls.timerFdCreate && syscalls.addFdHandlerSucceeds then
        syscalls.timerFdCreate
      else manager.timerFd := by
    rw [Bool.not_eq_true, Option.isSome_eq_false_iff] at hAbsent
    rw [timerFd_ensureTimerFd]
    simp only [registersTimerFd, not_ne_iff.mp hThread, hAbsent, decide_true,
      Bool.true_and, Bool.and_eq_true, decide_eq_true_eq, ne_eq, and_assoc]
  rw [← hEnsured]
  clear hEnsured
  -- nothing behind it touches the descriptor
  generalize manager.ensureTimerFd syscalls = ensured at hLaunch
  dsimp only at hLaunch
  split at hLaunch
  · rw [← (Prod.mk.inj (Prod.mk.inj hLaunch).2).1]
  simp only [TimerManagerImpl.setTimerFd_eq] at hLaunch
  split at hLaunch
  · split at hLaunch <;> rw [← (Prod.mk.inj (Prod.mk.inj hLaunch).2).1]
  · rw [← (Prod.mk.inj (Prod.mk.inj hLaunch).2).1]

theorem timerFd_of_start {manager next : TimerManagerImpl} {kind : TimerKind}
    {caller : ThreadId} {syscalls : Timer.Syscalls} {timeout : Int} {timer : TimerId}
    {outputs : List Timer.Output}
    (hStep : manager.step (.start kind caller syscalls timeout timer) =
      some (next, outputs)) :
    next.timerFd =
      if registersTimerFd manager caller timer syscalls.timerFdCreate &&
          syscalls.addFdHandlerSucceeds then
        syscalls.timerFdCreate
      else manager.timerFd := by
  cases kind with
  | oneShot =>
      obtain ⟨rfl, rfl⟩ := Prod.mk.inj (Option.some.inj hStep)
      exact @timerFd_of_launch _ _ _ _ (TimerManagerImpl.oneShotTimer timer) _ _ _ rfl
  | periodical =>
      obtain ⟨rfl, rfl⟩ := Prod.mk.inj (Option.some.inj hStep)
      exact
        @timerFd_of_launch _ _ _ _ (TimerManagerImpl.periodicalTimer timeout timer) _ _ _ rfl

theorem timerFd_of_other {manager next : TimerManagerImpl} {action : Timer.Action}
    {outputs : List Timer.Output} (hStep : manager.step action = some (next, outputs))
    (hOther : ∀ kind caller syscalls timeout timer,
      action ≠ .start kind caller syscalls timeout timer) :
    next.timerFd = manager.timerFd := by
  cases TimerManagerImpl.moves_of_step hStep with
  | startRefused | started => exact absurd rfl (hOther _ _ _ _ _)
  | _ => rfl

/-! ## What belongs to an instance -/

namespace Thread

variable {s t : Thread UserCallback EventHandlerFunc MsgHandler}

/-- A callback bound to an instance belongs to a live one whose descriptor it is
registered for. -/
def Alive (s : Thread UserCallback EventHandlerFunc MsgHandler) (fd : Fd) :
    Callback UserCallback → Prop
  | .user _ => True
  | .onTimerExpired address =>
      fd ≠ -1 ∧ ∃ manager, s.timerManager = some ⟨address, manager⟩ ∧ manager.timerFd = fd
  | .handleFdEvent address =>
      fd ≠ -1 ∧ ∃ pubSub, s.itcPubSub = some ⟨address, pubSub⟩ ∧ pubSub.mboxFd = fd

def BoundTo (s : Thread UserCallback EventHandlerFunc MsgHandler) (fd : Fd)
    (handler : FdHandler (Callback UserCallback)) : Prop :=
  handler.fd = fd ∧ s.Alive fd handler.callback

/-- The loop belongs to its thread, and what is registered there has the
property. -/
structure LoopHas (s : Thread UserCallback EventHandlerFunc MsgHandler)
    (P : Fd → FdHandler (Callback UserCallback) → Prop) : Prop where
  own : s.getEventLoop.loop.threadId = s.id
  silent : s.getEventLoop.loop.RemovedSilent
  registered : s.getEventLoop.loop.Registered P

/-- Every registered bound callback belongs to a live instance. -/
def Bound (s : Thread UserCallback EventHandlerFunc MsgHandler) : Prop :=
  s.LoopHas s.BoundTo

theorem bound_begin (id : ThreadId) (now : Int) :
    (begin id now : Thread UserCallback EventHandlerFunc MsgHandler).Bound where
  own := rfl
  silent := EventLoopImpl.removedSilent_construct id
  registered := EventLoopImpl.registered_construct _ id

theorem LoopHas.mono {P Q : Fd → FdHandler (Callback UserCallback) → Prop}
    (has : s.LoopHas P) (hMono : ∀ fd handler, P fd handler → Q fd handler) :
    s.LoopHas Q :=
  { has with
    registered := fun fd handler hFound => hMono _ _ (has.registered fd handler hFound) }

theorem getEventLoop_of_eq (hLoop : t.eventLoop = s.eventLoop) (hId : t.id = s.id) :
    t.getEventLoop = s.getEventLoop := by
  rw [getEventLoop, getEventLoop, hLoop, hId]

/-- The properties of the loop do not depend on the other instances. -/
theorem LoopHas.of_eq {P : Fd → FdHandler (Callback UserCallback) → Prop}
    (has : s.LoopHas P) (hLoop : t.eventLoop = s.eventLoop) (hId : t.id = s.id) :
    t.LoopHas P := by
  have hGet := getEventLoop_of_eq hLoop hId
  obtain ⟨own, silent, registered⟩ := has
  constructor <;> rw [hGet]
  · rw [own, hId]
  · exact silent
  · exact registered

theorem BoundTo.events {fd : Fd} {handler : FdHandler (Callback UserCallback)}
    (hBound : s.BoundTo fd handler) (events : Epoll.EventMask) :
    s.BoundTo fd { handler with epollEvents := events } :=
  hBound

theorem LoopHas.callEventLoop {P : Fd → FdHandler (Callback UserCallback) → Prop}
    (has : s.LoopHas P)
    (hEvents : ∀ fd handler events, P fd handler → P fd { handler with epollEvents := events })
    {syscalls : EventLoop.Syscalls}
    {call : EventLoop.Call (Callback UserCallback) EventHandlerFunc}
    {rc : EventLoop.ReturnCode}
    {calls : List (Output UserCallback EventHandlerFunc MsgHandler)}
    (hCall : s.callEventLoop syscalls call = (rc, t, calls))
    (hAdded : ∀ fd eventMask callback, call = .addFdHandler fd eventMask callback →
      rc = .normal → ∀ handler : FdHandler (Callback UserCallback), handler.fd = fd →
      handler.callback = callback → P fd handler) :
    t.LoopHas P := by
  simp only [Thread.callEventLoop, Prod.mk.injEq] at hCall
  obtain ⟨rfl, rfl, -⟩ := hCall
  constructor
  · exact (EventLoopImpl.perform_threadId rfl).trans has.own
  · exact has.silent.perform rfl
  · refine has.registered.perform hEvents rfl ?_
    exact fun fd eventMask callback hSame hNormal => hAdded _ _ _ hSame hNormal _ rfl rfl

/-- The instances of `s` are still there in `t`, with their descriptors. -/
structure Keeps (s t : Thread UserCallback EventHandlerFunc MsgHandler) : Prop where
  timerManager : ∀ manager, s.timerManager = some manager → manager.object.timerFd ≠ -1 →
    ∃ next, t.timerManager = some ⟨manager.address, next⟩ ∧
      next.timerFd = manager.object.timerFd
  itcPubSub : ∀ pubSub, s.itcPubSub = some pubSub → pubSub.object.mboxFd ≠ -1 →
    ∃ next, t.itcPubSub = some ⟨pubSub.address, next⟩ ∧ next.mboxFd = pubSub.object.mboxFd

theorem Keeps.boundTo (keeps : s.Keeps t) {fd : Fd}
    {handler : FdHandler (Callback UserCallback)} (hBound : s.BoundTo fd handler) :
    t.BoundTo fd handler := by
  obtain ⟨hFd, hAlive⟩ := hBound
  refine ⟨hFd, ?_⟩
  cases hCallback : handler.callback with
  | user => trivial
  | onTimerExpired address =>
      rw [hCallback] at hAlive
      obtain ⟨hSome, manager, hManager, rfl⟩ := hAlive
      obtain ⟨next, hNext, hSame⟩ := keeps.timerManager _ hManager hSome
      exact ⟨hSome, next, hNext, hSame⟩
  | handleFdEvent address =>
      rw [hCallback] at hAlive
      obtain ⟨hSome, pubSub, hPubSub, rfl⟩ := hAlive
      obtain ⟨next, hNext, hSame⟩ := keeps.itcPubSub _ hPubSub hSome
      exact ⟨hSome, next, hNext, hSame⟩

theorem Keeps.of_same (hTimer : t.timerManager = s.timerManager)
    (hPubSub : t.itcPubSub = s.itcPubSub) : s.Keeps t where
  timerManager := fun manager hManager _ => ⟨manager.object, hTimer.trans hManager, rfl⟩
  itcPubSub := fun pubSub hSome _ => ⟨pubSub.object, hPubSub.trans hSome, rfl⟩

/-- A timer manager moves on with the descriptor it has, if it has one. -/
theorem Keeps.of_timer {manager : Instance TimerManagerImpl} {next : TimerManagerImpl}
    (hManager : s.timerManager = some manager)
    (hFd : manager.object.timerFd ≠ -1 → next.timerFd = manager.object.timerFd)
    (hNext : t.timerManager = some { manager with object := next })
    (hPubSub : t.itcPubSub = s.itcPubSub) : s.Keeps t where
  timerManager := by
    intro other hOther hSome
    obtain rfl := Option.some.inj (hManager.symm.trans hOther)
    exact ⟨next, hNext, hFd hSome⟩
  itcPubSub := fun pubSub hSome _ => ⟨pubSub.object, hPubSub.trans hSome, rfl⟩

/-- The same of a publisher. -/
theorem Keeps.of_pubSub {pubSub : Instance (ItcPubSubImpl MsgHandler)}
    {next : ItcPubSubImpl MsgHandler} (hSome : s.itcPubSub = some pubSub)
    (hFd : pubSub.object.mboxFd ≠ -1 → next.mboxFd = pubSub.object.mboxFd)
    (hNext : t.itcPubSub = some { pubSub with object := next })
    (hTimer : t.timerManager = s.timerManager) : s.Keeps t where
  timerManager := fun manager hManager _ => ⟨manager.object, hTimer.trans hManager, rfl⟩
  itcPubSub := by
    intro other hOther hMbox
    obtain rfl := Option.some.inj (hSome.symm.trans hOther)
    exact ⟨next, hNext, hFd hMbox⟩

/-- Only an instance without a descriptor can be created. -/
theorem Keeps.of_getTimerManager {manager : Instance TimerManagerImpl}
    {got : Thread UserCallback EventHandlerFunc MsgHandler}
    (hGet : s.timerManager = some manager ∨
      s.timerManager = none ∧ manager.object.timerFd = -1)
    (keeps : got.Keeps t) (hGot : got.timerManager = some manager)
    (hPubSub : got.itcPubSub = s.itcPubSub) : s.Keeps t where
  timerManager := by
    intro other hOther hSome
    rcases hGet with hBefore | ⟨hNone, -⟩
    · obtain rfl := Option.some.inj (hBefore.symm.trans hOther)
      exact keeps.timerManager _ hGot hSome
    · simp [hNone] at hOther
  itcPubSub := fun pubSub hSome hMbox => keeps.itcPubSub pubSub (hPubSub.trans hSome) hMbox

theorem Keeps.of_getItcPubSub {pubSub : Instance (ItcPubSubImpl MsgHandler)}
    {got : Thread UserCallback EventHandlerFunc MsgHandler}
    (hGet : s.itcPubSub = some pubSub ∨ s.itcPubSub = none ∧ pubSub.object.mboxFd = -1)
    (keeps : got.Keeps t) (hGot : got.itcPubSub = some pubSub)
    (hTimer : got.timerManager = s.timerManager) : s.Keeps t where
  timerManager := fun manager hSome hFd =>
    keeps.timerManager manager (hTimer.trans hSome) hFd
  itcPubSub := by
    intro other hOther hSome
    rcases hGet with hBefore | ⟨hNone, -⟩
    · obtain rfl := Option.some.inj (hBefore.symm.trans hOther)
      exact keeps.itcPubSub _ hGot hSome
    · simp [hNone] at hOther

/-- The member function of a live instance can be called. -/
theorem Alive.callBound {fd : Fd} {callback : Callback UserCallback}
    (hAlive : s.Alive fd callback)
    (after : LoopThread (Callback UserCallback) EventHandlerFunc) (outcomes : Outcomes) :
    (Thread.callBound { s with eventLoop := some after } outcomes callback).isSome =
      true := by
  cases callback with
  | user => rfl
  | onTimerExpired address =>
      obtain ⟨hFd, manager, hManager, rfl⟩ := hAlive
      simp [Thread.callBound, hManager, stepTimerManager, TimerManagerImpl.step, hFd]
  | handleFdEvent address =>
      obtain ⟨-, pubSub, hPubSub, -⟩ := hAlive
      simp [Thread.callBound, hPubSub]

/-! ## What the operations on the instances do to the thread -/

theorem getTimerManager_cases {manager : Instance TimerManagerImpl}
    (hGet : s.getTimerManager = (manager, t)) :
    t.timerManager = some manager ∧ t.eventLoop = s.eventLoop ∧ t.id = s.id ∧
      t.itcPubSub = s.itcPubSub ∧
      (s.timerManager = some manager ∨
        s.timerManager = none ∧ manager.object.timerFd = -1) := by
  unfold getTimerManager at hGet
  split at hGet
  · rename_i hSome
    obtain ⟨rfl, rfl⟩ := Prod.mk.inj hGet
    exact ⟨hSome, rfl, rfl, rfl, Or.inl hSome⟩
  · rename_i hNone
    obtain ⟨rfl, rfl⟩ := Prod.mk.inj hGet
    exact ⟨rfl, rfl, rfl, rfl, Or.inr ⟨hNone, rfl⟩⟩

theorem getItcPubSub_cases {pubSub : Instance (ItcPubSubImpl MsgHandler)}
    (hGet : s.getItcPubSub = (pubSub, t)) :
    t.itcPubSub = some pubSub ∧ t.eventLoop = s.eventLoop ∧ t.id = s.id ∧
      t.timerManager = s.timerManager ∧
      (s.itcPubSub = some pubSub ∨ s.itcPubSub = none ∧ pubSub.object.mboxFd = -1) := by
  unfold getItcPubSub at hGet
  split at hGet
  · rename_i hSome
    obtain ⟨rfl, rfl⟩ := Prod.mk.inj hGet
    exact ⟨hSome, rfl, rfl, rfl, Or.inl hSome⟩
  · rename_i hNone
    obtain ⟨rfl, rfl⟩ := Prod.mk.inj hGet
    exact ⟨rfl, rfl, rfl, rfl, Or.inr ⟨hNone, rfl⟩⟩

/-- A call of the event loop touches nothing else. -/
theorem callEventLoop_keeps {syscalls : EventLoop.Syscalls}
    {call : EventLoop.Call (Callback UserCallback) EventHandlerFunc}
    {rc : EventLoop.ReturnCode}
    {calls : List (Output UserCallback EventHandlerFunc MsgHandler)}
    (hCall : s.callEventLoop syscalls call = (rc, t, calls)) :
    t = { s with eventLoop := t.eventLoop } := by
  simp only [Thread.callEventLoop, Prod.mk.injEq] at hCall
  obtain ⟨-, rfl, -⟩ := hCall
  rfl

/-- `createTimerFd` asks the event loop, or is not reached. -/
theorem addTimerFdHandler_cases {manager : Instance TimerManagerImpl} {caller : ThreadId}
    {timer : TimerId} {fd : Fd} {loopSyscalls : EventLoop.Syscalls} {added : Bool}
    {calls : List (Output UserCallback EventHandlerFunc MsgHandler)}
    (hAsk : s.addTimerFdHandler manager caller timer fd loopSyscalls = (added, t, calls)) :
    (registersTimerFd manager.object caller timer fd = false ∧ added = false ∧ t = s ∧
      calls = []) ∨
    (registersTimerFd manager.object caller timer fd = true ∧ ∃ rc opened,
      s.callEventLoop loopSyscalls
        (.addFdHandler fd fdEventIn (.onTimerExpired manager.address)) = (rc, t, opened) ∧
      (added = true ↔ rc = .normal) ∧
      calls = .opened fd :: opened ++ if added then [] else [.closed fd]) := by
  unfold addTimerFdHandler at hAsk
  split at hAsk
  · rename_i hRegisters
    refine Or.inr ⟨hRegisters, ?_⟩
    generalize hCall : s.callEventLoop loopSyscalls
      (.addFdHandler fd fdEventIn (.onTimerExpired manager.address)) = result at hAsk
    obtain ⟨rc, asked, opened⟩ := result
    dsimp only at hAsk
    split at hAsk <;> rename_i hNormal <;> obtain ⟨rfl, rfl, rfl⟩ := by simpa using hAsk
    · exact ⟨rc, opened, rfl, by simp [hNormal], by simp⟩
    · exact ⟨rc, opened, rfl, by simp [hNormal], by simp⟩
  · rename_i hNot
    obtain ⟨rfl, rfl, rfl⟩ := by simpa using hAsk
    exact Or.inl ⟨by simpa using hNot, rfl, rfl, rfl⟩

theorem descriptor_of_registers {manager : TimerManagerImpl} {caller : ThreadId}
    {timer : TimerId} {fd : Fd} (hRegisters : registersTimerFd manager caller timer fd = true) :
    manager.timerFd = -1 ∧ fd ≠ -1 := by
  simp only [registersTimerFd, Bool.and_eq_true, decide_eq_true_eq] at hRegisters
  exact ⟨hRegisters.1.2, hRegisters.2⟩

/-! ## The invariant -/

theorem LoopHas.stepLoop {P : Fd → FdHandler (Callback UserCallback) → Prop}
    (has : s.LoopHas P)
    (hEvents : ∀ fd handler events, P fd handler → P fd { handler with epollEvents := events })
    (hUser : ∀ fd (handler : FdHandler (Callback UserCallback)) user, handler.fd = fd →
      handler.callback = .user user → P fd handler)
    {action : EventLoop.Action UserCallback EventHandlerFunc}
    {after : LoopThread (Callback UserCallback) EventHandlerFunc}
    {outputs : List (EventLoop.Output (Callback UserCallback) EventHandlerFunc)}
    (hStep : s.getEventLoop.step (boundAction action) = some (after, outputs)) :
    ({ s with eventLoop := some after } :
      Thread UserCallback EventHandlerFunc MsgHandler).LoopHas P := by
  have moves := LoopThread.moves_of_step hStep
  refine ⟨moves.threadId.trans has.own, moves.removedSilent has.silent, ?_⟩
  refine moves.registered has.registered hEvents ?_
  intro caller syscalls fd eventMask callback hAction
  -- a user registers functions of his own only
  cases action with
  | call other otherSyscalls call =>
      obtain ⟨-, -, hCall⟩ := EventLoop.Action.call.inj hAction
      cases call with
      | addFdHandler otherFd otherMask user =>
          obtain ⟨-, -, rfl⟩ := EventLoop.Call.addFdHandler.inj hCall
          exact hUser fd _ user rfl rfl
      | _ => simp [boundCall] at hCall
  | _ => simp [boundAction] at hAction

theorem BoundTo.of_user {fd : Fd} {handler : FdHandler (Callback UserCallback)}
    {user : UserCallback} (hFd : handler.fd = fd) (hCallback : handler.callback = .user user) :
    s.BoundTo fd handler := by
  refine ⟨hFd, ?_⟩
  rw [hCallback]
  trivial

theorem Bound.stepLoop (bound : s.Bound)
    {action : EventLoop.Action UserCallback EventHandlerFunc}
    {after : LoopThread (Callback UserCallback) EventHandlerFunc}
    {outputs : List (EventLoop.Output (Callback UserCallback) EventHandlerFunc)}
    (hStep : s.getEventLoop.step (boundAction action) = some (after, outputs)) :
    ({ s with eventLoop := some after } :
      Thread UserCallback EventHandlerFunc MsgHandler).LoopHas s.BoundTo :=
  LoopHas.stepLoop bound (fun _ _ events hBound => hBound.events events)
    (fun _ _ _ hFd hCallback => .of_user hFd hCallback) hStep

/-- Where the loop is as before and the instances are kept. -/
theorem Bound.of_keeps (bound : s.Bound) (keeps : s.Keeps t)
    (hLoop : t.eventLoop = s.eventLoop) (hId : t.id = s.id) : t.Bound :=
  (LoopHas.of_eq bound hLoop hId).mono fun _ _ => keeps.boundTo

theorem Bound.started (bound : s.Bound) {kind : TimerKind} {caller : ThreadId}
    {timerSyscalls : Timer.Syscalls} {loopSyscalls : EventLoop.Syscalls} {timeout : Int}
    {timer : TimerId} {manager : Instance TimerManagerImpl}
    {got asked : Thread UserCallback EventHandlerFunc MsgHandler} {added : Bool}
    {calls : List (Output UserCallback EventHandlerFunc MsgHandler)}
    {next : TimerManagerImpl} {outputs : List Timer.Output}
    (hGet : s.getTimerManager = (manager, got))
    (hAsk : got.addTimerFdHandler manager caller timer timerSyscalls.timerFdCreate
      loopSyscalls = (added, asked, calls))
    (hStep : manager.object.step (.start kind caller
      { timerSyscalls with addFdHandlerSucceeds := added } timeout timer) =
        some (next, outputs)) :
    ({ asked with timerManager := some { manager with object := next } } :
      Thread UserCallback EventHandlerFunc MsgHandler).Bound := by
  obtain ⟨hGot, hLoop, hId, hPubSub, hBefore⟩ := getTimerManager_cases hGet
  have hFd := timerFd_of_start hStep
  have hKept : manager.object.timerFd ≠ -1 → next.timerFd = manager.object.timerFd := by
    intro hSome
    rw [hFd, if_neg]
    intro hRegisters
    exact hSome (descriptor_of_registers (Bool.and_eq_true_iff.mp hRegisters).1).1
  rcases addTimerFdHandler_cases hAsk with ⟨-, -, rfl, -⟩ | ⟨hRegisters, rc, opened, hCall,
    hAdded, -⟩
  · refine bound.of_keeps ?_ hLoop hId
    exact .of_getTimerManager hBefore (.of_timer hGot hKept rfl rfl) hGot hPubSub
  · have hAsked := callEventLoop_keeps hCall
    rw [hAsked] at hCall ⊢
    have keeps : s.Keeps
        ({ got with
          eventLoop := asked.eventLoop
          timerManager := some { manager with object := next } } :
          Thread UserCallback EventHandlerFunc MsgHandler) :=
      .of_getTimerManager hBefore (.of_timer hGot hKept rfl rfl) hGot hPubSub
    have has := (LoopHas.of_eq bound hLoop hId).mono fun _ _ => keeps.boundTo
    refine (has.callEventLoop (fun _ _ events hBound => hBound.events events) hCall
      ?_).of_eq rfl rfl
    -- the new handler is registered only if the manager takes the descriptor
    intro fd eventMask callback hNew hNormal handler hHandlerFd hCallback
    obtain ⟨rfl, -, rfl⟩ := EventLoop.Call.addFdHandler.inj hNew
    rw [if_pos (by simp [hRegisters, hAdded.mpr hNormal])] at hFd
    refine ⟨hHandlerFd, ?_⟩
    rw [hCallback]
    exact ⟨(descriptor_of_registers hRegisters).2, next, rfl, hFd⟩

theorem mboxFd_addItcFd (pubSub : ItcPubSubImpl MsgHandler) (caller : ThreadId) (fd : Fd)
    (rc : EventLoop.ReturnCode) :
    (pubSub.addItcFd caller fd rc).2.mboxFd =
      if (caller = pubSub.threadId ∧ pubSub.mboxFd = -1) ∧ rc = .normal then fd
      else pubSub.mboxFd := by
  unfold ItcPubSubImpl.addItcFd
  split
  · rename_i hThread
    simp [hThread]
  rename_i hThread
  split
  · rename_i hMbox
    simp [hMbox]
  rename_i hMbox
  split <;> rename_i hNormal
  · simp [hNormal]
  · rw [if_pos ⟨⟨not_ne_iff.mp hThread, not_ne_iff.mp hMbox⟩, not_ne_iff.mp hNormal⟩]

theorem mboxFd_perform_other (pubSub : ItcPubSubImpl MsgHandler) (caller : ThreadId)
    {call : ItcPubSub.Call MsgHandler} (hOther : ∀ fd rc, call ≠ .addItcFd fd rc) :
    (pubSub.perform caller call).2.mboxFd = pubSub.mboxFd := by
  cases call with
  | addItcFd fd rc => exact absurd rfl (hOther fd rc)
  | registerMsg msgNo msgHandler =>
      simp only [ItcPubSubImpl.perform, ItcPubSubImpl.registerMsg]
      split
      · rfl
      split <;> rfl
  | deregisterMsg msgNo =>
      simp only [ItcPubSubImpl.perform, ItcPubSubImpl.deregisterMsg]
      split
      · rfl
      split <;> rfl

theorem Bound.callItcPubSub (bound : s.Bound) (caller : ThreadId)
    {call : ItcPubSub.Call MsgHandler} (hOther : ∀ fd rc, call ≠ .addItcFd fd rc) :
    (s.callItcPubSub caller call).1.Bound := by
  unfold Thread.callItcPubSub
  generalize hGet : s.getItcPubSub = result
  obtain ⟨pubSub, got⟩ := result
  obtain ⟨hGot, hLoop, hId, hTimer, hBefore⟩ := getItcPubSub_cases hGet
  refine bound.of_keeps ?_ hLoop hId
  exact .of_getItcPubSub hBefore
    (.of_pubSub hGot (fun _ => mboxFd_perform_other _ caller hOther) rfl rfl) hGot hTimer

theorem Bound.addItcFd (bound : s.Bound) (caller : ThreadId)
    {loopSyscalls : EventLoop.Syscalls} {fd : Fd}
    (hFd : 0 ≤ fd ∨ loopSyscalls.epollCtlSucceeds = false) :
    (s.addItcFd caller loopSyscalls fd).1.Bound := by
  unfold Thread.addItcFd
  generalize hGet : s.getItcPubSub = result
  obtain ⟨pubSub, got⟩ := result
  obtain ⟨hGot, hLoop, hId, hTimer, hBefore⟩ := getItcPubSub_cases hGet
  by_cases hAsks : caller = pubSub.object.threadId ∧ pubSub.object.mboxFd = -1
  · simp only [if_pos hAsks]
    generalize hCall : got.callEventLoop loopSyscalls
      (.addFdHandler fd fdEventIn (.handleFdEvent pubSub.address)) = result
    obtain ⟨rc, asked, opened⟩ := result
    have hMbox := mboxFd_addItcFd pubSub.object caller fd rc
    have hAsked := callEventLoop_keeps hCall
    rw [hAsked] at hCall ⊢
    have keeps : s.Keeps
        ({ got with
          eventLoop := asked.eventLoop
          itcPubSub := some { pubSub with
            object := (pubSub.object.addItcFd caller fd rc).2 } } :
          Thread UserCallback EventHandlerFunc MsgHandler) :=
      .of_getItcPubSub hBefore
        (.of_pubSub hGot (fun hSome => absurd hAsks.2 hSome) rfl rfl) hGot hTimer
    have has := (LoopHas.of_eq bound hLoop hId).mono fun _ _ => keeps.boundTo
    refine (has.callEventLoop (fun _ _ events hBound => hBound.events events) hCall
      ?_).of_eq rfl rfl
    intro other eventMask callback hNew hNormal handler hHandlerFd hCallback
    obtain ⟨rfl, -, rfl⟩ := EventLoop.Call.addFdHandler.inj hNew
    refine ⟨hHandlerFd, ?_⟩
    rw [hCallback]
    rw [if_pos ⟨hAsks, hNormal⟩] at hMbox
    refine ⟨?_, _, rfl, hMbox⟩
    -- a failing `epoll_ctl` registers nothing
    rintro rfl
    rcases hFd with hNegative | hFails
    · exact absurd hNegative (by decide)
    · obtain ⟨rfl, -, -⟩ := by simpa only [Thread.callEventLoop, Prod.mk.injEq] using hCall
      have hSucceeds := EventLoopImpl.succeeds_of_addFdHandler (Prod.ext hNormal rfl)
      simp [hFails] at hSucceeds
  · simp only [if_neg hAsks]
    refine bound.of_keeps ?_ hLoop hId
    refine .of_getItcPubSub hBefore (.of_pubSub hGot (fun _ => ?_) rfl rfl) hGot hTimer
    rw [mboxFd_addItcFd, if_neg fun hAll => hAsks hAll.1]

/-- Whatever was registered for a descriptor, nothing is after its removal. -/
theorem LoopHas.unregistered {P : Fd → FdHandler (Callback UserCallback) → Prop}
    (has : s.LoopHas P)
    (hEvents : ∀ fd handler events, P fd handler → P fd { handler with epollEvents := events })
    {syscalls : EventLoop.Syscalls} {fd : Fd} {rc : EventLoop.ReturnCode}
    {calls : List (Output UserCallback EventHandlerFunc MsgHandler)}
    (hCall : s.callEventLoop syscalls (.removeFdHandler fd) = (rc, t, calls)) :
    t.LoopHas fun other handler => other ≠ fd ∧ P other handler := by
  have hKept := has.callEventLoop hEvents hCall (by simp)
  refine { hKept with registered := fun other handler hFound => ⟨?_, ?_⟩ }
  · rintro rfl
    simp only [Thread.callEventLoop, Prod.mk.injEq] at hCall
    obtain ⟨-, rfl, -⟩ := hCall
    have hNone := @EventLoopImpl.removeFdHandler_unregisters _ _ _ _ _ syscalls other _
      has.own rfl
    cases hNone.symm.trans hFound
  · exact hKept.registered other handler hFound

/-- What is not registered for the descriptor of a timer manager does without
this manager. -/
theorem BoundTo.without_timer {fd : Fd} {handler : FdHandler (Callback UserCallback)}
    (hBound : s.BoundTo fd handler) {manager : Instance TimerManagerImpl}
    (hManager : s.timerManager = some manager)
    (hFd : fd ≠ -1 → fd ≠ manager.object.timerFd) (hPubSub : t.itcPubSub = s.itcPubSub) :
    t.BoundTo fd handler := by
  obtain ⟨hHandlerFd, hAlive⟩ := hBound
  refine ⟨hHandlerFd, ?_⟩
  cases hCallback : handler.callback with
  | user => trivial
  | onTimerExpired address =>
      rw [hCallback] at hAlive
      obtain ⟨hSome, other, hOther, hSame⟩ := hAlive
      obtain rfl := Option.some.inj (hManager.symm.trans hOther)
      exact absurd hSame.symm (hFd hSome)
  | handleFdEvent address =>
      rw [hCallback] at hAlive
      obtain ⟨hSome, pubSub, hLive, hSame⟩ := hAlive
      exact ⟨hSome, pubSub, hPubSub.trans hLive, hSame⟩

theorem BoundTo.without_pubSub {fd : Fd} {handler : FdHandler (Callback UserCallback)}
    (hBound : s.BoundTo fd handler) {pubSub : Instance (ItcPubSubImpl MsgHandler)}
    (hLive : s.itcPubSub = some pubSub) (hFd : fd ≠ -1 → fd ≠ pubSub.object.mboxFd)
    (hTimer : t.timerManager = s.timerManager) : t.BoundTo fd handler := by
  obtain ⟨hHandlerFd, hAlive⟩ := hBound
  refine ⟨hHandlerFd, ?_⟩
  cases hCallback : handler.callback with
  | user => trivial
  | onTimerExpired address =>
      rw [hCallback] at hAlive
      obtain ⟨hSome, manager, hManager, hSame⟩ := hAlive
      exact ⟨hSome, manager, hTimer.trans hManager, hSame⟩
  | handleFdEvent address =>
      rw [hCallback] at hAlive
      obtain ⟨hSome, other, hOther, hSame⟩ := hAlive
      obtain rfl := Option.some.inj (hLive.symm.trans hOther)
      exact absurd hSame.symm (hFd hSome)

theorem LoopHas.dropInterest {P : Fd → FdHandler (Callback UserCallback) → Prop}
    (has : s.LoopHas P) (fd : Fd) : (s.dropInterest fd).LoopHas P := by
  cases hLoop : s.eventLoop with
  | none => exact has.of_eq (by simp [Thread.dropInterest, hLoop]) rfl
  | some current =>
      obtain ⟨own, silent, registered⟩ := has
      simp only [getEventLoop, hLoop, Option.getD_some] at own silent registered
      constructor <;> simp only [Thread.dropInterest, getEventLoop, hLoop, Option.map_some,
        Option.getD_some]
      · exact own
      · exact silent
      · exact registered

theorem Bound.destroyTimerManager (bound : s.Bound) (syscalls : DestructorSyscalls)
    {manager : Instance TimerManagerImpl} (hManager : s.timerManager = some manager) :
    (Thread.destroyTimerManager { s with timerManager := none } syscalls
      manager.object).1.Bound := by
  unfold Thread.destroyTimerManager
  split
  · rename_i hFd
    generalize hCall : (Thread.dropInterest { s with timerManager := none }
      manager.object.timerFd).callEventLoop syscalls.loop
        (.removeFdHandler manager.object.timerFd) = result
    obtain ⟨rc, removed, opened⟩ := result
    have has := (LoopHas.of_eq (t := { s with timerManager := none }) bound rfl
      rfl).dropInterest manager.object.timerFd
    have hRemoved := callEventLoop_keeps hCall
    refine (has.unregistered (fun _ _ events hBound => hBound.events events) hCall).mono ?_
    rintro fd handler ⟨hOther, hBound⟩
    refine hBound.without_timer hManager (fun _ => hOther) ?_
    rw [hRemoved]
    rfl
  · rename_i hFd
    refine (LoopHas.of_eq (t := { s with timerManager := none }) bound rfl rfl).mono
      fun fd handler hBound => ?_
    exact hBound.without_timer hManager (fun hSome hSame => hSome (hSame.trans
      (not_ne_iff.mp hFd))) rfl

theorem Bound.destroyItcPubSub (bound : s.Bound) (syscalls : DestructorSyscalls)
    {pubSub : Instance (ItcPubSubImpl MsgHandler)} (hLive : s.itcPubSub = some pubSub) :
    (Thread.destroyItcPubSub { s with itcPubSub := none } syscalls
      pubSub.object).1.Bound := by
  unfold Thread.destroyItcPubSub
  split
  · rename_i hFd
    generalize hCall : Thread.callEventLoop { s with itcPubSub := none } syscalls.loop
      (.removeFdHandler pubSub.object.mboxFd) = result
    obtain ⟨rc, removed, opened⟩ := result
    have has := LoopHas.of_eq (t := { s with itcPubSub := none }) bound rfl rfl
    have hRemoved := callEventLoop_keeps hCall
    refine (has.unregistered (fun _ _ events hBound => hBound.events events) hCall).mono ?_
    rintro fd handler ⟨hOther, hBound⟩
    refine hBound.without_pubSub hLive (fun _ => hOther) ?_
    rw [hRemoved]
  · rename_i hFd
    refine (LoopHas.of_eq (t := { s with itcPubSub := none }) bound rfl rfl).mono
      fun fd handler hBound => ?_
    exact hBound.without_pubSub hLive (fun hSome hSame => hSome (hSame.trans
      (not_ne_iff.mp hFd))) rfl

theorem Bound.destroy (bound : s.Bound) (syscalls : DestructorSyscalls)
    (component : Component) : (s.destroy syscalls component).1.Bound := by
  cases component with
  | eventLoop =>
      simp only [Thread.destroy]
      split
      · exact bound
      · -- a new loop has no handlers
        exact ⟨rfl, EventLoopImpl.removedSilent_construct s.id,
          EventLoopImpl.registered_construct _ s.id⟩
  | timerManager =>
      simp only [Thread.destroy]
      split
      · exact bound
      · rename_i hManager
        exact bound.destroyTimerManager syscalls hManager
  | itcPubSub =>
      simp only [Thread.destroy]
      split
      · exact bound
      · rename_i hLive
        exact bound.destroyItcPubSub syscalls hLive

/-- What every destruction keeps, the rounds at the end of a thread keep. -/
theorem exitRounds_keeps
    {P : Thread UserCallback EventHandlerFunc MsgHandler → Prop}
    (hDestroy : ∀ s syscalls component, P s → P (Thread.destroy s syscalls component).1)
    (rounds : List ExitRound) (s : Thread UserCallback EventHandlerFunc MsgHandler)
    (hHolds : P s) : P (exitRounds rounds s).1 := by
  have hRound : ∀ syscalls order (s : Thread UserCallback EventHandlerFunc MsgHandler),
      P s → P (destroyAll syscalls order s).1 := by
    intro syscalls order
    induction order with
    | nil => exact fun s hHolds => hHolds
    | cons component rest ih =>
        exact fun s hHolds => ih _ (hDestroy s syscalls component hHolds)
  induction rounds generalizing s with
  | nil => exact hHolds
  | cons round rest ih => exact ih _ (hRound round.syscalls round.order s hHolds)

theorem Bound.step (bound : s.Bound)
    {action : Action UserCallback EventHandlerFunc MsgHandler}
    {new : List (Output UserCallback EventHandlerFunc MsgHandler)}
    (moves : Moves s action t new) : t.Bound := by
  cases moves with
  | looped hStep => exact bound.stepLoop hStep
  | messageHandled hStep => exact bound.stepLoop hStep
  | timerExpired hStep _ hManager hExpired =>
      have keeps := Keeps.of_timer (t := { s with timerManager := some _ }) hManager
        (fun _ => timerFd_of_other hExpired (by simp)) rfl rfl
      exact ((bound.stepLoop hStep).mono fun _ _ => keeps.boundTo).of_eq rfl rfl
  | started hGet hAsk hStep => exact bound.started hGet hAsk hStep
  | cancelled hGet hStep =>
      obtain ⟨hGot, hLoop, hId, hPubSub, hBefore⟩ := getTimerManager_cases hGet
      refine bound.of_keeps ?_ hLoop hId
      exact .of_getTimerManager hBefore (.of_timer hGot
        (fun _ => timerFd_of_other hStep (by simp)) rfl rfl) hGot hPubSub
  | elapsed hManager hStep =>
      exact bound.of_keeps (.of_timer hManager
        (fun _ => timerFd_of_other hStep (by simp)) rfl rfl) rfl rfl
  | elapsedAlone => exact bound.of_keeps (.of_same rfl rfl) rfl rfl
  | mboxAdded hFd => exact bound.addItcFd _ hFd
  | registered => exact bound.callItcPubSub _ (by simp)
  | deregistered => exact bound.callItcPubSub _ (by simp)
  | wasReset => exact bound.destroy _ _
  | ended =>
      exact LoopHas.of_eq (exitRounds_keeps (fun _ _ _ hBound => hBound.destroy _ _) _ s bound)
        rfl rfl

end Thread

theorem bound_of_run
    {steps : List (Thread UserCallback EventHandlerFunc MsgHandler ×
      Action UserCallback EventHandlerFunc MsgHandler)}
    {history : List (Output UserCallback EventHandlerFunc MsgHandler)}
    {s : Thread UserCallback EventHandlerFunc MsgHandler}
    (run : (threadSystem UserCallback EventHandlerFunc MsgHandler).Run steps history s) :
    s.Bound := by
  refine run.invariant_of_all (fun _ s => s.Bound) ?_ ?_
  · rintro s ⟨id, now, rfl⟩
    exact Thread.bound_begin id now
  · intro history s action t new bound hStep
    exact bound.step (Thread.moves_of_step hStep)

/-- Whatever the thread does with its components, in any order and with any
outcomes of the system calls: whenever its event loop calls `onTimerExpired` or
`handleFdEvent`, the instance it was bound to is the one of the thread and the
event is one of its own descriptor, so that the call can go on.  A destroyed
instance leaves no callback behind, neither in the loop nor in the batch it is
handling. -/
theorem run_calls_live_instances
    {steps : List (Thread UserCallback EventHandlerFunc MsgHandler ×
      Action UserCallback EventHandlerFunc MsgHandler)}
    {history : List (Output UserCallback EventHandlerFunc MsgHandler)}
    {s : Thread UserCallback EventHandlerFunc MsgHandler}
    (run : (threadSystem UserCallback EventHandlerFunc MsgHandler).Run steps history s)
    {action : EventLoop.Action (Callback UserCallback) EventHandlerFunc}
    {after : LoopThread (Callback UserCallback) EventHandlerFunc}
    {outputs : List (EventLoop.Output (Callback UserCallback) EventHandlerFunc)}
    (hStep : s.getEventLoop.step action = some (after, outputs))
    {callback : Callback UserCallback} {fd : Fd} {eventMask : Epoll.EventMask}
    (hDispatched : .dispatched callback fd eventMask ∈ outputs) :
    s.Alive fd callback ∧
      ∀ outcomes, (Thread.callBound { s with eventLoop := some after } outcomes
        callback).isSome = true := by
  have bound := bound_of_run run
  obtain ⟨key, handler, events, hFound, rfl, rfl, -, -⟩ :=
    (LoopThread.moves_of_step hStep).dispatched_registered bound.silent hDispatched
  obtain ⟨rfl, hAlive⟩ := bound.registered key handler hFound
  exact ⟨hAlive, hAlive.callBound after⟩

/-- A timer is started and expires in one batch with descriptor 5, whose callback
resets the timer manager and starts another timer, on the same descriptor. -/
def resetInBatch : List (Action Unit Unit Unit) :=
  let outcomes : Outcomes := ⟨true, true, none⟩
  [.start .oneShot 0 ⟨7, true, true, true⟩ ⟨3, true⟩ 10 (1, 7),
    .loop outcomes (.call 0 ⟨-1, true⟩ (.addFdHandler 5 fdEventIn ())),
    .loop outcomes (.run 0), .loop outcomes .proceed, .loop outcomes .proceed,
    .loop outcomes .proceed, .loop outcomes .proceed, .elapse 20000000,
    .loop outcomes (.epollWaitReturns (.events [⟨Epoll.epollIn, 1⟩, ⟨Epoll.epollIn, 0⟩])),
    .loop outcomes .proceed, .reset .timerManager ⟨true, ⟨-1, true⟩⟩,
    .start .oneShot 0 ⟨7, true, true, true⟩ ⟨-1, true⟩ 5 (2, 7),
    .loop outcomes .userReturns, .loop outcomes .proceed, .loop outcomes .proceed,
    .loop outcomes .proceed, .loop outcomes .proceed, .loop outcomes .proceed,
    .loop outcomes .proceed, .elapse 30000000,
    .loop outcomes (.epollWaitReturns (.events [⟨Epoll.epollIn, 2⟩]))]

/-- The event of the old manager is skipped, that of the new one reaches it. -/
theorem resetInBatch_calls_new : ∃ s : Thread Unit Unit Unit,
    s.Alive 7 (.onTimerExpired 1) := by
  obtain ⟨steps, history, s, after, run, hStep⟩ : ∃ steps history s after,
      (threadSystem Unit Unit Unit).Run steps history s ∧
        s.getEventLoop.step .proceed =
          some (after, [.dispatched (.onTimerExpired 1) 7 fdEventIn]) :=
    ⟨_, _, _, _, run_of_replay (Thread.begin 0 0) resetInBatch ⟨0, 0, rfl⟩ rfl, rfl⟩
  exact ⟨s, (run_calls_live_instances run hStep List.mem_cons_self).1⟩

end Components
end UtilsFramework
