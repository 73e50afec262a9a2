import UtilsFramework.Components.Descriptors
import UtilsFramework.EventLoop.WatchedDescriptors

/-!
# The components stay within reach of the event loop

The timer manager registers its timerfd once and the publisher its mailbox once, and
neither looks at the registration again.  Both rely on the event loop to have the
descriptor in its map and in the interest list for as long as they live.

The loop offers every user the means to end that: `updateFdEvents` and
`removeFdHandler` take any descriptor, and a reset of the event loop drops all
registrations.  The file shows that nothing else does, whatever calls fail and
whatever instances come and go.  A message for the mailbox of a waiting thread
therefore reaches the handler registered for it.
-/

namespace UtilsFramework
namespace Components

open Library
open Library.TransitionSystem
open EventLoop (EventLoopImpl LoopThread Fd FdHandler fdEventIn)
open Timer (TimerManagerImpl TimerId TimerKind)
open ItcPubSub (ItcPubSubImpl MsgNo)

variable {UserCallback EventHandlerFunc MsgHandler : Type}

theorem disturbs_boundCall (call : EventLoop.Call UserCallback EventHandlerFunc) :
    (boundCall call).disturbs = call.disturbs := by
  cases call <;> rfl

/-- What a timer manager has registered. -/
def timerDescriptor (UserCallback : Type) :
    Option (Instance TimerManagerImpl) → List (Fd × Callback UserCallback)
  | some manager =>
      if manager.object.timerFd = -1 then []
      else [(manager.object.timerFd, .onTimerExpired manager.address)]
  | none => []

/-- What a publisher has registered. -/
def mboxDescriptor (UserCallback : Type) :
    Option (Instance (ItcPubSubImpl MsgHandler)) → List (Fd × Callback UserCallback)
  | some pubSub =>
      if pubSub.object.mboxFd = -1 then []
      else [(pubSub.object.mboxFd, .handleFdEvent pubSub.address)]
  | none => []

theorem timerDescriptor_of_same {manager : Instance TimerManagerImpl} {next : TimerManagerImpl}
    (hFd : next.timerFd = manager.object.timerFd) :
    timerDescriptor UserCallback (some { manager with object := next }) =
      timerDescriptor UserCallback (some manager) := by
  simp only [timerDescriptor, hFd]

theorem mboxDescriptor_of_same {pubSub : Instance (ItcPubSubImpl MsgHandler)}
    {next : ItcPubSubImpl MsgHandler} (hFd : next.mboxFd = pubSub.object.mboxFd) :
    mboxDescriptor UserCallback (some { pubSub with object := next }) =
      mboxDescriptor UserCallback (some pubSub) := by
  simp only [mboxDescriptor, hFd]

theorem mem_timerDescriptor {manager : Option (Instance TimerManagerImpl)}
    {entry : Fd × Callback UserCallback}
    (hEntry : entry ∈ timerDescriptor UserCallback manager) :
    ∃ live, manager = some live ∧ live.object.timerFd ≠ -1 ∧
      entry = (live.object.timerFd, .onTimerExpired live.address) := by
  cases manager with
  | none => cases hEntry
  | some live =>
      simp only [timerDescriptor] at hEntry
      split at hEntry
      · cases hEntry
      · rename_i hFd
        exact ⟨live, rfl, hFd, List.mem_singleton.mp hEntry⟩

theorem mem_mboxDescriptor {pubSub : Option (Instance (ItcPubSubImpl MsgHandler))}
    {entry : Fd × Callback UserCallback} (hEntry : entry ∈ mboxDescriptor UserCallback pubSub) :
    ∃ live, pubSub = some live ∧ live.object.mboxFd ≠ -1 ∧
      entry = (live.object.mboxFd, .handleFdEvent live.address) := by
  cases pubSub with
  | none => cases hEntry
  | some live =>
      simp only [mboxDescriptor] at hEntry
      split at hEntry
      · cases hEntry
      · rename_i hFd
        exact ⟨live, rfl, hFd, List.mem_singleton.mp hEntry⟩

namespace Thread

variable {s t : Thread UserCallback EventHandlerFunc MsgHandler}

/-- The descriptors the components of the thread have registered for themselves. -/
def ownDescriptors (s : Thread UserCallback EventHandlerFunc MsgHandler) :
    List (Fd × Callback UserCallback) :=
  timerDescriptor UserCallback s.timerManager ++ mboxDescriptor UserCallback s.itcPubSub

/-- The users of the thread leave these descriptors and the event loop under them
alone. -/
def LeavesOwn (s : Thread UserCallback EventHandlerFunc MsgHandler) :
    Action UserCallback EventHandlerFunc MsgHandler → Prop
  | .loop _ (.call caller _ call) =>
      caller = s.id → ∀ entry ∈ s.ownDescriptors, call.disturbs ≠ some entry.1
  | .reset .eventLoop _ => s.ownDescriptors.length = 0
  | _ => True

instance (s : Thread UserCallback EventHandlerFunc MsgHandler)
    (action : Action UserCallback EventHandlerFunc MsgHandler) :
    Decidable (s.LeavesOwn action) :=
  match action with
  | .loop _ (.call caller _ call) => inferInstanceAs (Decidable (caller = s.id →
      ∀ entry ∈ s.ownDescriptors, call.disturbs ≠ some entry.1))
  | .reset .eventLoop _ => inferInstanceAs (Decidable (s.ownDescriptors.length = 0))
  | .loop _ (.run _) | .loop _ .userReturns | .loop _ (.epollWaitReturns _)
  | .loop _ .signalStop | .loop _ .proceed | .reset .timerManager _ | .reset .itcPubSub _
  | .start .. | .cancelTimer .. | .elapse _ | .addItcFd .. | .registerMsg ..
  | .deregisterMsg .. | .exit _ => isTrue trivial

/-- The event loop watches all of them. -/
structure Watched (s : Thread UserCallback EventHandlerFunc MsgHandler) : Prop where
  separated : s.getEventLoop.loop.Separated []
  watches : ∀ entry ∈ s.ownDescriptors, s.getEventLoop.loop.WatchesIn entry.1 entry.2

theorem watched_begin (id : ThreadId) (now : Int) :
    (begin id now : Thread UserCallback EventHandlerFunc MsgHandler).Watched where
  separated := .construct id
  watches := by simp [ownDescriptors, timerDescriptor, mboxDescriptor, begin]

/-- Fewer descriptors are easier to watch. -/
theorem Watched.of_subset (watched : s.Watched) (hLoop : t.eventLoop = s.eventLoop)
    (hId : t.id = s.id) (hOwn : t.ownDescriptors ⊆ s.ownDescriptors) : t.Watched := by
  have hGet := getEventLoop_of_eq hLoop hId
  constructor <;> rw [hGet]
  · exact watched.separated
  · exact fun entry hEntry => watched.watches entry (hOwn hEntry)

/-- The two components have different descriptors, or one of them would not have
its callback registered. -/
theorem Watched.apart (watched : s.Watched) {manager : Instance TimerManagerImpl}
    {pubSub : Instance (ItcPubSubImpl MsgHandler)} (hManager : s.timerManager = some manager)
    (hPubSub : s.itcPubSub = some pubSub) (hTimer : manager.object.timerFd ≠ -1) :
    pubSub.object.mboxFd ≠ manager.object.timerFd := by
  intro hSame
  have hMbox : pubSub.object.mboxFd ≠ -1 := hSame ▸ hTimer
  have hTimerfd := watched.watches (manager.object.timerFd, .onTimerExpired manager.address)
    (by simp [ownDescriptors, timerDescriptor, hManager, hTimer])
  have hMailbox := watched.watches (pubSub.object.mboxFd, .handleFdEvent pubSub.address)
    (by simp [ownDescriptors, mboxDescriptor, hPubSub, hMbox])
  rw [hSame] at hMailbox
  cases hTimerfd.unique hMailbox

/-! ## The event loop under the components -/

theorem Watched.callEventLoop (watched : s.Watched) {syscalls : EventLoop.Syscalls}
    {call : EventLoop.Call (Callback UserCallback) EventHandlerFunc}
    {rc : EventLoop.ReturnCode}
    {calls : List (Output UserCallback EventHandlerFunc MsgHandler)}
    (hCall : s.callEventLoop syscalls call = (rc, t, calls))
    (hLeaves : ∀ entry ∈ s.ownDescriptors, call.disturbs ≠ some entry.1) : t.Watched := by
  simp only [Thread.callEventLoop, Prod.mk.injEq] at hCall
  obtain ⟨-, rfl, -⟩ := hCall
  exact ⟨watched.separated.perform rfl, fun entry hEntry =>
    (watched.watches entry hEntry).perform rfl fun _ => hLeaves entry hEntry⟩

/-- A registration for input that succeeds is one more descriptor to rely on. -/
theorem watchesIn_of_callEventLoop {syscalls : EventLoop.Syscalls} {fd : Fd}
    {callback : Callback UserCallback} {rc : EventLoop.ReturnCode}
    {calls : List (Output UserCallback EventHandlerFunc MsgHandler)}
    (hCall : s.callEventLoop syscalls (.addFdHandler fd fdEventIn callback) = (rc, t, calls))
    (hNormal : rc = .normal) : t.getEventLoop.loop.WatchesIn fd callback := by
  simp only [Thread.callEventLoop, Prod.mk.injEq] at hCall
  obtain ⟨rfl, rfl, -⟩ := hCall
  exact EventLoopImpl.watchesIn_of_addFdHandler (Prod.ext hNormal rfl)

theorem Watched.stepLoop (watched : s.Watched) (bound : s.Bound) {outcomes : Outcomes}
    {action : EventLoop.Action UserCallback EventHandlerFunc}
    {after : LoopThread (Callback UserCallback) EventHandlerFunc}
    {outputs : List (EventLoop.Output (Callback UserCallback) EventHandlerFunc)}
    (hStep : s.getEventLoop.step (boundAction action) = some (after, outputs))
    (hLeaves : s.LeavesOwn (.loop outcomes action)) :
    ({ s with eventLoop := some after } :
      Thread UserCallback EventHandlerFunc MsgHandler).Watched := by
  have moves := LoopThread.moves_of_step hStep
  refine ⟨moves.separated watched.separated, fun entry hEntry =>
    moves.watchesIn (watched.watches entry hEntry) fun syscalls call hAction => ?_⟩
  cases action with
  | call caller otherSyscalls userCall =>
      obtain ⟨rfl, -, rfl⟩ := EventLoop.Action.call.inj hAction
      rw [disturbs_boundCall]
      exact hLeaves bound.own entry hEntry
  | _ => simp [boundAction] at hAction

/-! ## The components on it -/

/-- `getThreadLocalInstance` may create a timer manager, without a timerfd. -/
theorem timerDescriptor_of_before {manager : Instance TimerManagerImpl}
    (hBefore : s.timerManager = some manager ∨
      s.timerManager = none ∧ manager.object.timerFd = -1) :
    timerDescriptor UserCallback s.timerManager =
      timerDescriptor UserCallback (some manager) := by
  rcases hBefore with hSome | ⟨hNone, hFd⟩
  · rw [hSome]
  · simp [timerDescriptor, hNone, hFd]

theorem mboxDescriptor_of_before {pubSub : Instance (ItcPubSubImpl MsgHandler)}
    (hBefore : s.itcPubSub = some pubSub ∨ s.itcPubSub = none ∧ pubSub.object.mboxFd = -1) :
    mboxDescriptor UserCallback s.itcPubSub =
      mboxDescriptor UserCallback (some pubSub) := by
  rcases hBefore with hSome | ⟨hNone, hFd⟩
  · rw [hSome]
  · simp [mboxDescriptor, hNone, hFd]

/-- The timer manager goes on with the descriptor it has. -/
theorem Watched.of_timer (watched : s.Watched) {manager : Instance TimerManagerImpl}
    {next : TimerManagerImpl}
    (hBefore : s.timerManager = some manager ∨
      s.timerManager = none ∧ manager.object.timerFd = -1)
    (hFd : next.timerFd = manager.object.timerFd)
    (hNext : t.timerManager = some { manager with object := next })
    (hLoop : t.eventLoop = s.eventLoop) (hId : t.id = s.id)
    (hPubSub : t.itcPubSub = s.itcPubSub) : t.Watched := by
  have hOwn : t.ownDescriptors = s.ownDescriptors := by
    rw [ownDescriptors, ownDescriptors, hNext, hPubSub, timerDescriptor_of_same hFd,
      timerDescriptor_of_before hBefore]
  exact watched.of_subset hLoop hId (hOwn ▸ List.Subset.refl _)

theorem Watched.of_pubSub (watched : s.Watched) {pubSub : Instance (ItcPubSubImpl MsgHandler)}
    {next : ItcPubSubImpl MsgHandler}
    (hBefore : s.itcPubSub = some pubSub ∨ s.itcPubSub = none ∧ pubSub.object.mboxFd = -1)
    (hFd : next.mboxFd = pubSub.object.mboxFd)
    (hNext : t.itcPubSub = some { pubSub with object := next })
    (hLoop : t.eventLoop = s.eventLoop) (hId : t.id = s.id)
    (hTimer : t.timerManager = s.timerManager) : t.Watched := by
  have hOwn : t.ownDescriptors = s.ownDescriptors := by
    rw [ownDescriptors, ownDescriptors, hNext, hTimer, mboxDescriptor_of_same hFd,
      mboxDescriptor_of_before hBefore]
  exact watched.of_subset hLoop hId (hOwn ▸ List.Subset.refl _)

theorem Watched.started (watched : s.Watched) {kind : TimerKind} {caller : ThreadId}
    {timerSyscalls : Timer.Syscalls} {loopSyscalls : EventLoop.Syscalls} {timeout : Int}
    {timer : TimerId} {manager : Instance TimerManagerImpl}
    {got asked : Thread UserCallback EventHandlerFunc MsgHandler} {added : Bool}
    {calls : List (Output UserCallback EventHandlerFunc MsgHandler)}
    {next : TimerManagerImpl} {outputs : List Timer.Output}
    (hGet : s.getTimerManager = (manager, got))
    (hAsk : got.addTimerFdHandler manager caller timer timerSyscalls.timerFdCreate
      loopSyscalls = (added, asked, calls))
    (hStep : manager.object.step (.start kind caller
      { timerSyscalls with addFdHandlerSucceeds := added } timeout timer) =
        some (next, outputs)) :
    ({ asked with timerManager := some { manager with object := next } } :
      Thread UserCallback EventHandlerFunc MsgHandler).Watched := by
  obtain ⟨hGot, hLoop, hId, hPubSub, hBefore⟩ := getTimerManager_cases hGet
  have hFd := timerFd_of_start hStep
  have hGotWatched : got.Watched := watched.of_timer hBefore rfl hGot hLoop hId hPubSub
  rcases addTimerFdHandler_cases hAsk with ⟨hNot, -, rfl, -⟩ | ⟨hRegisters, rc, opened, hCall,
    hAdded, -⟩
  · refine hGotWatched.of_timer (Or.inl hGot) ?_ rfl rfl rfl rfl
    simpa [hNot] using hFd
  · obtain ⟨hNone, hSome⟩ := descriptor_of_registers hRegisters
    have hAskedWatched := hGotWatched.callEventLoop hCall (by simp [EventLoop.Call.disturbs])
    have hTimer : asked.timerManager = some manager := by
      rw [callEventLoop_keeps hCall]
      exact hGot
    cases added with
    | false =>
        refine hAskedWatched.of_timer (Or.inl hTimer) ?_ rfl rfl rfl rfl
        simpa using hFd
    | true =>
        simp only [hRegisters, Bool.and_true, if_true] at hFd
        have hWatches := watchesIn_of_callEventLoop hCall (hAdded.mp rfl)
        refine ⟨hAskedWatched.separated, fun entry hEntry => ?_⟩
        rcases List.mem_append.mp hEntry with hTimerfd | hMbox
        · obtain ⟨live, hLive, -, rfl⟩ := mem_timerDescriptor hTimerfd
          obtain rfl := Option.some.inj hLive
          rw [← hFd] at hWatches
          exact hWatches
        · exact hAskedWatched.watches entry (List.mem_append_right _ hMbox)

theorem Watched.callItcPubSub (watched : s.Watched) (caller : ThreadId)
    {call : ItcPubSub.Call MsgHandler} (hOther : ∀ fd rc, call ≠ .addItcFd fd rc) :
    (s.callItcPubSub caller call).1.Watched := by
  unfold Thread.callItcPubSub
  generalize hGet : s.getItcPubSub = result
  obtain ⟨pubSub, got⟩ := result
  obtain ⟨-, hLoop, hId, hTimer, hBefore⟩ := getItcPubSub_cases hGet
  exact watched.of_pubSub hBefore (mboxFd_perform_other _ caller hOther) rfl hLoop hId hTimer

theorem Watched.addItcFd (watched : s.Watched) (caller : ThreadId)
    (loopSyscalls : EventLoop.Syscalls) (fd : Fd) :
    (s.addItcFd caller loopSyscalls fd).1.Watched := by
  unfold Thread.addItcFd
  generalize hGet : s.getItcPubSub = result
  obtain ⟨pubSub, got⟩ := result
  obtain ⟨hGot, hLoop, hId, hTimer, hBefore⟩ := getItcPubSub_cases hGet
  have hGotWatched : got.Watched := watched.of_pubSub hBefore rfl hGot hLoop hId hTimer
  by_cases hAsks : caller = pubSub.object.threadId ∧ pubSub.object.mboxFd = -1
  · simp only [if_pos hAsks]
    generalize hCall : got.callEventLoop loopSyscalls
      (.addFdHandler fd fdEventIn (.handleFdEvent pubSub.address)) = result
    obtain ⟨rc, asked, opened⟩ := result
    have hMbox := mboxFd_addItcFd pubSub.object caller fd rc
    have hAskedWatched := hGotWatched.callEventLoop hCall (by simp [EventLoop.Call.disturbs])
    have hAsked : asked.itcPubSub = some pubSub := by
      rw [callEventLoop_keeps hCall]
      exact hGot
    by_cases hNormal : rc = .normal
    · rw [if_pos ⟨hAsks, hNormal⟩] at hMbox
      have hWatches := watchesIn_of_callEventLoop hCall hNormal
      refine ⟨hAskedWatched.separated, fun entry hEntry => ?_⟩
      rcases List.mem_append.mp hEntry with hTimerfd | hMailbox
      · exact hAskedWatched.watches entry (List.mem_append_left _ hTimerfd)
      · obtain ⟨live, hLive, -, rfl⟩ := mem_mboxDescriptor hMailbox
        obtain rfl := Option.some.inj hLive
        rw [← hMbox] at hWatches
        exact hWatches
    · refine hAskedWatched.of_pubSub (Or.inl hAsked) ?_ rfl rfl rfl rfl
      rw [hMbox, if_neg fun hBoth => hNormal hBoth.2]
  · simp only [if_neg hAsks]
    refine hGotWatched.of_pubSub (Or.inl hGot) ?_ rfl rfl rfl rfl
    rw [mboxFd_addItcFd, if_neg fun hBoth => hAsks hBoth.1]

/-! ## Destruction -/

theorem Watched.dropInterest (watched : s.Watched) {fd : Fd}
    (hFd : ∀ entry ∈ s.ownDescriptors, entry.1 ≠ fd) : (s.dropInterest fd).Watched := by
  cases hLoop : s.eventLoop with
  | none =>
      exact watched.of_subset (by simp [Thread.dropInterest, hLoop]) rfl
        (List.Subset.refl s.ownDescriptors)
  | some current =>
      have hGet : (s.dropInterest fd).getEventLoop.loop =
          { s.getEventLoop.loop with
            interestList := s.getEventLoop.loop.interestList.erase fd } := by
        simp [Thread.dropInterest, getEventLoop, hLoop]
      constructor <;> rw [hGet]
      · exact watched.separated.dropInterest fd
      · intro entry hEntry
        refine (watched.watches entry hEntry).of_lookups rfl ?_
        exact AList.lookup_erase_ne (hFd entry hEntry)

theorem Watched.destroyTimerManager (watched : s.Watched) (syscalls : DestructorSyscalls)
    {manager : Instance TimerManagerImpl} (hManager : s.timerManager = some manager) :
    (Thread.destroyTimerManager { s with timerManager := none } syscalls
      manager.object).1.Watched := by
  have hWithout : ({ s with timerManager := none } :
      Thread UserCallback EventHandlerFunc MsgHandler).Watched :=
    watched.of_subset rfl rfl (List.subset_append_right _ _)
  unfold Thread.destroyTimerManager
  split
  · rename_i hTimer
    have hApart : ∀ entry ∈ mboxDescriptor UserCallback s.itcPubSub,
        entry.1 ≠ manager.object.timerFd := by
      intro entry hEntry
      obtain ⟨pubSub, hPubSub, -, rfl⟩ := mem_mboxDescriptor hEntry
      exact watched.apart hManager hPubSub hTimer
    refine (hWithout.dropInterest hApart).callEventLoop rfl fun entry hEntry hDisturbs => ?_
    exact hApart entry hEntry (Option.some.inj hDisturbs).symm
  · exact hWithout

theorem Watched.destroyItcPubSub (watched : s.Watched) (syscalls : DestructorSyscalls)
    {pubSub : Instance (ItcPubSubImpl MsgHandler)} (hLive : s.itcPubSub = some pubSub) :
    (Thread.destroyItcPubSub { s with itcPubSub := none } syscalls
      pubSub.object).1.Watched := by
  have hWithout : ({ s with itcPubSub := none } :
      Thread UserCallback EventHandlerFunc MsgHandler).Watched := by
    refine watched.of_subset rfl rfl fun entry hEntry => ?_
    exact List.mem_append_left _ (by simpa [ownDescriptors, mboxDescriptor] using hEntry)
  unfold Thread.destroyItcPubSub
  split
  · refine hWithout.callEventLoop rfl fun entry hEntry hDisturbs => ?_
    have hTimerfd : entry ∈ timerDescriptor UserCallback s.timerManager := by
      simpa [ownDescriptors, mboxDescriptor] using hEntry
    obtain ⟨manager, hManager, hTimer, rfl⟩ := mem_timerDescriptor hTimerfd
    exact watched.apart hManager hLive hTimer (Option.some.inj hDisturbs)
  · exact hWithout

theorem Watched.destroy (watched : s.Watched) {syscalls : DestructorSyscalls}
    {component : Component} (hLeaves : s.LeavesOwn (.reset component syscalls)) :
    (s.destroy syscalls component).1.Watched := by
  cases component with
  | eventLoop =>
      simp only [Thread.destroy]
      split
      · exact watched
      · -- nothing was registered for a component
        have hNone : s.ownDescriptors = [] := List.length_eq_zero_iff.mp hLeaves
        refine ⟨.construct s.id, fun entry hEntry => ?_⟩
        have hOwn : entry ∈ s.ownDescriptors := hEntry
        rw [hNone] at hOwn
        cases hOwn
  | timerManager =>
      simp only [Thread.destroy]
      split
      · exact watched
      · rename_i hManager
        exact watched.destroyTimerManager syscalls hManager
  | itcPubSub =>
      simp only [Thread.destroy]
      split
      · exact watched
      · rename_i hLive
        exact watched.destroyItcPubSub syscalls hLive

theorem Watched.step (watched : s.Watched) (bound : s.Bound)
    {action : Action UserCallback EventHandlerFunc MsgHandler}
    {new : List (Output UserCallback EventHandlerFunc MsgHandler)}
    (hLeaves : s.LeavesOwn action) (moves : Moves s action t new) (hOpen : t.exited = false) :
    t.Watched := by
  cases moves with
  | looped hStep => exact watched.stepLoop bound hStep hLeaves
  | messageHandled hStep => exact watched.stepLoop bound hStep hLeaves
  | timerExpired hStep _ hManager hExpired =>
      exact (watched.stepLoop bound hStep hLeaves).of_timer (Or.inl hManager)
        (timerFd_of_other hExpired (by simp)) rfl rfl rfl rfl
  | started hGet hAsk hStep => exact watched.started hGet hAsk hStep
  | cancelled hGet hStep =>
      obtain ⟨-, hLoop, hId, hPubSub, hBefore⟩ := getTimerManager_cases hGet
      exact watched.of_timer hBefore (timerFd_of_other hStep (by simp)) rfl hLoop hId hPubSub
  | elapsed hManager hStep =>
      exact watched.of_timer (Or.inl hManager) (timerFd_of_other hStep (by simp)) rfl rfl rfl rfl
  | elapsedAlone => exact watched.of_subset rfl rfl (List.Subset.refl s.ownDescriptors)
  | mboxAdded => exact watched.addItcFd _ _ _
  | registered => exact watched.callItcPubSub _ (by simp)
  | deregistered => exact watched.callItcPubSub _ (by simp)
  | wasReset => exact watched.destroy hLeaves
  | ended => cases hOpen

/-! ## From the kernel to the component -/

/-- A waiting thread may get the event of a descriptor of its components, and its
next step is the member function the descriptor was registered for. -/
theorem Watched.reaches (watched : s.Watched) (hOpen : s.exited = false)
    {below : List (EventLoop.Frame EventHandlerFunc)}
    (hWaiting : s.getEventLoop.stack = .run .waiting :: below) {fd : Fd}
    {callback : Callback UserCallback} (hOwn : (fd, callback) ∈ s.ownDescriptors)
    (outcomes : Outcomes) :
    ∃ object reported calling,
      s.getEventLoop.loop.interestList.lookup fd = some ⟨Epoll.epollIn, object⟩ ∧
      s.step (.loop outcomes (.epollWaitReturns (.events [⟨Epoll.epollIn, object⟩]))) =
        some ({ s with eventLoop := some reported }, []) ∧
      ({ s with eventLoop := some reported } :
        Thread UserCallback EventHandlerFunc MsgHandler).step (.loop outcomes .proceed) =
        (({ s with eventLoop := some calling } :
          Thread UserCallback EventHandlerFunc MsgHandler).callBound outcomes callback).map
          fun next => (next.1, .eventLoop (.dispatched callback fd fdEventIn) :: next.2) := by
  obtain ⟨object, hInterest, hReports, hCalls⟩ :=
    LoopThread.dispatches_watched hWaiting watched.separated (watched.watches _ hOwn)
  generalize hReported : LoopThread.mk _ _ = reported at hReports hCalls
  generalize hCalling : LoopThread.mk _ (.callback _ :: _) = calling at hCalls
  have hSame : reported.loop = s.getEventLoop.loop := by rw [← hReported]
  have hStill : calling.loop = s.getEventLoop.loop := by rw [← hCalling]
  refine ⟨object, reported, calling, hInterest, ?_, ?_⟩
  · simp [Thread.step, hOpen, callerOf, Thread.stepLoop, boundAction, hReports,
      dispatchedCallback, openedEpfd, hSame]
  · simp [Thread.step, hOpen, callerOf, Thread.stepLoop, boundAction, getEventLoop, hCalls,
      dispatchedCallback, openedEpfd, hSame, hStill]

end Thread

section

variable
  {steps : List (Thread UserCallback EventHandlerFunc MsgHandler ×
    Action UserCallback EventHandlerFunc MsgHandler)}
  {history : List (Output UserCallback EventHandlerFunc MsgHandler)}
  {s : Thread UserCallback EventHandlerFunc MsgHandler}

theorem watched_of_run
    (run : (threadSystem UserCallback EventHandlerFunc MsgHandler).Run steps history s)
    (hLeaves : EveryStep Thread.LeavesOwn steps) (hOpen : s.exited = false) : s.Watched := by
  have hInv : s.Bound ∧ (s.exited = false → s.Watched) := by
    refine run.invariant Thread.LeavesOwn
      (fun _ s => s.Bound ∧ (s.exited = false → s.Watched)) ?_ ?_ hLeaves
    · rintro s ⟨id, now, rfl⟩
      exact ⟨Thread.bound_begin id now, fun _ => Thread.watched_begin id now⟩
    · rintro history s action t new ⟨bound, hWatched⟩ hStepLeaves hStep
      have moves := Thread.moves_of_step hStep
      refine ⟨bound.step moves, fun hAfter => ?_⟩
      exact (hWatched (Thread.open_of_step hStep)).step bound hStepLeaves moves hAfter
  exact hInv.2 hOpen

/-- A thread that waits in `run()` has not ended. -/
theorem open_of_waiting
    (run : (threadSystem UserCallback EventHandlerFunc MsgHandler).Run steps history s)
    {below : List (EventLoop.Frame EventHandlerFunc)}
    (hWaiting : s.getEventLoop.stack = .run .waiting :: below) : s.exited = false := by
  by_contra hExited
  obtain ⟨hNone, -⟩ := gone_of_run run (Bool.not_eq_false _ ▸ hExited)
  simp [Thread.getEventLoop, hNone] at hWaiting

/-- In every run whose users leave the components' descriptors and the event loop under
them alone, whatever else fails or is reset: while the thread waits in `run()`,
the event loop may be told of the mailbox, and a message with a registered number
that is then received is given to the handler registered for it, by the publisher
the thread has now. -/
theorem run_hands_over_messages
    (run : (threadSystem UserCallback EventHandlerFunc MsgHandler).Run steps history s)
    (hLeaves : EveryStep Thread.LeavesOwn steps)
    {below : List (EventLoop.Frame EventHandlerFunc)}
    (hWaiting : s.getEventLoop.stack = .run .waiting :: below)
    {pubSub : Instance (ItcPubSubImpl MsgHandler)} (hPubSub : s.itcPubSub = some pubSub)
    (hMbox : pubSub.object.mboxFd ≠ -1) {msgNo : MsgNo} {node : Node MsgHandler}
    (hRegistered : pubSub.object.msgHandlerMap.find msgNo = some node)
    (outcomes : Outcomes) (hReceived : outcomes.received = some msgNo) :
    ∃ object reported handled,
      s.getEventLoop.loop.interestList.lookup pubSub.object.mboxFd =
        some ⟨Epoll.epollIn, object⟩ ∧
      s.step (.loop outcomes (.epollWaitReturns (.events [⟨Epoll.epollIn, object⟩]))) =
        some (reported, []) ∧
      reported.step (.loop outcomes .proceed) = some (handled,
        [.eventLoop (.dispatched (.handleFdEvent pubSub.address) pubSub.object.mboxFd fdEventIn),
          .itcPubSub (.dispatched msgNo node.value)]) := by
  have hOpen := open_of_waiting run hWaiting
  have hOwn : (pubSub.object.mboxFd, .handleFdEvent pubSub.address) ∈ s.ownDescriptors := by
    simp [Thread.ownDescriptors, mboxDescriptor, hPubSub, hMbox]
  obtain ⟨object, reported, calling, hInterest, hReports, hCalls⟩ :=
    (watched_of_run run hLeaves hOpen).reaches hOpen hWaiting hOwn outcomes
  refine ⟨object, _, { s with eventLoop := some calling }, hInterest, hReports, ?_⟩
  rw [hCalls]
  simp [Thread.callBound, hPubSub, Thread.dispatchedMsg, hReceived, hRegistered]

/-- A mailbox beside a timerfd, whose manager is reset before the loop runs. -/
def mailboxAlone : List (Action Unit Unit Nat) :=
  let outcomes : Outcomes := ⟨true, true, none⟩
  [.start .oneShot 0 ⟨7, true, true, true⟩ ⟨3, true⟩ 10 (1, 7),
    .addItcFd 0 ⟨-1, true⟩ 9, .registerMsg 0 4 40, .registerMsg 0 5 50,
    .reset .timerManager ⟨true, ⟨-1, false⟩⟩,
    .loop outcomes (.run 0), .loop outcomes .proceed, .loop outcomes .proceed,
    .loop outcomes .proceed, .loop outcomes .proceed]

/-- Message 5 reaches its handler. -/
theorem mailboxAlone_reached : ∃ reported handled : Thread Unit Unit Nat,
    reported.step (.loop ⟨true, true, some 5⟩ .proceed) = some (handled,
      [.eventLoop (.dispatched (.handleFdEvent 1) 9 fdEventIn),
        .itcPubSub (.dispatched 5 50)]) := by
  obtain ⟨steps, history, s, pubSub, node, run, hLeaves, hWaiting, hPubSub, hMbox, hFound,
      hAddress, hValue⟩ :
      ∃ steps history s pubSub node, (threadSystem Unit Unit Nat).Run steps history s ∧
        EveryStep Thread.LeavesOwn steps ∧ s.getEventLoop.stack = [.run .waiting] ∧
        s.itcPubSub = some pubSub ∧ pubSub.object.mboxFd = 9 ∧
        pubSub.object.msgHandlerMap.find 5 = some node ∧ pubSub.address = 1 ∧
        node.value = 50 :=
    ⟨_, _, _, _, _, run_of_replay (Thread.begin 0 0) mailboxAlone ⟨0, 0, rfl⟩ rfl, by decide,
      rfl, rfl, rfl, rfl, rfl, rfl⟩
  obtain ⟨object, reported, handled, -, -, hHandled⟩ := run_hands_over_messages run hLeaves
    hWaiting hPubSub (by rw [hMbox]; decide) hFound
    ⟨true, true, some 5⟩ rfl
  rw [hMbox, hAddress, hValue] at hHandled
  exact ⟨reported, handled, hHandled⟩

end

end Components
end UtilsFramework
