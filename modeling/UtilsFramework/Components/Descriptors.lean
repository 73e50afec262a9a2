import UtilsFramework.Components.LiveInstances
import UtilsFramework.Library.CleanupRounds

/-!
# Descriptors of the components, and the end of a thread

The event loop owns an epoll descriptor and the timer manager a timerfd.  Every
descriptor the components open they close once or still hold, whatever system
calls fail and in whatever order the instances are destroyed and created again.

At the end of a thread `~TimerManagerImpl` and `~ItcPubSubImpl` may construct an
event loop only to remove their handler from it.  The destructors of two rounds
are enough nevertheless, in any order, so that nothing is left after the
`PTHREAD_DESTRUCTOR_ITERATIONS` rounds that a thread gets.
-/

namespace UtilsFramework
namespace Components

open Library
open Library.TransitionSystem
open EventLoop (EventLoopImpl LoopThread Fd FdHandler fdEventIn)
open Timer (TimerManagerImpl TimerId TimerKind)
open ItcPubSub (ItcPubSubImpl MsgNo)

variable {UserCallback EventHandlerFunc MsgHandler : Type}

/-- The descriptors opened in a history. -/
def openedIn (history : List (Output UserCallback EventHandlerFunc MsgHandler)) :
    List Fd :=
  history.filterMap fun output =>
    match output with
    | .opened fd => some fd
    | _ => none

/-- The descriptors closed in a history. -/
def closedIn (history : List (Output UserCallback EventHandlerFunc MsgHandler)) :
    List Fd :=
  history.filterMap fun output =>
    match output with
    | .closed fd => some fd
    | _ => none

@[simp]
theorem openedIn_append
    (history new : List (Output UserCallback EventHandlerFunc MsgHandler)) :
    openedIn (history ++ new) = openedIn history ++ openedIn new :=
  List.filterMap_append

@[simp]
theorem closedIn_append
    (history new : List (Output UserCallback EventHandlerFunc MsgHandler)) :
    closedIn (history ++ new) = closedIn history ++ closedIn new :=
  List.filterMap_append

theorem openedIn_opened (fd : Fd)
    (rest : List (Output UserCallback EventHandlerFunc MsgHandler)) :
    openedIn (.opened fd :: rest) = fd :: openedIn rest := rfl

theorem closedIn_opened (fd : Fd)
    (rest : List (Output UserCallback EventHandlerFunc MsgHandler)) :
    closedIn (.opened fd :: rest) = closedIn rest := rfl

theorem openedIn_closed (fd : Fd)
    (rest : List (Output UserCallback EventHandlerFunc MsgHandler)) :
    openedIn (.closed fd :: rest) = openedIn rest := rfl

theorem closedIn_closed (fd : Fd)
    (rest : List (Output UserCallback EventHandlerFunc MsgHandler)) :
    closedIn (.closed fd :: rest) = fd :: closedIn rest := rfl

@[simp]
theorem openedIn_nil :
    openedIn ([] : List (Output UserCallback EventHandlerFunc MsgHandler)) = [] := rfl

@[simp]
theorem closedIn_nil :
    closedIn ([] : List (Output UserCallback EventHandlerFunc MsgHandler)) = [] := rfl

/-- Outputs that open and close nothing. -/
def NoDescriptors (new : List (Output UserCallback EventHandlerFunc MsgHandler)) : Prop :=
  openedIn new = [] ∧ closedIn new = []

theorem noDescriptors_eventLoop
    (outputs : List (EventLoop.Output (Callback UserCallback) EventHandlerFunc)) :
    NoDescriptors (outputs.map .eventLoop :
      List (Output UserCallback EventHandlerFunc MsgHandler)) := by
  simp [NoDescriptors, openedIn, closedIn]

theorem noDescriptors_timer (outputs : List Timer.Output) :
    NoDescriptors (outputs.map .timer :
      List (Output UserCallback EventHandlerFunc MsgHandler)) := by
  simp [NoDescriptors, openedIn, closedIn]

theorem noDescriptors_itcPubSub (outputs : List (ItcPubSub.Output MsgHandler)) :
    NoDescriptors (outputs.map .itcPubSub :
      List (Output UserCallback EventHandlerFunc MsgHandler)) := by
  simp [NoDescriptors, openedIn, closedIn]

/-! ## The epoll descriptor -/

/-- An epoll descriptor, once created, is that of the loop for good. -/
theorem epfd_of_perform
    {loop next : EventLoopImpl (Callback UserCallback) EventHandlerFunc}
    {caller : ThreadId} {syscalls : EventLoop.Syscalls}
    {call : EventLoop.Call (Callback UserCallback) EventHandlerFunc}
    {rc : EventLoop.ReturnCode} (hPerform : loop.perform caller syscalls call = (rc, next)) :
    next.epfd = loop.epfd ∨ loop.epfd = -1 := by
  by_cases hNone : loop.epfd = -1
  · exact Or.inr hNone
  refine Or.inl ?_
  cases call with
  | addFdHandler fd eventMask callback =>
      simp only [EventLoopImpl.perform, EventLoopImpl.addFdHandler,
        EventLoopImpl.ensureEpfd, if_neg hNone] at hPerform
      split at hPerform
      · rw [← (Prod.mk.inj hPerform).2]
      split at hPerform
      · rw [← (Prod.mk.inj hPerform).2]
      split at hPerform
      · rw [← (Prod.mk.inj hPerform).2]
      split at hPerform <;> rw [← (Prod.mk.inj hPerform).2]
  | updateFdEvents fd eventMask =>
      rcases EventLoopImpl.updateFdEvents_cases hPerform with
        ⟨rfl, _⟩ | ⟨_, _, _, _, ⟨_, _, rfl⟩ | ⟨_, _, rfl⟩⟩ <;> rfl
  | removeFdHandler fd =>
      rcases EventLoopImpl.removeFdHandler_cases hPerform with
        ⟨rfl, _⟩ | ⟨_, _, _, _, rfl⟩ <;> rfl
  | scheduleEvent eventHandler =>
      rcases EventLoopImpl.scheduleEvent_cases hPerform with ⟨_, rfl⟩ | ⟨_, rfl⟩ <;> rfl
  | stop => rcases EventLoopImpl.stop_cases hPerform with ⟨_, rfl⟩ | ⟨_, rfl⟩ <;> rfl

theorem epfd_of_step {s t : LoopThread (Callback UserCallback) EventHandlerFunc}
    {action : EventLoop.Action (Callback UserCallback) EventHandlerFunc}
    {new : List (EventLoop.Output (Callback UserCallback) EventHandlerFunc)}
    (hStep : s.step action = some (t, new)) :
    t.loop.epfd = s.loop.epfd ∨ s.loop.epfd = -1 := by
  cases LoopThread.moves_of_step hStep with
  | call _ hPerform => exact epfd_of_perform hPerform
  | _ => exact Or.inl rfl

/-- The descriptors of a list, where `-1` is none. -/
def valid (fds : List Fd) : List Fd := fds.filter (· ≠ -1)

theorem valid_of_ne {fd : Fd} (hFd : fd ≠ -1) : valid [fd] = [fd] := by
  simp [valid, hFd]

@[simp]
theorem valid_none : valid [-1] = [] := rfl

variable (MsgHandler) in
theorem count_openedEpfd
    {before after : EventLoopImpl (Callback UserCallback) EventHandlerFunc}
    (hEpfd : after.epfd = before.epfd ∨ before.epfd = -1) (fd : Fd) :
    (valid [before.epfd]).count fd +
        (openedIn (openedEpfd before after :
          List (Output UserCallback EventHandlerFunc MsgHandler))).count fd =
      (valid [after.epfd]).count fd ∧
    closedIn (openedEpfd before after :
      List (Output UserCallback EventHandlerFunc MsgHandler)) = [] := by
  unfold openedEpfd
  split
  · rename_i hOpened
    simp [valid, hOpened.1, hOpened.2, openedIn, closedIn]
  · rename_i hNot
    have hSame : after.epfd = before.epfd := by
      rcases hEpfd with hSame | hNone
      · exact hSame
      · by_contra hOther
        exact hNot ⟨hNone, fun hAfter => hOther (hAfter.trans hNone.symm)⟩
    simp [hSame, openedIn, closedIn]

namespace Thread

variable {s t u : Thread UserCallback EventHandlerFunc MsgHandler}

def timerFd (s : Thread UserCallback EventHandlerFunc MsgHandler) : Fd :=
  s.timerManager.elim (-1) fun manager => manager.object.timerFd

/-- The descriptors the live instances own. -/
def heldDescriptors (s : Thread UserCallback EventHandlerFunc MsgHandler) : List Fd :=
  valid [s.getEventLoop.loop.epfd] ++ valid [s.timerFd]

/-- What has been opened is closed or held more than before. -/
def Balanced (s : Thread UserCallback EventHandlerFunc MsgHandler)
    (new : List (Output UserCallback EventHandlerFunc MsgHandler))
    (t : Thread UserCallback EventHandlerFunc MsgHandler) : Prop :=
  ∀ fd, s.heldDescriptors.count fd + (openedIn new).count fd =
    (closedIn new).count fd + t.heldDescriptors.count fd

theorem Balanced.append {first later : List (Output UserCallback EventHandlerFunc MsgHandler)}
    (hFirst : s.Balanced first t) (hLater : t.Balanced later u) :
    s.Balanced (first ++ later) u := by
  intro fd
  have hBefore := hFirst fd
  have hAfter := hLater fd
  rw [openedIn_append, closedIn_append, List.count_append, List.count_append]
  omega

theorem Balanced.prepend {first later : List (Output UserCallback EventHandlerFunc MsgHandler)}
    (hFirst : NoDescriptors first) (balanced : s.Balanced later t) :
    s.Balanced (first ++ later) t := by
  intro fd
  rw [openedIn_append, closedIn_append, hFirst.1, hFirst.2, List.nil_append, List.nil_append]
  exact balanced fd

theorem Balanced.extend {first later : List (Output UserCallback EventHandlerFunc MsgHandler)}
    (balanced : s.Balanced first t) (hLater : NoDescriptors later) :
    s.Balanced (first ++ later) t := by
  intro fd
  rw [openedIn_append, closedIn_append, hLater.1, hLater.2, List.append_nil, List.append_nil]
  exact balanced fd

/-- Neither the loop nor the timer manager changes its descriptor. -/
theorem Balanced.of_same {new : List (Output UserCallback EventHandlerFunc MsgHandler)}
    (hNew : NoDescriptors new) (hLoop : t.eventLoop = s.eventLoop) (hId : t.id = s.id)
    (hTimer : t.timerFd = s.timerFd) : s.Balanced new t := by
  intro fd
  have hGet := getEventLoop_of_eq hLoop hId
  rw [hNew.1, hNew.2, heldDescriptors, heldDescriptors, hGet, hTimer]
  simp

theorem Balanced.of_loop {new : List (Output UserCallback EventHandlerFunc MsgHandler)}
    (hNew : new = openedEpfd s.getEventLoop.loop t.getEventLoop.loop)
    (hEpfd : t.getEventLoop.loop.epfd = s.getEventLoop.loop.epfd ∨
      s.getEventLoop.loop.epfd = -1)
    (hTimer : t.timerFd = s.timerFd) : s.Balanced new t := by
  intro fd
  obtain ⟨hOpened, hClosed⟩ := count_openedEpfd MsgHandler hEpfd fd
  rw [hNew, hClosed, heldDescriptors, heldDescriptors, hTimer]
  simp only [List.count_append, List.count_nil]
  omega

theorem Balanced.callEventLoop {syscalls : EventLoop.Syscalls}
    {call : EventLoop.Call (Callback UserCallback) EventHandlerFunc}
    {rc : EventLoop.ReturnCode}
    {calls : List (Output UserCallback EventHandlerFunc MsgHandler)}
    (hCall : s.callEventLoop syscalls call = (rc, t, calls)) : s.Balanced calls t := by
  simp only [Thread.callEventLoop, Prod.mk.injEq] at hCall
  obtain ⟨-, rfl, rfl⟩ := hCall
  exact .of_loop rfl (epfd_of_perform rfl) rfl

theorem getTimerManager_timerFd {manager : Instance TimerManagerImpl}
    (hGet : s.getTimerManager = (manager, t)) :
    s.timerFd = manager.object.timerFd ∧ t.timerFd = manager.object.timerFd ∧
      t.eventLoop = s.eventLoop ∧ t.id = s.id := by
  obtain ⟨hGot, hLoop, hId, -, hBefore⟩ := getTimerManager_cases hGet
  refine ⟨?_, by simp [timerFd, hGot], hLoop, hId⟩
  rcases hBefore with hSome | ⟨hNone, hFd⟩
  · simp [timerFd, hSome]
  · simp [timerFd, hNone, hFd]

theorem Balanced.started {kind : TimerKind} {caller : ThreadId}
    {timerSyscalls : Timer.Syscalls} {loopSyscalls : EventLoop.Syscalls} {timeout : Int}
    {timer : TimerId} {manager : Instance TimerManagerImpl}
    {got asked : Thread UserCallback EventHandlerFunc MsgHandler} {added : Bool}
    {calls : List (Output UserCallback EventHandlerFunc MsgHandler)}
    {next : TimerManagerImpl} {outputs : List Timer.Output}
    (hGet : s.getTimerManager = (manager, got))
    (hAsk : got.addTimerFdHandler manager caller timer timerSyscalls.timerFdCreate
      loopSyscalls = (added, asked, calls))
    (hStep : manager.object.step (.start kind caller
      { timerSyscalls with addFdHandlerSucceeds := added } timeout timer) =
        some (next, outputs)) :
    s.Balanced (calls ++ outputs.map .timer)
      { asked with timerManager := some { manager with object := next } } := by
  refine .extend ?_ (noDescriptors_timer outputs)
  obtain ⟨hFd, -, hLoop, hId⟩ := getTimerManager_timerFd hGet
  have hNext := timerFd_of_start hStep
  have hGetLoop := getEventLoop_of_eq hLoop hId
  rcases addTimerFdHandler_cases hAsk with ⟨hNot, -, rfl, rfl⟩ | ⟨hRegisters, rc, opened, hCall,
    -, rfl⟩
  · refine .of_same ⟨rfl, rfl⟩ hLoop hId ?_
    rw [hFd]
    simpa [timerFd, hNot] using hNext
  · obtain ⟨hNone, hSome⟩ := descriptor_of_registers hRegisters
    intro fd
    have hBalanced := Balanced.callEventLoop hCall fd
    -- the timer manager had none and has the new one if it was registered
    have hAskedFd : asked.timerFd = got.timerFd := by
      rw [callEventLoop_keeps hCall]
      rfl
    have hAsked : asked.heldDescriptors.count fd =
        (valid [asked.getEventLoop.loop.epfd]).count fd := by
      rw [heldDescriptors, hAskedFd, (getTimerManager_timerFd hGet).2.1, hNone]
      simp [valid]
    have hBefore : s.heldDescriptors.count fd =
        (valid [s.getEventLoop.loop.epfd]).count fd := by
      rw [heldDescriptors, hFd, hNone]
      simp [valid]
    have hGot : got.heldDescriptors.count fd = s.heldDescriptors.count fd := by
      rw [heldDescriptors, heldDescriptors, hGetLoop, hFd, (getTimerManager_timerFd hGet).2.1]
    rw [hGot, hAsked] at hBalanced
    cases added with
    | false =>
        simp only [hRegisters, Bool.and_false, Bool.false_eq_true, if_false] at hNext
        have hAfter : (heldDescriptors
            { asked with timerManager := some { manager with object := next } }).count fd =
            (valid [asked.getEventLoop.loop.epfd]).count fd := by
          simp [heldDescriptors, timerFd, getEventLoop, hNext, hNone, valid]
        rw [hAfter]
        simp only [Bool.false_eq_true, if_false, List.cons_append, openedIn_opened,
          closedIn_opened, openedIn_append, closedIn_append, openedIn_closed, closedIn_closed,
          openedIn_nil, closedIn_nil, List.append_nil, List.count_append, List.count_cons,
          List.count_nil] at hBalanced ⊢
        omega
    | true =>
        simp only [hRegisters, Bool.and_true, if_true] at hNext
        have hAfter : (heldDescriptors
            { asked with timerManager := some { manager with object := next } }).count fd =
            (valid [asked.getEventLoop.loop.epfd]).count fd +
              [timerSyscalls.timerFdCreate].count fd := by
          simp [heldDescriptors, timerFd, getEventLoop, hNext, hSome, valid]
        rw [hAfter]
        simp only [if_true, List.append_nil, openedIn_opened, closedIn_opened,
          List.count_cons, List.count_nil] at hBalanced ⊢
        omega

theorem Balanced.addItcFd (s : Thread UserCallback EventHandlerFunc MsgHandler)
    (caller : ThreadId) (loopSyscalls : EventLoop.Syscalls) (fd : Fd) :
    s.Balanced (s.addItcFd caller loopSyscalls fd).2 (s.addItcFd caller loopSyscalls fd).1 := by
  unfold Thread.addItcFd
  generalize hGet : s.getItcPubSub = result
  obtain ⟨pubSub, got⟩ := result
  obtain ⟨-, hLoop, hId, hTimer, -⟩ := getItcPubSub_cases hGet
  have hGot : s.Balanced [] got :=
    .of_same ⟨rfl, rfl⟩ hLoop hId (by rw [timerFd, timerFd, hTimer])
  dsimp only
  split
  · generalize hCall : got.callEventLoop loopSyscalls
      (.addFdHandler fd fdEventIn (.handleFdEvent pubSub.address)) = result
    obtain ⟨rc, asked, opened⟩ := result
    refine .extend ?_ ⟨rfl, rfl⟩
    rw [← List.append_nil opened]
    exact (hGot.append (.callEventLoop hCall)).append (.of_same ⟨rfl, rfl⟩ rfl rfl rfl)
  · exact (hGot.append (.of_same ⟨rfl, rfl⟩ rfl rfl rfl)).extend ⟨rfl, rfl⟩

theorem Balanced.callItcPubSub (s : Thread UserCallback EventHandlerFunc MsgHandler)
    (caller : ThreadId) (call : ItcPubSub.Call MsgHandler) :
    s.Balanced (s.callItcPubSub caller call).2 (s.callItcPubSub caller call).1 := by
  unfold Thread.callItcPubSub
  generalize hGet : s.getItcPubSub = result
  obtain ⟨pubSub, got⟩ := result
  obtain ⟨-, hLoop, hId, hTimer, -⟩ := getItcPubSub_cases hGet
  exact .of_same ⟨rfl, rfl⟩ hLoop hId (congrArg (Option.elim · _ _) hTimer)

theorem Balanced.destroyTimerManager (syscalls : DestructorSyscalls)
    {manager : Instance TimerManagerImpl} (hManager : s.timerManager = some manager) :
    s.Balanced
      (Thread.destroyTimerManager { s with timerManager := none } syscalls manager.object).2
      (Thread.destroyTimerManager { s with timerManager := none } syscalls
        manager.object).1 := by
  have hTimer : s.timerFd = manager.object.timerFd := by simp [timerFd, hManager]
  unfold Thread.destroyTimerManager
  split
  · rename_i hFd
    generalize hCall : (Thread.dropInterest { s with timerManager := none }
      manager.object.timerFd).callEventLoop syscalls.loop
        (.removeFdHandler manager.object.timerFd) = result
    obtain ⟨rc, removed, opened⟩ := result
    refine .prepend (noDescriptors_timer _) fun fd => ?_
    have hBalanced := Balanced.callEventLoop hCall fd
    -- dropping an interest leaves the epoll descriptor alone
    have hEpfd : (Thread.dropInterest { s with timerManager := none }
        manager.object.timerFd).getEventLoop.loop.epfd = s.getEventLoop.loop.epfd := by
      cases hLoop : s.eventLoop <;> simp [Thread.dropInterest, getEventLoop, hLoop]
    have hDropped : (Thread.dropInterest { s with timerManager := none }
        manager.object.timerFd).timerFd = -1 := rfl
    rw [heldDescriptors, hEpfd, hDropped] at hBalanced
    rw [heldDescriptors, hTimer, openedIn_closed, closedIn_closed, valid_of_ne hFd]
    simp only [valid_none, List.append_nil, List.count_append, List.count_cons,
      List.count_nil] at hBalanced ⊢
    omega
  · rename_i hFd
    refine .of_same ⟨rfl, rfl⟩ rfl rfl ?_
    rw [hTimer, not_ne_iff.mp hFd]
    rfl

theorem Balanced.destroyItcPubSub (syscalls : DestructorSyscalls)
    (pubSub : ItcPubSubImpl MsgHandler) :
    s.Balanced (Thread.destroyItcPubSub { s with itcPubSub := none } syscalls pubSub).2
      (Thread.destroyItcPubSub { s with itcPubSub := none } syscalls pubSub).1 := by
  have hWithout : s.Balanced [] { s with itcPubSub := none } := .of_same ⟨rfl, rfl⟩ rfl rfl rfl
  unfold Thread.destroyItcPubSub
  split
  · exact hWithout.append (.callEventLoop rfl)
  · exact hWithout

theorem Balanced.destroyEventLoop
    {current : LoopThread (Callback UserCallback) EventHandlerFunc}
    (hLoop : s.eventLoop = some current) :
    s.Balanced (Thread.destroyEventLoop current.loop) { s with eventLoop := none } := by
  intro fd
  have hGet : s.getEventLoop = current := by simp [getEventLoop, hLoop]
  have hAfter : (heldDescriptors
      ({ s with eventLoop := none } : Thread UserCallback EventHandlerFunc MsgHandler)).count
        fd = (valid [s.timerFd]).count fd := by
    simp [heldDescriptors, getEventLoop, EventLoopImpl.construct, valid, timerFd]
  rw [hAfter, heldDescriptors, hGet]
  unfold Thread.destroyEventLoop
  split
  · rename_i hEpfd
    rw [openedIn_closed, closedIn_closed, valid_of_ne hEpfd, openedIn_nil, closedIn_nil,
      List.count_append, List.count_nil, Nat.add_zero]
  · rename_i hEpfd
    rw [not_ne_iff.mp hEpfd, valid_none]
    simp

theorem Balanced.destroy (s : Thread UserCallback EventHandlerFunc MsgHandler)
    (syscalls : DestructorSyscalls) (component : Component) :
    s.Balanced (s.destroy syscalls component).2 (s.destroy syscalls component).1 := by
  have hNothing : s.Balanced [] s := .of_same ⟨rfl, rfl⟩ rfl rfl rfl
  cases component with
  | eventLoop =>
      simp only [Thread.destroy]
      split
      · exact hNothing
      · rename_i hLoop
        exact .destroyEventLoop hLoop
  | timerManager =>
      simp only [Thread.destroy]
      split
      · exact hNothing
      · rename_i hManager
        exact .destroyTimerManager syscalls hManager
  | itcPubSub =>
      simp only [Thread.destroy]
      split
      · exact hNothing
      · exact .destroyItcPubSub syscalls _

theorem Balanced.destroyAll (syscalls : DestructorSyscalls) (order : List Component)
    (s : Thread UserCallback EventHandlerFunc MsgHandler) :
    s.Balanced (destroyAll syscalls order s).2 (destroyAll syscalls order s).1 := by
  induction order generalizing s with
  | nil => exact .of_same ⟨rfl, rfl⟩ rfl rfl rfl
  | cons component rest ih => exact (Balanced.destroy s syscalls component).append (ih _)

theorem Balanced.exitRounds (rounds : List ExitRound)
    (s : Thread UserCallback EventHandlerFunc MsgHandler) :
    s.Balanced (exitRounds rounds s).2 (exitRounds rounds s).1 := by
  induction rounds generalizing s with
  | nil => exact .of_same ⟨rfl, rfl⟩ rfl rfl rfl
  | cons round rest ih =>
      exact (Balanced.destroyAll round.syscalls round.order s).append (ih _)

theorem Balanced.stepLoop {action : EventLoop.Action UserCallback EventHandlerFunc}
    {after : LoopThread (Callback UserCallback) EventHandlerFunc}
    {outputs : List (EventLoop.Output (Callback UserCallback) EventHandlerFunc)}
    (hStep : s.getEventLoop.step (boundAction action) = some (after, outputs)) :
    s.Balanced (outputs.map .eventLoop ++ openedEpfd s.getEventLoop.loop after.loop)
      { s with eventLoop := some after } :=
  .prepend (noDescriptors_eventLoop outputs) (.of_loop rfl (epfd_of_step hStep) rfl)

theorem Balanced.step {action : Action UserCallback EventHandlerFunc MsgHandler}
    {new : List (Output UserCallback EventHandlerFunc MsgHandler)}
    (moves : Moves s action t new) : s.Balanced new t := by
  cases moves with
  | looped hStep => exact .stepLoop hStep
  | messageHandled hStep => exact (Balanced.stepLoop hStep).extend (noDescriptors_itcPubSub _)
  | timerExpired hStep _ hManager hExpired =>
      refine (Balanced.stepLoop hStep).append (.of_same (noDescriptors_timer _) rfl rfl ?_)
      simpa [timerFd, hManager] using timerFd_of_other hExpired (by simp)
  | started hGet hAsk hStep => exact .started hGet hAsk hStep
  | cancelled hGet hStep =>
      obtain ⟨hFd, -, hLoop, hId⟩ := getTimerManager_timerFd hGet
      refine .of_same (noDescriptors_timer _) hLoop hId ?_
      rw [hFd]
      exact timerFd_of_other hStep (by simp)
  | elapsed hManager hStep =>
      refine .of_same (noDescriptors_timer _) rfl rfl ?_
      simpa [timerFd, hManager] using timerFd_of_other hStep (by simp)
  | elapsedAlone => exact .of_same ⟨rfl, rfl⟩ rfl rfl rfl
  | mboxAdded => exact .addItcFd s _ _ _
  | registered => exact .callItcPubSub s _ _
  | deregistered => exact .callItcPubSub s _ _
  | wasReset => exact .destroy s _ _
  | ended => exact fun fd => Balanced.exitRounds _ s fd

/-! ## The rounds at the end of a thread -/

/-- The instances of the thread. -/
def Holds (s : Thread UserCallback EventHandlerFunc MsgHandler) : Component → Prop
  | .eventLoop => s.eventLoop.isSome
  | .timerManager => s.timerManager.isSome
  | .itcPubSub => s.itcPubSub.isSome

/-- The timer manager and the publisher may bring the event loop back, and
nothing brings them back. -/
def rank : Component → Nat
  | .eventLoop => 0
  | .timerManager | .itcPubSub => 1

theorem callEventLoop_others {syscalls : EventLoop.Syscalls}
    {call : EventLoop.Call (Callback UserCallback) EventHandlerFunc} :
    (s.callEventLoop syscalls call).2.1.timerManager = s.timerManager ∧
      (s.callEventLoop syscalls call).2.1.itcPubSub = s.itcPubSub := ⟨rfl, rfl⟩

theorem destroyTimerManager_others (syscalls : DestructorSyscalls)
    (manager : TimerManagerImpl) :
    (s.destroyTimerManager syscalls manager).1.timerManager = s.timerManager ∧
      (s.destroyTimerManager syscalls manager).1.itcPubSub = s.itcPubSub := by
  unfold destroyTimerManager
  split
  · exact callEventLoop_others
  · exact ⟨rfl, rfl⟩

theorem destroyItcPubSub_others (syscalls : DestructorSyscalls)
    (pubSub : ItcPubSubImpl MsgHandler) :
    (s.destroyItcPubSub syscalls pubSub).1.timerManager = s.timerManager ∧
      (s.destroyItcPubSub syscalls pubSub).1.itcPubSub = s.itcPubSub := by
  unfold destroyItcPubSub
  split
  · exact callEventLoop_others
  · exact ⟨rfl, rfl⟩

/-- The instances after a destruction in a round. -/
def destroyIn (round : ExitRound) (s : Thread UserCallback EventHandlerFunc MsgHandler)
    (component : Component) : Thread UserCallback EventHandlerFunc MsgHandler :=
  (s.destroy round.syscalls component).1

theorem destroyIn_revivesSmaller (round : ExitRound) :
    CleanupRounds.RevivesSmaller Holds
      (destroyIn round : Thread UserCallback EventHandlerFunc MsgHandler → _) rank := by
  intro s component other hHolds
  cases component with
  | eventLoop =>
      refine Or.inl ?_
      cases hLoop : s.eventLoop <;> cases other <;>
        simp_all [destroyIn, Thread.destroy, Holds]
  | timerManager =>
      cases hManager : s.timerManager with
      | none =>
          refine Or.inl ?_
          cases other <;> simp_all [destroyIn, Thread.destroy, Holds]
      | some manager =>
          obtain ⟨hTimer, hPubSub⟩ := destroyTimerManager_others
            (s := { s with timerManager := none }) round.syscalls manager.object
          cases other <;> simp_all [destroyIn, Thread.destroy, Holds, rank]
  | itcPubSub =>
      cases hLive : s.itcPubSub with
      | none =>
          refine Or.inl ?_
          cases other <;> simp_all [destroyIn, Thread.destroy, Holds]
      | some pubSub =>
          obtain ⟨hTimer, hPubSub⟩ := destroyItcPubSub_others
            (s := { s with itcPubSub := none }) round.syscalls pubSub.object
          cases other <;> simp_all [destroyIn, Thread.destroy, Holds, rank]

theorem destroyAll_eq_foldl (round : ExitRound) (order : List Component)
    (s : Thread UserCallback EventHandlerFunc MsgHandler) :
    (destroyAll round.syscalls order s).1 = order.foldl (destroyIn round) s := by
  induction order generalizing s with
  | nil => rfl
  | cons component rest ih => exact ih _

theorem exitRounds_eq_foldl (rounds : List ExitRound)
    (s : Thread UserCallback EventHandlerFunc MsgHandler) :
    (exitRounds rounds s).1 =
      rounds.foldl (fun s round => round.order.foldl (destroyIn round) s) s := by
  induction rounds generalizing s with
  | nil => rfl
  | cons round rest ih =>
      rw [List.foldl_cons, ← destroyAll_eq_foldl]
      exact ih _

/-- Two rounds are enough: the first leaves an event loop at most. -/
theorem exitRounds_leave_nothing {rounds : List ExitRound} (hTwo : 2 ≤ rounds.length)
    (hOrders : ∀ round ∈ rounds, ∀ component, component ∈ round.order)
    (s : Thread UserCallback EventHandlerFunc MsgHandler) (component : Component) :
    ¬ (exitRounds rounds s).1.Holds component := by
  rw [exitRounds_eq_foldl]
  have hBelow : CleanupRounds.AllBelow Holds rank 2 s := by
    intro component _
    cases component <;> decide
  exact CleanupRounds.nothing_held destroyIn_revivesSmaller hOrders hBelow hTwo component

theorem possibleRounds_orders {rounds : List ExitRound}
    (hRounds : possibleRounds rounds = true) :
    rounds.length = destructorIterations ∧
      ∀ round ∈ rounds, ∀ component, component ∈ round.order := by
  simp only [possibleRounds, Bool.and_eq_true, decide_eq_true_eq, List.all_eq_true,
    List.isPerm_iff] at hRounds
  refine ⟨hRounds.1, fun round hRound component => ?_⟩
  rw [← (hRounds.2 round hRound).mem_iff]
  cases component <;> simp

/-- What is left of a thread that has ended. -/
def Gone (s : Thread UserCallback EventHandlerFunc MsgHandler) : Prop :=
  s.eventLoop = none ∧ s.timerManager = none ∧ s.itcPubSub = none

theorem gone_of_holds (hNothing : ∀ component, ¬ s.Holds component) : s.Gone :=
  ⟨by simpa [Holds] using hNothing .eventLoop, by simpa [Holds] using hNothing .timerManager,
    by simpa [Holds] using hNothing .itcPubSub⟩

theorem Gone.heldDescriptors (gone : s.Gone) : s.heldDescriptors = [] := by
  obtain ⟨hLoop, hTimer, -⟩ := gone
  simp [Thread.heldDescriptors, getEventLoop, timerFd, hLoop, hTimer,
    EventLoopImpl.construct]

theorem exited_getTimerManager : s.getTimerManager.2.exited = s.exited := by
  unfold getTimerManager
  split <;> rfl

theorem exited_getItcPubSub : s.getItcPubSub.2.exited = s.exited := by
  unfold getItcPubSub
  split <;> rfl

theorem exited_destroy (syscalls : DestructorSyscalls) (component : Component) :
    (s.destroy syscalls component).1.exited = s.exited := by
  cases component <;> unfold destroy <;> dsimp only <;> split
  · rfl
  · rfl
  · rfl
  · unfold destroyTimerManager
    split <;> rfl
  · rfl
  · unfold destroyItcPubSub
    split <;> rfl

/-- A thread that has ended does nothing. -/
theorem open_of_step {action : Action UserCallback EventHandlerFunc MsgHandler}
    {new : List (Output UserCallback EventHandlerFunc MsgHandler)}
    (hStep : s.step action = some (t, new)) : s.exited = false := by
  by_contra hExited
  simp [Thread.step, hExited] at hStep

/-- A thread ends with its rounds of destructors only. -/
theorem gone_of_step {action : Action UserCallback EventHandlerFunc MsgHandler}
    {new : List (Output UserCallback EventHandlerFunc MsgHandler)}
    (hStep : s.step action = some (t, new)) (hExited : t.exited = true) : t.Gone := by
  have hBefore := open_of_step hStep
  have hOther : t.exited = s.exited → t.Gone := fun hSame => by
    rw [hExited, hBefore] at hSame
    cases hSame
  cases moves_of_step hStep with
  | ended hRounds =>
      obtain ⟨hLength, hOrders⟩ := possibleRounds_orders hRounds
      refine gone_of_holds fun component => ?_
      exact exitRounds_leave_nothing (by rw [hLength]; decide) hOrders s component
  | looped => exact hOther rfl
  | messageHandled => exact hOther rfl
  | timerExpired => exact hOther rfl
  | started hGet hAsk =>
      refine hOther ?_
      have hGot := congrArg (fun result => result.2.exited) hGet
      rcases addTimerFdHandler_cases hAsk with ⟨-, -, rfl, -⟩ | ⟨-, rc, opened, hCall, -, -⟩
      · exact hGot.symm.trans exited_getTimerManager
      · rw [callEventLoop_keeps hCall]
        exact hGot.symm.trans exited_getTimerManager
  | cancelled hGet =>
      exact hOther ((congrArg (fun result => result.2.exited) hGet).symm.trans
        exited_getTimerManager)
  | elapsed => exact hOther rfl
  | elapsedAlone => exact hOther rfl
  | mboxAdded =>
      refine hOther ?_
      unfold addItcFd
      dsimp only
      split <;> exact exited_getItcPubSub
  | registered => exact hOther exited_getItcPubSub
  | deregistered => exact hOther exited_getItcPubSub
  | wasReset => exact hOther (exited_destroy _ _)

end Thread

section

variable
  {steps : List (Thread UserCallback EventHandlerFunc MsgHandler ×
    Action UserCallback EventHandlerFunc MsgHandler)}
  {history : List (Output UserCallback EventHandlerFunc MsgHandler)}
  {s : Thread UserCallback EventHandlerFunc MsgHandler}

theorem balanced_of_run
    (run : (threadSystem UserCallback EventHandlerFunc MsgHandler).Run steps history s)
    (fd : Fd) :
    (openedIn history).count fd = (closedIn history).count fd + s.heldDescriptors.count fd := by
  refine run.invariant_of_all (fun history s => (openedIn history).count fd =
    (closedIn history).count fd + s.heldDescriptors.count fd) ?_ ?_
  · rintro s ⟨id, now, rfl⟩
    rfl
  · intro history s action t new hBefore hStep
    have hBalanced := Thread.Balanced.step (Thread.moves_of_step hStep) fd
    rw [openedIn_append, closedIn_append, List.count_append, List.count_append]
    omega

theorem gone_of_run
    (run : (threadSystem UserCallback EventHandlerFunc MsgHandler).Run steps history s)
    (hExited : s.exited = true) : s.Gone := by
  refine run.invariant_of_all (fun _ s => s.exited = true → s.Gone) ?_ ?_ hExited
  · rintro s ⟨id, now, rfl⟩ hExited
    cases hExited
  · intro history s action t new _ hStep hExited
    exact Thread.gone_of_step hStep hExited

/-- Whatever system calls fail, and in whatever order instances are created, used,
reset and destroyed: every descriptor has been opened as often as it has been
closed or is still held, once by the event loop or once by the timer manager of the
thread. -/
theorem run_accounts_for_descriptors
    (run : (threadSystem UserCallback EventHandlerFunc MsgHandler).Run steps history s)
    (fd : Fd) :
    (openedIn history).count fd = (closedIn history).count fd + s.heldDescriptors.count fd :=
  balanced_of_run run fd

/-- The first timerfd cannot be added to the new epoll instance, the second can. -/
def secondTimerfd : List (Action Unit Unit Unit) :=
  [.start .oneShot 0 ⟨7, true, true, true⟩ ⟨3, false⟩ 10 (1, 7),
    .start .oneShot 0 ⟨8, true, true, true⟩ ⟨-1, true⟩ 10 (1, 7)]

/-- The first is closed, the second held. -/
theorem secondTimerfd_held : ∃ (history : List (Output Unit Unit Unit))
    (s : Thread Unit Unit Unit), s.heldDescriptors = [3, 8] ∧
      (openedIn history).count 8 = (closedIn history).count 8 + s.heldDescriptors.count 8 := by
  obtain ⟨steps, history, s, run, hHeld⟩ : ∃ steps history s,
      (threadSystem Unit Unit Unit).Run steps history s ∧ s.heldDescriptors = [3, 8] :=
    ⟨_, _, _, run_of_replay (Thread.begin 0 0) secondTimerfd ⟨0, 0, rfl⟩ rfl, rfl⟩
  exact ⟨history, s, hHeld, run_accounts_for_descriptors run 8⟩

/-- When a thread has ended, whatever the orders of its destructors and whatever they
brought back, none of its instances is left and every descriptor they opened
has been closed. -/
theorem run_ends_without_leaks
    (run : (threadSystem UserCallback EventHandlerFunc MsgHandler).Run steps history s)
    (hExited : s.exited = true) :
    s.Gone ∧ ∀ fd, (openedIn history).count fd = (closedIn history).count fd := by
  have gone := gone_of_run run hExited
  refine ⟨gone, fun fd => ?_⟩
  rw [balanced_of_run run fd, gone.heldDescriptors, List.count_nil, Nat.add_zero]

/-- The event loop is destroyed before the timer manager, which brings it back to
remove its handler. -/
def eventLoopFirst : List (Action Unit Unit Unit) :=
  secondTimerfd ++
    [.exit (.replicate 4 ⟨[.eventLoop, .timerManager, .itcPubSub], ⟨true, ⟨-1, true⟩⟩⟩)]

theorem eventLoopFirst_leaves_nothing : ∃ (history : List (Output Unit Unit Unit))
    (s : Thread Unit Unit Unit), openedIn history = [7, 3, 8] ∧ s.Gone ∧
      ∀ fd, (openedIn history).count fd = (closedIn history).count fd := by
  obtain ⟨steps, history, s, run, hOpened, hExited⟩ : ∃ steps history s,
      (threadSystem Unit Unit Unit).Run steps history s ∧ openedIn history = [7, 3, 8] ∧
        s.exited = true :=
    ⟨_, _, _, run_of_replay (Thread.begin 0 0) eventLoopFirst ⟨0, 0, rfl⟩ rfl, rfl, rfl⟩
  exact ⟨history, s, hOpened, run_ends_without_leaks run hExited⟩

end

end Components
end UtilsFramework
