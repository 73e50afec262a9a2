import UtilsFramework.EventLoop.Run
import UtilsFramework.ItcPubSub.Messages
import UtilsFramework.Timer.Manager

/-!
# The components of one thread

A thread has an `EventLoopImpl`, a `TimerManagerImpl` and an `ItcPubSubImpl` of
its own, each constructed by the first `getThreadLocalInstance` and destroyed by
`reset` or at the end of the thread.  The timer manager and the publisher live
on the event loop: they register a member function bound to `this` and remove it
in their destructors.  This file puts the three models together.  What the event
loop answers is no longer an outcome but computed, and a dispatched callback
that is bound to an instance runs the member function of this instance; where
the instance is gone there is no step.

The components are used from the thread itself, wherever user code runs, or
through a reference from another thread.  An event loop is not reset while its
`run()` is active: there is no step for what is undefined from then on.  At the
end of the thread the destructors run in rounds, each in any order, because a
destructor may bring the event loop back.
-/

namespace UtilsFramework
namespace Components

open Library
open EventLoop (EventLoopImpl LoopThread Fd fdEventIn)
open Timer (TimerManagerImpl TimerId TimerKind)
open ItcPubSub (ItcPubSubImpl MsgNo)

abbrev ThreadId := Nat
/-- The address of a `TimerManagerImpl` or an `ItcPubSubImpl`. -/
abbrev InstanceId := Nat

/-- What is registered with an event loop: a function of the user, or a private
member function bound to an instance. -/
inductive Callback (UserCallback : Type)
  | user (callback : UserCallback)
  | onTimerExpired (manager : InstanceId)
  | handleFdEvent (pubSub : InstanceId)
deriving DecidableEq, Repr

structure Instance (Object : Type) where
  address : InstanceId
  object : Object
deriving DecidableEq

inductive Component
  | eventLoop
  | timerManager
  | itcPubSub
deriving DecidableEq, Repr

/-- The thread-local instances; an event loop comes with the call stack of the
thread.  `now` is the clock a new timer manager starts from. -/
structure Thread (UserCallback EventHandlerFunc MsgHandler : Type) where
  id : ThreadId
  eventLoop : Option (LoopThread (Callback UserCallback) EventHandlerFunc)
  timerManager : Option (Instance TimerManagerImpl)
  itcPubSub : Option (Instance (ItcPubSubImpl MsgHandler))
  nextInstance : InstanceId
  now : Int
  exited : Bool

/-- What a bound member function finds when it is called: in `onTimerExpired`
the outcomes of `read` and `timerfd_settime`, in `handleFdEvent` the message. -/
structure Outcomes where
  readSucceeds : Bool
  timerFdSetTimeSucceeds : Bool
  received : Option MsgNo
deriving DecidableEq, Repr

/-- The outcomes of the system calls of a destructor. -/
structure DestructorSyscalls where
  repossessSucceeds : Bool
  loop : EventLoop.Syscalls
deriving DecidableEq, Repr

/-- A round of destructors at the end of a thread. -/
structure ExitRound where
  order : List Component
  syscalls : DestructorSyscalls
deriving DecidableEq, Repr

inductive Action (UserCallback EventHandlerFunc MsgHandler : Type)
  | loop (outcomes : Outcomes) (action : EventLoop.Action UserCallback EventHandlerFunc)
  | start (kind : TimerKind) (caller : ThreadId) (timerSyscalls : Timer.Syscalls)
      (loopSyscalls : EventLoop.Syscalls) (timeout : Int) (timer : TimerId)
  | cancelTimer (caller : ThreadId) (timerFdSetTimeSucceeds : Bool) (timer : TimerId)
  | elapse (later : Int)
  | addItcFd (caller : ThreadId) (loopSyscalls : EventLoop.Syscalls) (fd : Fd)
  | registerMsg (caller : ThreadId) (msgNo : MsgNo) (msgHandler : MsgHandler)
  | deregisterMsg (caller : ThreadId) (msgNo : MsgNo)
  | reset (component : Component) (syscalls : DestructorSyscalls)
  | exit (rounds : List ExitRound)
deriving DecidableEq

/-- `opened` and `closed` are the descriptors the components themselves create
and close. -/
inductive Output (UserCallback EventHandlerFunc MsgHandler : Type)
  | eventLoop (output : EventLoop.Output (Callback UserCallback) EventHandlerFunc)
  | timer (output : Timer.Output)
  | itcPubSub (output : ItcPubSub.Output MsgHandler)
  | opened (fd : Fd)
  | closed (fd : Fd)
deriving DecidableEq

variable {UserCallback EventHandlerFunc MsgHandler : Type}

/-- A user registers functions of his own. -/
def boundCall : EventLoop.Call UserCallback EventHandlerFunc →
    EventLoop.Call (Callback UserCallback) EventHandlerFunc
  | .addFdHandler fd eventMask callback => .addFdHandler fd eventMask (.user callback)
  | .updateFdEvents fd eventMask => .updateFdEvents fd eventMask
  | .removeFdHandler fd => .removeFdHandler fd
  | .scheduleEvent eventHandler => .scheduleEvent eventHandler
  | .stop => .stop

def boundAction : EventLoop.Action UserCallback EventHandlerFunc →
    EventLoop.Action (Callback UserCallback) EventHandlerFunc
  | .call caller syscalls call => .call caller syscalls (boundCall call)
  | .run caller => .run caller
  | .userReturns => .userReturns
  | .epollWaitReturns result => .epollWaitReturns result
  | .signalStop => .signalStop
  | .proceed => .proceed

/-- Who needs the event loop: another thread only through a reference. -/
def callerOf (thread : ThreadId) :
    EventLoop.Action UserCallback EventHandlerFunc → ThreadId
  | .call caller _ _ => caller
  | .run caller => caller
  | _ => thread

/-- `PTHREAD_DESTRUCTOR_ITERATIONS` -/
def destructorIterations : Nat := 4

/-- `launchNewTimer` gets as far as `addFdHandler` in `createTimerFd`. -/
def registersTimerFd (manager : TimerManagerImpl) (caller : ThreadId) (timer : TimerId)
    (fd : Fd) : Bool :=
  caller = manager.threadId &&
    (manager.activeTimers.findPosition
      (Timer.TimerObject.isFor timer.1 timer.2)).isNone &&
    manager.timerFd = -1 && fd ≠ -1

/-- The epoll descriptor an operation on the loop has created. -/
def openedEpfd (before after : EventLoopImpl (Callback UserCallback) EventHandlerFunc) :
    List (Output UserCallback EventHandlerFunc MsgHandler) :=
  if before.epfd = -1 ∧ after.epfd ≠ -1 then [.opened after.epfd] else []

namespace Thread

/-- A thread that has not used any component. -/
def begin (id : ThreadId) (now : Int) :
    Thread UserCallback EventHandlerFunc MsgHandler where
  id := id
  eventLoop := none
  timerManager := none
  itcPubSub := none
  nextInstance := 0
  now := now
  exited := false

/-! ## Getting at the instances -/

/-- `IEventLoop::getThreadLocalInstance()` -/
def getEventLoop (s : Thread UserCallback EventHandlerFunc MsgHandler) :
    LoopThread (Callback UserCallback) EventHandlerFunc :=
  s.eventLoop.getD { loop := .construct s.id, stack := [] }

/-- `ITimerManager::getThreadLocalInstance()` -/
def getTimerManager (s : Thread UserCallback EventHandlerFunc MsgHandler) :
    Instance TimerManagerImpl × Thread UserCallback EventHandlerFunc MsgHandler :=
  match s.timerManager with
  | some manager => (manager, s)
  | none =>
      let manager := ⟨s.nextInstance, .construct s.id s.now⟩
      (manager, { s with timerManager := some manager, nextInstance := s.nextInstance + 1 })

/-- `IItcPubSub::getThreadLocalInstance()` -/
def getItcPubSub (s : Thread UserCallback EventHandlerFunc MsgHandler) :
    Instance (ItcPubSubImpl MsgHandler) ×
      Thread UserCallback EventHandlerFunc MsgHandler :=
  match s.itcPubSub with
  | some pubSub => (pubSub, s)
  | none =>
      let pubSub := ⟨s.nextInstance, .construct s.id⟩
      (pubSub, { s with itcPubSub := some pubSub, nextInstance := s.nextInstance + 1 })

/-- User code runs on the thread. -/
def userCodeRuns (s : Thread UserCallback EventHandlerFunc MsgHandler) : Bool :=
  EventLoop.userCodeRuns s.getEventLoop.stack

/-- A call from the thread itself, or through a reference to an instance. -/
def mayCall (s : Thread UserCallback EventHandlerFunc MsgHandler) (caller : ThreadId)
    (instanceExists : Bool) : Bool :=
  if caller = s.id then s.userCodeRuns else instanceExists

/-- A call of the thread's event loop by one of its components. -/
def callEventLoop (s : Thread UserCallback EventHandlerFunc MsgHandler)
    (syscalls : EventLoop.Syscalls)
    (call : EventLoop.Call (Callback UserCallback) EventHandlerFunc) :
    EventLoop.ReturnCode × Thread UserCallback EventHandlerFunc MsgHandler ×
      List (Output UserCallback EventHandlerFunc MsgHandler) :=
  let current := s.getEventLoop
  let result := current.loop.perform s.id syscalls call
  (result.1, { s with eventLoop := some { current with loop := result.2 } },
    openedEpfd current.loop result.2)

/-! ## The timer manager -/

/-- The part of `createTimerFd` that concerns the event loop. -/
def addTimerFdHandler (s : Thread UserCallback EventHandlerFunc MsgHandler)
    (manager : Instance TimerManagerImpl) (caller : ThreadId) (timer : TimerId)
    (fd : Fd) (loopSyscalls : EventLoop.Syscalls) :
    Bool × Thread UserCallback EventHandlerFunc MsgHandler ×
      List (Output UserCallback EventHandlerFunc MsgHandler) :=
  if registersTimerFd manager.object caller timer fd then
    let (rc, s, opened) := s.callEventLoop loopSyscalls
      (.addFdHandler fd fdEventIn (.onTimerExpired manager.address))
    if rc = .normal then (true, s, .opened fd :: opened)
    -- the new descriptor is closed again
    else (false, s, .opened fd :: opened ++ [.closed fd])
  else (false, s, [])

/-- A step of the timer manager alone. -/
def stepTimerManager (s : Thread UserCallback EventHandlerFunc MsgHandler)
    (manager : Instance TimerManagerImpl) (action : Timer.Action) :
    Option (Thread UserCallback EventHandlerFunc MsgHandler ×
      List (Output UserCallback EventHandlerFunc MsgHandler)) :=
  (manager.object.step action).map fun next =>
    ({ s with timerManager := some { manager with object := next.1 } },
      next.2.map .timer)

def start (s : Thread UserCallback EventHandlerFunc MsgHandler) (kind : TimerKind)
    (caller : ThreadId) (timerSyscalls : Timer.Syscalls)
    (loopSyscalls : EventLoop.Syscalls) (timeout : Int) (timer : TimerId) :
    Option (Thread UserCallback EventHandlerFunc MsgHandler ×
      List (Output UserCallback EventHandlerFunc MsgHandler)) :=
  let (manager, s) := s.getTimerManager
  let (added, s, calls) := s.addTimerFdHandler manager caller timer
    timerSyscalls.timerFdCreate loopSyscalls
  let timerSyscalls := { timerSyscalls with addFdHandlerSucceeds := added }
  (s.stepTimerManager manager (.start kind caller timerSyscalls timeout timer)).map
    fun next => (next.1, calls ++ next.2)

/-- Time passes for the manager too. -/
def elapse (s : Thread UserCallback EventHandlerFunc MsgHandler) (later : Int) :
    Option (Thread UserCallback EventHandlerFunc MsgHandler ×
      List (Output UserCallback EventHandlerFunc MsgHandler)) :=
  if s.now ≤ later then
    let s := { s with now := later }
    match s.timerManager with
    | some manager => s.stepTimerManager manager (.elapse later)
    | none => some (s, [])
  else none

/-! ## The publisher -/

def addItcFd (s : Thread UserCallback EventHandlerFunc MsgHandler) (caller : ThreadId)
    (loopSyscalls : EventLoop.Syscalls) (fd : Fd) :
    Thread UserCallback EventHandlerFunc MsgHandler ×
      List (Output UserCallback EventHandlerFunc MsgHandler) :=
  let (pubSub, s) := s.getItcPubSub
  -- what `addItcFd` checks before it calls the event loop
  let (rc, s, calls) :=
    if caller = pubSub.object.threadId ∧ pubSub.object.mboxFd = -1 then
      s.callEventLoop loopSyscalls
        (.addFdHandler fd fdEventIn (.handleFdEvent pubSub.address))
    else (.normal, s, [])
  let (result, object) := pubSub.object.addItcFd caller fd rc
  ({ s with itcPubSub := some { pubSub with object := object } },
    calls ++ [.itcPubSub (.returned (.addItcFd fd rc) result)])

/-- `registerMsg` and `deregisterMsg` do not need the event loop. -/
def callItcPubSub (s : Thread UserCallback EventHandlerFunc MsgHandler)
    (caller : ThreadId) (call : ItcPubSub.Call MsgHandler) :
    Thread UserCallback EventHandlerFunc MsgHandler ×
      List (Output UserCallback EventHandlerFunc MsgHandler) :=
  let (pubSub, s) := s.getItcPubSub
  let (rc, object) := pubSub.object.perform caller call
  ({ s with itcPubSub := some { pubSub with object := object } },
    [.itcPubSub (.returned call rc)])

/-- The handler a received message is dispatched to, if there is one. -/
def dispatchedMsg (pubSub : ItcPubSubImpl MsgHandler) (received : Option MsgNo) :
    List (ItcPubSub.Output MsgHandler) :=
  match received with
  | none => []
  | some msgNo =>
      match pubSub.msgHandlerMap.find msgNo with
      | none => []
      | some node => [.dispatched msgNo node.value]

/-! ## The event loop -/

/-- The member function a dispatched callback is bound to. -/
def callBound (s : Thread UserCallback EventHandlerFunc MsgHandler)
    (outcomes : Outcomes) : Callback UserCallback →
    Option (Thread UserCallback EventHandlerFunc MsgHandler ×
      List (Output UserCallback EventHandlerFunc MsgHandler))
  | .user _ => some (s, [])
  | .onTimerExpired address =>
      match s.timerManager with
      | some manager =>
          if manager.address = address then
            s.stepTimerManager manager
              (.onTimerExpired outcomes.readSucceeds outcomes.timerFdSetTimeSucceeds)
          else none
      | none => none
  | .handleFdEvent address =>
      match s.itcPubSub with
      | some pubSub =>
          if pubSub.address = address then
            some (s, (dispatchedMsg pubSub.object outcomes.received).map .itcPubSub)
          else none
      | none => none

/-- The callback among the outputs of a step of the loop. -/
def dispatchedCallback :
    List (EventLoop.Output (Callback UserCallback) EventHandlerFunc) →
    Option (Callback UserCallback)
  | [.dispatched callback _ _] => some callback
  | _ => none

def stepLoop (s : Thread UserCallback EventHandlerFunc MsgHandler) (outcomes : Outcomes)
    (action : EventLoop.Action UserCallback EventHandlerFunc) :
    Option (Thread UserCallback EventHandlerFunc MsgHandler ×
      List (Output UserCallback EventHandlerFunc MsgHandler)) :=
  let current := s.getEventLoop
  match current.step (boundAction action) with
  | none => none
  | some (after, outputs) =>
      let s := { s with eventLoop := some after }
      let observed := outputs.map .eventLoop ++ openedEpfd current.loop after.loop
      match dispatchedCallback outputs with
      | none => some (s, observed)
      | some callback =>
          (s.callBound outcomes callback).map fun next => (next.1, observed ++ next.2)

/-! ## Destruction -/

/-- The kernel drops a closed descriptor from the interest list. -/
def dropInterest (s : Thread UserCallback EventHandlerFunc MsgHandler) (fd : Fd) :
    Thread UserCallback EventHandlerFunc MsgHandler :=
  { s with
    eventLoop := s.eventLoop.map fun current =>
      { current with
        loop := { current.loop with
          interestList := current.loop.interestList.erase fd } } }

/-- `~TimerManagerImpl` -/
def destroyTimerManager (s : Thread UserCallback EventHandlerFunc MsgHandler)
    (syscalls : DestructorSyscalls) (manager : TimerManagerImpl) :
    Thread UserCallback EventHandlerFunc MsgHandler ×
      List (Output UserCallback EventHandlerFunc MsgHandler) :=
  if manager.timerFd ≠ -1 then
    let (_, calls) := manager.repossessTimerFd syscalls.repossessSucceeds
    -- closed before the handler is removed
    let (_, s, opened) := (s.dropInterest manager.timerFd).callEventLoop syscalls.loop
      (.removeFdHandler manager.timerFd)
    (s, calls.map .timer ++ .closed manager.timerFd :: opened)
  else (s, [])

/-- `~ItcPubSubImpl` -/
def destroyItcPubSub (s : Thread UserCallback EventHandlerFunc MsgHandler)
    (syscalls : DestructorSyscalls) (pubSub : ItcPubSubImpl MsgHandler) :
    Thread UserCallback EventHandlerFunc MsgHandler ×
      List (Output UserCallback EventHandlerFunc MsgHandler) :=
  if pubSub.mboxFd ≠ -1 then
    (s.callEventLoop syscalls.loop (.removeFdHandler pubSub.mboxFd)).2
  else (s, [])

/-- `~EventLoopImpl` -/
def destroyEventLoop (loop : EventLoopImpl (Callback UserCallback) EventHandlerFunc) :
    List (Output UserCallback EventHandlerFunc MsgHandler) :=
  if loop.epfd ≠ -1 then [.closed loop.epfd] else []

/-- The destruction of an instance, by `reset` or by `tlsDestructor`. -/
def destroy (s : Thread UserCallback EventHandlerFunc MsgHandler)
    (syscalls : DestructorSyscalls) : Component →
    Thread UserCallback EventHandlerFunc MsgHandler ×
      List (Output UserCallback EventHandlerFunc MsgHandler)
  | .eventLoop =>
      match s.eventLoop with
      | none => (s, [])
      | some current => ({ s with eventLoop := none }, destroyEventLoop current.loop)
  | .timerManager =>
      match s.timerManager with
      | none => (s, [])
      | some manager =>
          destroyTimerManager { s with timerManager := none } syscalls manager.object
  | .itcPubSub =>
      match s.itcPubSub with
      | none => (s, [])
      | some pubSub =>
          destroyItcPubSub { s with itcPubSub := none } syscalls pubSub.object

/-- The destructors of one round, in its order. -/
def destroyAll (syscalls : DestructorSyscalls) :
    List Component → Thread UserCallback EventHandlerFunc MsgHandler →
    Thread UserCallback EventHandlerFunc MsgHandler ×
      List (Output UserCallback EventHandlerFunc MsgHandler)
  | [], s => (s, [])
  | component :: rest, s =>
      let (s, first) := s.destroy syscalls component
      let (s, later) := destroyAll syscalls rest s
      (s, first ++ later)

def exitRounds : List ExitRound → Thread UserCallback EventHandlerFunc MsgHandler →
    Thread UserCallback EventHandlerFunc MsgHandler ×
      List (Output UserCallback EventHandlerFunc MsgHandler)
  | [], s => (s, [])
  | round :: rest, s =>
      let (s, first) := destroyAll round.syscalls round.order s
      let (s, later) := exitRounds rest s
      (s, first ++ later)

/-- Every component has its turn in every round; a round without instances does
nothing. -/
def possibleRounds (rounds : List ExitRound) : Bool :=
  rounds.length = destructorIterations &&
    rounds.all fun round => [.eventLoop, .timerManager, .itcPubSub].isPerm round.order

/-! ## The steps -/

def step (s : Thread UserCallback EventHandlerFunc MsgHandler)
    (action : Action UserCallback EventHandlerFunc MsgHandler) :
    Option (Thread UserCallback EventHandlerFunc MsgHandler ×
      List (Output UserCallback EventHandlerFunc MsgHandler)) :=
  if s.exited then none
  else
    match action with
    | .loop outcomes action =>
        if callerOf s.id action = s.id || s.eventLoop.isSome then s.stepLoop outcomes action
        else none
    | .start kind caller timerSyscalls loopSyscalls timeout timer =>
        if s.mayCall caller s.timerManager.isSome then
          s.start kind caller timerSyscalls loopSyscalls timeout timer
        else none
    | .cancelTimer caller timerFdSetTimeSucceeds timer =>
        if s.mayCall caller s.timerManager.isSome then
          let (manager, s) := s.getTimerManager
          s.stepTimerManager manager (.cancelTimer caller timerFdSetTimeSucceeds timer)
        else none
    | .elapse later => s.elapse later
    | .addItcFd caller loopSyscalls fd =>
        -- `epoll_ctl` never accepts a negative descriptor
        if s.mayCall caller s.itcPubSub.isSome &&
            (decide (0 ≤ fd) || !loopSyscalls.epollCtlSucceeds) then
          some (s.addItcFd caller loopSyscalls fd)
        else none
    | .registerMsg caller msgNo msgHandler =>
        if s.mayCall caller s.itcPubSub.isSome then
          some (s.callItcPubSub caller (.registerMsg msgNo msgHandler))
        else none
    | .deregisterMsg caller msgNo =>
        if s.mayCall caller s.itcPubSub.isSome then
          some (s.callItcPubSub caller (.deregisterMsg msgNo))
        else none
    | .reset component syscalls =>
        if s.userCodeRuns && (component ≠ .eventLoop || s.getEventLoop.stack.isEmpty) then
          some (s.destroy syscalls component)
        else none
    | .exit rounds =>
        if s.getEventLoop.stack.isEmpty && possibleRounds rounds then
          let (s, outputs) := exitRounds rounds s
          some ({ s with exited := true }, outputs)
        else none

/-! ## What a step can do -/

/-- The steps by the instances they involve. -/
inductive Moves (s : Thread UserCallback EventHandlerFunc MsgHandler) :
    Action UserCallback EventHandlerFunc MsgHandler →
    Thread UserCallback EventHandlerFunc MsgHandler →
    List (Output UserCallback EventHandlerFunc MsgHandler) → Prop
  /-- The loop goes on, or calls a function of the user. -/
  | looped {outcomes : Outcomes}
      {action : EventLoop.Action UserCallback EventHandlerFunc}
      {after : LoopThread (Callback UserCallback) EventHandlerFunc}
      {outputs : List (EventLoop.Output (Callback UserCallback) EventHandlerFunc)}
      (hStep : s.getEventLoop.step (boundAction action) = some (after, outputs))
      (hUser : ∀ callback, dispatchedCallback outputs = some callback →
        ∃ user, callback = .user user) :
      Moves s (.loop outcomes action) { s with eventLoop := some after }
        (outputs.map .eventLoop ++ openedEpfd s.getEventLoop.loop after.loop)
  | timerExpired {outcomes : Outcomes}
      {action : EventLoop.Action UserCallback EventHandlerFunc}
      {after : LoopThread (Callback UserCallback) EventHandlerFunc}
      {outputs : List (EventLoop.Output (Callback UserCallback) EventHandlerFunc)}
      {manager : Instance TimerManagerImpl} {next : TimerManagerImpl}
      {expired : List Timer.Output}
      (hStep : s.getEventLoop.step (boundAction action) = some (after, outputs))
      (hDispatched : dispatchedCallback outputs = some (.onTimerExpired manager.address))
      (hManager : s.timerManager = some manager)
      (hExpired : manager.object.step (.onTimerExpired outcomes.readSucceeds
        outcomes.timerFdSetTimeSucceeds) = some (next, expired)) :
      Moves s (.loop outcomes action)
        { s with
          eventLoop := some after
          timerManager := some { manager with object := next } }
        (outputs.map .eventLoop ++ openedEpfd s.getEventLoop.loop after.loop ++
          expired.map .timer)
  | messageHandled {outcomes : Outcomes}
      {action : EventLoop.Action UserCallback EventHandlerFunc}
      {after : LoopThread (Callback UserCallback) EventHandlerFunc}
      {outputs : List (EventLoop.Output (Callback UserCallback) EventHandlerFunc)}
      {pubSub : Instance (ItcPubSubImpl MsgHandler)}
      (hStep : s.getEventLoop.step (boundAction action) = some (after, outputs))
      (hDispatched : dispatchedCallback outputs = some (.handleFdEvent pubSub.address))
      (hPubSub : s.itcPubSub = some pubSub) :
      Moves s (.loop outcomes action) { s with eventLoop := some after }
        (outputs.map .eventLoop ++ openedEpfd s.getEventLoop.loop after.loop ++
          (dispatchedMsg pubSub.object outcomes.received).map .itcPubSub)
  | started {kind : TimerKind} {caller : ThreadId} {timerSyscalls : Timer.Syscalls}
      {loopSyscalls : EventLoop.Syscalls} {timeout : Int} {timer : TimerId}
      {manager : Instance TimerManagerImpl}
      {got asked : Thread UserCallback EventHandlerFunc MsgHandler} {added : Bool}
      {calls : List (Output UserCallback EventHandlerFunc MsgHandler)}
      {next : TimerManagerImpl} {outputs : List Timer.Output}
      (hGet : s.getTimerManager = (manager, got))
      (hAsk : got.addTimerFdHandler manager caller timer timerSyscalls.timerFdCreate
        loopSyscalls = (added, asked, calls))
      (hStep : manager.object.step (.start kind caller
        { timerSyscalls with addFdHandlerSucceeds := added } timeout timer) =
          some (next, outputs)) :
      Moves s (.start kind caller timerSyscalls loopSyscalls timeout timer)
        { asked with timerManager := some { manager with object := next } }
        (calls ++ outputs.map .timer)
  | cancelled {caller : ThreadId} {succeeds : Bool} {timer : TimerId}
      {manager : Instance TimerManagerImpl}
      {got : Thread UserCallback EventHandlerFunc MsgHandler}
      {next : TimerManagerImpl} {outputs : List Timer.Output}
      (hGet : s.getTimerManager = (manager, got))
      (hStep : manager.object.step (.cancelTimer caller succeeds timer) =
        some (next, outputs)) :
      Moves s (.cancelTimer caller succeeds timer)
        { got with timerManager := some { manager with object := next } }
        (outputs.map .timer)
  | elapsed {later : Int} {manager : Instance TimerManagerImpl}
      {next : TimerManagerImpl} {outputs : List Timer.Output}
      (hManager : s.timerManager = some manager)
      (hStep : manager.object.step (.elapse later) = some (next, outputs)) :
      Moves s (.elapse later)
        { s with now := later, timerManager := some { manager with object := next } }
        (outputs.map .timer)
  | elapsedAlone {later : Int} (hNone : s.timerManager = none) :
      Moves s (.elapse later) { s with now := later } []
  | mboxAdded {caller : ThreadId} {loopSyscalls : EventLoop.Syscalls} {fd : Fd}
      (hFd : 0 ≤ fd ∨ loopSyscalls.epollCtlSucceeds = false) :
      Moves s (.addItcFd caller loopSyscalls fd) (s.addItcFd caller loopSyscalls fd).1
        (s.addItcFd caller loopSyscalls fd).2
  | registered {caller : ThreadId} {msgNo : MsgNo} {msgHandler : MsgHandler} :
      Moves s (.registerMsg caller msgNo msgHandler)
        (s.callItcPubSub caller (.registerMsg msgNo msgHandler)).1
        (s.callItcPubSub caller (.registerMsg msgNo msgHandler)).2
  | deregistered {caller : ThreadId} {msgNo : MsgNo} :
      Moves s (.deregisterMsg caller msgNo)
        (s.callItcPubSub caller (.deregisterMsg msgNo)).1
        (s.callItcPubSub caller (.deregisterMsg msgNo)).2
  | wasReset {component : Component} {syscalls : DestructorSyscalls} :
      Moves s (.reset component syscalls) (s.destroy syscalls component).1
        (s.destroy syscalls component).2
  | ended {rounds : List ExitRound} (hRounds : possibleRounds rounds = true) :
      Moves s (.exit rounds) { (exitRounds rounds s).1 with exited := true }
        (exitRounds rounds s).2

theorem stepTimerManager_some
    {s t : Thread UserCallback EventHandlerFunc MsgHandler}
    {manager : Instance TimerManagerImpl} {action : Timer.Action}
    {new : List (Output UserCallback EventHandlerFunc MsgHandler)}
    (hStep : s.stepTimerManager manager action = some (t, new)) :
    ∃ next outputs, manager.object.step action = some (next, outputs) ∧
      t = { s with timerManager := some { manager with object := next } } ∧
      new = outputs.map .timer := by
  obtain ⟨⟨next, outputs⟩, hNext, hEq⟩ := Option.map_eq_some_iff.mp hStep
  obtain ⟨rfl, rfl⟩ := Prod.mk.inj hEq
  exact ⟨next, outputs, hNext, rfl, rfl⟩

theorem stepLoop_moves {s t : Thread UserCallback EventHandlerFunc MsgHandler}
    {outcomes : Outcomes} {action : EventLoop.Action UserCallback EventHandlerFunc}
    {new : List (Output UserCallback EventHandlerFunc MsgHandler)}
    (hStep : s.stepLoop outcomes action = some (t, new)) :
    Moves s (.loop outcomes action) t new := by
  unfold stepLoop at hStep
  dsimp only at hStep
  split at hStep
  · cases hStep
  rename_i after outputs hLoop
  split at hStep
  · rename_i hNone
    obtain ⟨rfl, rfl⟩ := by simpa using hStep
    exact .looped hLoop (by simp [hNone])
  rename_i callback hDispatched
  obtain ⟨⟨called, observed⟩, hCalled, hEq⟩ := Option.map_eq_some_iff.mp hStep
  obtain ⟨rfl, rfl⟩ := Prod.mk.inj hEq
  cases callback with
  | user user =>
      obtain ⟨rfl, rfl⟩ := by simpa [callBound] using hCalled
      rw [List.append_nil]
      refine .looped hLoop fun callback hCallback => ⟨user, ?_⟩
      rw [hDispatched] at hCallback
      exact (Option.some.inj hCallback).symm
  | onTimerExpired address =>
      simp only [callBound] at hCalled
      split at hCalled
      · rename_i manager hManager
        split at hCalled
        · rename_i hAddress
          subst hAddress
          obtain ⟨next, expired, hExpired, rfl, rfl⟩ := stepTimerManager_some hCalled
          exact .timerExpired hLoop hDispatched hManager hExpired
        · cases hCalled
      · cases hCalled
  | handleFdEvent address =>
      simp only [callBound] at hCalled
      split at hCalled
      · rename_i pubSub hPubSub
        split at hCalled
        · rename_i hAddress
          subst hAddress
          obtain ⟨rfl, rfl⟩ := by simpa using hCalled
          exact .messageHandled hLoop hDispatched hPubSub
        · cases hCalled
      · cases hCalled

/-- Every step is one of the moves. -/
theorem moves_of_step {s t : Thread UserCallback EventHandlerFunc MsgHandler}
    {action : Action UserCallback EventHandlerFunc MsgHandler}
    {new : List (Output UserCallback EventHandlerFunc MsgHandler)}
    (hStep : s.step action = some (t, new)) : Moves s action t new := by
  unfold step at hStep
  split at hStep
  · cases hStep
  cases action with
  | loop outcomes action =>
      simp only [Option.ite_none_right_eq_some] at hStep
      exact stepLoop_moves hStep.2
  | start kind caller timerSyscalls loopSyscalls timeout timer =>
      simp only [start, Option.ite_none_right_eq_some] at hStep
      obtain ⟨⟨started, observed⟩, hStart, hEq⟩ := Option.map_eq_some_iff.mp hStep.2
      obtain ⟨next, outputs, hNext, rfl, rfl⟩ := stepTimerManager_some hStart
      obtain ⟨rfl, rfl⟩ := Prod.mk.inj hEq
      exact .started rfl rfl hNext
  | cancelTimer caller succeeds timer =>
      simp only [Option.ite_none_right_eq_some] at hStep
      obtain ⟨next, outputs, hNext, rfl, rfl⟩ := stepTimerManager_some hStep.2
      exact .cancelled rfl hNext
  | elapse later =>
      simp only [elapse, Option.ite_none_right_eq_some] at hStep
      obtain ⟨-, hElapse⟩ := hStep
      split at hElapse
      · rename_i manager hManager
        obtain ⟨next, outputs, hNext, rfl, rfl⟩ := stepTimerManager_some hElapse
        exact .elapsed hManager hNext
      · rename_i hNone
        obtain ⟨rfl, rfl⟩ := by simpa using hElapse
        exact .elapsedAlone hNone
  | addItcFd caller loopSyscalls fd =>
      simp only [Option.ite_none_right_eq_some, Bool.and_eq_true, Bool.or_eq_true,
        decide_eq_true_eq, Bool.not_eq_true', Option.some.injEq] at hStep
      obtain ⟨⟨-, hFd⟩, hEq⟩ := hStep
      have moves : Moves s (.addItcFd caller loopSyscalls fd) _ _ := .mboxAdded hFd
      rw [hEq] at moves
      exact moves
  | registerMsg caller msgNo msgHandler =>
      simp only [Option.ite_none_right_eq_some, Option.some.injEq] at hStep
      have moves : Moves s (.registerMsg caller msgNo msgHandler) _ _ := .registered
      rw [hStep.2] at moves
      exact moves
  | deregisterMsg caller msgNo =>
      simp only [Option.ite_none_right_eq_some, Option.some.injEq] at hStep
      have moves : Moves s (.deregisterMsg caller msgNo) _ _ := .deregistered
      rw [hStep.2] at moves
      exact moves
  | reset component syscalls =>
      simp only [Option.ite_none_right_eq_some, Option.some.injEq] at hStep
      have moves : Moves s (.reset component syscalls) _ _ := .wasReset
      rw [hStep.2] at moves
      exact moves
  | exit rounds =>
      simp only [Option.ite_none_right_eq_some, Bool.and_eq_true, Option.some.injEq,
        Prod.mk.injEq] at hStep
      obtain ⟨⟨-, hRounds⟩, rfl, rfl⟩ := hStep
      exact .ended hRounds

end Thread

/-- One thread with its components, from its first step to its end. -/
def threadSystem (UserCallback EventHandlerFunc MsgHandler : Type) :
    TransitionSystem (Thread UserCallback EventHandlerFunc MsgHandler)
      (Action UserCallback EventHandlerFunc MsgHandler)
      (Output UserCallback EventHandlerFunc MsgHandler) where
  initial s := ∃ id now, s = .begin id now
  step := Thread.step

end Components
end UtilsFramework
