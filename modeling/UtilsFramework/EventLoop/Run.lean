import UtilsFramework.EventLoop.Handlers
import UtilsFramework.Library.TransitionSystem

/-!
# `EventLoopImpl::run` as a transition system

The thread that owns an event loop is a call stack over the state of the loop.
The frames are `run()` itself, a callback or a scheduled event (user code, which
may do anything the interface allows, in any order), and
`executeScheduledEvents` between two of them.  An empty stack is user code
outside `run()`.  Every point at which control passes between the loop, user
code and the kernel is a step of its own:

* `call` and `run` are user code calling the interface, from the owning thread
  or from any other;
* `userReturns` ends a callback or a scheduled event;
* `epollWaitReturns` is the kernel's answer to a blocked `epoll_wait`, either a
  batch whose events carry registered pointers, or one of the failures;
* `signalStop` is `stop()` in a signal handler of the owning thread;
* `proceed` is the loop's own next step.

`proceed` has no step where the source dereferences a released `FdHandler`:
the behaviour of the program is undefined from there on.
-/

namespace UtilsFramework
namespace EventLoop

open Library
open Library.Epoll

/-- The size of the event buffer in `run()`. -/
def maxEvents : Nat := 3

/-- Where `run()` stands. -/
inductive RunPhase
  /-- before `m_isRunning = true` -/
  | entered
  /-- at the condition of the loop -/
  | testing
  /-- before `m_removedFdHandlers.clear()` -/
  | clearing
  /-- before the call of `epoll_wait` -/
  | calling
  /-- inside `epoll_wait` -/
  | waiting
  /-- with the rest of the current batch to handle -/
  | handling (events : List (Event ObjectId))
deriving DecidableEq, Repr

inductive Frame (EventHandlerFunc : Type)
  | run (phase : RunPhase)
  | callback (object : ObjectId)
  | executeScheduledEvents
  | eventHandler (eventHandler : EventHandlerFunc)
deriving DecidableEq, Repr

/-- What `epoll_wait` returns: a positive count, `-1` with `EINTR`, or `-1`
with another error. -/
inductive WaitResult
  | events (events : List (Event ObjectId))
  | interrupted
  | failed
deriving DecidableEq, Repr

/-- The owning thread: the loop and the call stack, innermost frame first. -/
structure LoopThread (CallbackFunc EventHandlerFunc : Type) where
  loop : EventLoopImpl CallbackFunc EventHandlerFunc
  stack : List (Frame EventHandlerFunc)

inductive Action (CallbackFunc EventHandlerFunc : Type)
  | call (caller : ThreadId) (syscalls : Syscalls)
      (call : Call CallbackFunc EventHandlerFunc)
  | run (caller : ThreadId)
  | userReturns
  | epollWaitReturns (result : WaitResult)
  | signalStop
  | proceed
deriving DecidableEq, Repr

inductive Output (CallbackFunc EventHandlerFunc : Type)
  | returned (call : Call CallbackFunc EventHandlerFunc) (rc : ReturnCode)
  | runReturned (rc : ReturnCode)
  | enteredEpollWait
  | dispatched (callback : CallbackFunc) (fd : Fd) (eventMask : EventMask)
  | executed (eventHandler : EventHandlerFunc)
deriving DecidableEq, Repr

variable {CallbackFunc EventHandlerFunc : Type}

/-- User code is running on the owning thread. -/
def userCodeRuns : List (Frame EventHandlerFunc) → Bool
  | [] => true
  | .callback _ :: _ => true
  | .eventHandler _ :: _ => true
  | _ => false

namespace EventLoopImpl

/-- The object a pointer leads to, if some map still owns it. -/
def resolve (loop : EventLoopImpl CallbackFunc EventHandlerFunc) (object : ObjectId) :
    Option (FdHandler CallbackFunc) :=
  (UnorderedMap.findValue (fun handler => decide (handler.object = object))
    loop.fdHandlers).or
  (UnorderedMap.findValue (fun handler => decide (handler.object = object))
    loop.removedFdHandlers)

end EventLoopImpl

namespace LoopThread

/-- `handleEpollEvent`, up to the call of the callback: `dispatchEvent` and then
`executeScheduledEvents` are left on the stack. -/
def handleEpollEvent (s : LoopThread CallbackFunc EventHandlerFunc)
    (event : Event ObjectId) (below : List (Frame EventHandlerFunc)) :
    Option (LoopThread CallbackFunc EventHandlerFunc ×
      List (Output CallbackFunc EventHandlerFunc)) :=
  match s.loop.resolve event.data with
  -- the pointer dangles
  | none => none
  | some fdHandler =>
      let eventMask := convertToLocalEvents (event.events &&& fdHandler.epollEvents)
      if eventMask ≠ 0 then
        some ({ s with
            stack := .callback fdHandler.object :: .executeScheduledEvents :: below },
          [.dispatched fdHandler.callback fdHandler.fd eventMask])
      else some ({ s with stack := below }, [])

/-- The next step of `run()` in the given phase. -/
def proceedRun (s : LoopThread CallbackFunc EventHandlerFunc)
    (below : List (Frame EventHandlerFunc)) : RunPhase →
    Option (LoopThread CallbackFunc EventHandlerFunc ×
      List (Output CallbackFunc EventHandlerFunc))
  | .entered =>
      some ({ loop := { s.loop with isRunning := true }
              stack := .run .testing :: below }, [])
  | .testing =>
      -- the condition of the while loop
      if s.loop.isRunning && !s.loop.fdHandlers.entries.isEmpty then
        some ({ s with stack := .run .clearing :: below }, [])
      else some ({ s with stack := below }, [.runReturned .normal])
  | .clearing =>
      some ({ loop := { s.loop with removedFdHandlers := ∅ }
              stack := .run .calling :: below }, [])
  | .calling => some ({ s with stack := .run .waiting :: below }, [.enteredEpollWait])
  | .waiting => none
  | .handling [] => some ({ s with stack := .run .testing :: below }, [])
  | .handling (event :: rest) => s.handleEpollEvent event (.run (.handling rest) :: below)

/-- One turn of the loop in `executeScheduledEvents`. -/
def proceedScheduledEvents (s : LoopThread CallbackFunc EventHandlerFunc)
    (below : List (Frame EventHandlerFunc)) :
    LoopThread CallbackFunc EventHandlerFunc × List (Output CallbackFunc EventHandlerFunc) :=
  match s.loop.scheduledEvents with
  | [] => ({ s with stack := below }, [])
  | eventHandler :: rest =>
      -- it is popped before it is called
      ({ loop := { s.loop with scheduledEvents := rest }
         stack := .eventHandler eventHandler :: .executeScheduledEvents :: below },
        [.executed eventHandler])

/-- The answer of `epoll_wait` to a waiting `run()`. -/
def epollWaitReturns (s : LoopThread CallbackFunc EventHandlerFunc)
    (below : List (Frame EventHandlerFunc)) : WaitResult →
    Option (LoopThread CallbackFunc EventHandlerFunc ×
      List (Output CallbackFunc EventHandlerFunc))
  | .events events =>
      if batchFrom s.loop.interestList maxEvents events then
        some ({ s with stack := .run (.handling events) :: below }, [])
      else none
  | .interrupted => some ({ s with stack := .run .testing :: below }, [])
  | .failed => some ({ s with stack := below }, [.runReturned .internalFault])

def step (s : LoopThread CallbackFunc EventHandlerFunc) :
    Action CallbackFunc EventHandlerFunc →
    Option (LoopThread CallbackFunc EventHandlerFunc ×
      List (Output CallbackFunc EventHandlerFunc))
  | .call caller syscalls call =>
      if s.loop.threadId ≠ caller || userCodeRuns s.stack then
        let result := s.loop.perform caller syscalls call
        some ({ s with loop := result.2 }, [.returned call result.1])
      else none
  | .run caller =>
      if s.loop.threadId ≠ caller then some (s, [.runReturned .notThreadLocal])
      else if userCodeRuns s.stack then
        some ({ s with stack := .run .entered :: s.stack }, [])
      else none
  | .userReturns =>
      match s.stack with
      | .callback _ :: below => some ({ s with stack := below }, [])
      | .eventHandler _ :: below => some ({ s with stack := below }, [])
      | _ => none
  | .epollWaitReturns result =>
      match s.stack with
      | .run .waiting :: below => s.epollWaitReturns below result
      | _ => none
  | .signalStop =>
      let result := s.loop.stop s.loop.threadId
      some ({ s with loop := result.2 }, [.returned .stop result.1])
  | .proceed =>
      match s.stack with
      | .run phase :: below => s.proceedRun below phase
      | .executeScheduledEvents :: below => some (s.proceedScheduledEvents below)
      | _ => none

/-- What a step can do, one constructor for each way control can pass. -/
inductive Moves (s : LoopThread CallbackFunc EventHandlerFunc) :
    Action CallbackFunc EventHandlerFunc → LoopThread CallbackFunc EventHandlerFunc →
    List (Output CallbackFunc EventHandlerFunc) → Prop
  | call {caller : ThreadId} {syscalls : Syscalls}
      {call : Call CallbackFunc EventHandlerFunc} {rc : ReturnCode}
      {loop : EventLoopImpl CallbackFunc EventHandlerFunc}
      (hAllowed : s.loop.threadId ≠ caller ∨ userCodeRuns s.stack = true)
      (hPerform : s.loop.perform caller syscalls call = (rc, loop)) :
      Moves s (.call caller syscalls call) { s with loop := loop } [.returned call rc]
  | runElsewhere {caller : ThreadId} (hForeign : s.loop.threadId ≠ caller) :
      Moves s (.run caller) s [.runReturned .notThreadLocal]
  | runEnters {caller : ThreadId} (hThread : s.loop.threadId = caller)
      (hUser : userCodeRuns s.stack = true) :
      Moves s (.run caller) { s with stack := .run .entered :: s.stack } []
  | callbackReturns {object : ObjectId} {below : List (Frame EventHandlerFunc)}
      (hStack : s.stack = .callback object :: below) :
      Moves s .userReturns { s with stack := below } []
  | eventHandlerReturns {eventHandler : EventHandlerFunc}
      {below : List (Frame EventHandlerFunc)}
      (hStack : s.stack = .eventHandler eventHandler :: below) :
      Moves s .userReturns { s with stack := below } []
  | batch {events : List (Event ObjectId)} {below : List (Frame EventHandlerFunc)}
      (hStack : s.stack = .run .waiting :: below)
      (hBatch : batchFrom s.loop.interestList maxEvents events = true) :
      Moves s (.epollWaitReturns (.events events))
        { s with stack := .run (.handling events) :: below } []
  | interrupted {below : List (Frame EventHandlerFunc)}
      (hStack : s.stack = .run .waiting :: below) :
      Moves s (.epollWaitReturns .interrupted)
        { s with stack := .run .testing :: below } []
  | failed {below : List (Frame EventHandlerFunc)}
      (hStack : s.stack = .run .waiting :: below) :
      Moves s (.epollWaitReturns .failed) { s with stack := below }
        [.runReturned .internalFault]
  | signalStop :
      Moves s .signalStop { s with loop := { s.loop with isRunning := false } }
        [.returned .stop .normal]
  | setsRunning {below : List (Frame EventHandlerFunc)}
      (hStack : s.stack = .run .entered :: below) :
      Moves s .proceed
        { loop := { s.loop with isRunning := true }, stack := .run .testing :: below } []
  | goesOn {below : List (Frame EventHandlerFunc)}
      (hStack : s.stack = .run .testing :: below) (hRunning : s.loop.isRunning = true)
      (hHandlers : s.loop.fdHandlers.entries ≠ []) :
      Moves s .proceed { s with stack := .run .clearing :: below } []
  | leaves {below : List (Frame EventHandlerFunc)}
      (hStack : s.stack = .run .testing :: below)
      (hStop : s.loop.isRunning = false ∨ s.loop.fdHandlers.entries = []) :
      Moves s .proceed { s with stack := below } [.runReturned .normal]
  | clears {below : List (Frame EventHandlerFunc)}
      (hStack : s.stack = .run .clearing :: below) :
      Moves s .proceed
        { loop := { s.loop with removedFdHandlers := ∅ }, stack := .run .calling :: below }
        []
  | waits {below : List (Frame EventHandlerFunc)}
      (hStack : s.stack = .run .calling :: below) :
      Moves s .proceed { s with stack := .run .waiting :: below } [.enteredEpollWait]
  | batchDone {below : List (Frame EventHandlerFunc)}
      (hStack : s.stack = .run (.handling []) :: below) :
      Moves s .proceed { s with stack := .run .testing :: below } []
  | dispatches {event : Event ObjectId} {rest : List (Event ObjectId)}
      {below : List (Frame EventHandlerFunc)} {fdHandler : FdHandler CallbackFunc}
      (hStack : s.stack = .run (.handling (event :: rest)) :: below)
      (hResolve : s.loop.resolve event.data = some fdHandler)
      (hMask : convertToLocalEvents (event.events &&& fdHandler.epollEvents) ≠ 0) :
      Moves s .proceed
        { s with
          stack := .callback fdHandler.object :: .executeScheduledEvents ::
            .run (.handling rest) :: below }
        [.dispatched fdHandler.callback fdHandler.fd
          (convertToLocalEvents (event.events &&& fdHandler.epollEvents))]
  | skips {event : Event ObjectId} {rest : List (Event ObjectId)}
      {below : List (Frame EventHandlerFunc)} {fdHandler : FdHandler CallbackFunc}
      (hStack : s.stack = .run (.handling (event :: rest)) :: below)
      (hResolve : s.loop.resolve event.data = some fdHandler)
      (hMask : convertToLocalEvents (event.events &&& fdHandler.epollEvents) = 0) :
      Moves s .proceed { s with stack := .run (.handling rest) :: below } []
  | drained {below : List (Frame EventHandlerFunc)}
      (hStack : s.stack = .executeScheduledEvents :: below)
      (hQueue : s.loop.scheduledEvents = []) :
      Moves s .proceed { s with stack := below } []
  | executes {eventHandler : EventHandlerFunc} {rest : List EventHandlerFunc}
      {below : List (Frame EventHandlerFunc)}
      (hStack : s.stack = .executeScheduledEvents :: below)
      (hQueue : s.loop.scheduledEvents = eventHandler :: rest) :
      Moves s .proceed
        { loop := { s.loop with scheduledEvents := rest }
          stack := .eventHandler eventHandler :: .executeScheduledEvents :: below }
        [.executed eventHandler]

theorem handleEpollEvent_moves {s t : LoopThread CallbackFunc EventHandlerFunc}
    {event : Event ObjectId} {rest : List (Event ObjectId)}
    {below : List (Frame EventHandlerFunc)}
    {new : List (Output CallbackFunc EventHandlerFunc)}
    (hStack : s.stack = .run (.handling (event :: rest)) :: below)
    (hHandle : s.handleEpollEvent event (.run (.handling rest) :: below) =
      some (t, new)) :
    Moves s .proceed t new := by
  unfold handleEpollEvent at hHandle
  split at hHandle
  · cases hHandle
  · rename_i fdHandler hResolve
    dsimp only at hHandle
    split at hHandle
    · rename_i hMask
      cases hHandle
      exact .dispatches hStack hResolve hMask
    · rename_i hMask
      cases hHandle
      exact .skips hStack hResolve (not_ne_iff.mp hMask)

theorem proceedRun_moves {s t : LoopThread CallbackFunc EventHandlerFunc}
    {phase : RunPhase} {below : List (Frame EventHandlerFunc)}
    {new : List (Output CallbackFunc EventHandlerFunc)}
    (hStack : s.stack = .run phase :: below)
    (hProceed : s.proceedRun below phase = some (t, new)) :
    Moves s .proceed t new := by
  cases phase with
  | entered =>
      cases hProceed
      exact .setsRunning hStack
  | testing =>
      simp only [proceedRun] at hProceed
      split at hProceed
      · rename_i hGoOn
        cases hProceed
        simp only [Bool.and_eq_true, Bool.not_eq_true', List.isEmpty_eq_false_iff]
          at hGoOn
        exact .goesOn hStack hGoOn.1 hGoOn.2
      · rename_i hStop
        cases hProceed
        refine .leaves hStack ?_
        simpa only [Bool.and_eq_true, Bool.not_eq_true', List.isEmpty_eq_false_iff,
          not_and_or, Bool.not_eq_true, not_ne_iff] using hStop
  | clearing =>
      cases hProceed
      exact .clears hStack
  | calling =>
      cases hProceed
      exact .waits hStack
  | waiting => cases hProceed
  | handling events =>
      cases events with
      | nil =>
          cases hProceed
          exact .batchDone hStack
      | cons event rest => exact handleEpollEvent_moves hStack hProceed

/-- Every step is one of the moves. -/
theorem moves_of_step {s t : LoopThread CallbackFunc EventHandlerFunc}
    {action : Action CallbackFunc EventHandlerFunc}
    {new : List (Output CallbackFunc EventHandlerFunc)}
    (hStep : s.step action = some (t, new)) : Moves s action t new := by
  cases action with
  | call caller syscalls call =>
      simp only [step, Option.ite_none_right_eq_some, Bool.or_eq_true,
        decide_eq_true_eq] at hStep
      obtain ⟨hAllowed, hEq⟩ := hStep
      cases hEq
      exact .call hAllowed rfl
  | run caller =>
      simp only [step] at hStep
      split at hStep
      · rename_i hForeign
        cases hStep
        exact .runElsewhere hForeign
      · rename_i hThread
        split at hStep
        · rename_i hUser
          cases hStep
          exact .runEnters (not_ne_iff.mp hThread) hUser
        · cases hStep
  | userReturns =>
      simp only [step] at hStep
      split at hStep
      · rename_i hStack
        cases hStep
        exact .callbackReturns hStack
      · rename_i hStack
        cases hStep
        exact .eventHandlerReturns hStack
      · cases hStep
  | epollWaitReturns result =>
      simp only [step] at hStep
      split at hStep
      · rename_i hStack
        cases result with
        | events events =>
            simp only [epollWaitReturns, Option.ite_none_right_eq_some] at hStep
            obtain ⟨hBatch, hEq⟩ := hStep
            cases hEq
            exact .batch hStack hBatch
        | interrupted =>
            cases hStep
            exact .interrupted hStack
        | failed =>
            cases hStep
            exact .failed hStack
      · cases hStep
  | signalStop =>
      simp only [step, EventLoopImpl.stop, ne_eq, not_true_eq_false, if_false] at hStep
      cases hStep
      exact .signalStop
  | proceed =>
      simp only [step] at hStep
      split at hStep
      · rename_i hStack
        exact proceedRun_moves hStack hStep
      · rename_i hStack
        unfold proceedScheduledEvents at hStep
        split at hStep
        · rename_i hQueue
          cases hStep
          exact .drained hStack hQueue
        · rename_i hQueue
          cases hStep
          exact .executes hStack hQueue
      · cases hStep

/-- Apart from the calls of the interface, no step edits the handler map, the
interest list or the address counter. -/
theorem Moves.keeps_registry {s t : LoopThread CallbackFunc EventHandlerFunc}
    {action : Action CallbackFunc EventHandlerFunc}
    {new : List (Output CallbackFunc EventHandlerFunc)} (moves : Moves s action t new)
    (hNotCall : ∀ caller syscalls call, action ≠ .call caller syscalls call) :
    t.loop.fdHandlers = s.loop.fdHandlers ∧
      t.loop.interestList = s.loop.interestList ∧
      t.loop.nextObject = s.loop.nextObject := by
  cases moves with
  | call => exact absurd rfl (hNotCall _ _ _)
  | _ => exact ⟨rfl, rfl, rfl⟩

end LoopThread

/-- The event loop of one thread, from the construction of its instance. -/
def runSystem (CallbackFunc EventHandlerFunc : Type) :
    TransitionSystem (LoopThread CallbackFunc EventHandlerFunc)
      (Action CallbackFunc EventHandlerFunc) (Output CallbackFunc EventHandlerFunc) where
  initial s := ∃ threadId, s = { loop := .construct threadId, stack := [] }
  step := LoopThread.step

end EventLoop
end UtilsFramework
