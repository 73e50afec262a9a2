import UtilsFramework.Library.TransitionSystem

/-!
# The thread of an Active Object

Any thread may call `scheduleFunction`, which puts a function into `m_funcQueue`
under the mutex and then adds one to a semaphore eventfd.  The thread of the
Active Object runs an event loop whose handler for the eventfd, `handleFdEvent`,
reads one token, takes the first function and calls it.  The destructor either
schedules `stopEventLoop` behind the pending functions and joins the thread, or,
on the thread of the Active Object itself, detaches it and stops at once.

Every access to the queue and to the eventfd is a step of its own, so all
threads interleave freely.  The activations of `run()` and of `handleFdEvent` on
the thread of the Active Object form a stack, because user code may call `run()`
again.  Reads and writes of the eventfd succeed, and `epoll_wait` fails only
when interrupted.
-/

namespace UtilsFramework
namespace ActiveObject

open Library

abbrev ThreadId := Nat

/-- A function object in the queue: an empty one, one of a client, or the
`stopEventLoop` that the destructor binds. -/
inductive AOFunc (Func : Type)
  | empty
  | function (func : Func)
  | stopEventLoop
deriving DecidableEq, Repr

/-- How far an activation of `handleFdEvent` has come.  While `finishing`, its
copy of the function object is destroyed. -/
inductive HandlerPhase (Func : Type)
  | reading
  | dequeuing
  | calling (func : AOFunc Func)
  | running
  | finishing
deriving DecidableEq, Repr

/-- An activation on the thread of the Active Object.  A `run()` knows whether
its current batch holds an event of the eventfd that is still to be handled. -/
inductive Frame (Func : Type)
  | run (eventPending : Bool)
  | handleFdEvent (phase : HandlerPhase Func)
deriving DecidableEq, Repr

/-- How far `mainFunction` has come: before `addFdHandler`, in `initFunc`, in
`run()`, and behind it. -/
inductive MainPhase
  | starting
  | initializing
  | looping
  | left
deriving DecidableEq, Repr

/-- References to the Active Object exist, a client destroys it and joins, or it
was destroyed on its own thread. -/
inductive Lifecycle
  | shared
  | joining
  | detached
deriving DecidableEq, Repr

/-- The queue, the counter of the eventfd, the threads between
`enqueueFunction` and `write`, and the thread of the Active Object with what
concerns it of its event loop: `m_isRunning` and whether the handler of the
eventfd is registered. -/
structure ActiveObjectThread (Func : Type) where
  aoThread : ThreadId
  funcQueue : List (AOFunc Func)
  eventFd : Nat
  scheduling : List ThreadId
  phase : MainPhase
  stack : List (Frame Func)
  isRunning : Bool
  registered : Bool
  lifecycle : Lifecycle
deriving DecidableEq, Repr

inductive Action (Func : Type)
  | executeFunction (thread : ThreadId) (func : Option Func)
  | write (thread : ThreadId)
  | addFdHandler
  | run
  | epollWaitReturns (readable : Bool)
  | handleEpollEvent
  | read
  | dequeueFunction
  | call
  | functionReturns
  | handleFdEventReturns
  | leaveRun
  | releaseOnClient (thread : ThreadId)
  | releaseOnAoThread
deriving DecidableEq, Repr

inductive Output (Func : Type)
  | enqueued (func : AOFunc Func)
  | dequeued (func : AOFunc Func)
  | called (func : Func)
  | dropped (funcs : List (AOFunc Func))
  | leftRun
deriving DecidableEq, Repr

variable {Func : Type}

namespace ActiveObjectThread

/-- The state after `start`, with a thread that has not done anything. -/
def start (aoThread : ThreadId) : ActiveObjectThread Func where
  aoThread := aoThread
  funcQueue := []
  eventFd := 0
  scheduling := []
  phase := .starting
  stack := []
  isRunning := false
  registered := false
  lifecycle := .shared

/-- User code runs on the thread of the Active Object: `initFunc`, a scheduled
function or the destructor of one, or another callback of the loop. -/
def userCodeRuns (s : ActiveObjectThread Func) : Bool :=
  match s.phase, s.stack with
  | .initializing, _ => true
  | .looping, .run _ :: _ => true
  | .looping, .handleFdEvent .running :: _ => true
  | .looping, .handleFdEvent .finishing :: _ => true
  | _, _ => false

/-- The thread of the Active Object is not itself about to `write`. -/
def aoThreadFree (s : ActiveObjectThread Func) : Bool :=
  !s.scheduling.contains s.aoThread

/-- `func` as `std::function` holds it. -/
def toAOFunc : Option Func → AOFunc Func
  | none => .empty
  | some func => .function func

/-- `enqueueFunction`, after which `thread` is to `write`. -/
def enqueueFunction (s : ActiveObjectThread Func) (thread : ThreadId)
    (func : AOFunc Func) : ActiveObjectThread Func :=
  { s with
    funcQueue := s.funcQueue ++ [func]
    scheduling := thread :: s.scheduling }

/-- The `write` in `scheduleFunction`. -/
def writeOne (s : ActiveObjectThread Func) (thread : ThreadId) :
    ActiveObjectThread Func :=
  { s with
    eventFd := s.eventFd + 1
    scheduling := s.scheduling.erase thread }

def stopEventLoop (s : ActiveObjectThread Func) : ActiveObjectThread Func :=
  { s with registered := false, isRunning := false }

/-- The function taken from the queue, or an empty one. -/
def dequeueFunction (s : ActiveObjectThread Func) :
    AOFunc Func × ActiveObjectThread Func × List (Output Func) :=
  match s.funcQueue with
  | [] => (.empty, s, [])
  | func :: rest => (func, { s with funcQueue := rest }, [.dequeued func])

/-- The destructor on the thread of the Active Object: it stops the loop, closes
the eventfd, and the queue is destroyed with the object. -/
def destructOnAoThread (s : ActiveObjectThread Func) : ActiveObjectThread Func :=
  { s.stopEventLoop with
    funcQueue := []
    eventFd := 0
    lifecycle := .detached }

/-- The next step of the activation of `handleFdEvent` on top of `below`. -/
def handleFdEventStep (s : ActiveObjectThread Func) (below : List (Frame Func)) :
    HandlerPhase Func → Action Func →
    Option (ActiveObjectThread Func × List (Output Func))
  | .reading, .read =>
      if 0 < s.eventFd then
        some ({ s with
          eventFd := s.eventFd - 1
          stack := .handleFdEvent .dequeuing :: below }, [])
      -- `read` blocks
      else none
  | .dequeuing, .dequeueFunction =>
      let (func, s, new) := s.dequeueFunction
      some ({ s with stack := .handleFdEvent (.calling func) :: below }, new)
  -- an empty function object is skipped
  | .calling .empty, .call =>
      some ({ s with stack := .handleFdEvent .finishing :: below }, [])
  | .calling (.function func), .call =>
      some ({ s with stack := .handleFdEvent .running :: below }, [.called func])
  | .calling .stopEventLoop, .call =>
      some ({ s.stopEventLoop with stack := .handleFdEvent .finishing :: below }, [])
  | .running, .functionReturns =>
      some ({ s with stack := .handleFdEvent .finishing :: below }, [])
  | .finishing, .handleFdEventReturns => some ({ s with stack := below }, [])
  | _, _ => none

/-- The next step of the activation of `run()` on top of `below`. -/
def runStep (s : ActiveObjectThread Func) (below : List (Frame Func)) :
    Bool → Action Func → Option (ActiveObjectThread Func × List (Output Func))
  | false, .epollWaitReturns readable =>
      if s.isRunning && (!readable || (s.registered && decide (0 < s.eventFd))) then
        some ({ s with stack := .run readable :: below }, [])
      else none
  | true, .handleEpollEvent =>
      -- the event of a removed handler is skipped
      if s.registered then
        some ({ s with stack := .handleFdEvent .reading :: .run false :: below }, [])
      else some ({ s with stack := .run false :: below }, [])
  | false, .leaveRun =>
      -- without the handler of the eventfd others may remain or not
      if !s.isRunning || !s.registered then
        match below with
        | [] => some ({ s with stack := [], phase := .left }, [.leftRun])
        | _ :: _ => some ({ s with stack := below }, [])
      else none
  | _, _ => none

/-- A step of the thread of the Active Object that is not a call of its user
code. -/
def aoThreadStep (s : ActiveObjectThread Func) (action : Action Func) :
    Option (ActiveObjectThread Func × List (Output Func)) :=
  match s.stack with
  | .run eventPending :: below => s.runStep below eventPending action
  | .handleFdEvent phase :: below => s.handleFdEventStep below phase action
  | [] => none

def step (s : ActiveObjectThread Func) :
    Action Func → Option (ActiveObjectThread Func × List (Output Func))
  | .executeFunction thread func =>
      -- the caller holds a reference
      if s.lifecycle = .shared && !s.scheduling.contains thread &&
          (thread ≠ s.aoThread || s.userCodeRuns) then
        some (s.enqueueFunction thread (toAOFunc func), [.enqueued (toAOFunc func)])
      else none
  | .write thread =>
      if s.scheduling.contains thread then some (s.writeOne thread, []) else none
  | .addFdHandler =>
      -- `mainFunction` goes on with `initFunc`
      if s.phase = .starting then
        some ({ s with phase := .initializing, registered := true }, [])
      else none
  | .run =>
      -- `mainFunction` behind `initFunc`, or user code that enters it again
      if s.userCodeRuns && s.aoThreadFree then
        some ({ s with
          phase := .looping
          isRunning := true
          stack := .run false :: s.stack }, [])
      else none
  | .releaseOnClient thread =>
      -- no call of `executeFunction` is under way without a reference
      if s.lifecycle = .shared && s.scheduling.isEmpty && thread ≠ s.aoThread then
        some ({ s.enqueueFunction thread .stopEventLoop with lifecycle := .joining },
          [.enqueued .stopEventLoop])
      else none
  | .releaseOnAoThread =>
      if s.lifecycle = .shared && s.scheduling.isEmpty && s.userCodeRuns then
        some (s.destructOnAoThread, [.dropped s.funcQueue])
      else none
  | action => if s.aoThreadFree then s.aoThreadStep action else none

/-! ## What a step can do -/

/-- The steps that touch neither the queue nor the eventfd: those of the loop and
of `handleFdEvent` between its accesses. -/
inductive LoopMoves (s : ActiveObjectThread Func) :
    Action Func → ActiveObjectThread Func → Prop
  | registered (hPhase : s.phase = .starting) :
      LoopMoves s .addFdHandler { s with phase := .initializing, registered := true }
  | entered (hUser : s.userCodeRuns = true) :
      LoopMoves s .run { s with
        phase := .looping, isRunning := true, stack := .run false :: s.stack }
  | waited {readable : Bool} {below : List (Frame Func)}
      (hStack : s.stack = .run false :: below)
      (hReadable : readable = true → s.registered = true ∧ 0 < s.eventFd) :
      LoopMoves s (.epollWaitReturns readable) { s with stack := .run readable :: below }
  | dispatched {below : List (Frame Func)} (hStack : s.stack = .run true :: below)
      (hRegistered : s.registered = true) :
      LoopMoves s .handleEpollEvent
        { s with stack := .handleFdEvent .reading :: .run false :: below }
  | skipped {below : List (Frame Func)} (hStack : s.stack = .run true :: below)
      (hRemoved : s.registered = false) :
      LoopMoves s .handleEpollEvent { s with stack := .run false :: below }
  | calledEmpty {below : List (Frame Func)}
      (hStack : s.stack = .handleFdEvent (.calling .empty) :: below) :
      LoopMoves s .call { s with stack := .handleFdEvent .finishing :: below }
  | stopped {below : List (Frame Func)}
      (hStack : s.stack = .handleFdEvent (.calling .stopEventLoop) :: below) :
      LoopMoves s .call
        { s.stopEventLoop with stack := .handleFdEvent .finishing :: below }
  | functionReturned {below : List (Frame Func)}
      (hStack : s.stack = .handleFdEvent .running :: below) :
      LoopMoves s .functionReturns { s with stack := .handleFdEvent .finishing :: below }
  | handlerReturned {below : List (Frame Func)}
      (hStack : s.stack = .handleFdEvent .finishing :: below) :
      LoopMoves s .handleFdEventReturns { s with stack := below }
  | leftNested {frame : Frame Func} {below : List (Frame Func)}
      (hStack : s.stack = .run false :: frame :: below) :
      LoopMoves s .leaveRun { s with stack := frame :: below }

/-- The steps by what they do. -/
inductive Moves (s : ActiveObjectThread Func) :
    Action Func → ActiveObjectThread Func → List (Output Func) → Prop
  | scheduled {thread : ThreadId} {func : Option Func} (hShared : s.lifecycle = .shared)
      (hThread : thread ∉ s.scheduling)
      (hUser : thread = s.aoThread → s.userCodeRuns = true) :
      Moves s (.executeFunction thread func) (s.enqueueFunction thread (toAOFunc func))
        [.enqueued (toAOFunc func)]
  | wrote {thread : ThreadId} (hThread : thread ∈ s.scheduling) :
      Moves s (.write thread) (s.writeOne thread) []
  | looped {action : Action Func} {t : ActiveObjectThread Func}
      (moves : LoopMoves s action t) :
      Moves s action t []
  | read {below : List (Frame Func)} (hStack : s.stack = .handleFdEvent .reading :: below)
      (hCounter : 0 < s.eventFd) :
      Moves s .read { s with
        eventFd := s.eventFd - 1, stack := .handleFdEvent .dequeuing :: below } []
  | dequeued {func : AOFunc Func} {rest : List (AOFunc Func)} {below : List (Frame Func)}
      (hStack : s.stack = .handleFdEvent .dequeuing :: below)
      (hQueue : s.funcQueue = func :: rest) :
      Moves s .dequeueFunction { s with
        funcQueue := rest, stack := .handleFdEvent (.calling func) :: below }
        [.dequeued func]
  | foundEmpty {below : List (Frame Func)}
      (hStack : s.stack = .handleFdEvent .dequeuing :: below) (hQueue : s.funcQueue = []) :
      Moves s .dequeueFunction
        { s with stack := .handleFdEvent (.calling .empty) :: below } []
  | called {func : Func} {below : List (Frame Func)}
      (hStack : s.stack = .handleFdEvent (.calling (.function func)) :: below) :
      Moves s .call { s with stack := .handleFdEvent .running :: below } [.called func]
  | left (hStack : s.stack = [.run false])
      (hStopped : s.isRunning = false ∨ s.registered = false) :
      Moves s .leaveRun { s with stack := [], phase := .left } [.leftRun]
  | releasedOnClient {thread : ThreadId} (hShared : s.lifecycle = .shared)
      (hIdle : s.scheduling = []) (hThread : thread ≠ s.aoThread) :
      Moves s (.releaseOnClient thread)
        { s.enqueueFunction thread .stopEventLoop with lifecycle := .joining }
        [.enqueued .stopEventLoop]
  | releasedOnAoThread (hShared : s.lifecycle = .shared) (hIdle : s.scheduling = [])
      (hUser : s.userCodeRuns = true) :
      Moves s .releaseOnAoThread s.destructOnAoThread [.dropped s.funcQueue]

theorem moves_of_handleFdEventStep {s t : ActiveObjectThread Func}
    {action : Action Func} {new : List (Output Func)} {phase : HandlerPhase Func}
    {below : List (Frame Func)} (hStack : s.stack = .handleFdEvent phase :: below)
    (hStep : s.handleFdEventStep below phase action = some (t, new)) :
    Moves s action t new := by
  unfold handleFdEventStep at hStep
  split at hStep
  · split at hStep
    · rename_i hCounter
      obtain ⟨rfl, rfl⟩ := by simpa using hStep
      exact .read hStack hCounter
    · cases hStep
  · cases hQueue : s.funcQueue with
    | nil =>
        simp only [dequeueFunction, hQueue, Option.some.injEq, Prod.mk.injEq] at hStep
        obtain ⟨rfl, rfl⟩ := hStep
        exact hQueue ▸ .foundEmpty hStack hQueue
    | cons func rest =>
        simp only [dequeueFunction, hQueue, Option.some.injEq, Prod.mk.injEq] at hStep
        obtain ⟨rfl, rfl⟩ := hStep
        exact .dequeued hStack hQueue
  · obtain ⟨rfl, rfl⟩ := by simpa using hStep
    exact .looped (.calledEmpty hStack)
  · obtain ⟨rfl, rfl⟩ := by simpa using hStep
    exact .called hStack
  · obtain ⟨rfl, rfl⟩ := by simpa using hStep
    exact .looped (.stopped hStack)
  · obtain ⟨rfl, rfl⟩ := by simpa using hStep
    exact .looped (.functionReturned hStack)
  · obtain ⟨rfl, rfl⟩ := by simpa using hStep
    exact .looped (.handlerReturned hStack)
  · cases hStep

theorem moves_of_runStep {s t : ActiveObjectThread Func} {action : Action Func}
    {new : List (Output Func)} {eventPending : Bool} {below : List (Frame Func)}
    (hStack : s.stack = .run eventPending :: below)
    (hStep : s.runStep below eventPending action = some (t, new)) :
    Moves s action t new := by
  unfold runStep at hStep
  split at hStep
  · rename_i readable
    split at hStep
    · rename_i hWaits
      obtain ⟨rfl, rfl⟩ := by simpa using hStep
      refine .looped (.waited hStack ?_)
      rintro rfl
      simpa using (Bool.and_eq_true_iff.mp hWaits).2
    · cases hStep
  · split at hStep
    · rename_i hRegistered
      obtain ⟨rfl, rfl⟩ := by simpa using hStep
      exact .looped (.dispatched hStack hRegistered)
    · rename_i hRemoved
      obtain ⟨rfl, rfl⟩ := by simpa using hStep
      exact .looped (.skipped hStack (by simpa using hRemoved))
  · split at hStep
    · rename_i hStopped
      split at hStep
      · obtain ⟨rfl, rfl⟩ := by simpa using hStep
        exact .left hStack (by simpa using hStopped)
      · obtain ⟨rfl, rfl⟩ := by simpa using hStep
        exact .looped (.leftNested hStack)
    · cases hStep
  · cases hStep

theorem moves_of_aoThreadStep {s t : ActiveObjectThread Func} {action : Action Func}
    {new : List (Output Func)}
    (hStep : (if s.aoThreadFree then s.aoThreadStep action else none) = some (t, new)) :
    Moves s action t new := by
  split at hStep
  · unfold aoThreadStep at hStep
    split at hStep
    · rename_i hStack
      exact moves_of_runStep hStack hStep
    · rename_i hStack
      exact moves_of_handleFdEventStep hStack hStep
    · cases hStep
  · cases hStep

theorem moves_of_step {s t : ActiveObjectThread Func} {action : Action Func}
    {new : List (Output Func)} (hStep : s.step action = some (t, new)) :
    Moves s action t new := by
  cases action with
  | executeFunction thread func =>
      simp only [step] at hStep
      split at hStep
      · rename_i hGuard
        obtain ⟨rfl, rfl⟩ := by simpa using hStep
        simp only [Bool.and_eq_true, decide_eq_true_eq, Bool.not_eq_true',
          List.contains_eq_mem, decide_eq_false_iff_not, Bool.or_eq_true] at hGuard
        refine .scheduled hGuard.1.1 hGuard.1.2 fun hSame => ?_
        exact hGuard.2.resolve_left (not_not.mpr hSame)
      · cases hStep
  | write thread =>
      simp only [step] at hStep
      split at hStep
      · rename_i hThread
        obtain ⟨rfl, rfl⟩ := by simpa using hStep
        exact .wrote (by simpa using hThread)
      · cases hStep
  | addFdHandler =>
      simp only [step] at hStep
      split at hStep
      · rename_i hPhase
        obtain ⟨rfl, rfl⟩ := by simpa using hStep
        exact .looped (.registered hPhase)
      · cases hStep
  | run =>
      simp only [step] at hStep
      split at hStep
      · rename_i hGuard
        obtain ⟨rfl, rfl⟩ := by simpa using hStep
        exact .looped (.entered (Bool.and_eq_true_iff.mp hGuard).1)
      · cases hStep
  | releaseOnClient thread =>
      simp only [step] at hStep
      split at hStep
      · rename_i hGuard
        obtain ⟨rfl, rfl⟩ := by simpa using hStep
        simp only [Bool.and_eq_true, decide_eq_true_eq, List.isEmpty_iff] at hGuard
        exact .releasedOnClient hGuard.1.1 hGuard.1.2 hGuard.2
      · cases hStep
  | releaseOnAoThread =>
      simp only [step] at hStep
      split at hStep
      · rename_i hGuard
        obtain ⟨rfl, rfl⟩ := by simpa using hStep
        simp only [Bool.and_eq_true, decide_eq_true_eq, List.isEmpty_iff] at hGuard
        exact .releasedOnAoThread hGuard.1.1 hGuard.1.2 hGuard.2
      · cases hStep
  | epollWaitReturns readable => exact moves_of_aoThreadStep hStep
  | handleEpollEvent => exact moves_of_aoThreadStep hStep
  | read => exact moves_of_aoThreadStep hStep
  | dequeueFunction => exact moves_of_aoThreadStep hStep
  | call => exact moves_of_aoThreadStep hStep
  | functionReturns => exact moves_of_aoThreadStep hStep
  | handleFdEventReturns => exact moves_of_aoThreadStep hStep
  | leaveRun => exact moves_of_aoThreadStep hStep

end ActiveObjectThread

/-- The Active Object with its own thread and any number of others. -/
def aoSystem (Func : Type) :
    TransitionSystem (ActiveObjectThread Func) (Action Func) (Output Func) where
  initial s := ∃ aoThread, s = .start aoThread
  step := ActiveObjectThread.step

end ActiveObject
end UtilsFramework
