import UtilsFramework.ActiveObject.Creation
import UtilsFramework.EventLoop.RegisteredHandlers

/-!
# An Active Object on its event loop

The model of the thread of an Active Object has of the event loop what the object
needs of it.  Here the thread runs the event loop itself: `mainFunction` registers
the eventfd and calls `run()`, user code on the thread may use the loop in any
way, with descriptors and scheduled events of its own, and `handleFdEvent` is the
callback the loop dispatches for the eventfd.  What the kernel reports of the
eventfd follows from its counter.

`initFunc` does not itself call `run()`.  From the end of `mainFunction` on the loop
is gone and nobody uses it.
-/

namespace UtilsFramework
namespace ActiveObject

open Library
open Library.Epoll (Event epollIn)
open EventLoop (EventLoopImpl LoopThread Fd ObjectId Syscalls fdEventIn)

/-- What is registered with the event loop of the thread: a function of a user, or
the `fdHandler` that `start` has bound to the object. -/
inductive Callback (UserCallback : Type)
  | user (callback : UserCallback)
  | handleFdEvent
deriving DecidableEq, Repr

/-- The object, the eventfd with its counter, and the thread with its event loop.
`activations` has an entry for each callback on the call stack, innermost first,
with how far it has come if it is `handleFdEvent`. -/
structure HostedObject (UserCallback EventHandlerFunc Func : Type) where
  host : LoopThread (Callback UserCallback) EventHandlerFunc
  activations : List (Option (HandlerPhase Func))
  phase : MainPhase
  funcQueue : List (AOFunc Func)
  counter : Nat
  scheduling : List ThreadId
  lifecycle : Lifecycle
  eventFd : Fd
  eventFdOpen : Bool

inductive HostedAction (UserCallback EventHandlerFunc Func : Type)
  | executeFunction (thread : ThreadId) (func : Option Func)
  | write (thread : ThreadId)
  /-- `mainFunction` registers the eventfd -/
  | addFdHandler (syscalls : Syscalls)
  /-- `mainFunction` calls `run()` -/
  | enterRun
  | loop (action : EventLoop.Action (Callback UserCallback) EventHandlerFunc)
  | read
  | dequeueFunction
  | call (syscalls : Syscalls)
  | functionReturns
  | releaseOnClient (thread : ThreadId)
  | releaseOnAoThread (syscalls : Syscalls)
  | joinReturns
deriving DecidableEq, Repr

inductive HostedOutput (UserCallback EventHandlerFunc Func : Type)
  | object (output : ObjectOutput Func)
  | loop (output : EventLoop.Output (Callback UserCallback) EventHandlerFunc)
deriving DecidableEq, Repr

variable {UserCallback EventHandlerFunc Func : Type}

namespace HostedObject

/-- `create`, with the new thread before its first step. -/
def create (aoThread : ThreadId) (eventFd : Fd) :
    Option (HostedObject UserCallback EventHandlerFunc Func) :=
  if eventFd = -1 then none
  else some {
    host := ⟨.construct aoThread, []⟩
    activations := []
    phase := .starting
    funcQueue := []
    counter := 0
    scheduling := []
    lifecycle := .shared
    eventFd := eventFd
    eventFdOpen := true }

variable (s : HostedObject UserCallback EventHandlerFunc Func)

def aoThread : ThreadId := s.host.loop.threadId

/-- The thread of the Active Object is not itself about to `write`. -/
def aoThreadFree : Bool := !s.scheduling.contains s.aoThread

/-- User code runs on the thread of the Active Object. -/
def userCodeRuns : Bool :=
  match s.phase, s.host.stack, s.activations with
  | .initializing, _, _ => true
  | .looping, .callback _ :: _, none :: _ => true
  | .looping, .callback _ :: _, some .running :: _ => true
  | .looping, .callback _ :: _, some .finishing :: _ => true
  | .looping, .eventHandler _ :: _, _ => true
  | _, _, _ => false

/-- A scheduled function runs; it returns into `handleFdEvent`. -/
def functionRuns : Bool :=
  match s.host.stack, s.activations with
  | .callback _ :: _, some .running :: _ => true
  | _, _ => false

def enqueueFunction (thread : ThreadId) (func : AOFunc Func) :
    HostedObject UserCallback EventHandlerFunc Func :=
  { s with
    funcQueue := s.funcQueue ++ [func]
    scheduling := thread :: s.scheduling }

/-- The `write` in `scheduleFunction`. -/
def writeOne (thread : ThreadId) : HostedObject UserCallback EventHandlerFunc Func :=
  { s with
    counter := s.counter + 1
    scheduling := s.scheduling.erase thread }

/-- `removeFdHandler` and `stop` on the loop of the thread. -/
def stopEventLoop (syscalls : Syscalls) : HostedObject UserCallback EventHandlerFunc Func :=
  let loop := (s.host.loop.removeFdHandler s.aoThread syscalls s.eventFd).2
  { s with host := { s.host with loop := (loop.stop s.aoThread).2 } }

/-- The function taken from the queue, or an empty one. -/
def dequeueFunction : AOFunc Func × HostedObject UserCallback EventHandlerFunc Func ×
    List (HostedOutput UserCallback EventHandlerFunc Func) :=
  match s.funcQueue with
  | [] => (.empty, s, [])
  | func :: rest =>
      (func, { s with funcQueue := rest }, [.object (.active (.dequeued func))])

/-- `close` at the end of the destructor; the kernel forgets a closed descriptor. -/
def closeEventFd : HostedObject UserCallback EventHandlerFunc Func ×
    List (HostedOutput UserCallback EventHandlerFunc Func) :=
  ({ s with
      host := { s.host with loop := { s.host.loop with
        interestList := s.host.loop.interestList.erase s.eventFd } }
      funcQueue := []
      eventFdOpen := false },
    [.object (.active (.dropped s.funcQueue)), .object (.closed s.eventFd)])

/-- The destructor on the thread of the Active Object, which has been detached. -/
def destructOnAoThread (syscalls : Syscalls) :
    HostedObject UserCallback EventHandlerFunc Func ×
      List (HostedOutput UserCallback EventHandlerFunc Func) :=
  let (closed, new) := (s.stopEventLoop syscalls).closeEventFd
  ({ closed with counter := 0, lifecycle := .detached }, new)

/-- The kernel reports a descriptor once in a batch, with bits it has been asked for,
and the eventfd as readable only if the counter is positive. -/
def eventFdReported (events : List (Event ObjectId)) : Bool :=
  match s.eventFdOpen, s.host.loop.interestList.lookup s.eventFd with
  | true, some interest =>
      let own := events.filter fun event => event.data = interest.data
      decide (own.length ≤ 1) && own.all fun event =>
        event.events ≠ 0 && (event.events &&& interest.events) = event.events &&
          ((event.events &&& epollIn) = 0 || decide (0 < s.counter))
  | _, _ => true

/-- Whether the loop may take the step: what the thread does next, what another
thread does through a reference, or what the kernel answers. -/
def mayStep : EventLoop.Action (Callback UserCallback) EventHandlerFunc → Bool
  -- only `start` binds the private member function
  | .call _ _ (.addFdHandler _ _ .handleFdEvent) => false
  | .call caller _ _ => caller ≠ s.aoThread || (s.userCodeRuns && s.aoThreadFree)
  | .run caller =>
      caller ≠ s.aoThread ||
        (s.phase = .looping && s.userCodeRuns && s.aoThreadFree)
  | .userReturns => s.userCodeRuns && !s.functionRuns && s.aoThreadFree
  | .epollWaitReturns (.events events) => s.eventFdReported events && s.aoThreadFree
  | .epollWaitReturns _ => s.aoThreadFree
  | .signalStop => true
  | .proceed => s.aoThreadFree

/-- The callbacks on the call stack after a step of the loop. -/
def activationsAfter (action : EventLoop.Action (Callback UserCallback) EventHandlerFunc)
    (new : List (EventLoop.Output (Callback UserCallback) EventHandlerFunc)) :
    List (Option (HandlerPhase Func)) :=
  match action, s.host.stack, new with
  | .userReturns, .callback _ :: _, _ => s.activations.tail
  | .proceed, _, [.dispatched (.user _) _ _] => none :: s.activations
  | .proceed, _, [.dispatched .handleFdEvent _ _] => some .reading :: s.activations
  | _, _, _ => s.activations

/-- After a step of the loop; `mainFunction` returns when its `run()` has. -/
def afterLoop (action : EventLoop.Action (Callback UserCallback) EventHandlerFunc)
    (next : LoopThread (Callback UserCallback) EventHandlerFunc)
    (new : List (EventLoop.Output (Callback UserCallback) EventHandlerFunc)) :
    HostedObject UserCallback EventHandlerFunc Func ×
      List (HostedOutput UserCallback EventHandlerFunc Func) :=
  let after := { s with host := next, activations := s.activationsAfter action new }
  if s.phase = .looping && next.stack.isEmpty then
    ({ after with phase := .left }, new.map .loop ++ [.object (.active .leftRun)])
  else (after, new.map .loop)

/-- The next step of the activation of `handleFdEvent` on top. -/
def handleFdEventStep (below : List (Option (HandlerPhase Func))) :
    HandlerPhase Func → HostedAction UserCallback EventHandlerFunc Func →
    Option (HostedObject UserCallback EventHandlerFunc Func ×
      List (HostedOutput UserCallback EventHandlerFunc Func))
  | .reading, .read =>
      if 0 < s.counter then
        some ({ s with
          counter := s.counter - 1
          activations := some .dequeuing :: below }, [])
      -- `read` blocks
      else none
  | .dequeuing, .dequeueFunction =>
      let (func, s, new) := s.dequeueFunction
      some ({ s with activations := some (.calling func) :: below }, new)
  -- an empty function object is skipped
  | .calling .empty, .call _ =>
      some ({ s with activations := some .finishing :: below }, [])
  | .calling (.function func), .call _ =>
      some ({ s with activations := some .running :: below },
        [.object (.active (.called func))])
  | .calling .stopEventLoop, .call syscalls =>
      some ({ s.stopEventLoop syscalls with activations := some .finishing :: below }, [])
  | .running, .functionReturns =>
      some ({ s with activations := some .finishing :: below }, [])
  | _, _ => none

/-- A step of `handleFdEvent`, when it is on top of the call stack. -/
def activationStep (action : HostedAction UserCallback EventHandlerFunc Func) :
    Option (HostedObject UserCallback EventHandlerFunc Func ×
      List (HostedOutput UserCallback EventHandlerFunc Func)) :=
  match s.host.stack, s.activations with
  | .callback _ :: _, some phase :: below => s.handleFdEventStep below phase action
  | _, _ => none

def step : HostedAction UserCallback EventHandlerFunc Func →
    Option (HostedObject UserCallback EventHandlerFunc Func ×
      List (HostedOutput UserCallback EventHandlerFunc Func))
  | .executeFunction thread func =>
      -- the caller holds a reference
      if s.lifecycle = .shared && !s.scheduling.contains thread &&
          (thread ≠ s.aoThread || s.userCodeRuns) then
        let func := ActiveObjectThread.toAOFunc func
        some (s.enqueueFunction thread func, [.object (.active (.enqueued func))])
      else none
  | .write thread =>
      if s.scheduling.contains thread then some (s.writeOne thread, []) else none
  | .addFdHandler syscalls =>
      if s.phase = .starting then
        let result :=
          s.host.loop.addFdHandler s.aoThread syscalls s.eventFd fdEventIn .handleFdEvent
        let s := { s with host := { s.host with loop := result.2 } }
        if result.1 = .normal then some ({ s with phase := .initializing }, [])
        else some ({ s with phase := .left }, [.object .notRegistered])
      else none
  | .enterRun =>
      if s.phase = .initializing && s.aoThreadFree then
        (s.host.step (.run s.aoThread)).map fun next =>
          ({ s with host := next.1, phase := .looping }, next.2.map .loop)
      else none
  | .loop action =>
      if s.phase ≠ .left && s.mayStep action then
        (s.host.step action).map fun next => s.afterLoop action next.1 next.2
      else none
  | .releaseOnClient thread =>
      -- no call of `executeFunction` is under way without a reference
      if s.lifecycle = .shared && s.scheduling.isEmpty && thread ≠ s.aoThread then
        some ({ s.enqueueFunction thread .stopEventLoop with lifecycle := .joining },
          [.object (.active (.enqueued .stopEventLoop))])
      else none
  | .releaseOnAoThread syscalls =>
      if s.lifecycle = .shared && s.scheduling.isEmpty && s.userCodeRuns then
        some (s.destructOnAoThread syscalls)
      else none
  | .joinReturns =>
      -- the thread has ended, and `stopEventLoop` has been scheduled before `join`
      if s.lifecycle = .joining && s.scheduling.isEmpty && s.phase = .left &&
          s.eventFdOpen then
        some s.closeEventFd
      else none
  | action => if s.aoThreadFree then s.activationStep action else none

/-! ## What a step can do -/

/-- The activation of `handleFdEvent` on top of the call stack goes on. -/
structure InHandler (s : HostedObject UserCallback EventHandlerFunc Func)
    (phase : HandlerPhase Func) (below : List (Option (HandlerPhase Func))) : Prop where
  free : s.aoThreadFree = true
  called : ∃ object stack, s.host.stack = .callback object :: stack
  top : s.activations = some phase :: below

/-- The steps by what they do. -/
inductive Moves (s : HostedObject UserCallback EventHandlerFunc Func) :
    HostedAction UserCallback EventHandlerFunc Func →
    HostedObject UserCallback EventHandlerFunc Func →
    List (HostedOutput UserCallback EventHandlerFunc Func) → Prop
  | scheduled {thread : ThreadId} {func : Option Func} (hShared : s.lifecycle = .shared)
      (hThread : thread ∉ s.scheduling)
      (hUser : thread = s.aoThread → s.userCodeRuns = true) :
      Moves s (.executeFunction thread func)
        (s.enqueueFunction thread (ActiveObjectThread.toAOFunc func))
        [.object (.active (.enqueued (ActiveObjectThread.toAOFunc func)))]
  | wrote {thread : ThreadId} (hThread : thread ∈ s.scheduling) :
      Moves s (.write thread) (s.writeOne thread) []
  | registered {syscalls : Syscalls}
      {loop : EventLoopImpl (Callback UserCallback) EventHandlerFunc}
      (hPhase : s.phase = .starting)
      (hAdd : s.host.loop.perform s.aoThread syscalls
        (.addFdHandler s.eventFd fdEventIn .handleFdEvent) = (.normal, loop)) :
      Moves s (.addFdHandler syscalls)
        { s with host := { s.host with loop := loop }, phase := .initializing } []
  | notRegistered {syscalls : Syscalls} {rc : EventLoop.ReturnCode}
      {loop : EventLoopImpl (Callback UserCallback) EventHandlerFunc}
      (hPhase : s.phase = .starting)
      (hAdd : s.host.loop.perform s.aoThread syscalls
        (.addFdHandler s.eventFd fdEventIn .handleFdEvent) = (rc, loop))
      (hFailed : rc ≠ .normal) :
      Moves s (.addFdHandler syscalls)
        { s with host := { s.host with loop := loop }, phase := .left }
        [.object .notRegistered]
  | entered {next : LoopThread (Callback UserCallback) EventHandlerFunc}
      {outputs : List (EventLoop.Output (Callback UserCallback) EventHandlerFunc)}
      (hPhase : s.phase = .initializing) (hFree : s.aoThreadFree = true)
      (hRun : s.host.step (.run s.aoThread) = some (next, outputs)) :
      Moves s .enterRun { s with host := next, phase := .looping } (outputs.map .loop)
  | looped {action : EventLoop.Action (Callback UserCallback) EventHandlerFunc}
      {next : LoopThread (Callback UserCallback) EventHandlerFunc}
      {outputs : List (EventLoop.Output (Callback UserCallback) EventHandlerFunc)}
      (hLeft : s.phase ≠ .left) (hMay : s.mayStep action = true)
      (moves : s.host.Moves action next outputs) :
      Moves s (.loop action) (s.afterLoop action next outputs).1
        (s.afterLoop action next outputs).2
  | read {below : List (Option (HandlerPhase Func))} (inHandler : s.InHandler .reading below)
      (hCounter : 0 < s.counter) :
      Moves s .read { s with
        counter := s.counter - 1, activations := some .dequeuing :: below } []
  | dequeued {below : List (Option (HandlerPhase Func))} {func : AOFunc Func}
      {rest : List (AOFunc Func)} (inHandler : s.InHandler .dequeuing below)
      (hQueue : s.funcQueue = func :: rest) :
      Moves s .dequeueFunction { s with
        funcQueue := rest, activations := some (.calling func) :: below }
        [.object (.active (.dequeued func))]
  | foundEmpty {below : List (Option (HandlerPhase Func))}
      (inHandler : s.InHandler .dequeuing below) (hQueue : s.funcQueue = []) :
      Moves s .dequeueFunction { s with activations := some (.calling .empty) :: below } []
  | calledEmpty {below : List (Option (HandlerPhase Func))} {syscalls : Syscalls}
      (inHandler : s.InHandler (.calling .empty) below) :
      Moves s (.call syscalls) { s with activations := some .finishing :: below } []
  | called {below : List (Option (HandlerPhase Func))} {func : Func} {syscalls : Syscalls}
      (inHandler : s.InHandler (.calling (.function func)) below) :
      Moves s (.call syscalls) { s with activations := some .running :: below }
        [.object (.active (.called func))]
  | stopped {below : List (Option (HandlerPhase Func))} {syscalls : Syscalls}
      (inHandler : s.InHandler (.calling .stopEventLoop) below) :
      Moves s (.call syscalls)
        { s.stopEventLoop syscalls with activations := some .finishing :: below } []
  | functionReturned {below : List (Option (HandlerPhase Func))}
      (inHandler : s.InHandler .running below) :
      Moves s .functionReturns { s with activations := some .finishing :: below } []
  | releasedOnClient {thread : ThreadId} (hShared : s.lifecycle = .shared)
      (hIdle : s.scheduling = []) (hThread : thread ≠ s.aoThread) :
      Moves s (.releaseOnClient thread)
        { s.enqueueFunction thread .stopEventLoop with lifecycle := .joining }
        [.object (.active (.enqueued .stopEventLoop))]
  | releasedOnAoThread {syscalls : Syscalls} (hShared : s.lifecycle = .shared)
      (hIdle : s.scheduling = []) (hUser : s.userCodeRuns = true) :
      Moves s (.releaseOnAoThread syscalls) (s.destructOnAoThread syscalls).1
        (s.destructOnAoThread syscalls).2
  | joined (hJoining : s.lifecycle = .joining) (hIdle : s.scheduling = [])
      (hLeft : s.phase = .left) (hOpen : s.eventFdOpen = true) :
      Moves s .joinReturns s.closeEventFd.1 s.closeEventFd.2

variable {s}

theorem moves_of_handleFdEventStep {t : HostedObject UserCallback EventHandlerFunc Func}
    {action : HostedAction UserCallback EventHandlerFunc Func}
    {new : List (HostedOutput UserCallback EventHandlerFunc Func)} {phase : HandlerPhase Func}
    {below : List (Option (HandlerPhase Func))} (inHandler : s.InHandler phase below)
    (hStep : s.handleFdEventStep below phase action = some (t, new)) :
    Moves s action t new := by
  unfold handleFdEventStep at hStep
  split at hStep
  · split at hStep
    · rename_i hCounter
      obtain ⟨rfl, rfl⟩ := by simpa using hStep
      exact .read inHandler hCounter
    · cases hStep
  · cases hQueue : s.funcQueue with
    | nil =>
        simp only [dequeueFunction, hQueue, Option.some.injEq, Prod.mk.injEq] at hStep
        obtain ⟨rfl, rfl⟩ := hStep
        exact hQueue ▸ .foundEmpty inHandler hQueue
    | cons func rest =>
        simp only [dequeueFunction, hQueue, Option.some.injEq, Prod.mk.injEq] at hStep
        obtain ⟨rfl, rfl⟩ := hStep
        exact .dequeued inHandler hQueue
  · obtain ⟨rfl, rfl⟩ := by simpa using hStep
    exact .calledEmpty inHandler
  · obtain ⟨rfl, rfl⟩ := by simpa using hStep
    exact .called inHandler
  · obtain ⟨rfl, rfl⟩ := by simpa using hStep
    exact .stopped inHandler
  · obtain ⟨rfl, rfl⟩ := by simpa using hStep
    exact .functionReturned inHandler
  · cases hStep

theorem moves_of_activationStep {t : HostedObject UserCallback EventHandlerFunc Func}
    {action : HostedAction UserCallback EventHandlerFunc Func}
    {new : List (HostedOutput UserCallback EventHandlerFunc Func)}
    (hStep : (if s.aoThreadFree then s.activationStep action else none) = some (t, new)) :
    Moves s action t new := by
  obtain ⟨hFree, hStep⟩ := Option.ite_none_right_eq_some.mp hStep
  unfold activationStep at hStep
  split at hStep
  · rename_i object stack phase below hStack hTop
    exact moves_of_handleFdEventStep ⟨hFree, ⟨object, stack, hStack⟩, hTop⟩ hStep
  · cases hStep

theorem moves_of_step {t : HostedObject UserCallback EventHandlerFunc Func}
    {action : HostedAction UserCallback EventHandlerFunc Func}
    {new : List (HostedOutput UserCallback EventHandlerFunc Func)}
    (hStep : s.step action = some (t, new)) : Moves s action t new := by
  cases action with
  | executeFunction thread func =>
      simp only [step, Option.ite_none_right_eq_some, Bool.and_eq_true, decide_eq_true_eq,
        Bool.not_eq_true', List.contains_eq_mem, decide_eq_false_iff_not, Bool.or_eq_true,
        Option.some.injEq, Prod.mk.injEq] at hStep
      obtain ⟨⟨⟨hShared, hThread⟩, hUser⟩, rfl, rfl⟩ := hStep
      exact .scheduled hShared hThread fun hSame => hUser.resolve_left (not_not.mpr hSame)
  | write thread =>
      simp only [step, Option.ite_none_right_eq_some, List.contains_eq_mem, decide_eq_true_eq,
        Option.some.injEq, Prod.mk.injEq] at hStep
      obtain ⟨hThread, rfl, rfl⟩ := hStep
      exact .wrote hThread
  | addFdHandler syscalls =>
      obtain ⟨hPhase, hStep⟩ := Option.ite_none_right_eq_some.mp hStep
      dsimp only at hStep
      split at hStep
      · rename_i hNormal
        obtain ⟨rfl, rfl⟩ := Prod.mk.inj (Option.some.inj hStep)
        exact .registered hPhase (Prod.ext hNormal rfl)
      · rename_i hFailed
        obtain ⟨rfl, rfl⟩ := Prod.mk.inj (Option.some.inj hStep)
        exact .notRegistered hPhase rfl hFailed
  | enterRun =>
      simp only [step, Option.ite_none_right_eq_some, Bool.and_eq_true,
        decide_eq_true_eq] at hStep
      obtain ⟨⟨hPhase, hFree⟩, hStep⟩ := hStep
      obtain ⟨⟨next, outputs⟩, hRun, hSame⟩ := Option.map_eq_some_iff.mp hStep
      obtain ⟨rfl, rfl⟩ := Prod.mk.inj hSame
      exact .entered hPhase hFree hRun
  | loop action =>
      simp only [step, Option.ite_none_right_eq_some, Bool.and_eq_true,
        decide_eq_true_eq] at hStep
      obtain ⟨⟨hLeft, hMay⟩, hStep⟩ := hStep
      obtain ⟨⟨next, outputs⟩, hNext, hSame⟩ := Option.map_eq_some_iff.mp hStep
      obtain ⟨rfl, rfl⟩ := Prod.ext_iff.mp hSame
      exact .looped hLeft hMay (LoopThread.moves_of_step hNext)
  | releaseOnClient thread =>
      simp only [step, Option.ite_none_right_eq_some, Bool.and_eq_true, decide_eq_true_eq,
        List.isEmpty_iff, Option.some.injEq, Prod.mk.injEq] at hStep
      obtain ⟨⟨⟨hShared, hIdle⟩, hThread⟩, rfl, rfl⟩ := hStep
      exact .releasedOnClient hShared hIdle hThread
  | releaseOnAoThread syscalls =>
      simp only [step, Option.ite_none_right_eq_some, Bool.and_eq_true, decide_eq_true_eq,
        List.isEmpty_iff, Option.some.injEq] at hStep
      obtain ⟨⟨⟨hShared, hIdle⟩, hUser⟩, hSame⟩ := hStep
      obtain ⟨rfl, rfl⟩ := Prod.ext_iff.mp hSame
      exact .releasedOnAoThread hShared hIdle hUser
  | joinReturns =>
      simp only [step, Option.ite_none_right_eq_some, Bool.and_eq_true, decide_eq_true_eq,
        List.isEmpty_iff, Option.some.injEq] at hStep
      obtain ⟨⟨⟨⟨hJoining, hIdle⟩, hLeft⟩, hOpen⟩, hSame⟩ := hStep
      obtain ⟨rfl, rfl⟩ := Prod.ext_iff.mp hSame
      exact .joined hJoining hIdle hLeft hOpen
  | read => exact moves_of_activationStep hStep
  | dequeueFunction => exact moves_of_activationStep hStep
  | call => exact moves_of_activationStep hStep
  | functionReturns => exact moves_of_activationStep hStep

variable (s)

/-! ## The calls of `mainFunction` and `stopEventLoop` -/

theorem step_enters (hStack : s.host.stack = []) :
    s.host.step (.run s.aoThread) = some ({ s.host with stack := [.run .entered] }, []) := by
  simp [LoopThread.step, aoThread, hStack, EventLoop.userCodeRuns]

theorem stopEventLoop_performs (syscalls : Syscalls) : ∃ rc removed stopped,
    s.host.loop.perform s.aoThread syscalls (.removeFdHandler s.eventFd) = (rc, removed) ∧
      removed.perform s.aoThread syscalls .stop =
        (stopped, (s.stopEventLoop syscalls).host.loop) :=
  ⟨_, _, _, rfl, rfl⟩

/-! ## What the loop may do outside `run()` -/

variable {s}
  {action : EventLoop.Action (Callback UserCallback) EventHandlerFunc}
  {next : LoopThread (Callback UserCallback) EventHandlerFunc}
  {outputs : List (EventLoop.Output (Callback UserCallback) EventHandlerFunc)}

theorem mayStep_call {caller : ThreadId} {syscalls : Syscalls}
    {call : EventLoop.Call (Callback UserCallback) EventHandlerFunc}
    (hMay : s.mayStep (.call caller syscalls call) = true) :
    caller ≠ s.aoThread ∨ (s.userCodeRuns = true ∧ s.aoThreadFree = true) := by
  cases call with
  | addFdHandler fd eventMask callback =>
      cases callback with
      | user => simpa [mayStep] using hMay
      | handleFdEvent => cases hMay
  | _ => simpa [mayStep] using hMay

/-- Outside `run()` the loop can only be called, from elsewhere or by user code. -/
theorem idle_moves (hStack : s.host.stack = []) (hPhase : s.phase ≠ .looping)
    (moves : s.host.Moves action next outputs) (hMay : s.mayStep action = true) :
    next.stack = [] ∧ s.activationsAfter action outputs = s.activations ∧
      (s.userCodeRuns = false →
        next = ⟨{ s.host.loop with isRunning := next.loop.isRunning }, []⟩ ∧
          (next.loop.isRunning = true → s.host.loop.isRunning = true)) := by
  have hTop : ∀ {top : EventLoop.Frame EventHandlerFunc} {below}, s.host.stack ≠ top :: below := by
    simp [hStack]
  cases moves with
  | @call caller syscalls call rc loop hAllowed hPerform =>
      refine ⟨hStack, rfl, fun hNoUser => ?_⟩
      have hForeign : s.host.loop.threadId ≠ caller :=
        ((mayStep_call hMay).resolve_right (by simp [hNoUser])).symm
      obtain ⟨-, rfl⟩ := EventLoopImpl.perform_elsewhere hForeign hPerform
      refine ⟨?_, id⟩
      rw [← hStack]
  | runElsewhere => exact ⟨hStack, rfl, fun _ => ⟨by rw [← hStack], id⟩⟩
  | @runEnters caller hThread =>
      have hHere : caller = s.aoThread := hThread.symm
      simp [mayStep, hHere, hPhase] at hMay
  | signalStop => exact ⟨hStack, rfl, fun _ => ⟨by rw [← hStack], nofun⟩⟩
  | callbackReturns hOn | eventHandlerReturns hOn | batch hOn | interrupted hOn | failed hOn
  | setsRunning hOn | goesOn hOn | leaves hOn | clears hOn | waits hOn | batchDone hOn
  | dispatches hOn | skips hOn | drained hOn | executes hOn => exact absurd hOn hTop

end HostedObject

/-- An Active Object on its event loop, from `create` on. -/
def hostedSystem (UserCallback EventHandlerFunc Func : Type) :
    TransitionSystem (HostedObject UserCallback EventHandlerFunc Func)
      (HostedAction UserCallback EventHandlerFunc Func)
      (HostedOutput UserCallback EventHandlerFunc Func) where
  initial s := ∃ aoThread eventFd, HostedObject.create aoThread eventFd = some s
  step := HostedObject.step

end ActiveObject
end UtilsFramework
