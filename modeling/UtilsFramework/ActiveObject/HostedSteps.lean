import UtilsFramework.ActiveObject.EventFdHandler
import UtilsFramework.Library.Simulation

/-!
# The Active Object seen through its event loop

The model of the thread abstracts from the event loop: of a batch it has the event
of the eventfd only, of the call stack the activations of `run()` and of
`handleFdEvent`, and of the handlers whether that of the eventfd is registered.  This
file says which abstract states a state on the event loop stands for, and proves
that every step of the loop is one of the abstract thread or does not concern it.
-/

namespace UtilsFramework
namespace ActiveObject

open Library
open Library.Epoll
open Library.TransitionSystem
open EventLoop (EventLoopImpl LoopThread Fd ObjectId Syscalls FdHandler RunPhase fdEventIn)

variable {UserCallback EventHandlerFunc Func : Type}

/-! ## The abstraction -/

namespace HostedObject

/-- The object as its own model has it, with what that model keeps of the loop. -/
def asObject (s : HostedObject UserCallback EventHandlerFunc Func)
    (stack : List (Frame Func)) (isRunning registered : Bool) : ActiveObjectImpl Func where
  aoThread := {
    aoThread := s.aoThread
    funcQueue := s.funcQueue
    eventFd := s.counter
    scheduling := s.scheduling
    phase := s.phase
    stack := stack
    isRunning := isRunning
    registered := registered
    lifecycle := s.lifecycle }
  eventFd := s.eventFd
  eventFdOpen := s.eventFdOpen

/-- What a batch says about the eventfd. -/
theorem pending_of_reported {s : HostedObject UserCallback EventHandlerFunc Func}
    {registered : Bool} (carries : Carries s.host.loop s.eventFd s.eventFdOpen registered)
    {events : List (Event ObjectId)} (hReported : s.eventFdReported events = true) :
    ∃ pending, Pending registered events pending ∧
      (pending = true → registered = true ∧ 0 < s.counter) := by
  cases registered with
  | false => exact ⟨false, ⟨nofun, nofun⟩, nofun⟩
  | true =>
      obtain ⟨⟨handler, hFound, hBound, -, hEvents, hInterest⟩, hOpen⟩ := carries.monitored rfl
      have hObject := (carries.addresses _ _ hFound).mp hBound
      rw [EventLoopImpl.interestOf, hEvents, hObject] at hInterest
      simp only [eventFdReported, hOpen, hInterest, Bool.and_eq_true, decide_eq_true_eq,
        List.all_eq_true, Bool.or_eq_true] at hReported
      change (ofEventFd events).length ≤ 1 ∧ ∀ event ∈ ofEventFd events, _ at hReported
      obtain ⟨hOnce, hEach⟩ := hReported
      have hBits : ∀ event ∈ ofEventFd events, event.events &&& epollIn ≠ 0 := by
        intro event hEvent
        obtain ⟨⟨hSome, hAsked⟩, -⟩ := hEach event hEvent
        rw [hAsked]
        exact hSome
      cases hOwn : ofEventFd events with
      | nil => exact ⟨false, ⟨fun _ => ⟨by rw [hOwn]; rfl, hBits⟩, nofun⟩, nofun⟩
      | cons event rest =>
          have hLength : (ofEventFd events).length = 1 := by
            rw [hOwn, List.length_cons] at hOnce ⊢
            omega
          have hEvent : event ∈ ofEventFd events := by simp [hOwn]
          refine ⟨true, ⟨fun _ => ⟨hLength, hBits⟩, fun _ => by simp [hOwn]⟩, fun _ => ⟨rfl, ?_⟩⟩
          exact (hEach event hEvent).2.resolve_left (hBits event hEvent)

/-- A handler bound to the object is registered for the eventfd. -/
def monitored (s : HostedObject UserCallback EventHandlerFunc Func) : Bool :=
  (s.host.loop.fdHandlers.lookup s.eventFd).any fun handler =>
    match handler.callback with
    | .handleFdEvent => true
    | .user _ => false

/-- As long as the eventfd is registered, user code leaves it alone and does not stop
the loop, not even in a signal handler, and `epoll_wait` fails at most with
`EINTR`. -/
def undisturbed (s : HostedObject UserCallback EventHandlerFunc Func) :
    HostedAction UserCallback EventHandlerFunc Func → Bool
  | .loop (.call caller _ .stop) => !s.monitored || caller ≠ s.aoThread
  | .loop (.call caller _ call) =>
      !s.monitored || caller ≠ s.aoThread || call.disturbs ≠ some s.eventFd
  | .loop .signalStop => !s.monitored
  | .loop (.epollWaitReturns .failed) => !s.monitored
  | _ => true

/-- Between the entry of `run()` or its successful test and the end of
`epoll_wait`. -/
def goesToWait : RunPhase → Bool
  | .entered | .clearing | .calling | .waiting => true
  | .testing | .handling _ => false

/-- What ties a running loop to the abstract thread.  An abstract `run()` has set
`m_isRunning` at once, and nobody but `stopEventLoop` clears it while the eventfd is
registered. -/
structure Loops (host : LoopThread (Callback UserCallback) EventHandlerFunc)
    (activations : List (Option (HandlerPhase Func))) (stack : List (Frame Func))
    (isRunning registered : Bool) : Prop where
  frames : HostsFrames registered host.stack activations stack
  running : host.loop.isRunning = true → isRunning = true
  steady : registered = true →
    host.loop.isRunning = true ∨ ∃ below, host.stack = .run .entered :: below
  waits : ∀ phase below, host.stack = .run phase :: below → goesToWait phase = true →
    isRunning = true

/-- What ties the object on its loop to the abstract one, by the phases of
`mainFunction`. -/
inductive Hosts (s : HostedObject UserCallback EventHandlerFunc Func) :
    List (Frame Func) → Bool → Bool → Prop
  | starting (hPhase : s.phase = .starting) (hHost : s.host = ⟨.construct s.aoThread, []⟩)
      (hActivations : s.activations = []) (hOpen : s.eventFdOpen = true) :
      Hosts s [] false false
  | initializing {isRunning registered : Bool} (hPhase : s.phase = .initializing)
      (hStack : s.host.stack = []) (hActivations : s.activations = [])
      (carries : Carries s.host.loop s.eventFd s.eventFdOpen registered) :
      Hosts s [] isRunning registered
  | looping {stack : List (Frame Func)} {isRunning registered : Bool}
      (hPhase : s.phase = .looping) (hBusy : s.host.stack ≠ [])
      (carries : Carries s.host.loop s.eventFd s.eventFdOpen registered)
      (loops : Loops s.host s.activations stack isRunning registered) :
      Hosts s stack isRunning registered
  | left {stack : List (Frame Func)} {isRunning registered : Bool}
      (hPhase : s.phase = .left) (hStack : s.host.stack = []) :
      Hosts s stack isRunning registered

/-- The abstract states that a state of the object on its loop stands for. -/
def Shows (s : HostedObject UserCallback EventHandlerFunc Func)
    (object : ActiveObjectImpl Func) : Prop :=
  ∃ stack isRunning registered, object = s.asObject stack isRunning registered ∧
    s.Hosts stack isRunning registered

end HostedObject

/-- What the abstract object has of the history. -/
def objectOutput : HostedOutput UserCallback EventHandlerFunc Func →
    Option (ObjectOutput Func)
  | .object output => some output
  | .loop _ => none

@[simp]
theorem filterMap_objectOutput_loop
    (new : List (EventLoop.Output (Callback UserCallback) EventHandlerFunc)) :
    (new.map HostedOutput.loop).filterMap
      (objectOutput : HostedOutput UserCallback EventHandlerFunc Func → _) = [] := by
  simp [List.filterMap_map, objectOutput, Function.comp_def]

namespace HostedObject

/-- What a step has to be for the abstract object its state stands for. -/
abbrev Followed (s : HostedObject UserCallback EventHandlerFunc Func)
    (stack : List (Frame Func)) (isRunning registered : Bool)
    (t : HostedObject UserCallback EventHandlerFunc Func)
    (new : List (HostedOutput UserCallback EventHandlerFunc Func)) : Prop :=
  (objectSystem Func).Follows Shows objectOutput (s.asObject stack isRunning registered) t new

variable {s t : HostedObject UserCallback EventHandlerFunc Func}
  {stack : List (Frame Func)} {isRunning registered : Bool}
  {new : List (HostedOutput UserCallback EventHandlerFunc Func)}

theorem asObject_of_loop {next : LoopThread (Callback UserCallback) EventHandlerFunc}
    (hThread : next.loop.threadId = s.host.loop.threadId)
    (activations : List (Option (HandlerPhase Func))) :
    ({ s with host := next, activations := activations } :
      HostedObject UserCallback EventHandlerFunc Func).asObject stack isRunning registered =
      s.asObject stack isRunning registered := by
  simp [asObject, aoThread, hThread]

theorem monitored_of_carries
    (carries : Carries s.host.loop s.eventFd s.eventFdOpen true) : s.monitored = true := by
  obtain ⟨⟨handler, hFound, hBound, -⟩, -⟩ := carries.monitored rfl
  simp [monitored, hFound, hBound]

/-- User code of the loop is user code of the abstract thread. -/
theorem Hosts.userCodeRuns (hosts : s.Hosts stack isRunning registered)
    (hUser : s.userCodeRuns = true) :
    (s.asObject stack isRunning registered).aoThread.userCodeRuns = true := by
  cases hosts with
  | starting hPhase => simp [HostedObject.userCodeRuns, hPhase] at hUser
  | initializing hPhase =>
      simp [asObject, ActiveObjectThread.userCodeRuns, hPhase]
  | left hPhase => simp [HostedObject.userCodeRuns, hPhase] at hUser
  | looping hPhase _ _ loops =>
      have hFrames := loops.frames
      simp only [HostedObject.userCodeRuns, hPhase] at hUser
      simp only [asObject, ActiveObjectThread.userCodeRuns, hPhase]
      generalize s.host.stack = hostStack, s.activations = activations at hFrames hUser
      cases hFrames with
      | idle | run | draining => cases hUser
      | eventHandler below | userCallback below =>
          obtain ⟨pending, rest, rfl⟩ := below.run_of_executeScheduledEvents
          rfl
      | @handleFdEvent _ phase =>
          cases phase with
          | reading | dequeuing | calling => cases hUser
          | running | finishing => rfl

/-! ## Steps of the abstract object -/

section Object

variable {rest : List (Frame Func)}

theorem step_run
    (hUser : (s.asObject stack isRunning registered).aoThread.userCodeRuns = true)
    (hFree : s.aoThreadFree = true) :
    (objectSystem Func).step (s.asObject stack isRunning registered) (.active .run) =
      some (({ s with phase := .looping } : HostedObject UserCallback EventHandlerFunc
        Func).asObject (.run false :: stack) true registered, []) := by
  have hObjectFree : (s.asObject stack isRunning registered).aoThread.aoThreadFree = true :=
    hFree
  simp only [objectSystem, ActiveObjectImpl.step, ActiveObjectThread.step, hUser, hObjectFree,
    Bool.and_self, if_true]
  rfl

/-- What is not user code is a step of the activation on top. -/
theorem step_activation (action : Action Func) (outputs : List (Output Func))
    {next : ActiveObjectThread Func} (hFree : s.aoThreadFree = true)
    (hAction : ∀ object : ActiveObjectThread Func, object.step action =
      if object.aoThreadFree then object.aoThreadStep action else none)
    (hReleased : action ≠ .releaseOnAoThread)
    (hStep : (s.asObject stack isRunning registered).aoThread.aoThreadStep action =
      some (next, outputs)) :
    (objectSystem Func).step (s.asObject stack isRunning registered) (.active action) =
      some (⟨next, s.eventFd, s.eventFdOpen⟩, outputs.map .active) := by
  have hObjectFree : (s.asObject stack isRunning registered).aoThread.aoThreadFree = true :=
    hFree
  have hNext : (s.asObject stack isRunning registered).aoThread.step action =
      some (next, outputs) := by
    rw [hAction, if_pos hObjectFree, hStep]
  cases action <;>
    first
      | exact absurd rfl hReleased
      | (simp only [objectSystem, ActiveObjectImpl.step, hNext, Option.map_some]; rfl)

theorem step_epollWaitReturns {pending : Bool} (hFree : s.aoThreadFree = true)
    (hPending : pending = true → registered = true ∧ 0 < s.counter) :
    (objectSystem Func).step (s.asObject (.run false :: rest) true registered)
      (.active (.epollWaitReturns pending)) =
      some (s.asObject (.run pending :: rest) true registered, []) := by
  refine step_activation (.epollWaitReturns pending) [] hFree (fun _ => rfl) (by simp) ?_
  have hReady : (!pending || (registered && decide (0 < s.counter))) = true := by
    cases pending with
    | false => rfl
    | true => simpa using hPending rfl
  simp only [asObject, ActiveObjectThread.aoThreadStep, ActiveObjectThread.runStep,
    Bool.true_and]
  exact if_pos hReady

theorem step_handleEpollEvent (hFree : s.aoThreadFree = true) :
    (objectSystem Func).step (s.asObject (.run true :: rest) isRunning registered)
      (.active .handleEpollEvent) =
      some (s.asObject (if registered = true then .handleFdEvent .reading :: .run false :: rest
        else .run false :: rest) isRunning registered, []) := by
  refine step_activation .handleEpollEvent [] hFree (fun _ => rfl) (by simp) ?_
  cases registered <;> rfl

theorem step_handleFdEventReturns (hFree : s.aoThreadFree = true) :
    (objectSystem Func).step
      (s.asObject (.handleFdEvent .finishing :: rest) isRunning registered)
      (.active .handleFdEventReturns) = some (s.asObject rest isRunning registered, []) :=
  step_activation .handleFdEventReturns [] hFree (fun _ => rfl) (by simp) rfl

theorem step_leaveRun (hFree : s.aoThreadFree = true) (hRest : rest ≠ []) :
    (objectSystem Func).step (s.asObject (.run false :: rest) isRunning false)
      (.active .leaveRun) = some (s.asObject rest isRunning false, []) := by
  refine step_activation .leaveRun [] hFree (fun _ => rfl) (by simp) ?_
  cases rest with
  | nil => exact absurd rfl hRest
  | cons frame below =>
      simp only [asObject, ActiveObjectThread.aoThreadStep, ActiveObjectThread.runStep,
        Bool.not_false, Bool.or_true, if_true]

theorem step_leaveMain (hFree : s.aoThreadFree = true) :
    (objectSystem Func).step (s.asObject [.run false] isRunning false) (.active .leaveRun) =
      some (({ s with phase := .left } : HostedObject UserCallback EventHandlerFunc
        Func).asObject [] isRunning false, [.active .leftRun]) := by
  refine step_activation .leaveRun [.leftRun] hFree (fun _ => rfl) (by simp) ?_
  simp only [asObject, ActiveObjectThread.aoThreadStep, ActiveObjectThread.runStep,
    Bool.not_false, Bool.or_true, if_true]
  rfl

end Object

/-! ## Steps of the loop -/

section Loop

variable {action : EventLoop.Action (Callback UserCallback) EventHandlerFunc}
  {next : LoopThread (Callback UserCallback) EventHandlerFunc}
  {outputs : List (EventLoop.Output (Callback UserCallback) EventHandlerFunc)}

theorem carries_next (carries : Carries s.host.loop s.eventFd s.eventFdOpen registered)
    (moves : s.host.Moves action next outputs) (hMay : s.mayStep action = true)
    (hUndisturbed : s.undisturbed (.loop action) = true) :
    Carries next.loop s.eventFd s.eventFdOpen registered := by
  refine carries.moves moves ?_ ?_
  · rintro caller syscalls fd eventMask rfl
    simp [mayStep] at hMay
  · rintro rfl syscalls call rfl
    cases call with
    | stop => simp [EventLoop.Call.disturbs]
    | _ =>
        have hHere : s.host.loop.threadId = s.aoThread := rfl
        simpa [undisturbed, monitored_of_carries carries, hHere] using hUndisturbed

/-- Nobody but `stopEventLoop` clears `m_isRunning` while the eventfd is registered. -/
theorem isRunning_of_call (carries : Carries s.host.loop s.eventFd s.eventFdOpen registered)
    {caller : ThreadId} {syscalls : Syscalls}
    {call : EventLoop.Call (Callback UserCallback) EventHandlerFunc}
    {rc : EventLoop.ReturnCode}
    {loop : EventLoopImpl (Callback UserCallback) EventHandlerFunc}
    (hPerform : s.host.loop.perform caller syscalls call = (rc, loop))
    (hUndisturbed : s.undisturbed (.loop (.call caller syscalls call)) = true) :
    (loop.isRunning = true → s.host.loop.isRunning = true) ∧
      (registered = true → loop.isRunning = s.host.loop.isRunning) := by
  cases call with
  | addFdHandler fd eventMask callback =>
      rcases EventLoopImpl.addFdHandler_cases hPerform with
        ⟨_, _, _, _, rfl⟩ | ⟨_, _, _, _, rfl⟩ <;> exact ⟨id, fun _ => rfl⟩
  | updateFdEvents fd eventMask =>
      rcases EventLoopImpl.updateFdEvents_cases hPerform with
        ⟨rfl, _⟩ | ⟨_, _, _, _, ⟨_, _, rfl⟩ | ⟨_, _, rfl⟩⟩ <;> exact ⟨id, fun _ => rfl⟩
  | removeFdHandler fd =>
      rcases EventLoopImpl.removeFdHandler_cases hPerform with
        ⟨rfl, _⟩ | ⟨_, _, _, _, rfl⟩ <;> exact ⟨id, fun _ => rfl⟩
  | scheduleEvent eventHandler =>
      rcases EventLoopImpl.scheduleEvent_cases hPerform with ⟨_, rfl⟩ | ⟨_, rfl⟩ <;>
        exact ⟨id, fun _ => rfl⟩
  | stop =>
      by_cases hThread : s.host.loop.threadId = caller
      · refine ⟨fun hRunning => ?_, ?_⟩
        · rcases EventLoopImpl.stop_cases hPerform with ⟨_, rfl⟩ | ⟨_, rfl⟩
          · exact hRunning
          · cases hRunning
        · rintro rfl
          have hHere : caller = s.aoThread := hThread.symm
          simp [undisturbed, monitored_of_carries carries, hHere] at hUndisturbed
      · obtain ⟨-, rfl⟩ := EventLoopImpl.perform_elsewhere hThread hPerform
        exact ⟨id, fun _ => rfl⟩

theorem Loops.runs {host : LoopThread (Callback UserCallback) EventHandlerFunc}
    {activations : List (Option (HandlerPhase Func))}
    (loops : Loops host activations stack isRunning registered)
    (hTop : ∀ below, host.stack ≠ .run .entered :: below) (hRegistered : registered = true) :
    host.loop.isRunning = true := by
  rcases loops.steady hRegistered with hRunning | ⟨below, hStack⟩
  · exact hRunning
  · exact absurd hStack (hTop below)

theorem waits_of_handling {events : List (Event ObjectId)}
    {below : List (EventLoop.Frame EventHandlerFunc)} (phase : RunPhase)
    (rest : List (EventLoop.Frame EventHandlerFunc))
    (hTop : .run (.handling events) :: below = .run phase :: rest)
    (hWaits : goesToWait phase = true) : isRunning = true := by
  obtain ⟨hPhase, -⟩ := List.cons.inj hTop
  obtain rfl := EventLoop.Frame.run.inj hPhase
  cases hWaits

/-- A step that the abstract object does not see. -/
theorem follows_of_same {next : LoopThread (Callback UserCallback) EventHandlerFunc}
    {activations : List (Option (HandlerPhase Func))}
    (hThread : next.loop.threadId = s.host.loop.threadId)
    (hosts : ({ s with host := next, activations := activations } :
      HostedObject UserCallback EventHandlerFunc Func).Hosts stack isRunning registered) :
    s.Followed stack isRunning registered
      { s with host := next, activations := activations } (outputs.map .loop) :=
  .stutters ⟨_, _, _, (asObject_of_loop hThread activations).symm, hosts⟩
    (filterMap_objectOutput_loop outputs)

theorem Hosts.follows_idle (hosts : s.Hosts stack isRunning registered)
    (hStack : s.host.stack = []) (hPhase : s.phase ≠ .looping) (hLeft : s.phase ≠ .left)
    (moves : s.host.Moves action next outputs) (hMay : s.mayStep action = true)
    (hUndisturbed : s.undisturbed (.loop action) = true) :
    s.Followed stack isRunning registered
      (s.afterLoop action next outputs).1 (s.afterLoop action next outputs).2 := by
  obtain ⟨hNext, hActivations, hForeign⟩ := idle_moves hStack hPhase moves hMay
  have hAfter : s.afterLoop action next outputs =
      ({ s with host := next, activations := s.activations }, outputs.map .loop) := by
    simp [afterLoop, hPhase, hActivations]
  rw [hAfter]
  refine follows_of_same moves.threadId ?_
  cases hosts with
  | starting hPhase hHost hNone hOpen =>
      obtain ⟨hSame, hRunning⟩ := hForeign (by simp [HostedObject.userCodeRuns, hPhase])
      have hStopped : next.loop.isRunning = false := by
        rw [hHost] at hRunning
        simpa [EventLoopImpl.construct] using hRunning
      refine .starting hPhase ?_ hNone hOpen
      change next = ⟨.construct next.loop.threadId, []⟩
      rw [moves.threadId, hSame, hStopped, hHost]
      rfl
  | initializing hPhase _ hNone carries =>
      have hCarries := carries_next carries moves hMay hUndisturbed
      exact .initializing hPhase hNext hNone hCarries
  | looping hLooping => exact absurd hLooping hPhase
  | left hGone => exact absurd hGone hLeft

theorem follows_of_loops {activations : List (Option (HandlerPhase Func))}
    (hPhase : s.phase = .looping) (hNext : next.stack ≠ [])
    (hActivations : s.activationsAfter action outputs = activations)
    (hThread : next.loop.threadId = s.host.loop.threadId)
    (carries : Carries next.loop s.eventFd s.eventFdOpen registered)
    (loops : Loops next activations stack isRunning registered) :
    s.Followed stack isRunning registered
      (s.afterLoop action next outputs).1 (s.afterLoop action next outputs).2 := by
  have hAfter : s.afterLoop action next outputs =
      ({ s with host := next, activations := activations }, outputs.map .loop) := by
    simp [afterLoop, hNext, hActivations]
  rw [hAfter]
  exact follows_of_same hThread (.looping hPhase hNext carries loops)

/-- A step that is one of the abstract object, without observations. -/
theorem follows_of_step {activations : List (Option (HandlerPhase Func))}
    {stack' : List (Frame Func)} {isRunning' : Bool} {object : ObjectAction Func}
    (hPhase : s.phase = .looping) (hNext : next.stack ≠ [])
    (hActivations : s.activationsAfter action outputs = activations)
    (hThread : next.loop.threadId = s.host.loop.threadId)
    (carries : Carries next.loop s.eventFd s.eventFdOpen registered)
    (loops : Loops next activations stack' isRunning' registered)
    (hStep : (objectSystem Func).step (s.asObject stack isRunning registered) object =
      some (s.asObject stack' isRunning' registered, [])) :
    s.Followed stack isRunning registered
      (s.afterLoop action next outputs).1 (s.afterLoop action next outputs).2 := by
  have hAfter : s.afterLoop action next outputs =
      ({ s with host := next, activations := activations }, outputs.map .loop) := by
    simp [afterLoop, hNext, hActivations]
  have hUnseen : (outputs.map HostedOutput.loop).filterMap
      (objectOutput : HostedOutput UserCallback EventHandlerFunc Func → _) = [] :=
    filterMap_objectOutput_loop outputs
  rw [← hUnseen] at hStep
  rw [hAfter]
  exact .steps _ ⟨_, _, _, (asObject_of_loop hThread activations).symm,
    .looping hPhase hNext carries loops⟩ hStep

/-- The innermost `run()` returns, when the eventfd is not registered any more. -/
theorem follows_of_return {below : List (EventLoop.Frame EventHandlerFunc)}
    {phase : RunPhase} (hPhase : s.phase = .looping)
    (hStack : s.host.stack = .run phase :: below) (hEvents : unhandled phase = [])
    (hActivations : s.activationsAfter action outputs = s.activations)
    (hFree : s.aoThreadFree = true)
    (carries : Carries s.host.loop s.eventFd s.eventFdOpen false)
    (loops : Loops s.host s.activations stack isRunning false) :
    (objectSystem Func).Follows Shows objectOutput (s.asObject stack isRunning false)
      (s.afterLoop action { s.host with stack := below } outputs).1
      (s.afterLoop action { s.host with stack := below } outputs).2 := by
  have hFrames := loops.frames
  rw [hStack] at hFrames
  obtain ⟨pending, rest, rfl, hPending, hUser, frames⟩ := hFrames.of_run
  rw [hEvents] at hPending
  obtain rfl := hPending.eq_false
  by_cases hMain : below = []
  · -- the `run()` of `mainFunction`
    obtain ⟨-, rfl⟩ := frames.eq_nil hMain
    have hAfter : s.afterLoop action { s.host with stack := below } outputs =
        ({ s with
            host := { s.host with stack := below }
            activations := s.activations
            phase := .left },
          outputs.map .loop ++ [.object (.active .leftRun)]) := by
      simp [afterLoop, hPhase, hMain, hActivations]
    have hStep := @step_leaveMain _ _ _ s isRunning hFree
    have hSeen : List.filterMap
        (objectOutput : HostedOutput UserCallback EventHandlerFunc Func → _)
        (outputs.map .loop ++ [.object (.active .leftRun)]) = [.active .leftRun] := by
      rw [List.filterMap_append, filterMap_objectOutput_loop]
      rfl
    rw [← hSeen] at hStep
    rw [hAfter]
    exact .steps _ ⟨_, _, _, rfl, .left rfl hMain⟩ hStep
  · refine follows_of_step hPhase hMain hActivations rfl carries
      ⟨frames, loops.running, nofun, ?_⟩ (step_leaveRun hFree (frames.ne_nil hMain))
    rintro phase after rfl
    cases hUser

/-- An activation of `run()` goes on and the abstract one does not. -/
theorem follows_of_phase {phase phase' : RunPhase}
    {below : List (EventLoop.Frame EventHandlerFunc)} (hPhase : s.phase = .looping)
    (hStack : s.host.stack = .run phase :: below) (hNext : next.stack = .run phase' :: below)
    (hActivations : s.activationsAfter action outputs = s.activations)
    (hThread : next.loop.threadId = s.host.loop.threadId)
    (carries : Carries next.loop s.eventFd s.eventFdOpen registered)
    (loops : Loops s.host s.activations stack isRunning registered)
    (hPending : ∀ pending, Pending registered (unhandled phase) pending →
      Pending registered (unhandled phase') pending)
    (hRunning : next.loop.isRunning = true → isRunning = true)
    (hSteady : registered = true → next.loop.isRunning = true)
    (hWaits : goesToWait phase' = true → isRunning = true) :
    s.Followed stack isRunning registered
      (s.afterLoop action next outputs).1 (s.afterLoop action next outputs).2 := by
  have hFrames := loops.frames
  rw [hStack] at hFrames
  obtain ⟨pending, rest, rfl, hBefore, hUser, frames⟩ := hFrames.of_run
  refine follows_of_loops hPhase (by simp [hNext]) hActivations hThread carries
    ⟨?_, hRunning, fun hRegistered => .inl (hSteady hRegistered), ?_⟩
  · rw [hNext]
    exact .run (hPending pending hBefore) hUser frames
  · intro top after hTop
    rw [hNext] at hTop
    obtain ⟨hSame, -⟩ := List.cons.inj hTop
    obtain rfl := EventLoop.Frame.run.inj hSame
    exact hWaits

/-- User code of the loop returns: a callback or `handleFdEvent`. -/
theorem follows_callbackReturns {object : ObjectId}
    {below : List (EventLoop.Frame EventHandlerFunc)} (hPhase : s.phase = .looping)
    (hStack : s.host.stack = .callback object :: below)
    (hMay : s.mayStep .userReturns = true)
    (carries : Carries s.host.loop s.eventFd s.eventFdOpen registered)
    (loops : Loops s.host s.activations stack isRunning registered) :
    s.Followed stack isRunning registered
      (s.afterLoop .userReturns { s.host with stack := below } []).1
      (s.afterLoop .userReturns { s.host with stack := below } []).2 := by
  simp only [mayStep, Bool.and_eq_true, Bool.not_eq_true'] at hMay
  obtain ⟨⟨hUser, hNoFunction⟩, hFree⟩ := hMay
  have hFrames := loops.frames
  rw [hStack] at hFrames
  obtain ⟨⟨after, rfl⟩, activation, rest, hActivations, hActivation⟩ := hFrames.of_callback
  have hAfter : s.activationsAfter .userReturns [] = rest := by
    simp [activationsAfter, hStack, hActivations]
  have hLoops : ∀ {stack}, HostsFrames registered (.executeScheduledEvents :: after) rest stack →
      Loops { s.host with stack := .executeScheduledEvents :: after } rest stack isRunning
        registered := fun frames =>
    ⟨frames, loops.running, fun hRegistered => .inl (loops.runs (by simp [hStack]) hRegistered),
      by simp⟩
  cases activation with
  | none => exact follows_of_loops hPhase (by simp) hAfter rfl carries (hLoops hActivation)
  | some phase =>
      obtain ⟨below, rfl, frames⟩ := hActivation
      have hFinished : phase = .finishing := by
        simp only [HostedObject.userCodeRuns, hPhase, hStack, hActivations] at hUser
        simp only [functionRuns, hStack, hActivations] at hNoFunction
        cases phase with
        | reading | dequeuing | calling => cases hUser
        | running => cases hNoFunction
        | finishing => rfl
      subst hFinished
      exact follows_of_step hPhase (by simp) hAfter rfl carries (hLoops frames)
        (step_handleFdEventReturns hFree)

/-- While the eventfd is registered, `run()` does not leave its loop. -/
theorem Loops.goes_on {below : List (EventLoop.Frame EventHandlerFunc)}
    (loops : Loops s.host s.activations stack isRunning true)
    (carries : Carries s.host.loop s.eventFd s.eventFdOpen true)
    (hStack : s.host.stack = .run .testing :: below)
    (hStop : s.host.loop.isRunning = false ∨ s.host.loop.fdHandlers.entries = []) : False := by
  rcases hStop with hStopped | hNone
  · rw [loops.runs (by simp [hStack]) rfl] at hStopped
    cases hStopped
  · obtain ⟨⟨handler, hFound, -⟩, -⟩ := carries.monitored rfl
    have hEmpty : s.host.loop.fdHandlers = ∅ := AList.ext hNone
    rw [hEmpty] at hFound
    cases hFound

/-- `epoll_wait` returns a batch. -/
theorem follows_batch {events : List (Event ObjectId)}
    {below : List (EventLoop.Frame EventHandlerFunc)} (hPhase : s.phase = .looping)
    (hStack : s.host.stack = .run .waiting :: below)
    (hMay : s.mayStep (.epollWaitReturns (.events events)) = true)
    (carries : Carries s.host.loop s.eventFd s.eventFdOpen registered)
    (loops : Loops s.host s.activations stack isRunning registered) :
    let next := { s.host with stack := .run (.handling events) :: below }
    let after := s.afterLoop (.epollWaitReturns (.events events)) next []
    s.Followed stack isRunning registered after.1 after.2 := by
  simp only [mayStep, Bool.and_eq_true] at hMay
  obtain ⟨pending, hPending, hReadable⟩ := pending_of_reported carries hMay.1
  have hFrames := loops.frames
  rw [hStack] at hFrames
  obtain ⟨before, rest, rfl, hBefore, hUser, frames⟩ := hFrames.of_run
  obtain rfl := hBefore.eq_false
  obtain rfl := loops.waits _ _ hStack rfl
  exact follows_of_step hPhase (by simp) rfl rfl carries
    ⟨.run hPending hUser frames, fun _ => rfl,
      fun hRegistered => .inl (loops.runs (by simp [hStack]) hRegistered), fun _ _ _ _ => rfl⟩
    (step_epollWaitReturns hMay.2 hReadable)

section Event

variable {event : Event ObjectId} {events : List (Event ObjectId)}
  {below : List (EventLoop.Frame EventHandlerFunc)}
  {fdHandler : FdHandler (Callback UserCallback)}

/-- The loop calls back: a user, or `handleFdEvent`. -/
theorem follows_dispatch (hPhase : s.phase = .looping)
    (hStack : s.host.stack = .run (.handling (event :: events)) :: below)
    (hResolve : s.host.loop.resolve event.data = some fdHandler)
    (hMask : EventLoop.convertToLocalEvents (event.events &&& fdHandler.epollEvents) ≠ 0)
    (hFree : s.aoThreadFree = true)
    (carries : Carries s.host.loop s.eventFd s.eventFdOpen registered)
    (loops : Loops s.host s.activations stack isRunning registered) :
    let next := { s.host with
      stack := .callback fdHandler.object :: .executeScheduledEvents ::
        .run (.handling events) :: below }
    let after := s.afterLoop .proceed next [.dispatched fdHandler.callback fdHandler.fd
      (EventLoop.convertToLocalEvents (event.events &&& fdHandler.epollEvents))]
    s.Followed stack isRunning registered after.1 after.2 := by
  obtain ⟨hBound, hRegistered⟩ := carries.dispatched hResolve hMask
  have hFrames := loops.frames
  rw [hStack] at hFrames
  obtain ⟨pending, rest, rfl, hPending, hUser, frames⟩ := hFrames.of_run
  have hSteady := loops.runs (by simp [hStack])
  cases hCallback : fdHandler.callback with
  | user callback =>
      have hData : event.data ≠ eventFdObject := fun hData => by
        rw [hBound.mpr hData] at hCallback
        cases hCallback
      exact follows_of_loops hPhase (by simp) rfl rfl carries
        ⟨.userCallback (.draining (.run (hPending.other hData) hUser frames)), loops.running,
          fun hOn => .inl (hSteady hOn), by simp⟩
  | handleFdEvent =>
      obtain rfl := hRegistered hCallback
      obtain ⟨hRest, hOwn⟩ := hPending.own (hBound.mp hCallback)
      obtain ⟨rfl, -⟩ := hOwn rfl
      exact follows_of_step hPhase (by simp) rfl rfl carries
        ⟨.handleFdEvent (.draining (.run hRest hUser frames)), loops.running,
          fun hOn => .inl (hSteady hOn), by simp⟩ (step_handleEpollEvent hFree)

/-- The loop skips an event, perhaps that of the eventfd, not registered any more. -/
theorem follows_skip (hPhase : s.phase = .looping)
    (hStack : s.host.stack = .run (.handling (event :: events)) :: below)
    (hResolve : s.host.loop.resolve event.data = some fdHandler)
    (hMask : EventLoop.convertToLocalEvents (event.events &&& fdHandler.epollEvents) = 0)
    (hFree : s.aoThreadFree = true)
    (carries : Carries s.host.loop s.eventFd s.eventFdOpen registered)
    (loops : Loops s.host s.activations stack isRunning registered) :
    let after := s.afterLoop .proceed { s.host with stack := .run (.handling events) :: below } []
    s.Followed stack isRunning registered after.1 after.2 := by
  have hSteady := loops.runs (by simp [hStack])
  by_cases hData : event.data = eventFdObject
  · have hFrames := loops.frames
    rw [hStack] at hFrames
    obtain ⟨pending, rest, rfl, hPending, hUser, frames⟩ := hFrames.of_run
    obtain ⟨hRest, hOwn⟩ := hPending.own hData
    have hRemoved : registered = false := by
      by_contra hOn
      obtain rfl : registered = true := by simpa using hOn
      exact carries.not_skipped hResolve hData (hOwn rfl).2 hMask
    subst hRemoved
    have hLoops : Loops { s.host with stack := .run (.handling events) :: below }
        s.activations (.run false :: rest) isRunning false :=
      ⟨.run hRest hUser frames, loops.running, by simp, waits_of_handling⟩
    cases pending with
    | false => exact follows_of_loops hPhase (by simp) rfl rfl carries hLoops
    | true =>
        exact follows_of_step hPhase (by simp) rfl rfl carries hLoops
          (step_handleEpollEvent hFree)
  · exact follows_of_phase hPhase hStack rfl rfl rfl carries loops
      (fun _ hPending => hPending.other hData) loops.running hSteady (by simp [goesToWait])

end Event

theorem Hosts.follows_loop (hosts : s.Hosts stack isRunning registered)
    (hLeft : s.phase ≠ .left)
    (moves : s.host.Moves action next outputs) (hMay : s.mayStep action = true)
    (hUndisturbed : s.undisturbed (.loop action) = true) :
    s.Followed stack isRunning registered
      (s.afterLoop action next outputs).1 (s.afterLoop action next outputs).2 := by
  cases hosts with
  | starting hPhase hHost hNone hOpen =>
      exact (Hosts.starting hPhase hHost hNone hOpen).follows_idle (by rw [hHost])
        (by simp [hPhase]) hLeft moves hMay hUndisturbed
  | initializing hPhase hStack hNone carries =>
      exact (Hosts.initializing hPhase hStack hNone carries).follows_idle hStack
        (by simp [hPhase]) hLeft moves hMay hUndisturbed
  | left hGone => exact absurd hGone hLeft
  | looping hPhase hBusy carries loops =>
  have hNext := carries_next carries moves hMay hUndisturbed
  have hSame := moves.threadId
  cases moves with
  | @call caller syscalls call rc loop hAllowed hPerform =>
      obtain ⟨hRunning, hSteady⟩ := isRunning_of_call carries hPerform hUndisturbed
      refine follows_of_loops hPhase hBusy rfl hSame hNext
        ⟨loops.frames, fun hOn => loops.running (hRunning hOn), fun hRegistered => ?_, loops.waits⟩
      rw [hSteady hRegistered]
      exact loops.steady hRegistered
  | runElsewhere => exact follows_of_loops hPhase hBusy rfl hSame hNext loops
  | runEnters hThread hUser =>
      have hHere : _ = s.aoThread := hThread.symm
      simp only [mayStep, hHere, hPhase, ne_eq, not_true_eq_false, decide_false, Bool.false_or,
        decide_true, Bool.true_and, Bool.and_eq_true] at hMay
      have hObject := (Hosts.looping hPhase hBusy carries loops).userCodeRuns hMay.1
      refine follows_of_step hPhase (by simp) rfl rfl carries
        ⟨.run (.nil registered) hUser loops.frames, fun _ => rfl, fun _ => .inr ⟨_, rfl⟩,
          fun _ _ _ _ => rfl⟩ ((step_run hObject hMay.2).trans ?_)
      rw [← hPhase]
  | callbackReturns hStack => exact follows_callbackReturns hPhase hStack hMay carries loops
  | eventHandlerReturns hStack =>
      have hFrames := loops.frames
      rw [hStack] at hFrames
      obtain ⟨⟨below, rfl⟩, frames⟩ := hFrames.of_eventHandler
      exact follows_of_loops hPhase (by simp) (by simp [activationsAfter, hStack]) rfl carries
        ⟨frames, loops.running,
          fun hRegistered => .inl (loops.runs (by simp [hStack]) hRegistered), by simp⟩
  | batch hStack => exact follows_batch hPhase hStack hMay carries loops
  | interrupted hStack =>
      exact follows_of_phase hPhase hStack rfl rfl hSame hNext loops (fun _ => id) loops.running
        (loops.runs (by simp [hStack])) (by simp [goesToWait])
  | failed hStack =>
      cases registered with
      | false =>
          exact follows_of_return hPhase hStack rfl rfl (by simpa [mayStep] using hMay) carries
            loops
      | true =>
          rw [undisturbed, monitored_of_carries carries] at hUndisturbed
          cases hUndisturbed
  | signalStop =>
      refine follows_of_loops hPhase hBusy rfl rfl hNext
        ⟨loops.frames, by simp, ?_, loops.waits⟩
      rintro rfl
      rw [undisturbed, monitored_of_carries carries] at hUndisturbed
      cases hUndisturbed
  | setsRunning hStack =>
      exact follows_of_phase hPhase hStack rfl rfl hSame hNext loops (fun _ => id)
        (fun _ => loops.waits _ _ hStack rfl) (fun _ => rfl) (by simp [goesToWait])
  | goesOn hStack hRunning =>
      exact follows_of_phase hPhase hStack rfl rfl hSame hNext loops (fun _ => id) loops.running
        (fun _ => hRunning) (fun _ => loops.running hRunning)
  | leaves hStack hStop =>
      cases registered with
      | false =>
          exact follows_of_return hPhase hStack rfl rfl (by simpa [mayStep] using hMay) carries
            loops
      | true => exact (loops.goes_on carries hStack hStop).elim
  | clears hStack =>
      exact follows_of_phase hPhase hStack rfl rfl hSame hNext loops (fun _ => id) loops.running
        (loops.runs (by simp [hStack])) (fun _ => loops.waits _ _ hStack rfl)
  | waits hStack =>
      exact follows_of_phase hPhase hStack rfl rfl hSame hNext loops (fun _ => id) loops.running
        (loops.runs (by simp [hStack])) (fun _ => loops.waits _ _ hStack rfl)
  | batchDone hStack =>
      exact follows_of_phase hPhase hStack rfl rfl hSame hNext loops (fun _ => id) loops.running
        (loops.runs (by simp [hStack])) (by simp [goesToWait])
  | dispatches hStack hResolve hMask =>
      exact follows_dispatch hPhase hStack hResolve hMask hMay carries loops
  | skips hStack hResolve hMask =>
      exact follows_skip hPhase hStack hResolve hMask hMay carries loops
  | drained hStack hQueue =>
      have hFrames := loops.frames
      rw [hStack] at hFrames
      obtain ⟨⟨events, below, rfl⟩, frames⟩ := hFrames.of_executeScheduledEvents
      exact follows_of_loops hPhase (by simp) rfl rfl carries
        ⟨frames, loops.running,
          fun hRegistered => .inl (loops.runs (by simp [hStack]) hRegistered),
          waits_of_handling⟩
  | executes hStack hQueue =>
      have hFrames := loops.frames
      rw [hStack] at hFrames
      exact follows_of_loops hPhase (by simp) rfl rfl hNext
        ⟨.eventHandler hFrames, loops.running,
          fun hRegistered => .inl (loops.runs (by simp [hStack]) hRegistered), by simp⟩

end Loop

end HostedObject

end ActiveObject
end UtilsFramework
