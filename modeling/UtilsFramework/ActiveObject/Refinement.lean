import UtilsFramework.ActiveObject.HostedSteps

/-!
# The event loop keeps what the Active Object expects of it

As long as the users of the loop leave the eventfd alone and do not stop the loop,
every run on the event loop is a run of the abstract thread with the same history,
whatever other descriptors, scheduled events and nested `run()` there are.
-/

namespace UtilsFramework
namespace ActiveObject

open Library
open Library.Epoll
open Library.TransitionSystem
open EventLoop (EventLoopImpl LoopThread Fd ObjectId Syscalls FdHandler RunPhase fdEventIn)

variable {UserCallback EventHandlerFunc Func : Type}

namespace HostedObject

variable {s t : HostedObject UserCallback EventHandlerFunc Func}
  {stack : List (Frame Func)} {isRunning registered : Bool}
  {new : List (HostedOutput UserCallback EventHandlerFunc Func)}

/-! ## Steps of the object -/

theorem Hosts.of_same (hosts : s.Hosts stack isRunning registered) (hHost : t.host = s.host)
    (hActivations : t.activations = s.activations) (hPhase : t.phase = s.phase)
    (hFd : t.eventFd = s.eventFd) (hOpen : t.eventFdOpen = s.eventFdOpen) :
    t.Hosts stack isRunning registered := by
  have hThread : t.aoThread = s.aoThread := by rw [aoThread, aoThread, hHost]
  cases hosts with
  | starting hStarting hFresh hNone hOpened =>
      exact .starting (hPhase.trans hStarting) (by rw [hHost, hThread, hFresh])
        (hActivations.trans hNone) (hOpen.trans hOpened)
  | initializing hInitializing hStack hNone carries =>
      refine .initializing (hPhase.trans hInitializing) (by rw [hHost, hStack])
        (hActivations.trans hNone) ?_
      rw [hHost, hFd, hOpen]
      exact carries
  | looping hLooping hBusy carries loops =>
      refine .looping (hPhase.trans hLooping) (by rw [hHost]; exact hBusy) ?_ ?_
      · rw [hHost, hFd, hOpen]
        exact carries
      · rw [hHost, hActivations]
        exact loops
  | left hLeft hStack => exact .left (hPhase.trans hLeft) (by rw [hHost, hStack])

theorem Hosts.follows_scheduled (hosts : s.Hosts stack isRunning registered)
    {thread : ThreadId} {func : Option Func} (hShared : s.lifecycle = .shared)
    (hThread : thread ∉ s.scheduling) (hUser : thread = s.aoThread → s.userCodeRuns = true) :
    s.Followed stack isRunning registered
      (s.enqueueFunction thread (ActiveObjectThread.toAOFunc func))
      [.object (.active (.enqueued (ActiveObjectThread.toAOFunc func)))] := by
  refine .steps (.active (.executeFunction thread func))
    ⟨_, _, _, rfl, hosts.of_same rfl rfl rfl rfl rfl⟩ ?_
  have hGuard : (s.lifecycle = .shared && !s.scheduling.contains thread &&
      (thread ≠ s.aoThread ||
        (s.asObject stack isRunning registered).aoThread.userCodeRuns)) = true := by
    by_cases hHere : thread = s.aoThread
    · simp [hShared, hThread, hosts.userCodeRuns (hUser hHere)]
    · simp [hShared, hThread, hHere]
  simp only [objectSystem, ActiveObjectImpl.step, ActiveObjectThread.step]
  exact congrArg (Option.map _) (if_pos hGuard)

theorem Hosts.follows_wrote (hosts : s.Hosts stack isRunning registered) {thread : ThreadId}
    (hThread : thread ∈ s.scheduling) :
    s.Followed stack isRunning registered (s.writeOne thread) [] := by
  refine .steps (.active (.write thread)) ⟨_, _, _, rfl, hosts.of_same rfl rfl rfl rfl rfl⟩ ?_
  have hGuard : s.scheduling.contains thread = true := by simpa using hThread
  simp only [objectSystem, ActiveObjectImpl.step, ActiveObjectThread.step]
  exact congrArg (Option.map _) (if_pos hGuard)

theorem Hosts.follows_releasedOnClient (hosts : s.Hosts stack isRunning registered)
    {thread : ThreadId} (hShared : s.lifecycle = .shared) (hIdle : s.scheduling = [])
    (hThread : thread ≠ s.aoThread) :
    s.Followed stack isRunning registered
      { s.enqueueFunction thread .stopEventLoop with lifecycle := .joining }
      [.object (.active (.enqueued .stopEventLoop))] := by
  refine .steps (.active (.releaseOnClient thread))
    ⟨_, _, _, rfl, hosts.of_same rfl rfl rfl rfl rfl⟩ ?_
  have hGuard : (s.lifecycle = .shared && s.scheduling.isEmpty &&
      thread ≠ s.aoThread) = true := by
    simp [hShared, hIdle, hThread]
  simp only [objectSystem, ActiveObjectImpl.step, ActiveObjectThread.step]
  exact congrArg (Option.map _) (if_pos hGuard)

theorem Hosts.follows_joined (hosts : s.Hosts stack isRunning registered)
    (hJoining : s.lifecycle = .joining) (hIdle : s.scheduling = []) (hLeft : s.phase = .left)
    (hOpen : s.eventFdOpen = true) :
    s.Followed stack isRunning registered s.closeEventFd.1 s.closeEventFd.2 := by
  have hStack : s.host.stack = [] := by
    cases hosts with
    | left _ hStack => exact hStack
    | starting hPhase | initializing hPhase | looping hPhase =>
        rw [hLeft] at hPhase
        cases hPhase
  refine .steps .joinReturns ⟨stack, isRunning, registered, rfl, .left hLeft hStack⟩ ?_
  have hGuard : (s.lifecycle = .joining && s.scheduling.isEmpty && s.phase = .left &&
      s.eventFdOpen) = true := by
    simp [hJoining, hIdle, hLeft, hOpen]
  exact if_pos hGuard

section AddFdHandler

variable {syscalls : Syscalls} {loop : EventLoopImpl (Callback UserCallback) EventHandlerFunc}

theorem Hosts.follows_registered (hosts : s.Hosts stack isRunning registered)
    (hStarting : s.phase = .starting)
    (hAdd : s.host.loop.perform s.aoThread syscalls
      (.addFdHandler s.eventFd fdEventIn .handleFdEvent) = (.normal, loop)) :
    s.Followed stack isRunning registered
      { s with host := { s.host with loop := loop }, phase := .initializing } [] := by
  cases hosts with
  | initializing hPhase | looping hPhase | left hPhase =>
      rw [hStarting] at hPhase
      cases hPhase
  | starting _ hHost hNone hOpen =>
      have hThread : loop.threadId = s.aoThread := EventLoopImpl.perform_threadId hAdd
      have hStack : s.host.stack = [] := by rw [hHost]
      rw [hHost] at hAdd
      refine .steps (.active .addFdHandler) ⟨[], false, true, rfl,
        .initializing rfl hStack hNone (Carries.added hOpen hAdd)⟩ ?_
      simp [objectSystem, ActiveObjectImpl.step, ActiveObjectThread.step, asObject, hStarting,
        aoThread, hThread]

theorem Hosts.follows_notRegistered (hosts : s.Hosts stack isRunning registered)
    (hStarting : s.phase = .starting) {rc : EventLoop.ReturnCode}
    (hAdd : s.host.loop.perform s.aoThread syscalls
      (.addFdHandler s.eventFd fdEventIn .handleFdEvent) = (rc, loop)) :
    s.Followed stack isRunning registered
      { s with host := { s.host with loop := loop }, phase := .left }
      [.object .notRegistered] := by
  cases hosts with
  | initializing hPhase | looping hPhase | left hPhase =>
      rw [hStarting] at hPhase
      cases hPhase
  | starting _ hHost =>
      have hThread : loop.threadId = s.aoThread := EventLoopImpl.perform_threadId hAdd
      have hStack : s.host.stack = [] := by rw [hHost]
      refine .steps .addFdHandlerFails ⟨[], false, false, rfl, .left rfl hStack⟩ ?_
      simp [objectSystem, ActiveObjectImpl.step, asObject, hStarting, aoThread, hThread,
        objectOutput]

end AddFdHandler

theorem Hosts.follows_entered (hosts : s.Hosts stack isRunning registered)
    (hInitializing : s.phase = .initializing) (hFree : s.aoThreadFree = true)
    {next : LoopThread (Callback UserCallback) EventHandlerFunc}
    {outputs : List (EventLoop.Output (Callback UserCallback) EventHandlerFunc)}
    (hRun : s.host.step (.run s.aoThread) = some (next, outputs)) :
    s.Followed stack isRunning registered
      { s with host := next, phase := .looping } (outputs.map .loop) := by
  have hObject := hosts.userCodeRuns (by simp [HostedObject.userCodeRuns, hInitializing])
  cases hosts with
  | starting hPhase | looping hPhase | left hPhase =>
      rw [hInitializing] at hPhase
      cases hPhase
  | initializing _ hStack hNone carries =>
      rw [s.step_enters hStack] at hRun
      obtain ⟨rfl, rfl⟩ := Prod.mk.inj (Option.some.inj hRun)
      refine .steps (.active .run) ⟨[.run false], true, registered, rfl,
        .looping rfl (by simp) carries ⟨?_, fun _ => rfl, fun _ => .inr ⟨_, rfl⟩,
          fun _ _ _ _ => rfl⟩⟩ (step_run hObject hFree)
      change HostsFrames registered _ s.activations _
      rw [hNone]
      exact .run (.nil registered) rfl .idle

/-- `stopEventLoop` leaves the loop without the eventfd, and not running. -/
theorem stopEventLoop_loop (s : HostedObject UserCallback EventHandlerFunc Func)
    (syscalls : Syscalls) :
    (s.stopEventLoop syscalls).host.loop.isRunning = false ∧
      (s.stopEventLoop syscalls).host.loop.threadId = s.aoThread := by
  obtain ⟨rc, removed, stopped, hRemove, hStop⟩ := s.stopEventLoop_performs syscalls
  have hThread : removed.threadId = s.aoThread := EventLoopImpl.perform_threadId hRemove
  have hStopped : (s.stopEventLoop syscalls).host.loop = { removed with isRunning := false } := by
    rw [EventLoopImpl.perform, EventLoopImpl.stop, if_neg (not_not.mpr hThread)] at hStop
    exact (Prod.mk.inj hStop).2.symm
  rw [hStopped]
  exact ⟨rfl, hThread⟩

section InHandler

variable {phase : HandlerPhase Func} {below : List (Option (HandlerPhase Func))}

/-- While `handleFdEvent` is on top, the abstract thread is in it too, and may be given
any phase. -/
theorem Hosts.inHandler (hosts : s.Hosts stack isRunning registered)
    (inHandler : s.InHandler phase below) :
    s.phase = .looping ∧ s.host.stack ≠ [] ∧
      Carries s.host.loop s.eventFd s.eventFdOpen registered ∧
      ∃ frames, stack = .handleFdEvent phase :: frames ∧ ∀ after,
        Loops s.host (some after :: below) (.handleFdEvent after :: frames) isRunning
          registered := by
  obtain ⟨object, rest, hStack⟩ := inHandler.called
  cases hosts with
  | starting _ hHost =>
      rw [hHost] at hStack
      cases hStack
  | initializing _ hIdle | left _ hIdle =>
      rw [hIdle] at hStack
      cases hStack
  | looping hPhase hBusy carries loops =>
      have hFrames := loops.frames
      rw [hStack, inHandler.top] at hFrames
      obtain ⟨frames, rfl, moves⟩ := hFrames.move
      refine ⟨hPhase, hBusy, carries, frames, rfl, fun after => ?_⟩
      refine ⟨?_, loops.running, loops.steady, loops.waits⟩
      rw [hStack]
      exact moves after

/-- `handleFdEvent` makes a step that leaves the loop alone. -/
theorem Hosts.follows_handler (hosts : s.Hosts stack isRunning registered)
    (inHandler : s.InHandler phase below) (action : Action Func) (outputs : List (Output Func))
    {after : HandlerPhase Func} {counter : Nat} {funcQueue : List (AOFunc Func)}
    (hAction : ∀ object : ActiveObjectThread Func, object.step action =
      if object.aoThreadFree then object.aoThreadStep action else none)
    (hReleased : action ≠ .releaseOnAoThread)
    (hStep : ∀ frames, (s.asObject stack isRunning registered).aoThread.handleFdEventStep frames
      phase action = some ({ (s.asObject stack isRunning registered).aoThread with
        funcQueue := funcQueue
        eventFd := counter
        stack := .handleFdEvent after :: frames }, outputs)) :
    s.Followed stack isRunning registered { s with
        counter := counter
        funcQueue := funcQueue
        activations := some after :: below }
      (outputs.map fun output => .object (.active output)) := by
  obtain ⟨hPhase, hBusy, carries, frames, rfl, hLoops⟩ := hosts.inHandler inHandler
  refine .steps (.active action) ⟨_, _, _, rfl, .looping hPhase hBusy carries (hLoops after)⟩ ?_
  have hSeen : (outputs.map fun output => .object (.active output)).filterMap
      (objectOutput : HostedOutput UserCallback EventHandlerFunc Func → _) =
        outputs.map .active := by
    simp [List.filterMap_map, objectOutput, Function.comp_def]
  rw [hSeen]
  exact step_activation action outputs inHandler.free hAction hReleased (hStep frames)

theorem Hosts.follows_stopped (hosts : s.Hosts stack isRunning registered)
    (inHandler : s.InHandler (.calling .stopEventLoop) below) (syscalls : Syscalls) :
    s.Followed stack isRunning registered
      { s.stopEventLoop syscalls with activations := some .finishing :: below } [] := by
  obtain ⟨object, rest, hStack⟩ := inHandler.called
  obtain ⟨hPhase, hBusy, carries, frames, rfl, hLoops⟩ := hosts.inHandler inHandler
  obtain ⟨hStopped, hThread⟩ := s.stopEventLoop_loop syscalls
  have hRemoved := carries.stopped syscalls (rfl : s.host.loop.threadId = s.aoThread)
  have hFinishing := hLoops .finishing
  refine .steps (.active .call) ⟨.handleFdEvent .finishing :: frames, false, false, rfl,
    .looping hPhase hBusy hRemoved ⟨hFinishing.frames.unregister, ?_, by simp, ?_⟩⟩ ?_
  · intro hRunning
    exact hStopped.symm.trans hRunning
  · intro top after hTop
    cases hStack.symm.trans hTop
  · refine (step_activation .call [] inHandler.free (fun _ => rfl) (by simp) rfl).trans ?_
    have hSame : aoThread { s.stopEventLoop syscalls with
        activations := some .finishing :: below } = s.aoThread := hThread
    simp only [asObject, hSame]
    rfl

end InHandler

theorem Hosts.follows_releasedOnAoThread (hosts : s.Hosts stack isRunning registered)
    (syscalls : Syscalls) (hShared : s.lifecycle = .shared) (hIdle : s.scheduling = [])
    (hUser : s.userCodeRuns = true) :
    s.Followed stack isRunning registered
      (s.destructOnAoThread syscalls).1 (s.destructOnAoThread syscalls).2 := by
  obtain ⟨hStopped, hThread⟩ := s.stopEventLoop_loop syscalls
  have hGuard : (s.lifecycle = .shared && s.scheduling.isEmpty &&
      (s.asObject stack isRunning registered).aoThread.userCodeRuns) = true := by
    simp [hShared, hIdle, hosts.userCodeRuns hUser]
  have hHosts : (s.destructOnAoThread syscalls).1.Hosts stack false false := by
    cases hosts with
    | starting hPhase | left hPhase => simp [HostedObject.userCodeRuns, hPhase] at hUser
    | initializing hPhase hStack hNone carries =>
        exact .initializing hPhase hStack hNone
          (carries.stopped syscalls (rfl : s.host.loop.threadId = s.aoThread)).closed
    | looping hPhase hBusy carries loops =>
        refine .looping hPhase hBusy
          (carries.stopped syscalls (rfl : s.host.loop.threadId = s.aoThread)).closed
          ⟨loops.frames.unregister, fun hRunning => hStopped.symm.trans hRunning, by simp, ?_⟩
        intro phase below hTop
        have hRun : s.host.stack = .run phase :: below := hTop
        simp [HostedObject.userCodeRuns, hPhase, hRun] at hUser
  refine .steps (.active .releaseOnAoThread) ⟨_, _, _, rfl, hHosts⟩ ?_
  have hSame : (s.destructOnAoThread syscalls).1.asObject stack false false =
      ⟨(s.asObject stack isRunning registered).aoThread.destructOnAoThread, s.eventFd, false⟩ := by
    have hHere : (s.destructOnAoThread syscalls).1.aoThread = s.aoThread := hThread
    rw [asObject, hHere]
    rfl
  have hReleased : (s.asObject stack isRunning registered).aoThread.step .releaseOnAoThread =
      some ((s.asObject stack isRunning registered).aoThread.destructOnAoThread,
        [.dropped s.funcQueue]) := if_pos hGuard
  simp only [objectSystem, ActiveObjectImpl.step, hReleased, Option.map_some, hSame]
  rfl

/-- Every step of the object on its loop. -/
theorem Shows.follows {object : ActiveObjectImpl Func} (shows : s.Shows object)
    {action : HostedAction UserCallback EventHandlerFunc Func}
    (hUndisturbed : s.undisturbed action = true) (moves : s.Moves action t new) :
    (objectSystem Func).Follows Shows objectOutput object t new := by
  obtain ⟨stack, isRunning, registered, rfl, hosts⟩ := shows
  cases moves with
  | scheduled hShared hThread hUser => exact hosts.follows_scheduled hShared hThread hUser
  | wrote hThread => exact hosts.follows_wrote hThread
  | registered hStarting hAdd => exact hosts.follows_registered hStarting hAdd
  | notRegistered hStarting hAdd => exact hosts.follows_notRegistered hStarting hAdd
  | entered hInitializing hFree hRun => exact hosts.follows_entered hInitializing hFree hRun
  | looped hLeft hMay moves => exact hosts.follows_loop hLeft moves hMay hUndisturbed
  | read inHandler hCounter =>
      exact hosts.follows_handler inHandler .read [] (fun _ => rfl) (by simp)
        fun _ => if_pos hCounter
  | @dequeued below func rest inHandler hQueue =>
      refine hosts.follows_handler inHandler .dequeueFunction [.dequeued func] (fun _ => rfl)
        (by simp) fun _ => ?_
      simp [ActiveObjectThread.handleFdEventStep, ActiveObjectThread.dequeueFunction, asObject,
        hQueue]
  | foundEmpty inHandler hQueue =>
      refine hosts.follows_handler inHandler .dequeueFunction [] (fun _ => rfl) (by simp)
        fun _ => ?_
      simp [ActiveObjectThread.handleFdEventStep, ActiveObjectThread.dequeueFunction, asObject,
        hQueue]
  | calledEmpty inHandler =>
      exact hosts.follows_handler inHandler .call [] (fun _ => rfl) (by simp) fun _ => rfl
  | @called below func syscalls inHandler =>
      exact hosts.follows_handler inHandler .call [.called func] (fun _ => rfl) (by simp)
        fun _ => rfl
  | @stopped below syscalls inHandler => exact hosts.follows_stopped inHandler syscalls
  | functionReturned inHandler =>
      exact hosts.follows_handler inHandler .functionReturns [] (fun _ => rfl) (by simp)
        fun _ => rfl
  | releasedOnClient hShared hIdle hThread =>
      exact hosts.follows_releasedOnClient hShared hIdle hThread
  | @releasedOnAoThread syscalls hShared hIdle hUser =>
      exact hosts.follows_releasedOnAoThread syscalls hShared hIdle hUser
  | joined hJoining hIdle hLeft hOpen => exact hosts.follows_joined hJoining hIdle hLeft hOpen

theorem shows_create {aoThread : ThreadId} {eventFd : Fd}
    (hCreate : create aoThread eventFd = some s) :
    ∃ object, ActiveObjectImpl.create aoThread eventFd = some object ∧ s.Shows object := by
  unfold create at hCreate
  split at hCreate
  · cases hCreate
  · rename_i hFd
    obtain rfl := Option.some.inj hCreate
    refine ⟨_, if_neg hFd, [], false, false, rfl, .starting rfl rfl rfl rfl⟩

end HostedObject

section

variable
  {steps : List (HostedObject UserCallback EventHandlerFunc Func ×
    HostedAction UserCallback EventHandlerFunc Func)}
  {history : List (HostedOutput UserCallback EventHandlerFunc Func)}
  {s : HostedObject UserCallback EventHandlerFunc Func}

theorem followed_of_run
    (run : (hostedSystem UserCallback EventHandlerFunc Func).Run steps history s)
    (hUndisturbed : EveryStep (fun s action => s.undisturbed action = true) steps) :
    ∃ followed object, (objectSystem Func).Run followed (history.filterMap objectOutput)
      object ∧ s.Shows object := by
  refine run.simulated objectOutput HostedObject.Shows
    (fun s action => s.undisturbed action = true) ?_ ?_ hUndisturbed
  · rintro s ⟨aoThread, eventFd, hCreate⟩
    obtain ⟨object, hObject, shows⟩ := HostedObject.shows_create hCreate
    exact ⟨object, ⟨aoThread, eventFd, hObject⟩, shows⟩
  · intro s object action next new shows hGuard hStep
    exact shows.follows hGuard (HostedObject.moves_of_step hStep)

/-- As long as nobody disturbs the registered eventfd, the Active Object behaves on the
event loop as its own model says: whatever else the loop serves and however its
`run()` is nested, there is a run of the model with the same history, which ends with
the same queue, counter and references. -/
theorem run_refines_thread
    (run : (hostedSystem UserCallback EventHandlerFunc Func).Run steps history s)
    (hUndisturbed : EveryStep (fun s action => s.undisturbed action = true) steps) :
    ∃ followed stack isRunning registered, (objectSystem Func).Run followed
      (history.filterMap objectOutput) (s.asObject stack isRunning registered) := by
  obtain ⟨followed, object, abstractRun, stack, isRunning, registered, rfl, -⟩ :=
    followed_of_run run hUndisturbed
  exact ⟨followed, stack, isRunning, registered, abstractRun⟩

end

/-- A function registers a descriptor of its own, whose event is in one batch with that
of the eventfd for `stopEventLoop`. -/
def servedTogether : List (HostedAction Nat Nat Nat) :=
  [.addFdHandler ⟨3, true⟩, .enterRun, .loop .proceed, .loop .proceed, .loop .proceed,
    .loop .proceed, .executeFunction 1 (some 10), .write 1,
    .loop (.epollWaitReturns (.events [⟨epollIn, 0⟩])), .loop .proceed, .read,
    .dequeueFunction, .call ⟨3, true⟩,
    .loop (.call 0 ⟨3, true⟩ (.addFdHandler 8 fdEventIn (.user 80))), .functionReturns,
    .loop .userReturns, .loop .proceed, .loop .proceed, .loop .proceed, .loop .proceed,
    .loop .proceed, .releaseOnClient 1, .write 1,
    .loop (.epollWaitReturns (.events [⟨epollIn, 1⟩, ⟨epollIn, 0⟩])), .loop .proceed,
    .loop .userReturns, .loop .proceed, .loop .proceed, .read, .dequeueFunction,
    .call ⟨3, true⟩, .loop .userReturns, .loop .proceed, .loop .proceed, .loop .proceed,
    .joinReturns]

theorem servedTogether_refines : ∃ followed history, ∃ object : ActiveObjectImpl Nat,
    (objectSystem Nat).Run followed history object ∧
      calledFuncs (activeHistory history) = [10] ∧ closedFds history = [5] := by
  obtain ⟨steps, history, s, run, hUndisturbed, hCalled, hClosed⟩ : ∃ steps history s,
      (hostedSystem Nat Nat Nat).Run steps history s ∧
        EveryStep (fun s action => s.undisturbed action = true) steps ∧
        calledFuncs (activeHistory (history.filterMap objectOutput)) = [10] ∧
        closedFds (history.filterMap objectOutput) = [5] :=
    ⟨_, _, _, run_of_replay (⟨⟨.construct 0, []⟩, [], .starting, [], 0, [], .shared, 5, true⟩ :
      HostedObject Nat Nat Nat) servedTogether ⟨0, 5, rfl⟩ rfl, by decide, rfl, rfl⟩
  obtain ⟨followed, stack, isRunning, registered, abstractRun⟩ :=
    run_refines_thread run hUndisturbed
  exact ⟨followed, _, _, abstractRun, hCalled, hClosed⟩

end ActiveObject
end UtilsFramework
