import UtilsFramework.ActiveObject.HostedObject

/-!
# The event loop and a destroyed Active Object

The callback of the eventfd is bound to the object, and an event of the eventfd may
still be waiting in a batch when a function on the thread drops the last reference.
Whatever the users do with the loop, and whether `EPOLL_CTL_DEL` succeeds or not, the
destructor takes every handler that is bound to the object out of the loop, and a
removed handler is never called.  Another descriptor may then get the number of the
eventfd.  As in every run of the loop, there is no step where it would follow a pointer
to a released `FdHandler`.
-/

namespace UtilsFramework
namespace ActiveObject

open Library
open Library.TransitionSystem
open EventLoop (EventLoopImpl LoopThread Fd ObjectId Syscalls FdHandler fdEventIn)

variable {UserCallback EventHandlerFunc Func : Type}

namespace HostedObject

variable {s t : HostedObject UserCallback EventHandlerFunc Func}
  {new : List (HostedOutput UserCallback EventHandlerFunc Func)}

/-- The step uses a member of the object. -/
def Accesses : HostedAction UserCallback EventHandlerFunc Func → Prop
  | .executeFunction _ _ | .write _ | .read | .dequeueFunction | .releaseOnClient _
  | .releaseOnAoThread _ | .joinReturns => True
  | _ => False

/-- A callback that does not need the object any more. -/
def Settled (activation : Option (HandlerPhase Func)) : Prop :=
  ∀ phase ∈ activation, ActiveObjectThread.settled (.handleFdEvent phase)

/-- Nothing on the thread, in the loop or with a client leads to the object. -/
structure Spared (s : HostedObject UserCallback EventHandlerFunc Func) : Prop where
  started : s.phase ≠ .starting
  notShared : s.lifecycle ≠ .shared
  idle : s.scheduling = []
  unbound : s.phase ≠ .left →
    s.host.loop.Registered fun _ handler => handler.callback ≠ .handleFdEvent
  allSettled : s.phase ≠ .left → ∀ activation ∈ s.activations, Settled activation

/-- Handlers are bound to the object under the eventfd only, user code never enters
`run()` in the middle of a use of the object, and a destroyed object is spared. -/
structure Guarded (s : HostedObject UserCallback EventHandlerFunc Func) : Prop where
  silent : s.host.loop.RemovedSilent
  bound : s.host.loop.Registered fun fd handler =>
    handler.callback = .handleFdEvent → fd = s.eventFd
  outside : s.phase ≠ .looping → s.host.stack = []
  below : ∀ activation ∈ s.activations.tail, Settled activation
  covered : (∀ object below, s.host.stack ≠ .callback object :: below) →
    ∀ activation ∈ s.activations, Settled activation
  destroyed : s.eventFdOpen = false → s.Spared

theorem guarded_create {aoThread : ThreadId} {eventFd : Fd}
    (hCreate : create aoThread eventFd = some s) : s.Guarded := by
  unfold create at hCreate
  split at hCreate
  · cases hCreate
  · obtain rfl := Option.some.inj hCreate
    exact ⟨EventLoopImpl.removedSilent_construct aoThread,
      EventLoopImpl.registered_construct _ aoThread, fun _ => rfl, by simp, by simp, nofun⟩

/-- User code runs over settled callbacks only. -/
theorem Guarded.settled_of_userCodeRuns (guarded : s.Guarded) (hUser : s.userCodeRuns = true) :
    ∀ activation ∈ s.activations, Settled activation := by
  by_cases hTop : ∃ object below, s.host.stack = .callback object :: below
  · obtain ⟨object, below, hStack⟩ := hTop
    have hLooping : s.phase = .looping := by
      by_contra hPhase
      rw [guarded.outside hPhase] at hStack
      cases hStack
    have hBelow := guarded.below
    simp only [HostedObject.userCodeRuns, hLooping, hStack] at hUser
    revert hBelow hUser
    cases s.activations with
    | nil => simp
    | cons activation rest =>
        intro hBelow hUser other hOther
        rcases List.mem_cons.mp hOther with rfl | hRest
        · rintro phase rfl
          cases phase with
          | reading | dequeuing | calling => cases hUser
          | running | finishing => trivial
        · exact hBelow other hRest
  · push Not at hTop
    exact guarded.covered hTop

/-! ### Steps of the loop -/

section Loop

variable {action : EventLoop.Action (Callback UserCallback) EventHandlerFunc}
  {next : LoopThread (Callback UserCallback) EventHandlerFunc}
  {outputs : List (EventLoop.Output (Callback UserCallback) EventHandlerFunc)}

/-- A property of the handlers of users is kept: nobody else registers any. -/
theorem registered_next {P : Fd → FdHandler (Callback UserCallback) → Prop}
    (moves : s.host.Moves action next outputs) (hMay : s.mayStep action = true)
    (hRegistered : s.host.loop.Registered P)
    (hEvents : ∀ fd handler events, P fd handler → P fd { handler with epollEvents := events })
    (hUser : ∀ fd handler, handler.callback ≠ .handleFdEvent → P fd handler) :
    next.loop.Registered P := by
  refine moves.registered hRegistered hEvents ?_
  rintro caller syscalls fd eventMask callback rfl
  refine hUser fd _ ?_
  rintro rfl
  cases hMay

/-- What is settled stays so; a dispatched callback is that of a user if no handler is
bound to the object. -/
theorem settled_activationsAfter (moves : s.host.Moves action next outputs)
    (hSilent : s.host.loop.RemovedSilent)
    (hUnbound : s.host.loop.Registered fun _ handler => handler.callback ≠ .handleFdEvent)
    (hSettled : ∀ activation ∈ s.activations, Settled activation) :
    ∀ activation ∈ s.activationsAfter action outputs, Settled activation := by
  unfold activationsAfter
  split
  · exact fun activation hActivation => hSettled activation (List.mem_of_mem_tail hActivation)
  · intro activation hActivation
    rcases List.mem_cons.mp hActivation with rfl | hOld
    · exact nofun
    · exact hSettled activation hOld
  · obtain ⟨key, handler, _, hFound, hCallback, -⟩ :=
      moves.dispatched_registered hSilent (List.mem_singleton.mpr rfl)
    exact absurd hCallback (hUnbound key handler hFound)
  · exact hSettled

/-- The callbacks below the one on top stay settled. -/
theorem Guarded.covered_next (guarded : s.Guarded) (moves : s.host.Moves action next outputs)
    (hMay : s.mayStep action = true) :
    (∀ activation ∈ (s.activationsAfter action outputs).tail, Settled activation) ∧
      ((∀ object below, next.stack ≠ .callback object :: below) →
        ∀ activation ∈ s.activationsAfter action outputs, Settled activation) := by
  have hSame : ∀ {acts : List (Option (HandlerPhase Func))},
      (∀ activation ∈ acts, Settled activation) → ∀ activation ∈ acts.tail,
        Settled activation :=
    fun hSettled activation hActivation => hSettled activation (List.mem_of_mem_tail hActivation)
  cases moves with
  | call | runElsewhere | signalStop => exact ⟨guarded.below, guarded.covered⟩
  | @runEnters caller hThread =>
      have hHere : caller = s.aoThread := hThread.symm
      simp only [mayStep, hHere, ne_eq, not_true_eq_false, decide_false, Bool.false_or,
        Bool.and_eq_true] at hMay
      exact ⟨guarded.below, fun _ => guarded.settled_of_userCodeRuns hMay.1.2⟩
  | callbackReturns hStack =>
      simp only [activationsAfter, hStack]
      exact ⟨hSame guarded.below, fun _ => guarded.below⟩
  | dispatches hStack =>
      have hAll := guarded.covered (by simp [hStack])
      refine ⟨?_, fun hTop => absurd rfl (hTop _ _)⟩
      unfold activationsAfter
      split
      · exact hSame (hSame hAll)
      · exact hAll
      · exact hAll
      · exact hSame hAll
  | eventHandlerReturns hStack =>
      have hAll := guarded.covered (by simp [hStack])
      simp only [activationsAfter, hStack]
      exact ⟨hSame hAll, fun _ => hAll⟩
  | batch hStack | interrupted hStack | failed hStack | setsRunning hStack | goesOn hStack
  | leaves hStack | clears hStack | waits hStack | batchDone hStack | skips hStack
  | drained hStack | executes hStack =>
      have hAll := guarded.covered (by simp [hStack])
      exact ⟨hSame hAll, fun _ => hAll⟩

/-- No handler of the loop is bound to a destroyed object. -/
theorem Guarded.not_dispatched (guarded : s.Guarded) (hClosed : s.eventFdOpen = false)
    (hLeft : s.phase ≠ .left) (moves : s.host.Moves action next outputs) {fd : Fd}
    {eventMask : Epoll.EventMask} :
    .dispatched .handleFdEvent fd eventMask ∉ outputs := by
  intro hDispatched
  obtain ⟨key, handler, _, hFound, hCallback, -⟩ :=
    moves.dispatched_registered guarded.silent hDispatched
  exact (guarded.destroyed hClosed).unbound hLeft key handler hFound hCallback

theorem Guarded.afterLoop (guarded : s.Guarded) (hLeft : s.phase ≠ .left)
    (moves : s.host.Moves action next outputs) (hMay : s.mayStep action = true) :
    (s.afterLoop action next outputs).1.Guarded := by
  obtain ⟨hBelow, hCovered⟩ := guarded.covered_next moves hMay
  have hSilent := moves.removedSilent guarded.silent
  have hBound : next.loop.Registered fun fd handler =>
      handler.callback = .handleFdEvent → fd = s.eventFd :=
    registered_next moves hMay guarded.bound (fun _ _ _ hHandler => hHandler)
      fun _ _ hUser hBound => absurd hBound hUser
  have hUnbound : s.eventFdOpen = false →
      next.loop.Registered fun _ handler => handler.callback ≠ .handleFdEvent :=
    fun hClosed => registered_next moves hMay ((guarded.destroyed hClosed).unbound hLeft)
      (fun _ _ _ hHandler => hHandler) fun _ _ hUser => hUser
  have hSettled : s.eventFdOpen = false →
      ∀ activation ∈ s.activationsAfter action outputs, Settled activation :=
    fun hClosed => settled_activationsAfter moves guarded.silent
      ((guarded.destroyed hClosed).unbound hLeft) ((guarded.destroyed hClosed).allSettled hLeft)
  unfold HostedObject.afterLoop
  dsimp only
  split
  · rename_i hReturned
    have hStack : next.stack = [] := by simpa using (Bool.and_eq_true_iff.mp hReturned).2
    refine ⟨hSilent, hBound, fun _ => hStack, hBelow, hCovered, fun hClosed => ?_⟩
    have spared := guarded.destroyed hClosed
    exact ⟨by simp, spared.notShared, spared.idle, fun hPhase => absurd rfl hPhase,
      fun hPhase => absurd rfl hPhase⟩
  · refine ⟨hSilent, hBound, fun hPhase => ?_, hBelow, hCovered, fun hClosed => ?_⟩
    · exact (idle_moves (guarded.outside hPhase) hPhase moves hMay).1
    · have spared := guarded.destroyed hClosed
      exact ⟨spared.started, spared.notShared, spared.idle, fun _ => hUnbound hClosed,
        fun _ => hSettled hClosed⟩

end Loop

/-! ### Steps of the object -/

/-- A step that leaves the loop and the callbacks alone. -/
theorem Guarded.of_same (guarded : s.Guarded) (hHost : t.host = s.host)
    (hActivations : t.activations = s.activations) (hPhase : t.phase = s.phase)
    (hFd : t.eventFd = s.eventFd) (hDestroyed : t.eventFdOpen = false → t.Spared) :
    t.Guarded := by
  refine ⟨?_, ?_, ?_, ?_, ?_, hDestroyed⟩
  · rw [hHost]
    exact guarded.silent
  · rw [hHost, hFd]
    exact guarded.bound
  · rw [hHost, hPhase]
    exact guarded.outside
  · rw [hActivations]
    exact guarded.below
  · rw [hHost, hActivations]
    exact guarded.covered

theorem Guarded.open_of_shared (guarded : s.Guarded) (hShared : s.lifecycle = .shared) :
    s.eventFdOpen = true := by
  by_contra hClosed
  exact (guarded.destroyed (by simpa using hClosed)).notShared hShared

/-- `stopEventLoop` takes what is bound to the object out of the loop. -/
theorem Guarded.stopped (guarded : s.Guarded) (syscalls : Syscalls) :
    (s.stopEventLoop syscalls).host.loop.RemovedSilent ∧
      (s.stopEventLoop syscalls).host.loop.Registered
        fun _ handler => handler.callback ≠ .handleFdEvent := by
  obtain ⟨rc, removed, stopped, hRemove, hStop⟩ := s.stopEventLoop_performs syscalls
  refine ⟨(guarded.silent.perform hRemove).perform hStop, ?_⟩
  have hNone := EventLoopImpl.removeFdHandler_unregisters rfl hRemove
  have hBound := guarded.bound.perform (fun _ _ _ hHandler => hHandler) hRemove nofun
  have hUnbound : removed.Registered fun _ handler => handler.callback ≠ .handleFdEvent := by
    intro fd handler hFound hCallback
    obtain rfl := hBound fd handler hFound hCallback
    rw [hNone] at hFound
    cases hFound
  exact hUnbound.perform (fun _ _ _ hHandler => hHandler) hStop nofun

/-- `handleFdEvent` goes on. -/
theorem Guarded.moved (guarded : s.Guarded) {before after : HandlerPhase Func}
    {rest : List (Option (HandlerPhase Func))} (inHandler : s.InHandler before rest)
    (hHost : t.host.stack = s.host.stack) (hAfter : t.activations = some after :: rest)
    (hPhase : t.phase = s.phase) (hSilent : t.host.loop.RemovedSilent)
    (hBound : t.host.loop.Registered fun fd handler =>
      handler.callback = .handleFdEvent → fd = t.eventFd)
    (hDestroyed : t.eventFdOpen = false → t.Spared) : t.Guarded := by
  refine ⟨hSilent, hBound, ?_, ?_, ?_, hDestroyed⟩
  · rw [hHost, hPhase]
    exact guarded.outside
  · have hBelow := guarded.below
    rw [inHandler.top] at hBelow
    rw [hAfter]
    exact hBelow
  · intro hTop
    obtain ⟨object, below, hStack⟩ := inHandler.called
    exact absurd (hHost.trans hStack) (hTop object below)

theorem Guarded.not_left (guarded : s.Guarded) {phase : HandlerPhase Func}
    {below : List (Option (HandlerPhase Func))} (inHandler : s.InHandler phase below) :
    s.phase ≠ .left := by
  intro hLeft
  obtain ⟨object, stack, hStack⟩ := inHandler.called
  rw [guarded.outside (by simp [hLeft])] at hStack
  cases hStack

/-- A destroyed object is in use by no callback. -/
theorem Guarded.settled_of_closed (guarded : s.Guarded) (hClosed : s.eventFdOpen = false)
    {phase : HandlerPhase Func} {below : List (Option (HandlerPhase Func))}
    (inHandler : s.InHandler phase below) :
    ActiveObjectThread.settled (.handleFdEvent phase) := by
  have hAll := (guarded.destroyed hClosed).allSettled (guarded.not_left inHandler) (some phase)
    (by simp [inHandler.top])
  exact hAll phase rfl

theorem Guarded.step (guarded : s.Guarded)
    {action : HostedAction UserCallback EventHandlerFunc Func} (moves : s.Moves action t new) :
    t.Guarded := by
  cases moves with
  | scheduled hShared | releasedOnClient hShared =>
      have hOpen := guarded.open_of_shared hShared
      exact guarded.of_same rfl rfl rfl rfl fun hClosed =>
        absurd (hOpen.symm.trans hClosed) (by simp)
  | wrote hThread =>
      refine guarded.of_same rfl rfl rfl rfl fun hClosed => ?_
      rw [(guarded.destroyed hClosed).idle] at hThread
      cases hThread
  | registered hStarting hAdd | notRegistered hStarting hAdd =>
      have hBound := guarded.bound.perform (fun _ _ _ hHandler => hHandler) hAdd (by
        rintro fd eventMask callback hCall - -
        obtain ⟨rfl, -, -⟩ := EventLoop.Call.addFdHandler.inj hCall
        rfl)
      have hStack := guarded.outside (by simp [hStarting])
      exact ⟨guarded.silent.perform hAdd, hBound, fun _ => hStack, guarded.below,
        guarded.covered, fun hClosed => absurd hStarting (guarded.destroyed hClosed).started⟩
  | entered hInitializing _ hRun =>
      have hStack := guarded.outside (by simp [hInitializing])
      rw [s.step_enters hStack] at hRun
      obtain ⟨rfl, rfl⟩ := Prod.mk.inj (Option.some.inj hRun)
      have hLeft : s.phase ≠ .left := by simp [hInitializing]
      refine ⟨guarded.silent, guarded.bound, by simp, guarded.below,
        fun _ => guarded.covered (by simp [hStack]), fun hClosed => ?_⟩
      have spared := guarded.destroyed hClosed
      exact ⟨by simp, spared.notShared, spared.idle, fun _ => spared.unbound hLeft,
        fun _ => spared.allSettled hLeft⟩
  | looped hLeft hMay moves => exact guarded.afterLoop hLeft moves hMay
  | read inHandler | dequeued inHandler | foundEmpty inHandler | calledEmpty inHandler
  | called inHandler =>
      exact guarded.moved inHandler rfl rfl rfl guarded.silent guarded.bound
        fun hClosed => (guarded.settled_of_closed hClosed inHandler).elim
  | @stopped below syscalls inHandler =>
      obtain ⟨hSilent, hUnbound⟩ := guarded.stopped syscalls
      exact guarded.moved inHandler rfl rfl rfl hSilent
        (fun fd handler hFound hCallback => absurd hCallback (hUnbound fd handler hFound))
        fun hClosed => (guarded.settled_of_closed hClosed inHandler).elim
  | functionReturned inHandler =>
      refine guarded.moved inHandler rfl rfl rfl guarded.silent guarded.bound fun hClosed => ?_
      have spared := guarded.destroyed hClosed
      refine ⟨spared.started, spared.notShared, spared.idle, spared.unbound, fun hLeft => ?_⟩
      intro activation hActivation
      rcases List.mem_cons.mp hActivation with rfl | hRest
      · rintro phase hPhase
        obtain rfl := Option.mem_some_iff.mp hPhase
        trivial
      · apply spared.allSettled hLeft
        rw [inHandler.top]
        exact List.mem_cons_of_mem _ hRest
  | @releasedOnAoThread syscalls _ hIdle hUser =>
      obtain ⟨hSilent, hUnbound⟩ := guarded.stopped syscalls
      have hStarted : s.phase ≠ .starting := by
        intro hStarting
        simp [HostedObject.userCodeRuns, hStarting] at hUser
      exact ⟨hSilent, fun fd handler hFound hCallback =>
          absurd hCallback (hUnbound fd handler hFound),
        guarded.outside, guarded.below, guarded.covered, fun _ =>
        ⟨hStarted, by simp [destructOnAoThread], hIdle, fun _ => hUnbound,
          fun _ => guarded.settled_of_userCodeRuns hUser⟩⟩
  | joined hJoining hIdle hLeft =>
      exact ⟨guarded.silent, guarded.bound, guarded.outside, guarded.below, guarded.covered,
        fun _ => ⟨by simp [closeEventFd, hLeft], by simp [closeEventFd, hJoining], hIdle,
          fun hPhase => absurd hLeft hPhase, fun hPhase => absurd hLeft hPhase⟩⟩

/-- No step uses a destroyed object, and the loop does not call into it. -/
theorem Guarded.spares (guarded : s.Guarded) (hClosed : s.eventFdOpen = false)
    {action : HostedAction UserCallback EventHandlerFunc Func} (moves : s.Moves action t new) :
    ¬ Accesses action ∧
      ∀ fd eventMask, .loop (.dispatched .handleFdEvent fd eventMask) ∉ new := by
  have spared := guarded.destroyed hClosed
  cases moves with
  | scheduled hShared | releasedOnClient hShared | releasedOnAoThread hShared =>
      exact absurd hShared spared.notShared
  | wrote hThread =>
      rw [spared.idle] at hThread
      cases hThread
  | registered hStarting | notRegistered hStarting => exact absurd hStarting spared.started
  | joined _ _ _ hOpen => exact absurd (hOpen.symm.trans hClosed) (by simp)
  | read inHandler | dequeued inHandler | foundEmpty inHandler =>
      exact (guarded.settled_of_closed hClosed inHandler).elim
  | calledEmpty | called | stopped | functionReturned => exact ⟨id, by simp⟩
  | entered hInitializing _ hRun =>
      rw [s.step_enters (guarded.outside (by simp [hInitializing]))] at hRun
      obtain ⟨-, rfl⟩ := Prod.mk.inj (Option.some.inj hRun)
      exact ⟨id, by simp⟩
  | looped hLeft _ moves =>
      refine ⟨id, fun fd eventMask hDispatched => ?_⟩
      apply guarded.not_dispatched hClosed hLeft moves
      unfold HostedObject.afterLoop at hDispatched
      dsimp only at hDispatched
      split at hDispatched <;> simpa using hDispatched

end HostedObject

/-- In every run, whatever the users of the loop do and whichever system calls fail: once
the Active Object has been destroyed, no step of any thread uses it and the event loop
does not call `handleFdEvent` any more, although events of the eventfd may still be in
its batches and another descriptor may have got the number of the eventfd.  A run ends
where the loop comes to an event whose `FdHandler` has been released, as a nested `run()`
may do. -/
theorem run_spares_destroyed_object
    {steps : List (HostedObject UserCallback EventHandlerFunc Func ×
      HostedAction UserCallback EventHandlerFunc Func)}
    {history new : List (HostedOutput UserCallback EventHandlerFunc Func)}
    {s t : HostedObject UserCallback EventHandlerFunc Func}
    (run : (hostedSystem UserCallback EventHandlerFunc Func).Run steps history s)
    (hClosed : s.eventFdOpen = false)
    {action : HostedAction UserCallback EventHandlerFunc Func}
    (hStep : s.step action = some (t, new)) :
    ¬ HostedObject.Accesses action ∧
      ∀ fd eventMask, .loop (.dispatched .handleFdEvent fd eventMask) ∉ new := by
  have guarded : s.Guarded := by
    refine run.invariant_of_all (fun _ s => s.Guarded) ?_ ?_
    · rintro s ⟨aoThread, eventFd, hCreate⟩
      exact HostedObject.guarded_create hCreate
    · intro history s action t new guarded hStep
      exact guarded.step (HostedObject.moves_of_step hStep)
  exact guarded.spares hClosed (HostedObject.moves_of_step hStep)

/-- In a `run()` inside a callback the last reference is dropped and another descriptor
gets the number; the outer batch still has an event of the eventfd. -/
def destroyedInside : List (HostedAction Nat Nat Nat) :=
  [.addFdHandler ⟨3, true⟩, .enterRun, .loop .proceed, .loop .proceed, .loop .proceed,
    .loop .proceed, .executeFunction 1 (some 10), .write 1,
    .loop (.epollWaitReturns (.events [⟨Epoll.epollIn, 0⟩])), .loop .proceed, .read,
    .dequeueFunction, .call ⟨3, true⟩,
    .loop (.call 0 ⟨3, true⟩ (.addFdHandler 8 fdEventIn (.user 80))), .functionReturns,
    .loop .userReturns, .loop .proceed, .loop .proceed, .loop .proceed, .loop .proceed,
    .loop .proceed, .executeFunction 1 (some 20), .write 1,
    .loop (.epollWaitReturns (.events [⟨Epoll.epollIn, 1⟩, ⟨Epoll.epollIn, 0⟩])),
    .loop .proceed, .loop (.run 0), .loop .proceed, .loop .proceed, .loop .proceed,
    .loop .proceed, .loop (.epollWaitReturns (.events [⟨Epoll.epollIn, 0⟩])), .loop .proceed,
    .read, .dequeueFunction, .call ⟨3, true⟩, .releaseOnAoThread ⟨3, true⟩,
    .loop (.call 0 ⟨3, true⟩ (.addFdHandler 5 fdEventIn (.user 90))), .functionReturns,
    .loop .userReturns, .loop .proceed, .loop .proceed, .loop .proceed, .loop .userReturns,
    .loop .proceed]

theorem destroyedInside_spared : ∃ (s : HostedObject Nat Nat Nat) (below : _),
    s.host.stack = .run (.handling [⟨Epoll.epollIn, 0⟩]) :: below ∧
      s.host.loop.fdHandlers.lookup 5 ≠ none ∧ ∃ t new,
        s.step (.loop .proceed) = some (t, new) ∧
          ∀ eventMask, .loop (.dispatched .handleFdEvent 5 eventMask) ∉ new := by
  obtain ⟨steps, history, s, run, hClosed, hStack, hNew, t, new, hStep⟩ :
      ∃ steps history s, (hostedSystem Nat Nat Nat).Run steps history s ∧
        s.eventFdOpen = false ∧
        s.host.stack = [.run (.handling [⟨Epoll.epollIn, 0⟩])] ∧
        s.host.loop.fdHandlers.lookup 5 ≠ none ∧
        ∃ t new, s.step (.loop .proceed) = some (t, new) :=
    ⟨_, _, _, run_of_replay (⟨⟨.construct 0, []⟩, [], .starting, [], 0, [], .shared, 5, true⟩ :
      HostedObject Nat Nat Nat) destroyedInside ⟨0, 5, rfl⟩ rfl, rfl, rfl, by decide, _, _, rfl⟩
  exact ⟨s, [], hStack, hNew, t, new, hStep, (run_spares_destroyed_object run hClosed hStep).2 5⟩

end ActiveObject
end UtilsFramework
