import UtilsFramework.ActiveObject.DestroyedObject
import UtilsFramework.EventLoop.WatchedDescriptors

/-!
# Events of a destroyed Active Object

A batch of the event loop may still have events of the eventfd when the Active Object
is destroyed, and the loop follows the pointers of these events.  A nested `run()` may
have released the handlers they lead to by then, and a handler whose `EPOLL_CTL_DEL`
failed may be reported after its release.

This file shows that nothing else can go wrong.  In a run that keeps the handlers in
use, every event still leads to a handler, and one that was bound to the destroyed
object is skipped.
-/

namespace UtilsFramework
namespace ActiveObject

open Library
open Library.Epoll (Event)
open Library.TransitionSystem
open EventLoop (EventLoopImpl LoopThread LifetimeInvariant Fd ObjectId ThreadId Syscalls)

variable {UserCallback EventHandlerFunc Func : Type}

/-- The loop releases no handler in use and is told of registered ones only. -/
def KeepsHandlers (s : HostedObject UserCallback EventHandlerFunc Func) :
    HostedAction UserCallback EventHandlerFunc Func → Prop
  | .loop action =>
      EventLoop.ClearsUnreferenced s.host action ∧ EventLoop.ReportsRegistered s.host action
  | _ => True

instance (s : HostedObject UserCallback EventHandlerFunc Func)
    (action : HostedAction UserCallback EventHandlerFunc Func) :
    Decidable (KeepsHandlers s action) :=
  match action with
  | .loop action => inferInstanceAs (Decidable (EventLoop.ClearsUnreferenced s.host action ∧
      EventLoop.ReportsRegistered s.host action))
  | .executeFunction _ _ | .write _ | .addFdHandler _ | .enterRun | .read | .dequeueFunction
  | .call _ | .functionReturns | .releaseOnClient _ | .releaseOnAoThread _ | .joinReturns =>
      isTrue trivial

/-! ## The handlers in use -/

/-- The loop finds every handler that an unfinished batch or a running callback refers
to, whatever the nesting of `run()`. -/
structure HandlersKept (host : LoopThread (Callback UserCallback) EventHandlerFunc) :
    Prop where
  lifetime : LifetimeInvariant host
  referenced : host.KeepsReferenced

namespace HandlersKept

variable {host next : LoopThread (Callback UserCallback) EventHandlerFunc}
  {action : EventLoop.Action (Callback UserCallback) EventHandlerFunc}
  {outputs : List (EventLoop.Output (Callback UserCallback) EventHandlerFunc)}

theorem move (kept : HandlersKept host) (moves : host.Moves action next outputs)
    (hClears : EventLoop.ClearsUnreferenced host action)
    (hReports : EventLoop.ReportsRegistered host action) : HandlersKept next where
  lifetime := kept.lifetime.step moves
  referenced := (EventLoop.keepsReferenced_step_iff kept.lifetime kept.referenced moves).mpr
    ⟨hClears, hReports⟩

/-- A call of the interface by user code. -/
theorem perform (kept : HandlersKept host) (hUser : EventLoop.userCodeRuns host.stack = true)
    {caller : ThreadId} {syscalls : Syscalls}
    {call : EventLoop.Call (Callback UserCallback) EventHandlerFunc} {rc : EventLoop.ReturnCode}
    {loop : EventLoopImpl (Callback UserCallback) EventHandlerFunc}
    (hPerform : host.loop.perform caller syscalls call = (rc, loop)) :
    HandlersKept { host with loop := loop } :=
  kept.move (.call (Or.inr hUser) hPerform) trivial trivial

/-- The kernel forgets a descriptor that is closed. -/
theorem dropInterest (kept : HandlersKept host) (fd : Fd) :
    HandlersKept { host with loop := { host.loop with
      interestList := host.loop.interestList.erase fd } } where
  lifetime :=
    ⟨kept.lifetime.nested, kept.lifetime.separated.dropInterest fd, kept.lifetime.cleared⟩
  referenced := kept.referenced

theorem stopEventLoop {s : HostedObject UserCallback EventHandlerFunc Func}
    (kept : HandlersKept s.host)
    (hUser : EventLoop.userCodeRuns s.host.stack = true) (syscalls : Syscalls) :
    HandlersKept (s.stopEventLoop syscalls).host := by
  obtain ⟨rc, removed, stopped, hRemove, hStop⟩ := s.stopEventLoop_performs syscalls
  have hRemoved := kept.perform hUser hRemove
  exact hRemoved.perform hUser hStop

end HandlersKept

namespace HostedObject

variable {s t : HostedObject UserCallback EventHandlerFunc Func}
  {new : List (HostedOutput UserCallback EventHandlerFunc Func)}

theorem handlersKept_create {aoThread : ThreadId} {eventFd : Fd}
    (hCreate : create aoThread eventFd = some s) : HandlersKept s.host := by
  unfold create at hCreate
  split at hCreate
  · cases hCreate
  · obtain rfl := Option.some.inj hCreate
    exact ⟨EventLoop.lifetimeInvariant_construct aoThread,
      by simp [LoopThread.KeepsReferenced]⟩

/-- What is user code of the object is user code of the loop. -/
theorem Guarded.loopUserCode (guarded : s.Guarded) (hUser : s.userCodeRuns = true) :
    EventLoop.userCodeRuns s.host.stack = true := by
  by_cases hLooping : s.phase = .looping
  · cases hStack : s.host.stack with
    | nil => rfl
    | cons frame below =>
        cases frame with
        | callback | eventHandler => rfl
        | run | executeScheduledEvents =>
            simp [HostedObject.userCodeRuns, hLooping, hStack] at hUser
  · rw [guarded.outside hLooping]
    rfl

theorem afterLoop_host {action : EventLoop.Action (Callback UserCallback) EventHandlerFunc}
    {next : LoopThread (Callback UserCallback) EventHandlerFunc}
    {outputs : List (EventLoop.Output (Callback UserCallback) EventHandlerFunc)} :
    (s.afterLoop action next outputs).1.host = next := by
  unfold HostedObject.afterLoop
  dsimp only
  split <;> rfl

theorem Guarded.handlersKept_step (guarded : s.Guarded) (kept : HandlersKept s.host)
    {action : HostedAction UserCallback EventHandlerFunc Func}
    (hKeeps : KeepsHandlers s action) (moves : s.Moves action t new) :
    HandlersKept t.host := by
  cases moves with
  | scheduled | wrote | read | dequeued | foundEmpty | calledEmpty | called | functionReturned
  | releasedOnClient => exact kept
  | registered hStarting hAdd | notRegistered hStarting hAdd =>
      have hStack := guarded.outside (by simp [hStarting])
      exact kept.perform (by rw [hStack]; rfl) hAdd
  | entered _ _ hRun => exact kept.move (EventLoop.LoopThread.moves_of_step hRun) trivial trivial
  | looped _ _ moves =>
      rw [afterLoop_host]
      exact kept.move moves hKeeps.1 hKeeps.2
  | @stopped _ syscalls inHandler =>
      obtain ⟨object, stack, hStack⟩ := inHandler.called
      exact kept.stopEventLoop (by rw [hStack]; rfl) syscalls
  | @releasedOnAoThread syscalls _ _ hUser =>
      exact (kept.stopEventLoop (guarded.loopUserCode hUser) syscalls).dropInterest s.eventFd
  | joined => exact kept.dropInterest s.eventFd

/-- A removed handler asks for no event, so the loop skips what is reported of it. -/
theorem Guarded.skips (guarded : s.Guarded) (hClosed : s.eventFdOpen = false)
    {event : Event ObjectId} {rest : List (Event ObjectId)}
    {below : List (EventLoop.Frame EventHandlerFunc)}
    (hTop : s.host.stack = .run (.handling (event :: rest)) :: below)
    {handler : EventLoop.FdHandler (Callback UserCallback)}
    (hResolve : s.host.loop.resolve event.data = some handler)
    (hBound : handler.callback = .handleFdEvent) :
    s.step (.loop .proceed) =
      some ({ s with host := { s.host with stack := .run (.handling rest) :: below } }, []) := by
  have spared := guarded.destroyed hClosed
  have hLooping : s.phase = .looping := by
    by_contra hPhase
    rw [guarded.outside hPhase] at hTop
    cases hTop
  have hSilent : handler.epollEvents = 0 := by
    rcases Option.or_eq_some_iff.mp hResolve with hFound | ⟨-, hFound⟩
    · obtain ⟨⟨fd, hHere⟩, -⟩ := UnorderedMap.findValue_some hFound
      exact absurd hBound (spared.unbound (by simp [hLooping]) fd handler hHere)
    · exact guarded.silent handler (UnorderedMap.findValue_some hFound).1
  have hMask : EventLoop.convertToLocalEvents (event.events &&& handler.epollEvents) = 0 := by
    rw [hSilent]
    exact EventLoop.convertToLocalEvents_and_zero event.events
  have hNext : s.host.step .proceed =
      some ({ s.host with stack := .run (.handling rest) :: below }, []) := by
    simp [LoopThread.step, hTop, LoopThread.proceedRun, LoopThread.handleEpollEvent, hResolve,
      hMask]
  simp [HostedObject.step, mayStep, aoThreadFree, spared.idle, hLooping, hNext,
    HostedObject.afterLoop, activationsAfter]

end HostedObject

/-- In every run that keeps the handlers in use: when the loop comes to an event after
the Active Object has been destroyed, the pointer of the event still leads to a handler,
and if that handler was bound to the object the event is skipped. -/
theorem run_skips_destroyed_object
    {steps : List (HostedObject UserCallback EventHandlerFunc Func ×
      HostedAction UserCallback EventHandlerFunc Func)}
    {history : List (HostedOutput UserCallback EventHandlerFunc Func)}
    {s : HostedObject UserCallback EventHandlerFunc Func}
    (run : (hostedSystem UserCallback EventHandlerFunc Func).Run steps history s)
    (hKeeps : EveryStep KeepsHandlers steps) (hClosed : s.eventFdOpen = false)
    {event : Event ObjectId} {rest : List (Event ObjectId)}
    {below : List (EventLoop.Frame EventHandlerFunc)}
    (hTop : s.host.stack = .run (.handling (event :: rest)) :: below) :
    ∃ handler, s.host.loop.resolve event.data = some handler ∧
      (handler.callback = .handleFdEvent →
        s.step (.loop .proceed) =
          some ({ s with host := { s.host with stack := .run (.handling rest) :: below } },
            [])) := by
  have hInv : s.Guarded ∧ HandlersKept s.host := by
    refine run.invariant KeepsHandlers (fun _ s => s.Guarded ∧ HandlersKept s.host) ?_ ?_ hKeeps
    · rintro s ⟨aoThread, eventFd, hCreate⟩
      exact ⟨HostedObject.guarded_create hCreate, HostedObject.handlersKept_create hCreate⟩
    · rintro history s action t new ⟨guarded, kept⟩ hKeep hStep
      have moves := HostedObject.moves_of_step hStep
      exact ⟨guarded.step moves, guarded.handlersKept_step kept hKeep moves⟩
  have hOwned := hInv.2.referenced event.data (by simp [hTop, EventLoop.Frame.references])
  obtain ⟨handler, hResolve, -, -⟩ := EventLoopImpl.resolve_of_owned hOwned
  exact ⟨handler, hResolve, hInv.1.skips hClosed hTop hResolve⟩

theorem destroyedInside_skipped : ∃ (s : HostedObject Nat Nat Nat) (below : _),
    s.host.stack = .run (.handling [⟨Epoll.epollIn, 0⟩]) :: below ∧
      s.step (.loop .proceed) =
        some ({ s with host := { s.host with stack := .run (.handling []) :: below } }, []) := by
  obtain ⟨steps, history, s, run, hKeeps, hClosed, hStack, hResolve⟩ :
      ∃ steps history s, (hostedSystem Nat Nat Nat).Run steps history s ∧
        EveryStep KeepsHandlers steps ∧ s.eventFdOpen = false ∧
        s.host.stack = [.run (.handling [⟨Epoll.epollIn, 0⟩])] ∧
        s.host.loop.resolve 0 = some ⟨0, 5, 0, .handleFdEvent⟩ :=
    ⟨_, _, _, run_of_replay (⟨⟨.construct 0, []⟩, [], .starting, [], 0, [], .shared, 5, true⟩ :
      HostedObject Nat Nat Nat) destroyedInside ⟨0, 5, rfl⟩ rfl, by decide, rfl, rfl, rfl⟩
  obtain ⟨handler, hFound, hSkips⟩ := run_skips_destroyed_object run hKeeps hClosed hStack
  obtain rfl : _ = handler := Option.some.inj (hResolve.symm.trans hFound)
  exact ⟨s, [], hStack, hSkips rfl⟩

end ActiveObject
end UtilsFramework
