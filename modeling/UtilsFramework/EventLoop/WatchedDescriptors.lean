import UtilsFramework.EventLoop.Lifetime

/-!
# Descriptors a component relies on

A component that registers a descriptor once and never touches it again relies on
the loop in between.  `WatchesIn` says that the descriptor has its handler in
`m_fdHandlers` and in the interest list, with the same address and the bits of
`FdEventIn`.  Only `updateFdEvents` and `removeFdHandler` for this descriptor, from the
thread of the loop, can end that.  As long as it lasts, a waiting `run()` may be
told of the descriptor and calls the callback next.
-/

namespace UtilsFramework
namespace EventLoop

open Library
open Library.Epoll

variable {CallbackFunc EventHandlerFunc : Type}

/-- The descriptor whose registration a call may end or change. -/
def Call.disturbs : Call CallbackFunc EventHandlerFunc → Option Fd
  | .updateFdEvents fd _ => some fd
  | .removeFdHandler fd => some fd
  | _ => none

namespace EventLoopImpl

variable {loop next : EventLoopImpl CallbackFunc EventHandlerFunc} {fd : Fd}
  {callback : CallbackFunc}

/-- The callback is registered for input, and the kernel has been told so. -/
def WatchesIn (loop : EventLoopImpl CallbackFunc EventHandlerFunc) (fd : Fd)
    (callback : CallbackFunc) : Prop :=
  ∃ handler, loop.fdHandlers.lookup fd = some handler ∧ handler.callback = callback ∧
    handler.fd = fd ∧ handler.epollEvents = epollIn ∧
    loop.interestList.lookup fd = some (interestOf handler)

theorem WatchesIn.of_lookups (watches : loop.WatchesIn fd callback)
    (hHandlers : next.fdHandlers.lookup fd = loop.fdHandlers.lookup fd)
    (hInterest : next.interestList.lookup fd = loop.interestList.lookup fd) :
    next.WatchesIn fd callback := by
  obtain ⟨handler, hFound, hCallback, hFd, hEvents, hInterested⟩ := watches
  exact ⟨handler, hHandlers.trans hFound, hCallback, hFd, hEvents,
    hInterest.trans hInterested⟩

/-- Only one callback can be the one of a descriptor. -/
theorem WatchesIn.unique (watches : loop.WatchesIn fd callback) {other : CallbackFunc}
    (hOther : loop.WatchesIn fd other) : callback = other := by
  obtain ⟨handler, hFound, rfl, -⟩ := watches
  obtain ⟨found, hOtherFound, rfl, -⟩ := hOther
  rw [Option.some.inj (hFound.symm.trans hOtherFound)]

theorem WatchesIn.perform (watches : loop.WatchesIn fd callback) {caller : ThreadId}
    {syscalls : Syscalls} {call : Call CallbackFunc EventHandlerFunc} {rc : ReturnCode}
    (hPerform : loop.perform caller syscalls call = (rc, next))
    (hLeaves : loop.threadId = caller → call.disturbs ≠ some fd) :
    next.WatchesIn fd callback := by
  obtain ⟨handler, hFound, -⟩ := id watches
  have hMem : fd ∈ loop.fdHandlers := AList.lookup_isSome.mp (by rw [hFound]; rfl)
  cases call with
  | addFdHandler other eventMask added =>
      rcases addFdHandler_cases hPerform with ⟨_, _, _, _, rfl⟩ | ⟨_, hFree, _, _, rfl⟩
      · exact watches.of_lookups rfl rfl
      · have hFd : fd ≠ other := fun hSame => hFree (hSame ▸ hMem)
        exact watches.of_lookups (AList.lookup_insert_ne hFd) (AList.lookup_insert_ne hFd)
  | updateFdEvents other eventMask =>
      rcases updateFdEvents_cases hPerform with
        ⟨rfl, _⟩ | ⟨hThread, _, _, _, ⟨_, _, rfl⟩ | ⟨_, _, rfl⟩⟩
      · exact watches
      all_goals have hFd : fd ≠ other := fun hSame => hLeaves hThread (congrArg some hSame.symm)
      · exact watches.of_lookups (AList.lookup_insert_ne hFd) rfl
      · exact watches.of_lookups (AList.lookup_insert_ne hFd) (AList.lookup_insert_ne hFd)
  | removeFdHandler other =>
      rcases removeFdHandler_cases hPerform with ⟨rfl, _⟩ | ⟨hThread, _, _, _, rfl⟩
      · exact watches
      · have hFd : fd ≠ other := fun hSame => hLeaves hThread (congrArg some hSame.symm)
        exact watches.of_lookups (AList.lookup_erase_ne hFd)
          (epollCtl_delete_getD_lookup_ne hFd)
  | scheduleEvent eventHandler =>
      rcases scheduleEvent_cases hPerform with ⟨_, rfl⟩ | ⟨_, rfl⟩ <;>
        exact watches.of_lookups rfl rfl
  | stop =>
      rcases stop_cases hPerform with ⟨_, rfl⟩ | ⟨_, rfl⟩ <;>
        exact watches.of_lookups rfl rfl

theorem watchesIn_of_addFdHandler {caller : ThreadId} {syscalls : Syscalls}
    (hAdd : loop.addFdHandler caller syscalls fd fdEventIn callback = (.normal, next)) :
    next.WatchesIn fd callback := by
  rcases addFdHandler_cases hAdd with ⟨hError, -⟩ | ⟨-, -, -, epfd, rfl⟩
  · exact absurd rfl hError
  · exact ⟨_, AList.lookup_insert _, rfl, rfl, rfl, AList.lookup_insert _⟩

/-- The kernel may drop an interest on its own. -/
theorem Separated.dropInterest {inUse : List ObjectId} (separated : loop.Separated inUse)
    (dropped : Fd) :
    ({ loop with interestList := loop.interestList.erase dropped } :
      EventLoopImpl CallbackFunc EventHandlerFunc).Separated inUse :=
  { separated with
    interestOld := by
      intro other interest hInterest
      by_cases hFd : other = dropped
      · subst hFd
        rw [AList.lookup_erase] at hInterest
        cases hInterest
      · rw [AList.lookup_erase_ne hFd] at hInterest
        exact separated.interestOld other interest hInterest }

/-- The address of a registered handler leads back to it. -/
theorem resolve_of_lookup {inUse : List ObjectId} (separated : loop.Separated inUse)
    {handler : FdHandler CallbackFunc} (hFound : loop.fdHandlers.lookup fd = some handler) :
    loop.resolve handler.object = some handler := by
  have hHolds : UnorderedMap.Holds loop.fdHandlers handler := ⟨fd, hFound⟩
  unfold resolve
  cases hFind : UnorderedMap.findValue
      (fun found => decide (found.object = handler.object)) loop.fdHandlers with
  | none => simpa using UnorderedMap.findValue_none hFind hHolds
  | some found =>
      obtain ⟨⟨other, hOther⟩, hTest⟩ := UnorderedMap.findValue_some hFind
      have hObject : found.object = handler.object := of_decide_eq_true hTest
      obtain rfl := separated.injective _ _ _ (objectAt_of_lookup hFound)
        (hObject ▸ objectAt_of_lookup hOther)
      rw [Option.some_or, ← hOther, hFound]

end EventLoopImpl

namespace LoopThread

variable {s t : LoopThread CallbackFunc EventHandlerFunc} {fd : Fd} {callback : CallbackFunc}

theorem Moves.watchesIn {action : Action CallbackFunc EventHandlerFunc}
    {new : List (Output CallbackFunc EventHandlerFunc)} (moves : Moves s action t new)
    (watches : s.loop.WatchesIn fd callback)
    (hLeaves : ∀ syscalls call, action = .call s.loop.threadId syscalls call →
      call.disturbs ≠ some fd) : t.loop.WatchesIn fd callback := by
  cases moves with
  | call _ hPerform =>
      refine watches.perform hPerform fun hThread => ?_
      subst hThread
      exact hLeaves _ _ rfl
  | _ => exact watches.of_lookups rfl rfl

theorem Moves.separated {action : Action CallbackFunc EventHandlerFunc}
    {new : List (Output CallbackFunc EventHandlerFunc)} (moves : Moves s action t new)
    {inUse : List ObjectId} (separated : s.loop.Separated inUse) :
    t.loop.Separated inUse := by
  cases moves with
  | call _ hPerform => exact separated.perform hPerform
  | clears => exact separated.clear
  | _ => exact separated.of_eq rfl rfl rfl rfl

/-- A waiting `run()` may get the event of a watched descriptor, and its next step
is the call of the callback. -/
theorem dispatches_watched {below : List (Frame EventHandlerFunc)}
    (hWaiting : s.stack = .run .waiting :: below) (separated : s.loop.Separated [])
    (watches : s.loop.WatchesIn fd callback) :
    ∃ object, s.loop.interestList.lookup fd = some ⟨epollIn, object⟩ ∧
      s.step (.epollWaitReturns (.events [⟨epollIn, object⟩])) =
        some (⟨s.loop, .run (.handling [⟨epollIn, object⟩]) :: below⟩, []) ∧
      (⟨s.loop, .run (.handling [⟨epollIn, object⟩]) :: below⟩ :
        LoopThread CallbackFunc EventHandlerFunc).step .proceed =
        some (⟨s.loop, .callback object :: .executeScheduledEvents ::
          .run (.handling []) :: below⟩, [.dispatched callback fd fdEventIn]) := by
  obtain ⟨handler, hFound, rfl, rfl, hEvents, hInterest⟩ := watches
  have hResolve := EventLoopImpl.resolve_of_lookup separated hFound
  rw [EventLoopImpl.interestOf, hEvents] at hInterest
  have hBatch : batchFrom s.loop.interestList maxEvents [⟨epollIn, handler.object⟩] = true :=
    batchFrom_singleton (by decide) hInterest
  have hMask : convertToLocalEvents (epollIn &&& handler.epollEvents) = fdEventIn := by
    rw [hEvents]
    decide
  refine ⟨handler.object, hInterest, ?_, ?_⟩
  · simp only [step, hWaiting, epollWaitReturns, hBatch, if_true]
  · simp only [step, proceedRun, handleEpollEvent, hResolve, hMask]
    rfl

end LoopThread
end EventLoop
end UtilsFramework
