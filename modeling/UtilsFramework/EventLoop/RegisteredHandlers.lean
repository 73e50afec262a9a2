import UtilsFramework.EventLoop.StaleEvents

/-!
# What is known about registered handlers

Only `addFdHandler` puts a handler into the map, `updateFdEvents` rewrites its
event bits, and nothing else happens to it while it stays there.  A property of
the handlers that does not depend on their event bits is therefore kept by every
step, if the handlers that users add have it.  Whatever the nesting of `run()`,
a removed handler asks for no event, so only registered handlers are called.
-/

namespace UtilsFramework
namespace EventLoop

open Library
open Library.Epoll

variable {CallbackFunc EventHandlerFunc : Type}

namespace EventLoopImpl

/-- Every registered handler has the property. -/
def Registered (P : Fd → FdHandler CallbackFunc → Prop)
    (loop : EventLoopImpl CallbackFunc EventHandlerFunc) : Prop :=
  ∀ fd handler, loop.fdHandlers.lookup fd = some handler → P fd handler

/-- No removed handler asks for an event. -/
def RemovedSilent (loop : EventLoopImpl CallbackFunc EventHandlerFunc) : Prop :=
  ∀ handler, UnorderedMap.Holds loop.removedFdHandlers handler → handler.epollEvents = 0

theorem registered_construct (P : Fd → FdHandler CallbackFunc → Prop)
    (threadId : ThreadId) :
    (construct threadId : EventLoopImpl CallbackFunc EventHandlerFunc).Registered P := by
  simp [Registered, construct]

theorem removedSilent_construct (threadId : ThreadId) :
    (construct threadId : EventLoopImpl CallbackFunc EventHandlerFunc).RemovedSilent := by
  simp [RemovedSilent, construct]

section Calls

variable {loop next : EventLoopImpl CallbackFunc EventHandlerFunc}
  {P : Fd → FdHandler CallbackFunc → Prop}

theorem Registered.insert (hRegistered : loop.Registered P) {fd : Fd}
    {handler : FdHandler CallbackFunc} (hNew : P fd handler)
    (hHandlers : next.fdHandlers = loop.fdHandlers.insert fd handler) :
    next.Registered P := by
  intro other found hFound
  rw [hHandlers] at hFound
  by_cases hFd : other = fd
  · subst hFd
    rw [AList.lookup_insert] at hFound
    rw [← Option.some.inj hFound]
    exact hNew
  · rw [AList.lookup_insert_ne hFd] at hFound
    exact hRegistered other found hFound

theorem Registered.erase (hRegistered : loop.Registered P) {fd : Fd}
    (hHandlers : next.fdHandlers = loop.fdHandlers.erase fd) : next.Registered P := by
  intro other found hFound
  rw [hHandlers] at hFound
  by_cases hFd : other = fd
  · subst hFd
    rw [AList.lookup_erase] at hFound
    cases hFound
  · rw [AList.lookup_erase_ne hFd] at hFound
    exact hRegistered other found hFound

/-- A call keeps a property of the handlers that a handler it adds has. -/
theorem Registered.perform (hRegistered : loop.Registered P)
    (hEvents : ∀ fd handler events, P fd handler → P fd { handler with epollEvents := events })
    {caller : ThreadId} {syscalls : Syscalls} {call : Call CallbackFunc EventHandlerFunc}
    {rc : ReturnCode} (hPerform : loop.perform caller syscalls call = (rc, next))
    (hAdded : ∀ fd eventMask callback, call = .addFdHandler fd eventMask callback →
      rc = .normal → P fd (loop.newFdHandler fd eventMask callback)) :
    next.Registered P := by
  cases call with
  | addFdHandler fd eventMask callback =>
      rcases addFdHandler_cases hPerform with ⟨_, _, _, _, rfl⟩ | ⟨hNormal, _, _, _, rfl⟩
      · exact hRegistered
      · exact hRegistered.insert (hAdded fd eventMask callback rfl hNormal) rfl
  | updateFdEvents fd eventMask =>
      rcases updateFdEvents_cases hPerform with
        ⟨rfl, _⟩ | ⟨_, _, handler, hHandler, ⟨_, _, rfl⟩ | ⟨_, _, rfl⟩⟩
      · exact hRegistered
      · exact hRegistered.insert (hEvents _ _ _ (hRegistered fd handler hHandler)) rfl
      · exact hRegistered.insert (hEvents _ _ _ (hRegistered fd handler hHandler)) rfl
  | removeFdHandler fd =>
      rcases removeFdHandler_cases hPerform with ⟨rfl, _⟩ | ⟨_, _, _, _, rfl⟩
      · exact hRegistered
      · exact hRegistered.erase rfl
  | scheduleEvent eventHandler =>
      rcases scheduleEvent_cases hPerform with ⟨_, rfl⟩ | ⟨_, rfl⟩ <;> exact hRegistered
  | stop =>
      rcases stop_cases hPerform with ⟨_, rfl⟩ | ⟨_, rfl⟩ <;> exact hRegistered

theorem RemovedSilent.perform (hSilent : loop.RemovedSilent) {caller : ThreadId}
    {syscalls : Syscalls} {call : Call CallbackFunc EventHandlerFunc} {rc : ReturnCode}
    (hPerform : loop.perform caller syscalls call = (rc, next)) : next.RemovedSilent := by
  cases call with
  | addFdHandler fd eventMask callback =>
      rcases addFdHandler_cases hPerform with ⟨_, _, _, _, rfl⟩ | ⟨_, _, _, _, rfl⟩ <;>
        exact hSilent
  | updateFdEvents fd eventMask =>
      rcases updateFdEvents_cases hPerform with
        ⟨rfl, _⟩ | ⟨_, _, _, _, ⟨_, _, rfl⟩ | ⟨_, _, rfl⟩⟩ <;> exact hSilent
  | removeFdHandler fd =>
      rcases removeFdHandler_cases hPerform with ⟨rfl, _⟩ | ⟨_, _, _, _, rfl⟩
      · exact hSilent
      · rintro handler ⟨other, hFound⟩
        rcases UnorderedMap.lookup_emplace_cases hFound with hOld | ⟨_, _, rfl⟩
        · exact hSilent handler ⟨other, hOld⟩
        · rfl
  | scheduleEvent eventHandler =>
      rcases scheduleEvent_cases hPerform with ⟨_, rfl⟩ | ⟨_, rfl⟩ <;> exact hSilent
  | stop =>
      rcases stop_cases hPerform with ⟨_, rfl⟩ | ⟨_, rfl⟩ <;> exact hSilent

/-- A call never changes the thread a loop belongs to. -/
theorem perform_threadId {caller : ThreadId} {syscalls : Syscalls}
    {call : Call CallbackFunc EventHandlerFunc} {rc : ReturnCode}
    (hPerform : loop.perform caller syscalls call = (rc, next)) :
    next.threadId = loop.threadId := by
  cases call with
  | addFdHandler fd eventMask callback =>
      rcases addFdHandler_cases hPerform with ⟨_, _, _, _, rfl⟩ | ⟨_, _, _, _, rfl⟩ <;> rfl
  | updateFdEvents fd eventMask =>
      rcases updateFdEvents_cases hPerform with
        ⟨rfl, _⟩ | ⟨_, _, _, _, ⟨_, _, rfl⟩ | ⟨_, _, rfl⟩⟩ <;> rfl
  | removeFdHandler fd =>
      rcases removeFdHandler_cases hPerform with ⟨rfl, _⟩ | ⟨_, _, _, _, rfl⟩ <;> rfl
  | scheduleEvent eventHandler =>
      rcases scheduleEvent_cases hPerform with ⟨_, rfl⟩ | ⟨_, rfl⟩ <;> rfl
  | stop =>
      rcases stop_cases hPerform with ⟨_, rfl⟩ | ⟨_, rfl⟩ <;> rfl

/-- Nothing is registered without the kernel. -/
theorem succeeds_of_addFdHandler {caller : ThreadId} {syscalls : Syscalls} {fd : Fd}
    {eventMask : EventMask} {callback : CallbackFunc}
    (hAdd : loop.addFdHandler caller syscalls fd eventMask callback = (.normal, next)) :
    syscalls.epollCtlSucceeds = true := by
  by_contra hFails
  rw [Bool.not_eq_true] at hFails
  unfold addFdHandler at hAdd
  simp only [hFails, epollCtl_fails] at hAdd
  split at hAdd
  · cases hAdd
  split at hAdd
  · cases hAdd
  split at hAdd
  · cases hAdd
  split at hAdd <;> cases hAdd

/-- On the thread of the loop a descriptor is unregistered after its removal. -/
theorem removeFdHandler_unregisters {caller : ThreadId} {syscalls : Syscalls} {fd : Fd}
    {rc : ReturnCode} (hThread : loop.threadId = caller)
    (hRemove : loop.removeFdHandler caller syscalls fd = (rc, next)) :
    next.fdHandlers.lookup fd = none := by
  rcases removeFdHandler_cases hRemove with ⟨rfl, hEarly⟩ | ⟨_, _, _, _, rfl⟩
  · exact AList.lookup_eq_none.mpr (hEarly.resolve_left (not_not.mpr hThread))
  · exact AList.lookup_erase _ _

end Calls
end EventLoopImpl

namespace LoopThread

variable {s t : LoopThread CallbackFunc EventHandlerFunc}
  {action : Action CallbackFunc EventHandlerFunc}
  {new : List (Output CallbackFunc EventHandlerFunc)}

theorem Moves.registered (moves : Moves s action t new)
    {P : Fd → FdHandler CallbackFunc → Prop} (hRegistered : s.loop.Registered P)
    (hEvents : ∀ fd handler events, P fd handler → P fd { handler with epollEvents := events })
    (hAdded : ∀ caller syscalls fd eventMask callback,
      action = .call caller syscalls (.addFdHandler fd eventMask callback) →
      P fd (s.loop.newFdHandler fd eventMask callback)) : t.loop.Registered P := by
  by_cases hCall : ∃ caller syscalls call, action = .call caller syscalls call
  · obtain ⟨caller, syscalls, call, rfl⟩ := hCall
    cases moves with
    | call _ hPerform =>
        refine hRegistered.perform hEvents hPerform ?_
        rintro fd eventMask callback rfl -
        exact hAdded caller syscalls fd eventMask callback rfl
  · push Not at hCall
    intro fd handler hFound
    rw [(moves.keeps_registry hCall).1] at hFound
    exact hRegistered fd handler hFound

theorem Moves.removedSilent (moves : Moves s action t new)
    (hSilent : s.loop.RemovedSilent) : t.loop.RemovedSilent := by
  cases moves with
  | call _ hPerform => exact hSilent.perform hPerform
  | clears => simp [EventLoopImpl.RemovedSilent]
  | _ => exact hSilent

theorem Moves.threadId (moves : Moves s action t new) :
    t.loop.threadId = s.loop.threadId := by
  cases moves with
  | call _ hPerform => exact EventLoopImpl.perform_threadId hPerform
  | _ => rfl

/-- Only a registered handler is called, with a bit it asks for. -/
theorem Moves.dispatched_registered (moves : Moves s action t new)
    (hSilent : s.loop.RemovedSilent) {callback : CallbackFunc} {fd : Fd}
    {eventMask : EventMask} (hDispatched : .dispatched callback fd eventMask ∈ new) :
    ∃ key handler events, s.loop.fdHandlers.lookup key = some handler ∧
      handler.callback = callback ∧ handler.fd = fd ∧
      eventMask = convertToLocalEvents (events &&& handler.epollEvents) ∧ eventMask ≠ 0 := by
  cases moves with
  | @dispatches event _ _ fdHandler _ hResolve hMask =>
      obtain ⟨rfl, rfl, rfl⟩ := Output.dispatched.inj (List.mem_singleton.mp hDispatched)
      rcases Option.or_eq_some_iff.mp hResolve with hFound | ⟨_, hFound⟩
      · obtain ⟨⟨key, hKey⟩, _⟩ := UnorderedMap.findValue_some hFound
        exact ⟨key, fdHandler, event.events, hKey, rfl, rfl, rfl, hMask⟩
      · obtain ⟨hRemoved, _⟩ := UnorderedMap.findValue_some hFound
        rw [hSilent fdHandler hRemoved] at hMask
        exact absurd (convertToLocalEvents_and_zero event.events) hMask
  | _ => simp at hDispatched

end LoopThread
end EventLoop
end UtilsFramework
