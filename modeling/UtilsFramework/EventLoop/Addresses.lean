import UtilsFramework.EventLoop.Run

/-!
# Addresses of handlers

The events of a batch refer to handlers by address, and an address stands for one
object for good.  Two descriptors never share an object, and a new object gets an
address that no object had before.  An object that is no longer registered is
therefore never registered again, under its own descriptor or another one.
-/

namespace UtilsFramework
namespace EventLoop

open Library
open Library.TransitionSystem

variable {CallbackFunc EventHandlerFunc : Type}

section Maps

variable {map : FdHandlerMap CallbackFunc} {fd other : Fd} {object : ObjectId}

/-- What is in the map after an insertion is the new object or was there before. -/
theorem objectAt_insert_cases {handler : FdHandler CallbackFunc}
    (hAt : objectAt (map.insert fd handler) other = some object) :
    other = fd ∧ object = handler.object ∨ objectAt map other = some object := by
  rw [objectAt_insert] at hAt
  split at hAt
  · rename_i hFd
    exact Or.inl ⟨hFd, (Option.some.inj hAt).symm⟩
  · exact Or.inr hAt

/-- What is left after an erasure is under another key. -/
theorem objectAt_erase_cases (hAt : objectAt (map.erase fd) other = some object) :
    other ≠ fd ∧ objectAt map other = some object := by
  rw [objectAt_erase] at hAt
  split at hAt
  · cases hAt
  · rename_i hFd
    exact ⟨hFd, hAt⟩

end Maps

namespace EventLoopImpl

/-- Registered objects are older than the next one, and every one has its own
descriptor. -/
structure Addressed (loop : EventLoopImpl CallbackFunc EventHandlerFunc) : Prop where
  registeredOld : ∀ fd object, objectAt loop.fdHandlers fd = some object →
    object < loop.nextObject
  injective : ∀ fd other object, objectAt loop.fdHandlers fd = some object →
    objectAt loop.fdHandlers other = some object → fd = other

/-- An object that has been allocated and is not registered. -/
structure Unregistered (loop : EventLoopImpl CallbackFunc EventHandlerFunc)
    (object : ObjectId) : Prop where
  old : object < loop.nextObject
  nowhere : ∀ fd, objectAt loop.fdHandlers fd ≠ some object

variable {loop next : EventLoopImpl CallbackFunc EventHandlerFunc} {object : ObjectId}

theorem addressed_construct (threadId : ThreadId) :
    (construct threadId : EventLoopImpl CallbackFunc EventHandlerFunc).Addressed where
  registeredOld := by simp [construct]
  injective := by simp [construct]

theorem Addressed.change (addressed : loop.Addressed) (hChange : loop.RegistryChange next) :
    next.Addressed := by
  cases hChange with
  | keeps hObjects _ hNext =>
      constructor
      · intro fd object hAt
        rw [hObjects] at hAt
        exact Nat.lt_of_lt_of_le (addressed.registeredOld fd object hAt) hNext
      · simp only [hObjects]
        exact addressed.injective
  | @registers fd handler _ hNew hHandlers _ hNext =>
      constructor
      · intro other object hAt
        rw [hHandlers] at hAt
        rw [hNext]
        rcases objectAt_insert_cases hAt with ⟨-, rfl⟩ | hOld
        · rw [hNew]
          exact Nat.lt_succ_self _
        · exact Nat.lt_succ_of_lt (addressed.registeredOld other object hOld)
      · intro first second object hFirst hSecond
        -- an object that is as old as the new one would be older than itself
        have hNotOld : ∀ other, objectAt loop.fdHandlers other ≠ some handler.object := by
          intro other hAt
          have hOld := addressed.registeredOld other _ hAt
          rw [hNew] at hOld
          exact Nat.lt_irrefl _ hOld
        rw [hHandlers] at hFirst hSecond
        rcases objectAt_insert_cases hFirst with ⟨rfl, rfl⟩ | hOldFirst <;>
          rcases objectAt_insert_cases hSecond with ⟨rfl, hSame⟩ | hOldSecond
        · rfl
        · exact absurd hOldSecond (hNotOld second)
        · rw [hSame] at hOldFirst
          exact absurd hOldFirst (hNotOld first)
        · exact addressed.injective _ _ _ hOldFirst hOldSecond
  | unregisters _ hHandlers _ hNext =>
      constructor
      · intro fd object hAt
        rw [hHandlers] at hAt
        rw [hNext]
        exact addressed.registeredOld fd object (objectAt_erase_cases hAt).2
      · intro first second object hFirst hSecond
        rw [hHandlers] at hFirst hSecond
        exact addressed.injective _ _ _ (objectAt_erase_cases hFirst).2
          (objectAt_erase_cases hSecond).2

/-- What is not registered stays so: a new object is a different one. -/
theorem Unregistered.change (unregistered : loop.Unregistered object)
    (hChange : loop.RegistryChange next) : next.Unregistered object := by
  cases hChange with
  | keeps hObjects _ hNext =>
      refine ⟨Nat.lt_of_lt_of_le unregistered.old hNext, ?_⟩
      simp only [hObjects]
      exact unregistered.nowhere
  | registers _ hNew hHandlers _ hNext =>
      constructor
      · rw [hNext]
        exact Nat.lt_succ_of_lt unregistered.old
      · intro other hAt
        rw [hHandlers] at hAt
        rcases objectAt_insert_cases hAt with ⟨-, rfl⟩ | hOld
        · exact absurd unregistered.old (hNew ▸ Nat.lt_irrefl _)
        · exact unregistered.nowhere other hOld
  | unregisters _ hHandlers _ hNext =>
      constructor
      · rw [hNext]
        exact unregistered.old
      · intro other hAt
        rw [hHandlers] at hAt
        exact unregistered.nowhere other (objectAt_erase_cases hAt).2

/-- On the thread of the loop, `removeFdHandler` unregisters the object of the
descriptor. -/
theorem Addressed.unregistered_of_removeFdHandler (addressed : loop.Addressed)
    {caller : ThreadId} {syscalls : Syscalls} {fd : Fd} {rc : ReturnCode}
    (hThread : loop.threadId = caller) (hObject : objectAt loop.fdHandlers fd = some object)
    (hRemove : loop.removeFdHandler caller syscalls fd = (rc, next)) :
    next.Unregistered object := by
  rcases removeFdHandler_cases hRemove with ⟨-, hForeign | hNotMem⟩ | ⟨-, -, handler, -, rfl⟩
  · exact absurd hThread hForeign
  · rw [objectAt, AList.lookup_eq_none.mpr hNotMem] at hObject
    cases hObject
  · refine ⟨addressed.registeredOld fd object hObject, fun other hAt => ?_⟩
    obtain ⟨hFd, hOther⟩ := objectAt_erase_cases hAt
    exact hFd (addressed.injective _ _ _ hOther hObject)

end EventLoopImpl

/-! ## Runs -/

/-- The step removes the handler with the given address. -/
def RemovesHandler (object : ObjectId) (s : LoopThread CallbackFunc EventHandlerFunc) :
    Action CallbackFunc EventHandlerFunc → Prop
  | .call caller _ (.removeFdHandler fd) =>
      s.loop.threadId = caller ∧ objectAt s.loop.fdHandlers fd = some object
  | _ => False

instance (object : ObjectId) (s : LoopThread CallbackFunc EventHandlerFunc)
    (action : Action CallbackFunc EventHandlerFunc) :
    Decidable (RemovesHandler object s action) :=
  match action with
  | .call caller _ (.removeFdHandler fd) => inferInstanceAs
      (Decidable (s.loop.threadId = caller ∧ objectAt s.loop.fdHandlers fd = some object))
  | .call _ _ (.addFdHandler _ _ _) | .call _ _ (.updateFdEvents _ _)
  | .call _ _ (.scheduleEvent _) | .call _ _ .stop | .run _ | .userReturns
  | .epollWaitReturns _ | .signalStop | .proceed => isFalse id

namespace LoopThread

variable {s t : LoopThread CallbackFunc EventHandlerFunc}
  {action : Action CallbackFunc EventHandlerFunc}
  {new : List (Output CallbackFunc EventHandlerFunc)}

theorem Moves.addressed (moves : Moves s action t new) (addressed : s.loop.Addressed) :
    t.loop.Addressed := by
  cases moves with
  | call _ hPerform => exact addressed.change (EventLoopImpl.perform_changes_registry hPerform)
  | _ => exact ⟨addressed.registeredOld, addressed.injective⟩

theorem Moves.unregistered (moves : Moves s action t new) {object : ObjectId}
    (unregistered : s.loop.Unregistered object) : t.loop.Unregistered object := by
  cases moves with
  | call _ hPerform =>
      exact unregistered.change (EventLoopImpl.perform_changes_registry hPerform)
  | _ => exact ⟨unregistered.old, unregistered.nowhere⟩

theorem Moves.unregistered_of_removes (moves : Moves s action t new)
    (addressed : s.loop.Addressed) {object : ObjectId}
    (hRemoves : RemovesHandler object s action) : t.loop.Unregistered object := by
  cases moves with
  | @call caller syscalls call _ _ _ hPerform =>
      cases call with
      | removeFdHandler fd =>
          exact addressed.unregistered_of_removeFdHandler hRemoves.1 hRemoves.2 hPerform
      | addFdHandler | updateFdEvents | scheduleEvent | stop => cases hRemoves
  | _ => cases hRemoves

end LoopThread

section Runs

variable {steps : List (LoopThread CallbackFunc EventHandlerFunc ×
    Action CallbackFunc EventHandlerFunc)}
  {history : List (Output CallbackFunc EventHandlerFunc)}
  {s : LoopThread CallbackFunc EventHandlerFunc}

theorem addressed_of_run (run : (runSystem CallbackFunc EventHandlerFunc).Run steps history s) :
    s.loop.Addressed := by
  refine run.invariant_of_all (fun _ s => s.loop.Addressed) ?_ ?_
  · rintro s ⟨threadId, rfl⟩
    exact EventLoopImpl.addressed_construct threadId
  · intro history s action t new addressed hStep
    exact (LoopThread.moves_of_step hStep).addressed addressed

/-- A handler that has been removed is not registered again, whatever is added
afterwards. -/
theorem unregistered_of_run
    (run : (runSystem CallbackFunc EventHandlerFunc).Run steps history s) {object : ObjectId}
    (hRemoved : ∃ visited ∈ steps, RemovesHandler object visited.1 visited.2) :
    s.loop.Unregistered object := by
  induction run with
  | start => simp at hRemoved
  | next run hStep ih =>
      have moves := LoopThread.moves_of_step hStep
      obtain ⟨visited, hVisited, hRemoves⟩ := hRemoved
      rcases List.mem_append.mp hVisited with hEarlier | hLast
      · exact moves.unregistered (ih ⟨visited, hEarlier, hRemoves⟩)
      · rw [List.mem_singleton.mp hLast] at hRemoves
        exact moves.unregistered_of_removes (addressed_of_run run) hRemoves

end Runs

end EventLoop
end UtilsFramework
