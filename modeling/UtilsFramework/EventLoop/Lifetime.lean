import UtilsFramework.EventLoop.CallStack
import UtilsFramework.EventLoop.StaleEvents

/-!
# The lifetime of handlers under re-entrant `run()`

Every activation of `run()` clears the one `m_removedFdHandlers` they share.
The unfinished batches and the running callbacks of the outer activations still
refer to objects, and a removed object they refer to lives only in that map.
The file finds the exact steps that release an object in use: an inner
activation that clears such an object away, and a batch whose pointers the
interest list kept although the handler had been removed.

That removing a handler never releases an object in use, even when its key is
taken in `m_removedFdHandlers`, is the invariant `Separated`: whatever the
nesting, an object in use that is still registered has no older object of its
descriptor among the removed ones, because no batch is captured before they
are cleared.
-/

namespace UtilsFramework
namespace EventLoop

open Library
open Library.Epoll
open Library.TransitionSystem

variable {CallbackFunc EventHandlerFunc : Type}

/-! ## Objects in use -/

/-- The objects a frame still needs: those of its unhandled events, or the one
whose callback is running. -/
def Frame.references : Frame EventHandlerFunc → List ObjectId
  | .run (.handling events) => events.map Event.data
  | .callback object => [object]
  | _ => []

/-- The objects the unfinished batches and the running callbacks refer to. -/
def references (stack : List (Frame EventHandlerFunc)) : List ObjectId :=
  stack.flatMap Frame.references

@[simp]
theorem references_nil : references ([] : List (Frame EventHandlerFunc)) = [] := rfl

@[simp]
theorem references_cons (frame : Frame EventHandlerFunc)
    (below : List (Frame EventHandlerFunc)) :
    references (frame :: below) = frame.references ++ references below :=
  List.flatMap_cons

/-- Every object in use is owned by one of the two maps. -/
def LoopThread.KeepsReferenced (s : LoopThread CallbackFunc EventHandlerFunc) : Prop :=
  ∀ object ∈ references s.stack,
    Owns s.loop.fdHandlers object ∨ Owns s.loop.removedFdHandlers object

instance (map : FdHandlerMap CallbackFunc) (object : ObjectId) :
    Decidable (Owns map object) :=
  decidable_of_iff (∃ handler ∈ map.entries.map Sigma.snd, handler.object = object) <| by
    simp only [Owns, UnorderedMap.holds_iff_mem_values]

/-! ## Addresses stay apart -/

namespace EventLoopImpl

/-- The two maps hold different objects, all of them, like the kernel's
pointers and the objects in use, older than the next one; and an object in use
that is registered is not shadowed by a removed one of the same descriptor. -/
structure Separated (loop : EventLoopImpl CallbackFunc EventHandlerFunc)
    (inUse : List ObjectId) : Prop extends loop.Addressed where
  removedOld : ∀ fd object, objectAt loop.removedFdHandlers fd = some object →
    object < loop.nextObject
  interestOld : ∀ fd interest, loop.interestList.lookup fd = some interest →
    interest.data < loop.nextObject
  inUseOld : ∀ object ∈ inUse, object < loop.nextObject
  apart : ∀ fd other object, objectAt loop.fdHandlers fd = some object →
    objectAt loop.removedFdHandlers other ≠ some object
  shadowed : ∀ fd object, objectAt loop.fdHandlers fd = some object →
    objectAt loop.removedFdHandlers fd ≠ none → object ∉ inUse

namespace Separated

variable {loop next : EventLoopImpl CallbackFunc EventHandlerFunc}
  {inUse fewer : List ObjectId}

theorem construct (threadId : ThreadId) :
    (EventLoopImpl.construct threadId :
      EventLoopImpl CallbackFunc EventHandlerFunc).Separated [] where
  toAddressed := addressed_construct threadId
  removedOld := by simp [EventLoopImpl.construct]
  interestOld := by simp [EventLoopImpl.construct]
  inUseOld := by simp
  apart := by simp [EventLoopImpl.construct]
  shadowed := by simp

theorem mono (separated : loop.Separated inUse) (hSubset : fewer ⊆ inUse) :
    loop.Separated fewer :=
  { separated with
    inUseOld := fun object hObject => separated.inUseOld object (hSubset hObject)
    shadowed := fun fd object hAt hTaken hObject =>
      separated.shadowed fd object hAt hTaken (hSubset hObject) }

/-- The flags and the queue of the loop do not matter. -/
theorem of_eq (separated : loop.Separated inUse)
    (hHandlers : next.fdHandlers = loop.fdHandlers)
    (hRemoved : next.removedFdHandlers = loop.removedFdHandlers)
    (hInterest : next.interestList = loop.interestList)
    (hNext : next.nextObject = loop.nextObject) : next.Separated inUse := by
  obtain ⟨⟨hRegisteredOld, hInjective⟩, hRemovedOld, hInterestOld, hInUseOld, hApart,
    hShadowed⟩ := separated
  refine ⟨⟨?_, ?_⟩, ?_, ?_, ?_, ?_, ?_⟩ <;> simpa only [hHandlers, hRemoved, hInterest, hNext]

/-- Clearing the removed handlers. -/
theorem clear (separated : loop.Separated inUse) :
    ({ loop with removedFdHandlers := ∅ } :
      EventLoopImpl CallbackFunc EventHandlerFunc).Separated inUse :=
  { separated with
    removedOld := by simp
    apart := by simp
    shadowed := by simp }

/-- A batch is captured while no handler is waiting to be released. -/
theorem capture (separated : loop.Separated inUse) (hRemoved : loop.removedFdHandlers = ∅)
    {events : List (Event ObjectId)}
    (hBatch : batchFrom loop.interestList maxEvents events = true) :
    loop.Separated (events.map Event.data ++ inUse) :=
  { separated with
    inUseOld := by
      intro object hObject
      rcases List.mem_append.mp hObject with hEvents | hInUse
      · obtain ⟨event, hEvent, rfl⟩ := List.mem_map.mp hEvents
        obtain ⟨fd, interest, hLookup, hData⟩ :=
          exists_interest_of_reports (reports_of_mem_batch hBatch hEvent)
        rw [← hData]
        exact separated.interestOld fd interest hLookup
      · exact separated.inUseOld object hInUse
    shadowed := by
      intro fd object _ hTaken
      rw [hRemoved, objectAt_empty] at hTaken
      exact absurd rfl hTaken }

/-- No call of the interface mixes objects up. -/
theorem perform (separated : loop.Separated inUse) {caller : ThreadId}
    {syscalls : Syscalls} {call : Call CallbackFunc EventHandlerFunc} {rc : ReturnCode}
    (hPerform : loop.perform caller syscalls call = (rc, next)) :
    next.Separated inUse := by
  have hChange := perform_changes_registry hPerform
  have addressed := separated.toAddressed.change hChange
  -- the kernel's pointers are old since the registered objects are
  have hInterestOld : loop.nextObject ≤ next.nextObject →
      ∀ fd interest, next.interestList.lookup fd = some interest →
        interest.data < next.nextObject := by
    intro hNext fd interest hLookup
    rcases perform_interests hPerform hLookup with hOld | hHandler
    · exact Nat.lt_of_lt_of_le (separated.interestOld fd interest hOld) hNext
    · obtain ⟨handler, hFound, rfl⟩ := Option.map_eq_some_iff.mp hHandler
      exact addressed.registeredOld fd handler.object (objectAt_of_lookup hFound)
  cases hChange with
  | keeps hObjects hRemoved hNext =>
      refine ⟨addressed, ?_, hInterestOld hNext, ?_, ?_, ?_⟩
      · rw [hRemoved]
        exact fun fd object hAt =>
          Nat.lt_of_lt_of_le (separated.removedOld fd object hAt) hNext
      · exact fun object hObject =>
          Nat.lt_of_lt_of_le (separated.inUseOld object hObject) hNext
      · simp only [hObjects, hRemoved]
        exact separated.apart
      · simp only [hObjects, hRemoved]
        exact separated.shadowed
  | @registers fd handler hFree hNew hHandlers hRemoved hNext =>
      have hGrows : loop.nextObject ≤ next.nextObject := by
        rw [hNext]
        exact Nat.le_succ _
      refine ⟨addressed, ?_, hInterestOld hGrows, ?_, ?_, ?_⟩
      · intro other object hAt
        rw [hRemoved] at hAt
        exact Nat.lt_of_lt_of_le (separated.removedOld other object hAt) hGrows
      · exact fun object hObject =>
          Nat.lt_of_lt_of_le (separated.inUseOld object hObject) hGrows
      · intro first second object hFirst hSecond
        rw [hHandlers] at hFirst
        rw [hRemoved] at hSecond
        rcases objectAt_insert_cases hFirst with ⟨-, rfl⟩ | hOld
        · exact absurd (separated.removedOld _ _ hSecond) (hNew ▸ Nat.lt_irrefl _)
        · exact separated.apart _ _ _ hOld hSecond
      · intro other object hAt hTaken hObject
        rw [hHandlers] at hAt
        rw [hRemoved] at hTaken
        rcases objectAt_insert_cases hAt with ⟨-, rfl⟩ | hOld
        · exact absurd (separated.inUseOld _ hObject) (hNew ▸ Nat.lt_irrefl _)
        · exact separated.shadowed _ _ hOld hTaken hObject
  | @unregisters fd handler hHandler hHandlers hRemoved hNext =>
      have hHere := objectAt_of_lookup hHandler
      have hGone : ∀ {other object}, objectAt next.removedFdHandlers other = some object →
          object = handler.object ∨ objectAt loop.removedFdHandlers other = some object := by
        intro other object hAt
        rw [hRemoved, objectAt_emplace] at hAt
        split at hAt
        · rename_i hFd
          subst hFd
          cases hOld : objectAt loop.removedFdHandlers other with
          | none =>
              rw [hOld] at hAt
              exact Or.inl (Option.some.inj hAt).symm
          | some old =>
              rw [hOld] at hAt
              exact Or.inr hAt
        · exact Or.inr hAt
      refine ⟨addressed, ?_, hInterestOld (Nat.le_of_eq hNext.symm), ?_, ?_, ?_⟩
      · intro other object hAt
        rw [hNext]
        rcases hGone hAt with rfl | hOld
        · exact separated.registeredOld fd _ hHere
        · exact separated.removedOld other object hOld
      · rw [hNext]
        exact separated.inUseOld
      · intro first second object hFirst hSecond
        rw [hHandlers] at hFirst
        obtain ⟨hFd, hOld⟩ := objectAt_erase_cases hFirst
        rcases hGone hSecond with rfl | hSecond
        · exact hFd (separated.injective _ _ _ hOld hHere)
        · exact separated.apart _ _ _ hOld hSecond
      · intro other object hAt hTaken
        rw [hHandlers] at hAt
        obtain ⟨hFd, hOld⟩ := objectAt_erase_cases hAt
        rw [hRemoved, objectAt_emplace, if_neg hFd] at hTaken
        exact separated.shadowed _ _ hOld hTaken

/-- No call of the interface releases an object in use. -/
theorem perform_keeps_owned (separated : loop.Separated inUse) {caller : ThreadId}
    {syscalls : Syscalls} {call : Call CallbackFunc EventHandlerFunc} {rc : ReturnCode}
    (hPerform : loop.perform caller syscalls call = (rc, next)) {object : ObjectId}
    (hInUse : object ∈ inUse)
    (hOwned : Owns loop.fdHandlers object ∨ Owns loop.removedFdHandlers object) :
    Owns next.fdHandlers object ∨ Owns next.removedFdHandlers object := by
  refine (perform_changes_registry hPerform).keeps_owned (fun fd hAt => ?_) hOwned
  by_contra hTaken
  exact separated.shadowed fd object hAt hTaken hInUse

end Separated
end EventLoopImpl

/-! ## Runs of any nesting -/

/-- What the outer frames refer to when the innermost activation is about to
clear the removed handlers. -/
def referencesAtClear : List (Frame EventHandlerFunc) → List ObjectId
  | .run .clearing :: below => references below
  | _ => []

/-- An activation does not clear away a removed handler that an outer batch or
a running callback refers to. -/
def ClearsUnreferenced (s : LoopThread CallbackFunc EventHandlerFunc) :
    Action CallbackFunc EventHandlerFunc → Prop
  | .proceed =>
      ∀ object ∈ referencesAtClear s.stack, ¬ Owns s.loop.removedFdHandlers object
  | _ => True

/-- A batch carries the pointers of registered handlers only. -/
def ReportsRegistered (s : LoopThread CallbackFunc EventHandlerFunc) :
    Action CallbackFunc EventHandlerFunc → Prop
  | .epollWaitReturns (.events events) =>
      ∀ event ∈ events, Owns s.loop.fdHandlers event.data
  | _ => True

instance (s : LoopThread CallbackFunc EventHandlerFunc)
    (action : Action CallbackFunc EventHandlerFunc) :
    Decidable (ClearsUnreferenced s action) :=
  match action with
  | .proceed => inferInstanceAs (Decidable (∀ object ∈ referencesAtClear s.stack,
      ¬ Owns s.loop.removedFdHandlers object))
  | .call _ _ _ | .run _ | .userReturns | .epollWaitReturns _ | .signalStop => isTrue trivial

instance (s : LoopThread CallbackFunc EventHandlerFunc)
    (action : Action CallbackFunc EventHandlerFunc) :
    Decidable (ReportsRegistered s action) :=
  match action with
  | .epollWaitReturns (.events events) =>
      inferInstanceAs (Decidable (∀ event ∈ events, Owns s.loop.fdHandlers event.data))
  | .epollWaitReturns .interrupted | .epollWaitReturns .failed | .call _ _ _ | .run _
  | .userReturns | .signalStop | .proceed => isTrue trivial

/-- The invariant of all runs, whatever is called from where. -/
structure LifetimeInvariant (s : LoopThread CallbackFunc EventHandlerFunc) : Prop where
  nested : WellNested s.stack
  separated : s.loop.Separated (references s.stack)
  cleared : ∀ below, s.stack = .run .calling :: below ∨ s.stack = .run .waiting :: below →
    s.loop.removedFdHandlers = ∅

/-- Below user code and `executeScheduledEvents` there is no waiting activation. -/
theorem not_waiting_of_userCodeRuns {stack below : List (Frame EventHandlerFunc)}
    {phase : RunPhase} (hUser : userCodeRuns stack = true) :
    stack ≠ .run phase :: below := by
  rintro rfl
  cases hUser

theorem EventLoopImpl.resolve_object
    {loop : EventLoopImpl CallbackFunc EventHandlerFunc} {object : ObjectId}
    {handler : FdHandler CallbackFunc} (hResolve : loop.resolve object = some handler) :
    handler.object = object := by
  have hTest : ∀ map : FdHandlerMap CallbackFunc,
      UnorderedMap.findValue (fun handler => decide (handler.object = object)) map =
        some handler → handler.object = object := fun map hFind => by
    simpa using (UnorderedMap.findValue_some hFind).2
  rcases Option.or_eq_some_iff.mp hResolve with hFind | ⟨_, hFind⟩
  · exact hTest _ hFind
  · exact hTest _ hFind

theorem LifetimeInvariant.step {s t : LoopThread CallbackFunc EventHandlerFunc}
    {action : Action CallbackFunc EventHandlerFunc}
    {new : List (Output CallbackFunc EventHandlerFunc)} (hInv : LifetimeInvariant s)
    (moves : LoopThread.Moves s action t new) : LifetimeInvariant t := by
  obtain ⟨nested, separated, cleared⟩ := hInv
  refine ⟨nested.step moves, ?_, ?_⟩
  · cases moves with
    | call _ hPerform => exact separated.perform hPerform
    | runElsewhere => exact separated
    | runEnters => exact separated
    | signalStop => exact separated.of_eq rfl rfl rfl rfl
    | batch hStack hBatch =>
        rw [hStack] at separated
        exact separated.capture (cleared _ (Or.inr hStack)) hBatch
    | clears hStack =>
        rw [hStack] at separated
        exact separated.clear
    | dispatches hStack hResolve =>
        rw [hStack] at separated
        refine separated.mono ?_
        rw [EventLoopImpl.resolve_object hResolve]
        simp [Frame.references]
    | setsRunning hStack | executes hStack =>
        rw [hStack] at separated
        exact separated.of_eq rfl rfl rfl rfl
    | callbackReturns hStack | eventHandlerReturns hStack | interrupted hStack
    | failed hStack | goesOn hStack | leaves hStack | waits hStack | batchDone hStack
    | skips hStack | drained hStack =>
        rw [hStack] at separated
        refine separated.mono ?_
        simp [Frame.references]
  · intro below hWaiting
    cases moves with
    | call hAllowed hPerform =>
        rcases hAllowed with hForeign | hUser
        · rw [(EventLoopImpl.perform_elsewhere hForeign hPerform).2]
          exact cleared below hWaiting
        · rcases hWaiting with hTop | hTop <;>
            exact absurd hTop (not_waiting_of_userCodeRuns hUser)
    | runElsewhere => exact cleared below hWaiting
    | signalStop => exact cleared below hWaiting
    | clears => rfl
    | waits hStack => exact cleared _ (Or.inl hStack)
    | callbackReturns hStack =>
        rw [hStack] at nested
        cases nested with
        | callback nested => simp at hWaiting
    | eventHandlerReturns hStack =>
        rw [hStack] at nested
        cases nested with
        | eventHandler nested => simp at hWaiting
    | drained hStack =>
        rw [hStack] at nested
        cases nested with
        | draining nested => simp at hWaiting
    | failed hStack | leaves hStack =>
        rw [hStack] at nested
        rcases hWaiting with hTop | hTop <;>
          exact absurd hTop (not_waiting_of_userCodeRuns nested.userCodeRuns_below)
    | _ => simp at hWaiting

theorem lifetimeInvariant_construct (threadId : ThreadId) :
    LifetimeInvariant ({ loop := .construct threadId, stack := [] } :
      LoopThread CallbackFunc EventHandlerFunc) :=
  ⟨.idle, .construct threadId, by simp⟩

theorem lifetimeInvariant_of_run
    {steps : List (LoopThread CallbackFunc EventHandlerFunc ×
      Action CallbackFunc EventHandlerFunc)}
    {history : List (Output CallbackFunc EventHandlerFunc)}
    {s : LoopThread CallbackFunc EventHandlerFunc}
    (run : (runSystem CallbackFunc EventHandlerFunc).Run steps history s) :
    LifetimeInvariant s := by
  refine run.invariant_of_all (fun _ s => LifetimeInvariant s) ?_ ?_
  · rintro s ⟨threadId, rfl⟩
    exact lifetimeInvariant_construct threadId
  · intro history s action t new hInv hStep
    exact hInv.step (LoopThread.moves_of_step hStep)

/-- Fewer references into the same maps. -/
theorem LoopThread.KeepsReferenced.of_subset
    {s t : LoopThread CallbackFunc EventHandlerFunc} (hKeeps : s.KeepsReferenced)
    (hReferences : references t.stack ⊆ references s.stack)
    (hHandlers : t.loop.fdHandlers = s.loop.fdHandlers)
    (hRemoved : t.loop.removedFdHandlers = s.loop.removedFdHandlers) :
    t.KeepsReferenced := by
  intro object hObject
  rw [hHandlers, hRemoved]
  exact hKeeps object (hReferences hObject)

/-- A step out of a state that owns what is in use leads to one exactly if it
meets the condition. -/
theorem keepsReferenced_step_iff {s t : LoopThread CallbackFunc EventHandlerFunc}
    {action : Action CallbackFunc EventHandlerFunc}
    {new : List (Output CallbackFunc EventHandlerFunc)} (hInv : LifetimeInvariant s)
    (hKeeps : s.KeepsReferenced) (moves : LoopThread.Moves s action t new) :
    t.KeepsReferenced ↔ ClearsUnreferenced s action ∧ ReportsRegistered s action := by
  cases moves with
  | call _ hPerform =>
      refine iff_of_true ?_ ⟨trivial, trivial⟩
      exact fun object hObject =>
        hInv.separated.perform_keeps_owned hPerform hObject (hKeeps object hObject)
  | @batch events below hStack _ =>
      have hRemoved := hInv.cleared below (Or.inr hStack)
      simp only [ClearsUnreferenced, ReportsRegistered, true_and]
      constructor
      · intro hAfter event hEvent
        have hMem : event.data ∈ references
            (.run (.handling events) :: below : List (Frame EventHandlerFunc)) := by
          rw [references_cons]
          exact List.mem_append_left _ (List.mem_map_of_mem hEvent)
        refine (hAfter event.data hMem).resolve_right ?_
        show ¬ Owns s.loop.removedFdHandlers event.data
        rw [hRemoved, owns_iff_objectAt]
        simp
      · intro hRegistered object hObject
        rw [references_cons] at hObject
        rcases List.mem_append.mp hObject with hEvents | hBelow
        · obtain ⟨event, hEvent, rfl⟩ := List.mem_map.mp hEvents
          exact Or.inl (hRegistered event hEvent)
        · refine hKeeps object ?_
          rw [hStack]
          exact hBelow
  | @clears below hStack =>
      have hReferences : references s.stack = references below := by
        rw [hStack]
        rfl
      simp only [ClearsUnreferenced, ReportsRegistered, hStack, referencesAtClear, and_true]
      constructor
      · intro hAfter object hObject hRemoved
        rcases hAfter object hObject with hRegistered | hNone
        · obtain ⟨fd, hAt⟩ := owns_iff_objectAt.mp hRegistered
          obtain ⟨other, hOther⟩ := owns_iff_objectAt.mp hRemoved
          exact hInv.separated.apart fd other object hAt hOther
        · obtain ⟨handler, hHolds, _⟩ := hNone
          exact UnorderedMap.not_holds_empty handler hHolds
      · intro hUnused object hObject
        have hOwned := hKeeps object (hReferences ▸ hObject)
        exact Or.inl (hOwned.resolve_right (hUnused object hObject))
  | dispatches hStack hResolve =>
      refine iff_of_true (hKeeps.of_subset ?_ rfl rfl) ?_
      · rw [hStack, EventLoopImpl.resolve_object hResolve]
        simp [Frame.references]
      · simp [ClearsUnreferenced, ReportsRegistered, hStack, referencesAtClear]
  | runElsewhere | runEnters | signalStop =>
      exact iff_of_true (hKeeps.of_subset (by simp [Frame.references]) rfl rfl)
        ⟨trivial, trivial⟩
  | callbackReturns hStack | eventHandlerReturns hStack | interrupted hStack
  | failed hStack | setsRunning hStack | goesOn hStack | leaves hStack | waits hStack
  | batchDone hStack | skips hStack | drained hStack | executes hStack =>
      refine iff_of_true (hKeeps.of_subset ?_ rfl rfl) ?_
      · rw [hStack]
        simp [Frame.references]
      · simp [ClearsUnreferenced, ReportsRegistered, hStack, referencesAtClear]

theorem stepKeepsSides_of_ctlSucceeds {s : LoopThread CallbackFunc EventHandlerFunc}
    {action : Action CallbackFunc EventHandlerFunc} (hSucceeds : CtlSucceeds s action) :
    StepKeepsSides s action := by
  cases action with
  | call caller syscalls call => exact EventLoopImpl.callKeepsSides_of_succeeds hSucceeds
  | _ => trivial

/-- In every run, re-entrant or not, no handler that an unfinished batch or a
running callback refers to is ever released, exactly if no activation of
`run()` clears such a handler away and no batch reports a handler that is not
registered. -/
theorem run_keeps_referenced_iff
    {steps : List (LoopThread CallbackFunc EventHandlerFunc ×
      Action CallbackFunc EventHandlerFunc)}
    {history : List (Output CallbackFunc EventHandlerFunc)}
    {s : LoopThread CallbackFunc EventHandlerFunc}
    (run : (runSystem CallbackFunc EventHandlerFunc).Run steps history s) :
    (runSystem CallbackFunc EventHandlerFunc).Always (fun _ s => s.KeepsReferenced)
        (fun _ _ _ _ => True) steps history s ↔
      EveryStep (fun s action => ClearsUnreferenced s action ∧ ReportsRegistered s action)
        steps := by
  refine run.always_iff_everyStep (fun _ s => LifetimeInvariant s) ?_ ?_ ?_
  · rintro s ⟨threadId, rfl⟩
    exact ⟨lifetimeInvariant_construct threadId, by simp [LoopThread.KeepsReferenced]⟩
  · intro history s action t new hInv _ hStep _ _
    exact hInv.step (LoopThread.moves_of_step hStep)
  · intro history s action t new hInv hKeeps hStep
    rw [true_and]
    exact keepsReferenced_step_iff hInv hKeeps (LoopThread.moves_of_step hStep)

/-- The second condition concerns failing system calls only: while every
`epoll_ctl` succeeds, the kernel reports registered handlers. -/
theorem reportsRegistered_of_ctlSucceeds
    {steps : List (LoopThread CallbackFunc EventHandlerFunc ×
      Action CallbackFunc EventHandlerFunc)}
    {history : List (Output CallbackFunc EventHandlerFunc)}
    {s : LoopThread CallbackFunc EventHandlerFunc}
    (run : (runSystem CallbackFunc EventHandlerFunc).Run steps history s)
    (hCtl : EveryStep CtlSucceeds steps) : EveryStep ReportsRegistered steps := by
  refine run.everyStep CtlSucceeds (fun _ s => s.loop.Coherent) ?_ ?_ ?_ hCtl
  · rintro s ⟨threadId, rfl⟩
    exact EventLoopImpl.coherent_construct threadId
  · intro history s action t new hCoherent hSucceeds hStep
    refine ((LoopThread.moves_of_step hStep).keeps_sides_iff hCoherent).mpr ?_ |>.2
    exact stepKeepsSides_of_ctlSucceeds hSucceeds
  · intro history s action t new hCoherent _ hStep
    cases LoopThread.moves_of_step hStep with
    | batch _ hBatch =>
        intro event hEvent
        obtain ⟨fd, interest, hLookup, hData⟩ :=
          exists_interest_of_reports (reports_of_mem_batch hBatch hEvent)
        rw [hCoherent fd] at hLookup
        obtain ⟨handler, hHandler, rfl⟩ := Option.map_eq_some_iff.mp hLookup
        exact ⟨handler, ⟨fd, hHandler⟩, hData⟩
    | _ => trivial

/-! ## A nested run in a callback -/

/-- Descriptors 5 and 6 are readable; the callback of 5 removes a descriptor
and calls `run()`, which clears the removed handlers. -/
def nestedRun (removed : Fd) : List (Action Unit Unit) :=
  [.call 0 ⟨3, true⟩ (.addFdHandler 5 fdEventIn ()),
    .call 0 ⟨-1, true⟩ (.addFdHandler 6 fdEventIn ()),
    .run 0, .proceed, .proceed, .proceed, .proceed,
    .epollWaitReturns (.events [⟨epollIn, 0⟩]), .proceed,
    .call 0 ⟨-1, true⟩ (.removeFdHandler removed),
    .run 0, .proceed, .proceed, .proceed]

/-- Removing 6, to which nothing refers, is harmless. -/
theorem nestedRun_six_keeps_referenced : ∃ steps s,
    (runSystem Unit Unit).Always (fun _ s => s.KeepsReferenced)
      (fun _ _ _ _ => True) steps
      [.returned (.addFdHandler 5 fdEventIn ()) .normal,
        .returned (.addFdHandler 6 fdEventIn ()) .normal, .enteredEpollWait,
        .dispatched () 5 fdEventIn, .returned (.removeFdHandler 6) .normal] s :=
  ⟨_, _, (run_keeps_referenced_iff (run_of_replay
    { loop := .construct 0, stack := [] } (nestedRun 6) ⟨0, rfl⟩ rfl)).mpr (by decide)⟩

/-- The state after `nestedRun 5`. -/
def afterNestedRun : LoopThread Unit Unit where
  loop :=
    { epfd := 3
      threadId := 0
      isRunning := true
      fdHandlers := AList.singleton 6 ⟨1, 6, epollIn, ()⟩
      removedFdHandlers := ∅
      scheduledEvents := []
      interestList := AList.singleton 6 ⟨epollIn, 1⟩
      nextObject := 2 }
  stack := [.run .calling, .callback 0, .executeScheduledEvents, .run (.handling [])]

/-- Removing 5 releases the handler whose callback is running. -/
theorem nestedRun_five_releases :
    (∃ steps history, (runSystem Unit Unit).Run steps history afterNestedRun) ∧
      .callback 0 ∈ afterNestedRun.stack ∧
      ¬ Owns afterNestedRun.loop.fdHandlers 0 ∧
      ¬ Owns afterNestedRun.loop.removedFdHandlers 0 :=
  ⟨⟨_, _, run_of_replay { loop := .construct 0, stack := [] } (nestedRun 5) ⟨0, rfl⟩ rfl⟩,
    by decide, by decide, by decide⟩

end EventLoop
end UtilsFramework
