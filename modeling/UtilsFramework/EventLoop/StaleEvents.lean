import UtilsFramework.EventLoop.Addresses
import UtilsFramework.EventLoop.InterestCoherence

/-!
# Stale events of a batch

A batch is captured before the callbacks it leads to, and these may edit the
registry in any way before the rest of the batch is handled.  The file shows
that every event still leads to a live object and that the object is called
back exactly while it is registered, so never again after its removal.

The invariant `KeepsBatch` ties the unhandled events to both maps.  Besides
"every event is owned by one of the maps" it needs a clause about keys: a
descriptor that already has an entry in `m_removedFdHandlers` is never again
that of an object the batch refers to.  Only therefore is the second
`emplace` under one key, which does nothing, harmless: the object it fails to
keep alive was registered after the batch was captured.
-/

namespace UtilsFramework
namespace EventLoop

open Library
open Library.Epoll
open Library.TransitionSystem

variable {CallbackFunc EventHandlerFunc : Type}

/-- The map owns the object with the given address. -/
def Owns (map : FdHandlerMap CallbackFunc) (object : ObjectId) : Prop :=
  ∃ handler, UnorderedMap.Holds map handler ∧ handler.object = object

theorem owns_iff_objectAt {map : FdHandlerMap CallbackFunc} {object : ObjectId} :
    Owns map object ↔ ∃ fd, objectAt map fd = some object := by
  constructor
  · rintro ⟨handler, ⟨fd, hLookup⟩, rfl⟩
    exact ⟨fd, objectAt_of_lookup hLookup⟩
  · rintro ⟨fd, hObject⟩
    obtain ⟨handler, hLookup, hHandler⟩ := Option.map_eq_some_iff.mp hObject
    exact ⟨handler, ⟨fd, hLookup⟩, hHandler⟩

/-! ## The two mask translations -/

/-- The local mask is non-zero exactly if one of the two known bits is set. -/
theorem convertToLocalEvents_ne_zero_iff (epollEvents : EventMask) :
    convertToLocalEvents epollEvents ≠ 0 ↔
      epollEvents &&& (epollIn ||| epollOut) ≠ 0 := by
  have hSplit : epollEvents &&& (epollIn ||| epollOut) = 0 ↔
      epollEvents &&& epollIn = 0 ∧ epollEvents &&& epollOut = 0 := by
    rw [BitVec.and_or_distrib_left]
    exact BitVec.or_eq_zero_iff
  rw [ne_eq, ne_eq, not_iff_not, hSplit]
  unfold convertToLocalEvents
  by_cases hIn : epollEvents &&& epollIn = 0 <;>
    by_cases hOut : epollEvents &&& epollOut = 0 <;>
    simp only [hIn, hOut, ne_eq, not_true_eq_false, not_false_eq_true, if_true,
      if_false, true_and, false_and, iff_false] <;>
    decide

/-- An object that asks for no event gets the empty mask. -/
theorem convertToLocalEvents_and_zero (events : EventMask) :
    convertToLocalEvents (events &&& 0) = 0 := by
  have hZero : events &&& 0 = 0 := BitVec.and_zero
  rw [hZero]
  decide

namespace EventLoopImpl

/-! ## Resolving a pointer -/

/-- An object owned by the handler map is found there. -/
theorem resolve_of_registered {loop : EventLoopImpl CallbackFunc EventHandlerFunc}
    {object : ObjectId} (hOwns : Owns loop.fdHandlers object) :
    ∃ handler, loop.resolve object = some handler ∧ handler.object = object ∧
      UnorderedMap.Holds loop.fdHandlers handler := by
  obtain ⟨owned, hHolds, hObject⟩ := hOwns
  cases hFind : UnorderedMap.findValue
      (fun handler => decide (handler.object = object)) loop.fdHandlers with
  | none =>
      have hFalse := UnorderedMap.findValue_none hFind hHolds
      simp [hObject] at hFalse
  | some handler =>
      obtain ⟨hHandler, hTest⟩ := UnorderedMap.findValue_some hFind
      exact ⟨handler, by simp [resolve, hFind], by simpa using hTest, hHandler⟩

/-- An object owned by either map is found, with its address, in a map. -/
theorem resolve_of_owned {loop : EventLoopImpl CallbackFunc EventHandlerFunc}
    {object : ObjectId}
    (hOwned : Owns loop.fdHandlers object ∨ Owns loop.removedFdHandlers object) :
    ∃ handler, loop.resolve object = some handler ∧ handler.object = object ∧
      (UnorderedMap.Holds loop.fdHandlers handler ∨
        UnorderedMap.Holds loop.removedFdHandlers handler) := by
  rcases hOwned with hRegistered | ⟨owned, hHolds, hObject⟩
  · obtain ⟨handler, hResolve, hAddress, hHandler⟩ := resolve_of_registered hRegistered
    exact ⟨handler, hResolve, hAddress, Or.inl hHandler⟩
  cases hFind : UnorderedMap.findValue
      (fun handler => decide (handler.object = object)) loop.fdHandlers with
  | some handler =>
      obtain ⟨hHandler, hTest⟩ := UnorderedMap.findValue_some hFind
      exact ⟨handler, by simp [resolve, hFind], by simpa using hTest, Or.inl hHandler⟩
  | none =>
      cases hRemoved : UnorderedMap.findValue
          (fun handler => decide (handler.object = object)) loop.removedFdHandlers with
      | none =>
          have hFalse := UnorderedMap.findValue_none hRemoved hHolds
          simp [hObject] at hFalse
      | some handler =>
          obtain ⟨hHandler, hTest⟩ := UnorderedMap.findValue_some hRemoved
          exact ⟨handler, by simp [resolve, hFind, hRemoved], by simpa using hTest,
            Or.inr hHandler⟩

/-! ## What keeps a batch safe -/

/-- An object stays owned through a call, unless it is registered under a key that is
taken among the removed handlers. -/
theorem RegistryChange.keeps_owned
    {loop next : EventLoopImpl CallbackFunc EventHandlerFunc}
    (hChange : loop.RegistryChange next) {object : ObjectId}
    (hFree : ∀ fd, objectAt loop.fdHandlers fd = some object →
      objectAt loop.removedFdHandlers fd = none)
    (hOwned : Owns loop.fdHandlers object ∨ Owns loop.removedFdHandlers object) :
    Owns next.fdHandlers object ∨ Owns next.removedFdHandlers object := by
  simp only [owns_iff_objectAt] at hOwned ⊢
  cases hChange with
  | keeps hObjects hRemoved _ =>
      simp only [hObjects, hRemoved]
      exact hOwned
  | @registers fd handler hNone _ hHandlers hRemoved _ =>
      rw [hRemoved]
      refine hOwned.imp_left ?_
      rintro ⟨other, hAt⟩
      have hFd : other ≠ fd := by
        rintro rfl
        rw [objectAt, AList.lookup_eq_none.mpr hNone] at hAt
        cases hAt
      refine ⟨other, ?_⟩
      rw [hHandlers, objectAt_insert, if_neg hFd]
      exact hAt
  | @unregisters fd handler hHandler hHandlers hRemoved _ =>
      rcases hOwned with ⟨other, hAt⟩ | ⟨other, hAt⟩
      · by_cases hFd : other = fd
        · subst hFd
          -- the object moves to the removed handlers
          refine Or.inr ⟨other, ?_⟩
          rw [hRemoved, objectAt_emplace, if_pos rfl, hFree other hAt, Option.getD_none, ← hAt]
          exact (objectAt_of_lookup hHandler).symm
        · refine Or.inl ⟨other, ?_⟩
          rw [hHandlers, objectAt_erase, if_neg hFd]
          exact hAt
      · refine Or.inr ⟨other, ?_⟩
        rw [hRemoved, objectAt_emplace]
        split
        · rename_i hFd
          rw [← hFd, hAt]
          rfl
        · exact hAt

/-- The registry keeps every object alive that `events` refers to. -/
structure KeepsBatch (loop : EventLoopImpl CallbackFunc EventHandlerFunc)
    (events : List (Event ObjectId)) : Prop where
  coherent : loop.Coherent
  silent : ∀ handler, UnorderedMap.Holds loop.removedFdHandlers handler →
    handler.epollEvents = 0
  registeredOld : ∀ handler, UnorderedMap.Holds loop.fdHandlers handler →
    handler.object < loop.nextObject
  removedOld : ∀ handler, UnorderedMap.Holds loop.removedFdHandlers handler →
    handler.object < loop.nextObject
  owned : ∀ event ∈ events,
    Owns loop.fdHandlers event.data ∨ Owns loop.removedFdHandlers event.data
  shadowed : ∀ fd ∈ loop.removedFdHandlers, ∀ handler,
    loop.fdHandlers.lookup fd = some handler →
    ∀ event ∈ events, handler.object ≠ event.data

theorem keepsBatch_construct (threadId : ThreadId) :
    (construct threadId : EventLoopImpl CallbackFunc EventHandlerFunc).KeepsBatch [] where
  coherent := coherent_construct threadId
  silent := by simp [construct]
  registeredOld := by simp [construct]
  removedOld := by simp [construct]
  owned := by simp
  shadowed := by simp

namespace KeepsBatch

variable {loop next : EventLoopImpl CallbackFunc EventHandlerFunc}
  {events fewer : List (Event ObjectId)}

theorem mono (hKeeps : loop.KeepsBatch events) (hSubset : fewer ⊆ events) :
    loop.KeepsBatch fewer :=
  { hKeeps with
    owned := fun event hEvent => hKeeps.owned event (hSubset hEvent)
    shadowed := fun fd hFd handler hHandler event hEvent =>
      hKeeps.shadowed fd hFd handler hHandler event (hSubset hEvent) }

/-- Objects that stay where they are, with whatever bits. -/
theorem of_same_objects (hKeeps : loop.KeepsBatch events) (hCoherent : next.Coherent)
    (hOwned : ∀ event ∈ events,
      Owns next.fdHandlers event.data ∨ Owns next.removedFdHandlers event.data)
    (hObjects : ∀ fd, objectAt next.fdHandlers fd = objectAt loop.fdHandlers fd)
    (hRemoved : next.removedFdHandlers = loop.removedFdHandlers)
    (hNext : loop.nextObject ≤ next.nextObject) : next.KeepsBatch events := by
  -- a handler has the address of one under the same key before
  have hBefore : ∀ {fd handler}, next.fdHandlers.lookup fd = some handler →
      ∃ before, loop.fdHandlers.lookup fd = some before ∧
        before.object = handler.object := by
    intro fd handler hLookup
    have hObject := objectAt_of_lookup hLookup
    rw [hObjects] at hObject
    exact Option.map_eq_some_iff.mp hObject
  refine ⟨hCoherent, hRemoved ▸ hKeeps.silent, ?_, ?_, hOwned, ?_⟩
  · rintro handler ⟨fd, hLookup⟩
    obtain ⟨before, hOld, hSame⟩ := hBefore hLookup
    rw [← hSame]
    exact Nat.lt_of_lt_of_le (hKeeps.registeredOld before ⟨fd, hOld⟩) hNext
  · rw [hRemoved]
    exact fun handler hHolds => Nat.lt_of_lt_of_le (hKeeps.removedOld handler hHolds) hNext
  · intro fd hFd handler hLookup event hEvent
    rw [hRemoved] at hFd
    obtain ⟨before, hOld, hSame⟩ := hBefore hLookup
    rw [← hSame]
    exact hKeeps.shadowed fd hFd before hOld event hEvent

/-- An object the batch refers to was allocated before. -/
theorem data_lt (hKeeps : loop.KeepsBatch events) {event : Event ObjectId}
    (hEvent : event ∈ events) : event.data < loop.nextObject := by
  rcases hKeeps.owned event hEvent with
    ⟨handler, hHolds, hObject⟩ | ⟨handler, hHolds, hObject⟩
  · rw [← hObject]
    exact hKeeps.registeredOld handler hHolds
  · rw [← hObject]
    exact hKeeps.removedOld handler hHolds

/-- Clearing the removed handlers is safe once no event is left. -/
theorem clear (hKeeps : loop.KeepsBatch []) :
    ({ loop with removedFdHandlers := ∅ } :
      EventLoopImpl CallbackFunc EventHandlerFunc).KeepsBatch [] where
  coherent := (SidesUnchanged.of_eq rfl rfl).coherent hKeeps.coherent
  silent := by simp
  registeredOld := hKeeps.registeredOld
  removedOld := by simp
  owned := by simp
  shadowed := by simp

/-- A batch of the kernel is safe while no handler is waiting to be released. -/
theorem capture (hKeeps : loop.KeepsBatch []) (hRemoved : loop.removedFdHandlers = ∅)
    (hBatch : batchFrom loop.interestList maxEvents events = true) :
    loop.KeepsBatch events :=
  { hKeeps with
    owned := by
      intro event hEvent
      obtain ⟨fd, interest, hLookup, hData⟩ :=
        exists_interest_of_reports (reports_of_mem_batch hBatch hEvent)
      rw [hKeeps.coherent fd, Option.map_eq_some_iff] at hLookup
      obtain ⟨handler, hHandler, rfl⟩ := hLookup
      exact Or.inl ⟨handler, ⟨fd, hHandler⟩, hData⟩
    shadowed := by
      intro fd hFd
      rw [hRemoved] at hFd
      exact absurd hFd (AList.notMem_empty fd) }

/-- Registering a new object: no event of the batch refers to it. -/
theorem of_registers (hKeeps : loop.KeepsBatch events) (hCoherent : next.Coherent)
    (hOwned : ∀ event ∈ events,
      Owns next.fdHandlers event.data ∨ Owns next.removedFdHandlers event.data)
    {fd : Fd} {added : FdHandler CallbackFunc} (hNew : added.object = loop.nextObject)
    (hHandlers : next.fdHandlers = loop.fdHandlers.insert fd added)
    (hRemoved : next.removedFdHandlers = loop.removedFdHandlers)
    (hNext : next.nextObject = loop.nextObject + 1) : next.KeepsBatch events := by
  refine ⟨hCoherent, hRemoved ▸ hKeeps.silent, ?_, ?_, hOwned, ?_⟩
  · rintro handler ⟨other, hLookup⟩
    rw [hHandlers] at hLookup
    rw [hNext]
    by_cases hFd : other = fd
    · subst hFd
      rw [AList.lookup_insert] at hLookup
      rw [← Option.some.inj hLookup, hNew]
      exact Nat.lt_succ_self _
    · rw [AList.lookup_insert_ne hFd] at hLookup
      exact Nat.lt_succ_of_lt (hKeeps.registeredOld handler ⟨other, hLookup⟩)
  · rw [hRemoved, hNext]
    exact fun handler hHolds => Nat.lt_succ_of_lt (hKeeps.removedOld handler hHolds)
  · intro other hTaken handler hLookup event hEvent
    rw [hRemoved] at hTaken
    rw [hHandlers] at hLookup
    by_cases hFd : other = fd
    · subst hFd
      rw [AList.lookup_insert] at hLookup
      rw [← Option.some.inj hLookup, hNew]
      exact (Nat.ne_of_lt (hKeeps.data_lt hEvent)).symm
    · rw [AList.lookup_insert_ne hFd] at hLookup
      exact hKeeps.shadowed other hTaken handler hLookup event hEvent

/-- Removing a handler: either its object moves to the removed handlers, or
the key is taken there and no event of the batch refers to the object. -/
theorem of_unregisters (hKeeps : loop.KeepsBatch events) (hCoherent : next.Coherent)
    (hOwned : ∀ event ∈ events,
      Owns next.fdHandlers event.data ∨ Owns next.removedFdHandlers event.data)
    {fd : Fd} {found : FdHandler CallbackFunc}
    (hFound : loop.fdHandlers.lookup fd = some found)
    (hHandlers : next.fdHandlers = loop.fdHandlers.erase fd)
    (hRemoved : next.removedFdHandlers = UnorderedMap.emplace fd
      { found with epollEvents := 0 } loop.removedFdHandlers)
    (hNext : next.nextObject = loop.nextObject) : next.KeepsBatch events := by
  -- what is still registered is under another key
  have hStill : ∀ {other handler}, next.fdHandlers.lookup other = some handler →
      other ≠ fd ∧ loop.fdHandlers.lookup other = some handler := by
    intro other handler hLookup
    rw [hHandlers] at hLookup
    by_cases hFd : other = fd
    · rw [hFd, AList.lookup_erase] at hLookup
      cases hLookup
    · rw [AList.lookup_erase_ne hFd] at hLookup
      exact ⟨hFd, hLookup⟩
  refine ⟨hCoherent, ?_, ?_, ?_, hOwned, ?_⟩
  · rintro handler ⟨other, hLookup⟩
    rw [hRemoved] at hLookup
    rcases UnorderedMap.lookup_emplace_cases hLookup with hOld | ⟨_, _, rfl⟩
    · exact hKeeps.silent handler ⟨other, hOld⟩
    · rfl
  · rintro handler ⟨other, hLookup⟩
    rw [hNext]
    exact hKeeps.registeredOld handler ⟨other, (hStill hLookup).2⟩
  · rintro handler ⟨other, hLookup⟩
    rw [hRemoved] at hLookup
    rw [hNext]
    rcases UnorderedMap.lookup_emplace_cases hLookup with hOld | ⟨_, _, rfl⟩
    · exact hKeeps.removedOld handler ⟨other, hOld⟩
    · exact hKeeps.registeredOld found ⟨fd, hFound⟩
  · intro other hTaken handler hLookup event hEvent
    obtain ⟨hOther, hOld⟩ := hStill hLookup
    rw [hRemoved] at hTaken
    have hBefore : other ∈ loop.removedFdHandlers :=
      (UnorderedMap.mem_emplace.mp hTaken).resolve_left hOther
    exact hKeeps.shadowed other hBefore handler hOld event hEvent

/-- An object the batch refers to is not shadowed by a removed one. -/
theorem free (hKeeps : loop.KeepsBatch events) {event : Event ObjectId}
    (hEvent : event ∈ events) {fd : Fd}
    (hAt : objectAt loop.fdHandlers fd = some event.data) :
    objectAt loop.removedFdHandlers fd = none := by
  obtain ⟨handler, hLookup, hObject⟩ := Option.map_eq_some_iff.mp hAt
  have hNotMem : fd ∉ loop.removedFdHandlers := fun hTaken =>
    hKeeps.shadowed fd hTaken handler hLookup event hEvent hObject
  rw [objectAt, AList.lookup_eq_none.mpr hNotMem, Option.map_none]

theorem of_change (hKeeps : loop.KeepsBatch events) (hCoherent : next.Coherent)
    (hChange : loop.RegistryChange next) : next.KeepsBatch events := by
  have hOwned : ∀ event ∈ events,
      Owns next.fdHandlers event.data ∨ Owns next.removedFdHandlers event.data :=
    fun event hEvent => hChange.keeps_owned (fun _ hAt => hKeeps.free hEvent hAt)
      (hKeeps.owned event hEvent)
  cases hChange with
  | keeps hObjects hRemoved hNext =>
      exact hKeeps.of_same_objects hCoherent hOwned hObjects hRemoved hNext
  | registers hNone hNew hHandlers hRemoved hNext =>
      exact hKeeps.of_registers hCoherent hOwned hNew hHandlers hRemoved hNext
  | unregisters hFound hHandlers hRemoved hNext =>
      exact hKeeps.of_unregisters hCoherent hOwned hFound hHandlers hRemoved hNext

/-- Steps that leave both maps and the interest list alone. -/
theorem of_eq (hKeeps : loop.KeepsBatch events)
    (hHandlers : next.fdHandlers = loop.fdHandlers)
    (hRemoved : next.removedFdHandlers = loop.removedFdHandlers)
    (hInterest : next.interestList = loop.interestList)
    (hNext : loop.nextObject ≤ next.nextObject) : next.KeepsBatch events :=
  hKeeps.of_change ((SidesUnchanged.of_eq hHandlers hInterest).coherent hKeeps.coherent)
    (.keeps (fun fd => by rw [hHandlers]) hRemoved hNext)

/-- Every call of the interface whose `epoll_ctl` succeeds keeps a batch safe. -/
theorem perform (hKeeps : loop.KeepsBatch events) {caller : ThreadId}
    {syscalls : Syscalls} {call : Call CallbackFunc EventHandlerFunc} {rc : ReturnCode}
    (hSucceeds : syscalls.epollCtlSucceeds = true)
    (hPerform : loop.perform caller syscalls call = (rc, next)) :
    next.KeepsBatch events :=
  hKeeps.of_change ((perform_keeps_sides_iff hKeeps.coherent hPerform).mpr
    (callKeepsSides_of_succeeds hSucceeds)).2 (perform_changes_registry hPerform)

end KeepsBatch
end EventLoopImpl

/-! ## Runs without recursion -/

/-- No user code inside `run()` calls `run()` on the same loop. -/
def NoRecursiveRun (s : LoopThread CallbackFunc EventHandlerFunc) :
    Action CallbackFunc EventHandlerFunc → Prop
  | .run caller => s.loop.threadId = caller → s.stack = []
  | _ => True

/-- The `epoll_ctl` calls of the step succeed. -/
def CtlSucceeds (_ : LoopThread CallbackFunc EventHandlerFunc) :
    Action CallbackFunc EventHandlerFunc → Prop
  | .call _ syscalls _ => syscalls.epollCtlSucceeds = true
  | _ => True

instance (s : LoopThread CallbackFunc EventHandlerFunc)
    (action : Action CallbackFunc EventHandlerFunc) [DecidableEq EventHandlerFunc] :
    Decidable (NoRecursiveRun s action) :=
  match action with
  | .run caller => inferInstanceAs (Decidable (s.loop.threadId = caller → s.stack = []))
  | .call _ _ _ | .userReturns | .epollWaitReturns _ | .signalStop | .proceed =>
      isTrue trivial

instance (s : LoopThread CallbackFunc EventHandlerFunc)
    (action : Action CallbackFunc EventHandlerFunc) : Decidable (CtlSucceeds s action) :=
  match action with
  | .call _ syscalls _ => inferInstanceAs (Decidable (syscalls.epollCtlSucceeds = true))
  | .run _ | .userReturns | .epollWaitReturns _ | .signalStop | .proceed => isTrue trivial

/-- The call stacks of a single `run()`, with the unhandled events. -/
inductive SingleRun :
    List (Frame EventHandlerFunc) → List (Event ObjectId) → Prop
  | idle : SingleRun [] []
  | between {phase : RunPhase} (hPhase : ∀ events, phase ≠ .handling events) :
      SingleRun [.run phase] []
  | handling (events : List (Event ObjectId)) :
      SingleRun [.run (.handling events)] events
  | draining (events : List (Event ObjectId)) :
      SingleRun [.executeScheduledEvents, .run (.handling events)] events
  | callback (object : ObjectId) (events : List (Event ObjectId)) :
      SingleRun [.callback object, .executeScheduledEvents, .run (.handling events)] events
  | eventHandler (eventHandler : EventHandlerFunc) (events : List (Event ObjectId)) :
      SingleRun
        [.eventHandler eventHandler, .executeScheduledEvents, .run (.handling events)] events

/-- The invariant of a non-recursive run: the unhandled events are safe, and
no removed handler is left between `clear()` and the next batch. -/
structure BatchInvariant (s : LoopThread CallbackFunc EventHandlerFunc)
    (events : List (Event ObjectId)) : Prop where
  shape : SingleRun s.stack events
  keeps : s.loop.KeepsBatch events
  cleared : s.stack = [.run .calling] ∨ s.stack = [.run .waiting] →
    s.loop.removedFdHandlers = ∅

/-- Outside a batch no event is unhandled. -/
theorem SingleRun.of_between {phase : RunPhase} {below : List (Frame EventHandlerFunc)}
    {events : List (Event ObjectId)} (shape : SingleRun (.run phase :: below) events)
    (hPhase : ∀ batch, phase ≠ .handling batch) : below = [] ∧ events = [] := by
  cases shape with
  | between => exact ⟨rfl, rfl⟩
  | handling => exact absurd rfl (hPhase events)

/-- Within a batch its rest is unhandled. -/
theorem SingleRun.of_handling {batch : List (Event ObjectId)}
    {below : List (Frame EventHandlerFunc)} {events : List (Event ObjectId)}
    (shape : SingleRun (.run (.handling batch) :: below) events) :
    below = [] ∧ events = batch := by
  cases shape with
  | between hPhase => exact absurd rfl (hPhase batch)
  | handling => exact ⟨rfl, rfl⟩

theorem BatchInvariant.step {s t : LoopThread CallbackFunc EventHandlerFunc}
    {events : List (Event ObjectId)} {action : Action CallbackFunc EventHandlerFunc}
    {new : List (Output CallbackFunc EventHandlerFunc)}
    (hInv : BatchInvariant s events) (hNoRecursion : NoRecursiveRun s action)
    (hCtl : CtlSucceeds s action) (moves : LoopThread.Moves s action t new) :
    ∃ left, BatchInvariant t left := by
  obtain ⟨shape, keeps, cleared⟩ := hInv
  cases moves with
  | call hAllowed hPerform =>
      refine ⟨events, shape, keeps.perform hCtl hPerform, ?_⟩
      intro hStack
      rcases hAllowed with hForeign | hUser
      · rw [(EventLoopImpl.perform_elsewhere hForeign hPerform).2]
        exact cleared hStack
      · have hTop : s.stack = [.run .calling] ∨ s.stack = [.run .waiting] := hStack
        rcases hTop with hTop | hTop <;> rw [hTop] at hUser <;> cases hUser
  | runElsewhere => exact ⟨events, shape, keeps, cleared⟩
  | runEnters hThread =>
      have hIdle : s.stack = [] := hNoRecursion hThread
      rw [hIdle] at shape ⊢
      cases shape
      exact ⟨[], .between (by simp), keeps, by simp⟩
  | callbackReturns hStack =>
      rw [hStack] at shape
      cases shape
      exact ⟨events, .draining events, keeps, by simp⟩
  | eventHandlerReturns hStack =>
      rw [hStack] at shape
      cases shape
      exact ⟨events, .draining events, keeps, by simp⟩
  | @batch batch _ hStack hBatch =>
      rw [hStack] at shape
      obtain ⟨rfl, rfl⟩ := shape.of_between nofun
      exact ⟨batch, .handling batch, keeps.capture (cleared (Or.inr hStack)) hBatch,
        by simp⟩
  | interrupted hStack =>
      rw [hStack] at shape
      obtain ⟨rfl, rfl⟩ := shape.of_between nofun
      exact ⟨[], .between (by simp), keeps, by simp⟩
  | failed hStack =>
      rw [hStack] at shape
      obtain ⟨rfl, rfl⟩ := shape.of_between nofun
      exact ⟨[], .idle, keeps, by simp⟩
  | signalStop => exact ⟨events, shape, keeps.of_eq rfl rfl rfl le_rfl, cleared⟩
  | setsRunning hStack =>
      rw [hStack] at shape
      obtain ⟨rfl, rfl⟩ := shape.of_between nofun
      exact ⟨[], .between (by simp), keeps.of_eq rfl rfl rfl le_rfl, by simp⟩
  | goesOn hStack =>
      rw [hStack] at shape
      obtain ⟨rfl, rfl⟩ := shape.of_between nofun
      exact ⟨[], .between (by simp), keeps, by simp⟩
  | leaves hStack =>
      rw [hStack] at shape
      obtain ⟨rfl, rfl⟩ := shape.of_between nofun
      exact ⟨[], .idle, keeps, by simp⟩
  | clears hStack =>
      rw [hStack] at shape
      obtain ⟨rfl, rfl⟩ := shape.of_between nofun
      exact ⟨[], .between (by simp), keeps.clear, fun _ => rfl⟩
  | waits hStack =>
      rw [hStack] at shape
      obtain ⟨rfl, rfl⟩ := shape.of_between nofun
      exact ⟨[], .between (by simp), keeps, fun _ => cleared (Or.inl hStack)⟩
  | batchDone hStack =>
      rw [hStack] at shape
      obtain ⟨rfl, rfl⟩ := shape.of_handling
      exact ⟨[], .between (by simp), keeps, by simp⟩
  | @dispatches event rest _ fdHandler hStack =>
      rw [hStack] at shape
      obtain ⟨rfl, rfl⟩ := shape.of_handling
      exact ⟨rest, .callback fdHandler.object rest,
        keeps.mono (List.subset_cons_self event rest), by simp⟩
  | @skips event rest _ _ hStack =>
      rw [hStack] at shape
      obtain ⟨rfl, rfl⟩ := shape.of_handling
      exact ⟨rest, .handling rest, keeps.mono (List.subset_cons_self event rest),
        by simp⟩
  | drained hStack =>
      rw [hStack] at shape
      cases shape
      exact ⟨events, .handling events, keeps, by simp⟩
  | @executes eventHandler _ _ hStack =>
      rw [hStack] at shape
      cases shape
      exact ⟨events, .eventHandler eventHandler events, keeps.of_eq rfl rfl rfl le_rfl,
        by simp⟩

/-- The invariant holds at the end of every run without recursion in which
`epoll_ctl` succeeds. -/
theorem batchInvariant_of_run
    {steps : List (LoopThread CallbackFunc EventHandlerFunc ×
      Action CallbackFunc EventHandlerFunc)}
    {history : List (Output CallbackFunc EventHandlerFunc)}
    {s : LoopThread CallbackFunc EventHandlerFunc}
    (run : (runSystem CallbackFunc EventHandlerFunc).Run steps history s)
    (hNoRecursion : EveryStep NoRecursiveRun steps)
    (hCtl : EveryStep CtlSucceeds steps) :
    ∃ events, BatchInvariant s events := by
  refine run.invariant (fun s action => NoRecursiveRun s action ∧ CtlSucceeds s action)
    (fun _ s => ∃ events, BatchInvariant s events) ?_ ?_
    (fun visited hVisited => ⟨hNoRecursion visited hVisited, hCtl visited hVisited⟩)
  · rintro s ⟨threadId, rfl⟩
    exact ⟨[], .idle, EventLoopImpl.keepsBatch_construct threadId, by simp⟩
  · rintro history s action t new ⟨events, hInv⟩ ⟨hPlain, hSucceeds⟩ hStep
    exact hInv.step hPlain hSucceeds (LoopThread.moves_of_step hStep)

/-- Every event about to be handled leads to an object one of the maps still
owns.  Handling it calls back exactly if that object, and not merely some
handler of the same descriptor, is registered at that moment and a reported
bit it still asks for is `EPOLLIN` or `EPOLLOUT`; the callback gets its
descriptor and the local translation of these bits.  If the handler has been
removed before, the event calls nobody, whatever has been registered since. -/
theorem run_handles_event
    {steps : List (LoopThread CallbackFunc EventHandlerFunc ×
      Action CallbackFunc EventHandlerFunc)}
    {history : List (Output CallbackFunc EventHandlerFunc)}
    {s : LoopThread CallbackFunc EventHandlerFunc}
    (run : (runSystem CallbackFunc EventHandlerFunc).Run steps history s)
    (hNoRecursion : EveryStep NoRecursiveRun steps)
    (hCtl : EveryStep CtlSucceeds steps)
    {event : Event ObjectId} {rest : List (Event ObjectId)}
    {below : List (Frame EventHandlerFunc)}
    (hTop : s.stack = .run (.handling (event :: rest)) :: below) :
    ∃ fdHandler t new,
      s.loop.resolve event.data = some fdHandler ∧
      fdHandler.object = event.data ∧
      (UnorderedMap.Holds s.loop.fdHandlers fdHandler ∨
        UnorderedMap.Holds s.loop.removedFdHandlers fdHandler) ∧
      s.step .proceed = some (t, new) ∧
      (∀ callback fd eventMask, Output.dispatched callback fd eventMask ∈ new ↔
        Owns s.loop.fdHandlers event.data ∧
        (event.events &&& fdHandler.epollEvents) &&& (epollIn ||| epollOut) ≠ 0 ∧
        callback = fdHandler.callback ∧ fd = fdHandler.fd ∧
        eventMask = convertToLocalEvents (event.events &&& fdHandler.epollEvents)) ∧
      ((∃ visited ∈ steps, RemovesHandler event.data visited.1 visited.2) →
        ∀ callback fd eventMask, Output.dispatched callback fd eventMask ∉ new) := by
  obtain ⟨events, hInv⟩ := batchInvariant_of_run run hNoRecursion hCtl
  have shape := hInv.shape
  rw [hTop] at shape
  have hEvents : events = event :: rest := shape.of_handling.2
  have hOwned := hInv.keeps.owned event (by rw [hEvents]; exact List.mem_cons_self)
  obtain ⟨fdHandler, hResolve, hObject, hHeld⟩ :=
    EventLoopImpl.resolve_of_owned hOwned
  have hStep : s.step .proceed =
      s.handleEpollEvent event (.run (.handling rest) :: below) := by
    simp only [LoopThread.step, hTop, LoopThread.proceedRun]
  by_cases hMask : convertToLocalEvents (event.events &&& fdHandler.epollEvents) = 0
  · refine ⟨fdHandler, { s with stack := .run (.handling rest) :: below }, [], hResolve,
      hObject, hHeld, ?_, ?_, fun _ _ _ _ => List.not_mem_nil⟩
    · rw [hStep]
      simp [LoopThread.handleEpollEvent, hResolve, hMask]
    · intro callback fd eventMask
      refine iff_of_false (by simp) ?_
      rintro ⟨_, hBits, _⟩
      exact (convertToLocalEvents_ne_zero_iff _).mpr hBits hMask
  · -- a removed object asks for no event, so this one is registered
    have hRegistered : Owns s.loop.fdHandlers event.data := by
      rcases hHeld with hHandlers | hRemoved
      · exact ⟨fdHandler, hHandlers, hObject⟩
      · have hSilent := hInv.keeps.silent fdHandler hRemoved
        rw [hSilent] at hMask
        exact absurd (convertToLocalEvents_and_zero event.events) hMask
    refine ⟨fdHandler,
      { s with
        stack := .callback fdHandler.object :: .executeScheduledEvents ::
          .run (.handling rest) :: below },
      [.dispatched fdHandler.callback fdHandler.fd
        (convertToLocalEvents (event.events &&& fdHandler.epollEvents))],
      hResolve, hObject, hHeld, ?_, ?_, ?_⟩
    · rw [hStep]
      simp only [LoopThread.handleEpollEvent, hResolve, ne_eq, hMask,
        not_false_eq_true, if_true]
    · have hBits := (convertToLocalEvents_ne_zero_iff _).mp hMask
      intro callback fd eventMask
      simp only [List.mem_singleton, Output.dispatched.injEq]
      exact ⟨fun hEq => ⟨hRegistered, hBits, hEq⟩, fun hAll => hAll.2.2⟩
    · -- it has not been removed, for it would not be registered again
      intro hRemoved
      obtain ⟨other, hAt⟩ := owns_iff_objectAt.mp hRegistered
      exact absurd hAt ((unregistered_of_run run hRemoved).nowhere other)

/-- Two readable descriptors in one batch; the callback of the first removes
the second and registers it anew. -/
def reRegistration : List (Action Unit Unit) :=
  [.call 0 ⟨3, true⟩ (.addFdHandler 5 fdEventIn ()),
    .call 0 ⟨-1, true⟩ (.addFdHandler 6 fdEventIn ()),
    .run 0, .proceed, .proceed, .proceed, .proceed,
    .epollWaitReturns (.events [⟨epollIn, 0⟩, ⟨epollIn, 1⟩]), .proceed,
    .call 0 ⟨-1, true⟩ (.removeFdHandler 6),
    .call 0 ⟨-1, true⟩ (.addFdHandler 6 fdEventIn ()),
    .userReturns, .proceed]

/-- The state after `reRegistration`: descriptor 6 belongs to object 2, the
batch still refers to object 1. -/
def afterReRegistration : LoopThread Unit Unit where
  loop :=
    { epfd := 3
      threadId := 0
      isRunning := true
      fdHandlers := (AList.singleton 5 ⟨0, 5, epollIn, ()⟩).insert 6 ⟨2, 6, epollIn, ()⟩
      removedFdHandlers := AList.singleton 6 ⟨1, 6, 0, ()⟩
      scheduledEvents := []
      interestList := (AList.singleton 5 ⟨epollIn, 0⟩).insert 6 ⟨epollIn, 2⟩
      nextObject := 3 }
  stack := [.run (.handling [⟨epollIn, 1⟩])]

/-- The event of the old object 1 calls nobody, although descriptor 6 is
registered again. -/
theorem reRegistration_not_dispatched :
    ∃ t new, afterReRegistration.step .proceed = some (t, new) ∧
      ∀ callback fd eventMask, Output.dispatched callback fd eventMask ∉ new := by
  obtain ⟨fdHandler, t, new, _, _, _, hStep, _, hSkipped⟩ :=
    run_handles_event (run_of_replay { loop := .construct 0, stack := [] }
      reRegistration (t := afterReRegistration) ⟨0, rfl⟩ rfl) (by decide) (by decide) rfl
  exact ⟨t, new, hStep, hSkipped (by decide)⟩

end EventLoop
end UtilsFramework
