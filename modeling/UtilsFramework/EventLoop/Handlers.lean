import UtilsFramework.Library.Epoll
import UtilsFramework.Library.UnorderedMap

/-!
# The handler registry of the event loop

`EventLoopImpl` keeps a map from descriptors to `FdHandler` objects and mirrors
it in the interest list of its epoll instance, where `data.ptr` is the address
of the object.  This file embeds the three operations that edit both sides,
`scheduleEvent` and `stop`, and what each of them can do to the state.

An `FdHandler` is owned by at most one of the maps `fdHandlers` and
`removedFdHandlers`, so the object is stored in the map that owns it;
`object` is its address, which no later object reuses.  An object in neither
map has been released.  The outcome of every system call is an argument.
-/

namespace UtilsFramework
namespace EventLoop

open Library
open Library.Epoll

abbrev Fd := Int
abbrev ThreadId := Nat
/-- The address of an `FdHandler` object. -/
abbrev ObjectId := Nat

inductive ReturnCode
  | normal
  | alreadyExists
  | notFound
  | invalidArg
  | notThreadLocal
  | internalFault
deriving DecidableEq, Repr

def fdEventIn : EventMask := 0x001#32
def fdEventOut : EventMask := 0x002#32

def convertToEpollEvents (localEvents : EventMask) : EventMask :=
  let epollEvents : EventMask := 0
  let epollEvents :=
    if localEvents &&& fdEventIn ≠ 0 then epollEvents ||| epollIn else epollEvents
  if localEvents &&& fdEventOut ≠ 0 then epollEvents ||| epollOut else epollEvents

def convertToLocalEvents (epollEvents : EventMask) : EventMask :=
  let localEvents : EventMask := 0
  let localEvents :=
    if epollEvents &&& epollIn ≠ 0 then localEvents ||| fdEventIn else localEvents
  if epollEvents &&& epollOut ≠ 0 then localEvents ||| fdEventOut else localEvents

structure FdHandler (CallbackFunc : Type) where
  object : ObjectId
  fd : Fd
  epollEvents : EventMask
  callback : CallbackFunc
deriving DecidableEq, Repr

abbrev FdHandlerMap (CallbackFunc : Type) := AList fun _ : Fd => FdHandler CallbackFunc

/-- The members of `EventLoopImpl`, the interest list of the epoll instance
`epfd` refers to, and the next unused object address. -/
structure EventLoopImpl (CallbackFunc EventHandlerFunc : Type) where
  epfd : Int
  threadId : ThreadId
  isRunning : Bool
  fdHandlers : FdHandlerMap CallbackFunc
  removedFdHandlers : FdHandlerMap CallbackFunc
  scheduledEvents : List EventHandlerFunc
  interestList : InterestList ObjectId
  nextObject : ObjectId

/-- The results of the system calls one API call may make: the descriptor
`epoll_create1` returns (`-1` on failure) and whether `epoll_ctl` succeeds. -/
structure Syscalls where
  epollCreate1 : Int
  epollCtlSucceeds : Bool
deriving DecidableEq, Repr

variable {CallbackFunc EventHandlerFunc : Type}

/-- The address of the object a map holds for a descriptor. -/
def objectAt (map : FdHandlerMap CallbackFunc) (fd : Fd) : Option ObjectId :=
  (map.lookup fd).map FdHandler.object

@[simp]
theorem objectAt_empty (fd : Fd) : objectAt (∅ : FdHandlerMap CallbackFunc) fd = none := by
  simp [objectAt]

theorem objectAt_of_lookup {map : FdHandlerMap CallbackFunc} {fd : Fd}
    {handler : FdHandler CallbackFunc} (hLookup : map.lookup fd = some handler) :
    objectAt map fd = some handler.object := by
  rw [objectAt, hLookup]
  rfl

theorem objectAt_insert (map : FdHandlerMap CallbackFunc) (fd other : Fd)
    (handler : FdHandler CallbackFunc) :
    objectAt (map.insert fd handler) other =
      if other = fd then some handler.object else objectAt map other := by
  unfold objectAt
  split
  · rename_i hFd
    rw [hFd, AList.lookup_insert]
    rfl
  · rename_i hFd
    rw [AList.lookup_insert_ne hFd]

theorem objectAt_erase (map : FdHandlerMap CallbackFunc) (fd other : Fd) :
    objectAt (map.erase fd) other = if other = fd then none else objectAt map other := by
  unfold objectAt
  split
  · rename_i hFd
    rw [hFd, AList.lookup_erase]
    rfl
  · rename_i hFd
    rw [AList.lookup_erase_ne hFd]

/-- `emplace` leaves an older object of the descriptor where it is. -/
theorem objectAt_emplace (map : FdHandlerMap CallbackFunc) (fd other : Fd)
    (handler : FdHandler CallbackFunc) :
    objectAt (UnorderedMap.emplace fd handler map) other =
      if other = fd then some ((objectAt map fd).getD handler.object)
      else objectAt map other := by
  by_cases hMem : fd ∈ map
  · rw [UnorderedMap.emplace_of_mem hMem]
    obtain ⟨found, hFound⟩ := Option.isSome_iff_exists.mp (AList.lookup_isSome.mpr hMem)
    split
    · rename_i hFd
      rw [hFd, objectAt_of_lookup hFound]
      rfl
    · rfl
  · have hNone : objectAt map fd = none := by
      rw [objectAt, AList.lookup_eq_none.mpr hMem]
      rfl
    rw [UnorderedMap.emplace_of_notMem hMem, objectAt_insert, hNone]
    rfl

namespace EventLoopImpl

/-- The constructor, on the thread that owns the instance. -/
def construct (threadId : ThreadId) : EventLoopImpl CallbackFunc EventHandlerFunc where
  epfd := -1
  threadId := threadId
  isRunning := false
  fdHandlers := ∅
  removedFdHandlers := ∅
  scheduledEvents := []
  interestList := ∅
  nextObject := 0

/-- What the interest list records about a handler. -/
def interestOf (handler : FdHandler CallbackFunc) : Interest ObjectId where
  events := handler.epollEvents
  data := handler.object

/-- The lazy creation of the epoll instance in `addFdHandler`. -/
def ensureEpfd (loop : EventLoopImpl CallbackFunc EventHandlerFunc)
    (syscalls : Syscalls) : EventLoopImpl CallbackFunc EventHandlerFunc :=
  if loop.epfd = -1 then { loop with epfd := syscalls.epollCreate1 } else loop

/-- The object `addFdHandler` allocates. -/
def newFdHandler (loop : EventLoopImpl CallbackFunc EventHandlerFunc) (fd : Fd)
    (eventMask : EventMask) (callback : CallbackFunc) : FdHandler CallbackFunc where
  object := loop.nextObject
  fd := fd
  epollEvents := convertToEpollEvents eventMask
  callback := callback

def addFdHandler (loop : EventLoopImpl CallbackFunc EventHandlerFunc)
    (caller : ThreadId) (syscalls : Syscalls) (fd : Fd) (eventMask : EventMask)
    (callback : CallbackFunc) :
    ReturnCode × EventLoopImpl CallbackFunc EventHandlerFunc :=
  if loop.threadId ≠ caller then (.notThreadLocal, loop)
  else if fd ∈ loop.fdHandlers then (.alreadyExists, loop)
  else if convertToEpollEvents eventMask = 0 then (.invalidArg, loop)
  else
    -- a created epoll instance stays, whatever fails after it
    let loop := loop.ensureEpfd syscalls
    if loop.epfd = -1 then (.internalFault, loop)
    else
      let fdHandler := loop.newFdHandler fd eventMask callback
      let loop := { loop with nextObject := loop.nextObject + 1 }
      match epollCtl loop.interestList (.add (interestOf fdHandler)) fd
          syscalls.epollCtlSucceeds with
      -- the only reference to the new object goes out of scope here
      | none => (.internalFault, loop)
      | some interestList =>
          (.normal, { loop with
            interestList := interestList
            fdHandlers := UnorderedMap.emplace fd fdHandler loop.fdHandlers })

def updateFdEvents (loop : EventLoopImpl CallbackFunc EventHandlerFunc)
    (caller : ThreadId) (syscalls : Syscalls) (fd : Fd) (eventMask : EventMask) :
    ReturnCode × EventLoopImpl CallbackFunc EventHandlerFunc :=
  if loop.threadId ≠ caller then (.notThreadLocal, loop)
  else
    match loop.fdHandlers.lookup fd with
    | none => (.notFound, loop)
    | some fdHandler =>
        if convertToEpollEvents eventMask = 0 then (.invalidArg, loop)
        else
          -- the handler is written before the system call and not rolled back
          let fdHandler :=
            { fdHandler with epollEvents := convertToEpollEvents eventMask }
          let loop :=
            { loop with fdHandlers := loop.fdHandlers.insert fd fdHandler }
          match epollCtl loop.interestList (.modify (interestOf fdHandler)) fd
              syscalls.epollCtlSucceeds with
          | none => (.internalFault, loop)
          | some interestList => (.normal, { loop with interestList := interestList })

def removeFdHandler (loop : EventLoopImpl CallbackFunc EventHandlerFunc)
    (caller : ThreadId) (syscalls : Syscalls) (fd : Fd) :
    ReturnCode × EventLoopImpl CallbackFunc EventHandlerFunc :=
  if loop.threadId ≠ caller then (.notThreadLocal, loop)
  else
    match loop.fdHandlers.lookup fd with
    | none => (.notFound, loop)
    | some fdHandler =>
        -- the result of EPOLL_CTL_DEL is discarded
        let interestList :=
          (epollCtl loop.interestList .delete fd syscalls.epollCtlSucceeds).getD
            loop.interestList
        let fdHandler := { fdHandler with epollEvents := 0 }
        (.normal, { loop with
          interestList := interestList
          -- nothing happens to an older entry of the same descriptor
          removedFdHandlers :=
            UnorderedMap.emplace fd fdHandler loop.removedFdHandlers
          fdHandlers := loop.fdHandlers.erase fd })

def scheduleEvent (loop : EventLoopImpl CallbackFunc EventHandlerFunc)
    (caller : ThreadId) (eventHandler : EventHandlerFunc) :
    ReturnCode × EventLoopImpl CallbackFunc EventHandlerFunc :=
  if loop.threadId ≠ caller then (.notThreadLocal, loop)
  else (.normal, { loop with scheduledEvents := loop.scheduledEvents ++ [eventHandler] })

def stop (loop : EventLoopImpl CallbackFunc EventHandlerFunc) (caller : ThreadId) :
    ReturnCode × EventLoopImpl CallbackFunc EventHandlerFunc :=
  if loop.threadId ≠ caller then (.notThreadLocal, loop)
  else (.normal, { loop with isRunning := false })

end EventLoopImpl

/-- The calls of `IEventLoop` other than `run`. -/
inductive Call (CallbackFunc EventHandlerFunc : Type)
  | addFdHandler (fd : Fd) (eventMask : EventMask) (callback : CallbackFunc)
  | updateFdEvents (fd : Fd) (eventMask : EventMask)
  | removeFdHandler (fd : Fd)
  | scheduleEvent (eventHandler : EventHandlerFunc)
  | stop
deriving DecidableEq, Repr

namespace EventLoopImpl

def perform (loop : EventLoopImpl CallbackFunc EventHandlerFunc) (caller : ThreadId)
    (syscalls : Syscalls) : Call CallbackFunc EventHandlerFunc →
    ReturnCode × EventLoopImpl CallbackFunc EventHandlerFunc
  | .addFdHandler fd eventMask callback =>
      loop.addFdHandler caller syscalls fd eventMask callback
  | .updateFdEvents fd eventMask => loop.updateFdEvents caller syscalls fd eventMask
  | .removeFdHandler fd => loop.removeFdHandler caller syscalls fd
  | .scheduleEvent eventHandler => loop.scheduleEvent caller eventHandler
  | .stop => loop.stop caller

/-! ## What each operation can do -/

theorem ensureEpfd_eq
    (loop : EventLoopImpl CallbackFunc EventHandlerFunc) (syscalls : Syscalls) :
    ∃ epfd, loop.ensureEpfd syscalls = { loop with epfd := epfd } := by
  unfold ensureEpfd
  split
  · exact ⟨_, rfl⟩
  · exact ⟨loop.epfd, rfl⟩

/-- `addFdHandler` either reports an error and leaves both maps and the
interest list alone, or registers one new object on both sides. -/
theorem addFdHandler_cases
    {loop next : EventLoopImpl CallbackFunc EventHandlerFunc} {caller : ThreadId}
    {syscalls : Syscalls} {fd : Fd} {eventMask : EventMask} {callback : CallbackFunc}
    {rc : ReturnCode}
    (hAdd : loop.addFdHandler caller syscalls fd eventMask callback = (rc, next)) :
    (rc ≠ .normal ∧ ∃ epfd nextObject, loop.nextObject ≤ nextObject ∧
      next = { loop with epfd := epfd, nextObject := nextObject }) ∨
    (rc = .normal ∧ fd ∉ loop.fdHandlers ∧ fd ∉ loop.interestList ∧
      ∃ epfd, next = { loop with
        epfd := epfd
        nextObject := loop.nextObject + 1
        interestList := loop.interestList.insert fd
          (interestOf (loop.newFdHandler fd eventMask callback))
        fdHandlers := loop.fdHandlers.insert fd
          (loop.newFdHandler fd eventMask callback) }) := by
  unfold addFdHandler at hAdd
  split at hAdd
  · obtain ⟨rfl, rfl⟩ := Prod.mk.inj hAdd
    exact Or.inl ⟨by decide, _, _, le_rfl, rfl⟩
  split at hAdd
  · obtain ⟨rfl, rfl⟩ := Prod.mk.inj hAdd
    exact Or.inl ⟨by decide, _, _, le_rfl, rfl⟩
  rename_i hNotMem
  split at hAdd
  · obtain ⟨rfl, rfl⟩ := Prod.mk.inj hAdd
    exact Or.inl ⟨by decide, _, _, le_rfl, rfl⟩
  obtain ⟨epfd, hEnsure⟩ := loop.ensureEpfd_eq syscalls
  simp only [hEnsure] at hAdd
  split at hAdd
  · obtain ⟨rfl, rfl⟩ := Prod.mk.inj hAdd
    exact Or.inl ⟨by decide, epfd, _, le_rfl, rfl⟩
  split at hAdd
  · obtain ⟨rfl, rfl⟩ := Prod.mk.inj hAdd
    exact Or.inl ⟨by decide, epfd, _, Nat.le_succ _, rfl⟩
  · rename_i interestList hCtl
    obtain ⟨hFree, rfl⟩ := epollCtl_add_some hCtl
    obtain ⟨rfl, rfl⟩ := Prod.mk.inj hAdd
    refine Or.inr ⟨rfl, hNotMem, hFree, epfd, ?_⟩
    rw [UnorderedMap.emplace_of_notMem hNotMem]
    rfl

/-- `updateFdEvents` either returns before it changes anything, or writes the
new bits into the object, and into the interest list if `epoll_ctl` succeeds. -/
theorem updateFdEvents_cases
    {loop next : EventLoopImpl CallbackFunc EventHandlerFunc} {caller : ThreadId}
    {syscalls : Syscalls} {fd : Fd} {eventMask : EventMask} {rc : ReturnCode}
    (hUpdate : loop.updateFdEvents caller syscalls fd eventMask = (rc, next)) :
    (next = loop ∧ (loop.threadId ≠ caller ∨ fd ∉ loop.fdHandlers ∨
      convertToEpollEvents eventMask = 0)) ∨
    (loop.threadId = caller ∧ convertToEpollEvents eventMask ≠ 0 ∧
      ∃ handler, loop.fdHandlers.lookup fd = some handler ∧
        let updated := { handler with epollEvents := convertToEpollEvents eventMask }
        (rc = .internalFault ∧
          (syscalls.epollCtlSucceeds = true → fd ∉ loop.interestList) ∧
          next = { loop with fdHandlers := loop.fdHandlers.insert fd updated }) ∨
        (rc = .normal ∧ syscalls.epollCtlSucceeds = true ∧
          next = { loop with
            fdHandlers := loop.fdHandlers.insert fd updated
            interestList := loop.interestList.insert fd (interestOf updated) })) := by
  unfold updateFdEvents at hUpdate
  split at hUpdate
  · rename_i hThread
    exact Or.inl ⟨(Prod.mk.inj hUpdate).2.symm, Or.inl hThread⟩
  rename_i hThread
  split at hUpdate
  · rename_i hNone
    exact Or.inl ⟨(Prod.mk.inj hUpdate).2.symm,
      Or.inr (Or.inl (AList.lookup_eq_none.mp hNone))⟩
  rename_i handler hHandler
  split at hUpdate
  · rename_i hZero
    exact Or.inl ⟨(Prod.mk.inj hUpdate).2.symm, Or.inr (Or.inr hZero)⟩
  rename_i hBits
  refine Or.inr ⟨by simpa using hThread, hBits, handler, hHandler, ?_⟩
  dsimp only at hUpdate
  split at hUpdate
  · rename_i hCtl
    obtain ⟨rfl, rfl⟩ := Prod.mk.inj hUpdate
    refine Or.inl ⟨rfl, fun hSucceeds hMem => ?_, rfl⟩
    rw [hSucceeds, epollCtl_modify_of_mem _ hMem] at hCtl
    cases hCtl
  · rename_i interestList hCtl
    obtain ⟨rfl, rfl⟩ := Prod.mk.inj hUpdate
    obtain rfl := epollCtl_modify_some hCtl
    refine Or.inr ⟨rfl, ?_, rfl⟩
    by_contra hFails
    rw [Bool.not_eq_true] at hFails
    rw [hFails, epollCtl_fails] at hCtl
    cases hCtl

/-- `removeFdHandler` either returns before it changes anything, or moves the
object from one map to the other unless the key is taken there. -/
theorem removeFdHandler_cases
    {loop next : EventLoopImpl CallbackFunc EventHandlerFunc} {caller : ThreadId}
    {syscalls : Syscalls} {fd : Fd} {rc : ReturnCode}
    (hRemove : loop.removeFdHandler caller syscalls fd = (rc, next)) :
    (next = loop ∧ (loop.threadId ≠ caller ∨ fd ∉ loop.fdHandlers)) ∨
    (loop.threadId = caller ∧ rc = .normal ∧
      ∃ handler, loop.fdHandlers.lookup fd = some handler ∧
        next = { loop with
          interestList :=
            (epollCtl loop.interestList .delete fd syscalls.epollCtlSucceeds).getD
              loop.interestList
          removedFdHandlers := UnorderedMap.emplace fd
            { handler with epollEvents := 0 } loop.removedFdHandlers
          fdHandlers := loop.fdHandlers.erase fd }) := by
  unfold removeFdHandler at hRemove
  split at hRemove
  · rename_i hThread
    exact Or.inl ⟨(Prod.mk.inj hRemove).2.symm, Or.inl hThread⟩
  rename_i hThread
  split at hRemove
  · rename_i hNone
    exact Or.inl ⟨(Prod.mk.inj hRemove).2.symm,
      Or.inr (AList.lookup_eq_none.mp hNone)⟩
  · rename_i handler hHandler
    obtain ⟨rfl, rfl⟩ := Prod.mk.inj hRemove
    exact Or.inr ⟨by simpa using hThread, rfl, handler, hHandler, rfl⟩

theorem scheduleEvent_cases
    {loop next : EventLoopImpl CallbackFunc EventHandlerFunc} {caller : ThreadId}
    {eventHandler : EventHandlerFunc} {rc : ReturnCode}
    (hSchedule : loop.scheduleEvent caller eventHandler = (rc, next)) :
    (rc = .notThreadLocal ∧ next = loop) ∨
    (rc = .normal ∧
      next = { loop with scheduledEvents := loop.scheduledEvents ++ [eventHandler] }) := by
  unfold scheduleEvent at hSchedule
  split at hSchedule
  · obtain ⟨rfl, rfl⟩ := Prod.mk.inj hSchedule
    exact Or.inl ⟨rfl, rfl⟩
  · obtain ⟨rfl, rfl⟩ := Prod.mk.inj hSchedule
    exact Or.inr ⟨rfl, rfl⟩

theorem stop_cases
    {loop next : EventLoopImpl CallbackFunc EventHandlerFunc} {caller : ThreadId}
    {rc : ReturnCode} (hStop : loop.stop caller = (rc, next)) :
    (rc = .notThreadLocal ∧ next = loop) ∨
    (rc = .normal ∧ next = { loop with isRunning := false }) := by
  unfold stop at hStop
  split at hStop
  · obtain ⟨rfl, rfl⟩ := Prod.mk.inj hStop
    exact Or.inl ⟨rfl, rfl⟩
  · obtain ⟨rfl, rfl⟩ := Prod.mk.inj hStop
    exact Or.inr ⟨rfl, rfl⟩

/-- A foreign call bounces off the thread check. -/
theorem perform_elsewhere
    {loop next : EventLoopImpl CallbackFunc EventHandlerFunc} {caller : ThreadId}
    {syscalls : Syscalls} {call : Call CallbackFunc EventHandlerFunc} {rc : ReturnCode}
    (hForeign : loop.threadId ≠ caller)
    (hPerform : loop.perform caller syscalls call = (rc, next)) :
    rc = .notThreadLocal ∧ next = loop := by
  cases call <;>
    simp only [perform, addFdHandler, updateFdEvents, removeFdHandler, scheduleEvent,
      stop, hForeign, ne_eq, not_false_eq_true, if_true, Prod.mk.injEq] at hPerform <;>
    exact ⟨hPerform.1.symm, hPerform.2.symm⟩

/-- What a call of the interface can do to the two maps and the address
counter, whatever `epoll_ctl` answers.  Objects are told apart by their
addresses here, so a change of event bits counts as no change. -/
inductive RegistryChange (loop next : EventLoopImpl CallbackFunc EventHandlerFunc) :
    Prop
  | keeps
      (hObjects : ∀ fd, objectAt next.fdHandlers fd = objectAt loop.fdHandlers fd)
      (hRemoved : next.removedFdHandlers = loop.removedFdHandlers)
      (hNext : loop.nextObject ≤ next.nextObject)
  | registers {fd : Fd} {handler : FdHandler CallbackFunc}
      (hFree : fd ∉ loop.fdHandlers) (hNew : handler.object = loop.nextObject)
      (hHandlers : next.fdHandlers = loop.fdHandlers.insert fd handler)
      (hRemoved : next.removedFdHandlers = loop.removedFdHandlers)
      (hNext : next.nextObject = loop.nextObject + 1)
  | unregisters {fd : Fd} {handler : FdHandler CallbackFunc}
      (hHandler : loop.fdHandlers.lookup fd = some handler)
      (hHandlers : next.fdHandlers = loop.fdHandlers.erase fd)
      (hRemoved : next.removedFdHandlers = UnorderedMap.emplace fd
        { handler with epollEvents := 0 } loop.removedFdHandlers)
      (hNext : next.nextObject = loop.nextObject)

theorem RegistryChange.refl (loop : EventLoopImpl CallbackFunc EventHandlerFunc) :
    loop.RegistryChange loop :=
  .keeps (fun _ => rfl) rfl le_rfl

/-- Writing new bits into a registered object moves no object. -/
theorem RegistryChange.of_update
    {loop next : EventLoopImpl CallbackFunc EventHandlerFunc} {fd : Fd}
    {handler : FdHandler CallbackFunc} {events : EventMask}
    (hHandler : loop.fdHandlers.lookup fd = some handler)
    (hHandlers : next.fdHandlers =
      loop.fdHandlers.insert fd { handler with epollEvents := events })
    (hRemoved : next.removedFdHandlers = loop.removedFdHandlers)
    (hNext : next.nextObject = loop.nextObject) : loop.RegistryChange next := by
  refine .keeps ?_ hRemoved (Nat.le_of_eq hNext.symm)
  intro other
  rw [hHandlers, objectAt_insert]
  split
  · rename_i hFd
    rw [hFd, objectAt_of_lookup hHandler]
  · rfl

theorem perform_changes_registry
    {loop next : EventLoopImpl CallbackFunc EventHandlerFunc} {caller : ThreadId}
    {syscalls : Syscalls} {call : Call CallbackFunc EventHandlerFunc} {rc : ReturnCode}
    (hPerform : loop.perform caller syscalls call = (rc, next)) :
    loop.RegistryChange next := by
  cases call with
  | addFdHandler fd eventMask callback =>
      rcases addFdHandler_cases hPerform with
        ⟨_, _, _, hNext, rfl⟩ | ⟨_, hNotMem, _, _, rfl⟩
      · exact .keeps (fun _ => rfl) rfl hNext
      · exact .registers hNotMem rfl rfl rfl rfl
  | updateFdEvents fd eventMask =>
      rcases updateFdEvents_cases hPerform with
        ⟨rfl, _⟩ | ⟨_, _, handler, hHandler, ⟨_, _, rfl⟩ | ⟨_, _, rfl⟩⟩
      · exact .refl _
      · exact .of_update hHandler rfl rfl rfl
      · exact .of_update hHandler rfl rfl rfl
  | removeFdHandler fd =>
      rcases removeFdHandler_cases hPerform with ⟨rfl, _⟩ | ⟨_, _, handler, hHandler, rfl⟩
      · exact .refl _
      · exact .unregisters hHandler rfl rfl rfl
  | scheduleEvent eventHandler =>
      rcases scheduleEvent_cases hPerform with ⟨_, rfl⟩ | ⟨_, rfl⟩
      · exact .refl _
      · exact .keeps (fun _ => rfl) rfl le_rfl
  | stop =>
      rcases stop_cases hPerform with ⟨_, rfl⟩ | ⟨_, rfl⟩
      · exact .refl _
      · exact .keeps (fun _ => rfl) rfl le_rfl

/-- What the kernel keeps for a descriptor after a call was there before or is
that of the handler now registered. -/
theorem perform_interests
    {loop next : EventLoopImpl CallbackFunc EventHandlerFunc} {caller : ThreadId}
    {syscalls : Syscalls} {call : Call CallbackFunc EventHandlerFunc} {rc : ReturnCode}
    (hPerform : loop.perform caller syscalls call = (rc, next))
    {fd : Fd} {interest : Interest ObjectId}
    (hInterest : next.interestList.lookup fd = some interest) :
    loop.interestList.lookup fd = some interest ∨
      (next.fdHandlers.lookup fd).map interestOf = some interest := by
  -- a descriptor written on both sides at once
  have hBoth : ∀ (other : Fd) (handler : FdHandler CallbackFunc),
      next.fdHandlers = loop.fdHandlers.insert other handler →
      next.interestList = loop.interestList.insert other (interestOf handler) →
      loop.interestList.lookup fd = some interest ∨
        (next.fdHandlers.lookup fd).map interestOf = some interest := by
    intro other handler hHandlers hList
    rw [hList] at hInterest
    by_cases hFd : fd = other
    · subst hFd
      rw [AList.lookup_insert] at hInterest
      rw [hHandlers, AList.lookup_insert]
      exact Or.inr hInterest
    · rw [AList.lookup_insert_ne hFd] at hInterest
      exact Or.inl hInterest
  cases call with
  | addFdHandler other eventMask callback =>
      rcases addFdHandler_cases hPerform with ⟨_, _, _, _, rfl⟩ | ⟨_, _, _, _, rfl⟩
      · exact Or.inl hInterest
      · exact hBoth _ _ rfl rfl
  | updateFdEvents other eventMask =>
      rcases updateFdEvents_cases hPerform with
        ⟨rfl, _⟩ | ⟨_, _, _, _, ⟨_, _, rfl⟩ | ⟨_, _, rfl⟩⟩
      · exact Or.inl hInterest
      · exact Or.inl hInterest
      · exact hBoth _ _ rfl rfl
  | removeFdHandler other =>
      rcases removeFdHandler_cases hPerform with ⟨rfl, _⟩ | ⟨_, _, _, _, rfl⟩
      · exact Or.inl hInterest
      · exact Or.inl (epollCtl_delete_getD_lookup hInterest)
  | scheduleEvent eventHandler =>
      rcases scheduleEvent_cases hPerform with ⟨_, rfl⟩ | ⟨_, rfl⟩ <;>
        exact Or.inl hInterest
  | stop =>
      rcases stop_cases hPerform with ⟨_, rfl⟩ | ⟨_, rfl⟩ <;> exact Or.inl hInterest

end EventLoopImpl
end EventLoop
end UtilsFramework
