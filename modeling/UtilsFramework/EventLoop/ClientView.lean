import UtilsFramework.EventLoop.RegisteredHandlers
import UtilsFramework.Library.Monitor

/-!
# The event loop as its users see it

To its users an event loop is a table of subscriptions, one callback and one mask
for a descriptor, and a queue of scheduled events.  `ClientView.watch` is a
monitor that keeps both from the calls of the users and the answers they got,
and that accepts a dispatch only if it is the callback of the descriptor with some
of the events asked for last.

The file shows that it accepts every history of `EventLoopImpl`, for any nesting
of `run()`, any calls from any threads at any points, and any outcomes of the
system calls.  None of the handler objects, the map of removed handlers and the
batches in flight is visible to a user.
-/

namespace UtilsFramework
namespace EventLoop

open Library
open Library.Epoll
open Library.TransitionSystem

/-! ## Masks -/

/-- The mask asks for an event. -/
def asks (eventMask : EventMask) : Bool := eventMask &&& (fdEventIn ||| fdEventOut) ≠ 0

theorem and_fdEvent (eventMask : EventMask) :
    (eventMask &&& fdEventIn = 0 ∨ eventMask &&& fdEventIn = fdEventIn) ∧
      (eventMask &&& fdEventOut = 0 ∨ eventMask &&& fdEventOut = fdEventOut) := by
  have hBit : ∀ i, eventMask &&& BitVec.twoPow 32 i = 0 ∨
      eventMask &&& BitVec.twoPow 32 i = BitVec.twoPow 32 i := by
    intro i
    rw [BitVec.and_twoPow]
    split
    · exact Or.inr rfl
    · exact Or.inl rfl
  exact ⟨hBit 0, hBit 1⟩

theorem convertToEpollEvents_eq_zero_iff (eventMask : EventMask) :
    convertToEpollEvents eventMask = 0 ↔ asks eventMask = false := by
  have hSplit : eventMask &&& (fdEventIn ||| fdEventOut) = 0 ↔
      eventMask &&& fdEventIn = 0 ∧ eventMask &&& fdEventOut = 0 := by
    rw [BitVec.and_or_distrib_left]
    exact BitVec.or_eq_zero_iff
  rw [asks, decide_eq_false_iff_not, not_ne_iff, hSplit]
  unfold convertToEpollEvents
  by_cases hIn : eventMask &&& fdEventIn = 0 <;>
    by_cases hOut : eventMask &&& fdEventOut = 0 <;>
    simp only [hIn, hOut, ne_eq, not_true_eq_false, not_false_eq_true, if_true,
      if_false, true_and, false_and, iff_false] <;>
    decide

theorem convertToEpollEvents_and_epoll (eventMask : EventMask) :
    (eventMask &&& fdEventIn = 0 → convertToEpollEvents eventMask &&& epollIn = 0) ∧
      (eventMask &&& fdEventOut = 0 → convertToEpollEvents eventMask &&& epollOut = 0) := by
  unfold convertToEpollEvents
  constructor
  · intro hIn
    simp only [hIn, ne_eq, not_true_eq_false, if_false]
    split <;> decide
  · intro hOut
    simp only [hOut, ne_eq, not_true_eq_false, if_false]
    split <;> decide

/-- What comes back through both translations had been asked for. -/
theorem convertToLocalEvents_subset (events eventMask : EventMask) :
    convertToLocalEvents (events &&& convertToEpollEvents eventMask) &&& eventMask =
      convertToLocalEvents (events &&& convertToEpollEvents eventMask) := by
  obtain ⟨hIn, hOut⟩ := and_fdEvent eventMask
  obtain ⟨hNotIn, hNotOut⟩ := convertToEpollEvents_and_epoll eventMask
  have hAskedIn : (events &&& convertToEpollEvents eventMask) &&& epollIn ≠ 0 →
      fdEventIn &&& eventMask = fdEventIn := by
    intro hReported
    rw [BitVec.and_comm]
    refine hIn.resolve_left fun hNone => hReported ?_
    rw [BitVec.and_assoc, hNotIn hNone]
    exact BitVec.and_zero
  have hAskedOut : (events &&& convertToEpollEvents eventMask) &&& epollOut ≠ 0 →
      fdEventOut &&& eventMask = fdEventOut := by
    intro hReported
    rw [BitVec.and_comm]
    refine hOut.resolve_left fun hNone => hReported ?_
    rw [BitVec.and_assoc, hNotOut hNone]
    exact BitVec.and_zero
  have hNone : (0 : EventMask) &&& eventMask = 0 := BitVec.zero_and
  unfold convertToLocalEvents
  dsimp only
  split
  · rename_i hReportedOut
    split
    · rename_i hReportedIn
      rw [BitVec.and_or_distrib_right, BitVec.and_or_distrib_right, hAskedIn hReportedIn,
        hAskedOut hReportedOut, hNone]
    · rw [BitVec.and_or_distrib_right, hAskedOut hReportedOut, hNone]
  · split
    · rename_i hReportedIn
      rw [BitVec.and_or_distrib_right, hAskedIn hReportedIn, hNone]
    · exact hNone

/-! ## The view -/

structure Subscription (CallbackFunc : Type) where
  callback : CallbackFunc
  eventMask : EventMask
deriving DecidableEq, Repr

structure ClientView (CallbackFunc EventHandlerFunc : Type) where
  subscriptions : Fd → Option (Subscription CallbackFunc)
  scheduled : List EventHandlerFunc

variable {CallbackFunc EventHandlerFunc : Type}

namespace ClientView

def empty : ClientView CallbackFunc EventHandlerFunc where
  subscriptions _ := none
  scheduled := []

/-- The view with another subscription, or none, for a descriptor. -/
def subscribe (view : ClientView CallbackFunc EventHandlerFunc) (fd : Fd)
    (subscription : Option (Subscription CallbackFunc)) :
    ClientView CallbackFunc EventHandlerFunc :=
  { view with subscriptions := Function.update view.subscriptions fd subscription }

@[simp]
theorem subscribe_self (view : ClientView CallbackFunc EventHandlerFunc) (fd : Fd)
    (subscription : Option (Subscription CallbackFunc)) :
    (view.subscribe fd subscription).subscriptions fd = subscription :=
  Function.update_self ..

theorem subscribe_of_ne (view : ClientView CallbackFunc EventHandlerFunc) {fd other : Fd}
    (hFd : other ≠ fd) (subscription : Option (Subscription CallbackFunc)) :
    (view.subscribe fd subscription).subscriptions other = view.subscriptions other :=
  Function.update_of_ne hFd ..

/-- The answers a call may get, and what they mean. -/
def answered (view : ClientView CallbackFunc EventHandlerFunc) :
    Call CallbackFunc EventHandlerFunc → ReturnCode →
    Option (ClientView CallbackFunc EventHandlerFunc)
  | _, .notThreadLocal => some view
  | .addFdHandler fd eventMask callback, .normal =>
      if (view.subscriptions fd).isNone && asks eventMask then
        some (view.subscribe fd (some ⟨callback, eventMask⟩))
      else none
  | .addFdHandler fd _ _, .alreadyExists =>
      if (view.subscriptions fd).isSome then some view else none
  | .addFdHandler fd eventMask _, .invalidArg =>
      if (view.subscriptions fd).isNone && !asks eventMask then some view else none
  | .addFdHandler fd eventMask _, .internalFault =>
      if (view.subscriptions fd).isNone && asks eventMask then some view else none
  -- the new mask counts also if the kernel does not take it
  | .updateFdEvents fd eventMask, .normal | .updateFdEvents fd eventMask, .internalFault =>
      match view.subscriptions fd with
      | some subscription =>
          if asks eventMask then
            some (view.subscribe fd (some { subscription with eventMask := eventMask }))
          else none
      | none => none
  | .updateFdEvents fd _, .notFound | .removeFdHandler fd, .notFound =>
      if (view.subscriptions fd).isNone then some view else none
  | .updateFdEvents fd eventMask, .invalidArg =>
      if (view.subscriptions fd).isSome && !asks eventMask then some view else none
  | .removeFdHandler fd, .normal =>
      if (view.subscriptions fd).isSome then some (view.subscribe fd none) else none
  | .scheduleEvent eventHandler, .normal =>
      some { view with scheduled := view.scheduled ++ [eventHandler] }
  | .stop, .normal => some view
  | _, _ => none

/-- The monitor. -/
def watch [DecidableEq CallbackFunc] [DecidableEq EventHandlerFunc]
    (view : ClientView CallbackFunc EventHandlerFunc) :
    Output CallbackFunc EventHandlerFunc →
    Option (ClientView CallbackFunc EventHandlerFunc)
  | .returned call rc => view.answered call rc
  | .dispatched callback fd eventMask =>
      match view.subscriptions fd with
      | some subscription =>
          -- some of the events asked for, and no other
          if subscription.callback = callback ∧ eventMask ≠ 0 ∧
              eventMask &&& subscription.eventMask = eventMask then some view
          else none
      | none => none
  | .executed eventHandler =>
      match view.scheduled with
      | first :: rest =>
          if first = eventHandler then some { view with scheduled := rest } else none
      | [] => none
  | .enteredEpollWait | .runReturned _ => some view

end ClientView

/-! ## What the view has to do with the loop -/

/-- The registered handlers are the subscriptions, with translated masks. -/
structure EventLoopImpl.Shows (loop : EventLoopImpl CallbackFunc EventHandlerFunc)
    (view : ClientView CallbackFunc EventHandlerFunc) : Prop where
  subscriptions : ∀ fd, (loop.fdHandlers.lookup fd).map
      (fun handler => (handler.fd, handler.callback, handler.epollEvents)) =
    (view.subscriptions fd).map fun subscription =>
      (fd, subscription.callback, convertToEpollEvents subscription.eventMask)
  scheduled : view.scheduled = loop.scheduledEvents

namespace EventLoopImpl

variable {loop next : EventLoopImpl CallbackFunc EventHandlerFunc}
  {view : ClientView CallbackFunc EventHandlerFunc}

theorem Shows.of_registered (shows : loop.Shows view) {fd : Fd}
    {handler : FdHandler CallbackFunc} (hHandler : loop.fdHandlers.lookup fd = some handler) :
    ∃ subscription, view.subscriptions fd = some subscription ∧ handler.fd = fd ∧
      handler.callback = subscription.callback ∧
      handler.epollEvents = convertToEpollEvents subscription.eventMask := by
  have hShown := shows.subscriptions fd
  rw [hHandler] at hShown
  obtain ⟨subscription, hSubscription, hEq⟩ := Option.map_eq_some_iff.mp hShown.symm
  simp only [Prod.mk.injEq] at hEq
  exact ⟨subscription, hSubscription, hEq.1.symm, hEq.2.1.symm, hEq.2.2.symm⟩

theorem Shows.of_free (shows : loop.Shows view) {fd : Fd}
    (hNone : loop.fdHandlers.lookup fd = none) : view.subscriptions fd = none := by
  have hShown := shows.subscriptions fd
  rw [hNone] at hShown
  exact Option.map_eq_none_iff.mp hShown.symm

/-- A call that leaves the handlers and the scheduled events alone. -/
theorem Shows.of_same (shows : loop.Shows view)
    (hHandlers : next.fdHandlers = loop.fdHandlers)
    (hScheduled : next.scheduledEvents = loop.scheduledEvents) : next.Shows view where
  subscriptions fd := by rw [hHandlers]; exact shows.subscriptions fd
  scheduled := by rw [hScheduled]; exact shows.scheduled

/-- A handler put in place of the one of its descriptor, if any. -/
theorem Shows.subscribe (shows : loop.Shows view) {fd : Fd} {callback : CallbackFunc}
    {eventMask : EventMask} {object : ObjectId}
    (hHandlers : next.fdHandlers = loop.fdHandlers.insert fd
      ⟨object, fd, convertToEpollEvents eventMask, callback⟩)
    (hScheduled : next.scheduledEvents = loop.scheduledEvents) :
    next.Shows (view.subscribe fd (some ⟨callback, eventMask⟩)) where
  subscriptions other := by
    rw [hHandlers]
    by_cases hFd : other = fd
    · subst hFd
      rw [AList.lookup_insert, ClientView.subscribe_self]
      rfl
    · rw [AList.lookup_insert_ne hFd, ClientView.subscribe_of_ne view hFd]
      exact shows.subscriptions other
  scheduled := by rw [hScheduled]; exact shows.scheduled

theorem Shows.unsubscribe (shows : loop.Shows view) {fd : Fd}
    (hHandlers : next.fdHandlers = loop.fdHandlers.erase fd)
    (hScheduled : next.scheduledEvents = loop.scheduledEvents) :
    next.Shows (view.subscribe fd none) where
  subscriptions other := by
    rw [hHandlers]
    by_cases hFd : other = fd
    · subst hFd
      rw [AList.lookup_erase, ClientView.subscribe_self]
      rfl
    · rw [AList.lookup_erase_ne hFd, ClientView.subscribe_of_ne view hFd]
      exact shows.subscriptions other
  scheduled := by rw [hScheduled]; exact shows.scheduled

theorem Shows.addFdHandler (shows : loop.Shows view) {caller : ThreadId}
    {syscalls : Syscalls} {fd : Fd} {eventMask : EventMask} {callback : CallbackFunc}
    {rc : ReturnCode}
    (hAdd : loop.addFdHandler caller syscalls fd eventMask callback = (rc, next)) :
    ∃ after, view.answered (.addFdHandler fd eventMask callback) rc = some after ∧
      next.Shows after := by
  have hCases := addFdHandler_cases hAdd
  unfold EventLoopImpl.addFdHandler at hAdd
  split at hAdd
  · obtain ⟨rfl, rfl⟩ := Prod.mk.inj hAdd
    exact ⟨view, rfl, shows⟩
  split at hAdd
  · rename_i hMem
    obtain ⟨rfl, rfl⟩ := Prod.mk.inj hAdd
    obtain ⟨handler, hHandler⟩ := Option.isSome_iff_exists.mp (AList.lookup_isSome.mpr hMem)
    obtain ⟨subscription, hSubscription, -⟩ := shows.of_registered hHandler
    exact ⟨view, by simp [ClientView.answered, hSubscription], shows⟩
  rename_i hNotMem
  have hFree := shows.of_free (AList.lookup_eq_none.mpr hNotMem)
  split at hAdd
  · rename_i hZero
    obtain ⟨rfl, rfl⟩ := Prod.mk.inj hAdd
    have hAsks := (convertToEpollEvents_eq_zero_iff eventMask).mp hZero
    exact ⟨view, by simp [ClientView.answered, hFree, hAsks], shows⟩
  rename_i hNotZero
  have hAsks : asks eventMask = true := by
    rw [← Bool.not_eq_false]
    exact mt (convertToEpollEvents_eq_zero_iff eventMask).mpr hNotZero
  rcases hCases with ⟨hRc, epfd, nextObject, -, rfl⟩ | ⟨rfl, -, -, epfd, rfl⟩
  · have hFault : rc = .internalFault := by
      dsimp only at hAdd
      split at hAdd
      · exact (Prod.mk.inj hAdd).1.symm
      split at hAdd
      · exact (Prod.mk.inj hAdd).1.symm
      · exact absurd (Prod.mk.inj hAdd).1.symm hRc
    subst hFault
    exact ⟨view, by simp [ClientView.answered, hFree, hAsks], shows.of_same rfl rfl⟩
  · refine ⟨_, ?_, shows.subscribe rfl rfl⟩
    simp [ClientView.answered, hFree, hAsks]

theorem Shows.updateFdEvents (shows : loop.Shows view) {caller : ThreadId}
    {syscalls : Syscalls} {fd : Fd} {eventMask : EventMask} {rc : ReturnCode}
    (hUpdate : loop.updateFdEvents caller syscalls fd eventMask = (rc, next)) :
    ∃ after, view.answered (.updateFdEvents fd eventMask) rc = some after ∧
      next.Shows after := by
  have hCases := updateFdEvents_cases hUpdate
  unfold EventLoopImpl.updateFdEvents at hUpdate
  split at hUpdate
  · obtain ⟨rfl, rfl⟩ := Prod.mk.inj hUpdate
    exact ⟨view, rfl, shows⟩
  rename_i hThread
  split at hUpdate
  · rename_i hNone
    obtain ⟨rfl, rfl⟩ := Prod.mk.inj hUpdate
    exact ⟨view, by simp [ClientView.answered, shows.of_free hNone], shows⟩
  rename_i handler hHandler
  obtain ⟨subscription, hSubscription, hFd, hCallback, -⟩ := shows.of_registered hHandler
  split at hUpdate
  · rename_i hZero
    obtain ⟨rfl, rfl⟩ := Prod.mk.inj hUpdate
    have hAsks := (convertToEpollEvents_eq_zero_iff eventMask).mp hZero
    exact ⟨view, by simp [ClientView.answered, hSubscription, hAsks], shows⟩
  rename_i hNotZero
  have hAsks : asks eventMask = true := by
    rw [← Bool.not_eq_false]
    exact mt (convertToEpollEvents_eq_zero_iff eventMask).mpr hNotZero
  -- the handler is rewritten whatever the kernel answers
  have hUpdated : ({ handler with epollEvents := convertToEpollEvents eventMask } :
      FdHandler CallbackFunc) =
        ⟨handler.object, fd, convertToEpollEvents eventMask, subscription.callback⟩ := by
    rw [← hFd, ← hCallback]
  rcases hCases with ⟨-, hForeign | hNotMem | hZero⟩ | ⟨-, -, found, hFound, hEither⟩
  · exact absurd hForeign hThread
  · exact absurd (AList.lookup_isSome.mp (by simp [hHandler])) hNotMem
  · exact absurd hZero hNotZero
  · obtain rfl : handler = found := Option.some.inj (hHandler.symm.trans hFound)
    rw [hUpdated] at hEither
    rcases hEither with ⟨rfl, -, rfl⟩ | ⟨rfl, -, rfl⟩
    · exact ⟨_, by simp [ClientView.answered, hSubscription, hAsks], shows.subscribe rfl rfl⟩
    · exact ⟨_, by simp [ClientView.answered, hSubscription, hAsks], shows.subscribe rfl rfl⟩

theorem Shows.removeFdHandler (shows : loop.Shows view) {caller : ThreadId}
    {syscalls : Syscalls} {fd : Fd} {rc : ReturnCode}
    (hRemove : loop.removeFdHandler caller syscalls fd = (rc, next)) :
    ∃ after, view.answered (.removeFdHandler fd) rc = some after ∧ next.Shows after := by
  unfold EventLoopImpl.removeFdHandler at hRemove
  split at hRemove
  · obtain ⟨rfl, rfl⟩ := Prod.mk.inj hRemove
    exact ⟨view, rfl, shows⟩
  split at hRemove
  · rename_i hNone
    obtain ⟨rfl, rfl⟩ := Prod.mk.inj hRemove
    exact ⟨view, by simp [ClientView.answered, shows.of_free hNone], shows⟩
  · rename_i handler hHandler
    obtain ⟨rfl, rfl⟩ := Prod.mk.inj hRemove
    obtain ⟨subscription, hSubscription, -⟩ := shows.of_registered hHandler
    refine ⟨_, ?_, shows.unsubscribe rfl rfl⟩
    simp [ClientView.answered, hSubscription]

/-- The answer to a call is one that the view allows. -/
theorem Shows.perform (shows : loop.Shows view) {caller : ThreadId} {syscalls : Syscalls}
    {call : Call CallbackFunc EventHandlerFunc} {rc : ReturnCode}
    (hPerform : loop.perform caller syscalls call = (rc, next)) :
    ∃ after, view.answered call rc = some after ∧ next.Shows after := by
  cases call with
  | addFdHandler fd eventMask callback => exact shows.addFdHandler hPerform
  | updateFdEvents fd eventMask => exact shows.updateFdEvents hPerform
  | removeFdHandler fd => exact shows.removeFdHandler hPerform
  | scheduleEvent eventHandler =>
      rcases scheduleEvent_cases hPerform with ⟨rfl, rfl⟩ | ⟨rfl, rfl⟩
      · exact ⟨view, rfl, shows⟩
      · exact ⟨_, rfl, ⟨shows.subscriptions, by rw [shows.scheduled]⟩⟩
  | stop =>
      rcases stop_cases hPerform with ⟨rfl, rfl⟩ | ⟨rfl, rfl⟩
      · exact ⟨view, rfl, shows⟩
      · exact ⟨view, rfl, shows.of_same rfl rfl⟩

end EventLoopImpl

section

variable [DecidableEq CallbackFunc] [DecidableEq EventHandlerFunc]

theorem LoopThread.Moves.watched
    {s t : LoopThread CallbackFunc EventHandlerFunc}
    {action : Action CallbackFunc EventHandlerFunc}
    {new : List (Output CallbackFunc EventHandlerFunc)} (moves : Moves s action t new)
    {view : ClientView CallbackFunc EventHandlerFunc} (hSilent : s.loop.RemovedSilent)
    (shows : s.loop.Shows view) :
    ∃ after, Monitor.watchAll ClientView.watch view new = some after ∧
      t.loop.Shows after := by
  -- the steps that show nothing to a user
  have hQuiet : t.loop.fdHandlers = s.loop.fdHandlers →
      t.loop.scheduledEvents = s.loop.scheduledEvents →
      Monitor.watchAll ClientView.watch view new = some view →
      ∃ after, Monitor.watchAll ClientView.watch view new = some after ∧
        t.loop.Shows after :=
    fun hHandlers hScheduled hNew => ⟨view, hNew, shows.of_same hHandlers hScheduled⟩
  cases moves with
  | call _ hPerform =>
      obtain ⟨after, hAnswered, hShown⟩ := shows.perform hPerform
      exact ⟨after, by rw [Monitor.watchAll_singleton]; exact hAnswered, hShown⟩
  | @dispatches event rest below fdHandler hStack hResolve hMask =>
      obtain ⟨key, handler, events, hFound, hCallback, hFd, hEvents, hSome⟩ :=
        (Moves.dispatches hStack hResolve hMask).dispatched_registered hSilent
          List.mem_cons_self
      obtain ⟨subscription, hSubscription, hKey, hSame, hAsked⟩ := shows.of_registered hFound
      have hSubset := convertToLocalEvents_subset events subscription.eventMask
      rw [← hAsked, ← hEvents] at hSubset
      refine hQuiet rfl rfl ?_
      rw [Monitor.watchAll_singleton, ClientView.watch, ← hFd, hKey, hSubscription]
      exact if_pos ⟨hSame.symm.trans hCallback, hSome, hSubset⟩
  | @executes eventHandler rest _ hStack hQueue =>
      have hScheduled := shows.scheduled
      rw [hQueue] at hScheduled
      refine ⟨{ view with scheduled := rest }, ?_, ⟨shows.subscriptions, rfl⟩⟩
      simp [ClientView.watch, hScheduled]
  | _ => exact hQuiet rfl rfl rfl

/-- Every history of an event loop is one its users can explain: each answer fits the
subscriptions made so far, each dispatch goes to the callback of its descriptor
with some of the events asked for last and no other, and the scheduled events are
executed in their order.  What is registered at the end is what they have
subscribed to. -/
theorem run_follows_client_view
    {steps : List (LoopThread CallbackFunc EventHandlerFunc ×
      Action CallbackFunc EventHandlerFunc)}
    {history : List (Output CallbackFunc EventHandlerFunc)}
    {s : LoopThread CallbackFunc EventHandlerFunc}
    (run : (runSystem CallbackFunc EventHandlerFunc).Run steps history s) :
    ∃ view, Monitor.watchAll ClientView.watch .empty history = some view ∧
      s.loop.Shows view := by
  have hAccepted : ∃ view, Monitor.watchAll ClientView.watch .empty history = some view ∧
      s.loop.RemovedSilent ∧ s.loop.Shows view := by
    refine run.accepted (fun s view => s.loop.RemovedSilent ∧ s.loop.Shows view) ?_ ?_
    · rintro s ⟨threadId, rfl⟩
      exact ⟨EventLoopImpl.removedSilent_construct threadId, fun _ => rfl, rfl⟩
    · rintro s action t new view ⟨hSilent, shows⟩ hStep
      have moves := LoopThread.moves_of_step hStep
      obtain ⟨after, hAfter, hShown⟩ := moves.watched hSilent shows
      exact ⟨after, hAfter, moves.removedSilent hSilent, hShown⟩
  obtain ⟨view, hWatched, -, shows⟩ := hAccepted
  exact ⟨view, hWatched, shows⟩

end

/-- In a batch with the descriptors 5 and 6, the callback of 5 subscribes 6 anew for
output only; the kernel does not take the mask. -/
def maskedInBatch : List (Action Nat Nat) :=
  [.call 0 ⟨3, true⟩ (.addFdHandler 5 fdEventIn 50),
    .call 0 ⟨3, true⟩ (.addFdHandler 6 (fdEventIn ||| fdEventOut) 60), .run 0,
    .proceed, .proceed, .proceed, .proceed,
    .epollWaitReturns (.events [⟨epollIn, 0⟩, ⟨epollIn ||| epollOut, 1⟩]), .proceed,
    .call 0 ⟨3, false⟩ (.updateFdEvents 6 fdEventOut), .call 0 ⟨3, true⟩ (.scheduleEvent 7),
    .userReturns, .proceed, .userReturns, .proceed, .proceed]

def maskedInBatchHistory : List (Output Nat Nat) :=
  [.returned (.addFdHandler 5 fdEventIn 50) .normal,
    .returned (.addFdHandler 6 (fdEventIn ||| fdEventOut) 60) .normal, .enteredEpollWait,
    .dispatched 50 5 fdEventIn, .returned (.updateFdEvents 6 fdEventOut) .internalFault,
    .returned (.scheduleEvent 7) .normal, .executed 7, .dispatched 60 6 fdEventOut]

theorem maskedInBatch_followed : ∃ view : ClientView Nat Nat, ∃ s : LoopThread Nat Nat,
    Monitor.watchAll ClientView.watch .empty maskedInBatchHistory = some view ∧
      s.loop.Shows view := by
  obtain ⟨steps, s, run⟩ : ∃ steps s, (runSystem Nat Nat).Run steps maskedInBatchHistory s :=
    ⟨_, _, run_of_replay (⟨.construct 0, []⟩ : LoopThread Nat Nat) maskedInBatch ⟨0, rfl⟩ rfl⟩
  obtain ⟨view, hView⟩ := run_follows_client_view run
  exact ⟨view, s, hView⟩

end EventLoop
end UtilsFramework
