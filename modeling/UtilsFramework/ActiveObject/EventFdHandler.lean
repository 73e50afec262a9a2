import UtilsFramework.ActiveObject.HostedObject
import UtilsFramework.EventLoop.RegisteredHandlers
import UtilsFramework.EventLoop.WatchedDescriptors

/-!
# The eventfd in the event loop

What the event loop holds for an Active Object: the events of the eventfd in a batch,
the activations of `run()` and of `handleFdEvent` on the call stack, and the handler.

The handler of the eventfd is the first one of its loop.  That its address belongs to
no other handler tells its events from all others, even after it has been removed.
-/

namespace UtilsFramework
namespace ActiveObject

open Library
open Library.Epoll
open EventLoop (EventLoopImpl LoopThread Fd ObjectId Syscalls FdHandler RunPhase fdEventIn)

variable {UserCallback EventHandlerFunc Func : Type}

/-! ## The events of the eventfd -/

/-- The address of the handler `mainFunction` registers. -/
def eventFdObject : ObjectId := 0

def ofEventFd (events : List (Event ObjectId)) : List (Event ObjectId) :=
  events.filter fun event => event.data = eventFdObject

/-- The events a `run()` has still to handle. -/
def unhandled : RunPhase → List (Event ObjectId)
  | .handling events => events
  | _ => []

/-- Whether an event of the eventfd is pending among the unhandled ones.  Once the
eventfd is not registered any more it may be reported without being pending: such
an event is skipped. -/
structure Pending (registered : Bool) (events : List (Event ObjectId)) (pending : Bool) :
    Prop where
  reported : registered = true → (ofEventFd events).length = pending.toNat ∧
    ∀ event ∈ ofEventFd events, event.events &&& epollIn ≠ 0
  left : pending = true → ofEventFd events ≠ []

namespace Pending

variable {registered pending : Bool} {event : Event ObjectId}
  {events : List (Event ObjectId)}

theorem nil (registered : Bool) : Pending registered [] false :=
  ⟨fun _ => ⟨rfl, by simp [ofEventFd]⟩, nofun⟩

theorem eq_false (hPending : Pending registered [] pending) : pending = false := by
  cases pending with
  | false => rfl
  | true => exact absurd rfl (hPending.left rfl)

theorem unregister (hPending : Pending registered events pending) :
    Pending false events pending :=
  ⟨nofun, hPending.left⟩

/-- The event of another descriptor is handled. -/
theorem other (hPending : Pending registered (event :: events) pending)
    (hData : event.data ≠ eventFdObject) : Pending registered events pending := by
  have hOwn : ofEventFd (event :: events) = ofEventFd events := by
    simp [ofEventFd, hData]
  obtain ⟨hReported, hLeft⟩ := hPending
  rw [hOwn] at hReported hLeft
  exact ⟨hReported, hLeft⟩

/-- The event of the eventfd is handled. -/
theorem own (hPending : Pending registered (event :: events) pending)
    (hData : event.data = eventFdObject) :
    Pending registered events false ∧ (registered = true →
      pending = true ∧ event.events &&& epollIn ≠ 0) := by
  have hOwn : ofEventFd (event :: events) = event :: ofEventFd events := by
    simp [ofEventFd, hData]
  refine ⟨⟨fun hRegistered => ?_, nofun⟩, fun hRegistered => ?_⟩
  · obtain ⟨hLength, hBits⟩ := hPending.reported hRegistered
    rw [hOwn] at hLength hBits
    have hNone : (ofEventFd events).length = 0 := by
      rw [List.length_cons] at hLength
      have := Bool.toNat_le pending
      omega
    exact ⟨hNone, fun other hOther => hBits other (List.mem_cons_of_mem _ hOther)⟩
  · obtain ⟨hLength, hBits⟩ := hPending.reported hRegistered
    rw [hOwn] at hLength hBits
    refine ⟨?_, hBits event List.mem_cons_self⟩
    cases pending with
    | false => simp at hLength
    | true => rfl

end Pending

/-! ## The call stack -/

/-- The call stack of the loop, with its callbacks, and the activations the abstract
thread has of it. -/
inductive HostsFrames (registered : Bool) : List (EventLoop.Frame EventHandlerFunc) →
    List (Option (HandlerPhase Func)) → List (Frame Func) → Prop
  | idle : HostsFrames registered [] [] []
  | run {phase : RunPhase} {pending : Bool}
      {stack : List (EventLoop.Frame EventHandlerFunc)}
      {activations : List (Option (HandlerPhase Func))} {frames : List (Frame Func)}
      (hPending : Pending registered (unhandled phase) pending)
      (hUser : EventLoop.userCodeRuns stack = true)
      (below : HostsFrames registered stack activations frames) :
      HostsFrames registered (.run phase :: stack) activations (.run pending :: frames)
  | draining {events : List (Event ObjectId)} {stack : List (EventLoop.Frame EventHandlerFunc)}
      {activations : List (Option (HandlerPhase Func))} {frames : List (Frame Func)}
      (below : HostsFrames registered (.run (.handling events) :: stack) activations frames) :
      HostsFrames registered (.executeScheduledEvents :: .run (.handling events) :: stack)
        activations frames
  | eventHandler {eventHandler : EventHandlerFunc}
      {stack : List (EventLoop.Frame EventHandlerFunc)}
      {activations : List (Option (HandlerPhase Func))} {frames : List (Frame Func)}
      (below : HostsFrames registered (.executeScheduledEvents :: stack) activations frames) :
      HostsFrames registered (.eventHandler eventHandler :: .executeScheduledEvents :: stack)
        activations frames
  | userCallback {object : ObjectId} {stack : List (EventLoop.Frame EventHandlerFunc)}
      {activations : List (Option (HandlerPhase Func))} {frames : List (Frame Func)}
      (below : HostsFrames registered (.executeScheduledEvents :: stack) activations frames) :
      HostsFrames registered (.callback object :: .executeScheduledEvents :: stack)
        (none :: activations) frames
  | handleFdEvent {object : ObjectId} {phase : HandlerPhase Func}
      {stack : List (EventLoop.Frame EventHandlerFunc)}
      {activations : List (Option (HandlerPhase Func))} {frames : List (Frame Func)}
      (below : HostsFrames registered (.executeScheduledEvents :: stack) activations frames) :
      HostsFrames registered (.callback object :: .executeScheduledEvents :: stack)
        (some phase :: activations) (.handleFdEvent phase :: frames)

namespace HostsFrames

variable {registered : Bool} {stack : List (EventLoop.Frame EventHandlerFunc)}
  {activations : List (Option (HandlerPhase Func))} {frames : List (Frame Func)}

/-- Pending events stay pending, although they will be skipped. -/
theorem unregister (hosts : HostsFrames registered stack activations frames) :
    HostsFrames false stack activations frames := by
  induction hosts with
  | idle => exact .idle
  | run hPending hUser _ ih => exact .run hPending.unregister hUser ih
  | draining _ ih => exact .draining ih
  | eventHandler _ ih => exact .eventHandler ih
  | userCallback _ ih => exact .userCallback ih
  | handleFdEvent _ ih => exact .handleFdEvent ih

theorem of_run {phase : RunPhase}
    (hosts : HostsFrames registered (.run phase :: stack) activations frames) :
    ∃ pending rest, frames = .run pending :: rest ∧
      Pending registered (unhandled phase) pending ∧
      EventLoop.userCodeRuns stack = true ∧
      HostsFrames registered stack activations rest := by
  cases hosts with
  | run hPending hUser below => exact ⟨_, _, rfl, hPending, hUser, below⟩

theorem of_executeScheduledEvents
    (hosts : HostsFrames registered (.executeScheduledEvents :: stack) activations frames) :
    (∃ events below, stack = .run (.handling events) :: below) ∧
      HostsFrames registered stack activations frames := by
  cases hosts with
  | draining below => exact ⟨⟨_, _, rfl⟩, below⟩

theorem of_eventHandler {eventHandler : EventHandlerFunc}
    (hosts : HostsFrames registered (.eventHandler eventHandler :: stack) activations
      frames) :
    (∃ below, stack = .executeScheduledEvents :: below) ∧
      HostsFrames registered stack activations frames := by
  cases hosts with
  | eventHandler below => exact ⟨⟨_, rfl⟩, below⟩

theorem of_callback {object : ObjectId}
    (hosts : HostsFrames registered (.callback object :: stack) activations frames) :
    (∃ below, stack = .executeScheduledEvents :: below) ∧
      ∃ activation rest, activations = activation :: rest ∧
        match activation with
        | none => HostsFrames registered stack rest frames
        | some phase => ∃ below, frames = .handleFdEvent phase :: below ∧
            HostsFrames registered stack rest below := by
  cases hosts with
  | userCallback below => exact ⟨⟨_, rfl⟩, _, _, rfl, below⟩
  | handleFdEvent below => exact ⟨⟨_, rfl⟩, _, _, rfl, _, rfl, below⟩

/-- `handleFdEvent` goes on. -/
theorem move {object : ObjectId} {before : HandlerPhase Func}
    (hosts : HostsFrames registered (.callback object :: stack) (some before :: activations)
      frames) :
    ∃ below, frames = .handleFdEvent before :: below ∧ ∀ after,
      HostsFrames registered (.callback object :: stack) (some after :: activations)
        (.handleFdEvent after :: below) := by
  cases hosts with
  | handleFdEvent below => exact ⟨_, rfl, fun _ => .handleFdEvent below⟩

/-- Below user code of the loop there is an activation of `run()`. -/
theorem run_of_executeScheduledEvents
    (hosts : HostsFrames registered (.executeScheduledEvents :: stack) activations frames) :
    ∃ pending rest, frames = .run pending :: rest := by
  cases hosts with
  | draining below =>
      obtain ⟨pending, rest, hFrames, -⟩ := below.of_run
      exact ⟨pending, rest, hFrames⟩

theorem ne_nil (hosts : HostsFrames registered stack activations frames)
    (hStack : stack ≠ []) : frames ≠ [] := by
  induction hosts with
  | idle => exact absurd rfl hStack
  | run => simp
  | draining _ ih => exact ih (by simp)
  | eventHandler _ ih => exact ih (by simp)
  | userCallback _ ih => exact ih (by simp)
  | handleFdEvent => simp

theorem eq_nil (hosts : HostsFrames registered stack activations frames)
    (hStack : stack = []) : activations = [] ∧ frames = [] := by
  cases hosts with
  | idle => exact ⟨rfl, rfl⟩
  | _ => cases hStack

end HostsFrames

/-! ## The handler of the eventfd -/

/-- What the loop holds for the object: at most one handler is bound to it, and that
one has the address of the first. -/
structure Carries (loop : EventLoopImpl (Callback UserCallback) EventHandlerFunc)
    (eventFd : Fd) (eventFdOpen registered : Bool) : Prop where
  separated : loop.Separated [eventFdObject]
  silent : loop.RemovedSilent
  addresses : loop.Registered fun _ handler =>
    (handler.callback = .handleFdEvent ↔ handler.object = eventFdObject)
  monitored : registered = true →
    loop.WatchesIn eventFd .handleFdEvent ∧ eventFdOpen = true
  unmonitored : registered = false →
    loop.Registered fun _ handler => handler.callback ≠ .handleFdEvent

namespace Carries

variable {loop next : EventLoopImpl (Callback UserCallback) EventHandlerFunc}
  {eventFd : Fd} {eventFdOpen registered : Bool} {rc : EventLoop.ReturnCode}

/-- `mainFunction` registers the first handler of its loop. -/
theorem added {aoThread caller : ThreadId} {syscalls : Syscalls} (hOpen : eventFdOpen = true)
    (hAdd : (EventLoopImpl.construct aoThread).addFdHandler caller syscalls eventFd
      fdEventIn .handleFdEvent = (.normal, next)) :
    Carries next eventFd eventFdOpen true := by
  have hPerform : (EventLoopImpl.construct aoThread).perform caller syscalls
      (.addFdHandler eventFd fdEventIn .handleFdEvent) = (.normal, next) := hAdd
  have separated := (EventLoopImpl.Separated.construct aoThread).perform hPerform
  have watches := EventLoopImpl.watchesIn_of_addFdHandler hAdd
  rcases EventLoopImpl.addFdHandler_cases hAdd with ⟨hError, -⟩ | ⟨-, -, -, epfd, rfl⟩
  · exact absurd rfl hError
  refine ⟨{ separated with inUseOld := ?_, shadowed := ?_ }, ?_, ?_, fun _ => ⟨watches, hOpen⟩,
    nofun⟩
  · simp [eventFdObject]
  · simp [EventLoopImpl.construct]
  · exact @EventLoopImpl.removedSilent_construct _ EventHandlerFunc aoThread
  · exact (EventLoopImpl.registered_construct _ aoThread).insert (by
      simp [EventLoopImpl.newFdHandler, EventLoopImpl.construct, eventFdObject]) rfl

/-- A step of the loop, unless a user disturbs the registered eventfd. -/
theorem moves {s t : LoopThread (Callback UserCallback) EventHandlerFunc}
    {action : EventLoop.Action (Callback UserCallback) EventHandlerFunc}
    {new : List (EventLoop.Output (Callback UserCallback) EventHandlerFunc)}
    (carries : Carries s.loop eventFd eventFdOpen registered) (moves : s.Moves action t new)
    (hUser : ∀ caller syscalls fd eventMask,
      action ≠ .call caller syscalls (.addFdHandler fd eventMask .handleFdEvent))
    (hLeaves : registered = true → ∀ syscalls call,
      action = .call s.loop.threadId syscalls call → call.disturbs ≠ some eventFd) :
    Carries t.loop eventFd eventFdOpen registered := by
  have hOld : eventFdObject < s.loop.nextObject :=
    carries.separated.inUseOld eventFdObject List.mem_cons_self
  have hBound : ∀ {caller syscalls fd eventMask callback},
      action = .call caller syscalls (.addFdHandler fd eventMask callback) →
      callback ≠ .handleFdEvent := by
    rintro caller syscalls fd eventMask _ rfl rfl
    exact hUser caller syscalls fd eventMask rfl
  refine ⟨moves.separated carries.separated, moves.removedSilent carries.silent,
    moves.registered carries.addresses (fun _ _ _ hHandler => hHandler) ?_, ?_, ?_⟩
  · intro caller syscalls fd eventMask callback hAction
    exact ⟨fun hSame => absurd hSame (hBound hAction),
      fun hSame => absurd hSame (Nat.ne_of_gt hOld)⟩
  · intro hRegistered
    obtain ⟨watches, hOpen⟩ := carries.monitored hRegistered
    exact ⟨moves.watchesIn watches (hLeaves hRegistered), hOpen⟩
  · intro hRemoved
    exact moves.registered (carries.unmonitored hRemoved) (fun _ _ _ hHandler => hHandler)
      fun _ _ _ _ _ hAction => hBound hAction

/-- No handler is bound to the object once that of the eventfd has been removed. -/
theorem unbound_of_removed (carries : Carries loop eventFd eventFdOpen registered)
    {caller : ThreadId} {syscalls : Syscalls} (hThread : loop.threadId = caller)
    (hRemove : loop.perform caller syscalls (.removeFdHandler eventFd) = (rc, next)) :
    next.Registered fun _ handler => handler.callback ≠ .handleFdEvent := by
  cases registered with
  | false =>
      exact (carries.unmonitored rfl).perform (fun _ _ _ hHandler => hHandler) hRemove nofun
  | true =>
      intro fd handler hFound hCallback
      have hNone := EventLoopImpl.removeFdHandler_unregisters hThread hRemove
      obtain ⟨watched, hWatched, hBound, -⟩ := (carries.monitored rfl).1
      rcases EventLoopImpl.removeFdHandler_cases hRemove with ⟨rfl, -⟩ | ⟨_, _, _, _, rfl⟩
      · rw [hWatched] at hNone
        cases hNone
      · have hFd : fd ≠ eventFd := by
          rintro rfl
          rw [hFound] at hNone
          cases hNone
        have hBefore : loop.fdHandlers.lookup fd = some handler :=
          (AList.lookup_erase_ne hFd).symm.trans hFound
        -- both would have the address of the first handler
        have hHere := EventLoop.objectAt_of_lookup hBefore
        have hThere := EventLoop.objectAt_of_lookup hWatched
        rw [(carries.addresses _ _ hBefore).mp hCallback] at hHere
        rw [(carries.addresses _ _ hWatched).mp hBound] at hThere
        exact hFd (carries.separated.injective _ _ _ hHere hThere)

/-- `stopEventLoop` on the thread of the loop. -/
theorem stopped (carries : Carries loop eventFd eventFdOpen registered)
    (syscalls : Syscalls) {caller : ThreadId} (hThread : loop.threadId = caller) :
    Carries ((loop.removeFdHandler caller syscalls eventFd).2.stop caller).2 eventFd
      eventFdOpen false := by
  have hRemove : loop.perform caller syscalls (.removeFdHandler eventFd) =
      ((loop.removeFdHandler caller syscalls eventFd).1,
        (loop.removeFdHandler caller syscalls eventFd).2) := rfl
  have hUnbound : (loop.removeFdHandler caller syscalls eventFd).2.Registered
      fun _ handler => handler.callback ≠ .handleFdEvent :=
    carries.unbound_of_removed hThread hRemove
  have hStop : (loop.removeFdHandler caller syscalls eventFd).2.perform caller syscalls .stop =
      (((loop.removeFdHandler caller syscalls eventFd).2.stop caller).1,
        ((loop.removeFdHandler caller syscalls eventFd).2.stop caller).2) := rfl
  refine ⟨(carries.separated.perform hRemove).perform hStop,
    (carries.silent.perform hRemove).perform hStop, ?_, nofun, fun _ => ?_⟩
  · exact (carries.addresses.perform (fun _ _ _ hHandler => hHandler) hRemove nofun).perform
      (fun _ _ _ hHandler => hHandler) hStop nofun
  · exact hUnbound.perform (fun _ _ _ hHandler => hHandler) hStop nofun

/-- The kernel forgets a descriptor that has been removed and closed. -/
theorem closed (carries : Carries loop eventFd eventFdOpen false) :
    Carries { loop with interestList := loop.interestList.erase eventFd } eventFd false
      false :=
  ⟨carries.separated.dropInterest eventFd, carries.silent, carries.addresses, nofun,
    carries.unmonitored⟩

/-- The address in an event tells whether the handler it leads to is that of the
eventfd. -/
theorem dispatched (carries : Carries loop eventFd eventFdOpen registered)
    {event : Event ObjectId} {handler : FdHandler (Callback UserCallback)}
    (hResolve : loop.resolve event.data = some handler)
    (hMask : EventLoop.convertToLocalEvents (event.events &&& handler.epollEvents) ≠ 0) :
    (handler.callback = .handleFdEvent ↔ event.data = eventFdObject) ∧
      (handler.callback = .handleFdEvent → registered = true) := by
  rcases Option.or_eq_some_iff.mp hResolve with hFound | ⟨-, hFound⟩
  · obtain ⟨⟨fd, hLookup⟩, hTest⟩ := UnorderedMap.findValue_some hFound
    rw [← of_decide_eq_true hTest]
    refine ⟨carries.addresses fd handler hLookup, fun hBound => ?_⟩
    by_contra hRemoved
    exact carries.unmonitored (by simpa using hRemoved) fd handler hLookup hBound
  · have hRemoved := carries.silent handler (UnorderedMap.findValue_some hFound).1
    rw [hRemoved] at hMask
    exact absurd (EventLoop.convertToLocalEvents_and_zero event.events) hMask

/-- An event of the registered eventfd is not skipped. -/
theorem not_skipped (carries : Carries loop eventFd eventFdOpen true)
    {event : Event ObjectId} {handler : FdHandler (Callback UserCallback)}
    (hResolve : loop.resolve event.data = some handler)
    (hData : event.data = eventFdObject) (hBits : event.events &&& epollIn ≠ 0) :
    EventLoop.convertToLocalEvents (event.events &&& handler.epollEvents) ≠ 0 := by
  obtain ⟨watched, hWatched, hBound, -, hEvents, -⟩ := (carries.monitored rfl).1
  have hObject := (carries.addresses _ _ hWatched).mp hBound
  have hSame := EventLoopImpl.resolve_of_lookup carries.separated hWatched
  rw [hObject, ← hData, hResolve] at hSame
  obtain rfl := Option.some.inj hSame
  have hIn : epollIn &&& (epollIn ||| epollOut) = epollIn := by decide
  rw [EventLoop.convertToLocalEvents_ne_zero_iff, hEvents, BitVec.and_assoc, hIn]
  exact hBits

end Carries

end ActiveObject
end UtilsFramework
