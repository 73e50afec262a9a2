import UtilsFramework.EventLoop.Handlers
import UtilsFramework.Library.NodeMap
import UtilsFramework.Library.TransitionSystem

/-!
# Message handlers

`ItcPubSubImpl` maps message numbers to handlers.  `handleFdEvent` receives one
message and calls the handler registered for its number in place: it passes
the `std::function` of the map's node by reference, and the handler may edit
the map while it runs.

The thread's calls are the actions of a transition system; the handlers that
are running, innermost first, are kept with the node each of them lives in.  A
handler may run the event loop, so `handleFdEvent` can be called within one.
-/

namespace UtilsFramework
namespace ItcPubSub

open Library

abbrev MsgNo := BitVec 32
abbrev ThreadId := Nat

inductive ReturnCode
  | normal
  | alreadyExists
  | notFound
  | notThreadLocal
  | internalFault
deriving DecidableEq, Repr

structure ItcPubSubImpl (MsgHandler : Type) where
  threadId : ThreadId
  mboxFd : Int
  msgHandlerMap : NodeMap MsgNo MsgHandler

variable {MsgHandler : Type}

namespace ItcPubSubImpl

/-- The constructor, on the thread that owns the instance. -/
def construct (threadId : ThreadId) : ItcPubSubImpl MsgHandler where
  threadId := threadId
  mboxFd := -1
  msgHandlerMap := .empty

/-- `addFdHandler` is what the event loop answers. -/
def addItcFd (pubSub : ItcPubSubImpl MsgHandler) (caller : ThreadId) (fd : Int)
    (addFdHandler : EventLoop.ReturnCode) : ReturnCode × ItcPubSubImpl MsgHandler :=
  if caller ≠ pubSub.threadId then (.notThreadLocal, pubSub)
  else if pubSub.mboxFd ≠ -1 then (.alreadyExists, pubSub)
  else if addFdHandler ≠ .normal then (.internalFault, pubSub)
  else (.normal, { pubSub with mboxFd := fd })

def registerMsg (pubSub : ItcPubSubImpl MsgHandler) (caller : ThreadId) (msgNo : MsgNo)
    (msgHandler : MsgHandler) : ReturnCode × ItcPubSubImpl MsgHandler :=
  if caller ≠ pubSub.threadId then (.notThreadLocal, pubSub)
  else
    match pubSub.msgHandlerMap.find msgNo with
    | some _ => (.alreadyExists, pubSub)
    | none =>
        (.normal, { pubSub with
          msgHandlerMap := pubSub.msgHandlerMap.emplace msgNo msgHandler })

def deregisterMsg (pubSub : ItcPubSubImpl MsgHandler) (caller : ThreadId) (msgNo : MsgNo) :
    ReturnCode × ItcPubSubImpl MsgHandler :=
  if caller ≠ pubSub.threadId then (.notThreadLocal, pubSub)
  else
    match pubSub.msgHandlerMap.find msgNo with
    | none => (.notFound, pubSub)
    | some _ =>
        (.normal, { pubSub with msgHandlerMap := pubSub.msgHandlerMap.erase msgNo })

end ItcPubSubImpl

/-- The calls of `IItcPubSub`. -/
inductive Call (MsgHandler : Type)
  | addItcFd (fd : Int) (addFdHandler : EventLoop.ReturnCode)
  | registerMsg (msgNo : MsgNo) (msgHandler : MsgHandler)
  | deregisterMsg (msgNo : MsgNo)
deriving DecidableEq

def ItcPubSubImpl.perform (pubSub : ItcPubSubImpl MsgHandler) (caller : ThreadId) :
    Call MsgHandler → ReturnCode × ItcPubSubImpl MsgHandler
  | .addItcFd fd addFdHandler => pubSub.addItcFd caller fd addFdHandler
  | .registerMsg msgNo msgHandler => pubSub.registerMsg caller msgNo msgHandler
  | .deregisterMsg msgNo => pubSub.deregisterMsg caller msgNo

/-! ## The thread -/

/-- A handler that has not returned: the number of its message and the address
of the `std::function` it was called through. -/
structure Executing where
  msgNo : MsgNo
  address : Nat
deriving DecidableEq, Repr

structure Subscriber (MsgHandler : Type) where
  pubSub : ItcPubSubImpl MsgHandler
  executing : List Executing

inductive Action (MsgHandler : Type)
  | call (caller : ThreadId) (call : Call MsgHandler)
  /-- the event loop calls `handleFdEvent`; `received` is the number of the
  message `itc_receive` returns, if any -/
  | handleFdEvent (received : Option MsgNo)
  | msgHandlerReturns
deriving DecidableEq

inductive Output (MsgHandler : Type)
  | returned (call : Call MsgHandler) (rc : ReturnCode)
  | dispatched (msgNo : MsgNo) (msgHandler : MsgHandler)
deriving DecidableEq

namespace Subscriber

/-- `handleFdEvent`, up to the call of the handler. -/
def handleFdEvent (s : Subscriber MsgHandler) (received : Option MsgNo) :
    Subscriber MsgHandler × List (Output MsgHandler) :=
  match received with
  | none => (s, [])
  | some msgNo =>
      match s.pubSub.msgHandlerMap.find msgNo with
      | none => (s, [])
      | some node =>
          ({ s with executing := ⟨msgNo, node.address⟩ :: s.executing },
            [.dispatched msgNo node.value])

def step (s : Subscriber MsgHandler) :
    Action MsgHandler → Option (Subscriber MsgHandler × List (Output MsgHandler))
  | .call caller call =>
      let result := s.pubSub.perform caller call
      some ({ s with pubSub := result.2 }, [.returned call result.1])
  | .handleFdEvent received => some (s.handleFdEvent received)
  | .msgHandlerReturns =>
      match s.executing with
      | [] => none
      | _ :: outer => some ({ s with executing := outer }, [])

/-- What a step can do to the map and to the running handlers. -/
inductive Moves (s : Subscriber MsgHandler) :
    Action MsgHandler → Subscriber MsgHandler → Prop
  | keeps {action : Action MsgHandler} {t : Subscriber MsgHandler}
      (hNothing : ∀ msgNo, action = .call s.pubSub.threadId (.deregisterMsg msgNo) →
        s.pubSub.msgHandlerMap.find msgNo = none)
      (hMap : t.pubSub.msgHandlerMap = s.pubSub.msgHandlerMap)
      (hExecuting : t.executing = s.executing) : Moves s action t
  | registers {caller : ThreadId} {msgNo : MsgNo} {msgHandler : MsgHandler}
      {t : Subscriber MsgHandler}
      (hMap : t.pubSub.msgHandlerMap = s.pubSub.msgHandlerMap.emplace msgNo msgHandler)
      (hExecuting : t.executing = s.executing) :
      Moves s (.call caller (.registerMsg msgNo msgHandler)) t
  | deregisters {msgNo : MsgNo} {t : Subscriber MsgHandler}
      (hMap : t.pubSub.msgHandlerMap = s.pubSub.msgHandlerMap.erase msgNo)
      (hExecuting : t.executing = s.executing) :
      Moves s (.call s.pubSub.threadId (.deregisterMsg msgNo)) t
  | dispatches {msgNo : MsgNo} {node : Node MsgHandler} {t : Subscriber MsgHandler}
      (hFind : s.pubSub.msgHandlerMap.find msgNo = some node)
      (hMap : t.pubSub.msgHandlerMap = s.pubSub.msgHandlerMap)
      (hExecuting : t.executing = ⟨msgNo, node.address⟩ :: s.executing) :
      Moves s (.handleFdEvent (some msgNo)) t
  | returns {frame : Executing} {t : Subscriber MsgHandler}
      (hMap : t.pubSub.msgHandlerMap = s.pubSub.msgHandlerMap)
      (hExecuting : s.executing = frame :: t.executing) : Moves s .msgHandlerReturns t

theorem call_moves {s : Subscriber MsgHandler} (caller : ThreadId)
    (call : Call MsgHandler) :
    Moves s (.call caller call) { s with pubSub := (s.pubSub.perform caller call).2 } := by
  cases call with
  | addItcFd fd addFdHandler =>
      refine .keeps nofun ?_ rfl
      simp only [ItcPubSubImpl.perform, ItcPubSubImpl.addItcFd]
      split
      · rfl
      split
      · rfl
      split <;> rfl
  | registerMsg msgNo msgHandler =>
      simp only [ItcPubSubImpl.perform, ItcPubSubImpl.registerMsg]
      split
      · exact .keeps nofun rfl rfl
      split
      · exact .keeps nofun rfl rfl
      · exact .registers rfl rfl
  | deregisterMsg msgNo =>
      simp only [ItcPubSubImpl.perform, ItcPubSubImpl.deregisterMsg]
      split
      · rename_i hForeign
        refine .keeps (fun other hOwn => ?_) rfl rfl
        exact absurd (Action.call.inj hOwn).1 hForeign
      rename_i hThread
      obtain rfl := not_ne_iff.mp hThread
      split
      · rename_i hNone
        refine .keeps (fun other hOwn => ?_) rfl rfl
        obtain ⟨_, hCall⟩ := Action.call.inj hOwn
        rw [← Call.deregisterMsg.inj hCall]
        exact hNone
      · exact .deregisters rfl rfl

/-- Every step is one of the moves. -/
theorem moves_of_step {s t : Subscriber MsgHandler} {action : Action MsgHandler}
    {new : List (Output MsgHandler)} (hStep : s.step action = some (t, new)) :
    Moves s action t := by
  cases action with
  | call caller call =>
      obtain ⟨rfl, _⟩ := Prod.mk.inj (Option.some.inj hStep)
      exact call_moves caller call
  | handleFdEvent received =>
      have hHandle : s.handleFdEvent received = (t, new) := Option.some.inj hStep
      unfold handleFdEvent at hHandle
      split at hHandle
      · obtain ⟨rfl, _⟩ := Prod.mk.inj hHandle
        exact .keeps nofun rfl rfl
      split at hHandle
      · obtain ⟨rfl, _⟩ := Prod.mk.inj hHandle
        exact .keeps nofun rfl rfl
      · rename_i hFind
        obtain ⟨rfl, _⟩ := Prod.mk.inj hHandle
        exact .dispatches hFind rfl rfl
  | msgHandlerReturns =>
      simp only [step] at hStep
      split at hStep
      · cases hStep
      · rename_i hExecuting
        obtain ⟨rfl, _⟩ := Prod.mk.inj (Option.some.inj hStep)
        exact .returns rfl hExecuting

end Subscriber

/-- One thread's `ItcPubSubImpl`, from its construction. -/
def messageSystem (MsgHandler : Type) :
    TransitionSystem (Subscriber MsgHandler) (Action MsgHandler) (Output MsgHandler) where
  initial s := ∃ threadId, s = { pubSub := .construct threadId, executing := [] }
  step := Subscriber.step

end ItcPubSub
end UtilsFramework
