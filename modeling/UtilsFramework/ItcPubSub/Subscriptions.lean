import UtilsFramework.ItcPubSub.Messages
import UtilsFramework.Library.Monitor

/-!
# Messages as their subscribers see them

To its users an `ItcPubSubImpl` is a table of message handlers and at most one
mailbox.  `PubSubView.watch` is a monitor that keeps both from the calls and
their answers.  It accepts every history, however the handlers that are running
edit the table, and a received message is dispatched exactly if its number is
in the table at that time, to the handler registered for it.
-/

namespace UtilsFramework
namespace ItcPubSub

open Library
open Library.TransitionSystem

structure PubSubView (MsgHandler : Type) where
  mboxFd : Option Int
  subscriptions : MsgNo → Option MsgHandler

variable {MsgHandler : Type}

namespace PubSubView

def empty : PubSubView MsgHandler where
  mboxFd := none
  subscriptions _ := none

def subscribe (view : PubSubView MsgHandler) (msgNo : MsgNo)
    (msgHandler : Option MsgHandler) : PubSubView MsgHandler :=
  { view with subscriptions := Function.update view.subscriptions msgNo msgHandler }

/-- The answers a call may get, and what they mean. -/
def answered (view : PubSubView MsgHandler) :
    Call MsgHandler → ReturnCode → Option (PubSubView MsgHandler)
  | _, .notThreadLocal => some view
  | .addItcFd fd .normal, .normal =>
      -- a mailbox `-1` would not count as one
      if view.mboxFd.isNone then
        some { view with mboxFd := if fd = -1 then none else some fd }
      else none
  | .addItcFd _ _, .alreadyExists => if view.mboxFd.isSome then some view else none
  | .addItcFd _ answer, .internalFault =>
      if view.mboxFd.isNone ∧ answer ≠ .normal then some view else none
  | .registerMsg msgNo msgHandler, .normal =>
      if (view.subscriptions msgNo).isNone then
        some (view.subscribe msgNo (some msgHandler))
      else none
  | .registerMsg msgNo _, .alreadyExists =>
      if (view.subscriptions msgNo).isSome then some view else none
  | .deregisterMsg msgNo, .normal =>
      if (view.subscriptions msgNo).isSome then some (view.subscribe msgNo none) else none
  | .deregisterMsg msgNo, .notFound =>
      if (view.subscriptions msgNo).isNone then some view else none
  | _, _ => none

/-- The monitor. -/
def watch [DecidableEq MsgHandler] (view : PubSubView MsgHandler) :
    Output MsgHandler → Option (PubSubView MsgHandler)
  | .returned call rc => view.answered call rc
  | .dispatched msgNo msgHandler =>
      if view.subscriptions msgNo = some msgHandler then some view else none

end PubSubView

/-- The view is what the instance has. -/
structure ItcPubSubImpl.Shows (pubSub : ItcPubSubImpl MsgHandler)
    (view : PubSubView MsgHandler) : Prop where
  mbox : view.mboxFd = if pubSub.mboxFd = -1 then none else some pubSub.mboxFd
  subscriptions : ∀ msgNo,
    view.subscriptions msgNo = (pubSub.msgHandlerMap.find msgNo).map Node.value

namespace ItcPubSubImpl

variable {pubSub next : ItcPubSubImpl MsgHandler} {view : PubSubView MsgHandler}

theorem Shows.subscribe (shows : pubSub.Shows view) {msgNo : MsgNo}
    {msgHandler : Option MsgHandler} (hMbox : next.mboxFd = pubSub.mboxFd)
    (hSelf : (next.msgHandlerMap.find msgNo).map Node.value = msgHandler)
    (hOthers : ∀ other, other ≠ msgNo →
      next.msgHandlerMap.find other = pubSub.msgHandlerMap.find other) :
    next.Shows (view.subscribe msgNo msgHandler) where
  mbox := by rw [hMbox]; exact shows.mbox
  subscriptions other := by
    by_cases hMsgNo : other = msgNo
    · subst hMsgNo
      exact (Function.update_self ..).trans hSelf.symm
    · rw [hOthers other hMsgNo]
      exact (Function.update_of_ne hMsgNo ..).trans (shows.subscriptions other)

theorem Shows.addItcFd (shows : pubSub.Shows view) {caller : ThreadId} {fd : Int}
    {answer : EventLoop.ReturnCode} {rc : ReturnCode}
    (hAdd : pubSub.addItcFd caller fd answer = (rc, next)) :
    ∃ after, view.answered (.addItcFd fd answer) rc = some after ∧ next.Shows after := by
  have hMbox := shows.mbox
  unfold ItcPubSubImpl.addItcFd at hAdd
  split at hAdd
  · obtain ⟨rfl, rfl⟩ := Prod.mk.inj hAdd
    exact ⟨view, rfl, shows⟩
  split at hAdd
  · rename_i hSome
    obtain ⟨rfl, rfl⟩ := Prod.mk.inj hAdd
    rw [if_neg hSome] at hMbox
    exact ⟨view, by simp [PubSubView.answered, hMbox], shows⟩
  rename_i hNone
  rw [if_pos (not_ne_iff.mp hNone)] at hMbox
  split at hAdd
  · rename_i hFault
    obtain ⟨rfl, rfl⟩ := Prod.mk.inj hAdd
    exact ⟨view, by simp [PubSubView.answered, hMbox, hFault], shows⟩
  · rename_i hNormal
    obtain rfl := not_ne_iff.mp hNormal
    obtain ⟨rfl, rfl⟩ := Prod.mk.inj hAdd
    refine ⟨{ view with mboxFd := if fd = -1 then none else some fd }, ?_, rfl,
      shows.subscriptions⟩
    simp [PubSubView.answered, hMbox]

/-- The answer to a call is one that the view allows. -/
theorem Shows.perform (shows : pubSub.Shows view) {caller : ThreadId}
    {call : Call MsgHandler} {rc : ReturnCode}
    (hPerform : pubSub.perform caller call = (rc, next)) :
    ∃ after, view.answered call rc = some after ∧ next.Shows after := by
  cases call with
  | addItcFd fd answer => exact shows.addItcFd hPerform
  | registerMsg msgNo msgHandler =>
      simp only [ItcPubSubImpl.perform, ItcPubSubImpl.registerMsg] at hPerform
      split at hPerform
      · obtain ⟨rfl, rfl⟩ := Prod.mk.inj hPerform
        exact ⟨view, rfl, shows⟩
      have hShown := shows.subscriptions msgNo
      split at hPerform
      · rename_i hFind
        obtain ⟨rfl, rfl⟩ := Prod.mk.inj hPerform
        rw [hFind] at hShown
        exact ⟨view, by simp [PubSubView.answered, hShown], shows⟩
      · rename_i hFind
        obtain ⟨rfl, rfl⟩ := Prod.mk.inj hPerform
        rw [hFind] at hShown
        refine ⟨view.subscribe msgNo (some msgHandler),
          by simp [PubSubView.answered, hShown], shows.subscribe rfl ?_ ?_⟩
        · rw [NodeMap.find_emplace_of_none hFind]
          rfl
        · exact fun other hOther => NodeMap.find_emplace_of_ne hOther
  | deregisterMsg msgNo =>
      simp only [ItcPubSubImpl.perform, ItcPubSubImpl.deregisterMsg] at hPerform
      split at hPerform
      · obtain ⟨rfl, rfl⟩ := Prod.mk.inj hPerform
        exact ⟨view, rfl, shows⟩
      have hShown := shows.subscriptions msgNo
      split at hPerform
      · rename_i hFind
        obtain ⟨rfl, rfl⟩ := Prod.mk.inj hPerform
        rw [hFind] at hShown
        exact ⟨view, by simp [PubSubView.answered, hShown], shows⟩
      · rename_i hFind
        obtain ⟨rfl, rfl⟩ := Prod.mk.inj hPerform
        rw [hFind] at hShown
        refine ⟨view.subscribe msgNo none,
          by simp [PubSubView.answered, hShown], shows.subscribe rfl ?_ ?_⟩
        · rw [NodeMap.find_erase_self]
          rfl
        · exact fun other hOther => NodeMap.find_erase_of_ne hOther

end ItcPubSubImpl

/-- A received message is shown to the handler the view has for it, if any. -/
theorem Subscriber.handleFdEvent_shown {s : Subscriber MsgHandler}
    {view : PubSubView MsgHandler} (shows : s.pubSub.Shows view) (msgNo : MsgNo) :
    (s.handleFdEvent (some msgNo)).2 =
      ((view.subscriptions msgNo).map (Output.dispatched msgNo)).toList := by
  rw [shows.subscriptions msgNo]
  unfold Subscriber.handleFdEvent
  dsimp only
  split
  · rename_i hFind
    rw [hFind]
    rfl
  · rename_i hFind
    rw [hFind]
    rfl

section

variable [DecidableEq MsgHandler]

theorem Subscriber.watched {s t : Subscriber MsgHandler} {action : Action MsgHandler}
    {new : List (Output MsgHandler)} (hStep : s.step action = some (t, new))
    {view : PubSubView MsgHandler} (shows : s.pubSub.Shows view) :
    ∃ after, Monitor.watchAll PubSubView.watch view new = some after ∧
      t.pubSub.Shows after := by
  cases action with
  | call caller call =>
      obtain ⟨rfl, rfl⟩ := Prod.mk.inj (Option.some.inj hStep)
      obtain ⟨after, hAnswered, hShown⟩ := shows.perform rfl
      exact ⟨after, by rw [Monitor.watchAll_singleton]; exact hAnswered, hShown⟩
  | handleFdEvent received =>
      have hHandle : s.handleFdEvent received = (t, new) := Option.some.inj hStep
      cases received with
      | none =>
          obtain ⟨rfl, rfl⟩ := Prod.mk.inj hHandle
          exact ⟨view, rfl, shows⟩
      | some msgNo =>
          have hNew := Subscriber.handleFdEvent_shown shows msgNo
          rw [hHandle] at hNew
          dsimp only at hNew
          refine ⟨view, ?_, ?_⟩
          · rw [hNew]
            cases hSubscription : view.subscriptions msgNo with
            | none => rfl
            | some msgHandler => simp [PubSubView.watch, hSubscription]
          · have hPubSub : t.pubSub = s.pubSub := by
              unfold Subscriber.handleFdEvent at hHandle
              dsimp only at hHandle
              split at hHandle <;> rw [← (Prod.mk.inj hHandle).1]
            rw [hPubSub]
            exact shows
  | msgHandlerReturns =>
      simp only [Subscriber.step] at hStep
      split at hStep
      · cases hStep
      · obtain ⟨rfl, rfl⟩ := Prod.mk.inj (Option.some.inj hStep)
        exact ⟨view, rfl, shows⟩

/-- Every history of an `ItcPubSubImpl` is one its users can explain from what they
have registered, wherever their calls come from, a handler that is running
included; and whenever a message is received, it goes to the handler registered for
its number and is dropped only if there is none. -/
theorem run_follows_subscriptions
    {steps : List (Subscriber MsgHandler × Action MsgHandler)}
    {history : List (Output MsgHandler)} {s : Subscriber MsgHandler}
    (run : (messageSystem MsgHandler).Run steps history s) :
    ∃ view, Monitor.watchAll PubSubView.watch .empty history = some view ∧
      ∀ msgNo, (s.handleFdEvent (some msgNo)).2 =
        ((view.subscriptions msgNo).map (Output.dispatched msgNo)).toList := by
  have hAccepted : ∃ view, Monitor.watchAll PubSubView.watch .empty history = some view ∧
      s.pubSub.Shows view := by
    refine run.accepted (fun s view => s.pubSub.Shows view) ?_ ?_
    · rintro s ⟨threadId, rfl⟩
      exact ⟨rfl, fun _ => rfl⟩
    · exact fun s action t new view shows hStep => Subscriber.watched hStep shows
  obtain ⟨view, hWatched, shows⟩ := hAccepted
  exact ⟨view, hWatched, Subscriber.handleFdEvent_shown shows⟩

end

/-- The handler of message 1 replaces itself before it handles another message. -/
def replacesItself : List (Action Nat) :=
  [.call 0 (.registerMsg 1 10), .handleFdEvent (some 1), .call 0 (.registerMsg 1 11),
    .call 0 (.deregisterMsg 1), .handleFdEvent (some 1), .call 0 (.registerMsg 1 11),
    .handleFdEvent (some 1)]

theorem replacesItself_followed : ∃ (view : PubSubView Nat) (s : Subscriber Nat),
    Monitor.watchAll PubSubView.watch .empty
      [.returned (.registerMsg 1 10) .normal, .dispatched 1 10,
        .returned (.registerMsg 1 11) .alreadyExists, .returned (.deregisterMsg 1) .normal,
        .returned (.registerMsg 1 11) .normal, .dispatched 1 11] = some view ∧
      ∀ msgNo, (s.handleFdEvent (some msgNo)).2 =
        ((view.subscriptions msgNo).map (Output.dispatched msgNo)).toList := by
  obtain ⟨steps, s, run⟩ : ∃ steps s, (messageSystem Nat).Run steps
      [.returned (.registerMsg 1 10) .normal, .dispatched 1 10,
        .returned (.registerMsg 1 11) .alreadyExists, .returned (.deregisterMsg 1) .normal,
        .returned (.registerMsg 1 11) .normal, .dispatched 1 11] s :=
    ⟨_, _, run_of_replay (⟨.construct 0, []⟩ : Subscriber Nat) replacesItself ⟨0, rfl⟩ rfl⟩
  obtain ⟨view, hView⟩ := run_follows_subscriptions run
  exact ⟨view, s, hView⟩

end ItcPubSub
end UtilsFramework
