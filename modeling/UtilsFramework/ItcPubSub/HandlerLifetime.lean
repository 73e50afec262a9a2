import UtilsFramework.ItcPubSub.Messages

/-!
# The lifetime of a running message handler

A running handler lives in the map it may edit.  The map keeps a node through
every insertion, so only one edit can destroy a running handler: deregistering
the number it was called for, which registering it again does not undo.  The
file shows this for every sequence of calls from every state.
-/

namespace UtilsFramework
namespace ItcPubSub

open Library
open Library.TransitionSystem

variable {MsgHandler : Type}

/-- Every running handler still exists. -/
def Subscriber.ExecutingLive (s : Subscriber MsgHandler) : Prop :=
  ∀ frame ∈ s.executing, s.pubSub.msgHandlerMap.Live frame.address

/-- Every running handler is the one registered for its number. -/
def Subscriber.ExecutingRegistered (s : Subscriber MsgHandler) : Prop :=
  ∀ frame ∈ s.executing, ∃ node,
    s.pubSub.msgHandlerMap.find frame.msgNo = some node ∧ node.address = frame.address

/-- The step does not deregister the number of a running handler. -/
def KeepsExecuting (s : Subscriber MsgHandler) : Action MsgHandler → Prop
  | .call caller (.deregisterMsg msgNo) =>
      caller = s.pubSub.threadId → ∀ frame ∈ s.executing, frame.msgNo ≠ msgNo
  | _ => True

instance (s : Subscriber MsgHandler) (action : Action MsgHandler) :
    Decidable (KeepsExecuting s action) :=
  match action with
  | .call caller (.deregisterMsg msgNo) => inferInstanceAs (Decidable
      (caller = s.pubSub.threadId → ∀ frame ∈ s.executing, frame.msgNo ≠ msgNo))
  | .call _ (.addItcFd _ _) | .call _ (.registerMsg _ _) | .handleFdEvent _
  | .msgHandlerReturns => isTrue trivial

theorem Subscriber.ExecutingRegistered.live {s : Subscriber MsgHandler}
    (hRegistered : s.ExecutingRegistered) : s.ExecutingLive := by
  intro frame hFrame
  obtain ⟨node, hFind, hAddress⟩ := hRegistered frame hFrame
  exact ⟨frame.msgNo, node, hFind, hAddress⟩

/-- From a state whose running handlers are registered, a step that meets the
condition leads to another one, and any other step destroys a running handler. -/
theorem keepsExecuting_step {s t : Subscriber MsgHandler} {action : Action MsgHandler}
    (hRegistered : s.ExecutingRegistered) (moves : Subscriber.Moves s action t) :
    (KeepsExecuting s action → t.ExecutingRegistered) ∧
      (¬ KeepsExecuting s action → ¬ t.ExecutingLive) := by
  cases moves with
  | keeps hNothing hMap hExecuting =>
      constructor
      · intro _ frame hFrame
        rw [hExecuting] at hFrame
        rw [hMap]
        exact hRegistered frame hFrame
      · intro hNot
        refine absurd ?_ hNot
        -- a number that is not registered is not that of a running handler
        unfold KeepsExecuting
        split
        · rintro rfl frame hFrame rfl
          obtain ⟨node, hNode, _⟩ := hRegistered frame hFrame
          rw [hNothing frame.msgNo rfl] at hNode
          cases hNode
        · trivial
  | registers hMap hExecuting =>
      refine ⟨fun _ frame hFrame => ?_, fun hNot => absurd trivial hNot⟩
      rw [hExecuting] at hFrame
      obtain ⟨node, hNode, hAddress⟩ := hRegistered frame hFrame
      refine ⟨node, ?_, hAddress⟩
      rw [hMap]
      exact NodeMap.find_emplace_of_find hNode
  | @deregisters msgNo _ hMap hExecuting =>
      constructor
      · intro hKeeps frame hFrame
        rw [hExecuting] at hFrame
        rw [hMap, NodeMap.find_erase_of_ne (hKeeps rfl frame hFrame)]
        exact hRegistered frame hFrame
      · intro hNot hLive
        refine hNot fun _ frame hFrame => ?_
        obtain ⟨node, hNode, hAddress⟩ := hRegistered frame hFrame
        have hFrameLive := hLive frame (by rw [hExecuting]; exact hFrame)
        rw [hMap, ← hAddress] at hFrameLive
        exact (NodeMap.live_erase_iff hNode).mp hFrameLive
  | dispatches hFind hMap hExecuting =>
      refine ⟨fun _ frame hFrame => ?_, fun hNot => absurd trivial hNot⟩
      rw [hExecuting] at hFrame
      rw [hMap]
      rcases List.mem_cons.mp hFrame with rfl | hOuter
      · exact ⟨_, hFind, rfl⟩
      · exact hRegistered frame hOuter
  | returns hMap hExecuting =>
      refine ⟨fun _ frame hFrame => ?_, fun hNot => absurd trivial hNot⟩
      rw [hMap]
      apply hRegistered frame
      rw [hExecuting]
      exact List.mem_cons_of_mem _ hFrame

/-- From every state of an `ItcPubSubImpl` and for every sequence of messages,
calls and returns, no handler is destroyed while it runs, exactly if none of
the calls deregisters, on the thread of the instance, the number of a handler
that is running. -/
theorem running_handlers_live_iff (pubSub : ItcPubSubImpl MsgHandler)
    {steps : List (Subscriber MsgHandler × Action MsgHandler)}
    {history : List (Output MsgHandler)} {s : Subscriber MsgHandler}
    (run : ((messageSystem MsgHandler).startingAt ⟨pubSub, []⟩).Run steps history s) :
    ((messageSystem MsgHandler).startingAt ⟨pubSub, []⟩).Always
        (fun _ s => s.ExecutingLive) (fun _ _ _ _ => True) steps history s ↔
      EveryStep KeepsExecuting steps := by
  refine run.always_iff_everyStep (fun _ s => s.ExecutingRegistered) ?_ ?_ ?_
  · intro s hStart
    rw [show s = _ from hStart]
    exact ⟨nofun, nofun⟩
  · intro history s action t new hRegistered _ hStep _ hLive
    have hExact := keepsExecuting_step hRegistered (Subscriber.moves_of_step hStep)
    exact hExact.1 (by_contra fun hNot => hExact.2 hNot hLive)
  · intro history s action t new hRegistered _ hStep
    have hExact := keepsExecuting_step hRegistered (Subscriber.moves_of_step hStep)
    rw [true_and]
    exact ⟨fun hLive => by_contra fun hNot => hExact.2 hNot hLive,
      fun hKeeps => (hExact.1 hKeeps).live⟩

/-! ## A handler that deregisters -/

/-- Handlers for messages 1 and 2 are registered and message 1 arrives; its
handler deregisters a number. -/
def deregistersIn (msgNo : MsgNo) : List (Action Unit) :=
  [.call 0 (.registerMsg 1 ()), .call 0 (.registerMsg 2 ()),
    .handleFdEvent (some 1), .call 0 (.deregisterMsg msgNo)]

/-- Deregistering another number is harmless. -/
theorem deregistersOther_live : ∃ steps s,
    ((messageSystem Unit).startingAt ⟨.construct 0, []⟩).Always
      (fun _ s => s.ExecutingLive) (fun _ _ _ _ => True) steps
      [.returned (.registerMsg 1 ()) .normal, .returned (.registerMsg 2 ()) .normal,
        .dispatched 1 (), .returned (.deregisterMsg 2) .normal] s :=
  ⟨_, _, (running_handlers_live_iff (.construct 0)
    (run_of_replay (⟨.construct 0, []⟩ : Subscriber Unit) (deregistersIn 2)
      rfl rfl)).mpr (by decide)⟩

/-- A handler that deregisters its own number is destroyed while it runs. -/
theorem deregistersOwn_destroyed : ∃ steps s,
    ((messageSystem Unit).startingAt ⟨.construct 0, []⟩).Run steps
      [.returned (.registerMsg 1 ()) .normal, .returned (.registerMsg 2 ()) .normal,
        .dispatched 1 (), .returned (.deregisterMsg 1) .normal] s ∧
      s.executing = [⟨1, 0⟩] ∧ ¬ s.pubSub.msgHandlerMap.Live 0 := by
  refine ⟨_, _, run_of_replay (⟨.construct 0, []⟩ : Subscriber Unit) (deregistersIn 1)
    rfl rfl, rfl, ?_⟩
  -- only the handler of message 2 is left, at another address
  have hOne : (NodeMap.emplace (2 : MsgNo) ()
      (NodeMap.emplace (1 : MsgNo) () NodeMap.empty)).find 1 = some ⟨0, ()⟩ := rfl
  exact fun hLive => (NodeMap.live_erase_iff hOne).mp hLive rfl

end ItcPubSub
end UtilsFramework
