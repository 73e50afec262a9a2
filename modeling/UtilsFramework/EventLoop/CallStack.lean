import UtilsFramework.EventLoop.Run

/-!
# The call stack of the owning thread

Nothing in `run()` forbids calling it from user code inside `run()`, so
several of its activations can be on the stack at once.  `WellNested`
describes the stacks that occur: every activation but the innermost one stands
in a batch, with user code and the `executeScheduledEvents` that follows it on
top.  The invariant needs no condition on the steps, so everything that is said
about re-entrant runs can use it.
-/

namespace UtilsFramework
namespace EventLoop

open Library
open Library.Epoll
open Library.TransitionSystem

variable {CallbackFunc EventHandlerFunc : Type}

/-- The call stacks of any nesting of `run()`, innermost frame first. -/
inductive WellNested : List (Frame EventHandlerFunc) → Prop
  | idle : WellNested []
  | run {phase : RunPhase} {below : List (Frame EventHandlerFunc)}
      (hUser : userCodeRuns below = true) (nested : WellNested below) :
      WellNested (.run phase :: below)
  | draining {events : List (Event ObjectId)} {below : List (Frame EventHandlerFunc)}
      (nested : WellNested (.run (.handling events) :: below)) :
      WellNested (.executeScheduledEvents :: .run (.handling events) :: below)
  | callback {object : ObjectId} {below : List (Frame EventHandlerFunc)}
      (nested : WellNested (.executeScheduledEvents :: below)) :
      WellNested (.callback object :: .executeScheduledEvents :: below)
  | eventHandler {eventHandler : EventHandlerFunc}
      {below : List (Frame EventHandlerFunc)}
      (nested : WellNested (.executeScheduledEvents :: below)) :
      WellNested (.eventHandler eventHandler :: .executeScheduledEvents :: below)

namespace WellNested

/-- Every suffix of a well-nested stack is one. -/
theorem tail {frame : Frame EventHandlerFunc} {below : List (Frame EventHandlerFunc)}
    (nested : WellNested (frame :: below)) : WellNested below := by
  cases nested with
  | run _ nested => exact nested
  | draining nested => exact nested
  | callback nested => exact nested
  | eventHandler nested => exact nested

/-- An activation moves on to another phase. -/
theorem move {before after : RunPhase} {below : List (Frame EventHandlerFunc)}
    (nested : WellNested (.run before :: below)) : WellNested (.run after :: below) := by
  cases nested with
  | run hUser nested => exact .run hUser nested

/-- What an activation was called from is user code. -/
theorem userCodeRuns_below {phase : RunPhase} {below : List (Frame EventHandlerFunc)}
    (nested : WellNested (.run phase :: below)) : userCodeRuns below = true := by
  cases nested with
  | run hUser _ => exact hUser

/-- Every step keeps the stack well-nested. -/
theorem step {s t : LoopThread CallbackFunc EventHandlerFunc}
    {action : Action CallbackFunc EventHandlerFunc}
    {new : List (Output CallbackFunc EventHandlerFunc)}
    (nested : WellNested s.stack) (moves : LoopThread.Moves s action t new) :
    WellNested t.stack := by
  cases moves with
  | call => exact nested
  | runElsewhere => exact nested
  | runEnters _ hUser => exact .run hUser nested
  | callbackReturns hStack =>
      rw [hStack] at nested
      exact nested.tail
  | eventHandlerReturns hStack =>
      rw [hStack] at nested
      exact nested.tail
  | batch hStack =>
      rw [hStack] at nested
      exact nested.move
  | interrupted hStack =>
      rw [hStack] at nested
      exact nested.move
  | failed hStack =>
      rw [hStack] at nested
      exact nested.tail
  | signalStop => exact nested
  | setsRunning hStack =>
      rw [hStack] at nested
      exact nested.move
  | goesOn hStack =>
      rw [hStack] at nested
      exact nested.move
  | leaves hStack =>
      rw [hStack] at nested
      exact nested.tail
  | clears hStack =>
      rw [hStack] at nested
      exact nested.move
  | waits hStack =>
      rw [hStack] at nested
      exact nested.move
  | batchDone hStack =>
      rw [hStack] at nested
      exact nested.move
  | dispatches hStack =>
      rw [hStack] at nested
      exact .callback (.draining nested.move)
  | skips hStack =>
      rw [hStack] at nested
      exact nested.move
  | drained hStack =>
      rw [hStack] at nested
      exact nested.tail
  | executes hStack =>
      rw [hStack] at nested
      exact .eventHandler nested

end WellNested

/-- Frames under another frame are left alone. -/
theorem LoopThread.Moves.keeps_covered {s t : LoopThread CallbackFunc EventHandlerFunc}
    {action : Action CallbackFunc EventHandlerFunc}
    {new : List (Output CallbackFunc EventHandlerFunc)}
    (moves : LoopThread.Moves s action t new) {frame : Frame EventHandlerFunc}
    {above below : List (Frame EventHandlerFunc)}
    (hStack : s.stack = frame :: (above ++ below)) : below <:+ t.stack := by
  have hRest : ∀ {top rest}, s.stack = top :: rest → below <:+ rest := by
    intro top rest hTop
    rw [(List.cons.inj (hTop.symm.trans hStack)).2]
    exact List.suffix_append above below
  cases moves with
  | call | runElsewhere | signalStop =>
      exact (hRest hStack).trans ⟨[frame], hStack.symm⟩
  | runEnters => exact ((hRest hStack).trans ⟨[frame], hStack.symm⟩).trans ⟨[_], rfl⟩
  | callbackReturns hTop | eventHandlerReturns hTop | failed hTop | leaves hTop
  | drained hTop => exact hRest hTop
  | batch hTop | interrupted hTop | setsRunning hTop | goesOn hTop | clears hTop
  | waits hTop | batchDone hTop | skips hTop => exact (hRest hTop).trans ⟨[_], rfl⟩
  | executes hTop => exact (hRest hTop).trans ⟨[_, _], rfl⟩
  | dispatches hTop => exact (hRest hTop).trans ⟨[_, _, _], rfl⟩

/-- Every reachable stack is well-nested. -/
theorem wellNested_of_run
    {steps : List (LoopThread CallbackFunc EventHandlerFunc ×
      Action CallbackFunc EventHandlerFunc)}
    {history : List (Output CallbackFunc EventHandlerFunc)}
    {s : LoopThread CallbackFunc EventHandlerFunc}
    (run : (runSystem CallbackFunc EventHandlerFunc).Run steps history s) :
    WellNested s.stack := by
  refine run.invariant_of_all (fun _ s => WellNested s.stack) ?_ ?_
  · rintro s ⟨threadId, rfl⟩
    exact .idle
  · intro history s action t new nested hStep
    exact nested.step (LoopThread.moves_of_step hStep)

end EventLoop
end UtilsFramework
