import UtilsFramework.EventLoop.CallStack

/-!
# Requests to stop

`stop()` only clears `m_isRunning`; `run()` sets the flag when it is entered and
tests it once in each iteration.  A request is therefore lost in two ways.  It
can land where the flag is not looked at any more before the thread blocks:
between a passed test and `epoll_wait`.  And it can be overwritten, by the
activation it lands in before its `m_isRunning = true`, or by a later call of
`run()` from user code.  The file shows that there is no third way.
-/

namespace UtilsFramework
namespace EventLoop

open Library
open Library.Epoll
open Library.TransitionSystem

variable {CallbackFunc EventHandlerFunc : Type}

/-- The activation of `run()` that was called from `below` has not returned. -/
def OnStack (below : List (Frame EventHandlerFunc))
    (s : LoopThread CallbackFunc EventHandlerFunc) : Prop :=
  ∃ above phase, s.stack = above ++ .run phase :: below

/-- The step is a `stop()` that returns `NORMAL`. -/
def StopReturns (s : LoopThread CallbackFunc EventHandlerFunc)
    (action : Action CallbackFunc EventHandlerFunc) : Prop :=
  ∃ t, s.step action = some (t, [.returned .stop .normal])

/-- One of the steps is a `stop()`, and the activation called from `below` has
been on the stack since then. -/
def AskedToStop
    (steps : List (LoopThread CallbackFunc EventHandlerFunc ×
      Action CallbackFunc EventHandlerFunc))
    (below : List (Frame EventHandlerFunc)) : Prop :=
  ∃ before stopped action since,
    steps = before ++ (stopped, action) :: since ∧ StopReturns stopped action ∧
      ∀ visited ∈ (stopped, action) :: since, OnStack below visited.1

/-- No activation enters `epoll_wait` once it has been asked to stop. -/
def StopsHonoured
    (steps : List (LoopThread CallbackFunc EventHandlerFunc ×
      Action CallbackFunc EventHandlerFunc)) : Prop :=
  ∀ before waiting after below, steps = before ++ (waiting, .proceed) :: after →
    waiting.stack = .run .calling :: below → ¬ AskedToStop before below

/-- A cleared flag is tested before the thread can block, and not set before. -/
def testsFlagNext : List (Frame EventHandlerFunc) → Bool
  | .run .entered :: _ => false
  | .run .clearing :: _ => false
  | .run .calling :: _ => false
  | _ => true

/-- The step loses no request to stop: no signal handler calls `stop()` before
`m_isRunning = true` or between the test of the flag and `epoll_wait`, and user
code inside `run()` does not call `run()` after `stop()`. -/
def KeepsStops (s : LoopThread CallbackFunc EventHandlerFunc) :
    Action CallbackFunc EventHandlerFunc → Prop
  | .signalStop => testsFlagNext s.stack = true
  | .run caller => s.loop.threadId = caller → s.stack ≠ [] → s.loop.isRunning = true
  | _ => True

instance (s : LoopThread CallbackFunc EventHandlerFunc)
    (action : Action CallbackFunc EventHandlerFunc) [DecidableEq EventHandlerFunc] :
    Decidable (KeepsStops s action) :=
  match action with
  | .signalStop => inferInstanceAs (Decidable (testsFlagNext s.stack = true))
  | .run caller => inferInstanceAs (Decidable (s.loop.threadId = caller →
      s.stack ≠ [] → s.loop.isRunning = true))
  | .call _ _ _ | .userReturns | .epollWaitReturns _ | .proceed => isTrue trivial

theorem OnStack.ne_nil {below : List (Frame EventHandlerFunc)}
    {s : LoopThread CallbackFunc EventHandlerFunc} (onStack : OnStack below s) :
    s.stack ≠ [] := by
  obtain ⟨above, phase, hStack⟩ := onStack
  rw [hStack]
  simp

theorem testsFlagNext_of_userCodeRuns {stack : List (Frame EventHandlerFunc)}
    (hUser : userCodeRuns stack = true) : testsFlagNext stack = true := by
  unfold testsFlagNext
  split
  · cases hUser
  · cases hUser
  · cases hUser
  · rfl

/-- Only `run()` itself sets the flag. -/
theorem EventLoopImpl.perform_keeps_stopped
    {loop next : EventLoopImpl CallbackFunc EventHandlerFunc} {caller : ThreadId}
    {syscalls : Syscalls} {call : Call CallbackFunc EventHandlerFunc} {rc : ReturnCode}
    (hStopped : loop.isRunning = false)
    (hPerform : loop.perform caller syscalls call = (rc, next)) :
    next.isRunning = false := by
  cases call with
  | addFdHandler fd eventMask callback =>
      rcases addFdHandler_cases hPerform with ⟨_, _, _, _, rfl⟩ | ⟨_, _, _, _, rfl⟩
      · exact hStopped
      · exact hStopped
  | updateFdEvents fd eventMask =>
      rcases updateFdEvents_cases hPerform with
        ⟨rfl, _⟩ | ⟨_, _, _, _, ⟨_, _, rfl⟩ | ⟨_, _, rfl⟩⟩
      · exact hStopped
      · exact hStopped
      · exact hStopped
  | removeFdHandler fd =>
      rcases removeFdHandler_cases hPerform with ⟨rfl, _⟩ | ⟨_, _, _, _, rfl⟩
      · exact hStopped
      · exact hStopped
  | scheduleEvent eventHandler =>
      rcases scheduleEvent_cases hPerform with ⟨_, rfl⟩ | ⟨_, rfl⟩
      · exact hStopped
      · exact hStopped
  | stop =>
      rcases stop_cases hPerform with ⟨_, rfl⟩ | ⟨_, rfl⟩
      · exact hStopped
      · rfl

/-- A `stop()` that returns `NORMAL` clears the flag where it will be tested. -/
theorem stopped_of_stopReturns {s t : LoopThread CallbackFunc EventHandlerFunc}
    {action : Action CallbackFunc EventHandlerFunc}
    {new : List (Output CallbackFunc EventHandlerFunc)}
    (hKeeps : KeepsStops s action) (hReturns : StopReturns s action)
    (hStep : s.step action = some (t, new)) :
    t.loop.isRunning = false ∧ testsFlagNext t.stack = true := by
  obtain ⟨stopped, hStops⟩ := hReturns
  obtain ⟨rfl, rfl⟩ := Prod.mk.inj (Option.some.inj (hStops.symm.trans hStep))
  cases LoopThread.moves_of_step hStops with
  | call hAllowed hPerform =>
      rcases EventLoopImpl.stop_cases hPerform with ⟨hElsewhere, _⟩ | ⟨_, rfl⟩
      · cases hElsewhere
      · refine ⟨rfl, ?_⟩
        rcases hAllowed with hForeign | hUser
        · cases (EventLoopImpl.perform_elsewhere hForeign hPerform).1
        · exact testsFlagNext_of_userCodeRuns hUser
  | signalStop => exact ⟨rfl, hKeeps⟩

/-- A cleared flag stays so, and is never passed by, while an activation is
on the stack. -/
theorem stopped_step {s t : LoopThread CallbackFunc EventHandlerFunc}
    {action : Action CallbackFunc EventHandlerFunc}
    {new : List (Output CallbackFunc EventHandlerFunc)}
    (nested : WellNested s.stack) (hActive : s.stack ≠ [])
    (hStopped : s.loop.isRunning = false) (hTests : testsFlagNext s.stack = true)
    (hKeeps : KeepsStops s action) (moves : LoopThread.Moves s action t new) :
    t.loop.isRunning = false ∧ testsFlagNext t.stack = true := by
  cases moves with
  | call _ hPerform =>
      exact ⟨EventLoopImpl.perform_keeps_stopped hStopped hPerform, hTests⟩
  | runElsewhere => exact ⟨hStopped, hTests⟩
  | runEnters hThread =>
      have hRunning := hKeeps hThread hActive
      rw [hStopped] at hRunning
      cases hRunning
  | callbackReturns hStack =>
      rw [hStack] at nested
      cases nested with
      | callback => exact ⟨hStopped, rfl⟩
  | eventHandlerReturns hStack =>
      rw [hStack] at nested
      cases nested with
      | eventHandler => exact ⟨hStopped, rfl⟩
  | drained hStack =>
      rw [hStack] at nested
      cases nested with
      | draining => exact ⟨hStopped, rfl⟩
  | failed hStack | leaves hStack =>
      rw [hStack] at nested
      exact ⟨hStopped, testsFlagNext_of_userCodeRuns nested.userCodeRuns_below⟩
  | signalStop => exact ⟨rfl, hTests⟩
  | setsRunning hStack | clears hStack | waits hStack =>
      rw [hStack] at hTests
      cases hTests
  | goesOn _ hRunning =>
      rw [hStopped] at hRunning
      cases hRunning
  | batch | interrupted | batchDone | dispatches | skips | executes =>
      exact ⟨hStopped, rfl⟩

/-- While no request is lost, an activation that was asked to stop has a
cleared flag to find. -/
theorem stopped_of_run
    {steps : List (LoopThread CallbackFunc EventHandlerFunc ×
      Action CallbackFunc EventHandlerFunc)}
    {history : List (Output CallbackFunc EventHandlerFunc)}
    {s : LoopThread CallbackFunc EventHandlerFunc}
    (run : (runSystem CallbackFunc EventHandlerFunc).Run steps history s)
    (hKeeps : EveryStep KeepsStops steps)
    {below : List (Frame EventHandlerFunc)} (hAsked : AskedToStop steps below) :
    s.loop.isRunning = false ∧ testsFlagNext s.stack = true := by
  induction run with
  | start =>
      obtain ⟨before, stopped, action, since, hSteps, _⟩ := hAsked
      simp at hSteps
  | @next steps history s t action new run hStep ih =>
      rw [everyStep_append_singleton] at hKeeps
      obtain ⟨before, stopped, stopping, since, hSteps, hReturns, hOnStack⟩ := hAsked
      rcases List.eq_nil_or_concat since with rfl | ⟨rest, last, rfl⟩
      · -- the last step is the request
        obtain ⟨_, hLast⟩ := List.append_inj' hSteps rfl
        obtain ⟨rfl, rfl⟩ := Prod.mk.inj (List.cons.inj hLast).1
        exact stopped_of_stopReturns hKeeps.2 hReturns hStep
      · rw [List.concat_eq_append, ← List.cons_append, ← List.append_assoc] at hSteps
        obtain ⟨rfl, hLast⟩ := List.append_inj' hSteps rfl
        obtain rfl := (List.cons.inj hLast).1
        have hHere : OnStack below s := hOnStack (s, action) (by simp)
        obtain ⟨hStopped, hTests⟩ := ih hKeeps.1
          ⟨before, stopped, stopping, rest, rfl, hReturns, fun visited hVisited =>
            hOnStack visited (by
              rw [List.concat_eq_append, ← List.cons_append]
              exact List.mem_append_left _ hVisited)⟩
        exact stopped_step (wellNested_of_run run) hHere.ne_nil hStopped hTests hKeeps.2
          (LoopThread.moves_of_step hStep)

/-- In every run in which no step loses a request to stop, no activation of
`run()` enters `epoll_wait` after a `stop()` that was made since it was called
has returned `NORMAL`. -/
theorem run_honours_stops
    {steps : List (LoopThread CallbackFunc EventHandlerFunc ×
      Action CallbackFunc EventHandlerFunc)}
    {history : List (Output CallbackFunc EventHandlerFunc)}
    {s : LoopThread CallbackFunc EventHandlerFunc}
    (run : (runSystem CallbackFunc EventHandlerFunc).Run steps history s)
    (hKeeps : EveryStep KeepsStops steps) : StopsHonoured steps := by
  rintro before waiting after below rfl hWaiting hAsked
  obtain ⟨earlier, runBefore⟩ := run.before
  have hKeepsBefore : EveryStep KeepsStops before := fun visited hVisited =>
    hKeeps visited (List.mem_append_left _ hVisited)
  have hTests := (stopped_of_run runBefore hKeepsBefore hAsked).2
  rw [hWaiting] at hTests
  cases hTests

/-! ## Two runs with a signal -/

/-- A loop with descriptor 5 registered for reading. -/
def oneHandler (isRunning : Bool) : EventLoopImpl Unit Unit :=
  { EventLoopImpl.construct 0 with
    epfd := 3
    isRunning := isRunning
    fdHandlers := AList.singleton 5 ⟨0, 5, epollIn, ()⟩
    interestList := AList.singleton 5 ⟨epollIn, 0⟩
    nextObject := 1 }

/-- Descriptor 5 is registered and `run()` goes as far as `epoll_wait`. -/
def untilWaiting : List (LoopThread Unit Unit × Action Unit Unit) :=
  [(⟨.construct 0, []⟩, .call 0 ⟨3, true⟩ (.addFdHandler 5 fdEventIn ())),
    (⟨oneHandler false, []⟩, .run 0),
    (⟨oneHandler false, [.run .entered]⟩, .proceed),
    (⟨oneHandler true, [.run .testing]⟩, .proceed),
    (⟨oneHandler true, [.run .clearing]⟩, .proceed)]

/-- The signal arrives in the blocked `epoll_wait`, which it interrupts. -/
def stopWhileWaiting : List (LoopThread Unit Unit × Action Unit Unit) :=
  untilWaiting ++
    [(⟨oneHandler true, [.run .calling]⟩, .proceed),
      (⟨oneHandler true, [.run .waiting]⟩, .signalStop),
      (⟨oneHandler false, [.run .waiting]⟩, .epollWaitReturns .interrupted),
      (⟨oneHandler false, [.run .testing]⟩, .proceed)]

theorem stopWhileWaiting_honoured : StopsHonoured stopWhileWaiting :=
  run_honours_stops (run_of_replay { loop := .construct 0, stack := [] }
    (stopWhileWaiting.map Prod.snd) ⟨0, rfl⟩ rfl) (by decide)

/-- The signal arrives after the test of the flag, before `epoll_wait`. -/
def stopBeforeWaiting : List (LoopThread Unit Unit × Action Unit Unit) :=
  untilWaiting ++
    [(⟨oneHandler true, [.run .calling]⟩, .signalStop),
      (⟨oneHandler false, [.run .calling]⟩, .proceed)]

/-- `stop()` has returned `NORMAL`, and `run()` blocks all the same. -/
theorem stopBeforeWaiting_lost :
    (runSystem Unit Unit).Run stopBeforeWaiting
      [.returned (.addFdHandler 5 fdEventIn ()) .normal, .returned .stop .normal,
        .enteredEpollWait]
      { loop := oneHandler false, stack := [.run .waiting] } ∧
    ¬ StopsHonoured stopBeforeWaiting := by
  constructor
  · exact run_of_replay { loop := .construct 0, stack := [] }
      (stopBeforeWaiting.map Prod.snd) ⟨0, rfl⟩ rfl
  · intro hHonoured
    refine hHonoured (stopBeforeWaiting.take 6) _ [] [] rfl rfl
      ⟨stopBeforeWaiting.take 5, _, _, [], rfl, ⟨_, rfl⟩, ?_⟩
    intro visited hVisited
    obtain rfl := List.mem_singleton.mp hVisited
    exact ⟨[], .calling, rfl⟩

end EventLoop
end UtilsFramework
