import UtilsFramework.EventLoop.ScheduledEvents

/-!
# Sleeping on pending work

`run()` drains `m_scheduledEvents` in one place only, after a dispatched
callback, so what is queued while no callback is running waits for the next
one.  The file shows that this is the only way an event is left behind: the
queue is empty whenever an activation of `run()` is about to block, unless it
was not empty when that activation was called.
-/

namespace UtilsFramework
namespace EventLoop

open Library
open Library.TransitionSystem

variable {CallbackFunc EventHandlerFunc : Type}

/-- `run()` is called only while no event is queued, or with no handler
registered, in which case it returns at once. -/
def RunsDrained (s : LoopThread CallbackFunc EventHandlerFunc) :
    Action CallbackFunc EventHandlerFunc → Prop
  | .run caller => s.loop.threadId = caller →
      s.loop.scheduledEvents = [] ∨ s.loop.fdHandlers.entries = []
  | _ => True

instance [DecidableEq CallbackFunc] [DecidableEq EventHandlerFunc]
    (s : LoopThread CallbackFunc EventHandlerFunc)
    (action : Action CallbackFunc EventHandlerFunc) : Decidable (RunsDrained s action) :=
  match action with
  | .run caller => inferInstanceAs (Decidable (s.loop.threadId = caller →
      s.loop.scheduledEvents = [] ∨ s.loop.fdHandlers.entries = []))
  | .call _ _ _ | .userReturns | .epollWaitReturns _ | .signalStop | .proceed =>
      isTrue trivial

/-- While `run()` itself is executing nothing is queued, except on the way to
a test of the loop condition that fails. -/
def Drained (s : LoopThread CallbackFunc EventHandlerFunc) : Prop :=
  ∀ phase below, s.stack = .run phase :: below →
    s.loop.scheduledEvents = [] ∨
      (phase = .entered ∨ phase = .testing) ∧ s.loop.fdHandlers.entries = []

theorem drained_of_userCodeRuns {s : LoopThread CallbackFunc EventHandlerFunc}
    (hUser : userCodeRuns s.stack = true) : Drained s := by
  intro phase below hStack
  rw [hStack] at hUser
  cases hUser

theorem drained_step {s t : LoopThread CallbackFunc EventHandlerFunc}
    {action : Action CallbackFunc EventHandlerFunc}
    {new : List (Output CallbackFunc EventHandlerFunc)} (nested : WellNested s.stack)
    (hDrained : Drained s) (hRuns : RunsDrained s action)
    (moves : LoopThread.Moves s action t new) : Drained t := by
  -- a phase in which the queue is empty passes this on
  have hFrom : ∀ {phase below}, s.stack = .run phase :: below → phase ≠ .entered →
      phase ≠ .testing → s.loop.scheduledEvents = [] := by
    intro phase below hStack hEntered hTesting
    refine (hDrained phase below hStack).resolve_right ?_
    rintro ⟨rfl | rfl, _⟩
    · exact hEntered rfl
    · exact hTesting rfl
  cases moves with
  | call hAllowed hPerform =>
      rcases hAllowed with hForeign | hUser
      · rw [(EventLoopImpl.perform_elsewhere hForeign hPerform).2]
        exact hDrained
      · exact drained_of_userCodeRuns hUser
  | runElsewhere => exact hDrained
  | signalStop => exact hDrained
  | runEnters hThread =>
      intro phase below hStack
      obtain ⟨hPhase, _⟩ := List.cons.inj hStack
      cases hPhase
      exact (hRuns hThread).imp_right fun hNone => ⟨Or.inl rfl, hNone⟩
  | setsRunning hStack =>
      intro phase below hTop
      obtain ⟨hPhase, _⟩ := List.cons.inj hTop
      cases hPhase
      exact (hDrained _ _ hStack).imp_right fun hNone => ⟨Or.inr rfl, hNone.2⟩
  | goesOn hStack _ hHandlers =>
      intro phase below _
      exact Or.inl ((hDrained _ _ hStack).resolve_right fun hNone => hHandlers hNone.2)
  | drained _ hQueue => exact fun phase below _ => Or.inl hQueue
  | batch hStack | interrupted hStack | clears hStack | waits hStack | batchDone hStack
  | skips hStack =>
      exact fun phase below _ => Or.inl (hFrom hStack nofun nofun)
  | failed hStack | leaves hStack =>
      rw [hStack] at nested
      exact drained_of_userCodeRuns nested.userCodeRuns_below
  | callbackReturns hStack =>
      rw [hStack] at nested
      cases nested with
      | callback => nofun
  | eventHandlerReturns hStack =>
      rw [hStack] at nested
      cases nested with
      | eventHandler => nofun
  | dispatches | executes => nofun

/-- In every run in which `run()` is called only with a drained queue or with
no handler, nothing is queued whenever an activation is about to block in
`epoll_wait`: every accepted event has been executed. -/
theorem run_never_sleeps_on_pending
    {steps : List (LoopThread CallbackFunc EventHandlerFunc ×
      Action CallbackFunc EventHandlerFunc)}
    {history : List (Output CallbackFunc EventHandlerFunc)}
    {s : LoopThread CallbackFunc EventHandlerFunc}
    (run : (runSystem CallbackFunc EventHandlerFunc).Run steps history s)
    (hRuns : EveryStep RunsDrained steps) {below : List (Frame EventHandlerFunc)}
    (hStack : s.stack = .run .calling :: below) :
    s.loop.scheduledEvents = [] ∧ executedEvents history = acceptedEvents history := by
  have hInv : WellNested s.stack ∧ Drained s := by
    refine run.invariant RunsDrained (fun _ s => WellNested s.stack ∧ Drained s) ?_ ?_ hRuns
    · rintro s ⟨threadId, rfl⟩
      exact ⟨.idle, nofun⟩
    · rintro history s action t new ⟨nested, hDrained⟩ hRuns hStep
      have hMoves := LoopThread.moves_of_step hStep
      exact ⟨nested.step hMoves, drained_step nested hDrained hRuns hMoves⟩
  have hQueue : s.loop.scheduledEvents = [] := by
    refine (hInv.2 _ _ hStack).resolve_right ?_
    rintro ⟨hPhase | hPhase, _⟩ <;> cases hPhase
  have hBalance := run_conserves_events run
  rw [hQueue, List.append_nil] at hBalance
  exact ⟨hQueue, hBalance⟩

/-- The condition leaves nothing out: called with an event queued and a handler
registered, `run()` goes to sleep on the queue by its next steps. -/
theorem sleeps_of_pending (s : LoopThread CallbackFunc EventHandlerFunc)
    (hUser : userCodeRuns s.stack = true) (hRuns : ¬ RunsDrained s (.run s.loop.threadId)) :
    s.loop.scheduledEvents ≠ [] ∧
      ((runSystem CallbackFunc EventHandlerFunc).replay s
        [.run s.loop.threadId, .proceed, .proceed, .proceed, .proceed]).map Prod.snd =
      some ([.enteredEpollWait],
        { loop := { s.loop with isRunning := true, removedFdHandlers := ∅ }
          stack := .run .waiting :: s.stack }) := by
  simp only [RunsDrained, true_implies, not_or] at hRuns
  obtain ⟨hQueue, hHandlers⟩ := hRuns
  refine ⟨hQueue, ?_⟩
  simp [replay, extend, runSystem, LoopThread.step, LoopThread.proceedRun, hUser, hHandlers]

/-! ## An event scheduled by a callback, and one scheduled before `run()` -/

/-- The callback of descriptor 5 schedules event 7, and the loop is about to
block again. -/
def scheduledByCallback : List (Action Unit Nat) :=
  [.call 0 ⟨3, true⟩ (.addFdHandler 5 fdEventIn ()),
    .run 0, .proceed, .proceed, .proceed, .proceed,
    .epollWaitReturns (.events [⟨Epoll.epollIn, 0⟩]), .proceed,
    .call 0 ⟨-1, true⟩ (.scheduleEvent 7), .userReturns,
    .proceed, .userReturns, .proceed, .proceed, .proceed, .proceed]

theorem scheduledByCallback_executed : ∃ steps history s,
    (runSystem Unit Nat).Run steps history s ∧ s.stack = [.run .calling] ∧
      acceptedEvents history = [7] ∧ executedEvents history = [7] := by
  have run := (run_of_replay { loop := .construct 0, stack := [] } scheduledByCallback
    ⟨0, rfl⟩ rfl : (runSystem Unit Nat).Run _ _ _)
  have hExecuted := (run_never_sleeps_on_pending run (by decide) rfl).2
  exact ⟨_, _, _, run, rfl, rfl, hExecuted⟩

/-- Event 7 is scheduled before `run()`. -/
def scheduledBefore : List (Action Unit Nat) :=
  [.call 0 ⟨3, true⟩ (.addFdHandler 5 fdEventIn ()),
    .call 0 ⟨-1, true⟩ (.scheduleEvent 7),
    .run 0, .proceed, .proceed, .proceed]

/-- `run()` is about to block although event 7 is queued. -/
theorem scheduledBefore_pending : ∃ steps history s,
    (runSystem Unit Nat).Run steps history s ∧ s.stack = [.run .calling] ∧
      s.loop.scheduledEvents = [7] ∧ executedEvents history = [] :=
  ⟨_, _, _, run_of_replay { loop := .construct 0, stack := [] } scheduledBefore ⟨0, rfl⟩ rfl,
    rfl, rfl, rfl⟩

end EventLoop
end UtilsFramework
