import UtilsFramework.EventLoop.Lifetime

/-!
# The loop always has a way on

A thread inside `run()` can be in three places: in user code, in a step of its own, or
in `epoll_wait`.  Two things could bring it to a halt for good.  An event whose pointer
dangles has no step, and an `epoll_wait` without a single descriptor never returns.

Neither happens as long as `epoll_ctl` succeeds and no activation clears away a handler
that an outer one refers to.  The first rests on the lifetime of the handlers; the
second on the test of the loop, since nothing can empty the handler map between this
test and `epoll_wait`.
-/

namespace UtilsFramework
namespace EventLoop

open Library
open Library.Epoll
open Library.TransitionSystem

variable {CallbackFunc EventHandlerFunc : Type}

/-- Past the test of the loop, up to the return of `epoll_wait`. -/
def RunPhase.tested : RunPhase → Bool
  | .clearing | .calling | .waiting => true
  | _ => false

namespace LoopThread

variable {s t : LoopThread CallbackFunc EventHandlerFunc}

/-- An innermost activation that has passed its test has something to wait for. -/
def HasHandlers (s : LoopThread CallbackFunc EventHandlerFunc) : Prop :=
  ∀ phase below, s.stack = .run phase :: below → phase.tested = true →
    s.loop.fdHandlers.entries ≠ []

theorem hasHandlers_construct (threadId : ThreadId) :
    HasHandlers ({ loop := .construct threadId, stack := [] } :
      LoopThread CallbackFunc EventHandlerFunc) := by
  simp [HasHandlers]

/-- User code on top, or `executeScheduledEvents`, or a phase that needs no handler. -/
theorem hasHandlers_of_top
    (hTop : ∀ phase below, s.stack = .run phase :: below → phase.tested = false) :
    s.HasHandlers := by
  intro phase below hStack hTested
  rw [hTop phase below hStack] at hTested
  cases hTested

theorem HasHandlers.step {action : Action CallbackFunc EventHandlerFunc}
    {new : List (Output CallbackFunc EventHandlerFunc)} (has : s.HasHandlers)
    (nested : WellNested s.stack) (moves : Moves s action t new) : t.HasHandlers := by
  -- what lies under an activation is user code
  have hUnder : ∀ {phase below}, s.stack = .run phase :: below → t.stack = below →
      t.HasHandlers := by
    intro phase below hStack hBelow
    rw [hStack] at nested
    refine hasHandlers_of_top fun other rest hTop => ?_
    rw [hBelow] at hTop
    exact absurd hTop (not_waiting_of_userCodeRuns nested.userCodeRuns_below)
  cases moves with
  | call hAllowed hPerform =>
      rcases hAllowed with hForeign | hUser
      · rw [(EventLoopImpl.perform_elsewhere hForeign hPerform).2]
        exact has
      · exact hasHandlers_of_top fun phase below hTop =>
          absurd hTop (not_waiting_of_userCodeRuns hUser)
  | runElsewhere | signalStop => exact has
  | goesOn hStack _ hHandlers => exact fun phase below hTop hTested => hHandlers
  | clears hStack => exact fun phase below hTop hTested => has _ _ hStack rfl
  | waits hStack => exact fun phase below hTop hTested => has _ _ hStack rfl
  | leaves hStack => exact hUnder hStack rfl
  | failed hStack => exact hUnder hStack rfl
  | callbackReturns hStack =>
      rw [hStack] at nested
      cases nested with
      | callback nested => exact hasHandlers_of_top (by simp)
  | eventHandlerReturns hStack =>
      rw [hStack] at nested
      cases nested with
      | eventHandler nested => exact hasHandlers_of_top (by simp)
  | drained hStack =>
      rw [hStack] at nested
      cases nested with
      | draining nested => exact hasHandlers_of_top (by simp [RunPhase.tested])
  | _ => exact hasHandlers_of_top (by simp [RunPhase.tested])

/-- The next step of the loop, where it is the loop's turn and no pointer dangles. -/
theorem proceeds (hKeeps : s.KeepsReferenced) (hUser : userCodeRuns s.stack = false)
    (hWaiting : ∀ below, s.stack ≠ .run .waiting :: below) :
    (s.step .proceed).isSome = true := by
  cases hStack : s.stack with
  | nil => simp [hStack, userCodeRuns] at hUser
  | cons frame below =>
      cases frame with
      | callback | eventHandler => simp [hStack, userCodeRuns] at hUser
      | executeScheduledEvents => simp [step, hStack]
      | run phase =>
          simp only [step, hStack]
          cases phase with
          | entered | clearing | calling => rfl
          | testing =>
              simp only [proceedRun]
              split <;> rfl
          | waiting => exact absurd hStack (hWaiting below)
          | handling events =>
              cases events with
              | nil => rfl
              | cons event rest =>
                  have hOwned := hKeeps event.data (by simp [hStack, Frame.references])
                  obtain ⟨handler, hResolve, -, -⟩ := EventLoopImpl.resolve_of_owned hOwned
                  simp only [proceedRun, handleEpollEvent, hResolve]
                  split <;> rfl

end LoopThread

section

variable
  {steps : List (LoopThread CallbackFunc EventHandlerFunc ×
    Action CallbackFunc EventHandlerFunc)}
  {history : List (Output CallbackFunc EventHandlerFunc)}
  {s : LoopThread CallbackFunc EventHandlerFunc}

theorem hasHandlers_of_run (run : (runSystem CallbackFunc EventHandlerFunc).Run steps history s) :
    s.HasHandlers := by
  have hInv : WellNested s.stack ∧ s.HasHandlers := by
    refine run.invariant_of_all (fun _ s => WellNested s.stack ∧ s.HasHandlers) ?_ ?_
    · rintro s ⟨threadId, rfl⟩
      exact ⟨.idle, LoopThread.hasHandlers_construct threadId⟩
    · rintro history s action t new ⟨nested, has⟩ hStep
      have moves := LoopThread.moves_of_step hStep
      exact ⟨nested.step moves, has.step nested moves⟩
  exact hInv.2

theorem keepsReferenced_of_run
    (run : (runSystem CallbackFunc EventHandlerFunc).Run steps history s)
    (hClears : EveryStep ClearsUnreferenced steps)
    (hReports : EveryStep ReportsRegistered steps) : s.KeepsReferenced := by
  have hInv : LifetimeInvariant s ∧ s.KeepsReferenced := by
    refine run.invariant (fun s action => ClearsUnreferenced s action ∧
      ReportsRegistered s action) (fun _ s => LifetimeInvariant s ∧ s.KeepsReferenced) ?_ ?_
      (fun visited hVisited => ⟨hClears visited hVisited, hReports visited hVisited⟩)
    · rintro s ⟨threadId, rfl⟩
      exact ⟨lifetimeInvariant_construct threadId, by simp [LoopThread.KeepsReferenced]⟩
    · rintro history s action t new ⟨hInv, hKeeps⟩ hCondition hStep
      have moves := LoopThread.moves_of_step hStep
      exact ⟨hInv.step moves, (keepsReferenced_step_iff hInv hKeeps moves).mpr hCondition⟩
  exact hInv.2

theorem coherent_of_run
    (run : (runSystem CallbackFunc EventHandlerFunc).Run steps history s)
    (hCtl : EveryStep CtlSucceeds steps) : s.loop.Coherent := by
  refine run.invariant CtlSucceeds (fun _ s => s.loop.Coherent) ?_ ?_ hCtl
  · rintro s ⟨threadId, rfl⟩
    exact EventLoopImpl.coherent_construct threadId
  · intro history s action t new hCoherent hSucceeds hStep
    exact ((LoopThread.moves_of_step hStep).keeps_sides_iff hCoherent).mpr
      (stepKeepsSides_of_ctlSucceeds hSucceeds) |>.2

/-- In every run, re-entrant or not, in which `epoll_ctl` succeeds and no activation of
`run()` clears away a handler that an outer one refers to, the owning thread is never
stuck: user code runs, or the loop has a step, or it waits in `epoll_wait` for a
registered handler, and any event the kernel reports for this handler gets it out. -/
theorem run_never_gets_stuck
    (run : (runSystem CallbackFunc EventHandlerFunc).Run steps history s)
    (hClears : EveryStep ClearsUnreferenced steps) (hCtl : EveryStep CtlSucceeds steps) :
    userCodeRuns s.stack = true ∨ (s.step .proceed).isSome = true ∨
      ∃ below fd handler, s.stack = .run .waiting :: below ∧
        s.loop.fdHandlers.lookup fd = some handler ∧
        ∀ events,
          (s.step (.epollWaitReturns (.events [⟨events, handler.object⟩]))).isSome = true := by
  cases hUser : userCodeRuns s.stack with
  | true => exact Or.inl rfl
  | false =>
      refine Or.inr ?_
      by_cases hWaits : ∃ below, s.stack = .run .waiting :: below
      · obtain ⟨below, hWaiting⟩ := hWaits
        have hHandlers := hasHandlers_of_run run _ _ hWaiting rfl
        obtain ⟨⟨fd, handler⟩, hEntry⟩ := List.exists_mem_of_ne_nil _ hHandlers
        have hFound : s.loop.fdHandlers.lookup fd = some handler :=
          AList.mem_lookup_iff.mpr hEntry
        have hInterest := coherent_of_run run hCtl fd
        rw [hFound, Option.map_some] at hInterest
        refine Or.inr ⟨below, fd, handler, hWaiting, hFound, fun events => ?_⟩
        have hBatch : batchFrom s.loop.interestList maxEvents [⟨events, handler.object⟩] =
            true := batchFrom_singleton (by decide) hInterest
        simp [LoopThread.step, hWaiting, LoopThread.epollWaitReturns, hBatch]
      · have hReports := reportsRegistered_of_ctlSucceeds run hCtl
        refine Or.inl (LoopThread.proceeds (keepsReferenced_of_run run hClears hReports) hUser ?_)
        exact fun below hWaiting => hWaits ⟨below, hWaiting⟩

/-- Inside a callback, after it has removed descriptor 6, `run()` waits again; it can be
told of the one handler left, the one whose callback is running. -/
theorem nestedRun_can_go_on : ∃ (s : LoopThread Unit Unit) (fd : Fd) (handler : FdHandler Unit),
    s.stack = [.run .waiting, .callback 0, .executeScheduledEvents, .run (.handling [])] ∧
      s.loop.fdHandlers.lookup fd = some handler ∧
      ∀ events,
        (s.step (.epollWaitReturns (.events [⟨events, handler.object⟩]))).isSome = true := by
  obtain ⟨steps, history, s, run, hClears, hCtl, hStack⟩ : ∃ steps history s,
      (runSystem Unit Unit).Run steps history s ∧ EveryStep ClearsUnreferenced steps ∧
        EveryStep CtlSucceeds steps ∧
        s.stack = [.run .waiting, .callback 0, .executeScheduledEvents, .run (.handling [])] :=
    ⟨_, _, _, run_of_replay { loop := .construct 0, stack := [] } (nestedRun 6 ++ [.proceed])
      ⟨0, rfl⟩ rfl, by decide, by decide, rfl⟩
  rcases run_never_gets_stuck run hClears hCtl with hUser | hProceeds | hWaits
  · simp [hStack, userCodeRuns] at hUser
  · simp [LoopThread.step, hStack, LoopThread.proceedRun] at hProceeds
  · obtain ⟨below, fd, handler, -, hFound, hEvents⟩ := hWaits
    exact ⟨s, fd, handler, hStack, hFound, hEvents⟩

end

end EventLoop
end UtilsFramework
