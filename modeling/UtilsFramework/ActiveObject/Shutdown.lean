import UtilsFramework.ActiveObject.QueueAccounting
import UtilsFramework.ActiveObject.Termination
import UtilsFramework.Library.Variant

/-!
# The end of an Active Object

A client that drops the last reference waits in `join` until the thread of the
Active Object has left `run()`.  `joinSteps` bounds what is still to be done
until then: every step of any thread pays for itself, but for waits that are
interrupted, and until the thread has left there is always a step to make.  So
`join` returns, whatever the interleaving.

The destructor on the thread of the Active Object does not wait, and the thread
goes on without the object: what it still does never touches it.
-/

namespace UtilsFramework
namespace ActiveObject

open Library
open Library.TransitionSystem

variable {Func : Type}

/-- All steps but the waits of `run()` that are interrupted. -/
def productive : Action Func → Bool
  | .epollWaitReturns readable => readable
  | _ => true

/-- What the thread has to do before it can leave `run()` once the queue is empty. -/
def phaseSteps : MainPhase → Nat
  | .starting => 20
  | .initializing => 15
  | .looping => 1
  | .left => 0

def stackSteps (registered : Bool) : List (Frame Func) → Nat
  | [] => 0
  | .run false :: _ => 9
  -- an event of a removed handler takes one step for nothing
  | .run true :: _ => if registered then 8 else 10
  | .handleFdEvent .reading :: _ => 7
  | .handleFdEvent .dequeuing :: _ => 6
  | .handleFdEvent (.calling _) :: _ => 13
  | .handleFdEvent .running :: _ => 12
  | .handleFdEvent .finishing :: _ => 11

namespace ActiveObjectThread

variable {s t : ActiveObjectThread Func} {action : Action Func} {new : List (Output Func)}

/-- The variant of a client waiting in `join`. -/
def joinSteps (s : ActiveObjectThread Func) : Nat :=
  phaseSteps s.phase + stackSteps s.registered s.stack + 8 * s.funcQueue.length +
    s.scheduling.length

/-- The step takes from what is to be done, unless it is an interrupted wait. -/
def Pays (s : ActiveObjectThread Func) (action : Action Func)
    (t : ActiveObjectThread Func) : Prop :=
  t.joinSteps + (if productive action then 1 else 0) ≤ s.joinSteps

/-- `stopEventLoop` is still to be called, or has been. -/
def StopPending (s : ActiveObjectThread Func) : Prop :=
  .stopEventLoop ∈ s.outstanding ∨ (s.registered = false ∧ s.phase ≠ .starting)

/-- What holds in every state of a run that never enters `run()` twice. -/
structure Stops (s : ActiveObjectThread Func) : Prop where
  accounted : ∃ history, Accounted history s
  stacked : s.Stacked
  pending : s.lifecycle = .joining → s.StopPending

/-! ## Something is always left to stop the loop -/

theorem LoopMoves.stopPending (moves : LoopMoves s action t) (hStacked : s.Stacked)
    (hPending : s.StopPending) : t.StopPending := by
  rcases hPending with hOutstanding | ⟨hRemoved, hPhase⟩
  · rcases moves.outstanding_cases hStacked with ⟨hSame, -⟩ | ⟨hTaken, -⟩ | ⟨hStop, -⟩
    · exact Or.inl (hSame ▸ hOutstanding)
    · rw [hTaken] at hOutstanding
      exact Or.inl ((List.mem_cons.mp hOutstanding).resolve_left (by simp))
    · -- it is called now
      have hAbout : aboutToCall s.stack = [.stopEventLoop] := List.append_cancel_right hStop
      cases moves with
      | stopped hTop =>
          refine Or.inr ⟨rfl, ?_⟩
          show s.phase ≠ .starting
          rw [hStacked.looping_of_top hTop]
          simp
      | registered hPhase =>
          rw [hStacked.stack_eq_nil (by simp [hPhase])] at hAbout
          cases hAbout
      | entered hUser =>
          rw [aboutToCall_of_all_settled (hStacked.settled_of_userCodeRuns hUser)] at hAbout
          cases hAbout
      | waited hTop | dispatched hTop | skipped hTop | calledEmpty hTop
      | functionReturned hTop | handlerReturned hTop | leftNested hTop =>
          simp [hTop, aboutToCall] at hAbout
  · refine Or.inr ?_
    cases moves with
    | registered hStarting => exact absurd hStarting hPhase
    | entered => exact ⟨hRemoved, by simp⟩
    | stopped => exact ⟨rfl, hPhase⟩
    | _ => exact ⟨hRemoved, hPhase⟩

theorem Moves.stopPending (moves : Moves s action t new) (hStacked : s.Stacked)
    (hBefore : s.lifecycle = .joining → s.StopPending) (hJoining : t.lifecycle = .joining) :
    t.StopPending := by
  cases moves with
  | scheduled hShared => simp [hShared, enqueueFunction] at hJoining
  | wrote => exact hBefore hJoining
  | looped moves => exact moves.stopPending hStacked (hBefore (moves.sides_eq.2.2.2 ▸ hJoining))
  | read hTop =>
      refine (hBefore hJoining).imp_left fun hOutstanding => ?_
      simpa [outstanding, aboutToCall, hTop] using hOutstanding
  | dequeued hTop hQueue =>
      refine (hBefore hJoining).imp_left fun hOutstanding => ?_
      simpa [outstanding, aboutToCall, hTop, hQueue] using hOutstanding
  | foundEmpty hTop hQueue =>
      refine (hBefore hJoining).imp_left fun hOutstanding => ?_
      simp [outstanding, aboutToCall, hTop, hQueue] at hOutstanding
  | called hTop =>
      refine (hBefore hJoining).imp_left fun hOutstanding => ?_
      simpa [outstanding, aboutToCall, hTop] using hOutstanding
  | left hStack =>
      refine (hBefore hJoining).imp (fun hOutstanding => ?_) fun hStopped => ?_
      · simpa [outstanding, aboutToCall, hStack] using hOutstanding
      · exact ⟨hStopped.1, by simp⟩
  | releasedOnClient => exact Or.inl (by simp [outstanding, enqueueFunction])
  | releasedOnAoThread => cases hJoining

theorem stops_start (aoThread : ThreadId) :
    (start aoThread : ActiveObjectThread Func).Stops where
  accounted := ⟨[], accounted_start aoThread⟩
  stacked := (terminates_start aoThread).stacked
  pending := nofun

theorem Stops.step (stops : s.Stops) (hEntry : NoReentry s action)
    (moves : Moves s action t new) : t.Stops where
  accounted := by
    obtain ⟨history, hAccounted⟩ := stops.accounted
    exact ⟨history ++ new, hAccounted.step hEntry moves⟩
  stacked := moves.stacked stops.stacked
  pending := moves.stopPending stops.stacked stops.pending

/-! ## Every step pays for itself -/

theorem Stops.flat (stops : s.Stops) : s.Flat := by
  obtain ⟨history, hAccounted⟩ := stops.accounted
  exact hAccounted.flat

theorem Stops.queue_length (stops : s.Stops) (hAlive : s.lifecycle ≠ .detached) :
    s.funcQueue.length = s.eventFd + s.scheduling.length + s.betweenReadAndDequeue := by
  obtain ⟨history, hAccounted⟩ := stops.accounted
  obtain ⟨queue, hAnnounces⟩ := hAccounted.announces hAlive
  rw [← hAnnounces.items_eq, ← hAnnounces.tokens_eq, ← hAnnounces.unannounced_eq,
    ← hAnnounces.claimed_eq]
  exact queue.balanced

theorem userCode_initializing (hUser : s.userCodeRuns = true) (hPhase : s.phase ≠ .looping) :
    s.phase = .initializing := by
  cases hNow : s.phase with
  | initializing => rfl
  | starting => simp [userCodeRuns, hNow] at hUser
  | left => simp [userCodeRuns, hNow] at hUser
  | looping => exact absurd hNow hPhase

/-- A step of the innermost activation pays if its own number goes down. -/
theorem pays_of_stack (hPhase : t.phase = s.phase) (hQueue : t.funcQueue = s.funcQueue)
    (hScheduling : t.scheduling = s.scheduling)
    (hStack : stackSteps t.registered t.stack + (if productive action then 1 else 0) ≤
      stackSteps s.registered s.stack) : s.Pays action t := by
  rw [Pays, joinSteps, joinSteps, hPhase, hQueue, hScheduling]
  omega

theorem LoopMoves.pays (moves : LoopMoves s action t) (hFlat : s.Flat)
    (hEntry : NoReentry s action) : s.Pays action t := by
  cases moves with
  | registered hPhase =>
      have hStack := hFlat.stack_eq_nil (by simp [hPhase])
      simp only [Pays, joinSteps, hPhase, hStack, stackSteps, phaseSteps, productive, if_true]
      omega
  | entered hUser =>
      have hPhase := userCode_initializing hUser hEntry
      have hStack := hFlat.stack_eq_nil (by simp [hPhase])
      simp only [Pays, joinSteps, hPhase, hStack, stackSteps, phaseSteps, productive, if_true]
      omega
  | @waited readable below hTop hReadable =>
      cases readable with
      | false => exact pays_of_stack rfl rfl rfl (by simp [hTop, stackSteps, productive])
      | true =>
          have hRegistered := (hReadable rfl).1
          exact pays_of_stack rfl rfl rfl
            (by simp [hTop, stackSteps, productive, hRegistered])
  | dispatched hTop hRegistered =>
      exact pays_of_stack rfl rfl rfl (by simp [hTop, stackSteps, productive, hRegistered])
  | skipped hTop hRemoved =>
      exact pays_of_stack rfl rfl rfl (by simp [hTop, stackSteps, productive, hRemoved])
  | calledEmpty hTop | stopped hTop | functionReturned hTop =>
      exact pays_of_stack rfl rfl rfl (by simp [hTop, stackSteps, productive])
  | handlerReturned hTop =>
      obtain ⟨-, rfl⟩ := hFlat.below_handleFdEvent hTop
      exact pays_of_stack rfl rfl rfl (by simp [hTop, stackSteps, productive])
  | leftNested hTop => cases (hFlat.below_run hTop).2

/-- While a client waits in `join`, no step adds to what is to be done, and each that
is not an interrupted wait takes from it. -/
theorem Moves.pays (moves : Moves s action t new) (stops : s.Stops)
    (hJoining : s.lifecycle = .joining) (hEntry : NoReentry s action) :
    s.Pays action t := by
  have hNotShared : s.lifecycle ≠ .shared := by simp [hJoining]
  cases moves with
  | scheduled hShared => exact absurd hShared hNotShared
  | releasedOnClient hShared => exact absurd hShared hNotShared
  | releasedOnAoThread hShared => exact absurd hShared hNotShared
  | looped moves => exact moves.pays stops.flat hEntry
  | wrote hThread =>
      have hFewer := List.length_erase_of_mem hThread
      have hSome := List.length_pos_of_mem hThread
      simp only [Pays, joinSteps, writeOne, hFewer, productive, if_true]
      omega
  | read hTop => exact pays_of_stack rfl rfl rfl (by simp [hTop, stackSteps, productive])
  | dequeued hTop hQueue =>
      simp only [Pays, joinSteps, hTop, hQueue, stackSteps, productive, List.length_cons, if_true]
      omega
  | foundEmpty hTop hQueue =>
      -- what was claimed is in the queue
      have hLength := stops.queue_length (by simp [hJoining])
      have hClaim : s.betweenReadAndDequeue = 1 := by rw [betweenReadAndDequeue, hTop]
      rw [hQueue, hClaim, List.length_nil] at hLength
      omega
  | called hTop => exact pays_of_stack rfl rfl rfl (by simp [hTop, stackSteps, productive])
  | left hStack =>
      have hPhase := stops.stacked.looping_of_top hStack
      simp only [Pays, joinSteps, hStack, hPhase, stackSteps, phaseSteps, productive, if_true]
      omega

theorem Stops.joinSteps_le (stops : s.Stops) (hAlive : s.lifecycle ≠ .detached) :
    s.joinSteps ≤ 9 * s.funcQueue.length + 20 := by
  have hLength := stops.queue_length hAlive
  have hRest : phaseSteps s.phase + stackSteps s.registered s.stack ≤ 20 := by
    cases stops.flat with
    | outside _ hStack =>
        rw [hStack]
        cases s.phase <;> simp [phaseSteps, stackSteps]
    | @between eventPending hPhase hStack =>
        rw [hPhase, hStack]
        cases eventPending <;> cases s.registered <;> simp [phaseSteps, stackSteps]
    | @handling phase hPhase hStack =>
        rw [hPhase, hStack]
        cases phase <;> simp [phaseSteps, stackSteps]
  rw [joinSteps]
  omega

/-! ## There is always a step to make -/

/-- Where the stop has not come yet, something is in the queue or about to be called. -/
theorem Stops.token_of_waiting (stops : s.Stops) (hJoining : s.lifecycle = .joining)
    (hIdle : s.scheduling = []) (hStack : s.stack = [.run false])
    (hRegistered : s.registered = true) : 0 < s.eventFd := by
  have hLength := stops.queue_length (by simp [hJoining])
  have hClaim : s.betweenReadAndDequeue = 0 := by rw [betweenReadAndDequeue, hStack]
  have hQueue : .stopEventLoop ∈ s.funcQueue := by
    rcases stops.pending hJoining with hOutstanding | ⟨hRemoved, -⟩
    · simpa [outstanding, hStack, aboutToCall] using hOutstanding
    · rw [hRegistered] at hRemoved
      cases hRemoved
  have hSome := List.length_pos_of_mem hQueue
  rw [hIdle, hClaim, List.length_nil] at hLength
  omega

/-- Until the thread has left `run()`, a client in the middle of `scheduleFunction`
or the thread itself can go on. -/
theorem Stops.goes_on (stops : s.Stops) (hJoining : s.lifecycle = .joining)
    (hPhase : s.phase ≠ .left) :
    ∃ action, productive action = true ∧ NoReentry s action ∧
      (s.step action).isSome = true := by
  cases hIdle : s.scheduling with
  | cons thread rest =>
      exact ⟨.write thread, rfl, trivial, by simp [ActiveObjectThread.step, hIdle]⟩
  | nil =>
      have hFree : s.aoThreadFree = true := by simp [aoThreadFree, hIdle]
      cases stops.flat with
      | outside hOutside hStack =>
          cases hNow : s.phase with
          | starting =>
              exact ⟨.addFdHandler, rfl, trivial, by simp [ActiveObjectThread.step, hNow]⟩
          | initializing =>
              refine ⟨.run, rfl, hOutside, ?_⟩
              simp [ActiveObjectThread.step, userCodeRuns, hNow, hFree]
          | looping => exact absurd hNow hOutside
          | left => exact absurd hNow hPhase
      | @between eventPending hLooping hStack =>
          cases eventPending with
          | true =>
              refine ⟨.handleEpollEvent, rfl, trivial, ?_⟩
              cases hRegistered : s.registered <;>
                simp [ActiveObjectThread.step, hFree, aoThreadStep, hStack, runStep,
                  hRegistered]
          | false =>
              by_cases hLeaves : s.isRunning = false ∨ s.registered = false
              · refine ⟨.leaveRun, rfl, trivial, ?_⟩
                simp [ActiveObjectThread.step, hFree, aoThreadStep, hStack, runStep, hLeaves]
              · simp only [not_or, Bool.not_eq_false] at hLeaves
                have hToken := stops.token_of_waiting hJoining hIdle hStack hLeaves.2
                refine ⟨.epollWaitReturns true, rfl, trivial, ?_⟩
                simp [ActiveObjectThread.step, hFree, aoThreadStep, hStack, runStep, hLeaves,
                  hToken]
      | @handling phase hLooping hStack =>
          cases phase with
          | reading =>
              obtain ⟨history, hAccounted⟩ := stops.accounted
              have hToken := hAccounted.tokenReady.reading [.run false] hStack
              refine ⟨.read, rfl, trivial, ?_⟩
              simp [ActiveObjectThread.step, hFree, aoThreadStep, hStack, handleFdEventStep,
                hToken]
          | dequeuing =>
              refine ⟨.dequeueFunction, rfl, trivial, ?_⟩
              simp [ActiveObjectThread.step, hFree, aoThreadStep, hStack, handleFdEventStep]
          | calling func =>
              refine ⟨.call, rfl, trivial, ?_⟩
              cases func <;>
                simp [ActiveObjectThread.step, hFree, aoThreadStep, hStack, handleFdEventStep]
          | running =>
              refine ⟨.functionReturns, rfl, trivial, ?_⟩
              simp [ActiveObjectThread.step, hFree, aoThreadStep, hStack, handleFdEventStep]
          | finishing =>
              refine ⟨.handleFdEventReturns, rfl, trivial, ?_⟩
              simp [ActiveObjectThread.step, hFree, aoThreadStep, hStack, handleFdEventStep]

theorem Moves.joining (moves : Moves s action t new) (hJoining : s.lifecycle = .joining) :
    t.lifecycle = .joining := by
  have hNotShared : s.lifecycle ≠ .shared := by simp [hJoining]
  cases moves with
  | looped moves => rw [moves.sides_eq.2.2.2, hJoining]
  | releasedOnClient hShared => exact absurd hShared hNotShared
  | releasedOnAoThread hShared => exact absurd hShared hNotShared
  | _ => exact hJoining

end ActiveObjectThread

theorem stops_of_run {steps : List (ActiveObjectThread Func × Action Func)}
    {history : List (Output Func)} {s : ActiveObjectThread Func}
    (run : (aoSystem Func).Run steps history s) (hEntry : EveryStep NoReentry steps) :
    s.Stops := by
  refine run.invariant NoReentry (fun _ s => s.Stops) ?_ ?_ hEntry
  · rintro s ⟨aoThread, rfl⟩
    exact ActiveObjectThread.stops_start aoThread
  · intro history s action t new stops hGuard hStep
    exact stops.step hGuard (ActiveObjectThread.moves_of_step hStep)

/-- Once a client has dropped the last reference and waits in `join`, it will get
through: whatever the threads do from then on, at most nine steps for each function
in the queue and twenty more can be made, not counting waits that are interrupted,
and as long as the thread has not left `run()` one of them can be.  Nobody enters
`run()` twice. -/
theorem run_lets_join_return {steps : List (ActiveObjectThread Func × Action Func)}
    {history : List (Output Func)} {s : ActiveObjectThread Func}
    (run : (aoSystem Func).Run steps history s) (hEntry : EveryStep NoReentry steps)
    (hJoining : s.lifecycle = .joining)
    {later : List (ActiveObjectThread Func × Action Func)} {after : List (Output Func)}
    {t : ActiveObjectThread Func}
    (onward : ((aoSystem Func).startingAt s).Run later after t)
    (hLater : EveryStep NoReentry later) :
    productiveSteps productive later ≤ 9 * s.funcQueue.length + 20 ∧
      (t.phase ≠ .left → ∃ action, productive action = true ∧ NoReentry t action ∧
        (t.step action).isSome = true) := by
  have stops := stops_of_run run hEntry
  have hPaid := onward.pays_variant NoReentry
    (fun s => s.Stops ∧ s.lifecycle = .joining) productive ActiveObjectThread.joinSteps
    (fun s action t new hInv hGuard hStep =>
      have moves := ActiveObjectThread.moves_of_step hStep
      ⟨hInv.1.step hGuard moves, moves.joining hInv.2⟩)
    (fun s action t new hInv hGuard hStep =>
      (ActiveObjectThread.moves_of_step hStep).pays hInv.1 hInv.2 hGuard)
    ⟨stops, hJoining⟩ hLater
  have hBound := stops.joinSteps_le (by simp [hJoining])
  exact ⟨by omega, hPaid.1.1.goes_on hPaid.1.2⟩

/-- A client drops the last reference while a function is still queued. -/
def releasedWithQueue : List (Action Nat) :=
  [.addFdHandler, .run, .executeFunction 1 (some 10), .write 1, .releaseOnClient 1]

def afterRelease : List (Action Nat) :=
  [.epollWaitReturns false, .epollWaitReturns true, .handleEpollEvent, .read, .write 1]

theorem releasedWithQueue_joins : ∃ (later : List (ActiveObjectThread Nat × Action Nat))
    (t : ActiveObjectThread Nat), productiveSteps productive later = 4 ∧
      4 ≤ 9 * 2 + 20 ∧ (t.phase ≠ .left → ∃ action, productive action = true ∧
        NoReentry t action ∧ (t.step action).isSome = true) := by
  obtain ⟨steps, history, s, run, hEntry, hJoining, hQueue, later, after, t, onward, hLater,
      hProductive⟩ : ∃ steps history s, (aoSystem Nat).Run steps history s ∧
        EveryStep NoReentry steps ∧ s.lifecycle = .joining ∧ s.funcQueue.length = 2 ∧
        ∃ later after t, ((aoSystem Nat).startingAt s).Run later after t ∧
          EveryStep NoReentry later ∧ productiveSteps productive later = 4 :=
    ⟨_, _, _, run_of_replay (.start 0) releasedWithQueue ⟨0, rfl⟩ rfl, by decide, rfl, rfl,
      _, _, _, run_of_replay _ afterRelease rfl rfl, by decide, rfl⟩
  have hReturns := run_lets_join_return run hEntry hJoining onward hLater
  rw [hProductive, hQueue] at hReturns
  exact ⟨later, t, hProductive, hReturns⟩

/-! ## The thread without its object -/

namespace ActiveObjectThread

variable {s t : ActiveObjectThread Func} {action : Action Func} {new : List (Output Func)}

/-- The step uses a member of the object, or enters one of its functions. -/
def Accesses (s : ActiveObjectThread Func) : Action Func → Prop
  | .executeFunction _ _ | .write _ | .read | .dequeueFunction | .releaseOnClient _
  | .releaseOnAoThread => True
  -- the callback of the eventfd is `handleFdEvent`, bound to the object
  | .handleEpollEvent => s.registered = true
  | _ => False

/-- The thread after the destructor that ran on it. -/
structure Abandoned (s : ActiveObjectThread Func) : Prop where
  removed : s.registered = false
  started : s.phase ≠ .starting
  idle : s.scheduling = []
  allSettled : ∀ frame ∈ s.stack, settled frame

theorem Abandoned.of_top (abandoned : s.Abandoned) {top : Frame Func}
    {below : List (Frame Func)} (hStack : s.stack = top :: below)
    (hRegistered : t.registered = false) (hPhase : t.phase = s.phase)
    (hScheduling : t.scheduling = s.scheduling)
    (hNext : ∀ frame ∈ t.stack, frame ∈ below ∨ settled frame) : t.Abandoned where
  removed := hRegistered
  started := hPhase ▸ abandoned.started
  idle := hScheduling.trans abandoned.idle
  allSettled := by
    intro frame hFrame
    rcases hNext frame hFrame with hBelow | hSettled
    · exact abandoned.allSettled frame (hStack ▸ List.mem_cons_of_mem _ hBelow)
    · exact hSettled

/-- An activation that is about to use the object is not settled. -/
theorem Abandoned.top_settled (abandoned : s.Abandoned) {top : Frame Func}
    {below : List (Frame Func)} (hStack : s.stack = top :: below) : settled top :=
  abandoned.allSettled top (hStack ▸ List.mem_cons_self)

theorem LoopMoves.abandoned (moves : LoopMoves s action t) (abandoned : s.Abandoned) :
    t.Abandoned ∧ ¬ s.Accesses action := by
  cases moves with
  | registered hPhase => exact absurd hPhase abandoned.started
  | entered =>
      refine ⟨⟨abandoned.removed, by simp, abandoned.idle, ?_⟩, id⟩
      intro frame hFrame
      rcases List.mem_cons.mp hFrame with rfl | hBelow
      · trivial
      · exact abandoned.allSettled frame hBelow
  | waited hTop _ =>
      refine ⟨abandoned.of_top hTop abandoned.removed rfl rfl ?_, id⟩
      simp +contextual [settled]
  | dispatched hTop hRegistered =>
      rw [abandoned.removed] at hRegistered
      cases hRegistered
  | skipped hTop hRemoved =>
      refine ⟨abandoned.of_top hTop abandoned.removed rfl rfl ?_, by simp [Accesses, hRemoved]⟩
      simp +contextual [settled]
  | calledEmpty hTop => exact (abandoned.top_settled hTop).elim
  | stopped hTop => exact (abandoned.top_settled hTop).elim
  | functionReturned hTop =>
      refine ⟨abandoned.of_top hTop abandoned.removed rfl rfl ?_, id⟩
      simp +contextual [settled]
  | handlerReturned hTop =>
      exact ⟨abandoned.of_top hTop abandoned.removed rfl rfl fun _ => Or.inl, id⟩
  | leftNested hTop =>
      exact ⟨abandoned.of_top hTop abandoned.removed rfl rfl fun _ => Or.inl, id⟩

theorem Moves.abandoned (moves : Moves s action t new) (hDetached : s.lifecycle = .detached)
    (abandoned : s.Abandoned) : t.Abandoned ∧ ¬ s.Accesses action := by
  have hNotShared : s.lifecycle ≠ .shared := by simp [hDetached]
  cases moves with
  | scheduled hShared => exact absurd hShared hNotShared
  | releasedOnClient hShared => exact absurd hShared hNotShared
  | releasedOnAoThread hShared => exact absurd hShared hNotShared
  | wrote hThread =>
      rw [abandoned.idle] at hThread
      cases hThread
  | looped moves => exact moves.abandoned abandoned
  | read hTop => exact (abandoned.top_settled hTop).elim
  | dequeued hTop => exact (abandoned.top_settled hTop).elim
  | foundEmpty hTop => exact (abandoned.top_settled hTop).elim
  | called hTop => exact (abandoned.top_settled hTop).elim
  | left => exact ⟨⟨abandoned.removed, by simp, abandoned.idle, by simp⟩, id⟩

/-- The destructor is called by user code, so that no activation is in the middle of
a use of the object. -/
theorem abandoned_destructOnAoThread (hStacked : s.Stacked) (hIdle : s.scheduling = [])
    (hUser : s.userCodeRuns = true) : s.destructOnAoThread.Abandoned where
  removed := rfl
  started := by
    show s.phase ≠ .starting
    intro hStarting
    simp [userCodeRuns, hStarting] at hUser
  idle := hIdle
  allSettled := hStacked.settled_of_userCodeRuns hUser

theorem Moves.abandoned_after (moves : Moves s action t new) (hStacked : s.Stacked)
    (hBefore : s.lifecycle = .detached → s.Abandoned) (hDetached : t.lifecycle = .detached) :
    t.Abandoned := by
  by_cases hAlready : s.lifecycle = .detached
  · exact (moves.abandoned hAlready (hBefore hAlready)).1
  cases moves with
  | releasedOnAoThread _ hIdle hUser =>
      exact abandoned_destructOnAoThread hStacked hIdle hUser
  | looped moves => exact absurd (moves.sides_eq.2.2.2.symm.trans hDetached) hAlready
  | releasedOnClient => cases hDetached
  | _ => exact absurd hDetached hAlready

end ActiveObjectThread

/-- When the last reference has been dropped on the thread of the Active Object, in
whatever function and at whatever depth of `run()`, no step of any thread uses the
destroyed object again. -/
theorem run_leaves_destroyed_object_alone
    {steps : List (ActiveObjectThread Func × Action Func)} {history : List (Output Func)}
    {s t : ActiveObjectThread Func} (run : (aoSystem Func).Run steps history s)
    (hDetached : s.lifecycle = .detached) {action : Action Func} {new : List (Output Func)}
    (hStep : s.step action = some (t, new)) : ¬ s.Accesses action := by
  have abandoned : s.Abandoned := by
    refine (run.invariant_of_all (fun _ s => s.Stacked ∧
      (s.lifecycle = .detached → s.Abandoned)) ?_ ?_).2 hDetached
    · rintro s ⟨aoThread, rfl⟩
      exact ⟨(ActiveObjectThread.terminates_start aoThread).stacked, nofun⟩
    · rintro history s action t new ⟨hStacked, hBefore⟩ hStep
      have moves := ActiveObjectThread.moves_of_step hStep
      exact ⟨moves.stacked hStacked, moves.abandoned_after hStacked hBefore⟩
  exact ((ActiveObjectThread.moves_of_step hStep).abandoned hDetached abandoned).2

/-- A function that runs the loop again, in which another one drops the last
reference; both loops are left then. -/
def releasedNested : List (Action Nat) :=
  [.addFdHandler, .run, .executeFunction 1 (some 10), .write 1,
    .executeFunction 1 (some 20), .write 1,
    .epollWaitReturns true, .handleEpollEvent, .read, .dequeueFunction, .call, .run,
    .epollWaitReturns true, .handleEpollEvent, .read, .dequeueFunction, .call,
    .releaseOnAoThread, .functionReturns, .handleFdEventReturns, .leaveRun]

theorem releasedNested_alone : ∃ s : ActiveObjectThread Nat, s.lifecycle = .detached ∧
    ¬ s.Accesses .functionReturns := by
  obtain ⟨steps, history, s, t, run, hDetached, hStep⟩ : ∃ steps history s t,
      (aoSystem Nat).Run steps history s ∧ s.lifecycle = .detached ∧
        s.step .functionReturns = some (t, []) :=
    ⟨_, _, _, _, run_of_replay (.start 0) releasedNested ⟨0, rfl⟩ rfl, rfl, rfl⟩
  exact ⟨s, hDetached, run_leaves_destroyed_object_alone run hDetached hStep⟩

end ActiveObject
end UtilsFramework
