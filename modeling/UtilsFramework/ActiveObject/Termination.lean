import UtilsFramework.ActiveObject.QueueAccounting

/-!
# What an Active Object leaves undone

The interface promises that the thread terminates after all scheduled functions
have been carried out.  A client that drops the last reference puts
`stopEventLoop` behind them, and the loop runs until it comes up.  On the thread
of the Active Object the destructor stops the loop at once and destroys the
queue with what is still in it.  These are the only two ways in which the thread
can leave `run()`, and this file determines exactly when it leaves nothing
undone.  `run()` may be entered again from user code.
-/

namespace UtilsFramework
namespace ActiveObject

open Library
open Library.TransitionSystem

variable {Func : Type}

/-- The functions of clients among function objects. -/
def clientFuncs (funcs : List (AOFunc Func)) : List Func :=
  funcs.filterMap fun func =>
    match func with
    | .function func => some func
    | _ => none

/-- The functions clients have scheduled. -/
def scheduledFuncs (history : List (Output Func)) : List Func :=
  clientFuncs (enqueuedFuncs history)

/-- The functions that have been called. -/
def calledFuncs (history : List (Output Func)) : List Func :=
  history.filterMap fun output =>
    match output with
    | .called func => some func
    | _ => none

/-- The functions that were destroyed with the queue. -/
def droppedFuncs (history : List (Output Func)) : List Func :=
  clientFuncs (history.flatMap fun output =>
    match output with
    | .dropped funcs => funcs
    | _ => [])

@[simp]
theorem clientFuncs_nil : clientFuncs ([] : List (AOFunc Func)) = [] := rfl

@[simp]
theorem clientFuncs_append (before after : List (AOFunc Func)) :
    clientFuncs (before ++ after) = clientFuncs before ++ clientFuncs after :=
  List.filterMap_append

theorem scheduledFuncs_append (history new : List (Output Func)) :
    scheduledFuncs (history ++ new) = scheduledFuncs history ++ scheduledFuncs new := by
  rw [scheduledFuncs, enqueuedFuncs_append, clientFuncs_append]
  rfl

theorem calledFuncs_append (history new : List (Output Func)) :
    calledFuncs (history ++ new) = calledFuncs history ++ calledFuncs new :=
  List.filterMap_append

theorem droppedFuncs_append (history new : List (Output Func)) :
    droppedFuncs (history ++ new) = droppedFuncs history ++ droppedFuncs new := by
  rw [droppedFuncs, List.flatMap_append, clientFuncs_append]
  rfl

@[simp]
theorem clientFuncs_cons_function (func : Func) (funcs : List (AOFunc Func)) :
    clientFuncs (.function func :: funcs) = func :: clientFuncs funcs := rfl

@[simp]
theorem clientFuncs_cons_empty (funcs : List (AOFunc Func)) :
    clientFuncs (.empty :: funcs) = clientFuncs funcs := rfl

@[simp]
theorem clientFuncs_cons_stopEventLoop (funcs : List (AOFunc Func)) :
    clientFuncs (.stopEventLoop :: funcs) = clientFuncs funcs := rfl

@[simp]
theorem records_nil : scheduledFuncs ([] : List (Output Func)) = [] ∧
    calledFuncs ([] : List (Output Func)) = [] ∧
    droppedFuncs ([] : List (Output Func)) = [] := ⟨rfl, rfl, rfl⟩

@[simp]
theorem records_enqueued (func : AOFunc Func) :
    scheduledFuncs [.enqueued func] = clientFuncs [func] ∧
      calledFuncs [Output.enqueued func] = [] ∧
      droppedFuncs [Output.enqueued func] = [] := ⟨rfl, rfl, rfl⟩

@[simp]
theorem records_dequeued (func : AOFunc Func) :
    scheduledFuncs [Output.dequeued func] = [] ∧
      calledFuncs [Output.dequeued func] = [] ∧
      droppedFuncs [Output.dequeued func] = [] := ⟨rfl, rfl, rfl⟩

@[simp]
theorem records_called (func : Func) :
    scheduledFuncs [Output.called func] = [] ∧
      calledFuncs [Output.called func] = [func] ∧
      droppedFuncs [Output.called func] = [] := ⟨rfl, rfl, rfl⟩

@[simp]
theorem records_dropped (funcs : List (AOFunc Func)) :
    scheduledFuncs [Output.dropped funcs] = [] ∧
      calledFuncs [Output.dropped funcs] = [] ∧
      droppedFuncs [Output.dropped funcs] = clientFuncs funcs := by
  simp [scheduledFuncs, enqueuedFuncs, calledFuncs, droppedFuncs]

@[simp]
theorem records_leftRun : scheduledFuncs [(.leftRun : Output Func)] = [] ∧
    calledFuncs [(.leftRun : Output Func)] = [] ∧
    droppedFuncs [(.leftRun : Output Func)] = [] := ⟨rfl, rfl, rfl⟩

/-- The last reference is not dropped on the thread of the Active Object while
the queue holds a function of a client. -/
def ReleasedDrained (s : ActiveObjectThread Func) : Action Func → Prop
  | .releaseOnAoThread => clientFuncs s.funcQueue = []
  | _ => True

instance [DecidableEq Func] (s : ActiveObjectThread Func) (action : Action Func) :
    Decidable (ReleasedDrained s action) :=
  match action with
  | .releaseOnAoThread => inferInstanceAs (Decidable (clientFuncs s.funcQueue = []))
  | .executeFunction _ _ | .write _ | .addFdHandler | .run | .epollWaitReturns _
  | .handleEpollEvent | .read | .dequeueFunction | .call | .functionReturns
  | .handleFdEventReturns | .leaveRun | .releaseOnClient _ => isTrue trivial

namespace ActiveObjectThread

/-- The function object an activation is about to call. -/
def aboutToCall : List (Frame Func) → List (AOFunc Func)
  | .handleFdEvent (.calling func) :: _ => [func]
  | _ => []

/-- What has been enqueued and not yet been called, in order. -/
def outstanding (s : ActiveObjectThread Func) : List (AOFunc Func) :=
  aboutToCall s.stack ++ s.funcQueue

/-- An activation below which user code may have entered `run()`. -/
def settled : Frame Func → Prop
  | .run _ => True
  | .handleFdEvent .running => True
  | .handleFdEvent .finishing => True
  | _ => False

/-- The thread has not left `run()` and cannot leave it. -/
structure Serving (s : ActiveObjectThread Func) : Prop where
  notLeft : s.phase ≠ .left
  registered : s.phase ≠ .starting → s.registered = true
  running : s.phase = .looping → s.isRunning = true

/-- How far the termination has come: references exist; `stopEventLoop` is the
last thing outstanding; or nothing is left in the queue. -/
inductive Stage (s : ActiveObjectThread Func) : Prop
  | serving (hLifecycle : s.lifecycle = .shared) (hServing : s.Serving)
      (hNoStop : .stopEventLoop ∉ s.outstanding)
  | stopping (before : List (AOFunc Func)) (hLifecycle : s.lifecycle = .joining)
      (hServing : s.Serving) (hOutstanding : s.outstanding = before ++ [.stopEventLoop])
      (hNoStop : .stopEventLoop ∉ before)
  | ended (hLifecycle : s.lifecycle ≠ .shared) (hQueue : s.funcQueue = [])

/-- Only the innermost activation is in the middle of `handleFdEvent`, and there
are activations only while `mainFunction` is in `run()`. -/
structure Stacked (s : ActiveObjectThread Func) : Prop where
  settledBelow : ∀ frame ∈ s.stack.tail, settled frame
  looping : s.stack ≠ [] → s.phase = .looping

/-- What holds in every state of every run. -/
structure Terminates (history : List (Output Func)) (s : ActiveObjectThread Func) :
    Prop where
  stacked : s.Stacked
  balance : scheduledFuncs history =
    calledFuncs history ++ clientFuncs s.outstanding ++ droppedFuncs history
  undropped : s.lifecycle ≠ .detached → droppedFuncs history = []
  stage : s.Stage

variable {s t : ActiveObjectThread Func} {action : Action Func}
  {history new : List (Output Func)}

theorem aboutToCall_of_settled {frame : Frame Func} (hSettled : settled frame)
    (below : List (Frame Func)) : aboutToCall (frame :: below) = [] := by
  cases frame with
  | run => rfl
  | handleFdEvent phase =>
      cases phase with
      | running => rfl
      | finishing => rfl
      | reading | dequeuing | calling => cases hSettled

theorem aboutToCall_of_all_settled {stack : List (Frame Func)}
    (hSettled : ∀ frame ∈ stack, settled frame) : aboutToCall stack = [] := by
  cases stack with
  | nil => rfl
  | cons frame below =>
      exact aboutToCall_of_settled (hSettled frame List.mem_cons_self) below

/-- Where user code runs every activation is settled. -/
theorem Stacked.settled_of_userCodeRuns (hStacked : s.Stacked)
    (hUser : s.userCodeRuns = true) : ∀ frame ∈ s.stack, settled frame := by
  cases hStack : s.stack with
  | nil => simp
  | cons top below =>
      have hPhase : s.phase = .looping := hStacked.looping (by simp [hStack])
      have hTop : settled top := by
        simp only [userCodeRuns, hPhase, hStack] at hUser
        cases top with
        | run => trivial
        | handleFdEvent phase =>
            cases phase with
            | running => trivial
            | finishing => trivial
            | reading | dequeuing | calling => cases hUser
      intro frame hFrame
      rcases List.mem_cons.mp hFrame with rfl | hFrame
      · exact hTop
      · apply hStacked.settledBelow frame
        rw [hStack]
        exact hFrame

/-! ## The stages -/

theorem Serving.of_same (hServing : s.Serving) (hPhase : t.phase = s.phase)
    (hRegistered : t.registered = s.registered) (hRunning : t.isRunning = s.isRunning) :
    t.Serving where
  notLeft := hPhase ▸ hServing.notLeft
  registered := fun hStarted => hRegistered.trans (hServing.registered (hPhase ▸ hStarted))
  running := fun hLooping => hRunning.trans (hServing.running (hPhase.symm.trans hLooping))

/-- A step that leaves what is outstanding alone stays in its stage. -/
theorem Stage.of_same (hStage : s.Stage) (hLifecycle : t.lifecycle = s.lifecycle)
    (hQueue : s.funcQueue = [] → t.funcQueue = [])
    (hOutstanding : t.outstanding = s.outstanding) (hServing : s.Serving → t.Serving) :
    t.Stage := by
  cases hStage with
  | serving hShared hOld hNoStop =>
      exact .serving (hLifecycle.trans hShared) (hServing hOld) (hOutstanding ▸ hNoStop)
  | stopping _ hJoining hOld hPending hNoStop =>
      exact .stopping _ (hLifecycle.trans hJoining) (hServing hOld)
        (hOutstanding.trans hPending) hNoStop
  | ended hGone hEmpty => exact .ended (hLifecycle ▸ hGone) (hQueue hEmpty)

/-- So does a step that takes something other than `stopEventLoop` from it. -/
theorem Stage.of_taken (hStage : s.Stage) (func : AOFunc Func)
    (hFunc : func ≠ .stopEventLoop) (hLifecycle : t.lifecycle = s.lifecycle)
    (hQueue : t.funcQueue = s.funcQueue)
    (hOutstanding : s.outstanding = func :: t.outstanding)
    (hServing : s.Serving → t.Serving) : t.Stage := by
  cases hStage with
  | serving hShared hOld hNoStop =>
      rw [hOutstanding, List.mem_cons, not_or] at hNoStop
      exact .serving (hLifecycle.trans hShared) (hServing hOld) hNoStop.2
  | stopping before hJoining hOld hPending hNoStop =>
      rw [hOutstanding] at hPending
      cases before with
      | nil => exact absurd (List.cons.inj hPending).1 hFunc
      | cons first others =>
          exact .stopping _ (hLifecycle.trans hJoining) (hServing hOld)
            (List.cons.inj hPending).2 fun hMem => hNoStop (List.mem_cons_of_mem _ hMem)
  | ended hGone hEmpty => exact .ended (hLifecycle ▸ hGone) (hQueue.trans hEmpty)

/-- `stopEventLoop` is called only when it is the last thing outstanding. -/
theorem Stage.queue_of_stopEventLoop (hStage : s.Stage)
    (hOutstanding : s.outstanding = .stopEventLoop :: s.funcQueue) :
    s.lifecycle ≠ .shared ∧ s.funcQueue = [] := by
  cases hStage with
  | serving _ _ hNoStop =>
      rw [hOutstanding] at hNoStop
      exact absurd List.mem_cons_self hNoStop
  | stopping before hJoining _ hPending hNoStop =>
      refine ⟨by simp [hJoining], ?_⟩
      rw [hOutstanding] at hPending
      -- anything before it would be another `stopEventLoop`
      cases before with
      | nil => exact (List.cons.inj hPending).2
      | cons first others =>
          rw [(List.cons.inj hPending).1] at hNoStop
          exact absurd List.mem_cons_self hNoStop
  | ended hGone hEmpty => exact ⟨hGone, hEmpty⟩

/-- A thread that can leave `run()` has ended. -/
theorem Stage.ended_of_stopped (hStage : s.Stage) (hPhase : s.phase = .looping)
    (hStopped : s.isRunning = false ∨ s.registered = false) :
    s.lifecycle ≠ .shared ∧ s.funcQueue = [] := by
  have hNotServing : ¬ s.Serving := by
    intro hServing
    rcases hStopped with hStopped | hStopped
    · simp [hServing.running hPhase] at hStopped
    · simp [hServing.registered (by simp [hPhase])] at hStopped
  cases hStage with
  | serving _ hServing _ => exact absurd hServing hNotServing
  | stopping _ _ hServing _ _ => exact absurd hServing hNotServing
  | ended hGone hEmpty => exact ⟨hGone, hEmpty⟩

/-! ## The stack -/

theorem Stacked.of_same (hStacked : s.Stacked) (hPhase : t.phase = s.phase)
    (hStack : t.stack = s.stack) : t.Stacked where
  settledBelow := hStack ▸ hStacked.settledBelow
  looping := fun hSome => hPhase.trans (hStacked.looping (hStack ▸ hSome))

theorem Stacked.stack_eq_nil (hStacked : s.Stacked) (hPhase : s.phase ≠ .looping) :
    s.stack = [] := by
  by_contra hSome
  exact hPhase (hStacked.looping hSome)

theorem Stacked.looping_of_top (hStacked : s.Stacked) {top : Frame Func}
    {below : List (Frame Func)} (hStack : s.stack = top :: below) : s.phase = .looping :=
  hStacked.looping (by simp [hStack])

theorem Stacked.below_settled (hStacked : s.Stacked) {top : Frame Func}
    {below : List (Frame Func)} (hStack : s.stack = top :: below) :
    ∀ frame ∈ below, settled frame := by
  have hBelow := hStacked.settledBelow
  rw [hStack] at hBelow
  exact hBelow

/-- The innermost activation moves on, or returns. -/
theorem Stacked.of_top (hStacked : s.Stacked) {top : Frame Func}
    {below : List (Frame Func)} (hStack : s.stack = top :: below)
    (hPhase : t.phase = s.phase) (hNext : t.stack.tail ⊆ below) : t.Stacked where
  settledBelow := fun frame hFrame => hStacked.below_settled hStack frame (hNext hFrame)
  looping := fun _ => hPhase.trans (hStacked.looping_of_top hStack)

theorem LoopMoves.stacked (hStacked : s.Stacked) (moves : LoopMoves s action t) :
    t.Stacked := by
  cases moves with
  | registered hPhase =>
      have hStack := hStacked.stack_eq_nil (by simp [hPhase])
      exact ⟨by simp [hStack], fun hSome => absurd hStack hSome⟩
  | entered hUser => exact ⟨hStacked.settled_of_userCodeRuns hUser, fun _ => rfl⟩
  | waited hTop | skipped hTop | calledEmpty hTop | stopped hTop | functionReturned hTop =>
      exact hStacked.of_top hTop rfl (List.Subset.refl _)
  | dispatched hTop =>
      refine ⟨?_, fun _ => hStacked.looping_of_top hTop⟩
      intro frame hFrame
      rcases List.mem_cons.mp hFrame with rfl | hFrame
      · trivial
      · exact hStacked.below_settled hTop frame hFrame
  | handlerReturned hTop => exact hStacked.of_top hTop rfl (List.tail_sublist _).subset
  | leftNested hTop => exact hStacked.of_top hTop rfl (List.tail_sublist _).subset

theorem Moves.stacked (hStacked : s.Stacked) (moves : Moves s action t new) :
    t.Stacked := by
  cases moves with
  | scheduled => exact hStacked.of_same rfl rfl
  | wrote => exact hStacked.of_same rfl rfl
  | releasedOnClient => exact hStacked.of_same rfl rfl
  | releasedOnAoThread => exact hStacked.of_same rfl rfl
  | looped moves => exact moves.stacked hStacked
  | left => exact ⟨by simp, by simp⟩
  | read hTop _ => exact hStacked.of_top hTop rfl (List.Subset.refl _)
  | dequeued hTop _ => exact hStacked.of_top hTop rfl (List.Subset.refl _)
  | foundEmpty hTop _ => exact hStacked.of_top hTop rfl (List.Subset.refl _)
  | called hTop => exact hStacked.of_top hTop rfl (List.Subset.refl _)

/-! ## The loop and what is outstanding -/

/-- The steps of the loop call an empty function object or `stopEventLoop`, or
leave everything outstanding. -/
theorem LoopMoves.outstanding_cases (hStacked : s.Stacked)
    (moves : LoopMoves s action t) :
    (t.outstanding = s.outstanding ∧ (s.Serving → t.Serving)) ∨
      (s.outstanding = .empty :: t.outstanding ∧ (s.Serving → t.Serving)) ∨
      (s.outstanding = .stopEventLoop :: s.funcQueue ∧ t.outstanding = s.funcQueue) := by
  have hTopOnly : ∀ {top : Frame Func} {below : List (Frame Func)},
      s.stack = top :: below → aboutToCall below = [] := fun hStack =>
    aboutToCall_of_all_settled (hStacked.below_settled hStack)
  cases moves with
  | registered hPhase =>
      exact Or.inl ⟨rfl, fun _ => ⟨by simp, fun _ => rfl, by simp⟩⟩
  | entered hUser =>
      -- below a nested `run()` nothing is about to be called
      have hNone := aboutToCall_of_all_settled (hStacked.settled_of_userCodeRuns hUser)
      refine Or.inl ⟨?_, fun hServing => ?_⟩
      · show aboutToCall (.run false :: s.stack) ++ s.funcQueue = s.outstanding
        rw [outstanding, hNone]
        rfl
      · refine ⟨by simp, fun _ => hServing.registered ?_, fun _ => rfl⟩
        intro hStarting
        simp [userCodeRuns, hStarting] at hUser
  | waited hTop | dispatched hTop | skipped hTop | functionReturned hTop =>
      refine Or.inl ⟨by simp [outstanding, aboutToCall, hTop], fun hServing => ?_⟩
      exact hServing.of_same rfl rfl rfl
  | @handlerReturned below hTop =>
      refine Or.inl ⟨?_, fun hServing => ?_⟩
      · show aboutToCall below ++ s.funcQueue = s.outstanding
        rw [hTopOnly hTop, outstanding, hTop]
        rfl
      · exact hServing.of_same rfl rfl rfl
  | @leftNested frame below hTop =>
      refine Or.inl ⟨?_, fun hServing => ?_⟩
      · show aboutToCall (frame :: below) ++ s.funcQueue = s.outstanding
        rw [hTopOnly hTop, outstanding, hTop]
        rfl
      · exact hServing.of_same rfl rfl rfl
  | calledEmpty hTop =>
      refine Or.inr (Or.inl ⟨by simp [outstanding, aboutToCall, hTop], fun hServing => ?_⟩)
      exact hServing.of_same rfl rfl rfl
  | stopped hTop =>
      refine Or.inr (Or.inr ⟨by simp [outstanding, aboutToCall, hTop], ?_⟩)
      simp [outstanding, aboutToCall, stopEventLoop]

theorem LoopMoves.stage (hStage : s.Stage) (hStacked : s.Stacked)
    (moves : LoopMoves s action t) : t.Stage := by
  obtain ⟨hQueue, -, -, hLifecycle⟩ := moves.sides_eq
  rcases moves.outstanding_cases hStacked with
    ⟨hSame, hServing⟩ | ⟨hTaken, hServing⟩ | ⟨hStop, -⟩
  · exact hStage.of_same hLifecycle (fun hEmpty => hQueue.trans hEmpty) hSame hServing
  · exact hStage.of_taken .empty (by simp) hLifecycle hQueue hTaken hServing
  · obtain ⟨hGone, hEmpty⟩ := hStage.queue_of_stopEventLoop hStop
    exact .ended (hLifecycle ▸ hGone) (hQueue.trans hEmpty)

theorem LoopMoves.clientFuncs_eq (hStacked : s.Stacked) (moves : LoopMoves s action t) :
    clientFuncs t.outstanding = clientFuncs s.outstanding := by
  rcases moves.outstanding_cases hStacked with
    ⟨hSame, -⟩ | ⟨hTaken, -⟩ | ⟨hStop, hAfter⟩
  · rw [hSame]
  · rw [hTaken]
    rfl
  · rw [hStop, hAfter]
    rfl

/-! ## Every step -/

theorem terminates_start (aoThread : ThreadId) :
    Terminates [] (start aoThread : ActiveObjectThread Func) where
  stacked := ⟨by simp [start], by simp [start]⟩
  balance := rfl
  undropped := fun _ => rfl
  stage := .serving rfl ⟨by simp [start], by simp [start], by simp [start]⟩
    (by simp [outstanding, start, aboutToCall])

theorem Moves.stage (hStage : s.Stage) (hStacked : s.Stacked)
    (moves : Moves s action t new) : t.Stage := by
  cases moves with
  | looped moves => exact moves.stage hStage hStacked
  | @scheduled thread func hShared _ _ =>
      cases hStage with
      | serving _ hServing hNoStop =>
          refine .serving hShared (hServing.of_same rfl rfl rfl) ?_
          have hFunc : AOFunc.stopEventLoop ≠ toAOFunc func := by
            cases func <;> simp [toAOFunc]
          simp only [outstanding, enqueueFunction, List.mem_append,
            List.mem_singleton, not_or] at hNoStop ⊢
          exact ⟨hNoStop.1, hNoStop.2, hFunc⟩
      | stopping _ hJoining => simp [hJoining] at hShared
      | ended hGone => exact absurd hShared hGone
  | wrote =>
      exact hStage.of_same rfl id rfl fun hServing => hServing.of_same rfl rfl rfl
  | read hTop _ =>
      refine hStage.of_same rfl id ?_ fun hServing => hServing.of_same rfl rfl rfl
      simp [outstanding, aboutToCall, hTop]
  | dequeued hTop hQueue =>
      refine hStage.of_same rfl (fun hEmpty => ?_) ?_ fun hServing =>
        hServing.of_same rfl rfl rfl
      · rw [hQueue] at hEmpty
        cases hEmpty
      · simp [outstanding, aboutToCall, hTop, hQueue]
  | foundEmpty hTop hQueue =>
      -- not while `stopEventLoop` is outstanding
      have hNothing : s.outstanding = [] := by
        simp [outstanding, aboutToCall, hTop, hQueue]
      cases hStage with
      | serving hShared hServing _ =>
          refine .serving hShared (hServing.of_same rfl rfl rfl) ?_
          simp [outstanding, aboutToCall, hQueue]
      | stopping _ _ _ hPending _ => simp [hNothing] at hPending
      | ended hGone _ => exact .ended hGone hQueue
  | @called func below hTop =>
      refine hStage.of_taken (.function func) (by simp) rfl rfl ?_ fun hServing =>
        hServing.of_same rfl rfl rfl
      simp [outstanding, aboutToCall, hTop]
  | left hTop hStopped =>
      obtain ⟨hGone, hEmpty⟩ :=
        hStage.ended_of_stopped (hStacked.looping_of_top hTop) hStopped
      exact .ended hGone hEmpty
  | releasedOnClient hShared _ _ =>
      cases hStage with
      | serving _ hServing hNoStop =>
          refine .stopping s.outstanding rfl (hServing.of_same rfl rfl rfl) ?_ hNoStop
          simp [outstanding, enqueueFunction]
      | stopping _ hJoining => simp [hJoining] at hShared
      | ended hGone => exact absurd hShared hGone
  | releasedOnAoThread => exact .ended (by simp [destructOnAoThread]) rfl

/-- What a step schedules is called, is dropped, or is still outstanding. -/
theorem Moves.clientFuncs_eq (hStacked : s.Stacked)
    (hUndropped : s.lifecycle ≠ .detached → droppedFuncs history = [])
    (moves : Moves s action t new) :
    clientFuncs s.outstanding ++ droppedFuncs history ++ scheduledFuncs new =
      calledFuncs new ++ clientFuncs t.outstanding ++
        (droppedFuncs history ++ droppedFuncs new) := by
  cases moves with
  | @scheduled thread func hShared _ _ =>
      have hNone : droppedFuncs history = [] := hUndropped (by simp [hShared])
      have hOutstanding : (s.enqueueFunction thread (toAOFunc func)).outstanding =
          s.outstanding ++ [toAOFunc func] := by
        simp [outstanding, enqueueFunction]
      rw [hOutstanding, clientFuncs_append, hNone]
      simp
  | @releasedOnClient thread hShared _ _ =>
      have hNone : droppedFuncs history = [] := hUndropped (by simp [hShared])
      have hOutstanding : ({ s.enqueueFunction thread .stopEventLoop with
            lifecycle := .joining } : ActiveObjectThread Func).outstanding =
          s.outstanding ++ [.stopEventLoop] := by
        simp [outstanding, enqueueFunction]
      rw [hOutstanding, clientFuncs_append, hNone]
      simp
  | looped moves =>
      rw [moves.clientFuncs_eq hStacked]
      simp
  | wrote => simp [outstanding, writeOne]
  | read hTop _ => simp [outstanding, aboutToCall, hTop]
  | dequeued hTop hQueue => simp [outstanding, aboutToCall, hTop, hQueue]
  | foundEmpty hTop hQueue => simp [outstanding, aboutToCall, hTop, hQueue]
  | @called func below hTop =>
      have hTaken : clientFuncs s.outstanding = func :: clientFuncs s.funcQueue := by
        simp [outstanding, aboutToCall, hTop]
      rw [hTaken]
      simp [outstanding, aboutToCall]
  | left hTop _ => simp [outstanding, aboutToCall, hTop]
  | releasedOnAoThread hShared _ hUser =>
      -- the caller is user code, so nothing is about to be called
      have hNone : droppedFuncs history = [] := hUndropped (by simp [hShared])
      have hSettled := aboutToCall_of_all_settled (hStacked.settled_of_userCodeRuns hUser)
      rw [hNone]
      simp [outstanding, destructOnAoThread, stopEventLoop, hSettled]

theorem Terminates.step (hTerminates : s.Terminates history)
    (moves : Moves s action t new) : t.Terminates (history ++ new) where
  stacked := moves.stacked hTerminates.stacked
  balance := by
    rw [scheduledFuncs_append, calledFuncs_append, droppedFuncs_append,
      hTerminates.balance, List.append_assoc, List.append_assoc, ← List.append_assoc
        (clientFuncs s.outstanding),
      moves.clientFuncs_eq hTerminates.stacked hTerminates.undropped]
    simp
  undropped := by
    intro hAlive
    rw [droppedFuncs_append]
    cases moves with
    | looped moves =>
        rw [moves.sides_eq.2.2.2] at hAlive
        simp [hTerminates.undropped hAlive]
    | releasedOnAoThread => exact absurd rfl hAlive
    | releasedOnClient hShared => simp [hTerminates.undropped (by simp [hShared])]
    | scheduled | wrote | read | dequeued | foundEmpty | called | left =>
        simp [hTerminates.undropped hAlive]
  stage := moves.stage hTerminates.stage hTerminates.stacked

/-- The thread has called everything once it has left `run()`, unless the queue
was destroyed with something in it. -/
theorem Terminates.balance_of_left (hTerminates : s.Terminates history)
    (hLeft : s.phase = .left) :
    scheduledFuncs history = calledFuncs history ++ droppedFuncs history := by
  have hStack : s.stack = [] := hTerminates.stacked.stack_eq_nil (by simp [hLeft])
  have hQueue : s.funcQueue = [] := by
    cases hTerminates.stage with
    | serving _ hServing _ => exact absurd hLeft hServing.notLeft
    | stopping _ _ hServing _ _ => exact absurd hLeft hServing.notLeft
    | ended _ hQueue => exact hQueue
  have hNothing : s.outstanding = [] := by simp [outstanding, hStack, hQueue, aboutToCall]
  simpa [hNothing] using hTerminates.balance

/-- A step drops nothing exactly if it meets `ReleasedDrained`. -/
theorem Moves.droppedFuncs_eq_nil_iff (moves : Moves s action t new) :
    droppedFuncs new = [] ↔ ReleasedDrained s action := by
  cases moves with
  | releasedOnAoThread => simp [ReleasedDrained]
  | looped moves => cases moves <;> simp [ReleasedDrained]
  | scheduled | wrote | read | dequeued | foundEmpty | called | left
  | releasedOnClient => simp [ReleasedDrained]

end ActiveObjectThread

variable {steps : List (ActiveObjectThread Func × Action Func)}
  {history : List (Output Func)} {s : ActiveObjectThread Func}

theorem terminates_of_run (run : (aoSystem Func).Run steps history s) :
    s.Terminates history := by
  refine run.invariant_of_all (fun history s => s.Terminates history) ?_ ?_
  · rintro s ⟨aoThread, rfl⟩
    exact ActiveObjectThread.terminates_start aoThread
  · intro history s action t new hTerminates hStep
    exact hTerminates.step (ActiveObjectThread.moves_of_step hStep)

/-- Nothing is dropped exactly in the runs all of whose steps meet
`ReleasedDrained`. -/
theorem droppedFuncs_eq_nil_iff (run : (aoSystem Func).Run steps history s) :
    droppedFuncs history = [] ↔ EveryStep ReleasedDrained steps := by
  induction run with
  | start => simp
  | next run hStep ih =>
      have hLast := (ActiveObjectThread.moves_of_step hStep).droppedFuncs_eq_nil_iff
      rw [droppedFuncs_append, List.append_eq_nil_iff, everyStep_append_singleton, ih,
        hLast]

/-- In every interleaving, by the time the thread leaves `run()` the scheduled
functions have been called, each once and in order, exactly if the last
reference was not dropped on the thread of the Active Object while the queue
held one. -/
theorem run_drains_iff (run : (aoSystem Func).Run steps history s)
    (hLeft : s.phase = .left) :
    calledFuncs history = scheduledFuncs history ↔ EveryStep ReleasedDrained steps := by
  have hBalance := (terminates_of_run run).balance_of_left hLeft
  rw [hBalance, List.self_eq_append_right]
  exact droppedFuncs_eq_nil_iff run

/-- A client schedules a function and drops the last reference; the thread calls
the function, then `stopEventLoop`, and leaves `run()`. -/
def drainedByClient : List (Action Nat) :=
  [.addFdHandler, .run, .executeFunction 1 (some 10), .write 1, .releaseOnClient 1,
    .write 1,
    .epollWaitReturns true, .handleEpollEvent, .read, .dequeueFunction, .call,
    .functionReturns, .handleFdEventReturns,
    .epollWaitReturns true, .handleEpollEvent, .read, .dequeueFunction, .call,
    .handleFdEventReturns, .leaveRun]

/-- An Active Object whose thread has left `run()`. -/
def gone (lifecycle : Lifecycle) : ActiveObjectThread Nat where
  aoThread := 0
  funcQueue := []
  eventFd := 0
  scheduling := []
  phase := .left
  stack := []
  isRunning := false
  registered := false
  lifecycle := lifecycle

/-- What an observer sees of `drainedByClient`. -/
def drainedByClientHistory : List (Output Nat) :=
  [.enqueued (.function 10), .enqueued .stopEventLoop, .dequeued (.function 10),
    .called 10, .dequeued .stopEventLoop, .leftRun]

/-- Nothing is left undone. -/
theorem drainedByClient_drains :
    calledFuncs drainedByClientHistory = scheduledFuncs drainedByClientHistory :=
  (run_drains_iff
    (run_of_replay (.start 0) drainedByClient (t := gone .joining) ⟨0, rfl⟩ rfl)
    rfl).mpr (by decide)

/-- A function that drops the last reference while another one waits behind it. -/
def releasedByFunction : List (Action Nat) :=
  [.addFdHandler, .run, .executeFunction 1 (some 10), .write 1,
    .executeFunction 1 (some 20), .write 1,
    .epollWaitReturns true, .handleEpollEvent, .read, .dequeueFunction, .call,
    .releaseOnAoThread, .functionReturns, .handleFdEventReturns, .leaveRun]

/-- The other function is never called. -/
theorem releasedByFunction_not_drained :
    ∃ (steps : List (ActiveObjectThread Nat × Action Nat)) (history : List (Output Nat)),
      (aoSystem Nat).Run steps history (gone .detached) ∧
        scheduledFuncs history = [10, 20] ∧ calledFuncs history = [10] :=
  ⟨_, _, run_of_replay (.start 0) releasedByFunction ⟨0, rfl⟩ rfl, rfl, rfl⟩

end ActiveObject
end UtilsFramework
