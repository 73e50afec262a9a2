import UtilsFramework.ActiveObject.Shutdown

/-!
# From `create` to the destructor

`IActiveObject::create` fails if there is no eventfd.  Whether the new thread can
register the eventfd with its event loop is not known to it: where it cannot,
`mainFunction` returns, and the Active Object accepts functions that nobody will
ever call.

The destructor closes the eventfd.  The file shows that this happens once, and
only when the event loop does not monitor the descriptor any more and no thread
is going to use it, so that its number can be given to another file.
-/

namespace UtilsFramework
namespace ActiveObject

open Library
open Library.TransitionSystem

variable {Func : Type}

/-- An Active Object that `create` has returned; `eventFdOpen` until `close`. -/
structure ActiveObjectImpl (Func : Type) where
  aoThread : ActiveObjectThread Func
  eventFd : Int
  eventFdOpen : Bool

inductive ObjectAction (Func : Type)
  | active (action : Action Func)
  | addFdHandlerFails
  | joinReturns
deriving DecidableEq, Repr

inductive ObjectOutput (Func : Type)
  | active (output : Output Func)
  /-- `mainFunction` has returned without `run()` -/
  | notRegistered
  | closed (fd : Int)
deriving DecidableEq, Repr

namespace ActiveObjectImpl

/-- `create`, where `eventfd()` returns `eventFd`; the other outcomes are not known
to it. -/
def create (aoThread : ThreadId) (eventFd : Int) : Option (ActiveObjectImpl Func) :=
  if eventFd = -1 then none
  else some { aoThread := .start aoThread, eventFd := eventFd, eventFdOpen := true }

/-- The end of the destructor: `close`. -/
def closeEventFd (s : ActiveObjectImpl Func) :
    ActiveObjectImpl Func × List (ObjectOutput Func) :=
  ({ s with eventFdOpen := false }, [.closed s.eventFd])

def step (s : ActiveObjectImpl Func) :
    ObjectAction Func → Option (ActiveObjectImpl Func × List (ObjectOutput Func))
  | .active .releaseOnAoThread =>
      (s.aoThread.step .releaseOnAoThread).map fun next =>
        let (s, closed) := { s with aoThread := next.1 }.closeEventFd
        (s, next.2.map .active ++ closed)
  | .active action =>
      (s.aoThread.step action).map fun next =>
        ({ s with aoThread := next.1 }, next.2.map .active)
  | .addFdHandlerFails =>
      if s.aoThread.phase = .starting then
        some ({ s with aoThread := { s.aoThread with phase := .left } }, [.notRegistered])
      else none
  | .joinReturns =>
      -- the thread has ended, and `stopEventLoop` has been scheduled before `join`
      if s.aoThread.lifecycle = .joining && s.aoThread.scheduling.isEmpty &&
          s.aoThread.phase = .left && s.eventFdOpen then
        let (closed, outputs) := s.closeEventFd
        some ({ closed with aoThread := { s.aoThread with funcQueue := [] } },
          .active (.dropped s.aoThread.funcQueue) :: outputs)
      else none

/-- The steps by what they do to the object. -/
inductive Moves (s : ActiveObjectImpl Func) :
    ObjectAction Func → ActiveObjectImpl Func → List (ObjectOutput Func) → Prop
  | released {next : ActiveObjectThread Func} {new : List (Output Func)}
      (moves : s.aoThread.Moves .releaseOnAoThread next new) :
      Moves s (.active .releaseOnAoThread)
        { s with aoThread := next, eventFdOpen := false }
        (new.map .active ++ [.closed s.eventFd])
  | active {action : Action Func} {next : ActiveObjectThread Func}
      {new : List (Output Func)} (hAction : action ≠ .releaseOnAoThread)
      (moves : s.aoThread.Moves action next new) :
      Moves s (.active action) { s with aoThread := next } (new.map .active)
  | notRegistered (hPhase : s.aoThread.phase = .starting) :
      Moves s .addFdHandlerFails { s with aoThread := { s.aoThread with phase := .left } }
        [.notRegistered]
  | joined (hJoining : s.aoThread.lifecycle = .joining) (hIdle : s.aoThread.scheduling = [])
      (hLeft : s.aoThread.phase = .left) (hOpen : s.eventFdOpen = true) :
      Moves s .joinReturns
        { s with aoThread := { s.aoThread with funcQueue := [] }, eventFdOpen := false }
        [.active (.dropped s.aoThread.funcQueue), .closed s.eventFd]

theorem moves_of_step {s t : ActiveObjectImpl Func} {action : ObjectAction Func}
    {new : List (ObjectOutput Func)} (hStep : s.step action = some (t, new)) :
    Moves s action t new := by
  cases action with
  | active action =>
      by_cases hReleased : action = .releaseOnAoThread
      · subst hReleased
        obtain ⟨⟨next, outputs⟩, hNext, hEq⟩ := Option.map_eq_some_iff.mp hStep
        obtain ⟨rfl, rfl⟩ := Prod.mk.inj hEq
        exact .released (ActiveObjectThread.moves_of_step hNext)
      · have hActive : (s.aoThread.step action).map (fun next =>
            (({ s with aoThread := next.1 } : ActiveObjectImpl Func),
              next.2.map ObjectOutput.active)) = some (t, new) := by
          cases action <;> first | exact hStep | exact absurd rfl hReleased
        obtain ⟨⟨next, outputs⟩, hNext, hEq⟩ := Option.map_eq_some_iff.mp hActive
        obtain ⟨rfl, rfl⟩ := Prod.mk.inj hEq
        exact .active hReleased (ActiveObjectThread.moves_of_step hNext)
  | addFdHandlerFails =>
      simp only [step, Option.ite_none_right_eq_some, Option.some.injEq, Prod.mk.injEq]
        at hStep
      obtain ⟨hPhase, rfl, rfl⟩ := hStep
      exact .notRegistered hPhase
  | joinReturns =>
      simp only [step, closeEventFd, Option.ite_none_right_eq_some, Bool.and_eq_true,
        decide_eq_true_eq, List.isEmpty_iff, Option.some.injEq, Prod.mk.injEq] at hStep
      obtain ⟨⟨⟨⟨hJoining, hIdle⟩, hLeft⟩, hOpen⟩, rfl, rfl⟩ := hStep
      exact .joined hJoining hIdle hLeft hOpen

end ActiveObjectImpl

/-- An Active Object from `create` on. -/
def objectSystem (Func : Type) :
    TransitionSystem (ActiveObjectImpl Func) (ObjectAction Func) (ObjectOutput Func) where
  initial s := ∃ aoThread eventFd, ActiveObjectImpl.create aoThread eventFd = some s
  step := ActiveObjectImpl.step

/-! ## The descriptor -/

namespace ActiveObjectThread

variable {s t : ActiveObjectThread Func} {action : Action Func} {new : List (Output Func)}

/-- A loop that has not been entered yet, or that can be left, does not monitor the
eventfd. -/
structure Unmonitored (s : ActiveObjectThread Func) : Prop where
  starting : s.phase = .starting → s.registered = false
  stopped : s.phase = .looping → s.isRunning = false → s.registered = false
  left : s.phase = .left → s.registered = false

theorem Unmonitored.of_removed (hRemoved : s.registered = false) : s.Unmonitored :=
  ⟨fun _ => hRemoved, fun _ _ => hRemoved, fun _ => hRemoved⟩

theorem LoopMoves.unmonitored (moves : LoopMoves s action t) (hBefore : s.Unmonitored) :
    t.Unmonitored := by
  cases moves with
  | registered => exact ⟨by simp, by simp, by simp⟩
  | entered => exact ⟨by simp, by simp, by simp⟩
  | stopped => exact .of_removed rfl
  | _ => exact ⟨hBefore.starting, hBefore.stopped, hBefore.left⟩

theorem Moves.unmonitored (moves : Moves s action t new) (hBefore : s.Unmonitored)
    (hStacked : s.Stacked) : t.Unmonitored := by
  cases moves with
  | looped moves => exact moves.unmonitored hBefore
  | releasedOnAoThread => exact .of_removed rfl
  | left hStack hStopped =>
      refine .of_removed ?_
      rcases hStopped with hStopped | hRemoved
      · exact hBefore.stopped (hStacked.looping_of_top hStack) hStopped
      · exact hRemoved
  | _ => exact ⟨hBefore.starting, hBefore.stopped, hBefore.left⟩

/-- Nothing happens any more once the thread has left and the client has joined it. -/
theorem Moves.not_joined (moves : Moves s action t new) (hStacked : s.Stacked)
    (hJoining : s.lifecycle = .joining) (hIdle : s.scheduling = [])
    (hLeft : s.phase = .left) : False := by
  have hNotShared : s.lifecycle ≠ .shared := by simp [hJoining]
  have hTop : ∀ {top : Frame Func} {below : List (Frame Func)},
      s.stack = top :: below → False := by
    intro top below hStack
    have hLooping := hStacked.looping_of_top hStack
    rw [hLeft] at hLooping
    cases hLooping
  cases moves with
  | scheduled hShared => exact hNotShared hShared
  | releasedOnClient hShared => exact hNotShared hShared
  | releasedOnAoThread hShared => exact hNotShared hShared
  | wrote hThread =>
      rw [hIdle] at hThread
      cases hThread
  | read hStack => exact hTop hStack
  | dequeued hStack => exact hTop hStack
  | foundEmpty hStack => exact hTop hStack
  | called hStack => exact hTop hStack
  | left hStack => exact hTop hStack
  | looped moves =>
      cases moves with
      | registered hStarting =>
          rw [hLeft] at hStarting
          cases hStarting
      | entered hUser => simp [userCodeRuns, hLeft] at hUser
      | waited hStack | dispatched hStack | skipped hStack | calledEmpty hStack
      | stopped hStack | functionReturned hStack | handlerReturned hStack
      | leftNested hStack => exact hTop hStack

theorem Moves.detached (moves : Moves s action t new) (hDetached : s.lifecycle = .detached) :
    t.lifecycle = .detached := by
  have hNotShared : s.lifecycle ≠ .shared := by simp [hDetached]
  cases moves with
  | looped moves => rw [moves.sides_eq.2.2.2, hDetached]
  | releasedOnClient hShared => exact absurd hShared hNotShared
  | releasedOnAoThread => rfl
  | _ => exact hDetached

/-- The object has been destroyed, on its own thread or behind a `join`. -/
def Gone (s : ActiveObjectThread Func) : Prop :=
  (s.lifecycle = .detached ∧ s.Abandoned) ∨
    (s.lifecycle = .joining ∧ s.scheduling = [] ∧ s.phase = .left)

theorem Gone.step (gone : s.Gone) (hStacked : s.Stacked) (moves : Moves s action t new) :
    t.Gone ∧ ¬ s.Accesses action := by
  rcases gone with ⟨hDetached, abandoned⟩ | ⟨hJoining, hIdle, hLeft⟩
  · have hAfter := moves.abandoned hDetached abandoned
    exact ⟨Or.inl ⟨moves.detached hDetached, hAfter.1⟩, hAfter.2⟩
  · exact (moves.not_joined hStacked hJoining hIdle hLeft).elim

end ActiveObjectThread

/-- The descriptors closed in a history. -/
def closedFds (history : List (ObjectOutput Func)) : List Int :=
  history.filterMap fun output =>
    match output with
    | .closed fd => some fd
    | _ => none

theorem closedFds_append (history new : List (ObjectOutput Func)) :
    closedFds (history ++ new) = closedFds history ++ closedFds new :=
  List.filterMap_append

theorem closedFds_active (new : List (Output Func)) :
    closedFds (new.map ObjectOutput.active) = [] := by
  simp [closedFds]

namespace ActiveObjectImpl

variable {s t : ActiveObjectImpl Func} {action : ObjectAction Func}
  {history new : List (ObjectOutput Func)}

/-- What holds in every state. -/
structure Closes (history : List (ObjectOutput Func)) (s : ActiveObjectImpl Func) : Prop where
  stacked : s.aoThread.Stacked
  unmonitored : s.aoThread.Unmonitored
  closed : closedFds history = if s.eventFdOpen then [] else [s.eventFd]
  gone : s.eventFdOpen = false → s.aoThread.Gone

theorem closes_create {aoThread : ThreadId} {eventFd : Int}
    (hCreate : create aoThread eventFd = some s) : s.Closes [] := by
  unfold create at hCreate
  split at hCreate
  · cases hCreate
  · obtain rfl := Option.some.inj hCreate
    exact ⟨(ActiveObjectThread.terminates_start aoThread).stacked, .of_removed rfl, rfl,
      by simp⟩

theorem Closes.open_of_shared (closes : s.Closes history)
    (hShared : s.aoThread.lifecycle = .shared) : s.eventFdOpen = true := by
  by_contra hClosed
  rcases closes.gone (by simpa using hClosed) with ⟨hDetached, -⟩ | ⟨hJoining, -⟩
  · simp [hShared] at hDetached
  · simp [hShared] at hJoining

theorem Closes.step (closes : s.Closes history) (moves : Moves s action t new) :
    t.Closes (history ++ new) := by
  have hClosed := closes.closed
  cases moves with
  | released moves =>
      have hStacked := moves.stacked closes.stacked
      have hUnmonitored := moves.unmonitored closes.unmonitored closes.stacked
      refine ⟨hStacked, hUnmonitored, ?_, fun _ => ?_⟩
      · cases moves with
        | releasedOnAoThread hShared =>
            rw [closes.open_of_shared hShared] at hClosed
            rw [closedFds_append, hClosed]
            rfl
        | looped moves => cases moves
      · cases moves with
        | releasedOnAoThread _ hIdle hUser =>
            exact Or.inl ⟨rfl, ActiveObjectThread.abandoned_destructOnAoThread closes.stacked
              hIdle hUser⟩
        | looped moves => cases moves
  | active hAction moves =>
      refine ⟨moves.stacked closes.stacked, moves.unmonitored closes.unmonitored closes.stacked,
        ?_, fun hGone => ((closes.gone hGone).step closes.stacked moves).1⟩
      rw [closedFds_append, closedFds_active, List.append_nil]
      exact hClosed
  | notRegistered hPhase =>
      have hStack := closes.stacked.stack_eq_nil (by simp [hPhase])
      refine ⟨⟨by simp [hStack], fun hSome => absurd hStack hSome⟩,
        .of_removed (closes.unmonitored.starting hPhase), ?_, fun hGone => ?_⟩
      · rw [closedFds_append]
        simpa [closedFds] using hClosed
      · rcases closes.gone hGone with ⟨-, abandoned⟩ | ⟨-, -, hLeft⟩
        · exact absurd hPhase abandoned.started
        · rw [hPhase] at hLeft
          cases hLeft
  | joined hJoining hIdle hLeft hOpen =>
      rw [hOpen] at hClosed
      refine ⟨closes.stacked.of_same rfl rfl,
        ⟨closes.unmonitored.starting, closes.unmonitored.stopped, closes.unmonitored.left⟩,
        ?_, fun _ => Or.inr ⟨hJoining, hIdle, hLeft⟩⟩
      rw [closedFds_append, hClosed]
      rfl

end ActiveObjectImpl

/-- The eventfd of an Active Object is closed once, when the object is destroyed,
whether its thread could register the descriptor or not.  By then the event loop of
the thread does not monitor it any more, no `write` to it is pending, and no step
of any thread will use the object again. -/
theorem run_closes_eventfd_once
    {steps : List (ActiveObjectImpl Func × ObjectAction Func)}
    {history : List (ObjectOutput Func)} {s : ActiveObjectImpl Func}
    (run : (objectSystem Func).Run steps history s) :
    closedFds history = (if s.eventFdOpen then [] else [s.eventFd]) ∧
      (s.eventFdOpen = false → s.aoThread.registered = false ∧ s.aoThread.scheduling = [] ∧
        ∀ action next, s.aoThread.step action = some next → ¬ s.aoThread.Accesses action) := by
  have closes : s.Closes history := by
    refine run.invariant_of_all (fun history s => s.Closes history) ?_ ?_
    · rintro s ⟨aoThread, eventFd, hCreate⟩
      exact ActiveObjectImpl.closes_create hCreate
    · intro history s action t new closes hStep
      exact closes.step (ActiveObjectImpl.moves_of_step hStep)
  refine ⟨closes.closed, fun hClosed => ?_⟩
  have gone := closes.gone hClosed
  have hRest : s.aoThread.registered = false ∧ s.aoThread.scheduling = [] := by
    rcases gone with ⟨-, abandoned⟩ | ⟨-, hIdle, hLeft⟩
    · exact ⟨abandoned.removed, abandoned.idle⟩
    · exact ⟨closes.unmonitored.left hLeft, hIdle⟩
  refine ⟨hRest.1, hRest.2, fun action next hStep => ?_⟩
  exact (gone.step closes.stacked (ActiveObjectThread.moves_of_step hStep)).2

/-- A client schedules a function and drops the last reference. -/
def joinedByClient : List (ObjectAction Nat) :=
  [.active .addFdHandler, .active .run, .active (.executeFunction 1 (some 10)),
    .active (.write 1), .active (.releaseOnClient 1), .active (.write 1),
    .active (.epollWaitReturns true), .active .handleEpollEvent, .active .read,
    .active .dequeueFunction, .active .call, .active .functionReturns,
    .active .handleFdEventReturns, .active (.epollWaitReturns true),
    .active .handleEpollEvent, .active .read, .active .dequeueFunction, .active .call,
    .active .handleFdEventReturns, .active .leaveRun, .joinReturns]

theorem joinedByClient_closes : ∃ (history : List (ObjectOutput Nat))
    (s : ActiveObjectImpl Nat), closedFds history = [5] ∧ s.aoThread.registered = false := by
  obtain ⟨steps, history, s, run, hClosed, hFd⟩ : ∃ steps history s,
      (objectSystem Nat).Run steps history s ∧ s.eventFdOpen = false ∧ s.eventFd = 5 :=
    ⟨_, _, _, run_of_replay (⟨.start 0, 5, true⟩ : ActiveObjectImpl Nat) joinedByClient
      ⟨0, 5, rfl⟩ rfl, rfl, rfl⟩
  obtain ⟨hOnce, hAfter⟩ := run_closes_eventfd_once run
  rw [hClosed, hFd] at hOnce
  exact ⟨history, s, hOnce, (hAfter hClosed).1⟩

/-! ## An Active Object that could not be registered -/

/-- What the thread and its clients have done. -/
def activeHistory (history : List (ObjectOutput Func)) : List (Output Func) :=
  history.filterMap fun output =>
    match output with
    | .active output => some output
    | _ => none

theorem activeHistory_append (history new : List (ObjectOutput Func)) :
    activeHistory (history ++ new) = activeHistory history ++ activeHistory new :=
  List.filterMap_append

theorem activeHistory_active (new : List (Output Func)) :
    activeHistory (new.map ObjectOutput.active) = new := by
  induction new with
  | nil => rfl
  | cons output new ih => exact congrArg (output :: ·) ih

namespace ActiveObjectThread

variable {s t : ActiveObjectThread Func} {action : Action Func}
  {history new : List (Output Func)}

/-- A thread that does not run, whose queue only grows. -/
structure Idle (history : List (Output Func)) (s : ActiveObjectThread Func) : Prop where
  noActivation : s.stack = []
  noUserCode : s.userCodeRuns = false
  noCall : calledFuncs history = []
  queued : scheduledFuncs history = droppedFuncs history ++ clientFuncs s.funcQueue

/-- Without activations and user code only clients act. -/
theorem Idle.step (idle : s.Idle history) (moves : Moves s action t new)
    (hAction : action ≠ .addFdHandler) :
    t.Idle (history ++ new) ∧ t.phase = s.phase := by
  have hTop : ∀ {top : Frame Func} {below : List (Frame Func)},
      s.stack = top :: below → False := by
    intro top below hStack
    rw [idle.noActivation] at hStack
    cases hStack
  have hNoUser : s.userCodeRuns = true → False := by simp [idle.noUserCode]
  cases moves with
  | @scheduled _ func =>
      refine ⟨⟨idle.noActivation, idle.noUserCode, ?_, ?_⟩, rfl⟩
      · rw [calledFuncs_append, idle.noCall]
        simp
      · rw [scheduledFuncs_append, droppedFuncs_append, idle.queued]
        simp [enqueueFunction]
  | wrote =>
      refine ⟨⟨idle.noActivation, idle.noUserCode, ?_, ?_⟩, rfl⟩
      · rw [List.append_nil]
        exact idle.noCall
      · rw [List.append_nil]
        exact idle.queued
  | releasedOnClient =>
      refine ⟨⟨idle.noActivation, idle.noUserCode, ?_, ?_⟩, rfl⟩
      · rw [calledFuncs_append, idle.noCall]
        simp
      · rw [scheduledFuncs_append, droppedFuncs_append, idle.queued]
        simp [enqueueFunction]
  | releasedOnAoThread _ _ hUser => exact (hNoUser hUser).elim
  | read hStack | dequeued hStack | foundEmpty hStack | called hStack | left hStack =>
      exact (hTop hStack).elim
  | looped moves =>
      cases moves with
      | registered => exact absurd rfl hAction
      | entered hUser => exact (hNoUser hUser).elim
      | waited hStack | dispatched hStack | skipped hStack | calledEmpty hStack
      | stopped hStack | functionReturned hStack | handlerReturned hStack
      | leftNested hStack => exact (hTop hStack).elim

theorem idle_start (aoThread : ThreadId) :
    (start aoThread : ActiveObjectThread Func).Idle [] := ⟨rfl, rfl, rfl, rfl⟩

/-- No step leads back to the start of `mainFunction`. -/
theorem Moves.starting (moves : Moves s action t new) (hStarting : t.phase = .starting) :
    s.phase = .starting ∧ action ≠ .addFdHandler := by
  cases moves with
  | looped moves =>
      cases moves with
      | registered => cases hStarting
      | entered => cases hStarting
      | _ => exact ⟨hStarting, by simp⟩
  | left => cases hStarting
  | _ => exact ⟨hStarting, by simp⟩

end ActiveObjectThread

namespace ActiveObjectImpl

variable {s t : ActiveObjectImpl Func} {action : ObjectAction Func}
  {history new : List (ObjectOutput Func)}

/-- The thread is idle before it has registered the eventfd, and for good if it could
not. -/
structure Unheard (history : List (ObjectOutput Func)) (s : ActiveObjectImpl Func) :
    Prop where
  starting : s.aoThread.phase = .starting → s.aoThread.Idle (activeHistory history)
  failed : .notRegistered ∈ history →
    s.aoThread.phase = .left ∧ s.aoThread.Idle (activeHistory history)

/-- So it stays in a step of the thread or a client. -/
theorem Unheard.active (unheard : s.Unheard history) {active : Action Func}
    {next : ActiveObjectThread Func} {outputs : List (Output Func)}
    (moves : s.aoThread.Moves active next outputs)
    (hThread : t.aoThread = next) (hActive : activeHistory new = outputs)
    (hRegistered : .notRegistered ∉ new) : t.Unheard (history ++ new) where
  starting := by
    intro hStarting
    rw [hThread] at hStarting
    obtain ⟨hBefore, hAction⟩ := moves.starting hStarting
    rw [hThread, activeHistory_append, hActive]
    exact ((unheard.starting hBefore).step moves hAction).1
  failed := by
    intro hFailed
    obtain ⟨hLeft, idle⟩ :=
      unheard.failed ((List.mem_append.mp hFailed).resolve_right hRegistered)
    have hAction : active ≠ .addFdHandler := by
      rintro rfl
      cases moves with
      | looped moves =>
          cases moves with
          | registered hPhase =>
              rw [hLeft] at hPhase
              cases hPhase
    obtain ⟨hIdle, hPhase⟩ := idle.step moves hAction
    rw [hThread, activeHistory_append, hActive]
    exact ⟨hPhase.trans hLeft, hIdle⟩

theorem Unheard.step (unheard : s.Unheard history) (moves : Moves s action t new) :
    t.Unheard (history ++ new) := by
  cases moves with
  | released moves =>
      refine unheard.active moves rfl ?_ (by simp)
      rw [activeHistory_append, activeHistory_active]
      exact List.append_nil _
  | active hAction moves =>
      exact unheard.active moves rfl (activeHistory_active _) (by simp)
  | notRegistered hPhase =>
      refine ⟨by simp, fun _ => ⟨rfl, ?_⟩⟩
      have idle := unheard.starting hPhase
      rw [activeHistory_append]
      exact ⟨idle.noActivation, rfl, by simpa [activeHistory] using idle.noCall,
        by simpa [activeHistory] using idle.queued⟩
  | joined hJoining hIdle hLeft =>
      refine ⟨fun hStarting => ?_, fun hFailed => ⟨hLeft, ?_⟩⟩
      · rw [hLeft] at hStarting
        cases hStarting
      · have idle := (unheard.failed (by simpa using hFailed)).2
        rw [activeHistory_append]
        refine ⟨idle.noActivation, idle.noUserCode, ?_, ?_⟩
        · rw [calledFuncs_append, idle.noCall]
          rfl
        · rw [scheduledFuncs_append, droppedFuncs_append, idle.queued]
          simp [activeHistory]

end ActiveObjectImpl

/-- If the thread could not register the eventfd, no function is ever called, although
`create` has returned an Active Object that goes on accepting them: what has been
scheduled waits in the queue or was dropped with it.  The thread has ended, so that
the destructor does not wait for it. -/
theorem run_unregistered_calls_nothing
    {steps : List (ActiveObjectImpl Func × ObjectAction Func)}
    {history : List (ObjectOutput Func)} {s : ActiveObjectImpl Func}
    (run : (objectSystem Func).Run steps history s) (hFailed : .notRegistered ∈ history) :
    s.aoThread.phase = .left ∧ calledFuncs (activeHistory history) = [] ∧
      scheduledFuncs (activeHistory history) =
        droppedFuncs (activeHistory history) ++ clientFuncs s.aoThread.funcQueue := by
  have unheard : s.Unheard history := by
    refine run.invariant_of_all (fun history s => s.Unheard history) ?_ ?_
    · rintro s ⟨aoThread, eventFd, hCreate⟩
      refine ⟨fun _ => ?_, nofun⟩
      unfold ActiveObjectImpl.create at hCreate
      split at hCreate
      · cases hCreate
      · obtain rfl := Option.some.inj hCreate
        exact ActiveObjectThread.idle_start aoThread
    · intro history s action t new unheard hStep
      exact unheard.step (ActiveObjectImpl.moves_of_step hStep)
  obtain ⟨hLeft, idle⟩ := unheard.failed hFailed
  exact ⟨hLeft, idle.noCall, idle.queued⟩

/-- Functions scheduled before and after the registration failed. -/
def neverCalled : List (ObjectAction Nat) :=
  [.active (.executeFunction 1 (some 10)), .addFdHandlerFails, .active (.write 1),
    .active (.executeFunction 1 (some 20)), .active (.write 1),
    .active (.releaseOnClient 1), .active (.write 1), .joinReturns]

theorem neverCalled_dropped : ∃ history : List (ObjectOutput Nat),
    scheduledFuncs (activeHistory history) = [10, 20] ∧
      calledFuncs (activeHistory history) = [] := by
  obtain ⟨steps, history, s, run, hFailed, hScheduled⟩ : ∃ steps history s,
      (objectSystem Nat).Run steps history s ∧ .notRegistered ∈ history ∧
        scheduledFuncs (activeHistory history) = [10, 20] :=
    ⟨_, _, _, run_of_replay (⟨.start 0, 5, true⟩ : ActiveObjectImpl Nat) neverCalled
      ⟨0, 5, rfl⟩ rfl, by simp, rfl⟩
  exact ⟨history, hScheduled, (run_unregistered_calls_nothing run hFailed).2.1⟩

end ActiveObject
end UtilsFramework
