import UtilsFramework.ActiveObject.Refinement

/-!
# What is scheduled wakes the thread

A function is announced by the `write` behind `enqueueFunction` and claimed by the
`read` in front of `dequeueFunction`.  However `run()` is nested, only the innermost
activation can be between `read` and `dequeueFunction`, and so the counter of the
eventfd keeps pace with the queue.

On the event loop this means that the thread never sleeps on a function somebody has
scheduled: the eventfd is registered and readable, and the thread needs nobody to
call everything in the queue.
-/

namespace UtilsFramework
namespace ActiveObject

open Library
open Library.Epoll
open Library.TransitionSystem
open EventLoop (EventLoopImpl LoopThread RunPhase fdEventIn)

variable {UserCallback EventHandlerFunc Func : Type}

/-! ## The balance of queue and counter -/

namespace ActiveObjectThread

variable {s t : ActiveObjectThread Func} {action : Action Func} {new : List (Output Func)}

/-- As long as the object exists, each function in the queue has been announced, is
about to be, or is claimed by the innermost activation. -/
def Balanced (s : ActiveObjectThread Func) : Prop :=
  s.lifecycle ≠ .detached →
    s.funcQueue.length = s.eventFd + s.scheduling.length + s.betweenReadAndDequeue

theorem betweenReadAndDequeue_of_settled (hSettled : ∀ frame ∈ s.stack, settled frame) :
    s.betweenReadAndDequeue = 0 := by
  unfold betweenReadAndDequeue
  split
  · rename_i hStack
    exact (hSettled (.handleFdEvent .dequeuing) (by simp [hStack])).elim
  · rfl

/-- The steps of the loop begin and end outside of `read` and `dequeueFunction`, also
where `run()` is entered again. -/
theorem LoopMoves.claims_nothing (moves : LoopMoves s action t) (hStacked : s.Stacked) :
    s.betweenReadAndDequeue = 0 ∧ t.betweenReadAndDequeue = 0 := by
  cases moves with
  | registered hPhase =>
      have hStack := hStacked.stack_eq_nil (by simp [hPhase])
      simp [betweenReadAndDequeue, hStack]
  | entered hUser =>
      have hSettled := hStacked.settled_of_userCodeRuns hUser
      exact ⟨betweenReadAndDequeue_of_settled hSettled, rfl⟩
  | waited hTop | skipped hTop | dispatched hTop | calledEmpty hTop | stopped hTop
  | functionReturned hTop => simp [betweenReadAndDequeue, hTop]
  | handlerReturned hTop =>
      refine ⟨by simp [betweenReadAndDequeue, hTop], ?_⟩
      exact betweenReadAndDequeue_of_settled (hStacked.below_settled hTop)
  | leftNested hTop =>
      refine ⟨by simp [betweenReadAndDequeue, hTop], ?_⟩
      exact betweenReadAndDequeue_of_settled (hStacked.below_settled hTop)

theorem Moves.balanced (moves : Moves s action t new) (hStacked : s.Stacked)
    (balanced : s.Balanced) : t.Balanced := by
  intro hAlive
  cases moves with
  | scheduled =>
      have hBefore := balanced hAlive
      simp only [enqueueFunction, List.length_append, List.length_cons, List.length_nil]
      change _ = _ + _ + s.betweenReadAndDequeue
      omega
  | @wrote thread hThread =>
      have hBefore := balanced hAlive
      have hSome := List.length_pos_of_mem hThread
      simp only [writeOne, List.length_erase_of_mem hThread]
      change _ = _ + _ + s.betweenReadAndDequeue
      omega
  | looped moves =>
      obtain ⟨hQueue, hCounter, hScheduling, hLifecycle⟩ := moves.sides_eq
      obtain ⟨hBefore, hAfter⟩ := moves.claims_nothing hStacked
      have hBalance := balanced (hLifecycle ▸ hAlive)
      rw [hQueue, hCounter, hScheduling, hAfter, hBalance, hBefore]
  | read hTop hCounter =>
      have hBefore := balanced hAlive
      simp only [betweenReadAndDequeue, hTop] at hBefore ⊢
      omega
  | dequeued hTop hQueue =>
      have hBefore := balanced hAlive
      simp only [betweenReadAndDequeue, hTop, hQueue, List.length_cons] at hBefore ⊢
      omega
  | foundEmpty hTop hQueue =>
      -- a claim stands for a function
      have hBefore := balanced hAlive
      simp [betweenReadAndDequeue, hTop, hQueue] at hBefore
  | called hTop =>
      have hBefore := balanced hAlive
      simp only [betweenReadAndDequeue, hTop] at hBefore ⊢
      exact hBefore
  | left hTop =>
      have hBefore := balanced hAlive
      simp only [betweenReadAndDequeue, hTop] at hBefore ⊢
      exact hBefore
  | releasedOnClient hShared =>
      have hBefore := balanced (by simp [hShared])
      simp only [enqueueFunction, List.length_append, List.length_cons, List.length_nil]
      change _ = _ + _ + s.betweenReadAndDequeue
      omega
  | releasedOnAoThread => exact absurd rfl hAlive

/-- `mainFunction` does not return twice. -/
theorem Moves.phase_left (moves : Moves s action t new) (hLeft : s.phase = .left) :
    t.phase = .left := by
  cases moves with
  | looped moves =>
      cases moves with
      | registered hPhase => simp [hLeft] at hPhase
      | entered hUser => simp [userCodeRuns, hLeft] at hUser
      | _ => exact hLeft
  | left => rfl
  | _ => exact hLeft

/-- What holds of the thread until `mainFunction` returns. -/
structure Announced (s : ActiveObjectThread Func) : Prop where
  stacked : s.Stacked
  stage : s.phase ≠ .left → s.Stage
  balanced : s.phase ≠ .left → s.Balanced

theorem announced_start (aoThread : ThreadId) :
    (start aoThread : ActiveObjectThread Func).Announced := by
  have terminates : (start aoThread : ActiveObjectThread Func).Terminates [] :=
    terminates_start aoThread
  exact ⟨terminates.stacked, fun _ => terminates.stage, fun _ _ => rfl⟩

theorem Announced.step (announced : s.Announced) (moves : Moves s action t new) :
    t.Announced where
  stacked := moves.stacked announced.stacked
  stage := fun hPhase =>
    moves.stage (announced.stage fun hLeft => hPhase (moves.phase_left hLeft)) announced.stacked
  balanced := fun hPhase => moves.balanced announced.stacked
    (announced.balanced fun hLeft => hPhase (moves.phase_left hLeft))

end ActiveObjectThread

theorem announced_of_run {steps : List (ActiveObjectImpl Func × ObjectAction Func)}
    {history : List (ObjectOutput Func)} {object : ActiveObjectImpl Func}
    (run : (objectSystem Func).Run steps history object) : object.aoThread.Announced := by
  refine run.invariant_of_all (fun _ object => object.aoThread.Announced) ?_ ?_
  · rintro object ⟨aoThread, eventFd, hCreate⟩
    unfold ActiveObjectImpl.create at hCreate
    split at hCreate
    · cases hCreate
    · obtain rfl := Option.some.inj hCreate
      exact ActiveObjectThread.announced_start aoThread
  · intro history object action t new announced hStep
    cases ActiveObjectImpl.moves_of_step hStep with
    | released moves => exact announced.step moves
    | active _ moves => exact announced.step moves
    | notRegistered hPhase =>
        have hStack := announced.stacked.stack_eq_nil (by simp [hPhase])
        exact ⟨⟨by simp [hStack], by simp [hStack]⟩, by simp, by simp⟩
    | joined _ _ hLeft =>
        exact ⟨announced.stacked.of_same rfl rfl, fun hPhase => absurd hLeft hPhase,
          fun hPhase => absurd hLeft hPhase⟩

/-! ## The thread on its own -/

/-- The functions called in a history. -/
def calledIn (history : List (HostedOutput UserCallback EventHandlerFunc Func)) : List Func :=
  calledFuncs (activeHistory (history.filterMap objectOutput))

@[simp]
theorem calledIn_nil :
    calledIn ([] : List (HostedOutput UserCallback EventHandlerFunc Func)) = [] := rfl

@[simp]
theorem calledIn_append (history new : List (HostedOutput UserCallback EventHandlerFunc Func)) :
    calledIn (history ++ new) = calledIn history ++ calledIn new := by
  rw [calledIn, List.filterMap_append, activeHistory_append, calledFuncs_append]
  rfl

@[simp]
theorem calledIn_loop (new : List (EventLoop.Output (Callback UserCallback) EventHandlerFunc)) :
    calledIn (new.map HostedOutput.loop :
      List (HostedOutput UserCallback EventHandlerFunc Func)) = [] := by
  rw [calledIn, filterMap_objectOutput_loop]
  rfl

/-- A step of the thread in which the users do nothing but return. -/
def HostedAction.unaided : HostedAction UserCallback EventHandlerFunc Func → Bool
  | .loop .userReturns | .loop .proceed | .loop (.epollWaitReturns (.events _)) => true
  | .read | .dequeueFunction | .call _ | .functionReturns => true
  | _ => false

namespace HostedObject

variable {s t u : HostedObject UserCallback EventHandlerFunc Func}

theorem undisturbed_of_unaided {action : HostedAction UserCallback EventHandlerFunc Func}
    (hUnaided : action.unaided = true) : s.undisturbed action = true := by
  cases action with
  | loop action =>
      cases action with
      | userReturns | proceed => rfl
      | epollWaitReturns result =>
          cases result with
          | events => rfl
          | interrupted | failed => cases hUnaided
      | call | run | signalStop => cases hUnaided
  | _ => rfl

/-- The thread gets on its own from one state to another and calls `called` meanwhile. -/
def GetsTo (s t : HostedObject UserCallback EventHandlerFunc Func) (called : List Func) : Prop :=
  ∃ later after,
    ((hostedSystem UserCallback EventHandlerFunc Func).startingAt s).Run later after t ∧
    EveryStep (fun _ action => action.unaided = true) later ∧ calledIn after = called

theorem GetsTo.refl (s : HostedObject UserCallback EventHandlerFunc Func) : s.GetsTo s [] :=
  ⟨[], [], .start rfl, everyStep_nil _, rfl⟩

theorem GetsTo.next {called : List Func} (gets : s.GetsTo t called)
    {action : HostedAction UserCallback EventHandlerFunc Func} (hUnaided : action.unaided = true)
    {new : List (HostedOutput UserCallback EventHandlerFunc Func)}
    (hStep : t.step action = some (u, new)) : s.GetsTo u (called ++ calledIn new) := by
  obtain ⟨later, after, run, hLater, rfl⟩ := gets
  exact ⟨_, _, run.next hStep, everyStep_append_singleton.mpr ⟨hLater, hUnaided⟩,
    calledIn_append after new⟩

theorem GetsTo.trans {before after : List Func} (gets : s.GetsTo t before)
    (onward : t.GetsTo u after) : s.GetsTo u (before ++ after) := by
  obtain ⟨earlier, history, run, hEarlier, rfl⟩ := gets
  obtain ⟨later, new, next, hLater, rfl⟩ := onward
  exact ⟨_, _, Run.followed run next, List.forall_mem_append.mpr ⟨hEarlier, hLater⟩,
    calledIn_append history new⟩

/-- A step of the loop inside `run()`. -/
theorem step_loop {action : EventLoop.Action (Callback UserCallback) EventHandlerFunc}
    {next : LoopThread (Callback UserCallback) EventHandlerFunc}
    {new : List (EventLoop.Output (Callback UserCallback) EventHandlerFunc)}
    (hPhase : t.phase = .looping) (hMay : t.mayStep action = true)
    (hNext : t.host.step action = some (next, new)) (hBusy : next.stack ≠ []) :
    t.step (.loop action) =
      some ({ t with host := next, activations := t.activationsAfter action new },
        new.map .loop) := by
  simp [step, hPhase, hMay, hNext, afterLoop, hBusy]

theorem mayStep_proceed (hFree : t.aoThreadFree = true) : t.mayStep .proceed = true := hFree

/-- `proceed` of the loop that calls nothing. -/
theorem GetsTo.proceeds {called : List Func} (gets : s.GetsTo t called)
    (hPhase : t.phase = .looping) (hFree : t.aoThreadFree = true)
    {next : LoopThread (Callback UserCallback) EventHandlerFunc}
    {new : List (EventLoop.Output (Callback UserCallback) EventHandlerFunc)}
    (hNext : t.host.step .proceed = some (next, new)) (hBusy : next.stack ≠ [])
    (hActivations : t.activationsAfter .proceed new = t.activations) :
    s.GetsTo { t with host := next } called := by
  have hStep := step_loop hPhase (mayStep_proceed hFree) hNext hBusy
  rw [hActivations] at hStep
  simpa using gets.next rfl hStep

/-- User code returns into the loop. -/
theorem GetsTo.userReturns {called : List Func} (gets : s.GetsTo t called)
    (hPhase : t.phase = .looping) (hFree : t.aoThreadFree = true)
    (hUser : t.userCodeRuns = true) (hFunction : t.functionRuns = false)
    {next : LoopThread (Callback UserCallback) EventHandlerFunc}
    (hNext : t.host.step .userReturns = some (next, [])) (hBusy : next.stack ≠ []) :
    s.GetsTo { t with host := next, activations := t.activationsAfter .userReturns [] }
      called := by
  have hMay : t.mayStep .userReturns = true := by simp [mayStep, hUser, hFunction, hFree]
  simpa using gets.next rfl (step_loop hPhase hMay hNext hBusy)

/-- `executeScheduledEvents` comes to its end. -/
theorem GetsTo.drains {called : List Func} {below : List (EventLoop.Frame EventHandlerFunc)}
    (gets : s.GetsTo t called) (hPhase : t.phase = .looping) (hFree : t.aoThreadFree = true)
    (hStack : t.host.stack = .executeScheduledEvents :: below) (hBelow : below ≠ []) :
    s.GetsTo { t with host := ⟨{ t.host.loop with scheduledEvents := [] }, below⟩ } called := by
  generalize hEvents : t.host.loop.scheduledEvents = events
  induction events generalizing t with
  | nil =>
      have hNext : t.host.step .proceed = some (⟨t.host.loop, below⟩, []) := by
        simp [LoopThread.step, hStack, LoopThread.proceedScheduledEvents, hEvents]
      have hSame : { t.host.loop with scheduledEvents := [] } = t.host.loop := by rw [← hEvents]
      rw [hSame]
      refine gets.proceeds hPhase hFree hNext hBelow ?_
      simp [activationsAfter]
  | cons eventHandler rest ih =>
      let calling : LoopThread (Callback UserCallback) EventHandlerFunc :=
        ⟨{ t.host.loop with scheduledEvents := rest },
          .eventHandler eventHandler :: .executeScheduledEvents :: below⟩
      have hNext : t.host.step .proceed = some (calling, [.executed eventHandler]) := by
        simp [calling, LoopThread.step, hStack, LoopThread.proceedScheduledEvents, hEvents]
      have executes : s.GetsTo { t with host := calling } called :=
        gets.proceeds hPhase hFree hNext (by simp [calling]) (by simp [activationsAfter])
      have returns : s.GetsTo
          { t with host := ⟨calling.loop, .executeScheduledEvents :: below⟩ } called :=
        executes.userReturns hPhase hFree (by simp [userCodeRuns, calling, hPhase]) rfl rfl
          (by simp)
      have drained := ih returns hPhase hFree rfl rfl
      exact drained

/-- Behind the last event of a batch `run()` goes to wait again. -/
theorem GetsTo.waits {called : List Func} {below : List (EventLoop.Frame EventHandlerFunc)}
    (gets : s.GetsTo t called) (hPhase : t.phase = .looping) (hFree : t.aoThreadFree = true)
    (hStack : t.host.stack = .run (.handling []) :: below)
    (hRunning : t.host.loop.isRunning = true) (hHandlers : t.host.loop.fdHandlers.entries ≠ []) :
    s.GetsTo { t with
      host := ⟨{ t.host.loop with removedFdHandlers := ∅ }, .run .waiting :: below⟩ } called := by
  have tests : s.GetsTo { t with host := ⟨t.host.loop, .run .testing :: below⟩ } called :=
    gets.proceeds hPhase hFree (by rw [LoopThread.step, hStack]; rfl) (by simp)
      (by simp [activationsAfter])
  have hGoesOn : LoopThread.step (⟨t.host.loop, .run .testing :: below⟩ :
      LoopThread (Callback UserCallback) EventHandlerFunc) .proceed =
      some (⟨t.host.loop, .run .clearing :: below⟩, []) := by
    simp [LoopThread.step, LoopThread.proceedRun, hRunning, hHandlers]
  have clears := tests.proceeds hPhase hFree hGoesOn (by simp) (by simp [activationsAfter])
  have calls := clears.proceeds hPhase hFree rfl (by simp) (by simp [activationsAfter])
  exact calls.proceeds hPhase hFree rfl (by simp) (by simp [activationsAfter])

/-- A step of `handleFdEvent`. -/
theorem GetsTo.activation {called : List Func} (gets : s.GetsTo t called)
    (hFree : t.aoThreadFree = true) {object : EventLoop.ObjectId}
    {stack : List (EventLoop.Frame EventHandlerFunc)} {phase : HandlerPhase Func}
    {activations : List (Option (HandlerPhase Func))}
    (hStack : t.host.stack = .callback object :: stack)
    (hTop : t.activations = some phase :: activations)
    {action : HostedAction UserCallback EventHandlerFunc Func} (hUnaided : action.unaided = true)
    (hOwn : ∀ other, action ≠ .loop other)
    {new : List (HostedOutput UserCallback EventHandlerFunc Func)}
    (hStep : t.handleFdEventStep activations phase action = some (u, new)) :
    s.GetsTo u (called ++ calledIn new) := by
  have hActivation : t.activationStep action = some (u, new) := by
    rw [activationStep, hStack, hTop]
    exact hStep
  refine gets.next hUnaided ?_
  cases action with
  | loop other => exact absurd rfl (hOwn other)
  | read | dequeueFunction | call | functionReturns =>
      exact (if_pos hFree).trans hActivation
  | _ => cases hUnaided

/-- `handleFdEvent` takes the first function and calls it. -/
theorem GetsTo.handles {called : List Func} (gets : s.GetsTo t called)
    (hFree : t.aoThreadFree = true) {object : EventLoop.ObjectId}
    {stack : List (EventLoop.Frame EventHandlerFunc)}
    {activations : List (Option (HandlerPhase Func))} {func : AOFunc Func}
    {rest : List (AOFunc Func)} (hStack : t.host.stack = .callback object :: stack)
    (hReading : t.activations = some .reading :: activations) (hCounter : 0 < t.counter)
    (hQueue : t.funcQueue = func :: rest) (hFunc : func ≠ .stopEventLoop) :
    s.GetsTo { t with
      counter := t.counter - 1
      funcQueue := rest
      activations := some .finishing :: activations } (called ++ clientFuncs [func]) := by
  let handling (phase : HandlerPhase Func) (queue : List (AOFunc Func)) :
      HostedObject UserCallback EventHandlerFunc Func :=
    { t with
      counter := t.counter - 1
      funcQueue := queue
      activations := some phase :: activations }
  have reads : s.GetsTo (handling .dequeuing t.funcQueue) called := by
    have hRead : t.handleFdEventStep activations .reading .read =
        some (handling .dequeuing t.funcQueue, []) := if_pos hCounter
    simpa using gets.activation hFree hStack hReading rfl (by simp) hRead
  have dequeues : s.GetsTo (handling (.calling func) rest) called := by
    have hDequeue : (handling .dequeuing t.funcQueue).handleFdEventStep activations .dequeuing
        .dequeueFunction =
        some (handling (.calling func) rest, [.object (.active (.dequeued func))]) := by
      simp [handling, handleFdEventStep, dequeueFunction, hQueue]
    have dequeued := reads.activation hFree hStack rfl rfl (by simp) hDequeue
    exact (List.append_nil called) ▸ dequeued
  have calls : ∀ {phase new}, (handling (.calling func) rest).handleFdEventStep activations
      (.calling func) (.call ⟨-1, true⟩) = some (handling phase rest, new) →
      s.GetsTo (handling phase rest) (called ++ calledIn new) :=
    dequeues.activation hFree hStack rfl rfl (by simp)
  cases func with
  | stopEventLoop => exact absurd rfl hFunc
  | empty => exact calls rfl
  | function func =>
      have hReturn : (handling .running rest).handleFdEventStep activations .running
          .functionReturns = some (handling .finishing rest, []) := rfl
      have returned := (calls rfl).activation hFree hStack rfl rfl (by simp) hReturn
      rwa [calledIn_nil, List.append_nil] at returned

/-- The thread waits in `run()`, with the eventfd registered. -/
structure Listens (s : HostedObject UserCallback EventHandlerFunc Func)
    (below : List (EventLoop.Frame EventHandlerFunc)) : Prop where
  looping : s.phase = .looping
  waiting : s.host.stack = .run .waiting :: below
  running : s.host.loop.isRunning = true
  separated : s.host.loop.Separated []
  watches : s.host.loop.WatchesIn s.eventFd .handleFdEvent
  opened : s.eventFdOpen = true

/-- From one `epoll_wait` to the next. -/
theorem Listens.getsTo {below : List (EventLoop.Frame EventHandlerFunc)}
    (listens : s.Listens below) (hFree : s.aoThreadFree = true) (hCounter : 0 < s.counter)
    {func : AOFunc Func} {rest : List (AOFunc Func)} (hQueue : s.funcQueue = func :: rest)
    (hFunc : func ≠ .stopEventLoop) :
    ∃ t, s.GetsTo t (clientFuncs [func]) ∧ t.funcQueue = rest ∧
      t.scheduling = s.scheduling ∧ t.host.stack = .run .waiting :: below := by
  obtain ⟨object, hInterest, hReports, hCalls⟩ :=
    LoopThread.dispatches_watched listens.waiting listens.separated listens.watches
  have hReported : s.eventFdReported [⟨epollIn, object⟩] = true := by
    have hSome : epollIn ≠ 0#32 := by decide
    simp [eventFdReported, listens.opened, hInterest, hCounter, hSome]
  have hMay : s.mayStep (.epollWaitReturns (.events [⟨epollIn, object⟩])) = true := by
    simp [mayStep, hReported, hFree]
  have reported := (GetsTo.refl s).next rfl (step_loop listens.looping hMay hReports (by simp))
  have dispatched := reported.next rfl
    (step_loop listens.looping (mayStep_proceed hFree) hCalls (by simp))
  have handled := dispatched.handles hFree rfl rfl hCounter hQueue hFunc
  have returned := handled.userReturns listens.looping hFree
    (by simp [userCodeRuns, listens.looping]) rfl rfl (by simp)
  have drained := returned.drains listens.looping hFree rfl (by simp)
  have hHandlers : s.host.loop.fdHandlers.entries ≠ [] := by
    obtain ⟨handler, hFound, -⟩ := listens.watches
    intro hNone
    simp [AList.lookup, hNone] at hFound
  have waits := drained.waits listens.looping hFree rfl listens.running hHandlers
  rw [calledIn_loop, calledIn_loop] at waits
  exact ⟨_, waits, rfl, rfl, rfl⟩

end HostedObject

section

variable
  {steps : List (HostedObject UserCallback EventHandlerFunc Func ×
    HostedAction UserCallback EventHandlerFunc Func)}
  {history : List (HostedOutput UserCallback EventHandlerFunc Func)}
  {s : HostedObject UserCallback EventHandlerFunc Func}
  {below : List (EventLoop.Frame EventHandlerFunc)}

/-- A thread that waits while there is something in the queue can be woken up. -/
theorem listens_of_run
    (run : (hostedSystem UserCallback EventHandlerFunc Func).Run steps history s)
    (hUndisturbed : EveryStep (fun s action => s.undisturbed action = true) steps)
    (hWaiting : s.host.stack = .run .waiting :: below) (hIdle : s.scheduling = [])
    (hSome : s.funcQueue ≠ []) :
    s.counter = s.funcQueue.length ∧ s.Listens below := by
  obtain ⟨followed, object, abstractRun, stack, isRunning, registered, rfl, hosts⟩ :=
    followed_of_run run hUndisturbed
  have announced := announced_of_run abstractRun
  cases hosts with
  | starting _ hHost => simp [hHost] at hWaiting
  | initializing _ hStack => simp [hStack] at hWaiting
  | left _ hStack => simp [hStack] at hWaiting
  | looping hPhase _ carries loops =>
      have hFrames := loops.frames
      rw [hWaiting] at hFrames
      obtain ⟨pending, rest, rfl, -⟩ := hFrames.of_run
      have hNotLeft : s.phase ≠ .left := by simp [hPhase]
      have hStarted : s.phase ≠ .starting := by simp [hPhase]
      obtain ⟨hAlive, rfl⟩ : s.lifecycle ≠ .detached ∧ registered = true := by
        cases announced.stage hNotLeft with
        | serving hShared hServing =>
            have hLifecycle : s.lifecycle = .shared := hShared
            exact ⟨by simp [hLifecycle], hServing.registered hStarted⟩
        | stopping _ hJoining hServing =>
            have hLifecycle : s.lifecycle = .joining := hJoining
            exact ⟨by simp [hLifecycle], hServing.registered hStarted⟩
        | ended _ hEmpty => exact absurd hEmpty hSome
      obtain ⟨watches, hOpen⟩ := carries.monitored rfl
      refine ⟨?_, hPhase, hWaiting, ?_, carries.separated.mono (by simp), watches, hOpen⟩
      · have hBalance : s.funcQueue.length = s.counter + s.scheduling.length + 0 :=
          announced.balanced hNotLeft hAlive
        simpa [hIdle] using hBalance.symm
      · -- only a loop that has not set it yet may find `m_isRunning` cleared
        rcases loops.steady rfl with hRunning | ⟨others, hEntered⟩
        · exact hRunning
        · simp [hWaiting] at hEntered

/-- Whenever the thread waits in `run()`, at whatever depth, and nobody is about to
`write`, it can call all functions in the queue up to `stopEventLoop`, in order and
without help, and wait again: the eventfd is readable for every single one. -/
theorem run_serves_queue
    (run : (hostedSystem UserCallback EventHandlerFunc Func).Run steps history s)
    (hUndisturbed : EveryStep (fun s action => s.undisturbed action = true) steps)
    (hWaiting : s.host.stack = .run .waiting :: below) (hIdle : s.scheduling = [])
    {served rest : List (AOFunc Func)} (hQueue : s.funcQueue = served ++ rest)
    (hServed : .stopEventLoop ∉ served) :
    ∃ t, s.GetsTo t (clientFuncs served) ∧ t.funcQueue = rest ∧
      t.host.stack = .run .waiting :: below := by
  induction served generalizing steps history s with
  | nil => exact ⟨s, .refl s, hQueue, hWaiting⟩
  | cons func others ih =>
      rw [List.mem_cons, not_or] at hServed
      have hSome : s.funcQueue ≠ [] := by simp [hQueue]
      obtain ⟨hCounter, listens⟩ := listens_of_run run hUndisturbed hWaiting hIdle hSome
      have hFree : s.aoThreadFree = true := by simp [HostedObject.aoThreadFree, hIdle]
      have hReadable : 0 < s.counter := by
        rw [hCounter]
        exact List.length_pos_of_ne_nil hSome
      obtain ⟨t, gets, hLeft, hScheduling, hAgain⟩ :=
        listens.getsTo hFree hReadable hQueue (Ne.symm hServed.1)
      obtain ⟨later, after, onward, hUnaided, -⟩ := id gets
      have hStill : EveryStep (fun s action => s.undisturbed action = true) (steps ++ later) :=
        List.forall_mem_append.mpr ⟨hUndisturbed, fun visited hVisited =>
          HostedObject.undisturbed_of_unaided (hUnaided visited hVisited)⟩
      obtain ⟨last, getsLast, hRest, hWaits⟩ := ih (run.followed onward) hStill hAgain
        (hScheduling.trans hIdle) hLeft hServed.2
      refine ⟨last, ?_, hRest, hWaits⟩
      rw [← List.singleton_append, clientFuncs_append]
      exact gets.trans getsLast

end

/-- A function waits in a `run()` of its own, and three more are scheduled. -/
def waitsInside : List (HostedAction Nat Nat Nat) :=
  [.addFdHandler ⟨3, true⟩, .enterRun, .loop .proceed, .loop .proceed, .loop .proceed,
    .loop .proceed, .executeFunction 1 (some 10), .write 1,
    .loop (.epollWaitReturns (.events [⟨epollIn, 0⟩])), .loop .proceed, .read,
    .dequeueFunction, .call ⟨3, true⟩, .loop (.run 0), .loop .proceed, .loop .proceed,
    .loop .proceed, .loop .proceed, .executeFunction 1 (some 20), .executeFunction 2 none,
    .write 2, .executeFunction 2 (some 30), .write 1, .write 2]

/-- They are called inside of it. -/
theorem waitsInside_serves : ∃ s t : HostedObject Nat Nat Nat,
    s.host.stack = [.run .waiting, .callback 0, .executeScheduledEvents, .run (.handling [])] ∧
      s.GetsTo t [20, 30] ∧ t.funcQueue = [] ∧ t.host.stack = s.host.stack := by
  obtain ⟨steps, history, s, run, hUndisturbed, hWaiting, hIdle, hQueue⟩ :
      ∃ steps history s, (hostedSystem Nat Nat Nat).Run steps history s ∧
        EveryStep (fun s action => s.undisturbed action = true) steps ∧
        s.host.stack =
          [.run .waiting, .callback 0, .executeScheduledEvents, .run (.handling [])] ∧
        s.scheduling = [] ∧ s.funcQueue = [.function 20, .empty, .function 30] ++ [] :=
    ⟨_, _, _, run_of_replay (⟨⟨.construct 0, []⟩, [], .starting, [], 0, [], .shared, 5, true⟩ :
      HostedObject Nat Nat Nat) waitsInside ⟨0, 5, rfl⟩ rfl, by decide, rfl, rfl, rfl⟩
  obtain ⟨t, gets, hEmpty, hAgain⟩ :=
    run_serves_queue run hUndisturbed hWaiting hIdle hQueue (by simp)
  exact ⟨s, t, hWaiting, gets, hEmpty, hAgain.trans hWaiting.symm⟩

end ActiveObject
end UtilsFramework
