import UtilsFramework.ActiveObject.Thread
import UtilsFramework.Library.AnnouncedQueue

/-!
# The queue and the eventfd

The Active Object is a queue announced through a semaphore: `enqueueFunction`
and `write` are the two halves of a producer, `read` and `dequeueFunction` those
of the consumer.  While `run()` is not entered again, a step of the one is a step
of the other, and the balance that an `AnnouncedQueue` carries says that the
length of `m_funcQueue` is the counter of the eventfd, plus the producers about
to `write`, plus one between `read` and `dequeueFunction`.

A `read` does not block, because the eventfd was readable when `epoll_wait`
reported it and nobody else reads it before the event is handled.
-/

namespace UtilsFramework
namespace ActiveObject

open Library
open Library.TransitionSystem

variable {Func : Type}

/-- The functions enqueued, in the order of the mutex. -/
def enqueuedFuncs (history : List (Output Func)) : List (AOFunc Func) :=
  history.filterMap fun output =>
    match output with
    | .enqueued func => some func
    | _ => none

/-- The functions taken from the queue, in order. -/
def dequeuedFuncs (history : List (Output Func)) : List (AOFunc Func) :=
  history.filterMap fun output =>
    match output with
    | .dequeued func => some func
    | _ => none

theorem enqueuedFuncs_append (history new : List (Output Func)) :
    enqueuedFuncs (history ++ new) = enqueuedFuncs history ++ enqueuedFuncs new :=
  List.filterMap_append

theorem dequeuedFuncs_append (history new : List (Output Func)) :
    dequeuedFuncs (history ++ new) = dequeuedFuncs history ++ dequeuedFuncs new :=
  List.filterMap_append

/-- `run()` is not called while it runs. -/
def NoReentry (s : ActiveObjectThread Func) : Action Func → Prop
  | .run => s.phase ≠ .looping
  | _ => True

instance (s : ActiveObjectThread Func) (action : Action Func) :
    Decidable (NoReentry s action) :=
  match action with
  | .run => inferInstanceAs (Decidable (s.phase ≠ .looping))
  | .executeFunction _ _ | .write _ | .addFdHandler | .epollWaitReturns _
  | .handleEpollEvent | .read | .dequeueFunction | .call | .functionReturns
  | .handleFdEventReturns | .leaveRun | .releaseOnClient _ | .releaseOnAoThread =>
      isTrue trivial

namespace ActiveObjectThread

/-- One while the thread of the Active Object is between `read` and
`dequeueFunction`. -/
def betweenReadAndDequeue (s : ActiveObjectThread Func) : Nat :=
  match s.stack with
  | .handleFdEvent .dequeuing :: _ => 1
  | _ => 0

/-- At most one `run()`, with at most one activation of `handleFdEvent`. -/
inductive Flat (s : ActiveObjectThread Func) : Prop
  | outside (hPhase : s.phase ≠ .looping) (hStack : s.stack = [])
  | between {eventPending : Bool} (hPhase : s.phase = .looping)
      (hStack : s.stack = [.run eventPending])
  | handling {phase : HandlerPhase Func} (hPhase : s.phase = .looping)
      (hStack : s.stack = [.handleFdEvent phase, .run false])

/-- An event still to be handled and a `read` about to be made have their token. -/
structure TokenReady (s : ActiveObjectThread Func) : Prop where
  pending : s.stack = [.run true] → s.registered = true → 0 < s.eventFd
  reading : ∀ below, s.stack = .handleFdEvent .reading :: below → 0 < s.eventFd

/-- The announced queue that the Active Object is. -/
structure Announces (history : List (Output Func)) (s : ActiveObjectThread Func)
    (queue : AnnouncedQueue (AOFunc Func)) : Prop where
  items_eq : queue.items = s.funcQueue
  tokens_eq : queue.tokens = s.eventFd
  unannounced_eq : queue.unannounced = s.scheduling.length
  claimed_eq : queue.claimed = s.betweenReadAndDequeue
  put_eq : queue.put = enqueuedFuncs history
  taken_eq : queue.taken = dequeuedFuncs history

/-- After the destructor on the thread of the Active Object nothing is left. -/
structure Destroyed (s : ActiveObjectThread Func) : Prop where
  noQueue : s.funcQueue = []
  noToken : s.eventFd = 0
  noProducer : s.scheduling = []
  noClaim : s.betweenReadAndDequeue = 0

variable {s t : ActiveObjectThread Func} {action : Action Func}
  {history new : List (Output Func)}

/-! ## The stack -/

theorem Flat.below_run (hFlat : s.Flat) {eventPending : Bool} {below : List (Frame Func)}
    (hTop : s.stack = .run eventPending :: below) :
    s.phase = .looping ∧ below = [] := by
  cases hFlat with
  | outside _ hStack => simp [hStack] at hTop
  | between hPhase hStack =>
      exact ⟨hPhase, (List.cons.inj (hStack.symm.trans hTop)).2.symm⟩
  | handling _ hStack => simp [hStack] at hTop

theorem Flat.below_handleFdEvent (hFlat : s.Flat) {phase : HandlerPhase Func}
    {below : List (Frame Func)} (hTop : s.stack = .handleFdEvent phase :: below) :
    s.phase = .looping ∧ below = [.run false] := by
  cases hFlat with
  | outside _ hStack => simp [hStack] at hTop
  | between _ hStack => simp [hStack] at hTop
  | handling hPhase hStack =>
      exact ⟨hPhase, (List.cons.inj (hStack.symm.trans hTop)).2.symm⟩

theorem Flat.stack_eq_nil (hFlat : s.Flat) (hPhase : s.phase ≠ .looping) :
    s.stack = [] := by
  cases hFlat with
  | outside _ hStack => exact hStack
  | between hLoop _ => exact absurd hLoop hPhase
  | handling hLoop _ => exact absurd hLoop hPhase

/-- User code runs on the thread of the Active Object only once `handleFdEvent`
has called its function. -/
theorem Flat.userCode_phase (hFlat : s.Flat) (hUser : s.userCodeRuns = true)
    {phase : HandlerPhase Func} {below : List (Frame Func)}
    (hTop : s.stack = .handleFdEvent phase :: below) :
    phase = .running ∨ phase = .finishing := by
  have hLooping := (hFlat.below_handleFdEvent hTop).1
  cases phase with
  | running => exact Or.inl rfl
  | finishing => exact Or.inr rfl
  | reading | dequeuing | calling =>
      simp only [userCodeRuns, hLooping, hTop] at hUser
      cases hUser

theorem Flat.of_same (hFlat : s.Flat) (hPhase : t.phase = s.phase)
    (hStack : t.stack = s.stack) : t.Flat := by
  cases hFlat with
  | outside hOld hTop => exact .outside (hPhase ▸ hOld) (hStack.trans hTop)
  | between hOld hTop => exact .between (hPhase.trans hOld) (hStack.trans hTop)
  | handling hOld hTop => exact .handling (hPhase.trans hOld) (hStack.trans hTop)

theorem flat_start (aoThread : ThreadId) :
    (start aoThread : ActiveObjectThread Func).Flat :=
  .outside (by simp [start]) rfl

theorem LoopMoves.flat (hFlat : s.Flat) (hEntry : NoReentry s action)
    (moves : LoopMoves s action t) : t.Flat := by
  cases moves with
  | registered hPhase =>
      exact .outside (by simp) (hFlat.stack_eq_nil (by simp [hPhase]))
  | entered => exact .between rfl (by rw [hFlat.stack_eq_nil hEntry])
  | waited hTop =>
      obtain ⟨hPhase, rfl⟩ := hFlat.below_run hTop
      exact .between hPhase rfl
  | dispatched hTop =>
      obtain ⟨hPhase, rfl⟩ := hFlat.below_run hTop
      exact .handling hPhase rfl
  | skipped hTop =>
      obtain ⟨hPhase, rfl⟩ := hFlat.below_run hTop
      exact .between hPhase rfl
  | calledEmpty hTop =>
      obtain ⟨hPhase, rfl⟩ := hFlat.below_handleFdEvent hTop
      exact .handling hPhase rfl
  | stopped hTop =>
      obtain ⟨hPhase, rfl⟩ := hFlat.below_handleFdEvent hTop
      exact .handling hPhase rfl
  | functionReturned hTop =>
      obtain ⟨hPhase, rfl⟩ := hFlat.below_handleFdEvent hTop
      exact .handling hPhase rfl
  | handlerReturned hTop =>
      obtain ⟨hPhase, rfl⟩ := hFlat.below_handleFdEvent hTop
      exact .between hPhase rfl
  | leftNested hTop =>
      obtain ⟨-, hBelow⟩ := hFlat.below_run hTop
      cases hBelow

theorem Moves.flat (hFlat : s.Flat) (hEntry : NoReentry s action)
    (moves : Moves s action t new) : t.Flat := by
  cases moves with
  | scheduled => exact hFlat.of_same rfl rfl
  | wrote => exact hFlat.of_same rfl rfl
  | releasedOnClient => exact hFlat.of_same rfl rfl
  | releasedOnAoThread => exact hFlat.of_same rfl rfl
  | looped moves => exact moves.flat hFlat hEntry
  | left => exact .outside (by simp) rfl
  | read hTop _ =>
      obtain ⟨hPhase, rfl⟩ := hFlat.below_handleFdEvent hTop
      exact .handling hPhase rfl
  | dequeued hTop _ =>
      obtain ⟨hPhase, rfl⟩ := hFlat.below_handleFdEvent hTop
      exact .handling hPhase rfl
  | foundEmpty hTop _ =>
      obtain ⟨hPhase, rfl⟩ := hFlat.below_handleFdEvent hTop
      exact .handling hPhase rfl
  | called hTop =>
      obtain ⟨hPhase, rfl⟩ := hFlat.below_handleFdEvent hTop
      exact .handling hPhase rfl

/-- The steps of the loop begin and end outside of `read` and `dequeueFunction`. -/
theorem LoopMoves.betweenReadAndDequeue_eq (hFlat : s.Flat)
    (hEntry : NoReentry s action) (moves : LoopMoves s action t) :
    s.betweenReadAndDequeue = 0 ∧ t.betweenReadAndDequeue = 0 := by
  cases moves with
  | registered hPhase =>
      have hStack := hFlat.stack_eq_nil (by simp [hPhase])
      simp [betweenReadAndDequeue, hStack]
  | entered =>
      have hStack := hFlat.stack_eq_nil hEntry
      simp [betweenReadAndDequeue, hStack]
  | handlerReturned hTop =>
      obtain ⟨-, rfl⟩ := hFlat.below_handleFdEvent hTop
      simp [betweenReadAndDequeue, hTop]
  | leftNested hTop =>
      obtain ⟨-, hBelow⟩ := hFlat.below_run hTop
      cases hBelow
  | waited hTop | skipped hTop | dispatched hTop | calledEmpty hTop | stopped hTop
  | functionReturned hTop => simp [betweenReadAndDequeue, hTop]

/-- They leave the queue, the eventfd and the producers alone. -/
theorem LoopMoves.sides_eq (moves : LoopMoves s action t) :
    t.funcQueue = s.funcQueue ∧ t.eventFd = s.eventFd ∧
      t.scheduling = s.scheduling ∧ t.lifecycle = s.lifecycle := by
  cases moves <;> exact ⟨rfl, rfl, rfl, rfl⟩

/-! ## The tokens -/

theorem tokenReady_start (aoThread : ThreadId) :
    (start aoThread : ActiveObjectThread Func).TokenReady where
  pending := nofun
  reading := nofun

/-- A stack whose top neither holds the event nor is about to `read` needs no
token. -/
theorem TokenReady.of_stack (hPending : t.stack ≠ [.run true])
    (hReading : ∀ below, t.stack ≠ .handleFdEvent .reading :: below) : t.TokenReady where
  pending := fun hStack => absurd hStack hPending
  reading := fun below hStack => absurd hStack (hReading below)

/-- No token is lost while the stack is as before. -/
theorem TokenReady.of_same (hReady : s.TokenReady) (hStack : t.stack = s.stack)
    (hRegistered : t.registered = s.registered) (hCounter : s.eventFd ≤ t.eventFd) :
    t.TokenReady where
  pending := fun hTop hTrue =>
    Nat.lt_of_lt_of_le (hReady.pending (hStack ▸ hTop) (hRegistered ▸ hTrue)) hCounter
  reading := fun below hTop =>
    Nat.lt_of_lt_of_le (hReady.reading below (hStack ▸ hTop)) hCounter

theorem LoopMoves.tokenReady (hReady : s.TokenReady) (hFlat : s.Flat)
    (hEntry : NoReentry s action) (moves : LoopMoves s action t) : t.TokenReady := by
  cases moves with
  | registered hPhase =>
      have hStack := hFlat.stack_eq_nil (by simp [hPhase])
      exact .of_stack (by simp [hStack]) (by simp [hStack])
  | entered =>
      have hStack := hFlat.stack_eq_nil hEntry
      exact .of_stack (by simp [hStack]) (by simp)
  | waited _ hReadable =>
      -- `epoll_wait` reported the eventfd because it was readable
      refine ⟨fun hTop _ => ?_, nofun⟩
      obtain ⟨hTrue, -⟩ := List.cons.inj hTop
      exact (hReadable (Frame.run.inj hTrue)).2
  | dispatched hTop hRegistered =>
      obtain ⟨-, rfl⟩ := hFlat.below_run hTop
      exact ⟨nofun, fun _ _ => hReady.pending hTop hRegistered⟩
  | handlerReturned hTop =>
      obtain ⟨-, rfl⟩ := hFlat.below_handleFdEvent hTop
      exact .of_stack (by simp) (by simp)
  | leftNested hTop =>
      obtain ⟨-, hBelow⟩ := hFlat.below_run hTop
      cases hBelow
  | skipped | calledEmpty | stopped | functionReturned =>
      exact .of_stack (by simp) (by simp)

/-- Only the thread of the Active Object takes tokens, and it does so once for
each event. -/
theorem Moves.tokenReady (hReady : s.TokenReady) (hFlat : s.Flat)
    (hEntry : NoReentry s action) (moves : Moves s action t new) : t.TokenReady := by
  cases moves with
  | scheduled => exact hReady.of_same rfl rfl (Nat.le_refl _)
  | wrote => exact hReady.of_same rfl rfl (Nat.le_succ _)
  | looped moves => exact moves.tokenReady hReady hFlat hEntry
  | read | dequeued | foundEmpty | called | left => exact .of_stack (by simp) (by simp)
  | releasedOnClient => exact hReady.of_same rfl rfl (Nat.le_refl _)
  | releasedOnAoThread _ _ hUser =>
      -- the counter drops to zero, but user code never runs inside a `read`
      refine ⟨nofun, fun below hTop => ?_⟩
      rcases hFlat.userCode_phase hUser hTop with hPhase | hPhase
      · cases hPhase
      · cases hPhase

/-! ## The balance -/

theorem announces_start (aoThread : ThreadId) :
    Announces [] (start aoThread : ActiveObjectThread Func) .empty :=
  ⟨rfl, rfl, rfl, rfl, rfl, rfl⟩

/-- `enqueueFunction` is the first half of a producer. -/
theorem Announces.enqueued {queue : AnnouncedQueue (AOFunc Func)}
    (hAnnounces : Announces history s queue) {func : AOFunc Func} {thread : ThreadId}
    (hQueue : t.funcQueue = s.funcQueue ++ [func]) (hCounter : t.eventFd = s.eventFd)
    (hScheduling : t.scheduling = thread :: s.scheduling) (hStack : t.stack = s.stack) :
    Announces (history ++ [.enqueued func]) t (queue.enqueue func) where
  items_eq := by
    rw [hQueue, ← hAnnounces.items_eq]
    rfl
  tokens_eq := hAnnounces.tokens_eq.trans hCounter.symm
  unannounced_eq := by
    rw [hScheduling, List.length_cons, ← hAnnounces.unannounced_eq]
    rfl
  claimed_eq := by
    rw [betweenReadAndDequeue, hStack]
    exact hAnnounces.claimed_eq
  put_eq := by
    rw [enqueuedFuncs_append, ← hAnnounces.put_eq]
    rfl
  taken_eq := by
    rw [dequeuedFuncs_append, ← hAnnounces.taken_eq]
    exact (List.append_nil _).symm

/-- Both halves of the producers and both halves of the consumer are the steps
of an announced queue. -/
theorem Announces.step {queue : AnnouncedQueue (AOFunc Func)}
    (hAnnounces : Announces history s queue) (hFlat : s.Flat)
    (hEntry : NoReentry s action) (moves : Moves s action t new)
    (hAlive : t.lifecycle ≠ .detached) :
    ∃ queue', Announces (history ++ new) t queue' := by
  have hItems := hAnnounces.items_eq
  have hTokens := hAnnounces.tokens_eq
  have hUnannounced := hAnnounces.unannounced_eq
  have hClaimed := hAnnounces.claimed_eq
  have hPut := hAnnounces.put_eq
  have hTaken := hAnnounces.taken_eq
  cases moves with
  | scheduled => exact ⟨_, hAnnounces.enqueued rfl rfl rfl rfl⟩
  | @wrote thread hThread =>
      have hSome : 0 < queue.unannounced := by
        rw [hUnannounced]
        exact List.length_pos_of_mem hThread
      refine ⟨queue.announce hSome, hItems, ?_, ?_, hClaimed, ?_, ?_⟩
      · simp [AnnouncedQueue.announce, writeOne, hTokens]
      · simp [AnnouncedQueue.announce, writeOne, hUnannounced, List.length_erase_of_mem hThread]
      · rw [List.append_nil]
        exact hPut
      · rw [List.append_nil]
        exact hTaken
  | looped moves =>
      obtain ⟨hQueue, hCounter, hScheduling, -⟩ := moves.sides_eq
      obtain ⟨hBefore, hAfter⟩ := moves.betweenReadAndDequeue_eq hFlat hEntry
      rw [List.append_nil]
      exact ⟨queue, hItems.trans hQueue.symm, hTokens.trans hCounter.symm,
        by rw [hScheduling, hUnannounced], by rw [hAfter, hClaimed, hBefore], hPut, hTaken⟩
  | read hTop hCounter =>
      have hToken : 0 < queue.tokens := by rwa [hTokens]
      refine ⟨queue.claim hToken, hItems, ?_, hUnannounced, ?_, ?_, ?_⟩
      · simp [AnnouncedQueue.claim, hTokens]
      · simp [AnnouncedQueue.claim, hClaimed, betweenReadAndDequeue, hTop]
      · rw [List.append_nil]
        exact hPut
      · rw [List.append_nil]
        exact hTaken
  | @dequeued func rest below hTop hQueue =>
      have hClaim : queue.claimed = 1 := by
        simp [hClaimed, betweenReadAndDequeue, hTop]
      refine ⟨queue.dequeue func rest (hItems.trans hQueue) (by omega), rfl, hTokens,
        hUnannounced, ?_, ?_, ?_⟩
      · simp [AnnouncedQueue.dequeue, hClaim, betweenReadAndDequeue]
      · simp [AnnouncedQueue.dequeue, enqueuedFuncs, hPut]
      · simp [AnnouncedQueue.dequeue, dequeuedFuncs, hTaken]
  | foundEmpty hTop hQueue =>
      -- a claim stands for an item
      have hClaim : queue.claimed = 1 := by
        simp [hClaimed, betweenReadAndDequeue, hTop]
      have hSome : queue.items ≠ [] := queue.items_ne_nil (by omega)
      exact absurd (hItems.trans hQueue) hSome
  | called hTop =>
      refine ⟨queue, hItems, hTokens, hUnannounced, ?_, ?_, ?_⟩
      · simp [hClaimed, betweenReadAndDequeue, hTop]
      · simp [enqueuedFuncs, hPut]
      · simp [dequeuedFuncs, hTaken]
  | left hTop _ =>
      refine ⟨queue, hItems, hTokens, hUnannounced, ?_, ?_, ?_⟩
      · simp [hClaimed, betweenReadAndDequeue, hTop]
      · simp [enqueuedFuncs, hPut]
      · simp [dequeuedFuncs, hTaken]
  | releasedOnClient => exact ⟨_, hAnnounces.enqueued rfl rfl rfl rfl⟩
  | releasedOnAoThread => exact absurd rfl hAlive

/-- The destructor on the thread of the Active Object is called by user code, and
so never between `read` and `dequeueFunction`. -/
theorem Flat.destroyed (hFlat : s.Flat) (hIdle : s.scheduling = [])
    (hUser : s.userCodeRuns = true) : s.destructOnAoThread.Destroyed where
  noQueue := rfl
  noToken := rfl
  noProducer := hIdle
  noClaim := by
    unfold betweenReadAndDequeue
    split
    · rename_i hTop
      rcases hFlat.userCode_phase hUser hTop with hPhase | hPhase
      · cases hPhase
      · cases hPhase
    · rfl

/-- Nothing comes back after the destructor. -/
theorem Destroyed.step (hDestroyed : s.Destroyed) (hDetached : s.lifecycle = .detached)
    (hFlat : s.Flat) (hEntry : NoReentry s action)
    (moves : Moves s action t new) : t.Destroyed := by
  have hNotShared : s.lifecycle ≠ .shared := by simp [hDetached]
  cases moves with
  | scheduled hShared => exact absurd hShared hNotShared
  | releasedOnClient hShared => exact absurd hShared hNotShared
  | releasedOnAoThread hShared => exact absurd hShared hNotShared
  | wrote hThread => simp [hDestroyed.noProducer] at hThread
  | looped moves =>
      obtain ⟨hQueue, hCounter, hScheduling, -⟩ := moves.sides_eq
      obtain ⟨-, hAfter⟩ := moves.betweenReadAndDequeue_eq hFlat hEntry
      exact ⟨hQueue.trans hDestroyed.noQueue, hCounter.trans hDestroyed.noToken,
        hScheduling.trans hDestroyed.noProducer, hAfter⟩
  | read _ hCounter => simp [hDestroyed.noToken] at hCounter
  | dequeued hTop _ =>
      have hClaim := hDestroyed.noClaim
      simp [betweenReadAndDequeue, hTop] at hClaim
  | foundEmpty hTop _ =>
      have hClaim := hDestroyed.noClaim
      simp [betweenReadAndDequeue, hTop] at hClaim
  | called =>
      exact ⟨hDestroyed.noQueue, hDestroyed.noToken, hDestroyed.noProducer, rfl⟩
  | left =>
      exact ⟨hDestroyed.noQueue, hDestroyed.noToken, hDestroyed.noProducer, rfl⟩

/-- What holds in every state of a run that never enters `run()` twice. -/
structure Accounted (history : List (Output Func)) (s : ActiveObjectThread Func) :
    Prop where
  flat : s.Flat
  tokenReady : s.TokenReady
  announces : s.lifecycle ≠ .detached → ∃ queue, Announces history s queue
  destroyed : s.lifecycle = .detached → s.Destroyed

theorem accounted_start (aoThread : ThreadId) :
    Accounted [] (start aoThread : ActiveObjectThread Func) where
  flat := flat_start aoThread
  tokenReady := tokenReady_start aoThread
  announces := fun _ => ⟨.empty, announces_start aoThread⟩
  destroyed := nofun

theorem Accounted.step (hAccounted : Accounted history s) (hEntry : NoReentry s action)
    (moves : Moves s action t new) : Accounted (history ++ new) t where
  flat := moves.flat hAccounted.flat hEntry
  tokenReady := moves.tokenReady hAccounted.tokenReady hAccounted.flat hEntry
  announces := by
    intro hAlive
    have hBefore : s.lifecycle ≠ .detached := by
      intro hDetached
      apply hAlive
      cases moves with
      | looped moves => rw [moves.sides_eq.2.2.2, hDetached]
      | releasedOnClient hShared => simp [hDetached] at hShared
      | releasedOnAoThread => rfl
      | scheduled | wrote | read | dequeued | foundEmpty | called | left => exact hDetached
    obtain ⟨queue, hAnnounces⟩ := hAccounted.announces hBefore
    exact hAnnounces.step hAccounted.flat hEntry moves hAlive
  destroyed := by
    intro hAfter
    by_cases hDetached : s.lifecycle = .detached
    · exact (hAccounted.destroyed hDetached).step hDetached hAccounted.flat hEntry moves
    · cases moves with
      | releasedOnAoThread _ hIdle hUser => exact hAccounted.flat.destroyed hIdle hUser
      | looped moves => exact absurd (moves.sides_eq.2.2.2.symm.trans hAfter) hDetached
      | releasedOnClient => cases hAfter
      | scheduled | wrote | read | dequeued | foundEmpty | called | left =>
          exact absurd hAfter hDetached

end ActiveObjectThread

/-- In every interleaving in which `run()` is not entered again: the length of
`m_funcQueue` is the counter of the eventfd, plus the threads between
`enqueueFunction` and `write`, plus one between `read` and `dequeueFunction`.
A `read` about to be made finds a token and a `dequeueFunction` an item, and
while the object exists what was dequeued, followed by the queue, is what was
enqueued. -/
theorem run_accounts_for_queue {steps : List (ActiveObjectThread Func × Action Func)}
    {history : List (Output Func)} {s : ActiveObjectThread Func}
    (run : (aoSystem Func).Run steps history s) (hEntry : EveryStep NoReentry steps) :
    s.funcQueue.length =
        s.eventFd + s.scheduling.length + s.betweenReadAndDequeue ∧
      (∀ below, s.stack = .handleFdEvent .reading :: below → 0 < s.eventFd) ∧
      (∀ below, s.stack = .handleFdEvent .dequeuing :: below → s.funcQueue ≠ []) ∧
      (s.lifecycle ≠ .detached →
        dequeuedFuncs history ++ s.funcQueue = enqueuedFuncs history) := by
  have hAccounted : ActiveObjectThread.Accounted history s := by
    refine run.invariant NoReentry (fun history s => s.Accounted history) ?_ ?_ hEntry
    · rintro s ⟨aoThread, rfl⟩
      exact ActiveObjectThread.accounted_start aoThread
    · intro history s action t new hAccounted hGuard hStep
      exact hAccounted.step hGuard (ActiveObjectThread.moves_of_step hStep)
  have hLength : s.funcQueue.length =
      s.eventFd + s.scheduling.length + s.betweenReadAndDequeue := by
    by_cases hDetached : s.lifecycle = .detached
    · have hDestroyed := hAccounted.destroyed hDetached
      rw [hDestroyed.noQueue, hDestroyed.noToken, hDestroyed.noProducer,
        hDestroyed.noClaim]
      rfl
    · obtain ⟨queue, hAnnounces⟩ := hAccounted.announces hDetached
      rw [← hAnnounces.items_eq, ← hAnnounces.tokens_eq, ← hAnnounces.unannounced_eq,
        ← hAnnounces.claimed_eq]
      exact queue.balanced
  refine ⟨hLength, hAccounted.tokenReady.reading, ?_, ?_⟩
  · intro below hTop hEmpty
    have hClaim : s.betweenReadAndDequeue = 1 := by
      rw [ActiveObjectThread.betweenReadAndDequeue, hTop]
    rw [hEmpty, hClaim, List.length_nil] at hLength
    omega
  · intro hAlive
    obtain ⟨queue, hAnnounces⟩ := hAccounted.announces hAlive
    rw [← hAnnounces.items_eq, ← hAnnounces.taken_eq, ← hAnnounces.put_eq]
    exact queue.inOrder

/-- Two clients schedule a function each, the first is delayed before its `write`,
and the Active Object reads the token of the second. -/
def delayedWrite : List (Action Nat) :=
  [.addFdHandler, .run, .executeFunction 1 (some 10), .executeFunction 2 (some 20),
    .write 2, .epollWaitReturns true, .handleEpollEvent, .read]

/-- The Active Object after `delayedWrite`: it is about to take the function of
the first client. -/
def afterDelayedWrite : ActiveObjectThread Nat where
  aoThread := 0
  funcQueue := [.function 10, .function 20]
  eventFd := 0
  scheduling := [1]
  phase := .looping
  stack := [.handleFdEvent .dequeuing, .run false]
  isRunning := true
  registered := true
  lifecycle := .shared

/-- Two functions for one thread about to `write` and one claim. -/
theorem delayedWrite_accounted :
    afterDelayedWrite.funcQueue.length = afterDelayedWrite.eventFd +
      afterDelayedWrite.scheduling.length + afterDelayedWrite.betweenReadAndDequeue :=
  (run_accounts_for_queue
    (run_of_replay (.start 0) delayedWrite (t := afterDelayedWrite) ⟨0, rfl⟩ rfl)
    (by decide)).1

end ActiveObject
end UtilsFramework
