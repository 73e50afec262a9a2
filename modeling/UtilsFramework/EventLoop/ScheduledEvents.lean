import UtilsFramework.EventLoop.CallStack
import UtilsFramework.Library.Worklist

/-!
# Scheduled events

`executeScheduledEvents` pops the first event, calls it, and starts over at the
new first one, while the handlers append to the same vector.  Whatever else
happens in between, an event is executed in the order in which `scheduleEvent`
accepted it: that is a balance of every single step.  That the loop ends is a
matter of what the handlers schedule; it is a FIFO worklist, and ends if every
queued event spawns finitely many others altogether.
-/

namespace UtilsFramework
namespace EventLoop

open Library
open Library.TransitionSystem
open Library.Worklist

variable {CallbackFunc EventHandlerFunc : Type}

/-! ## The order of execution -/

/-- The events `scheduleEvent` has accepted, in order. -/
def acceptedEvents (history : List (Output CallbackFunc EventHandlerFunc)) :
    List EventHandlerFunc :=
  history.filterMap fun
    | .returned (.scheduleEvent eventHandler) .normal => some eventHandler
    | _ => none

/-- The events that have been called, in order. -/
def executedEvents (history : List (Output CallbackFunc EventHandlerFunc)) :
    List EventHandlerFunc :=
  history.filterMap fun
    | .executed eventHandler => some eventHandler
    | _ => none

@[simp]
theorem acceptedEvents_append
    (earlier later : List (Output CallbackFunc EventHandlerFunc)) :
    acceptedEvents (earlier ++ later) = acceptedEvents earlier ++ acceptedEvents later :=
  List.filterMap_append

@[simp]
theorem executedEvents_append
    (earlier later : List (Output CallbackFunc EventHandlerFunc)) :
    executedEvents (earlier ++ later) = executedEvents earlier ++ executedEvents later :=
  List.filterMap_append

/-- A call appends to the queue exactly what it has accepted. -/
theorem EventLoopImpl.perform_queues
    {loop next : EventLoopImpl CallbackFunc EventHandlerFunc} {caller : ThreadId}
    {syscalls : Syscalls} {call : Call CallbackFunc EventHandlerFunc} {rc : ReturnCode}
    (hPerform : loop.perform caller syscalls call = (rc, next)) :
    next.scheduledEvents = loop.scheduledEvents ++
      acceptedEvents ([.returned call rc] : List (Output CallbackFunc EventHandlerFunc)) := by
  cases call with
  | addFdHandler fd eventMask callback =>
      rcases addFdHandler_cases hPerform with ⟨_, _, _, _, rfl⟩ | ⟨_, _, _, _, rfl⟩ <;>
        simp [acceptedEvents]
  | updateFdEvents fd eventMask =>
      rcases updateFdEvents_cases hPerform with
        ⟨rfl, _⟩ | ⟨_, _, _, _, ⟨_, _, rfl⟩ | ⟨_, _, rfl⟩⟩ <;>
        simp [acceptedEvents]
  | removeFdHandler fd =>
      rcases removeFdHandler_cases hPerform with ⟨rfl, _⟩ | ⟨_, _, _, _, rfl⟩ <;>
        simp [acceptedEvents]
  | scheduleEvent eventHandler =>
      rcases scheduleEvent_cases hPerform with ⟨rfl, rfl⟩ | ⟨rfl, rfl⟩ <;>
        simp [acceptedEvents]
  | stop =>
      rcases stop_cases hPerform with ⟨_, rfl⟩ | ⟨_, rfl⟩ <;> simp [acceptedEvents]

/-- The balance of a step: called and still queued is what was queued and what
was accepted. -/
theorem LoopThread.Moves.conserves_events
    {s t : LoopThread CallbackFunc EventHandlerFunc}
    {action : Action CallbackFunc EventHandlerFunc}
    {new : List (Output CallbackFunc EventHandlerFunc)}
    (moves : LoopThread.Moves s action t new) :
    executedEvents new ++ t.loop.scheduledEvents =
      s.loop.scheduledEvents ++ acceptedEvents new := by
  cases moves with
  | call _ hPerform =>
      rw [← EventLoopImpl.perform_queues hPerform]
      simp [executedEvents]
  | executes _ hQueue => simp [executedEvents, acceptedEvents, hQueue]
  | _ => simp [executedEvents, acceptedEvents]

/-- In every run the accepted events are, in this order, those that have been
executed and those that are still queued. -/
theorem run_conserves_events
    {steps : List (LoopThread CallbackFunc EventHandlerFunc ×
      Action CallbackFunc EventHandlerFunc)}
    {history : List (Output CallbackFunc EventHandlerFunc)}
    {s : LoopThread CallbackFunc EventHandlerFunc}
    (run : (runSystem CallbackFunc EventHandlerFunc).Run steps history s) :
    executedEvents history ++ s.loop.scheduledEvents = acceptedEvents history := by
  refine run.invariant_of_all (fun history s =>
    executedEvents history ++ s.loop.scheduledEvents = acceptedEvents history) ?_ ?_
  · rintro s ⟨threadId, rfl⟩
    rfl
  · intro history s action t new hBalance hStep
    have hMoves := (LoopThread.moves_of_step hStep).conserves_events
    rw [executedEvents_append, acceptedEvents_append, List.append_assoc, hMoves,
      ← List.append_assoc, hBalance]

/-! ## User code and the loop around it -/

/-- The callback or event handler on top of the stack makes calls, though not of
`run()`, and returns.  `accepted` are the events scheduled meanwhile; signals
and calls from other threads may come in between. -/
inductive UserCode : LoopThread CallbackFunc EventHandlerFunc → List EventHandlerFunc →
    LoopThread CallbackFunc EventHandlerFunc → Prop
  | returns {s t : LoopThread CallbackFunc EventHandlerFunc}
      {new : List (Output CallbackFunc EventHandlerFunc)}
      (hStep : s.step .userReturns = some (t, new)) : UserCode s [] t
  | acts {s t u : LoopThread CallbackFunc EventHandlerFunc}
      {action : Action CallbackFunc EventHandlerFunc}
      {new : List (Output CallbackFunc EventHandlerFunc)}
      {accepted : List EventHandlerFunc}
      (hStays : action ≠ .userReturns) (hNoRun : action ≠ .run s.loop.threadId)
      (hStep : s.step action = some (t, new)) (later : UserCode t accepted u) :
      UserCode s (acceptedEvents new ++ accepted) u

/-- `executeScheduledEvents` after some turns of its loop, with the events it
has called and what each of them has scheduled. -/
inductive ExecutesEvents (s : LoopThread CallbackFunc EventHandlerFunc) :
    List (EventHandlerFunc × List EventHandlerFunc) →
    LoopThread CallbackFunc EventHandlerFunc → Prop
  | starts : ExecutesEvents s [] s
  | interrupted {log : List (EventHandlerFunc × List EventHandlerFunc)}
      {t u : LoopThread CallbackFunc EventHandlerFunc}
      {action : Action CallbackFunc EventHandlerFunc}
      {new : List (Output CallbackFunc EventHandlerFunc)}
      (before : ExecutesEvents s log t) (hElsewhere : action ≠ .proceed)
      (hStep : t.step action = some (u, new)) : ExecutesEvents s log u
  | calls {log : List (EventHandlerFunc × List EventHandlerFunc)}
      {t u v : LoopThread CallbackFunc EventHandlerFunc}
      {eventHandler : EventHandlerFunc} {accepted : List EventHandlerFunc}
      (before : ExecutesEvents s log t)
      (hStep : t.step .proceed = some (u, [.executed eventHandler]))
      (handler : UserCode u accepted v) :
      ExecutesEvents s (log ++ [(eventHandler, accepted)]) v

/-- User code leaves the frames below it alone and appends to the queue. -/
theorem UserCode.spec {s t : LoopThread CallbackFunc EventHandlerFunc}
    {accepted : List EventHandlerFunc} (code : UserCode s accepted t)
    {frame : Frame EventHandlerFunc} {below : List (Frame EventHandlerFunc)}
    (hStack : s.stack = frame :: below) (hUser : userCodeRuns s.stack = true) :
    t.stack = below ∧ t.loop.scheduledEvents = s.loop.scheduledEvents ++ accepted := by
  induction code with
  | returns hStep =>
      cases LoopThread.moves_of_step hStep with
      | callbackReturns hTop | eventHandlerReturns hTop =>
          obtain ⟨_, rfl⟩ := List.cons.inj (hStack.symm.trans hTop)
          exact ⟨rfl, (List.append_nil _).symm⟩
  | @acts s t u action new accepted hStays hNoRun hStep _ ih =>
      have hMoves := LoopThread.moves_of_step hStep
      -- no frame is pushed or popped and nothing is executed
      have hKeeps : t.stack = s.stack ∧ executedEvents new = [] := by
        cases hMoves with
        | call | runElsewhere | signalStop => exact ⟨rfl, by simp [executedEvents]⟩
        | runEnters hThread => exact absurd (by rw [hThread]) hNoRun
        | callbackReturns | eventHandlerReturns => exact absurd rfl hStays
        | batch hTop | interrupted hTop | failed hTop | setsRunning hTop | goesOn hTop
        | leaves hTop | clears hTop | waits hTop | batchDone hTop | dispatches hTop
        | skips hTop | drained hTop | executes hTop =>
            rw [hTop] at hUser
            cases hUser
      obtain ⟨hSame, hNone⟩ := hKeeps
      have hBalance := hMoves.conserves_events
      rw [hNone, List.nil_append] at hBalance
      obtain ⟨hBelow, hQueue⟩ := ih (hSame.trans hStack) (by rw [hSame]; exact hUser)
      refine ⟨hBelow, ?_⟩
      rw [hQueue, hBalance, List.append_assoc]

/-- A handler can schedule any events and return. -/
theorem exists_userCode (accepted : List EventHandlerFunc)
    {s : LoopThread CallbackFunc EventHandlerFunc} {eventHandler : EventHandlerFunc}
    {below : List (Frame EventHandlerFunc)}
    (hStack : s.stack = .eventHandler eventHandler :: below) :
    ∃ t, UserCode s accepted t := by
  induction accepted generalizing s with
  | nil =>
      have hStep : s.step .userReturns = some ({ s with stack := below }, []) := by
        simp only [LoopThread.step, hStack]
      exact ⟨_, .returns hStep⟩
  | cons first rest ih =>
      have hStep : s.step (.call s.loop.threadId ⟨-1, true⟩ (.scheduleEvent first)) =
          some ({ s with loop :=
            { s.loop with scheduledEvents := s.loop.scheduledEvents ++ [first] } },
            [.returned (.scheduleEvent first) .normal]) := by
        simp [LoopThread.step, hStack, userCodeRuns, EventLoopImpl.perform,
          EventLoopImpl.scheduleEvent]
      obtain ⟨t, code⟩ := ih
        (s := { s with loop :=
          { s.loop with scheduledEvents := s.loop.scheduledEvents ++ [first] } }) hStack
      exact ⟨t, .acts (by simp) (by simp) hStep code⟩

namespace ExecutesEvents

variable {s t : LoopThread CallbackFunc EventHandlerFunc}
  {log : List (EventHandlerFunc × List EventHandlerFunc)}
  {below : List (Frame EventHandlerFunc)}

/-- The loop calls the first event of the queue. -/
theorem proceed_of_queue {first : EventHandlerFunc} {rest : List EventHandlerFunc}
    (hStack : t.stack = .executeScheduledEvents :: below)
    (hQueue : t.loop.scheduledEvents = first :: rest) :
    t.step .proceed = some
      ({ loop := { t.loop with scheduledEvents := rest }
         stack := .eventHandler first :: .executeScheduledEvents :: below },
        [.executed first]) := by
  simp only [LoopThread.step, hStack, LoopThread.proceedScheduledEvents, hQueue]

/-- The loop ends on an empty queue. -/
theorem proceed_of_empty (hStack : t.stack = .executeScheduledEvents :: below)
    (hQueue : t.loop.scheduledEvents = []) :
    t.step .proceed = some ({ t with stack := below }, []) := by
  simp only [LoopThread.step, hStack, LoopThread.proceedScheduledEvents, hQueue]

/-- If every handler does as assigned, the loop makes the turns of a worklist. -/
theorem turns {schedules : EventHandlerFunc → List EventHandlerFunc}
    (executes : ExecutesEvents s log t) (hStack : s.stack = .executeScheduledEvents :: below)
    (hAssigned : ∀ entry ∈ log, entry.2 = schedules entry.1) :
    t.stack = .executeScheduledEvents :: below ∧
      Turns schedules s.loop.scheduledEvents (log.map Prod.fst) t.loop.scheduledEvents := by
  induction executes with
  | starts => exact ⟨hStack, .none⟩
  | @interrupted log t u action new _ hElsewhere hStep ih =>
      obtain ⟨hTop, turns⟩ := ih hAssigned
      -- nothing of the thread's own can run but its loop
      have hKeeps : u.stack = t.stack ∧
          u.loop.scheduledEvents = t.loop.scheduledEvents := by
        cases LoopThread.moves_of_step hStep with
        | call hAllowed hPerform =>
            rcases hAllowed with hForeign | hUser
            · rw [(EventLoopImpl.perform_elsewhere hForeign hPerform).2]
              exact ⟨rfl, rfl⟩
            · rw [hTop] at hUser
              cases hUser
        | runEnters _ hUser =>
            rw [hTop] at hUser
            cases hUser
        | runElsewhere | signalStop => exact ⟨rfl, rfl⟩
        | callbackReturns hOther | eventHandlerReturns hOther | batch hOther
        | interrupted hOther | failed hOther =>
            rw [hTop] at hOther
            cases hOther
        | _ => exact absurd rfl hElsewhere
      rw [hKeeps.1, hKeeps.2]
      exact ⟨hTop, turns⟩
  | @calls log t u v eventHandler accepted _ hStep handler ih =>
      obtain ⟨hTop, turns⟩ := ih fun entry hEntry =>
        hAssigned entry (List.mem_append_left _ hEntry)
      cases hQueue : t.loop.scheduledEvents with
      | nil =>
          rw [proceed_of_empty hTop hQueue] at hStep
          simp at hStep
      | cons first rest =>
          rw [proceed_of_queue hTop hQueue] at hStep
          simp only [Option.some.injEq, Prod.mk.injEq, List.cons.injEq, Output.executed.injEq,
            and_true] at hStep
          obtain ⟨rfl, rfl⟩ := hStep
          obtain ⟨hBelow, hAppended⟩ := handler.spec rfl rfl
          obtain rfl : accepted = schedules first := hAssigned (first, accepted) (by simp)
          rw [hQueue] at turns
          refine ⟨hBelow, ?_⟩
          rw [List.map_append, hAppended]
          exact turns.snoc

/-- More turns after the first ones. -/
theorem trans {u : LoopThread CallbackFunc EventHandlerFunc}
    {more : List (EventHandlerFunc × List EventHandlerFunc)}
    (earlier : ExecutesEvents s log t) (later : ExecutesEvents t more u) :
    ExecutesEvents s (log ++ more) u := by
  induction later with
  | starts =>
      rw [List.append_nil]
      exact earlier
  | interrupted _ hElsewhere hStep ih => exact ih.interrupted hElsewhere hStep
  | calls _ hStep handler ih =>
      rw [← List.append_assoc]
      exact ih.calls hStep handler

/-- Every list of turns is made if the handlers do as assigned. -/
theorem exists_of_turns {schedules : EventHandlerFunc → List EventHandlerFunc}
    {queue taken left : List EventHandlerFunc} (turns : Turns schedules queue taken left)
    (hStack : s.stack = .executeScheduledEvents :: below)
    (hQueue : s.loop.scheduledEvents = queue) :
    ∃ t, ExecutesEvents s (taken.map fun event => (event, schedules event)) t ∧
      t.stack = .executeScheduledEvents :: below ∧ t.loop.scheduledEvents = left := by
  induction turns generalizing s with
  | none => exact ⟨s, .starts, hStack, hQueue⟩
  | @turn first rest taken left _ ih =>
      obtain ⟨t, handler⟩ := exists_userCode (schedules first)
        (s := { loop := { s.loop with scheduledEvents := rest }
                stack := .eventHandler first :: .executeScheduledEvents :: below }) rfl
      obtain ⟨hBelow, hAppended⟩ := handler.spec rfl rfl
      obtain ⟨u, later, hLeft⟩ := ih hBelow hAppended
      refine ⟨u, ?_, hLeft⟩
      exact ((ExecutesEvents.starts).calls (proceed_of_queue hStack hQueue) handler).trans later

end ExecutesEvents

/-! ## Exhaustion -/

/-- From `s` on, `executeScheduledEvents` calls the finitely many events in
`all`, each of them once and in this order, and then returns to `below` with
an empty queue: what it has called begins `all`, and until that is everything
its next step calls another event. -/
def RunsToExhaustion (schedules : EventHandlerFunc → List EventHandlerFunc)
    (s : LoopThread CallbackFunc EventHandlerFunc) (below : List (Frame EventHandlerFunc)) :
    Prop :=
  ∃ all, all = s.loop.scheduledEvents ++ all.flatMap schedules ∧
    (∀ log t, ExecutesEvents s log t → (∀ entry ∈ log, entry.2 = schedules entry.1) →
      log.map Prod.fst <+: all ∧
      (log.map Prod.fst = all → t.loop.scheduledEvents = [] ∧
        t.step .proceed = some ({ t with stack := below }, [])) ∧
      (log.map Prod.fst ≠ all → ∃ event u, log.map Prod.fst ++ [event] <+: all ∧
        t.step .proceed = some (u, [.executed event]))) ∧
    ∃ t, ExecutesEvents s (all.map fun event => (event, schedules event)) t ∧
      t.loop.scheduledEvents = []

theorem runsToExhaustion {schedules : EventHandlerFunc → List EventHandlerFunc}
    {s : LoopThread CallbackFunc EventHandlerFunc} {below : List (Frame EventHandlerFunc)}
    (hStack : s.stack = .executeScheduledEvents :: below)
    (hFinite : ∀ event ∈ s.loop.scheduledEvents, SpawnsFinitely schedules event) :
    RunsToExhaustion schedules s below := by
  obtain ⟨all, complete⟩ := exists_turns hFinite
  have hAll : all = s.loop.scheduledEvents ++ all.flatMap schedules := by
    have hBalance := complete.conserves
    rwa [List.append_nil] at hBalance
  refine ⟨all, hAll, ?_, ?_⟩
  · intro log t executes hAssigned
    obtain ⟨hTop, turns⟩ := executes.turns hStack hAssigned
    have hEmpty := complete.left_eq_nil_iff turns
    refine ⟨complete.isPrefix turns, ?_, ?_⟩
    · intro hEverything
      have hQueue := hEmpty.mpr hEverything
      exact ⟨hQueue, ExecutesEvents.proceed_of_empty hTop hQueue⟩
    · intro hMore
      cases hQueue : t.loop.scheduledEvents with
      | nil => exact absurd (hEmpty.mp hQueue) hMore
      | cons first rest =>
          rw [hQueue] at turns
          exact ⟨first, _, complete.isPrefix turns.snoc,
            ExecutesEvents.proceed_of_queue hTop hQueue⟩
  · obtain ⟨t, executes, _, hQueue⟩ := ExecutesEvents.exists_of_turns complete hStack rfl
    exact ⟨t, executes, hQueue⟩

/-- For whatever each event schedules while it runs, as long as the queued
events schedule finitely many altogether, `executeScheduledEvents` runs to
exhaustion.  In particular the events that are queued when a callback of a
batch returns, its own among them, all run before the next event of the batch. -/
theorem executeScheduledEvents_exhausts
    (schedules : EventHandlerFunc → List EventHandlerFunc) :
    (∀ (s : LoopThread CallbackFunc EventHandlerFunc) below,
      s.stack = .executeScheduledEvents :: below →
      (∀ event ∈ s.loop.scheduledEvents, SpawnsFinitely schedules event) →
      RunsToExhaustion schedules s below) ∧
    (∀ (s t u : LoopThread CallbackFunc EventHandlerFunc) event rest below callback fd
        eventMask accepted,
      s.stack = .run (.handling (event :: rest)) :: below →
      s.step .proceed = some (t, [.dispatched callback fd eventMask]) →
      UserCode t accepted u →
      u.stack = .executeScheduledEvents :: .run (.handling rest) :: below ∧
      u.loop.scheduledEvents = s.loop.scheduledEvents ++ accepted ∧
      ((∀ event ∈ s.loop.scheduledEvents ++ accepted, SpawnsFinitely schedules event) →
        RunsToExhaustion schedules u (.run (.handling rest) :: below))) := by
  refine ⟨fun s below hStack hFinite => runsToExhaustion hStack hFinite, ?_⟩
  intro s t u event rest below callback fd eventMask accepted hStack hStep code
  have hMoves := LoopThread.moves_of_step hStep
  cases hMoves with
  | dispatches hTop =>
      obtain ⟨hFrame, rfl⟩ := List.cons.inj (hStack.symm.trans hTop)
      obtain ⟨rfl, rfl⟩ : event = _ ∧ rest = _ := by simpa using hFrame
      obtain ⟨hBelow, hQueue⟩ := code.spec rfl rfl
      refine ⟨hBelow, hQueue, fun hFinite => runsToExhaustion hBelow ?_⟩
      rw [hQueue]
      exact hFinite

/-- Event 1 schedules event 2 twice, no other event schedules anything. -/
def twoGenerations : Nat → List Nat
  | 1 => [2, 2]
  | _ => []

/-- Events 1 and 3 are queued when `executeScheduledEvents` is entered. -/
def oneAndThree : LoopThread Unit Nat where
  loop := { (EventLoopImpl.construct 0 : EventLoopImpl Unit Nat) with
    scheduledEvents := [1, 3] }
  stack := [.executeScheduledEvents, .run (.handling [])]

theorem oneAndThree_exhausts :
    RunsToExhaustion twoGenerations oneAndThree [.run (.handling [])] := by
  have hLeaf : ∀ event, event ≠ 1 → SpawnsFinitely twoGenerations event := by
    intro event hOther
    refine .intro event fun child hChild => ?_
    unfold twoGenerations at hChild
    split at hChild
    · exact absurd rfl hOther
    · cases hChild
  refine (executeScheduledEvents_exhausts twoGenerations).1 _ _ rfl ?_
  intro event hEvent
  by_cases hOne : event = 1
  · subst hOne
    refine .intro 1 fun child hChild => hLeaf child ?_
    obtain rfl : child = 2 := by simpa [twoGenerations] using hChild
    decide
  · exact hLeaf event hOne

end EventLoop
end UtilsFramework
