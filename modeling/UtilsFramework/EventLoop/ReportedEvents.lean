import UtilsFramework.EventLoop.Lifetime

/-!
# Reported events of live handlers

A batch is handled event by event, each of them in exactly one step of the
activation of `run()` that got it, whatever the callbacks in between do and
call.  The file determines when that step calls back for a handler that nobody
removed or updated since `epoll_wait` returned: exactly if one of the reported
bits is in the handler's mask.  `EPOLLERR` and `EPOLLHUP`, which epoll always
reports, never are.
-/

namespace UtilsFramework
namespace EventLoop

open Library
open Library.Epoll
open Library.TransitionSystem

variable {CallbackFunc EventHandlerFunc : Type}

/-! ## The masks of handlers -/

/-- Every registered handler asks for a translated local mask. -/
def EventLoopImpl.AsksTranslated (loop : EventLoopImpl CallbackFunc EventHandlerFunc) :
    Prop :=
  ∀ fd handler, loop.fdHandlers.lookup fd = some handler →
    ∃ eventMask, handler.epollEvents = convertToEpollEvents eventMask

/-- A translated mask has no bits but `EPOLLIN` and `EPOLLOUT`. -/
theorem convertToEpollEvents_and (eventMask : EventMask) :
    convertToEpollEvents eventMask &&& (epollIn ||| epollOut) =
      convertToEpollEvents eventMask := by
  unfold convertToEpollEvents
  dsimp only
  split <;> split <;> decide

/-- The bits epoll reports for a mask besides `EPOLLERR` and `EPOLLHUP` are
those it was asked for. -/
theorem reported_and_not_always {events mask : EventMask}
    (hMask : mask &&& (epollIn ||| epollOut) = mask)
    (hReported : events &&& (mask ||| (epollErr ||| epollHup)) = events) :
    events &&& ~~~(epollErr ||| epollHup) = events &&& mask := by
  have hAsked : mask &&& ~~~(epollErr ||| epollHup) = mask := by
    rw [← hMask, BitVec.and_assoc]
    rfl
  have hNone : ∀ bits : EventMask, bits ||| 0 = bits := fun bits => BitVec.or_zero
  calc events &&& ~~~(epollErr ||| epollHup)
      = events &&& ((mask ||| (epollErr ||| epollHup)) &&& ~~~(epollErr ||| epollHup)) := by
        rw [← BitVec.and_assoc, hReported]
    _ = events &&& mask := by
        rw [BitVec.and_or_distrib_right, BitVec.and_not_self, hNone, hAsked]

namespace EventLoopImpl

theorem perform_asksTranslated
    {loop next : EventLoopImpl CallbackFunc EventHandlerFunc} {caller : ThreadId}
    {syscalls : Syscalls} {call : Call CallbackFunc EventHandlerFunc} {rc : ReturnCode}
    (hAsks : loop.AsksTranslated)
    (hPerform : loop.perform caller syscalls call = (rc, next)) :
    next.AsksTranslated := by
  -- one more handler with a translated mask
  have hInsert : ∀ (fd : Fd) (handler : FdHandler CallbackFunc) (eventMask : EventMask),
      next.fdHandlers = loop.fdHandlers.insert fd handler →
      handler.epollEvents = convertToEpollEvents eventMask → next.AsksTranslated := by
    intro fd handler eventMask hHandlers hMask other found hFound
    rw [hHandlers] at hFound
    by_cases hFd : other = fd
    · subst hFd
      rw [AList.lookup_insert] at hFound
      obtain rfl := Option.some.inj hFound
      exact ⟨eventMask, hMask⟩
    · rw [AList.lookup_insert_ne hFd] at hFound
      exact hAsks other found hFound
  cases call with
  | addFdHandler fd eventMask callback =>
      rcases addFdHandler_cases hPerform with ⟨_, _, _, _, rfl⟩ | ⟨_, _, _, _, rfl⟩
      · exact hAsks
      · exact hInsert fd _ eventMask rfl rfl
  | updateFdEvents fd eventMask =>
      rcases updateFdEvents_cases hPerform with
        ⟨rfl, _⟩ | ⟨_, _, _, _, ⟨_, _, rfl⟩ | ⟨_, _, rfl⟩⟩
      · exact hAsks
      · exact hInsert fd _ eventMask rfl rfl
      · exact hInsert fd _ eventMask rfl rfl
  | removeFdHandler fd =>
      rcases removeFdHandler_cases hPerform with ⟨rfl, _⟩ | ⟨_, _, _, _, rfl⟩
      · exact hAsks
      · intro other found hFound
        by_cases hFd : other = fd
        · subst hFd
          rw [AList.lookup_erase] at hFound
          cases hFound
        · rw [AList.lookup_erase_ne hFd] at hFound
          exact hAsks other found hFound
  | scheduleEvent eventHandler =>
      rcases scheduleEvent_cases hPerform with ⟨_, rfl⟩ | ⟨_, rfl⟩ <;> exact hAsks
  | stop =>
      rcases stop_cases hPerform with ⟨_, rfl⟩ | ⟨_, rfl⟩ <;> exact hAsks

end EventLoopImpl

theorem asksTranslated_of_run
    {steps : List (LoopThread CallbackFunc EventHandlerFunc ×
      Action CallbackFunc EventHandlerFunc)}
    {history : List (Output CallbackFunc EventHandlerFunc)}
    {s : LoopThread CallbackFunc EventHandlerFunc}
    (run : (runSystem CallbackFunc EventHandlerFunc).Run steps history s) :
    s.loop.AsksTranslated := by
  refine run.invariant_of_all (fun _ s => s.loop.AsksTranslated) ?_ ?_
  · rintro s ⟨threadId, rfl⟩ fd handler hHandler
    simp [EventLoopImpl.construct] at hHandler
  · intro history s action t new hAsks hStep
    have hMoves := LoopThread.moves_of_step hStep
    by_cases hCall : ∃ caller syscalls call, action = .call caller syscalls call
    · obtain ⟨caller, syscalls, call, rfl⟩ := hCall
      cases hMoves with
      | call _ hPerform => exact EventLoopImpl.perform_asksTranslated hAsks hPerform
    · push Not at hCall
      intro fd handler hHandler
      rw [(hMoves.keeps_registry hCall).1] at hHandler
      exact hAsks fd handler hHandler

/-! ## A handler nobody touches -/

/-- The step removes or updates the handler of the descriptor. -/
def Touches (fd : Fd) (s : LoopThread CallbackFunc EventHandlerFunc) :
    Action CallbackFunc EventHandlerFunc → Prop
  | .call caller _ (.removeFdHandler other) => s.loop.threadId = caller ∧ other = fd
  | .call caller _ (.updateFdEvents other eventMask) =>
      s.loop.threadId = caller ∧ other = fd ∧ convertToEpollEvents eventMask ≠ 0
  | _ => False

theorem keeps_untouched {s t : LoopThread CallbackFunc EventHandlerFunc}
    {action : Action CallbackFunc EventHandlerFunc}
    {new : List (Output CallbackFunc EventHandlerFunc)}
    (moves : LoopThread.Moves s action t new) {fd : Fd} {handler : FdHandler CallbackFunc}
    (hHandler : s.loop.fdHandlers.lookup fd = some handler)
    (hUntouched : ¬ Touches fd s action) : t.loop.fdHandlers.lookup fd = some handler := by
  by_cases hCall : ∃ caller syscalls call, action = .call caller syscalls call
  · obtain ⟨caller, syscalls, call, rfl⟩ := hCall
    cases moves with
    | call _ hPerform =>
        cases call with
        | addFdHandler other eventMask callback =>
            rcases EventLoopImpl.addFdHandler_cases hPerform with
              ⟨_, _, _, _, rfl⟩ | ⟨_, hFree, _, _, rfl⟩
            · exact hHandler
            · have hFd : fd ≠ other := by
                rintro rfl
                rw [AList.lookup_eq_none.mpr hFree] at hHandler
                cases hHandler
              exact (AList.lookup_insert_ne hFd).trans hHandler
        | updateFdEvents other eventMask =>
            rcases EventLoopImpl.updateFdEvents_cases hPerform with
              ⟨rfl, _⟩ | ⟨hThread, hMask, _, _, hWritten⟩
            · exact hHandler
            · have hFd : fd ≠ other := by
                rintro rfl
                exact hUntouched ⟨hThread, rfl, hMask⟩
              rcases hWritten with ⟨_, _, rfl⟩ | ⟨_, _, rfl⟩ <;>
                exact (AList.lookup_insert_ne hFd).trans hHandler
        | removeFdHandler other =>
            rcases EventLoopImpl.removeFdHandler_cases hPerform with
              ⟨rfl, _⟩ | ⟨hThread, _, _, _, rfl⟩
            · exact hHandler
            · have hFd : fd ≠ other := by
                rintro rfl
                exact hUntouched ⟨hThread, rfl⟩
              exact (AList.lookup_erase_ne hFd).trans hHandler
        | scheduleEvent eventHandler =>
            rcases EventLoopImpl.scheduleEvent_cases hPerform with ⟨_, rfl⟩ | ⟨_, rfl⟩ <;>
              exact hHandler
        | stop =>
            rcases EventLoopImpl.stop_cases hPerform with ⟨_, rfl⟩ | ⟨_, rfl⟩ <;>
              exact hHandler
  · push Not at hCall
    rw [(moves.keeps_registry hCall).1]
    exact hHandler

/-! ## The turns of a batch -/

/-- The activation of `run()` called from `below` stands in a batch. -/
def InBatch (below : List (Frame EventHandlerFunc))
    (s : LoopThread CallbackFunc EventHandlerFunc) : Prop :=
  ∃ above remaining, s.stack = above ++ .run (.handling remaining) :: below

/-- The step handles the first of the remaining events of that activation. -/
def TakesTurn (below : List (Frame EventHandlerFunc)) (remaining : List (Event ObjectId))
    (visited : LoopThread CallbackFunc EventHandlerFunc ×
      Action CallbackFunc EventHandlerFunc) : Prop :=
  visited.2 = .proceed ∧ visited.1.stack = .run (.handling remaining) :: below

theorem batch_position_unique {above other below : List (Frame EventHandlerFunc)}
    {remaining left : List (Event ObjectId)}
    (hStacks : above ++ .run (.handling remaining) :: below =
      other ++ .run (.handling left) :: below) : above = other ∧ remaining = left := by
  obtain ⟨hAbove, hFrame⟩ := List.append_inj' hStacks rfl
  exact ⟨hAbove, by simpa using hFrame⟩

/-- Within a batch a step either handles the next event or handles none. -/
theorem batch_step {s t : LoopThread CallbackFunc EventHandlerFunc}
    {action : Action CallbackFunc EventHandlerFunc}
    {new : List (Output CallbackFunc EventHandlerFunc)}
    (moves : LoopThread.Moves s action t new)
    {above after below : List (Frame EventHandlerFunc)}
    {remaining left : List (Event ObjectId)}
    (hBefore : s.stack = above ++ .run (.handling remaining) :: below)
    (hAfter : t.stack = after ++ .run (.handling left) :: below) :
    (left = remaining ∧ ∀ events, ¬ TakesTurn below events (s, action)) ∨
      ∃ event, remaining = event :: left ∧ TakesTurn below remaining (s, action) := by
  cases above with
  | cons frame above =>
      refine Or.inl ⟨?_, ?_⟩
      · obtain ⟨other, hOther⟩ := moves.keeps_covered hBefore
        exact (batch_position_unique (hOther.trans hAfter)).2.symm
      · rintro events ⟨_, hTurn⟩
        have hSame : frame :: above ++ .run (.handling remaining) :: below =
            [] ++ .run (.handling events) :: below := hBefore.symm.trans hTurn
        cases (batch_position_unique hSame).1
  | nil =>
      rw [List.nil_append] at hBefore
      have hNoTurn : action ≠ .proceed → t.stack = s.stack →
          left = remaining ∧ ∀ events, ¬ TakesTurn below events (s, action) := by
        intro hAction hSame
        have hStacks : [] ++ .run (.handling remaining) :: below =
            after ++ .run (.handling left) :: below :=
          hBefore.symm.trans (hSame.symm.trans hAfter)
        exact ⟨(batch_position_unique hStacks).2.symm, fun _ hTurn => hAction hTurn.1⟩
      cases moves with
      | call => exact Or.inl (hNoTurn (by simp) rfl)
      | runElsewhere => exact Or.inl (hNoTurn (by simp) rfl)
      | signalStop => exact Or.inl (hNoTurn (by simp) rfl)
      | runEnters _ hUser =>
          rw [hBefore] at hUser
          cases hUser
      | batchDone hTop =>
          -- the batch is left
          obtain ⟨_, rfl⟩ := List.cons.inj (hBefore.symm.trans hTop)
          have hStacks : [] ++ .run .testing :: below =
            after ++ .run (.handling left) :: below := hAfter
          obtain ⟨_, hFrame⟩ := List.append_inj' hStacks rfl
          simp at hFrame
      | dispatches hTop =>
          obtain ⟨hFrame, rfl⟩ := List.cons.inj (hBefore.symm.trans hTop)
          obtain rfl : remaining = _ := by simpa using hFrame
          have hStacks : [_, _] ++ .run (.handling _) :: below =
            after ++ .run (.handling left) :: below := hAfter
          obtain ⟨_, rfl⟩ := batch_position_unique hStacks
          exact Or.inr ⟨_, rfl, rfl, hBefore⟩
      | skips hTop =>
          obtain ⟨hFrame, rfl⟩ := List.cons.inj (hBefore.symm.trans hTop)
          obtain rfl : remaining = _ := by simpa using hFrame
          have hStacks : [] ++ .run (.handling _) :: below =
            after ++ .run (.handling left) :: below := hAfter
          obtain ⟨_, rfl⟩ := batch_position_unique hStacks
          exact Or.inr ⟨_, rfl, rfl, hBefore⟩
      | callbackReturns hTop | eventHandlerReturns hTop | batch hTop | interrupted hTop
      | failed hTop | setsRunning hTop | goesOn hTop | leaves hTop | clears hTop
      | waits hTop | drained hTop | executes hTop =>
          have hFrame := (List.cons.inj (hBefore.symm.trans hTop)).1
          simp at hFrame

/-- Along the way through a batch, an event that is still to come has had no
turn, and one that is past has had exactly one. -/
theorem turns_of_batch
    {captured t : LoopThread CallbackFunc EventHandlerFunc}
    {below : List (Frame EventHandlerFunc)} {earlier rest : List (Event ObjectId)}
    {event : Event ObjectId}
    (hCaptured : captured.stack = .run (.handling (earlier ++ event :: rest)) :: below)
    {later : List (LoopThread CallbackFunc EventHandlerFunc ×
      Action CallbackFunc EventHandlerFunc)}
    {history : List (Output CallbackFunc EventHandlerFunc)}
    (onward : ((runSystem CallbackFunc EventHandlerFunc).startingAt captured).Run later
      history t)
    (hInBatch : ∀ visited ∈ later, InBatch below visited.1)
    {above : List (Frame EventHandlerFunc)} {left : List (Event ObjectId)}
    (hStack : t.stack = above ++ .run (.handling left) :: below) :
    (event :: rest <:+ left ∧
      ∀ visited ∈ later, ¬ TakesTurn below (event :: rest) visited) ∨
    (left <:+ rest ∧ ∃ before turn after, later = before ++ turn :: after ∧
      TakesTurn below (event :: rest) turn ∧
      ∀ visited ∈ before ++ after, ¬ TakesTurn below (event :: rest) visited) := by
  induction onward generalizing above left with
  | @start first hStart =>
      obtain rfl : first = captured := hStart
      have hStacks : [] ++ .run (.handling (earlier ++ event :: rest)) :: below =
        above ++ .run (.handling left) :: below := hCaptured.symm.trans hStack
      obtain ⟨_, rfl⟩ := batch_position_unique hStacks
      exact Or.inl ⟨List.suffix_append _ _, by simp⟩
  | @next steps history s t action new _ hStep ih =>
      rw [List.forall_mem_append] at hInBatch
      obtain ⟨covering, remaining, hBefore⟩ := hInBatch.2 (s, action) (by simp)
      have hSoFar := ih hInBatch.1 hBefore
      have hOneMore : ∀ {others}, (∀ visited ∈ others,
            ¬ TakesTurn below (event :: rest) visited) →
          ¬ TakesTurn below (event :: rest) (s, action) →
          ∀ visited ∈ others ++ [(s, action)], ¬ TakesTurn below (event :: rest) visited :=
        fun hNone hLast =>
          List.forall_mem_append.mpr ⟨hNone, List.forall_mem_singleton.mpr hLast⟩
      rcases batch_step (LoopThread.moves_of_step hStep) hBefore hStack with
        ⟨rfl, hNoTurn⟩ | ⟨handled, rfl, hTurn⟩
      · -- nothing is handled
        rcases hSoFar with ⟨hToCome, hNone⟩ | ⟨hPast, before, turn, after, rfl, hOnce, hNone⟩
        · exact Or.inl ⟨hToCome, hOneMore hNone (hNoTurn _)⟩
        · refine Or.inr ⟨hPast, before, turn, after ++ [(s, action)], by simp, hOnce, ?_⟩
          rw [← List.append_assoc]
          exact hOneMore hNone (hNoTurn _)
      · -- the first remaining event is handled; it is the one in question or not
        have hOther : event :: rest ≠ handled :: left →
            ¬ TakesTurn below (event :: rest) (s, action) := by
          intro hEvents hTaken
          have hSame := hTaken.2.symm.trans hTurn.2
          exact hEvents (by simpa using hSame)
        rcases hSoFar with ⟨hToCome, hNone⟩ | ⟨hPast, before, turn, after, rfl, hOnce, hNone⟩
        · rcases List.suffix_cons_iff.mp hToCome with hNow | hLater
          · obtain ⟨rfl, rfl⟩ := List.cons.inj hNow
            refine Or.inr ⟨List.suffix_rfl, steps, (s, action), [], rfl, hTurn, ?_⟩
            rw [List.append_nil]
            exact hNone
          · refine Or.inl ⟨hLater, hOneMore hNone (hOther ?_)⟩
            intro hSame
            have hLength := hLater.length_le
            rw [hSame, List.length_cons] at hLength
            omega
        · refine Or.inr ⟨(List.suffix_cons handled left).trans hPast, before, turn,
            after ++ [(s, action)], by simp, hOnce, ?_⟩
          rw [← List.append_assoc]
          refine hOneMore hNone (hOther ?_)
          intro hSame
          have hLength := hPast.length_le
          rw [← (List.cons.inj hSame).2, List.length_cons] at hLength
          have hEqual := congrArg List.length hSame
          simp only [List.length_cons] at hEqual
          omega

/-- Handling an event of a registered handler calls back, once and with a
non-zero mask, exactly if a reported bit is in the handler's mask. -/
theorem turn_calls_back_iff {s : LoopThread CallbackFunc EventHandlerFunc}
    (hInv : LifetimeInvariant s) (hAsks : s.loop.AsksTranslated)
    {event : Event ObjectId} {rest : List (Event ObjectId)}
    {below : List (Frame EventHandlerFunc)}
    (hStack : s.stack = .run (.handling (event :: rest)) :: below)
    {fd : Fd} {handler : FdHandler CallbackFunc}
    (hHandler : s.loop.fdHandlers.lookup fd = some handler)
    (hData : handler.object = event.data) :
    ∃ t calls, s.step .proceed = some (t, calls) ∧
      ((∃ eventMask, eventMask ≠ 0 ∧
          calls = [.dispatched handler.callback handler.fd eventMask]) ↔
        event.events &&& handler.epollEvents ≠ 0) := by
  -- the pointer leads to this handler and no other
  have hResolve : s.loop.resolve event.data = some handler := by
    obtain ⟨found, hFound, hObject, other, hOther⟩ :=
      EventLoopImpl.resolve_of_registered (⟨handler, ⟨fd, hHandler⟩, hData⟩ :
        Owns s.loop.fdHandlers event.data)
    have hAt := objectAt_of_lookup hOther
    rw [hObject, ← hData] at hAt
    obtain rfl := hInv.separated.injective _ _ _ hAt (objectAt_of_lookup hHandler)
    rw [hFound]
    exact hOther.symm.trans hHandler
  have hStep : s.step .proceed = s.handleEpollEvent event (.run (.handling rest) :: below) := by
    simp only [LoopThread.step, hStack, LoopThread.proceedRun]
  have hMask : convertToLocalEvents (event.events &&& handler.epollEvents) ≠ 0 ↔
      event.events &&& handler.epollEvents ≠ 0 := by
    obtain ⟨eventMask, hTranslated⟩ := hAsks fd handler hHandler
    rw [convertToLocalEvents_ne_zero_iff, BitVec.and_assoc, hTranslated,
      convertToEpollEvents_and]
  by_cases hReported : event.events &&& handler.epollEvents = 0
  · have hZero : convertToLocalEvents (event.events &&& handler.epollEvents) = 0 :=
      not_ne_iff.mp (hMask.not.mpr (not_ne_iff.mpr hReported))
    refine ⟨{ s with stack := .run (.handling rest) :: below }, [], ?_, ?_⟩
    · rw [hStep]
      simp [LoopThread.handleEpollEvent, hResolve, hZero]
    · exact iff_of_false (by simp) (not_ne_iff.mpr hReported)
  · refine ⟨{ s with
        stack := .callback handler.object :: .executeScheduledEvents ::
          .run (.handling rest) :: below },
      [.dispatched handler.callback handler.fd
        (convertToLocalEvents (event.events &&& handler.epollEvents))], ?_,
      iff_of_true ⟨_, hMask.mpr hReported, rfl⟩ hReported⟩
    rw [hStep]
    simpa [LoopThread.handleEpollEvent, hResolve] using hMask.mpr hReported

/-- For every batch and everything that happens while it is handled: an event
of a handler that is registered when `epoll_wait` returns has exactly one turn,
and if nobody removed or updated the handler before, this turn is one call of
its callback with a non-zero mask exactly if one of the reported bits is in the
handler's mask; for the bits epoll reports, exactly if there are others than
`EPOLLERR` and `EPOLLHUP` among them. -/
theorem live_event_called_back_iff
    {steps : List (LoopThread CallbackFunc EventHandlerFunc ×
      Action CallbackFunc EventHandlerFunc)}
    {history : List (Output CallbackFunc EventHandlerFunc)}
    {s captured : LoopThread CallbackFunc EventHandlerFunc}
    (run : (runSystem CallbackFunc EventHandlerFunc).Run steps history s)
    {below : List (Frame EventHandlerFunc)} (hWaiting : s.stack = .run .waiting :: below)
    {earlier rest : List (Event ObjectId)} {event : Event ObjectId}
    (hBatch : s.step (.epollWaitReturns (.events (earlier ++ event :: rest))) =
      some (captured, []))
    {fd : Fd} {handler : FdHandler CallbackFunc}
    (hLive : s.loop.fdHandlers.lookup fd = some handler)
    (hData : handler.object = event.data)
    {later : List (LoopThread CallbackFunc EventHandlerFunc ×
      Action CallbackFunc EventHandlerFunc)}
    {new : List (Output CallbackFunc EventHandlerFunc)}
    {t : LoopThread CallbackFunc EventHandlerFunc}
    (onward : ((runSystem CallbackFunc EventHandlerFunc).startingAt captured).Run later
      new t)
    (hInBatch : ∀ visited ∈ later, InBatch below visited.1)
    {above : List (Frame EventHandlerFunc)} {left : List (Event ObjectId)}
    (hStack : t.stack = above ++ .run (.handling left) :: below) (hPast : left <:+ rest) :
    ∃ before turn after, later = before ++ turn :: after ∧
      TakesTurn below (event :: rest) turn ∧
      (∀ visited ∈ before ++ after, ¬ TakesTurn below (event :: rest) visited) ∧
      (EveryStep (fun s action => ¬ Touches fd s action) before →
        ∃ next calls, turn.1.step .proceed = some (next, calls) ∧
          ((∃ eventMask, eventMask ≠ 0 ∧
              calls = [.dispatched handler.callback handler.fd eventMask]) ↔
            event.events &&& handler.epollEvents ≠ 0)) ∧
      (event.events &&& (handler.epollEvents ||| (epollErr ||| epollHup)) = event.events →
        (event.events &&& handler.epollEvents ≠ 0 ↔
          event.events &&& ~~~(epollErr ||| epollHup) ≠ 0)) := by
  cases LoopThread.moves_of_step hBatch with
  | batch hTop =>
      obtain ⟨_, rfl⟩ := List.cons.inj (hWaiting.symm.trans hTop)
      rcases turns_of_batch rfl onward hInBatch hStack with
        ⟨hToCome, _⟩ | ⟨_, before, turn, after, rfl, hTurn, hOnce⟩
      · -- its turn is over
        have hLength := Nat.le_trans hToCome.length_le hPast.length_le
        rw [List.length_cons] at hLength
        omega
      · refine ⟨before, turn, after, rfl, hTurn, hOnce, ?_, ?_⟩
        · intro hUntouched
          obtain ⟨between, reached⟩ := onward.before
          have hCapture : (runSystem CallbackFunc EventHandlerFunc).step s
              (.epollWaitReturns (.events (earlier ++ event :: rest))) = some (_, []) := hBatch
          have reachable := (run.next hCapture).followed reached
          have hHandler : turn.1.loop.fdHandlers.lookup fd = some handler := by
            refine reached.invariant (fun s action => ¬ Touches fd s action)
              (fun _ s => s.loop.fdHandlers.lookup fd = some handler) ?_ ?_ hUntouched
            · intro s hStart
              rw [show s = _ from hStart]
              exact hLive
            · intro _ s action t new hHandler hOther hStep
              exact keeps_untouched (LoopThread.moves_of_step hStep) hHandler hOther
          exact turn_calls_back_iff (lifetimeInvariant_of_run reachable)
            (asksTranslated_of_run reachable) hTurn.2 hHandler hData
        · intro hReported
          obtain ⟨eventMask, hTranslated⟩ := asksTranslated_of_run run fd handler hLive
          rw [reported_and_not_always _ hReported]
          rw [hTranslated, convertToEpollEvents_and]

/-! ## A readable and a hung-up descriptor -/

/-- Descriptor 5 is registered for reading and `run()` waits. -/
def readerWaits : LoopThread Unit Unit where
  loop :=
    { epfd := 3
      threadId := 0
      isRunning := true
      fdHandlers := AList.singleton 5 ⟨0, 5, epollIn, ()⟩
      removedFdHandlers := ∅
      scheduledEvents := []
      interestList := AList.singleton 5 ⟨epollIn, 0⟩
      nextObject := 1 }
  stack := [.run .waiting]

theorem readerWaits_reachable : ∃ steps,
    (runSystem Unit Unit).Run steps
      [.returned (.addFdHandler 5 fdEventIn ()) .normal, .enteredEpollWait] readerWaits :=
  ⟨_, run_of_replay { loop := .construct 0, stack := [] }
    [.call 0 ⟨3, true⟩ (.addFdHandler 5 fdEventIn ()),
      .run 0, .proceed, .proceed, .proceed, .proceed] ⟨0, rfl⟩ rfl⟩

/-- The same loop with a batch of one event. -/
def readerHandles (events : EventMask) : LoopThread Unit Unit :=
  { readerWaits with stack := [.run (.handling [⟨events, 0⟩])] }

/-- The same loop in the callback, after its only event. -/
def readerCalled : LoopThread Unit Unit :=
  { readerWaits with stack := [.callback 0, .executeScheduledEvents, .run (.handling [])] }

/-- With data to read besides the hang-up, the callback is called. -/
theorem readable_called_back :
    ∃ next eventMask, eventMask ≠ 0 ∧
      (readerHandles (epollIn ||| epollHup)).step .proceed =
        some (next, [.dispatched () 5 eventMask]) := by
  obtain ⟨steps, run⟩ := readerWaits_reachable
  have hBatch : readerWaits.step (.epollWaitReturns
      (.events ([] ++ ⟨epollIn ||| epollHup, 0⟩ :: []))) =
    some (readerHandles (epollIn ||| epollHup), []) := rfl
  have hLive : readerWaits.loop.fdHandlers.lookup 5 = some ⟨0, 5, epollIn, ()⟩ := rfl
  have onward : ((runSystem Unit Unit).startingAt (readerHandles (epollIn ||| epollHup))).Run
      [(readerHandles (epollIn ||| epollHup), .proceed)] [.dispatched () 5 fdEventIn]
      readerCalled := .next (.start rfl) rfl
  have hStack : readerCalled.stack =
    [.callback 0, .executeScheduledEvents] ++ .run (.handling []) :: [] := rfl
  obtain ⟨before, turn, after, hLater, _, _, hCalls, _⟩ :=
    live_event_called_back_iff run rfl hBatch hLive rfl onward
      (fun visited hVisited => ⟨[], [⟨epollIn ||| epollHup, 0⟩], by
        rw [List.mem_singleton.mp hVisited]
        rfl⟩) hStack List.suffix_rfl
  -- the only step is the turn
  rcases List.append_eq_singleton_iff.mp hLater.symm with ⟨rfl, hTurn⟩ | ⟨_, hNone⟩
  · obtain ⟨rfl, rfl⟩ := List.cons.inj hTurn
    obtain ⟨next, calls, hStep, hIff⟩ := hCalls (everyStep_nil _)
    obtain ⟨eventMask, hMask, rfl⟩ := hIff.mpr (by decide)
    exact ⟨next, eventMask, hMask, hStep⟩
  · cases hNone

/-- Nobody is told of a hang-up alone, although the handler is registered and
untouched and the event is one epoll reports for it. -/
theorem hangUp_swallowed :
    (∃ steps, (runSystem Unit Unit).Run steps
      [.returned (.addFdHandler 5 fdEventIn ()) .normal, .enteredEpollWait] readerWaits) ∧
    readerWaits.loop.fdHandlers.lookup 5 = some ⟨0, 5, epollIn, ()⟩ ∧
    epollHup ≠ 0 ∧ epollHup &&& (epollIn ||| (epollErr ||| epollHup)) = epollHup ∧
    readerWaits.step (.epollWaitReturns (.events [⟨epollHup, 0⟩])) =
      some (readerHandles epollHup, []) ∧
    (readerHandles epollHup).step .proceed =
      some ({ readerWaits with stack := [.run (.handling [])] }, []) :=
  ⟨readerWaits_reachable, rfl, by decide, by decide, rfl, rfl⟩

end EventLoop
end UtilsFramework
