import UtilsFramework.EventLoop.Run

/-!
# The handler map and the interest list

`m_fdHandlers` and the kernel's interest list are two copies of one state.
`Coherent` says that they agree; the file determines exactly which steps of the
loop keep them in agreement.  `addFdHandler` edits the map only after
`epoll_ctl` succeeded.  `updateFdEvents` writes the object first and keeps the
new bits when `EPOLL_CTL_MOD` fails; `removeFdHandler` drops the handler
whether or not `EPOLL_CTL_DEL` succeeded.  Nothing else touches either side.
-/

namespace UtilsFramework
namespace EventLoop

open Library
open Library.Epoll
open Library.TransitionSystem

variable {CallbackFunc EventHandlerFunc : Type}

namespace EventLoopImpl

/-- The registered descriptors are those of the handler map, each with the
event bits and the address of its handler. -/
def Coherent (loop : EventLoopImpl CallbackFunc EventHandlerFunc) : Prop :=
  ∀ fd, loop.interestList.lookup fd = (loop.fdHandlers.lookup fd).map interestOf

/-- Both sides map every descriptor to what they mapped it to before. -/
def SidesUnchanged (loop next : EventLoopImpl CallbackFunc EventHandlerFunc) : Prop :=
  ∀ fd, next.fdHandlers.lookup fd = loop.fdHandlers.lookup fd ∧
    next.interestList.lookup fd = loop.interestList.lookup fd

/-- No `epoll_ctl` of the call fails in a way its caller does not undo: a
modification that fails would not have changed the bits, and no deletion
fails. -/
def CallKeepsSides (loop : EventLoopImpl CallbackFunc EventHandlerFunc)
    (caller : ThreadId) (syscalls : Syscalls) :
    Call CallbackFunc EventHandlerFunc → Prop
  | .updateFdEvents fd eventMask =>
      loop.threadId = caller → convertToEpollEvents eventMask ≠ 0 →
      ∀ handler ∈ loop.fdHandlers.lookup fd,
        syscalls.epollCtlSucceeds = true ∨
          convertToEpollEvents eventMask = handler.epollEvents
  | .removeFdHandler fd =>
      loop.threadId = caller → fd ∈ loop.fdHandlers → syscalls.epollCtlSucceeds = true
  | _ => True

instance (loop : EventLoopImpl CallbackFunc EventHandlerFunc) (caller : ThreadId)
    (syscalls : Syscalls) (call : Call CallbackFunc EventHandlerFunc) :
    Decidable (loop.CallKeepsSides caller syscalls call) :=
  match call with
  | .updateFdEvents fd eventMask =>
      inferInstanceAs (Decidable (loop.threadId = caller →
        convertToEpollEvents eventMask ≠ 0 →
        ∀ handler ∈ loop.fdHandlers.lookup fd,
          syscalls.epollCtlSucceeds = true ∨
            convertToEpollEvents eventMask = handler.epollEvents))
  | .removeFdHandler fd =>
      inferInstanceAs (Decidable (loop.threadId = caller → fd ∈ loop.fdHandlers →
        syscalls.epollCtlSucceeds = true))
  | .addFdHandler _ _ _ | .scheduleEvent _ | .stop => isTrue trivial

theorem coherent_construct (threadId : ThreadId) :
    (construct threadId : EventLoopImpl CallbackFunc EventHandlerFunc).Coherent := by
  intro fd
  simp [construct]

theorem Coherent.mem_iff {loop : EventLoopImpl CallbackFunc EventHandlerFunc}
    (hCoherent : loop.Coherent) (fd : Fd) :
    fd ∈ loop.interestList ↔ fd ∈ loop.fdHandlers := by
  rw [← AList.lookup_isSome, ← AList.lookup_isSome, hCoherent fd, Option.isSome_map]

theorem SidesUnchanged.of_eq {loop next : EventLoopImpl CallbackFunc EventHandlerFunc}
    (hHandlers : next.fdHandlers = loop.fdHandlers)
    (hInterest : next.interestList = loop.interestList) :
    loop.SidesUnchanged next := by
  intro fd
  rw [hHandlers, hInterest]
  exact ⟨rfl, rfl⟩

theorem SidesUnchanged.coherent
    {loop next : EventLoopImpl CallbackFunc EventHandlerFunc}
    (hSame : loop.SidesUnchanged next) (hCoherent : loop.Coherent) :
    next.Coherent := by
  intro fd
  rw [(hSame fd).1, (hSame fd).2]
  exact hCoherent fd

/-- Writing back the handler that is there changes nothing. -/
theorem SidesUnchanged.of_insert_same
    {loop : EventLoopImpl CallbackFunc EventHandlerFunc} {fd : Fd}
    {handler : FdHandler CallbackFunc}
    (hHandler : loop.fdHandlers.lookup fd = some handler) :
    loop.SidesUnchanged
      { loop with fdHandlers := loop.fdHandlers.insert fd handler } := by
  intro other
  refine ⟨?_, rfl⟩
  by_cases hOther : other = fd
  · subst hOther
    rw [AList.lookup_insert, hHandler]
  · rw [AList.lookup_insert_ne hOther]

/-- Writing the same descriptor on both sides keeps them in agreement. -/
theorem Coherent.insert {loop next : EventLoopImpl CallbackFunc EventHandlerFunc}
    (hCoherent : loop.Coherent) {fd : Fd} {handler : FdHandler CallbackFunc}
    (hHandlers : next.fdHandlers = loop.fdHandlers.insert fd handler)
    (hInterest : next.interestList = loop.interestList.insert fd (interestOf handler)) :
    next.Coherent := by
  intro other
  rw [hHandlers, hInterest]
  by_cases hOther : other = fd
  · subst hOther
    rw [AList.lookup_insert, AList.lookup_insert, Option.map_some]
  · rw [AList.lookup_insert_ne hOther, AList.lookup_insert_ne hOther]
    exact hCoherent other

/-- Deleting the same descriptor on both sides keeps them in agreement. -/
theorem Coherent.erase {loop next : EventLoopImpl CallbackFunc EventHandlerFunc}
    (hCoherent : loop.Coherent) {fd : Fd}
    (hHandlers : next.fdHandlers = loop.fdHandlers.erase fd)
    (hInterest : next.interestList = loop.interestList.erase fd) :
    next.Coherent := by
  intro other
  rw [hHandlers, hInterest]
  by_cases hOther : other = fd
  · subst hOther
    rw [AList.lookup_erase, AList.lookup_erase, Option.map_none]
  · rw [AList.lookup_erase_ne hOther, AList.lookup_erase_ne hOther]
    exact hCoherent other

/-! ## The three operations -/

/-- `addFdHandler` needs no condition: it edits both sides or neither. -/
theorem addFdHandler_keeps_sides
    {loop next : EventLoopImpl CallbackFunc EventHandlerFunc} {caller : ThreadId}
    {syscalls : Syscalls} {fd : Fd} {eventMask : EventMask} {callback : CallbackFunc}
    {rc : ReturnCode} (hCoherent : loop.Coherent)
    (hAdd : loop.addFdHandler caller syscalls fd eventMask callback = (rc, next)) :
    (rc ≠ .normal → loop.SidesUnchanged next) ∧ next.Coherent := by
  rcases addFdHandler_cases hAdd with
    ⟨hError, epfd, nextObject, _, rfl⟩ | ⟨rfl, _, _, epfd, rfl⟩
  · have hSame : loop.SidesUnchanged
        { loop with epfd := epfd, nextObject := nextObject } := .of_eq rfl rfl
    exact ⟨fun _ => hSame, hSame.coherent hCoherent⟩
  · exact ⟨fun hError => absurd rfl hError, hCoherent.insert rfl rfl⟩

/-- `updateFdEvents` is harmless exactly when its modification succeeds or
would have changed nothing. -/
theorem updateFdEvents_keeps_sides_iff
    {loop next : EventLoopImpl CallbackFunc EventHandlerFunc} {caller : ThreadId}
    {syscalls : Syscalls} {fd : Fd} {eventMask : EventMask} {rc : ReturnCode}
    (hCoherent : loop.Coherent)
    (hUpdate : loop.updateFdEvents caller syscalls fd eventMask = (rc, next)) :
    ((rc ≠ .normal → loop.SidesUnchanged next) ∧ next.Coherent) ↔
      loop.CallKeepsSides caller syscalls (.updateFdEvents fd eventMask) := by
  rcases updateFdEvents_cases hUpdate with
    ⟨rfl, hEarly⟩ | ⟨hThread, hBits, handler, hHandler, hOutcome⟩
  · refine iff_of_true ⟨fun _ => .of_eq rfl rfl, hCoherent⟩ ?_
    intro hThread hBits handler hHandler
    rcases hEarly with hForeign | hNotMem | hZero
    · exact absurd hThread hForeign
    · rw [AList.lookup_eq_none.mpr hNotMem] at hHandler
      cases hHandler
    · exact absurd hZero hBits
  have hMem : fd ∈ loop.fdHandlers := AList.lookup_isSome.mp (by rw [hHandler]; rfl)
  rcases hOutcome with ⟨rfl, hFails, rfl⟩ | ⟨rfl, hSucceeds, rfl⟩
  · have hCtl : syscalls.epollCtlSucceeds = false := by
      by_contra hTrue
      have hInterested := (hCoherent.mem_iff fd).mpr hMem
      exact hFails (by simpa using hTrue) hInterested
    constructor
    · rintro ⟨-, hNext⟩ - - found hFound
      obtain rfl : handler = found := Option.some.inj (hHandler.symm.trans hFound)
      -- the kernel still has the old bits, so the object must have them too
      have hAgree := hNext fd
      simp only [AList.lookup_insert, hCoherent fd, hHandler, Option.map_some,
        interestOf, Option.some.injEq, Interest.mk.injEq] at hAgree
      exact Or.inr hAgree.1.symm
    · intro hKeeps
      have hEvents : convertToEpollEvents eventMask = handler.epollEvents := by
        rcases hKeeps hThread hBits handler hHandler with hTrue | hSame
        · rw [hCtl] at hTrue
          cases hTrue
        · exact hSame
      have hUpdated :
          { handler with epollEvents := convertToEpollEvents eventMask } = handler := by
        rw [hEvents]
      rw [hUpdated]
      have hSame := SidesUnchanged.of_insert_same hHandler
      exact ⟨fun _ => hSame, hSame.coherent hCoherent⟩
  · refine iff_of_true ⟨fun hError => absurd rfl hError, hCoherent.insert rfl rfl⟩ ?_
    exact fun _ _ _ _ => Or.inl hSucceeds

/-- `removeFdHandler` is harmless exactly when its deletion succeeds. -/
theorem removeFdHandler_keeps_sides_iff
    {loop next : EventLoopImpl CallbackFunc EventHandlerFunc} {caller : ThreadId}
    {syscalls : Syscalls} {fd : Fd} {rc : ReturnCode} (hCoherent : loop.Coherent)
    (hRemove : loop.removeFdHandler caller syscalls fd = (rc, next)) :
    ((rc ≠ .normal → loop.SidesUnchanged next) ∧ next.Coherent) ↔
      loop.CallKeepsSides caller syscalls (.removeFdHandler fd) := by
  rcases removeFdHandler_cases hRemove with
    ⟨rfl, hEarly⟩ | ⟨hThread, rfl, handler, hHandler, rfl⟩
  · refine iff_of_true ⟨fun _ => .of_eq rfl rfl, hCoherent⟩ ?_
    intro hThread hMem
    rcases hEarly with hForeign | hNotMem
    · exact absurd hThread hForeign
    · exact absurd hMem hNotMem
  have hMem : fd ∈ loop.fdHandlers := AList.lookup_isSome.mp (by rw [hHandler]; rfl)
  have hRegistered : fd ∈ loop.interestList := (hCoherent.mem_iff fd).mpr hMem
  constructor
  · rintro ⟨-, hNext⟩ - -
    by_contra hFails
    rw [Bool.not_eq_true] at hFails
    -- the handler is gone and the kernel still reports the descriptor
    have hAgree := hNext fd
    simp only [hFails, epollCtl_fails, Option.getD_none, AList.lookup_erase,
      Option.map_none] at hAgree
    exact AList.lookup_eq_none.mp hAgree hRegistered
  · intro hKeeps
    refine ⟨fun hError => absurd rfl hError, hCoherent.erase rfl ?_⟩
    simp only [hKeeps hThread hMem, epollCtl_delete_of_mem hRegistered,
      Option.getD_some]

theorem callKeepsSides_of_succeeds
    {loop : EventLoopImpl CallbackFunc EventHandlerFunc} {caller : ThreadId}
    {syscalls : Syscalls} {call : Call CallbackFunc EventHandlerFunc}
    (hSucceeds : syscalls.epollCtlSucceeds = true) :
    loop.CallKeepsSides caller syscalls call := by
  cases call with
  | updateFdEvents fd eventMask => exact fun _ _ _ _ => Or.inl hSucceeds
  | removeFdHandler fd => exact fun _ _ => hSucceeds
  | addFdHandler | scheduleEvent | stop => trivial

/-- The exact criterion for one call of the interface. -/
theorem perform_keeps_sides_iff
    {loop next : EventLoopImpl CallbackFunc EventHandlerFunc} {caller : ThreadId}
    {syscalls : Syscalls} {call : Call CallbackFunc EventHandlerFunc}
    {rc : ReturnCode} (hCoherent : loop.Coherent)
    (hPerform : loop.perform caller syscalls call = (rc, next)) :
    ((rc ≠ .normal → loop.SidesUnchanged next) ∧ next.Coherent) ↔
      loop.CallKeepsSides caller syscalls call := by
  cases call with
  | addFdHandler fd eventMask callback =>
      exact iff_of_true (addFdHandler_keeps_sides hCoherent hPerform) trivial
  | updateFdEvents fd eventMask =>
      exact updateFdEvents_keeps_sides_iff hCoherent hPerform
  | removeFdHandler fd =>
      exact removeFdHandler_keeps_sides_iff hCoherent hPerform
  | scheduleEvent eventHandler =>
      have hSame : loop.SidesUnchanged next := by
        rcases scheduleEvent_cases hPerform with ⟨_, rfl⟩ | ⟨_, rfl⟩
        · exact .of_eq rfl rfl
        · exact .of_eq rfl rfl
      exact iff_of_true ⟨fun _ => hSame, hSame.coherent hCoherent⟩ trivial
  | stop =>
      have hSame : loop.SidesUnchanged next := by
        rcases stop_cases hPerform with ⟨_, rfl⟩ | ⟨_, rfl⟩
        · exact .of_eq rfl rfl
        · exact .of_eq rfl rfl
      exact iff_of_true ⟨fun _ => hSame, hSame.coherent hCoherent⟩ trivial

end EventLoopImpl

/-! ## Whole runs of the loop -/

/-- A call that reports an error leaves both sides as they were. -/
def ErrorLeavesSides (s : LoopThread CallbackFunc EventHandlerFunc)
    (_ : Action CallbackFunc EventHandlerFunc)
    (new : List (Output CallbackFunc EventHandlerFunc))
    (t : LoopThread CallbackFunc EventHandlerFunc) : Prop :=
  ∀ call rc, Output.returned call rc ∈ new → rc ≠ .normal →
    s.loop.SidesUnchanged t.loop

/-- The step is not a call whose failing `epoll_ctl` separates the two sides. -/
def StepKeepsSides (s : LoopThread CallbackFunc EventHandlerFunc) :
    Action CallbackFunc EventHandlerFunc → Prop
  | .call caller syscalls call => s.loop.CallKeepsSides caller syscalls call
  | _ => True

instance (s : LoopThread CallbackFunc EventHandlerFunc)
    (action : Action CallbackFunc EventHandlerFunc) : Decidable (StepKeepsSides s action) :=
  match action with
  | .call caller syscalls call =>
      inferInstanceAs (Decidable (s.loop.CallKeepsSides caller syscalls call))
  | .run _ | .userReturns | .epollWaitReturns _ | .signalStop | .proceed => isTrue trivial

theorem LoopThread.Moves.keeps_sides_iff
    {s t : LoopThread CallbackFunc EventHandlerFunc}
    {action : Action CallbackFunc EventHandlerFunc}
    {new : List (Output CallbackFunc EventHandlerFunc)}
    (hCoherent : s.loop.Coherent) (moves : LoopThread.Moves s action t new) :
    ErrorLeavesSides s action new t ∧ t.loop.Coherent ↔ StepKeepsSides s action := by
  by_cases hCall : ∃ caller syscalls call, action = .call caller syscalls call
  · obtain ⟨caller, syscalls, call, rfl⟩ := hCall
    cases moves with
    | @call _ _ _ rc loop _ hPerform =>
        have hExact := EventLoopImpl.perform_keeps_sides_iff hCoherent hPerform
        simpa [ErrorLeavesSides, StepKeepsSides] using hExact
  · push Not at hCall
    obtain ⟨hHandlers, hInterest, _⟩ := moves.keeps_registry hCall
    have hSame : s.loop.SidesUnchanged t.loop := .of_eq hHandlers hInterest
    refine iff_of_true ⟨fun _ _ _ _ => hSame, hSame.coherent hCoherent⟩ ?_
    cases action with
    | call caller syscalls call => exact absurd rfl (hCall caller syscalls call)
    | _ => trivial

/-- In every run of the loop, map and interest list agree in every state and
every failing call leaves both alone, exactly if no step of the run is an
`updateFdEvents` with new bits whose `EPOLL_CTL_MOD` fails, or a
`removeFdHandler` whose `EPOLL_CTL_DEL` fails. -/
theorem run_coherent_iff
    {steps : List (LoopThread CallbackFunc EventHandlerFunc ×
      Action CallbackFunc EventHandlerFunc)}
    {history : List (Output CallbackFunc EventHandlerFunc)}
    {s : LoopThread CallbackFunc EventHandlerFunc}
    (run : (runSystem CallbackFunc EventHandlerFunc).Run steps history s) :
    (runSystem CallbackFunc EventHandlerFunc).Always
        (fun _ s => s.loop.Coherent) ErrorLeavesSides steps history s ↔
      EveryStep StepKeepsSides steps := by
  refine run.always_iff_everyStep (fun _ _ => True) ?_ ?_ ?_
  · rintro s ⟨threadId, rfl⟩
    exact ⟨trivial, EventLoopImpl.coherent_construct threadId⟩
  · exact fun _ _ _ _ _ _ _ _ _ _ => trivial
  · intro history s action t new _ hCoherent hStep
    exact (LoopThread.moves_of_step hStep).keeps_sides_iff hCoherent

/-- A failing `EPOLL_CTL_ADD` and a failing switch to the bits already set are
harmless. -/
theorem harmless_failures_coherent : ∃ steps s,
    (runSystem Unit Unit).Always (fun _ s => s.loop.Coherent) ErrorLeavesSides steps
      [.returned (.addFdHandler 5 fdEventIn ()) .normal,
        .returned (.addFdHandler 6 fdEventIn ()) .internalFault,
        .returned (.updateFdEvents 5 fdEventIn) .internalFault] s :=
  ⟨_, _, (run_coherent_iff (run_of_replay
    { loop := .construct 0, stack := [] }
    [.call 0 ⟨3, true⟩ (.addFdHandler 5 fdEventIn ()),
      .call 0 ⟨-1, false⟩ (.addFdHandler 6 fdEventIn ()),
      .call 0 ⟨-1, false⟩ (.updateFdEvents 5 fdEventIn)]
    ⟨0, rfl⟩ rfl)).mpr (by decide)⟩

/-- Register descriptor 5 for reading, then fail to switch it to writing. -/
def failedUpdate : List (Action Unit Unit) :=
  [.call 0 ⟨3, true⟩ (.addFdHandler 5 fdEventIn ()),
    .call 0 ⟨-1, false⟩ (.updateFdEvents 5 fdEventOut)]

/-- The loop after `failedUpdate`: the kernel watches for reading, the object
says writing. -/
def afterFailedUpdate : EventLoopImpl Unit Unit :=
  { EventLoopImpl.construct 0 with
    epfd := 3
    fdHandlers := AList.singleton 5 ⟨0, 5, epollOut, ()⟩
    interestList := AList.singleton 5 ⟨epollIn, 0⟩
    nextObject := 1 }

/-- A failed `updateFdEvents` reports an error and leaves the two sides apart. -/
theorem failedUpdate_not_coherent :
    (∃ steps, (runSystem Unit Unit).Run steps
      [.returned (.addFdHandler 5 fdEventIn ()) .normal,
        .returned (.updateFdEvents 5 fdEventOut) .internalFault]
      { loop := afterFailedUpdate, stack := [] }) ∧
    ¬ afterFailedUpdate.Coherent := by
  constructor
  · exact ⟨_, run_of_replay { loop := .construct 0, stack := [] } failedUpdate
      ⟨0, rfl⟩ rfl⟩
  · intro hCoherent
    have hFive := hCoherent 5
    revert hFive
    decide

end EventLoop
end UtilsFramework
