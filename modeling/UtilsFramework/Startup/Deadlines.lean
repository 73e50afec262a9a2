import UtilsFramework.Startup.AllOrNothing

/-!
# The deadlines of a call

`prepareModule` gives a module its deadline, the timeout of the call in seconds after
the time at which the module is prepared.  Responders are numbered in the order in
which they are made, so the deadlines of a run can be read off its `prepare` steps.

If the deadlines are 64-bit dates, those that the responders have are the ones that
were given, and they are in the order in which a call waits for them.
-/

namespace UtilsFramework
namespace Startup

open Library
open Library.TransitionSystem

variable {Allocator Module : Type}

/-- The timeout of the call while it prepares modules. -/
def Phase.startupTimeout : Phase Allocator Module → Option Int
  | .preparing startupTimeout _ _ => some startupTimeout
  | .idle | .waiting _ _ | .starting _ => none

namespace StartupRegistryImpl

/-- The deadline of a responder. -/
def timePoint (s : StartupRegistryImpl Allocator Module) (responder : ResponderId) :
    Option Int :=
  s.responders[responder]?.map PreparationPhaseResponderImpl.timePoint

end StartupRegistryImpl

/-- The deadline of a module that is prepared is a 64-bit date. -/
def DeadlineFits (s : StartupRegistryImpl Allocator Module) :
    Action Allocator Module → Prop
  | .prepare _ =>
      ∀ startupTimeout ∈ s.phase.startupTimeout,
        -2 ^ 63 ≤ s.now + startupTimeout * 1000000000 ∧
          s.now + startupTimeout * 1000000000 < 2 ^ 63
  | _ => True

instance (s : StartupRegistryImpl Allocator Module) (action : Action Allocator Module) :
    Decidable (DeadlineFits s action) :=
  match action with
  | .prepare _ => inferInstanceAs (Decidable (∀ startupTimeout ∈ s.phase.startupTimeout,
      -2 ^ 63 ≤ s.now + startupTimeout * 1000000000 ∧
        s.now + startupTimeout * 1000000000 < 2 ^ 63))
  | .registerModuleAllocator _ | .startAllModules _ | .endPreparation | .ready _ _
  | .wait | .endWaiting | .start | .endStarting | .elapse _ => isTrue trivial

/-- The deadline of the module that a step prepares. -/
def deadlineOf (s : StartupRegistryImpl Allocator Module) :
    Action Allocator Module → Option Int
  | .prepare _ =>
      s.phase.startupTimeout.map fun startupTimeout => s.now + startupTimeout * 1000000000
  | _ => none

/-- The deadlines of all modules that have been prepared, by their responders. -/
def deadlines (steps : List (StartupRegistryImpl Allocator Module × Action Allocator Module)) :
    List Int :=
  steps.filterMap fun visited => deadlineOf visited.1 visited.2

/-- What a step adds to the deadlines of the calls, the latest of which comes first. -/
def observeDeadline (calls : List (List Int))
    (visited : StartupRegistryImpl Allocator Module × Action Allocator Module) :
    List (List Int) :=
  match visited.2, calls with
  | .startAllModules _, calls => [] :: calls
  | .prepare _, call :: earlier =>
      (call ++ (deadlineOf visited.1 visited.2).toList) :: earlier
  | _, calls => calls

/-- The deadlines of the modules of each call, the latest call first. -/
def callDeadlines
    (steps : List (StartupRegistryImpl Allocator Module × Action Allocator Module)) :
    List (List Int) :=
  steps.foldl observeDeadline []

namespace PreparationPhaseResponderImpl

variable {before after : PreparationPhaseResponderImpl}

theorem timePoint_of_ready {success : Bool} (hReady : before.ready success = some after) :
    after.timePoint = before.timePoint := by
  rw [after_of_ready hReady]

theorem timePoint_of_wait {now : Int} {outcome : Option Bool}
    (hWait : before.wait now = some (outcome, after)) : after.timePoint = before.timePoint := by
  rw [after_of_wait hWait]

end PreparationPhaseResponderImpl

/-! ## The order of the deadlines -/

namespace StartupRegistryImpl

variable {s t : StartupRegistryImpl Allocator Module} {action : Action Allocator Module}
  {history new : List (Output Allocator Module)}

/-- The responders of a call have their deadlines in the order in which they are
waited for; while modules are prepared, the next deadline is not earlier. -/
structure DeadlinesInOrder (s : StartupRegistryImpl Allocator Module) : Prop where
  inOrder : (s.phase.pending.filterMap s.timePoint).Pairwise (· ≤ ·)
  next : ∀ startupTimeout ∈ s.phase.startupTimeout,
    ∀ timePoint ∈ s.phase.pending.filterMap s.timePoint,
      timePoint ≤ s.now + startupTimeout * 1000000000

theorem timePoint_eq {responder : ResponderId} {resp : PreparationPhaseResponderImpl}
    (hResp : s.responders[responder]? = some resp) :
    s.timePoint responder = some resp.timePoint := by
  rw [timePoint, hResp]
  rfl

theorem timePoint_of_set {changed : ResponderId}
    {before after : PreparationPhaseResponderImpl}
    (hBefore : s.responders[changed]? = some before)
    (hTimePoint : after.timePoint = before.timePoint)
    (hResponders : t.responders = s.responders.set changed after) :
    t.timePoint = s.timePoint := by
  funext responder
  rw [timePoint, timePoint, hResponders]
  by_cases hSame : changed = responder
  · subst hSame
    rw [List.getElem?_set_self (List.getElem?_eq_some_iff.mp hBefore).1, hBefore]
    exact congrArg some hTimePoint
  · rw [List.getElem?_set_ne hSame]

theorem timePoints_of_set {changed : ResponderId}
    {before after : PreparationPhaseResponderImpl}
    (hBefore : s.responders[changed]? = some before)
    (hTimePoint : after.timePoint = before.timePoint)
    (hResponders : t.responders = s.responders.set changed after) :
    t.responders.map PreparationPhaseResponderImpl.timePoint =
      s.responders.map PreparationPhaseResponderImpl.timePoint := by
  apply List.ext_getElem?
  intro responder
  rw [List.getElem?_map, List.getElem?_map]
  exact congrFun (timePoint_of_set hBefore hTimePoint hResponders) responder

/-- A step that leaves no call preparing and makes no responder pending. -/
theorem DeadlinesInOrder.of_sublist (hOrder : s.DeadlinesInOrder)
    (hTimePoint : t.timePoint = s.timePoint)
    (hPending : t.phase.pending.Sublist s.phase.pending)
    (hPhase : t.phase.startupTimeout = none) : t.DeadlinesInOrder where
  inOrder := by
    rw [hTimePoint]
    exact hOrder.inOrder.sublist (hPending.filterMap _)
  next := by
    rw [hPhase]
    nofun

/-- A step in a phase that goes on. -/
theorem DeadlinesInOrder.of_same (hOrder : s.DeadlinesInOrder)
    (hTimePoint : t.timePoint = s.timePoint) (hPhase : t.phase = s.phase)
    (hNow : s.now ≤ t.now) : t.DeadlinesInOrder where
  inOrder := by
    rw [hTimePoint, hPhase]
    exact hOrder.inOrder
  next := by
    rw [hTimePoint, hPhase]
    intro startupTimeout hTimeout timePoint hMem
    have hNext := hOrder.next startupTimeout hTimeout timePoint hMem
    omega

/-- The new responder gets the deadline that is due to its module. -/
theorem timePoints_prepareModule {startupTimeout : Int} {remaining : List Allocator}
    {responderVec : List ResponderId} {module : Module}
    (hLow : -2 ^ 63 ≤ s.now + startupTimeout * 1000000000)
    (hHigh : s.now + startupTimeout * 1000000000 < 2 ^ 63) :
    (s.prepareModule startupTimeout remaining responderVec module).responders.map
        PreparationPhaseResponderImpl.timePoint =
      s.responders.map PreparationPhaseResponderImpl.timePoint ++
        [s.now + startupTimeout * 1000000000] := by
  simp [prepareModule, dateAfter_eq hLow hHigh]

/-- The responders made before keep their deadlines. -/
theorem pendingTimePoints_prepareModule (hPending : s.Pending) {startupTimeout : Int}
    {before : List Allocator} {responderVec : List ResponderId}
    (hPhase : s.phase = .preparing startupTimeout before responderVec)
    (hLow : -2 ^ 63 ≤ s.now + startupTimeout * 1000000000)
    (hHigh : s.now + startupTimeout * 1000000000 < 2 ^ 63) (remaining : List Allocator)
    (module : Module) :
    (responderVec ++ [s.responders.length]).filterMap
        (s.prepareModule startupTimeout remaining responderVec module).timePoint =
      responderVec.filterMap s.timePoint ++ [s.now + startupTimeout * 1000000000] := by
  have hValid := hPending.valid
  rw [hPhase] at hValid
  rw [List.filterMap_append]
  congr 1
  · apply List.filterMap_congr
    intro responder hResponder
    obtain ⟨resp, hResp, -⟩ := hValid responder hResponder
    rw [timePoint, timePoint, prepareModule,
      List.getElem?_append_left (List.getElem?_eq_some_iff.mp hResp).1]
  · simp [timePoint, prepareModule, dateAfter_eq hLow hHigh]

theorem DeadlinesInOrder.prepareModule (hOrder : s.DeadlinesInOrder) (hPending : s.Pending)
    {startupTimeout : Int} {before remaining : List Allocator}
    {responderVec : List ResponderId}
    (hPhase : s.phase = .preparing startupTimeout before responderVec)
    (hLow : -2 ^ 63 ≤ s.now + startupTimeout * 1000000000)
    (hHigh : s.now + startupTimeout * 1000000000 < 2 ^ 63) (module : Module) :
    (s.prepareModule startupTimeout remaining responderVec module).DeadlinesInOrder := by
  have hTimePoints :=
    pendingTimePoints_prepareModule hPending hPhase hLow hHigh remaining module
  obtain ⟨hInOrder, hNext⟩ := hOrder
  rw [hPhase] at hInOrder hNext
  have hNext := hNext startupTimeout rfl
  constructor
  · show ((responderVec ++ [s.responders.length]).filterMap _).Pairwise (· ≤ ·)
    rw [hTimePoints, List.pairwise_append]
    refine ⟨hInOrder, List.pairwise_singleton _ _, ?_⟩
    intro earlier hEarlier later hLater
    rw [List.mem_singleton.mp hLater]
    exact hNext earlier hEarlier
  · intro timeout hTimeout
    obtain rfl : startupTimeout = timeout := Option.some.inj hTimeout
    show ∀ timePoint ∈ (responderVec ++ [s.responders.length]).filterMap _, _
    rw [hTimePoints]
    intro timePoint hMem
    rcases List.mem_append.mp hMem with hOld | hNew
    · exact hNext timePoint hOld
    · exact le_of_eq (List.mem_singleton.mp hNew)

theorem DeadlinesInOrder.step (hOrder : s.DeadlinesInOrder) (hPending : s.Pending)
    (hFits : DeadlineFits s action) (moves : Moves s action t new) : t.DeadlinesInOrder := by
  cases moves with
  | registered | threw => exact hOrder.of_same rfl rfl (Int.le_refl _)
  | elapsed => exact hOrder.of_same rfl rfl (Int.le_add_of_nonneg_right (Int.natCast_nonneg _))
  | called => exact ⟨List.Pairwise.nil, nofun⟩
  | prepared hPhase =>
      obtain ⟨hLow, hHigh⟩ := hFits _ (by rw [hPhase]; rfl)
      exact hOrder.prepareModule hPending hPhase hLow hHigh _
  | preparationEnded hPhase =>
      refine hOrder.of_sublist rfl ?_ rfl
      rw [hPhase]
      exact List.Sublist.refl _
  | reported hBefore hAfter =>
      have hSame := PreparationPhaseResponderImpl.timePoint_of_ready hAfter
      exact hOrder.of_same (timePoint_of_set hBefore hSame rfl) rfl (Int.le_refl _)
  | waited hPhase hBefore hAfter =>
      have hSame := PreparationPhaseResponderImpl.timePoint_of_wait hAfter
      refine hOrder.of_sublist (timePoint_of_set hBefore hSame rfl) ?_ rfl
      rw [hPhase]
      exact List.sublist_cons_self _ _
  | succeeded | failed | started | startingEnded =>
      exact hOrder.of_sublist rfl (List.nil_sublist _) rfl

/-- A step gives the deadline that is due, and leaves those given before alone. -/
theorem Moves.timePoints_eq (moves : Moves s action t new) (hFits : DeadlineFits s action) :
    t.responders.map PreparationPhaseResponderImpl.timePoint =
      s.responders.map PreparationPhaseResponderImpl.timePoint ++
        (deadlineOf s action).toList := by
  cases moves with
  | prepared hPhase =>
      obtain ⟨hLow, hHigh⟩ := hFits _ (by rw [hPhase]; rfl)
      rw [timePoints_prepareModule hLow hHigh, deadlineOf, hPhase]
      rfl
  | reported hBefore hAfter =>
      have hSame := PreparationPhaseResponderImpl.timePoint_of_ready hAfter
      rw [timePoints_of_set hBefore hSame rfl]
      exact (List.append_nil _).symm
  | waited hPhase hBefore hAfter =>
      have hSame := PreparationPhaseResponderImpl.timePoint_of_wait hAfter
      rw [timePoints_of_set hBefore hSame rfl]
      exact (List.append_nil _).symm
  | registered | called | preparationEnded | threw | succeeded | failed | started
  | startingEnded | elapsed => exact (List.append_nil _).symm

end StartupRegistryImpl

/-! ## The deadlines of a run -/

variable {steps : List (StartupRegistryImpl Allocator Module × Action Allocator Module)}
  {history : List (Output Allocator Module)} {s : StartupRegistryImpl Allocator Module}

theorem deadlinesInOrder_of_run
    (run : (startupSystem Allocator Module).Run steps history s)
    (hFits : EveryStep DeadlineFits steps) : s.DeadlinesInOrder := by
  induction run with
  | start hInitial =>
      obtain ⟨now, rfl⟩ := hInitial
      exact ⟨List.Pairwise.nil, nofun⟩
  | next run hStep ih =>
      rw [everyStep_append_singleton] at hFits
      exact (ih hFits.1).step (pending_of_run run) hFits.2
        (StartupRegistryImpl.moves_of_step hStep)

theorem deadlines_append_singleton (action : Action Allocator Module) :
    deadlines (steps ++ [(s, action)]) = deadlines steps ++ (deadlineOf s action).toList := by
  cases hDeadline : deadlineOf s action <;> simp [deadlines, hDeadline]

/-- A deadline that has been given stays. -/
theorem deadlines_getElem?_append_singleton {responder : ResponderId} {timePoint : Int}
    (hDeadline : (deadlines steps)[responder]? = some timePoint)
    (action : Action Allocator Module) :
    (deadlines (steps ++ [(s, action)]))[responder]? = some timePoint := by
  rw [deadlines_append_singleton,
    List.getElem?_append_left (List.getElem?_eq_some_iff.mp hDeadline).1, hDeadline]

theorem callDeadlines_append_singleton
    (visited : StartupRegistryImpl Allocator Module × Action Allocator Module) :
    callDeadlines (steps ++ [visited]) = observeDeadline (callDeadlines steps) visited := by
  simp [callDeadlines]

/-- The deadlines of the responders are those that their modules were given. -/
theorem timePoints_eq_deadlines
    (run : (startupSystem Allocator Module).Run steps history s)
    (hFits : EveryStep DeadlineFits steps) :
    s.responders.map PreparationPhaseResponderImpl.timePoint = deadlines steps := by
  induction run with
  | start hInitial =>
      obtain ⟨now, rfl⟩ := hInitial
      rfl
  | next run hStep ih =>
      rw [everyStep_append_singleton] at hFits
      rw [deadlines_append_singleton, ← ih hFits.1]
      exact (StartupRegistryImpl.moves_of_step hStep).timePoints_eq hFits.2

/-- The n-th responder has the deadline of the n-th module that was prepared. -/
theorem timePoint_eq_deadline
    (run : (startupSystem Allocator Module).Run steps history s)
    (hFits : EveryStep DeadlineFits steps) (responder : ResponderId) :
    s.timePoint responder = (deadlines steps)[responder]? := by
  rw [← timePoints_eq_deadlines run hFits, List.getElem?_map]
  rfl

end Startup
end UtilsFramework
