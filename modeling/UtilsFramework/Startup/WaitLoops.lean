import UtilsFramework.Library.TimedWait
import UtilsFramework.Startup.Deadlines
import UtilsFramework.Startup.Readiness

/-!
# The wait loop in time

The steps of the registry carry no time of their own: the clock moves when time
elapses.  A run keeps time if `wait_until` does what it promises: it returns as
soon as a report is there or the deadline has passed, and a report that comes with
the deadline is in time.

In a run that keeps time the waits of a call are waits in turn, each until the
deadline that its module got in `prepare` and for the first report on it.  The
deadlines are in the order of the waits, since the clock does not go back between two
`prepare`.
-/

namespace UtilsFramework
namespace Startup

open Library
open Library.TimedWait
open Library.TransitionSystem

variable {Allocator Module : Type}

/-- A wait that has returned, with the deadline of the responder. -/
structure Waited where
  responder : ResponderId
  timePoint : Int
  outcome : Option Bool
  returned : Int
deriving DecidableEq, Repr

/-- The second loop of a call: when it begins, the deadlines of the responders it goes
through, and its waits so far. -/
structure WaitLoop where
  start : Int
  timePoints : List Int
  waits : List Waited
deriving DecidableEq, Repr

/-- The loop after one more wait. -/
def WaitLoop.add (loop : WaitLoop) (wait : Waited) : WaitLoop :=
  { loop with waits := loop.waits ++ [wait] }

namespace StartupRegistryImpl

/-- The responder that is waited for. -/
def awaited (s : StartupRegistryImpl Allocator Module) :
    Option (ResponderId × PreparationPhaseResponderImpl) :=
  match s.phase with
  | .waiting (responder :: _) _ =>
      s.responders[responder]?.map fun resp => (responder, resp)
  | _ => none

/-- The wait that returns if the next step is a `wait`. -/
def waited (s : StartupRegistryImpl Allocator Module) : Option Waited :=
  s.awaited.bind fun (responder, resp) =>
    (resp.wait s.now).map fun (outcome, _) => ⟨responder, resp.timePoint, outcome, s.now⟩

end StartupRegistryImpl

/-- What a step adds to the wait loops, the latest of which comes first. -/
def observeWait (loops : List WaitLoop)
    (visited : StartupRegistryImpl Allocator Module × Action Allocator Module) :
    List WaitLoop :=
  match visited.2, loops with
  | .endPreparation, loops =>
      ⟨visited.1.now, visited.1.phase.pending.filterMap visited.1.timePoint, []⟩ :: loops
  | .wait, loop :: earlier =>
      match visited.1.waited with
      | some wait => loop.add wait :: earlier
      | none => loop :: earlier
  | _, loops => loops

/-- The wait loops of a run, the latest first. -/
def waitLoops (steps : List (StartupRegistryImpl Allocator Module × Action Allocator Module)) :
    List WaitLoop :=
  steps.foldl observeWait []

/-- When a step reports on a responder. -/
def reportTimeOf (responder : ResponderId) (s : StartupRegistryImpl Allocator Module) :
    Action Allocator Module → Option Int
  | .ready changed _ => if changed = responder then some s.now else none
  | _ => none

/-- When the first report on a responder was made, if there was one. -/
def reportTime (responder : ResponderId)
    (steps : List (StartupRegistryImpl Allocator Module × Action Allocator Module)) :
    Option Int :=
  steps.findSome? fun visited => reportTimeOf responder visited.1 visited.2

/-- Time keeps the promise of `wait_until`: it does not go on while a wait can return,
nor past the deadline of a wait that blocks, and it shows a wait all reports that are
made until it times out. -/
def KeepsTime
    (before : List (StartupRegistryImpl Allocator Module × Action Allocator Module))
    (s : StartupRegistryImpl Allocator Module) : Action Allocator Module → Prop
  | .elapse duration =>
      ∀ waitedFor ∈ s.awaited, duration = 0 ∨
        waitedFor.2.wait s.now = none ∧ s.now + duration ≤ waitedFor.2.timePoint
  | .ready responder _ =>
      ∀ loop ∈ waitLoops before, ∀ wait ∈ loop.waits,
        wait.responder = responder → wait.outcome = none → wait.returned < s.now
  | _ => True

instance (before : List (StartupRegistryImpl Allocator Module × Action Allocator Module))
    (s : StartupRegistryImpl Allocator Module) (action : Action Allocator Module) :
    Decidable (KeepsTime before s action) :=
  match action with
  | .elapse duration => inferInstanceAs (Decidable (∀ waitedFor ∈ s.awaited, duration = 0 ∨
      waitedFor.2.wait s.now = none ∧ s.now + duration ≤ waitedFor.2.timePoint))
  | .ready responder _ => inferInstanceAs (Decidable (∀ loop ∈ waitLoops before,
      ∀ wait ∈ loop.waits, wait.responder = responder → wait.outcome = none →
        wait.returned < s.now))
  | .registerModuleAllocator _ | .startAllModules _ | .prepare _ | .endPreparation
  | .wait | .endWaiting | .start | .endStarting => isTrue trivial

/-! ## The deadlines of the loops -/

/-- The deadlines of a loop are those of the modules of its call, and every wait is
until the deadline of its module. -/
structure WaitLoop.Dated (loop : WaitLoop)
    (steps : List (StartupRegistryImpl Allocator Module × Action Allocator Module)) :
    Prop where
  timePoints_mem : loop.timePoints ∈ callDeadlines steps
  waits_eq : ∀ wait ∈ loop.waits, (deadlines steps)[wait.responder]? = some wait.timePoint

/-- The deadlines of a call that is still preparing its modules. -/
def StartupRegistryImpl.preparing (s : StartupRegistryImpl Allocator Module) :
    List (List Int) :=
  match s.phase with
  | .preparing _ _ responderVec => [responderVec.filterMap s.timePoint]
  | _ => []

section Deadlines

variable {steps : List (StartupRegistryImpl Allocator Module × Action Allocator Module)}
  {history new : List (Output Allocator Module)}
  {s t : StartupRegistryImpl Allocator Module} {action : Action Allocator Module}

theorem waitLoops_append_singleton
    (visited : StartupRegistryImpl Allocator Module × Action Allocator Module) :
    waitLoops (steps ++ [visited]) = observeWait (waitLoops steps) visited := by
  simp [waitLoops]

/-- Only a call that has prepared its modules adds deadlines. -/
theorem map_timePoints_observeWait (loops : List WaitLoop)
    (hAction : action ≠ .endPreparation) :
    (observeWait loops (s, action)).map WaitLoop.timePoints =
      loops.map WaitLoop.timePoints := by
  cases action with
  | endPreparation => exact absurd rfl hAction
  | wait =>
      cases loops with
      | nil => rfl
      | cons loop earlier =>
          simp only [observeWait]
          split <;> rfl
  | registerModuleAllocator | startAllModules | prepare | ready | endWaiting | start
  | endStarting | elapse => rfl

theorem StartupRegistryImpl.preparing_eq_nil (hPhase : s.phase.startupTimeout = none) :
    s.preparing = [] := by
  rw [preparing]
  split
  · rename_i hPreparing
    rw [hPreparing] at hPhase
    cases hPhase
  · rfl

/-- A step of the loops and the deadlines that has nothing to do with preparing. -/
theorem callDeadlines_of_silent
    (hCalls : callDeadlines steps =
      s.preparing ++ (waitLoops steps).map WaitLoop.timePoints)
    (hDeadline : observeDeadline (callDeadlines steps) (s, action) = callDeadlines steps)
    (hAction : action ≠ .endPreparation) (hPreparing : t.preparing = s.preparing) :
    callDeadlines (steps ++ [(s, action)]) =
      t.preparing ++ (waitLoops (steps ++ [(s, action)])).map WaitLoop.timePoints := by
  rw [callDeadlines_append_singleton, hDeadline, waitLoops_append_singleton,
    map_timePoints_observeWait _ hAction, hPreparing, hCalls]

theorem callDeadlines_step
    (hCalls : callDeadlines steps =
      s.preparing ++ (waitLoops steps).map WaitLoop.timePoints)
    (hPending : s.Pending) (hFits : DeadlineFits s action) (moves : s.Moves action t new) :
    callDeadlines (steps ++ [(s, action)]) =
      t.preparing ++ (waitLoops (steps ++ [(s, action)])).map WaitLoop.timePoints := by
  cases moves with
  | registered | threw | elapsed => exact callDeadlines_of_silent hCalls rfl nofun rfl
  | reported hBefore hAfter =>
      refine callDeadlines_of_silent hCalls rfl nofun ?_
      have hSame := PreparationPhaseResponderImpl.timePoint_of_ready hAfter
      rw [StartupRegistryImpl.preparing, StartupRegistryImpl.preparing,
        StartupRegistryImpl.timePoint_of_set hBefore hSame rfl]
  | waited hPhase | succeeded hPhase | failed hPhase | started hPhase | startingEnded hPhase =>
      refine callDeadlines_of_silent hCalls rfl nofun ?_
      rw [StartupRegistryImpl.preparing_eq_nil (s := s) (by rw [hPhase]; rfl)]
      rfl
  | called hPhase =>
      rw [callDeadlines_append_singleton, waitLoops_append_singleton, hCalls,
        StartupRegistryImpl.preparing_eq_nil (by rw [hPhase]; rfl)]
      rfl
  | @prepared startupTimeout _ remaining responderVec module hPhase =>
      obtain ⟨hLow, hHigh⟩ := hFits startupTimeout (by rw [hPhase]; rfl)
      have hTimePoints := StartupRegistryImpl.pendingTimePoints_prepareModule hPending hPhase
        hLow hHigh remaining module
      have hPreparing : s.preparing = [responderVec.filterMap s.timePoint] := by
        rw [StartupRegistryImpl.preparing, hPhase]
      rw [callDeadlines_append_singleton, waitLoops_append_singleton, hCalls, hPreparing]
      show (_ ++ (deadlineOf s (.prepare module)).toList) :: _ =
        [(responderVec ++ [s.responders.length]).filterMap _] ++ _
      rw [hTimePoints, deadlineOf, hPhase]
      rfl
  | preparationEnded hPhase =>
      rw [callDeadlines_append_singleton, waitLoops_append_singleton, hCalls,
        StartupRegistryImpl.preparing, hPhase]
      simp [observeDeadline, observeWait, StartupRegistryImpl.preparing, hPhase, Phase.pending]

theorem callDeadlines_eq (run : (startupSystem Allocator Module).Run steps history s)
    (hFits : EveryStep DeadlineFits steps) :
    callDeadlines steps = s.preparing ++ (waitLoops steps).map WaitLoop.timePoints := by
  induction run with
  | start hInitial =>
      obtain ⟨now, rfl⟩ := hInitial
      rfl
  | next run hStep ih =>
      rw [everyStep_append_singleton] at hFits
      exact callDeadlines_step (ih hFits.1) (pending_of_run run) hFits.2
        (StartupRegistryImpl.moves_of_step hStep)

/-- The waits of the loops are those there were and the one that returns. -/
theorem mem_observeWait {loops : List WaitLoop} {loop : WaitLoop}
    (hLoop : loop ∈ observeWait loops (s, action)) {wait : Waited} (hWait : wait ∈ loop.waits) :
    (∃ other ∈ loops, wait ∈ other.waits) ∨ s.waited = some wait := by
  unfold observeWait at hLoop
  split at hLoop
  · rcases List.mem_cons.mp hLoop with rfl | hLoop
    · cases hWait
    · exact Or.inl ⟨loop, hLoop, hWait⟩
  · rename_i latest earlier _
    split at hLoop
    · rename_i returned hReturned
      rcases List.mem_cons.mp hLoop with rfl | hLoop
      · rcases List.mem_append.mp hWait with hWait | hWait
        · exact Or.inl ⟨latest, List.mem_cons_self, hWait⟩
        · rw [List.mem_singleton.mp hWait]
          exact Or.inr hReturned
      · exact Or.inl ⟨loop, List.mem_cons_of_mem _ hLoop, hWait⟩
    · exact Or.inl ⟨loop, hLoop, hWait⟩
  · exact Or.inl ⟨loop, hLoop, hWait⟩

/-- A wait is until the deadline of its responder. -/
theorem StartupRegistryImpl.timePoint_of_waited {wait : Waited} (hWaited : s.waited = some wait) :
    s.timePoint wait.responder = some wait.timePoint := by
  obtain ⟨⟨responder, resp⟩, hAwaited, hReturned⟩ := Option.bind_eq_some_iff.mp hWaited
  obtain ⟨⟨outcome, after⟩, -, rfl⟩ := Option.map_eq_some_iff.mp hReturned
  unfold awaited at hAwaited
  split at hAwaited
  · obtain ⟨found, hFound, hSame⟩ := Option.map_eq_some_iff.mp hAwaited
    obtain ⟨rfl, rfl⟩ := Prod.mk.inj hSame
    exact timePoint_eq hFound
  · cases hAwaited

theorem deadline_of_wait (run : (startupSystem Allocator Module).Run steps history s)
    (hFits : EveryStep DeadlineFits steps) {loop : WaitLoop} (hLoop : loop ∈ waitLoops steps)
    {wait : Waited} (hWait : wait ∈ loop.waits) :
    (deadlines steps)[wait.responder]? = some wait.timePoint := by
  induction run generalizing loop with
  | start => cases hLoop
  | next run hStep ih =>
      rw [everyStep_append_singleton] at hFits
      rw [waitLoops_append_singleton] at hLoop
      apply deadlines_getElem?_append_singleton
      rcases mem_observeWait hLoop hWait with ⟨other, hOther, hWait⟩ | hWaited
      · exact ih hFits.1 hOther hWait
      · rw [← timePoint_eq_deadline run hFits.1]
        exact StartupRegistryImpl.timePoint_of_waited hWaited

/-- In every run whose deadlines are 64-bit dates, the registry waits for every module
until the deadline that the module got when it was prepared. -/
theorem dated_of_run (run : (startupSystem Allocator Module).Run steps history s)
    (hFits : EveryStep DeadlineFits steps) {loop : WaitLoop} (hLoop : loop ∈ waitLoops steps) :
    loop.Dated steps where
  timePoints_mem := by
    rw [callDeadlines_eq run hFits]
    exact List.mem_append_right _ (List.mem_map_of_mem hLoop)
  waits_eq _ hWait := deadline_of_wait run hFits hLoop hWait

end Deadlines

/-! ## The waits of a run that keeps time -/

/-- What a wait was for: the first report on its responder, until the deadline. -/
def Waited.awaitedIn
    (steps : List (StartupRegistryImpl Allocator Module × Action Allocator Module))
    (wait : Waited) : Awaited Int :=
  ⟨wait.timePoint, reportTime wait.responder steps⟩

def Waited.ended (wait : Waited) : End Int :=
  ⟨wait.outcome.isSome, wait.returned⟩

/-- When the last wait has returned, and the next one is called. -/
def WaitLoop.lastEnd (loop : WaitLoop) : Int :=
  TimedWait.lastEnd loop.start (loop.waits.map Waited.ended)

/-- The waits of a loop are waits in turn, and their deadlines are in order. -/
structure WaitLoop.InTurn (loop : WaitLoop)
    (steps : List (StartupRegistryImpl Allocator Module × Action Allocator Module)) :
    Prop where
  waits_eq : waitAll loop.start (loop.waits.map (Waited.awaitedIn steps)) =
    loop.waits.map Waited.ended
  inOrder : loop.timePoints.Pairwise (· ≤ ·)
  isPrefix : loop.waits.map Waited.timePoint <+: loop.timePoints

/-- The loop under way has still to wait for `remaining`.  The wait that has been called
has not gone on after it could return. -/
structure WaitLoop.UnderWay (loop : WaitLoop)
    (steps : List (StartupRegistryImpl Allocator Module × Action Allocator Module))
    (s : StartupRegistryImpl Allocator Module) (remaining : List ResponderId) : Prop where
  timePoints_eq : loop.timePoints =
    loop.waits.map Waited.timePoint ++ remaining.filterMap s.timePoint
  called : loop.lastEnd ≤ s.now
  notPast : ∀ responder rest, remaining = responder :: rest →
    ∀ timePoint ∈ s.timePoint responder,
      s.now ≤ (waitUntil loop.lastEnd ⟨timePoint, reportTime responder steps⟩).time

/-- What holds in every state of a run that keeps time. -/
structure FollowsTime
    (steps : List (StartupRegistryImpl Allocator Module × Action Allocator Module))
    (s : StartupRegistryImpl Allocator Module) : Prop where
  passed : ∀ responder, ∀ time ∈ reportTime responder steps, time ≤ s.now
  inTurn : ∀ loop ∈ waitLoops steps, loop.InTurn steps
  underWay : ∀ remaining result, s.phase = .waiting remaining result →
    ∃ loop earlier, waitLoops steps = loop :: earlier ∧ loop.UnderWay steps s remaining

variable {steps : List (StartupRegistryImpl Allocator Module × Action Allocator Module)}
  {history new : List (Output Allocator Module)}
  {s t : StartupRegistryImpl Allocator Module} {action : Action Allocator Module}

theorem reportTime_append_singleton (responder : ResponderId) :
    reportTime responder (steps ++ [(s, action)]) =
      (reportTime responder steps).or (reportTimeOf responder s action) := by
  simp [reportTime]

theorem reportTime_of_none {responder : ResponderId}
    (hReport : reportTimeOf responder s action = none) :
    reportTime responder (steps ++ [(s, action)]) = reportTime responder steps := by
  rw [reportTime_append_singleton, hReport, Option.or_none]

/-- There is a time of the first report exactly if there is a first report. -/
theorem isSome_reportTime (responder : ResponderId)
    (steps : List (StartupRegistryImpl Allocator Module × Action Allocator Module)) :
    (reportTime responder steps).isSome = (firstReport responder steps).isSome := by
  induction steps using List.reverseRecOn with
  | nil => rfl
  | append_singleton steps visited ih =>
      obtain ⟨s, action⟩ := visited
      rw [reportTime_append_singleton, firstReport, usesOf_append_singleton, Option.isSome_or, ih]
      cases action with
      | ready changed success =>
          by_cases hSame : changed = responder
          · simp [reportTimeOf, useOf, hSame, Promise.firstSet_append_setValue]
          · simp [reportTimeOf, useOf, hSame]
      | wait =>
          cases hUse : useOf responder s .wait with
          | none => simp [reportTimeOf]
          | some used =>
              obtain rfl : used = .get := by
                simp only [useOf] at hUse
                split at hUse
                · split at hUse
                  · exact (Option.some.inj hUse).symm
                  · cases hUse
                · cases hUse
              simp [reportTimeOf, Promise.firstSet_append_get]
      | registerModuleAllocator | startAllModules | prepare | endPreparation | endWaiting
      | start | endStarting | elapse => simp [reportTimeOf, useOf]

theorem FollowsUses.isSome_value (hFollows : FollowsUses steps s) {responder : ResponderId}
    {resp : PreparationPhaseResponderImpl} (hResp : s.responders[responder]? = some resp) :
    resp.promise.value.isSome = (reportTime responder steps).isSome := by
  rw [hFollows.promise_eq responder resp hResp, (Promise.after_spec _).1, isSome_reportTime]

theorem WaitLoop.InTurn.of_reports {loop : WaitLoop} (hLoop : loop.InTurn steps)
    {others : List (StartupRegistryImpl Allocator Module × Action Allocator Module)}
    (hReports : ∀ responder, reportTime responder others = reportTime responder steps) :
    loop.InTurn others where
  waits_eq := by
    have hAwaited : Waited.awaitedIn others = Waited.awaitedIn steps := by
      funext wait
      rw [Waited.awaitedIn, Waited.awaitedIn, hReports]
    rw [hAwaited]
    exact hLoop.waits_eq
  inOrder := hLoop.inOrder
  isPrefix := hLoop.isPrefix

/-- The waits of a loop do not hinder each other. -/
theorem WaitLoop.InTurn.unhindered {loop : WaitLoop} (hLoop : loop.InTurn steps)
    (wait : Waited) (hWait : wait ∈ loop.waits) :
    Unhindered loop.start (wait.awaitedIn steps) wait.ended := by
  have hOrder : ((loop.waits.map (Waited.awaitedIn steps)).map Awaited.deadline).Pairwise
      (· ≤ ·) := by
    rw [List.map_map]
    exact hLoop.inOrder.sublist hLoop.isPrefix.sublist
  have hAll : List.Forall₂ (Unhindered loop.start) _ _ := waitAll_unhindered hOrder
  rw [hLoop.waits_eq, List.forall₂_map_left_iff, List.forall₂_map_right_iff,
    List.forall₂_same] at hAll
  exact hAll wait hWait

/-- A wait that has found nothing has timed out. -/
theorem WaitLoop.InTurn.outcome_eq_none {loop : WaitLoop} (hLoop : loop.InTurn steps)
    {wait : Waited} (hWait : wait ∈ loop.waits)
    (hNone : reportTime wait.responder steps = none) : wait.outcome = none := by
  have hUnhindered := hLoop.unhindered wait hWait
  by_contra hSome
  obtain ⟨time, hTime, -⟩ := hUnhindered.ready_iff.mp (Option.isSome_iff_ne_none.mpr hSome)
  rw [Waited.awaitedIn, hNone] at hTime
  cases hTime

/-- A step that reports nothing and leaves the wait loops alone. -/
theorem FollowsTime.of_silent (hFollows : FollowsTime steps s)
    (hLoops : observeWait (waitLoops steps) (s, action) = waitLoops steps)
    (hReport : ∀ responder, reportTimeOf responder s action = none) (hNow : s.now ≤ t.now)
    (hUnderWay : ∀ remaining result, t.phase = .waiting remaining result →
      s.phase = .waiting remaining result ∧
        ∀ loop : WaitLoop, loop.UnderWay steps s remaining → loop.UnderWay steps t remaining) :
    FollowsTime (steps ++ [(s, action)]) t := by
  have hReports : ∀ responder,
      reportTime responder (steps ++ [(s, action)]) = reportTime responder steps :=
    fun responder => reportTime_of_none (hReport responder)
  constructor
  · intro responder time hTime
    rw [hReports] at hTime
    exact (hFollows.passed responder time hTime).trans hNow
  · intro loop hLoop
    rw [waitLoops_append_singleton, hLoops] at hLoop
    exact (hFollows.inTurn loop hLoop).of_reports hReports
  · intro remaining result hPhase
    obtain ⟨hSame, hKept⟩ := hUnderWay remaining result hPhase
    obtain ⟨loop, earlier, hLatest, hLoop⟩ := hFollows.underWay remaining result hSame
    have hAfter := hKept loop hLoop
    refine ⟨loop, earlier, by rw [waitLoops_append_singleton, hLoops, hLatest],
      hAfter.timePoints_eq, hAfter.called, ?_⟩
    intro responder rest hRemaining timePoint hTimePoint
    rw [hReports]
    exact hAfter.notPast responder rest hRemaining timePoint hTimePoint

/-- A report counts if it is the first one on its responder. -/
theorem reportTime_of_ready (responder changed : ResponderId) (success : Bool) :
    reportTime responder (steps ++ [(s, .ready changed success)]) =
        reportTime responder steps ∨
      changed = responder ∧ reportTime responder steps = none ∧
        reportTime responder (steps ++ [(s, .ready changed success)]) = some s.now := by
  rw [reportTime_append_singleton, reportTimeOf]
  by_cases hSame : changed = responder
  · cases hReport : reportTime responder steps with
    | some time => exact Or.inl rfl
    | none => exact Or.inr ⟨hSame, rfl, by rw [if_pos hSame]; rfl⟩
  · rw [if_neg hSame, Option.or_none]
    exact Or.inl rfl

/-- A report comes after the waits for its responder that have timed out. -/
theorem WaitLoop.InTurn.report {loop : WaitLoop} (hLoop : loop.InTurn steps)
    {responder : ResponderId} {success : Bool}
    (hLate : ∀ wait ∈ loop.waits, wait.responder = responder → wait.outcome = none →
      wait.returned < s.now) :
    loop.InTurn (steps ++ [(s, .ready responder success)]) := by
  refine ⟨waitAll_eq_of_late hLoop.waits_eq ?_, hLoop.inOrder, hLoop.isPrefix⟩
  intro wait hWait
  rcases reportTime_of_ready wait.responder responder success with hSame | ⟨rfl, hNone, hFirst⟩
  · left
    rw [Waited.awaitedIn, Waited.awaitedIn, hSame]
  · right
    refine ⟨rfl, hNone, ?_⟩
    intro time hTime
    obtain rfl : s.now = time := Option.some.inj (hFirst.symm.trans hTime)
    exact hLate wait hWait rfl (hLoop.outcome_eq_none hWait hNone)

theorem FollowsTime.report (hFollows : FollowsTime steps s) {responder : ResponderId}
    {success : Bool} (hKeeps : KeepsTime steps s (.ready responder success))
    (hTimePoint : t.timePoint = s.timePoint) (hPhase : t.phase = s.phase)
    (hNow : t.now = s.now) : FollowsTime (steps ++ [(s, .ready responder success)]) t := by
  have hLoops : waitLoops (steps ++ [(s, .ready responder success)]) = waitLoops steps := by
    rw [waitLoops_append_singleton]
    rfl
  constructor
  · intro reported time hTime
    rw [hNow]
    rcases reportTime_of_ready reported responder success with hSame | ⟨-, -, hFirst⟩
    · exact hFollows.passed reported time (hSame ▸ hTime)
    · exact le_of_eq (Option.some.inj (hTime.symm.trans hFirst))
  · intro loop hLoop
    rw [hLoops] at hLoop
    exact (hFollows.inTurn loop hLoop).report (hKeeps loop hLoop)
  · intro remaining result hWaiting
    rw [hPhase] at hWaiting
    obtain ⟨loop, earlier, hLatest, hLoop⟩ := hFollows.underWay remaining result hWaiting
    refine ⟨loop, earlier, hLoops.trans hLatest, ?_, ?_, ?_⟩
    · rw [hTimePoint]
      exact hLoop.timePoints_eq
    · rw [hNow]
      exact hLoop.called
    · intro head rest hRemaining timePoint hMem
      rw [hTimePoint] at hMem
      rw [hNow]
      have hNotPast := hLoop.notPast head rest hRemaining timePoint hMem
      rcases reportTime_of_ready head responder success with hSame | ⟨-, hNone, hFirst⟩
      · rw [hSame]
        exact hNotPast
      · -- the wait that is under way finds the report at once
        have hInTime : s.now ≤ max loop.lastEnd timePoint := hNotPast.trans time_le
        rw [hFirst, waitUntil_of_le rfl hInTime]
        exact le_max_right _ _

theorem FollowsTime.elapse (hFollows : FollowsTime steps s) (hUses : FollowsUses steps s)
    {duration : Nat} (hKeeps : KeepsTime steps s (.elapse duration)) :
    FollowsTime (steps ++ [(s, .elapse duration)]) { s with now := s.now + duration } := by
  have hPassed : s.now ≤ s.now + duration := Int.le_add_of_nonneg_right (Int.natCast_nonneg _)
  refine hFollows.of_silent rfl (fun _ => rfl) hPassed ?_
  intro remaining result hPhase
  refine ⟨hPhase, fun loop hLoop => ⟨hLoop.timePoints_eq, hLoop.called.trans hPassed, ?_⟩⟩
  rintro head rest rfl timePoint hMem
  have hNotPast := hLoop.notPast head rest rfl timePoint hMem
  obtain ⟨resp, hResp, rfl⟩ := Option.map_eq_some_iff.mp hMem
  have hAwaited : (head, resp) ∈ s.awaited := by
    simp only [StartupRegistryImpl.awaited, show s.phase = _ from hPhase, hResp]
    rfl
  rcases hKeeps (head, resp) hAwaited with rfl | ⟨hBlocks, hDeadline⟩
  · simpa using hNotPast
  · -- nothing has been reported, so the wait goes on until the deadline
    have hNone : reportTime head steps = none := by
      have hValue := hUses.isSome_value hResp
      rw [(PreparationPhaseResponderImpl.wait_eq_none_iff.mp hBlocks).2.1] at hValue
      exact Option.isNone_iff_eq_none.mp (by simpa using hValue.symm)
    rw [hNone, waitUntil_of_none rfl]
    exact hDeadline.trans (le_max_right _ _)

/-- The second loop begins with the deadlines in order. -/
theorem FollowsTime.endPreparation (hFollows : FollowsTime steps s)
    (hOrder : s.DeadlinesInOrder) {startupTimeout : Int} {responderVec : List ResponderId}
    (hPhase : s.phase = .preparing startupTimeout [] responderVec) :
    FollowsTime (steps ++ [(s, .endPreparation)])
      { s with phase := .waiting responderVec false } := by
  have hReports : ∀ responder,
      reportTime responder (steps ++ [(s, .endPreparation)]) = reportTime responder steps :=
    fun responder => reportTime_of_none rfl
  have hInOrder := hOrder.inOrder
  rw [hPhase] at hInOrder
  have hLoops : waitLoops (steps ++ [(s, .endPreparation)]) =
      ⟨s.now, responderVec.filterMap s.timePoint, []⟩ :: waitLoops steps := by
    rw [waitLoops_append_singleton]
    simp only [observeWait, hPhase]
    rfl
  constructor
  · intro responder time hTime
    rw [hReports] at hTime
    exact hFollows.passed responder time hTime
  · intro loop hLoop
    rw [hLoops] at hLoop
    rcases List.mem_cons.mp hLoop with rfl | hLoop
    · exact ⟨rfl, hInOrder, List.nil_prefix⟩
    · exact (hFollows.inTurn loop hLoop).of_reports hReports
  · intro remaining result hWaiting
    obtain ⟨rfl, -⟩ := Phase.waiting.inj hWaiting
    exact ⟨_, _, hLoops, rfl, Int.le_refl _, fun _ _ _ _ _ => le_time⟩

@[simp]
theorem WaitLoop.lastEnd_add (loop : WaitLoop) (wait : Waited) :
    (loop.add wait).lastEnd = wait.returned := by
  simp [WaitLoop.add, WaitLoop.lastEnd, Waited.ended]

/-- A wait that is called when the one before it has returned. -/
theorem WaitLoop.InTurn.add {loop : WaitLoop} (hLoop : loop.InTurn steps) {wait : Waited}
    (hEnded : waitUntil loop.lastEnd (wait.awaitedIn steps) = wait.ended)
    (hPrefix : loop.waits.map Waited.timePoint ++ [wait.timePoint] <+: loop.timePoints) :
    (loop.add wait).InTurn steps where
  waits_eq := by
    simp only [WaitLoop.add, List.map_append, List.map_cons, List.map_nil]
    rw [waitAll_append_singleton, hLoop.waits_eq]
    exact congrArg (_ ++ [·]) hEnded
  inOrder := hLoop.inOrder
  isPrefix := by
    simp only [WaitLoop.add, List.map_append, List.map_cons, List.map_nil]
    exact hPrefix

/-- The wait under way returns when it can, with what it can. -/
theorem FollowsTime.waitUntil_eq (hFollows : FollowsTime steps s)
    (hUses : FollowsUses steps s) (hPending : s.Pending) {loop : WaitLoop}
    {responder : ResponderId} {remaining : List ResponderId} {result : Bool}
    {before after : PreparationPhaseResponderImpl} {outcome : Option Bool}
    (hLoop : loop.UnderWay steps s (responder :: remaining))
    (hPhase : s.phase = .waiting (responder :: remaining) result)
    (hBefore : s.responders[responder]? = some before)
    (hAfter : before.wait s.now = some (outcome, after)) :
    waitUntil loop.lastEnd ⟨before.timePoint, reportTime responder steps⟩ =
      ⟨outcome.isSome, s.now⟩ := by
  obtain ⟨resp, hResp, hValid⟩ := hPending.awaited hPhase
  obtain rfl : before = resp := Option.some.inj (hBefore.symm.trans hResp)
  obtain ⟨hOutcome, hExpires⟩ := PreparationPhaseResponderImpl.outcome_of_wait hValid hAfter
  have hReported : outcome.isSome = (reportTime responder steps).isSome := by
    rw [hOutcome, hUses.isSome_value hBefore]
  have hNotPast := hLoop.notPast responder remaining rfl before.timePoint
    (StartupRegistryImpl.timePoint_eq hBefore)
  cases hReport : reportTime responder steps with
  | some time =>
      rw [hReport] at hNotPast hReported
      rw [hReported]
      have hFound := hFollows.passed responder time hReport
      exact waitUntil_eq_of_found rfl hLoop.called hFound hNotPast
  | none =>
      rw [hReport] at hNotPast hReported
      obtain rfl : outcome = none := Option.isNone_iff_eq_none.mp (by simpa using hReported)
      exact waitUntil_eq_of_expired rfl hLoop.called (hExpires rfl) hNotPast

/-- The next wait is called at once. -/
theorem WaitLoop.UnderWay.add {loop : WaitLoop} {responder : ResponderId}
    {remaining : List ResponderId} {wait : Waited}
    (hLoop : loop.UnderWay steps s (responder :: remaining))
    (hTimePoint : s.timePoint responder = some wait.timePoint)
    (hReturned : wait.returned = t.now) (hSame : t.timePoint = s.timePoint) :
    (loop.add wait).UnderWay (steps ++ [(s, action)]) t remaining where
  timePoints_eq := by
    rw [hSame]
    simp only [WaitLoop.add, List.map_append, List.map_cons, List.map_nil]
    rw [hLoop.timePoints_eq, List.filterMap_cons_some hTimePoint, List.append_assoc]
    rfl
  called := by rw [WaitLoop.lastEnd_add, hReturned]
  notPast := by
    intro head rest hRemaining timePoint hMem
    rw [WaitLoop.lastEnd_add, hReturned]
    exact le_time

theorem waitLoops_of_wait {responder : ResponderId} {remaining : List ResponderId}
    {result : Bool} {before after : PreparationPhaseResponderImpl} {outcome : Option Bool}
    {loop : WaitLoop} {earlier : List WaitLoop}
    (hPhase : s.phase = .waiting (responder :: remaining) result)
    (hBefore : s.responders[responder]? = some before)
    (hAfter : before.wait s.now = some (outcome, after))
    (hLatest : waitLoops steps = loop :: earlier) :
    waitLoops (steps ++ [(s, .wait)]) =
      loop.add ⟨responder, before.timePoint, outcome, s.now⟩ :: earlier := by
  rw [waitLoops_append_singleton, hLatest]
  simp [observeWait, StartupRegistryImpl.waited, StartupRegistryImpl.awaited, hPhase, hBefore,
    hAfter]

/-- A wait returns as a wait in turn does. -/
theorem FollowsTime.wait (hFollows : FollowsTime steps s) (hUses : FollowsUses steps s)
    (hPending : s.Pending) {responder : ResponderId} {remaining : List ResponderId}
    {result : Bool} {before after : PreparationPhaseResponderImpl} {outcome : Option Bool}
    (hPhase : s.phase = .waiting (responder :: remaining) result)
    (hBefore : s.responders[responder]? = some before)
    (hAfter : before.wait s.now = some (outcome, after)) :
    FollowsTime (steps ++ [(s, .wait)])
      { s with
        responders := s.responders.set responder after
        phase := .waiting remaining (StartupRegistryImpl.resultAfter result outcome) } := by
  have hReports : ∀ responder,
      reportTime responder (steps ++ [(s, .wait)]) = reportTime responder steps :=
    fun responder => reportTime_of_none rfl
  obtain ⟨loop, earlier, hLatest, hLoop⟩ := hFollows.underWay _ _ hPhase
  have hLoops := waitLoops_of_wait hPhase hBefore hAfter hLatest
  have hTimePoint := StartupRegistryImpl.timePoint_eq hBefore
  constructor
  · intro reported time hTime
    rw [hReports] at hTime
    exact hFollows.passed reported time hTime
  · intro other hOther
    rw [hLoops] at hOther
    rcases List.mem_cons.mp hOther with rfl | hOther
    · refine WaitLoop.InTurn.of_reports ?_ hReports
      have hInTurn := hFollows.inTurn loop (hLatest ▸ List.mem_cons_self)
      refine hInTurn.add (hFollows.waitUntil_eq hUses hPending hLoop hPhase hBefore hAfter) ?_
      rw [hLoop.timePoints_eq, List.filterMap_cons_some hTimePoint]
      exact (List.prefix_append_right_inj _).mpr (List.prefix_append [_] _)
    · refine (hFollows.inTurn other ?_).of_reports hReports
      rw [hLatest]
      exact List.mem_cons_of_mem _ hOther
  · intro rest result hWaiting
    obtain ⟨rfl, -⟩ := Phase.waiting.inj hWaiting
    refine ⟨_, _, hLoops, hLoop.add hTimePoint rfl ?_⟩
    have hSame := PreparationPhaseResponderImpl.timePoint_of_wait hAfter
    exact StartupRegistryImpl.timePoint_of_set hBefore hSame rfl

theorem FollowsTime.step (hFollows : FollowsTime steps s) (hUses : FollowsUses steps s)
    (hPending : s.Pending) (hOrder : s.DeadlinesInOrder) (hKeeps : KeepsTime steps s action)
    (moves : s.Moves action t new) : FollowsTime (steps ++ [(s, action)]) t := by
  cases moves with
  | registered =>
      refine hFollows.of_silent rfl (fun _ => rfl) (Int.le_refl _) ?_
      intro remaining result hPhase
      exact ⟨hPhase, fun loop hLoop => ⟨hLoop.timePoints_eq, hLoop.called, hLoop.notPast⟩⟩
  | called | prepared | succeeded | failed | started | startingEnded =>
      exact hFollows.of_silent rfl (fun _ => rfl) (Int.le_refl _) nofun
  | preparationEnded hPhase => exact hFollows.endPreparation hOrder hPhase
  | reported hBefore hAfter =>
      have hSame := PreparationPhaseResponderImpl.timePoint_of_ready hAfter
      exact hFollows.report hKeeps (StartupRegistryImpl.timePoint_of_set hBefore hSame rfl) rfl rfl
  | threw => exact hFollows.report hKeeps rfl rfl rfl
  | waited hPhase hBefore hAfter => exact hFollows.wait hUses hPending hPhase hBefore hAfter
  | elapsed => exact hFollows.elapse hUses hKeeps

/-- A run that keeps time and whose deadlines are 64-bit dates. -/
structure TimedRun
    (steps : List (StartupRegistryImpl Allocator Module × Action Allocator Module))
    (history : List (Output Allocator Module)) (s : StartupRegistryImpl Allocator Module) :
    Prop where
  run : (startupSystem Allocator Module).Run steps history s
  keepsTime : EveryStepAfter KeepsTime steps
  fits : EveryStep DeadlineFits steps

/-- The waits of every timed run are waits in turn. -/
theorem TimedRun.followsTime (timed : TimedRun steps history s) : FollowsTime steps s := by
  obtain ⟨run, hTime, hFits⟩ := timed
  induction run with
  | start hInitial =>
      obtain ⟨now, rfl⟩ := hInitial
      exact ⟨nofun, nofun, nofun⟩
  | next run hStep ih =>
      rw [everyStepAfter_append_singleton] at hTime
      rw [everyStep_append_singleton] at hFits
      exact (ih hTime.1 hFits.1).step (followsUses_of_run run) (pending_of_run run)
        (deadlinesInOrder_of_run run hFits.1) hTime.2
        (StartupRegistryImpl.moves_of_step hStep)

end Startup
end UtilsFramework
