import UtilsFramework.Startup.WaitLoops

/-!
# Startup timeouts

The waits of a call come one after the other, but every module has a deadline of
its own, the timeout of the call after it was prepared.  A module that reports by its
deadline is never treated as timed out, however long the registry waits for the modules
before it; one that is silent until its deadline, or until the waits begin if that is
later, always is.  The loop ends by the last deadline, unless it begins later.
-/

namespace UtilsFramework
namespace Startup

open Library
open Library.TimedWait
open Library.TransitionSystem

variable {Allocator Module : Type}
  {steps : List (StartupRegistryImpl Allocator Module × Action Allocator Module)}
  {history : List (Output Allocator Module)} {s : StartupRegistryImpl Allocator Module}

/-- The last deadline, or the start of the loop if that is later. -/
def WaitLoop.limit (loop : WaitLoop) : Int :=
  match loop.timePoints.getLast? with
  | some last => max loop.start last
  | none => loop.start

/-- The timeouts of a loop, counted from the `prepare` of each module, do not depend on
each other and do not add up. -/
structure WaitLoop.Independent (loop : WaitLoop)
    (steps : List (StartupRegistryImpl Allocator Module × Action Allocator Module)) :
    Prop where
  dated : loop.Dated steps
  reported : ∀ wait ∈ loop.waits, ∀ time ∈ reportTime wait.responder steps,
    time ≤ wait.timePoint → wait.outcome ≠ none
  silent : ∀ wait ∈ loop.waits,
    (∀ time ∈ reportTime wait.responder steps, max wait.timePoint loop.start < time) →
    wait.outcome = none
  lastEnd_le : loop.lastEnd ≤ loop.limit

/-- The loop under way is not past its limit, and can go on to its end by then. -/
def EndsInTime
    (steps : List (StartupRegistryImpl Allocator Module × Action Allocator Module))
    (history : List (Output Allocator Module)) (s : StartupRegistryImpl Allocator Module) :
    Prop :=
  ∃ loop earlier, waitLoops steps = loop :: earlier ∧ s.now ≤ loop.limit ∧
    ∃ later new t result, TimedRun (steps ++ later) (history ++ new) t ∧
      t.phase = .waiting [] result ∧ t.now ≤ loop.limit

section Loops

variable {loop : WaitLoop}

/-- No deadline is past the limit, since the last one is not. -/
theorem WaitLoop.InTurn.le_limit (hLoop : loop.InTurn steps) {timePoint : Int}
    (hMem : timePoint ∈ loop.timePoints) : max loop.start timePoint ≤ loop.limit := by
  rcases List.eq_nil_or_concat loop.timePoints with hNil | ⟨before, last, hLast⟩
  · rw [hNil] at hMem
    cases hMem
  · rw [List.concat_eq_append] at hLast
    have hInOrder := hLoop.inOrder
    rw [hLast, List.pairwise_append] at hInOrder
    have hLe : timePoint ≤ last := by
      rw [hLast] at hMem
      rcases List.mem_append.mp hMem with hBefore | hSame
      · exact hInOrder.2.2 timePoint hBefore last (List.mem_singleton_self last)
      · exact le_of_eq (List.mem_singleton.mp hSame)
    rw [WaitLoop.limit, hLast, List.getLast?_concat]
    exact max_le_max le_rfl hLe

theorem WaitLoop.InTurn.lastEnd_le (hLoop : loop.InTurn steps) :
    loop.lastEnd ≤ loop.limit := by
  rcases List.eq_nil_or_concat loop.waits with hNil | ⟨before, last, hLast⟩
  · rw [WaitLoop.lastEnd, hNil, List.map_nil, lastEnd_nil, WaitLoop.limit]
    split
    · exact le_max_left _ _
    · exact le_rfl
  · rw [List.concat_eq_append] at hLast
    have hMem : last ∈ loop.waits := hLast ▸ List.mem_append_right _ (List.mem_singleton_self _)
    have hTimePoint : last.timePoint ∈ loop.timePoints :=
      hLoop.isPrefix.subset (List.mem_map_of_mem hMem)
    calc loop.lastEnd
      _ = last.returned := by
          rw [WaitLoop.lastEnd, hLast, List.map_append]
          exact lastEnd_append_singleton _ _ _
      _ ≤ max loop.start last.timePoint := (hLoop.unhindered last hMem).time_le
      _ ≤ loop.limit := hLoop.le_limit hTimePoint

theorem WaitLoop.InTurn.independent (hLoop : loop.InTurn steps) (hDated : loop.Dated steps) :
    loop.Independent steps where
  dated := hDated
  reported := by
    intro wait hWait time hTime hDeadline
    have hInTime : time ≤ max loop.start wait.timePoint := hDeadline.trans (le_max_right _ _)
    have hReady := (hLoop.unhindered wait hWait).ready_iff.mpr ⟨time, hTime, hInTime⟩
    exact Option.isSome_iff_ne_none.mp hReady
  silent := by
    intro wait hWait hSilent
    by_contra hSome
    have hReady : wait.ended.ready = true := Option.isSome_iff_ne_none.mpr hSome
    obtain ⟨time, hTime, hLe⟩ := (hLoop.unhindered wait hWait).ready_iff.mp hReady
    have hLate := hSilent time hTime
    rw [max_comm] at hLate
    exact absurd hLe (not_le.mpr hLate)
  lastEnd_le := hLoop.lastEnd_le

end Loops

/-! ## The end of the loop -/

theorem TimedRun.next (timed : TimedRun steps history s) {action : Action Allocator Module}
    {t : StartupRegistryImpl Allocator Module} {new : List (Output Allocator Module)}
    (hStep : s.step action = some (t, new)) (hKeeps : KeepsTime steps s action)
    (hFits : DeadlineFits s action) :
    TimedRun (steps ++ [(s, action)]) (history ++ new) t where
  run := timed.run.next hStep
  keepsTime := everyStepAfter_append_singleton.mpr ⟨timed.keepsTime, hKeeps⟩
  fits := everyStep_append_singleton.mpr ⟨timed.fits, hFits⟩

/-- A wait that can return is over with the next step. -/
theorem TimedRun.wait (timed : TimedRun steps history s) {responder : ResponderId}
    {remaining : List ResponderId} {result : Bool} {loop : WaitLoop} {earlier : List WaitLoop}
    {before after : PreparationPhaseResponderImpl} {outcome : Option Bool}
    (hPhase : s.phase = .waiting (responder :: remaining) result)
    (hBefore : s.responders[responder]? = some before)
    (hAfter : before.wait s.now = some (outcome, after))
    (hLatest : waitLoops steps = loop :: earlier) :
    ∃ new t wait result, TimedRun (steps ++ [(s, .wait)]) (history ++ new) t ∧
      t.phase = .waiting remaining result ∧
      waitLoops (steps ++ [(s, .wait)]) = loop.add wait :: earlier ∧ wait.returned = t.now ∧
      t.now = s.now := by
  have hStep : s.step .wait =
      some ({ s with
        responders := s.responders.set responder after
        phase := .waiting remaining (StartupRegistryImpl.resultAfter result outcome) },
        [.waited outcome]) := by
    simp [StartupRegistryImpl.step, hPhase, hBefore, hAfter]
  have hLoops := waitLoops_of_wait hPhase hBefore hAfter hLatest
  exact ⟨_, _, _, _, timed.next hStep trivial trivial, rfl, hLoops, rfl, rfl⟩

/-- Time can elapse while a wait blocks, until the deadline. -/
theorem TimedRun.elapse (timed : TimedRun steps history s) {responder : ResponderId}
    {remaining : List ResponderId} {result : Bool} {resp : PreparationPhaseResponderImpl}
    (hPhase : s.phase = .waiting (responder :: remaining) result)
    (hResp : s.responders[responder]? = some resp) (hBlocks : resp.wait s.now = none)
    {duration : Nat} (hDeadline : s.now + duration ≤ resp.timePoint) :
    TimedRun (steps ++ [(s, .elapse duration)]) (history ++ [])
      { s with now := s.now + duration } := by
  refine timed.next rfl ?_ trivial
  intro waitedFor hAwaited
  simp only [StartupRegistryImpl.awaited, hPhase, hResp, Option.map_some,
    Option.mem_some_iff] at hAwaited
  subst hAwaited
  exact Or.inr ⟨hBlocks, hDeadline⟩

/-- A wait that blocks can return with its deadline. -/
theorem TimedRun.timeOut (timed : TimedRun steps history s) {responder : ResponderId}
    {remaining : List ResponderId} {result : Bool} {loop : WaitLoop} {earlier : List WaitLoop}
    {resp : PreparationPhaseResponderImpl}
    (hPhase : s.phase = .waiting (responder :: remaining) result)
    (hResp : s.responders[responder]? = some resp) (hBlocks : resp.wait s.now = none)
    (hLatest : waitLoops steps = loop :: earlier) :
    ∃ later new t wait result, TimedRun (steps ++ later) (history ++ new) t ∧
      t.phase = .waiting remaining result ∧
      waitLoops (steps ++ later) = loop.add wait :: earlier ∧ wait.returned = t.now ∧
      t.now = resp.timePoint := by
  have hDeadline := (PreparationPhaseResponderImpl.wait_eq_none_iff.mp hBlocks).2.2
  obtain ⟨⟨outcome, after⟩, hExpired⟩ : ∃ returned,
      resp.wait resp.timePoint = some returned := by
    refine Option.ne_none_iff_exists'.mp fun hNone => ?_
    exact absurd (PreparationPhaseResponderImpl.wait_eq_none_iff.mp hNone).2.2 (lt_irrefl _)
  have hNow : s.now + (resp.timePoint - s.now).toNat = resp.timePoint := by omega
  have hTimed := timed.elapse hPhase hResp hBlocks (le_of_eq hNow)
  rw [hNow] at hTimed
  have hLoops : waitLoops (steps ++ [(s, .elapse (resp.timePoint - s.now).toNat)]) =
      loop :: earlier := by
    rw [waitLoops_append_singleton, hLatest]
    rfl
  obtain ⟨new, t, wait, result, hTimed, hAfter, hLoops, hReturned, hSame⟩ :=
    hTimed.wait hPhase hResp hExpired hLoops
  rw [List.append_nil, List.append_assoc] at hTimed
  rw [List.append_assoc] at hLoops
  exact ⟨_, new, t, wait, result, hTimed, hAfter, hLoops, hReturned, hSame⟩

/-- Every wait can return: at once, or with its deadline. -/
theorem TimedRun.exists_wait (timed : TimedRun steps history s) {responder : ResponderId}
    {remaining : List ResponderId} {result : Bool} {loop : WaitLoop} {earlier : List WaitLoop}
    (hPhase : s.phase = .waiting (responder :: remaining) result)
    (hLatest : waitLoops steps = loop :: earlier) :
    ∃ later new t wait result, TimedRun (steps ++ later) (history ++ new) t ∧
      t.phase = .waiting remaining result ∧
      waitLoops (steps ++ later) = loop.add wait :: earlier ∧ wait.returned = t.now := by
  obtain ⟨resp, hResp, -⟩ := (pending_of_run timed.run).awaited hPhase
  cases hWait : resp.wait s.now with
  | some returned =>
      obtain ⟨new, t, wait, result, hTimed, hAfter, hLoops, hReturned, -⟩ :=
        timed.wait hPhase hResp hWait hLatest
      exact ⟨_, new, t, wait, result, hTimed, hAfter, hLoops, hReturned⟩
  | none =>
      obtain ⟨later, new, t, wait, result, hTimed, hAfter, hLoops, hReturned, -⟩ :=
        timed.timeOut hPhase hResp hWait hLatest
      exact ⟨later, new, t, wait, result, hTimed, hAfter, hLoops, hReturned⟩

/-- A loop under way can go on to its end, and is over by its limit. -/
theorem TimedRun.exists_end {responder : ResponderId} {remaining : List ResponderId}
    {result : Bool} {loop : WaitLoop} {earlier : List WaitLoop}
    (timed : TimedRun steps history s)
    (hPhase : s.phase = .waiting (responder :: remaining) result)
    (hLatest : waitLoops steps = loop :: earlier) :
    ∃ later new t result, TimedRun (steps ++ later) (history ++ new) t ∧
      t.phase = .waiting [] result ∧ t.now ≤ loop.limit := by
  induction remaining generalizing steps history s responder result loop with
  | nil =>
      obtain ⟨later, new, t, wait, result, hTimed, hAfter, hLoops, hNow⟩ :=
        timed.exists_wait hPhase hLatest
      have hInTurn := hTimed.followsTime.inTurn _ (hLoops ▸ List.mem_cons_self)
      have hLimit := hInTurn.lastEnd_le
      rw [WaitLoop.lastEnd_add, hNow] at hLimit
      exact ⟨later, new, t, result, hTimed, hAfter, hLimit⟩
  | cons next remaining ih =>
      obtain ⟨first, before, u, wait, result, hTimed, hAfter, hLoops, -⟩ :=
        timed.exists_wait hPhase hLatest
      obtain ⟨later, new, t, result, hTimed, hEnd, hLimit⟩ := ih hTimed hAfter hLoops
      rw [List.append_assoc, List.append_assoc] at hTimed
      exact ⟨first ++ later, before ++ new, t, result, hTimed, hEnd, hLimit⟩

/-- Any time can elapse while nothing is waited for. -/
theorem TimedRun.exists_elapse_of_none (timed : TimedRun steps history s)
    (hNone : s.awaited = none) (duration : Nat) :
    ∃ later new t, TimedRun (steps ++ later) (history ++ new) t ∧ t.now = s.now + duration := by
  have hKeeps : KeepsTime steps s (.elapse duration) := by
    intro waitedFor hAwaited
    rw [hNone] at hAwaited
    cases hAwaited
  exact ⟨_, _, _, timed.next rfl hKeeps trivial, rfl⟩

/-- Any time can elapse while the registry waits, if the waits return meanwhile. -/
theorem TimedRun.exists_elapse_of_waiting (timed : TimedRun steps history s)
    {remaining : List ResponderId} {result : Bool} (hPhase : s.phase = .waiting remaining result)
    (duration : Nat) :
    ∃ later new t, TimedRun (steps ++ later) (history ++ new) t ∧ t.now = s.now + duration := by
  induction remaining generalizing steps history s result duration with
  | nil =>
      have hNone : s.awaited = none := by simp [StartupRegistryImpl.awaited, hPhase]
      exact timed.exists_elapse_of_none hNone duration
  | cons responder remaining ih =>
      obtain ⟨resp, hResp, -⟩ := (pending_of_run timed.run).awaited hPhase
      obtain ⟨loop, earlier, hLatest, -⟩ := timed.followsTime.underWay _ _ hPhase
      cases hWait : resp.wait s.now with
      | some returned =>
          obtain ⟨first, u, _, _, hTimed, hAfter, -, -, hNow⟩ :=
            timed.wait hPhase hResp hWait hLatest
          obtain ⟨later, new, t, hTimed, hElapsed⟩ := ih hTimed hAfter duration
          rw [List.append_assoc, List.append_assoc] at hTimed
          exact ⟨_, _, t, hTimed, by rw [hElapsed, hNow]⟩
      | none =>
          by_cases hDeadline : s.now + duration ≤ resp.timePoint
          · exact ⟨_, _, _, timed.elapse hPhase hResp hWait hDeadline, rfl⟩
          · -- the rest elapses after the deadline
            obtain ⟨first, before, u, _, _, hTimed, hAfter, -, -, hNow⟩ :=
              timed.timeOut hPhase hResp hWait hLatest
            obtain ⟨later, new, t, hTimed, hElapsed⟩ :=
              ih hTimed hAfter (s.now + duration - resp.timePoint).toNat
            rw [List.append_assoc, List.append_assoc] at hTimed
            exact ⟨_, _, t, hTimed, by omega⟩

/-- A run that keeps time does not stop it: from every state, any time can elapse. -/
theorem TimedRun.exists_elapse (timed : TimedRun steps history s) (duration : Nat) :
    ∃ later new t, TimedRun (steps ++ later) (history ++ new) t ∧ t.now = s.now + duration := by
  cases hPhase : s.phase with
  | waiting remaining result => exact timed.exists_elapse_of_waiting hPhase duration
  | idle | preparing | starting =>
      have hNone : s.awaited = none := by simp [StartupRegistryImpl.awaited, hPhase]
      exact timed.exists_elapse_of_none hNone duration

/-- While the loop is under way its limit is not passed. -/
theorem WaitLoop.UnderWay.le_limit {loop : WaitLoop} {responder : ResponderId}
    {remaining : List ResponderId} (hLoop : loop.UnderWay steps s (responder :: remaining))
    (hInTurn : loop.InTurn steps) {timePoint : Int}
    (hTimePoint : s.timePoint responder = some timePoint) : s.now ≤ loop.limit := by
  have hMem : timePoint ∈ loop.timePoints := by
    rw [hLoop.timePoints_eq, List.filterMap_cons_some hTimePoint]
    exact List.mem_append_right _ List.mem_cons_self
  calc s.now
    _ ≤ max loop.lastEnd timePoint :=
        (hLoop.notPast responder remaining rfl timePoint hTimePoint).trans time_le
    _ ≤ loop.limit :=
        max_le hInTurn.lastEnd_le ((le_max_right _ _).trans (hInTurn.le_limit hMem))

theorem TimedRun.endsInTime (timed : TimedRun steps history s) {responder : ResponderId}
    {remaining : List ResponderId} {result : Bool}
    (hPhase : s.phase = .waiting (responder :: remaining) result) :
    EndsInTime steps history s := by
  have hFollows := timed.followsTime
  obtain ⟨loop, earlier, hLatest, hLoop⟩ := hFollows.underWay _ _ hPhase
  have hInTurn := hFollows.inTurn loop (hLatest ▸ List.mem_cons_self)
  obtain ⟨resp, hResp, -⟩ := (pending_of_run timed.run).awaited hPhase
  have hNow := hLoop.le_limit hInTurn (StartupRegistryImpl.timePoint_eq hResp)
  exact ⟨loop, earlier, hLatest, hNow, timed.exists_end hPhase hLatest⟩

/-- In every timed run, whatever the modules report and however long they take to
prepare: every wait is until the timeout after the `prepare` of its module, the timeouts
of a wait loop are independent and do not add up, and a loop that is under way ends by
its limit. -/
theorem run_timeouts_independent (timed : TimedRun steps history s) :
    (∀ loop ∈ waitLoops steps, loop.Independent steps) ∧
      ∀ responder remaining result, s.phase = .waiting (responder :: remaining) result →
        EndsInTime steps history s := by
  constructor
  · intro loop hLoop
    have hDated := dated_of_run timed.run timed.fits hLoop
    exact (timed.followsTime.inTurn loop hLoop).independent hDated
  · intro responder remaining result hPhase
    exact timed.endsInTime hPhase

/-- The first module is silent.  While the registry waits for it, the second one
reports; the third one reports with its deadline. -/
def slowFirst : List (Action Nat Nat) :=
  [.registerModuleAllocator 1, .registerModuleAllocator 2, .registerModuleAllocator 3,
    .startAllModules 2, .prepare 10, .elapse 200, .prepare 20, .elapse 300, .prepare 30,
    .elapse 100, .endPreparation, .elapse 600, .ready 1 true, .elapse 1999998800, .wait,
    .wait, .elapse 500, .ready 2 false, .wait]

/-- The waits of `slowFirst`. -/
def slowFirstLoop : WaitLoop where
  start := 600
  timePoints := [2000000000, 2000000200, 2000000500]
  waits := [⟨0, 2000000000, none, 2000000000⟩, ⟨1, 2000000200, some true, 2000000000⟩,
    ⟨2, 2000000500, some false, 2000000500⟩]

theorem slowFirst_independent :
    ∃ (steps : List (StartupRegistryImpl Nat Nat × Action Nat Nat))
      (history : List (Output Nat Nat)) (s : StartupRegistryImpl Nat Nat),
      TimedRun steps history s ∧ steps.map Prod.snd = slowFirst ∧
        waitLoops steps = [slowFirstLoop] ∧ slowFirstLoop.Independent steps := by
  have run := (run_of_replay (.construct 0) slowFirst ⟨0, rfl⟩ rfl :
    (startupSystem Nat Nat).Run _ _ _)
  have timed : TimedRun _ _ _ := ⟨run, by decide, by decide⟩
  refine ⟨_, _, _, timed, rfl, rfl, ?_⟩
  exact (run_timeouts_independent timed).1 slowFirstLoop List.mem_cons_self

end Startup
end UtilsFramework
