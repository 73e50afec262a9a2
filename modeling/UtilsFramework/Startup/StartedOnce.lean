import UtilsFramework.Startup.AllOrNothing

/-!
# How often a module is started

`startAllModules` waits for the responders of its own call, but it starts all
modules in `m_startupModuleVec`, which keeps what earlier calls have prepared.
A call that sees a success therefore starts the modules of earlier calls too,
those it has started before among them.

This file proves that every module is started at most once, and by a call that
prepared it, exactly if a call that sees a success finds the vector empty and
its allocators return different modules.
-/

namespace UtilsFramework
namespace Startup

open Library
open Library.TransitionSystem

variable {Allocator Module : Type}

/-- All modules the calls have started, in order. -/
def allStarted (calls : List (Call Allocator Module)) : List Module :=
  calls.reverse.flatMap Call.started

theorem allStarted_cons (call : Call Allocator Module)
    (earlier : List (Call Allocator Module)) :
    allStarted (call :: earlier) = allStarted earlier ++ call.started := by
  simp [allStarted]

/-- No module is started twice, and none by a call that did not prepare it. -/
structure StartedOnce (calls : List (Call Allocator Module)) : Prop where
  once : (allStarted calls).Nodup
  own : ∀ call ∈ calls, ∀ module ∈ call.started, module ∈ call.modules

/-- A call that has seen a success is the first to prepare modules, and they are
different. -/
def SuccessesAlone : List (Call Allocator Module) → Prop
  | [] => True
  | call :: earlier =>
      (some true ∈ call.outcomes → allModules earlier = [] ∧ call.modules.Nodup) ∧
        SuccessesAlone earlier

/-- `m_startupModuleVec` as the latest call found it. -/
def foundByCall
    (steps : List (StartupRegistryImpl Allocator Module × Action Allocator Module)) :
    List Module :=
  steps.foldl (fun found visited =>
    match visited.2 with
    | .startAllModules _ => visited.1.startupModuleVec
    | _ => found) []

/-- A module that is waited for has reported success only in a call that found
`m_startupModuleVec` empty and whose allocators returned different modules. -/
def SucceedsAlone
    (before : List (StartupRegistryImpl Allocator Module × Action Allocator Module))
    (s : StartupRegistryImpl Allocator Module) : Action Allocator Module → Prop
  | .wait => s.reported = some true → foundByCall before = [] ∧ s.startupModuleVec.Nodup
  | _ => True

instance [DecidableEq Module]
    (before : List (StartupRegistryImpl Allocator Module × Action Allocator Module))
    (s : StartupRegistryImpl Allocator Module) (action : Action Allocator Module) :
    Decidable (SucceedsAlone before s action) :=
  match action with
  | .wait => inferInstanceAs (Decidable
      (s.reported = some true → foundByCall before = [] ∧ s.startupModuleVec.Nodup))
  | .registerModuleAllocator _ | .startAllModules _ | .prepare _ | .endPreparation
  | .ready _ _ | .endWaiting | .start | .endStarting | .elapse _ => isTrue trivial

section Calls

variable {call : Call Allocator Module} {earlier recorded : List (Call Allocator Module)}
  {phase : Phase Allocator Module}

/-- The calls before the latest one. -/
theorem StartedOnce.tail (hOnce : StartedOnce (call :: earlier)) :
    StartedOnce earlier where
  once := by
    have hNodup := hOnce.once
    rw [allStarted_cons] at hNodup
    exact (List.nodup_append.mp hNodup).1
  own := fun other hOther => hOnce.own other (List.mem_cons_of_mem _ hOther)

/-- What a call starts, it starts in the order of the vector. -/
theorem InCall.started_isPrefix (hCall : InCall call earlier phase) :
    call.started <+: allModules (call :: earlier) := by
  cases hCall with
  | idle hReturned =>
      rw [hReturned.started_eq]
      split
      · exact List.prefix_rfl
      · exact List.nil_prefix
  | preparing _ _ _ hStarted => rw [hStarted]; exact List.nil_prefix
  | waiting _ _ _ hStarted => rw [hStarted]; exact List.nil_prefix
  | starting _ _ _ hStarted => exact ⟨_, hStarted⟩

/-- Nothing is started before a success has been seen. -/
theorem InCall.success_of_started (hCall : InCall call earlier phase)
    (hStarted : call.started ≠ []) : some true ∈ call.outcomes := by
  cases hCall with
  | idle hReturned =>
      by_contra hNone
      rw [hReturned.started_eq, if_neg hNone] at hStarted
      exact hStarted rfl
  | preparing _ _ _ hNone => exact absurd hNone hStarted
  | waiting _ _ _ hNone => exact absurd hNone hStarted
  | starting _ _ hSome => exact hSome

/-- Only what has been prepared is started. -/
theorem Progress.prepared_of_started (hProgress : Progress recorded phase) {module : Module}
    (hStarted : module ∈ allStarted recorded) : module ∈ allModules recorded := by
  induction hProgress with
  | none => exact hStarted
  | latest hCall hEarlier ih =>
      rw [allStarted_cons, List.mem_append] at hStarted
      rcases hStarted with hBefore | hLatest
      · rw [allModules_cons]
        exact List.mem_append_left _ (ih hBefore)
      · exact hCall.started_isPrefix.subset hLatest

theorem Progress.startedOnce (hProgress : Progress recorded phase)
    (hAlone : SuccessesAlone recorded) : StartedOnce recorded := by
  induction hProgress with
  | none => exact ⟨List.nodup_nil, nofun⟩
  | @latest call earlier phase hCall hEarlier ih =>
      have hOnce : StartedOnce earlier := ih hAlone.2
      by_cases hStarted : call.started = []
      · constructor
        · rw [allStarted_cons, hStarted, List.append_nil]
          exact hOnce.once
        · intro other hOther module hModule
          rcases List.mem_cons.mp hOther with rfl | hOther
          · rw [hStarted] at hModule
            cases hModule
          · exact hOnce.own other hOther module hModule
      · -- the call is the first to prepare modules, so no other has started one
        obtain ⟨hFirst, hDifferent⟩ := hAlone.1 (hCall.success_of_started hStarted)
        have hNone : allStarted earlier = [] := by
          refine List.eq_nil_iff_forall_not_mem.mpr fun module hModule => ?_
          have hPrepared := hEarlier.prepared_of_started hModule
          rw [hFirst] at hPrepared
          cases hPrepared
        have hPrefix : call.started <+: call.modules := by
          have hAll := hCall.started_isPrefix
          rwa [allModules_cons, hFirst, List.nil_append] at hAll
        constructor
        · rw [allStarted_cons, hNone, List.nil_append]
          exact hDifferent.sublist hPrefix.sublist
        · intro other hOther module hModule
          rcases List.mem_cons.mp hOther with rfl | hOther
          · exact hPrefix.subset hModule
          · exact hOnce.own other hOther module hModule

/-- A call that has returned and keeps to its own modules found no others. -/
theorem Call.Returned.alone (hReturned : call.Returned earlier)
    (hOnce : StartedOnce (call :: earlier)) (hSuccess : some true ∈ call.outcomes) :
    allModules earlier = [] ∧ call.modules.Nodup := by
  have hStarted : call.started = allModules earlier ++ call.modules := by
    rw [hReturned.started_eq, if_pos hSuccess, allModules_cons]
  have hNodup : (allModules earlier ++ call.modules).Nodup := by
    have hAll := hOnce.once
    rw [allStarted_cons, hStarted] at hAll
    exact (List.nodup_append.mp hAll).2.1
  obtain ⟨-, hModules, hDisjoint⟩ := List.nodup_append.mp hNodup
  refine ⟨?_, hModules⟩
  -- a module of an earlier call would be one of this call as well
  refine List.eq_nil_iff_forall_not_mem.mpr fun module hModule => ?_
  have hOwn : module ∈ call.modules := by
    apply hOnce.own call List.mem_cons_self
    rw [hStarted]
    exact List.mem_append_left _ hModule
  exact hDisjoint module hModule module hOwn rfl

theorem Progress.successesAlone (hProgress : Progress recorded .idle)
    (hOnce : StartedOnce recorded) : SuccessesAlone recorded := by
  generalize hPhase : (Phase.idle : Phase Allocator Module) = phase at hProgress
  induction hProgress with
  | none => trivial
  | latest hCall hEarlier ih =>
      subst hPhase
      cases hCall with
      | idle hReturned => exact ⟨hReturned.alone hOnce, ih hOnce.tail rfl⟩

/-- Outcomes and modules change only in a `wait` and in a `prepare`. -/
theorem successesAlone_observe (output : Output Allocator Module)
    (hWaited : ∀ outcome, output ≠ .waited outcome)
    (hPrepared : ∀ allocator module, output ≠ .prepared allocator module) :
    SuccessesAlone (observe recorded output) ↔ SuccessesAlone recorded := by
  cases output with
  | waited outcome => exact absurd rfl (hWaited outcome)
  | prepared allocator module => exact absurd rfl (hPrepared allocator module)
  | called => simp [observe, SuccessesAlone, Call.start]
  | started | futureError | returned =>
      cases recorded <;> simp [observe, SuccessesAlone, Call.observe, Call.modules]

/-- Only `called` makes a new call of the latest one an earlier one. -/
theorem earlier_of_observe {output : Output Allocator Module}
    (hOutput : ∀ allocators, output ≠ .called allocators)
    (hCalls : observe recorded output = call :: earlier) :
    ∃ latest, recorded = latest :: earlier := by
  cases output with
  | called allocators => exact absurd rfl (hOutput allocators)
  | prepared | waited | started | futureError | returned =>
      cases recorded with
      | nil => cases hCalls
      | cons latest others => exact ⟨latest, congrArg (latest :: ·) (List.cons.inj hCalls).2⟩

end Calls

variable {steps : List (StartupRegistryImpl Allocator Module × Action Allocator Module)}
  {history : List (Output Allocator Module)} {s : StartupRegistryImpl Allocator Module}

theorem foundByCall_of_other {action : Action Allocator Module}
    (hAction : ∀ startupTimeout, action ≠ .startAllModules startupTimeout) :
    foundByCall (steps ++ [(s, action)]) = foundByCall steps := by
  rw [foundByCall, List.foldl_append, ← foundByCall]
  cases action with
  | startAllModules startupTimeout => exact absurd rfl (hAction startupTimeout)
  | registerModuleAllocator | prepare | endPreparation | ready | wait | endWaiting | start
  | endStarting | elapse => rfl

/-- A call finds the modules of the earlier calls. -/
theorem foundByCall_of_run (run : (startupSystem Allocator Module).Run steps history s)
    {call : Call Allocator Module} {earlier : List (Call Allocator Module)}
    (hCalls : calls history = call :: earlier) : foundByCall steps = allModules earlier := by
  induction run generalizing call with
  | start => cases hCalls
  | @next steps history s t action new run hStep ih =>
      cases StartupRegistryImpl.moves_of_step hStep with
      | called =>
          rw [calls_append] at hCalls
          obtain ⟨-, rfl⟩ := List.cons.inj hCalls
          rw [foundByCall, List.foldl_append]
          exact (recorded_of_run run).modules_eq
      | registered | reported | elapsed | preparationEnded | succeeded =>
          rw [List.append_nil] at hCalls
          rw [foundByCall_of_other (by simp)]
          exact ih hCalls
      | prepared | waited | threw | failed | started | startingEnded =>
          rw [calls_append] at hCalls
          obtain ⟨latest, hLatest⟩ := earlier_of_observe (by simp) hCalls
          rw [foundByCall_of_other (by simp)]
          exact ih hLatest

/-- The successes a call sees are the reports its waits find. -/
theorem successesAlone_iff (run : (startupSystem Allocator Module).Run steps history s) :
    SuccessesAlone (calls history) ↔ EveryStepAfter SucceedsAlone steps := by
  induction run with
  | start => simp [calls, SuccessesAlone]
  | @next steps history s t action new run hStep ih =>
      have hRecorded := recorded_of_run run
      rw [everyStepAfter_append_singleton, ← ih]
      cases StartupRegistryImpl.moves_of_step hStep with
      | registered | reported | elapsed | preparationEnded | succeeded =>
          rw [List.append_nil]
          exact (and_iff_left trivial).symm
      | called | threw | failed | started | startingEnded =>
          rw [calls_append, successesAlone_observe _ (by simp) (by simp)]
          exact (and_iff_left trivial).symm
      | prepared hPhase =>
          -- nothing has been waited for yet
          obtain ⟨call, earlier, hCalls, hCall, -⟩ := hRecorded.latest hPhase (by simp)
          cases hCall with
          | preparing _ _ hOutcomes =>
              rw [calls_append, hCalls]
              simp [observe, SuccessesAlone, Call.observe, SucceedsAlone, hOutcomes]
      | @waited responder remaining result before after outcome hPhase hBefore hAfter =>
          obtain ⟨call, earlier, hCalls, -, -⟩ := hRecorded.latest hPhase (by simp)
          have hReport : outcome = s.reported :=
            (pending_of_run run).outcome_eq hPhase hBefore hAfter
          have hFound := foundByCall_of_run run hCalls
          have hModules : s.startupModuleVec = allModules earlier ++ call.modules := by
            rw [hRecorded.modules_eq, hCalls, allModules_cons]
          rw [calls_append, hCalls]
          simp only [observe, Call.observe, SuccessesAlone, SucceedsAlone, List.mem_append,
            List.mem_singleton, ← hReport, hFound, hModules]
          constructor
          · rintro ⟨hCall, hEarlier⟩
            refine ⟨⟨fun hSeen => hCall (Or.inl hSeen), hEarlier⟩, fun hSuccess => ?_⟩
            obtain ⟨hNone, hDifferent⟩ := hCall (Or.inr hSuccess.symm)
            rw [hNone, List.nil_append]
            exact ⟨rfl, hDifferent⟩
          · rintro ⟨⟨hCall, hEarlier⟩, hStep⟩
            refine ⟨fun hSeen => ?_, hEarlier⟩
            rcases hSeen with hSeen | hSuccess
            · exact hCall hSeen
            · obtain ⟨hNone, hDifferent⟩ := hStep hSuccess.symm
              rw [hNone, List.nil_append] at hDifferent
              exact ⟨hNone, hDifferent⟩

/-- In every run, at any point: if successes are reported only in calls that found
`m_startupModuleVec` empty and got different modules, every module is started at
most once and by a call that prepared it.  Once the calls have returned, this
holds in no other case. -/
theorem run_starts_once
    (run : (startupSystem Allocator Module).Run steps history s) :
    (EveryStepAfter SucceedsAlone steps → StartedOnce (calls history)) ∧
      (s.phase = .idle → StartedOnce (calls history) →
        EveryStepAfter SucceedsAlone steps) := by
  have hProgress := (recorded_of_run run).progress
  rw [← successesAlone_iff run]
  constructor
  · exact hProgress.startedOnce
  · intro hIdle
    rw [hIdle] at hProgress
    exact hProgress.successesAlone

/-- `startAllModules` is called without allocators, and again with one. -/
def calledEarly : List (Action Nat Nat) :=
  [.startAllModules 30, .endPreparation, .endWaiting, .registerModuleAllocator 1,
    .startAllModules 30, .prepare 10, .ready 0 true, .endPreparation, .wait,
    .endWaiting, .start, .endStarting]

/-- What is seen of the calls of `calledEarly`, the latest first. -/
def earlyCalls : List (Call Nat Nat) :=
  [⟨[1], [(1, 10)], [some true], [10], some true⟩, ⟨[], [], [], [], some false⟩]

/-- Nothing has been prepared when the second call succeeds. -/
theorem calledEarly_startedOnce : StartedOnce earlyCalls := by
  have run := (run_of_replay (.construct 0) calledEarly ⟨0, rfl⟩ rfl :
    (startupSystem Nat Nat).Run _ _ _)
  exact (run_starts_once run).1 (by decide)

/-- `startAllModules` is called again after it has returned true. -/
def calledAgain : List (Action Nat Nat) :=
  [.registerModuleAllocator 1, .startAllModules 30, .prepare 10, .ready 0 true,
    .endPreparation, .wait, .endWaiting, .start, .endStarting, .startAllModules 30,
    .prepare 11, .ready 1 true, .endPreparation, .wait, .endWaiting, .start, .start,
    .endStarting]

/-- What is seen of the calls of `calledAgain`, the latest first. -/
def callsAgain : List (Call Nat Nat) :=
  [⟨[1], [(1, 11)], [some true], [10, 11], some true⟩,
    ⟨[1], [(1, 10)], [some true], [10], some true⟩]

/-- The second call starts the module of the first one again. -/
theorem calledAgain_startsTwice :
    (∃ (steps : List (StartupRegistryImpl Nat Nat × Action Nat Nat))
        (history : List (Output Nat Nat)) (s : StartupRegistryImpl Nat Nat),
      (startupSystem Nat Nat).Run steps history s ∧ calls history = callsAgain) ∧
      (allModules callsAgain).Nodup ∧ ¬ StartedOnce callsAgain := by
  refine ⟨⟨_, _, _, run_of_replay (.construct 0) calledAgain ⟨0, rfl⟩ rfl, rfl⟩,
    by decide, ?_⟩
  intro hOnce
  exact absurd hOnce.once (by decide)

end Startup
end UtilsFramework
