import UtilsFramework.Startup.Registry

/-!
# What each call of `startAllModules` does

The history of a run is cut into its calls.  A call that has returned prepared
a module for each of its allocators and waited for each of them; it returned
true if some module reported success, and in that case started all modules that
any call so far has prepared.  This holds of every call of every run, whatever
the modules report and however the steps interleave.
-/

namespace UtilsFramework
namespace Startup

open Library
open Library.TransitionSystem

variable {Allocator Module : Type}

/-- What an observer sees of one call; `outcomes` has one entry for each `wait`. -/
structure Call (Allocator Module : Type) where
  allocators : List Allocator
  prepared : List (Allocator × Module)
  outcomes : List (Option Bool)
  started : List Module
  result : Option Bool
deriving DecidableEq, Repr

namespace Call

/-- A call with `m_allocatorFuncVec` as it finds it. -/
def start (allocators : List Allocator) : Call Allocator Module where
  allocators := allocators
  prepared := []
  outcomes := []
  started := []
  result := none

/-- The modules the call prepared, in order. -/
def modules (call : Call Allocator Module) : List Module :=
  call.prepared.map Prod.snd

/-- The allocators the call went through. -/
def allocated (call : Call Allocator Module) : List Allocator :=
  call.prepared.map Prod.fst

def observe (call : Call Allocator Module) :
    Output Allocator Module → Call Allocator Module
  | .called _ => call
  | .prepared allocator module =>
      { call with prepared := call.prepared ++ [(allocator, module)] }
  | .waited outcome => { call with outcomes := call.outcomes ++ [outcome] }
  | .started module => { call with started := call.started ++ [module] }
  | .futureError _ => call
  | .returned result => { call with result := some result }

end Call

/-- An observation belongs to the latest call, which comes first. -/
def observe (calls : List (Call Allocator Module)) (output : Output Allocator Module) :
    List (Call Allocator Module) :=
  match output, calls with
  | .called allocators, calls => .start allocators :: calls
  | _, [] => []
  | output, call :: earlier => call.observe output :: earlier

/-- The calls of a run, the latest first. -/
def calls (history : List (Output Allocator Module)) : List (Call Allocator Module) :=
  history.foldl observe []

/-- All modules the calls have prepared, in order. -/
def allModules (calls : List (Call Allocator Module)) : List Module :=
  calls.reverse.flatMap Call.modules

theorem calls_append (history : List (Output Allocator Module))
    (output : Output Allocator Module) :
    calls (history ++ [output]) = observe (calls history) output := by
  simp [calls]

theorem allModules_cons (call : Call Allocator Module)
    (earlier : List (Call Allocator Module)) :
    allModules (call :: earlier) = allModules earlier ++ call.modules := by
  simp [allModules]

/-- A call that has returned. -/
structure Call.Returned (call : Call Allocator Module)
    (earlier : List (Call Allocator Module)) : Prop where
  allocated_eq : call.allocated = call.allocators
  outcomes_length : call.outcomes.length = call.allocators.length
  result_eq : call.result = some (decide (some true ∈ call.outcomes))
  started_eq : call.started =
    if some true ∈ call.outcomes then allModules (call :: earlier) else []

/-- How the phase goes with what has been seen of the latest call. -/
inductive InCall (call : Call Allocator Module) (earlier : List (Call Allocator Module)) :
    Phase Allocator Module → Prop
  | idle (hReturned : call.Returned earlier) : InCall call earlier .idle
  | preparing {startupTimeout : Int} {remaining : List Allocator}
      {responderVec : List ResponderId}
      (hAllocated : call.allocated ++ remaining = call.allocators)
      (hResponders : responderVec.length = call.allocated.length)
      (hOutcomes : call.outcomes = []) (hStarted : call.started = [])
      (hResult : call.result = none) :
      InCall call earlier (.preparing startupTimeout remaining responderVec)
  | waiting {remaining : List ResponderId} {result : Bool}
      (hAllocated : call.allocated = call.allocators)
      (hOutcomes : call.outcomes.length + remaining.length = call.allocators.length)
      (hSome : result = decide (some true ∈ call.outcomes))
      (hStarted : call.started = []) (hResult : call.result = none) :
      InCall call earlier (.waiting remaining result)
  | starting {remaining : List Module} (hAllocated : call.allocated = call.allocators)
      (hOutcomes : call.outcomes.length = call.allocators.length)
      (hSome : some true ∈ call.outcomes)
      (hStarted : call.started ++ remaining = allModules (call :: earlier))
      (hResult : call.result = none) :
      InCall call earlier (.starting remaining)

/-- The latest call is in its phase and the earlier ones have returned. -/
inductive Progress : List (Call Allocator Module) → Phase Allocator Module → Prop
  | none : Progress [] .idle
  | latest {call : Call Allocator Module} {earlier : List (Call Allocator Module)}
      {phase : Phase Allocator Module} (hCall : InCall call earlier phase)
      (hEarlier : Progress earlier .idle) : Progress (call :: earlier) phase

/-! ## The phases of a call -/

section Phases

variable {call : Call Allocator Module} {earlier : List (Call Allocator Module)}

/-- An observation that is no `prepare` leaves the modules alone. -/
theorem allModules_observe {output : Output Allocator Module}
    (hPrepared : (call.observe output).prepared = call.prepared) :
    allModules (call.observe output :: earlier) = allModules (call :: earlier) := by
  rw [allModules_cons, allModules_cons, Call.modules, Call.modules, hPrepared]

theorem InCall.prepared {startupTimeout : Int} {allocator : Allocator}
    {remaining : List Allocator} {responderVec : List ResponderId}
    (hCall : InCall call earlier
      (.preparing startupTimeout (allocator :: remaining) responderVec))
    (module : Module) (responder : ResponderId) :
    InCall (call.observe (.prepared allocator module)) earlier
      (.preparing startupTimeout remaining (responderVec ++ [responder])) := by
  cases hCall with
  | preparing hAllocated hResponders hOutcomes hStarted hResult =>
      refine .preparing ?_ ?_ hOutcomes hStarted hResult
      · simpa [Call.allocated, Call.observe] using hAllocated
      · simpa [Call.allocated, Call.observe] using hResponders

theorem InCall.preparationEnded {startupTimeout : Int} {responderVec : List ResponderId}
    (hCall : InCall call earlier (.preparing startupTimeout [] responderVec)) :
    InCall call earlier (.waiting responderVec false) := by
  cases hCall with
  | preparing hAllocated hResponders hOutcomes hStarted hResult =>
      rw [List.append_nil] at hAllocated
      refine .waiting hAllocated ?_ (by simp [hOutcomes]) hStarted hResult
      rw [hOutcomes, hResponders, hAllocated, List.length_nil, Nat.zero_add]

theorem InCall.waited {responder : ResponderId} {remaining : List ResponderId}
    {result : Bool} (hCall : InCall call earlier (.waiting (responder :: remaining) result))
    (outcome : Option Bool) :
    InCall (call.observe (.waited outcome)) earlier
      (.waiting remaining (StartupRegistryImpl.resultAfter result outcome)) := by
  cases hCall with
  | waiting hAllocated hOutcomes hSome hStarted hResult =>
      refine .waiting hAllocated ?_ ?_ hStarted hResult
      · rw [List.length_cons] at hOutcomes
        show (call.outcomes ++ [outcome]).length + remaining.length = call.allocators.length
        rw [List.length_append, List.length_singleton]
        omega
      · rw [hSome]
        cases outcome with
        | none => simp [StartupRegistryImpl.resultAfter, Call.observe]
        | some success =>
            cases success <;> simp [StartupRegistryImpl.resultAfter, Call.observe]

theorem InCall.succeeded (hCall : InCall call earlier (.waiting [] true)) :
    InCall call earlier (.starting (allModules (call :: earlier))) := by
  cases hCall with
  | waiting hAllocated hOutcomes hSome hStarted hResult =>
      refine .starting hAllocated hOutcomes (by simpa using hSome.symm) ?_ hResult
      rw [hStarted, List.nil_append]

theorem InCall.failed (hCall : InCall call earlier (.waiting [] false)) :
    InCall (call.observe (.returned false)) earlier .idle := by
  cases hCall with
  | waiting hAllocated hOutcomes hSome hStarted hResult =>
      have hNone : some true ∉ call.outcomes := by simpa using hSome.symm
      refine .idle ⟨hAllocated, hOutcomes, ?_, ?_⟩
      · simp [Call.observe, hNone]
      · simp [Call.observe, hNone, hStarted]

theorem InCall.started {module : Module} {remaining : List Module}
    (hCall : InCall call earlier (.starting (module :: remaining))) :
    InCall (call.observe (.started module)) earlier (.starting remaining) := by
  cases hCall with
  | starting hAllocated hOutcomes hSome hStarted hResult =>
      refine .starting hAllocated hOutcomes hSome ?_ hResult
      rw [allModules_observe rfl, ← hStarted]
      exact List.append_assoc _ _ _

theorem InCall.startingEnded (hCall : InCall call earlier (.starting [])) :
    InCall (call.observe (.returned true)) earlier .idle := by
  cases hCall with
  | starting hAllocated hOutcomes hSome hStarted hResult =>
      rw [List.append_nil] at hStarted
      refine .idle ⟨hAllocated, hOutcomes, ?_, ?_⟩
      · simp [Call.observe, hSome]
      · rw [allModules_observe rfl, ← hStarted]
        simp [Call.observe, hSome]

end Phases

/-! ## Every step -/

namespace StartupRegistryImpl

/-- What holds in every state of every run. -/
structure Recorded (history : List (Output Allocator Module))
    (s : StartupRegistryImpl Allocator Module) : Prop where
  modules_eq : s.startupModuleVec = allModules (calls history)
  progress : Progress (calls history) s.phase

variable {s t : StartupRegistryImpl Allocator Module} {action : Action Allocator Module}
  {history new : List (Output Allocator Module)}

theorem recorded_construct (now : Int) :
    Recorded [] (construct now : StartupRegistryImpl Allocator Module) where
  modules_eq := rfl
  progress := .none

/-- Within a call there is a latest call, and it is in its phase. -/
theorem Recorded.latest (hRecorded : s.Recorded history) {phase : Phase Allocator Module}
    (hPhase : s.phase = phase) (hBusy : phase ≠ .idle) :
    ∃ call earlier, calls history = call :: earlier ∧ InCall call earlier phase ∧
      Progress earlier .idle := by
  have hProgress := hRecorded.progress
  rw [hPhase] at hProgress
  generalize calls history = recorded at hProgress
  cases hProgress with
  | none => exact absurd rfl hBusy
  | latest hCall hEarlier => exact ⟨_, _, rfl, hCall, hEarlier⟩

/-- A step that is not seen and leaves the modules alone. -/
theorem Recorded.of_silent (hRecorded : s.Recorded history)
    (hModules : t.startupModuleVec = s.startupModuleVec)
    (hProgress : Progress (calls history) t.phase) : t.Recorded (history ++ []) := by
  rw [List.append_nil]
  exact ⟨hModules.trans hRecorded.modules_eq, hProgress⟩

/-- A step of the latest call that is seen. -/
theorem recorded_of_observed {call : Call Allocator Module}
    {earlier : List (Call Allocator Module)} (hCalls : calls history = call :: earlier)
    (hEarlier : Progress earlier .idle) (output : Output Allocator Module)
    (hOutput : observe (call :: earlier) output = call.observe output :: earlier)
    (hModules : t.startupModuleVec = allModules (call.observe output :: earlier))
    (hCall : InCall (call.observe output) earlier t.phase) :
    t.Recorded (history ++ [output]) := by
  have hAfter : calls (history ++ [output]) = call.observe output :: earlier := by
    rw [calls_append, hCalls, hOutput]
  constructor
  · rw [hAfter, hModules]
  · rw [hAfter]
    exact .latest hCall hEarlier

/-- The modules after a step of the latest call that prepares none. -/
theorem Recorded.modules_of_observed (hRecorded : s.Recorded history)
    {call : Call Allocator Module} {earlier : List (Call Allocator Module)}
    (hCalls : calls history = call :: earlier) (output : Output Allocator Module)
    (hPrepared : (call.observe output).prepared = call.prepared) :
    s.startupModuleVec = allModules (call.observe output :: earlier) := by
  rw [allModules_observe hPrepared, hRecorded.modules_eq, hCalls]

theorem Recorded.step (hRecorded : s.Recorded history) (moves : Moves s action t new) :
    t.Recorded (history ++ new) := by
  cases moves with
  | registered | reported | elapsed => exact hRecorded.of_silent rfl hRecorded.progress
  | threw =>
      -- the observation of a report that throws changes no call
      have hSame : ∀ recorded : List (Call Allocator Module), ∀ responder,
          observe recorded (.futureError responder) = recorded := by
        intro recorded responder
        cases recorded <;> rfl
      constructor
      · rw [calls_append, hSame]
        exact hRecorded.modules_eq
      · rw [calls_append, hSame]
        exact hRecorded.progress
  | called hPhase =>
      constructor
      · rw [calls_append]
        show s.startupModuleVec = allModules (Call.start _ :: calls history)
        rw [allModules_cons, hRecorded.modules_eq]
        exact (List.append_nil _).symm
      · rw [calls_append]
        exact .latest (.preparing rfl rfl rfl rfl rfl) (hPhase ▸ hRecorded.progress)
  | @prepared startupTimeout allocator remaining responderVec module hPhase =>
      obtain ⟨call, earlier, hCalls, hCall, hEarlier⟩ := hRecorded.latest hPhase nofun
      refine recorded_of_observed hCalls hEarlier (.prepared allocator module) rfl ?_
        (hCall.prepared module _)
      show s.startupModuleVec ++ [module] = _
      rw [hRecorded.modules_eq, hCalls, allModules_cons, allModules_cons]
      simp [Call.modules, Call.observe]
  | preparationEnded hPhase =>
      obtain ⟨call, earlier, hCalls, hCall, hEarlier⟩ := hRecorded.latest hPhase nofun
      refine hRecorded.of_silent rfl ?_
      rw [hCalls]
      exact .latest hCall.preparationEnded hEarlier
  | @waited _ _ _ _ _ outcome hPhase _ _ =>
      obtain ⟨call, earlier, hCalls, hCall, hEarlier⟩ := hRecorded.latest hPhase nofun
      exact recorded_of_observed hCalls hEarlier _ rfl
        (hRecorded.modules_of_observed hCalls _ rfl) (hCall.waited outcome)
  | succeeded hPhase =>
      obtain ⟨call, earlier, hCalls, hCall, hEarlier⟩ := hRecorded.latest hPhase nofun
      refine hRecorded.of_silent rfl ?_
      show Progress (calls history) (.starting s.startupModuleVec)
      rw [hRecorded.modules_eq, hCalls]
      exact .latest hCall.succeeded hEarlier
  | failed hPhase =>
      obtain ⟨call, earlier, hCalls, hCall, hEarlier⟩ := hRecorded.latest hPhase nofun
      exact recorded_of_observed hCalls hEarlier _ rfl
        (hRecorded.modules_of_observed hCalls _ rfl) hCall.failed
  | started hPhase =>
      obtain ⟨call, earlier, hCalls, hCall, hEarlier⟩ := hRecorded.latest hPhase nofun
      exact recorded_of_observed hCalls hEarlier _ rfl
        (hRecorded.modules_of_observed hCalls _ rfl) hCall.started
  | startingEnded hPhase =>
      obtain ⟨call, earlier, hCalls, hCall, hEarlier⟩ := hRecorded.latest hPhase nofun
      exact recorded_of_observed hCalls hEarlier _ rfl
        (hRecorded.modules_of_observed hCalls _ rfl) hCall.startingEnded

end StartupRegistryImpl

theorem Progress.returned {recorded : List (Call Allocator Module)}
    {phase : Phase Allocator Module} (hProgress : Progress recorded phase)
    {later earlier : List (Call Allocator Module)} {call : Call Allocator Module}
    (hCalls : recorded = later ++ call :: earlier) {result : Bool}
    (hResult : call.result = some result) : call.Returned earlier := by
  -- only the latest call can still be under way
  induction hProgress generalizing later with
  | none => simp at hCalls
  | latest hCall hEarlier ih =>
      cases later with
      | cons _ later => exact ih (List.cons.inj hCalls).2
      | nil =>
          obtain ⟨rfl, rfl⟩ := List.cons.inj hCalls
          cases hCall with
          | idle hReturned => exact hReturned
          | preparing _ _ _ _ hNone => simp [hNone] at hResult
          | waiting _ _ _ _ hNone => simp [hNone] at hResult
          | starting _ _ _ _ hNone => simp [hNone] at hResult

variable {steps : List (StartupRegistryImpl Allocator Module × Action Allocator Module)}
  {history : List (Output Allocator Module)} {s : StartupRegistryImpl Allocator Module}

theorem recorded_of_run (run : (startupSystem Allocator Module).Run steps history s) :
    s.Recorded history := by
  refine run.invariant_of_all (fun history s => s.Recorded history) ?_ ?_
  · rintro s ⟨now, rfl⟩
    exact StartupRegistryImpl.recorded_construct now
  · intro history s action t new hRecorded hStep
    exact hRecorded.step (StartupRegistryImpl.moves_of_step hStep)

/-- Every call that has returned, in every run. -/
theorem returned_of_run (run : (startupSystem Allocator Module).Run steps history s)
    (later : List (Call Allocator Module)) {call : Call Allocator Module}
    {earlier : List (Call Allocator Module)}
    (hCalls : calls history = later ++ call :: earlier) {result : Bool}
    (hResult : call.result = some result) : call.Returned earlier :=
  (recorded_of_run run).progress.returned hCalls hResult

end Startup
end UtilsFramework
