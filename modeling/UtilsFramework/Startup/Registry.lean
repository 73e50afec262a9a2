import UtilsFramework.Library.Promise
import UtilsFramework.Library.SteadyClock
import UtilsFramework.Library.TransitionSystem

/-!
# The startup registry

`startAllModules` goes through three loops: it allocates and prepares a module
for every registered allocator, waits for the responder of each, and, if a
module has reported success, starts all modules it has.  `m_startupModuleVec`
outlives the call; the responders of a call are its own, but a module keeps its
responder and may report at any time, from any thread.

The passes of the loops, the reports and the passing of time are steps, so they
interleave freely.  `ready` and `wait` are one step each, and `wait` blocks by
not being enabled.  Modules are whatever the allocators return.  Only one call
of `startAllModules` is under way at a time, nothing is registered while the
first loop goes through `m_allocatorFuncVec`, and no exception leaves `prepare`
or `start`.
-/

namespace UtilsFramework
namespace Startup

open Library

structure PreparationPhaseResponderImpl where
  timePoint : Int
  promise : Promise Bool
deriving DecidableEq

namespace PreparationPhaseResponderImpl

/-- `none` if `set_value` throws `std::future_error`. -/
def ready (responder : PreparationPhaseResponderImpl) (success : Bool) :
    Option PreparationPhaseResponderImpl :=
  if responder.promise.valid then
    (responder.promise.setValue success).map fun promise =>
      { responder with promise := promise }
  else some responder

/-- What `wait` returns at `now`, with `success` if it returns true; `none` while
it blocks. -/
def wait (responder : PreparationPhaseResponderImpl) (now : Int) :
    Option (Option Bool × PreparationPhaseResponderImpl) :=
  if responder.promise.valid then
    match responder.promise.get with
    | some (success, promise) =>
        some (some success, { responder with promise := promise })
    | none => if responder.timePoint ≤ now then some (none, responder) else none
  else some (none, responder)

variable {before after : PreparationPhaseResponderImpl}

theorem after_of_ready {success : Bool} (hReady : before.ready success = some after) :
    after = { before with promise := before.promise.use (.setValue success) } := by
  unfold ready at hReady
  split at hReady
  · obtain ⟨promise, hSet, rfl⟩ := Option.map_eq_some_iff.mp hReady
    simp [Promise.use, hSet]
  · rename_i hTaken
    obtain ⟨value, hValue⟩ := Option.isSome_iff_exists.mp
      (before.promise.satisfied_of_not_valid (by simpa using hTaken))
    cases hReady
    simp [Promise.use, Promise.setValue, hValue]

/-- A report throws if there is one already that has not been taken. -/
theorem ready_eq_none_iff {success : Bool} :
    before.ready success = none ↔
      before.promise.value.isSome = true ∧ before.promise.valid = true := by
  unfold ready Promise.setValue
  split
  · rename_i hValid
    cases hValue : before.promise.value <;> simp [hValid]
  · rename_i hTaken
    simp [hTaken]

theorem promise_of_threw {success : Bool} (hThrows : before.ready success = none) :
    before.promise = before.promise.use (.setValue success) := by
  obtain ⟨value, hValue⟩ := Option.isSome_iff_exists.mp (ready_eq_none_iff.mp hThrows).1
  simp [Promise.use, Promise.setValue, hValue]

theorem after_of_wait {now : Int} {outcome : Option Bool}
    (hWait : before.wait now = some (outcome, after)) :
    after = { before with promise := before.promise.use .get } := by
  unfold wait at hWait
  split at hWait
  · split at hWait
    · rename_i success promise hGet
      obtain ⟨rfl, rfl⟩ := by simpa using hWait
      simp [Promise.use, hGet]
    · rename_i hGet
      split at hWait
      · obtain ⟨rfl, rfl⟩ := by simpa using hWait
        simp [Promise.use, hGet]
      · cases hWait
  · rename_i hTaken
    obtain ⟨rfl, rfl⟩ := by simpa using hWait
    simp [Promise.use, Promise.get, hTaken]

/-- The first `wait` returns what has been reported, and nothing only after the deadline. -/
theorem outcome_of_wait {now : Int} {outcome : Option Bool}
    (hValid : before.promise.valid = true)
    (hWait : before.wait now = some (outcome, after)) :
    outcome = before.promise.value ∧ (outcome = none → before.timePoint ≤ now) := by
  rw [wait, if_pos hValid] at hWait
  split at hWait
  · rename_i success promise hGet
    obtain ⟨rfl, rfl⟩ := by simpa using hWait
    exact ⟨(Promise.get_spec hGet).1.symm, nofun⟩
  · rename_i hGet
    split at hWait
    · rename_i hDeadline
      obtain ⟨rfl, rfl⟩ := by simpa using hWait
      exact ⟨(Promise.value_of_get_eq_none hValid hGet).symm, fun _ => hDeadline⟩
    · cases hWait

/-- A `wait` blocks while there is no report, until the deadline. -/
theorem wait_eq_none_iff {now : Int} :
    before.wait now = none ↔ before.promise.valid = true ∧ before.promise.value = none ∧
      now < before.timePoint := by
  unfold wait Promise.get
  cases hValid : before.promise.valid with
  | false => simp
  | true => cases hValue : before.promise.value <;> simp

end PreparationPhaseResponderImpl

/-- The place of a responder among all that were made. -/
abbrev ResponderId := Nat

/-- Where the call of `startAllModules` is, with its local variables. -/
inductive Phase (Allocator Module : Type)
  | idle
  | preparing (startupTimeout : Int) (remaining : List Allocator)
      (responderVec : List ResponderId)
  | waiting (remaining : List ResponderId) (result : Bool)
  | starting (remaining : List Module)
deriving DecidableEq, Repr

/-- The members of the registry, every responder made so far, and the clock. -/
structure StartupRegistryImpl (Allocator Module : Type) where
  allocatorFuncVec : List Allocator
  startupModuleVec : List Module
  responders : List PreparationPhaseResponderImpl
  phase : Phase Allocator Module
  now : Int
deriving DecidableEq

inductive Action (Allocator Module : Type)
  | registerModuleAllocator (allocator : Allocator)
  | startAllModules (startupTimeout : Int)
  | prepare (module : Module)
  | endPreparation
  | ready (responder : ResponderId) (success : Bool)
  | wait
  | endWaiting
  | start
  | endStarting
  | elapse (duration : Nat)
deriving DecidableEq, Repr

inductive Output (Allocator Module : Type)
  | called (allocators : List Allocator)
  | prepared (allocator : Allocator) (module : Module)
  | waited (outcome : Option Bool)
  | started (module : Module)
  | futureError (responder : ResponderId)
  | returned (result : Bool)
deriving DecidableEq, Repr

variable {Allocator Module : Type}

namespace StartupRegistryImpl

def construct (now : Int) : StartupRegistryImpl Allocator Module where
  allocatorFuncVec := []
  startupModuleVec := []
  responders := []
  phase := .idle
  now := now

/-- A pass of the first loop, up to the call of `prepare`. -/
def prepareModule (s : StartupRegistryImpl Allocator Module) (startupTimeout : Int)
    (remaining : List Allocator) (responderVec : List ResponderId) (module : Module) :
    StartupRegistryImpl Allocator Module :=
  { s with
    startupModuleVec := s.startupModuleVec ++ [module]
    responders := s.responders ++ [⟨dateAfter 1000000000 s.now startupTimeout, .fresh⟩]
    phase := .preparing startupTimeout remaining (responderVec ++ [s.responders.length]) }

/-- `result` after a pass of the second loop. -/
def resultAfter (result : Bool) : Option Bool → Bool
  | some true => true
  | some false => result
  | none => result

def step (s : StartupRegistryImpl Allocator Module) :
    Action Allocator Module →
    Option (StartupRegistryImpl Allocator Module × List (Output Allocator Module))
  | .registerModuleAllocator allocator =>
      match s.phase with
      | .preparing _ _ _ => none
      | _ => some ({ s with allocatorFuncVec := s.allocatorFuncVec ++ [allocator] }, [])
  | .startAllModules startupTimeout =>
      match s.phase with
      | .idle =>
          some ({ s with phase := .preparing startupTimeout s.allocatorFuncVec [] },
            [.called s.allocatorFuncVec])
      | _ => none
  | .prepare module =>
      match s.phase with
      | .preparing startupTimeout (allocator :: remaining) responderVec =>
          some (s.prepareModule startupTimeout remaining responderVec module,
            [.prepared allocator module])
      | _ => none
  | .endPreparation =>
      match s.phase with
      | .preparing _ [] responderVec =>
          some ({ s with phase := .waiting responderVec false }, [])
      | _ => none
  | .ready responder success =>
      match s.responders[responder]? with
      | none => none
      | some resp =>
          match resp.ready success with
          -- the module is left with the exception
          | none => some (s, [.futureError responder])
          | some resp => some ({ s with responders := s.responders.set responder resp }, [])
  | .wait =>
      match s.phase with
      | .waiting (responder :: remaining) result =>
          match s.responders[responder]? with
          | none => none
          | some resp =>
              (resp.wait s.now).map fun (outcome, resp) =>
                ({ s with
                  responders := s.responders.set responder resp
                  phase := .waiting remaining (resultAfter result outcome) },
                  [.waited outcome])
      | _ => none
  | .endWaiting =>
      -- all modules the registry has, not only those of this call
      match s.phase with
      | .waiting [] true => some ({ s with phase := .starting s.startupModuleVec }, [])
      | .waiting [] false => some ({ s with phase := .idle }, [.returned false])
      | _ => none
  | .start =>
      match s.phase with
      | .starting (module :: remaining) =>
          some ({ s with phase := .starting remaining }, [.started module])
      | _ => none
  | .endStarting =>
      match s.phase with
      | .starting [] => some ({ s with phase := .idle }, [.returned true])
      | _ => none
  | .elapse duration => some ({ s with now := s.now + duration }, [])

/-! ## What a step can do -/

/-- The steps by what they do. -/
inductive Moves (s : StartupRegistryImpl Allocator Module) :
    Action Allocator Module → StartupRegistryImpl Allocator Module →
    List (Output Allocator Module) → Prop
  | registered {allocator : Allocator}
      (hPhase : ∀ startupTimeout remaining responderVec,
        s.phase ≠ .preparing startupTimeout remaining responderVec) :
      Moves s (.registerModuleAllocator allocator)
        { s with allocatorFuncVec := s.allocatorFuncVec ++ [allocator] } []
  | called {startupTimeout : Int} (hPhase : s.phase = .idle) :
      Moves s (.startAllModules startupTimeout)
        { s with phase := .preparing startupTimeout s.allocatorFuncVec [] }
        [.called s.allocatorFuncVec]
  | prepared {startupTimeout : Int} {allocator : Allocator} {remaining : List Allocator}
      {responderVec : List ResponderId} {module : Module}
      (hPhase : s.phase = .preparing startupTimeout (allocator :: remaining) responderVec) :
      Moves s (.prepare module)
        (s.prepareModule startupTimeout remaining responderVec module)
        [.prepared allocator module]
  | preparationEnded {startupTimeout : Int} {responderVec : List ResponderId}
      (hPhase : s.phase = .preparing startupTimeout [] responderVec) :
      Moves s .endPreparation { s with phase := .waiting responderVec false } []
  | reported {responder : ResponderId} {success : Bool}
      {before after : PreparationPhaseResponderImpl}
      (hBefore : s.responders[responder]? = some before)
      (hAfter : before.ready success = some after) :
      Moves s (.ready responder success)
        { s with responders := s.responders.set responder after } []
  | threw {responder : ResponderId} {success : Bool}
      {before : PreparationPhaseResponderImpl}
      (hBefore : s.responders[responder]? = some before)
      (hThrows : before.ready success = none) :
      Moves s (.ready responder success) s [.futureError responder]
  | waited {responder : ResponderId} {remaining : List ResponderId} {result : Bool}
      {before after : PreparationPhaseResponderImpl} {outcome : Option Bool}
      (hPhase : s.phase = .waiting (responder :: remaining) result)
      (hBefore : s.responders[responder]? = some before)
      (hAfter : before.wait s.now = some (outcome, after)) :
      Moves s .wait
        { s with
          responders := s.responders.set responder after
          phase := .waiting remaining (resultAfter result outcome) }
        [.waited outcome]
  | succeeded (hPhase : s.phase = .waiting [] true) :
      Moves s .endWaiting { s with phase := .starting s.startupModuleVec } []
  | failed (hPhase : s.phase = .waiting [] false) :
      Moves s .endWaiting { s with phase := .idle } [.returned false]
  | started {module : Module} {remaining : List Module}
      (hPhase : s.phase = .starting (module :: remaining)) :
      Moves s .start { s with phase := .starting remaining } [.started module]
  | startingEnded (hPhase : s.phase = .starting []) :
      Moves s .endStarting { s with phase := .idle } [.returned true]
  | elapsed {duration : Nat} :
      Moves s (.elapse duration) { s with now := s.now + duration } []

theorem moves_of_step {s t : StartupRegistryImpl Allocator Module}
    {action : Action Allocator Module} {new : List (Output Allocator Module)}
    (hStep : s.step action = some (t, new)) : Moves s action t new := by
  cases action with
  | registerModuleAllocator allocator =>
      simp only [step] at hStep
      split at hStep
      · cases hStep
      · rename_i hPhase
        obtain ⟨rfl, rfl⟩ := by simpa using hStep
        exact .registered hPhase
  | startAllModules startupTimeout =>
      simp only [step] at hStep
      split at hStep
      · rename_i hPhase
        obtain ⟨rfl, rfl⟩ := by simpa using hStep
        exact .called hPhase
      · cases hStep
  | prepare module =>
      simp only [step] at hStep
      split at hStep
      · rename_i hPhase
        obtain ⟨rfl, rfl⟩ := by simpa using hStep
        exact .prepared hPhase
      · cases hStep
  | endPreparation =>
      simp only [step] at hStep
      split at hStep
      · rename_i hPhase
        obtain ⟨rfl, rfl⟩ := by simpa using hStep
        exact .preparationEnded hPhase
      · cases hStep
  | ready responder success =>
      simp only [step] at hStep
      split at hStep
      · cases hStep
      · rename_i before hBefore
        split at hStep
        · rename_i hThrows
          obtain ⟨rfl, rfl⟩ := by simpa using hStep
          exact .threw hBefore hThrows
        · rename_i after hAfter
          obtain ⟨rfl, rfl⟩ := by simpa using hStep
          exact .reported hBefore hAfter
  | wait =>
      simp only [step] at hStep
      split at hStep
      · rename_i responder remaining result hPhase
        split at hStep
        · cases hStep
        · rename_i before hBefore
          obtain ⟨⟨outcome, after⟩, hAfter, hNext⟩ := Option.map_eq_some_iff.mp hStep
          obtain ⟨rfl, rfl⟩ := by simpa using hNext
          exact .waited hPhase hBefore hAfter
      · cases hStep
  | endWaiting =>
      simp only [step] at hStep
      split at hStep
      · rename_i hPhase
        obtain ⟨rfl, rfl⟩ := by simpa using hStep
        exact .succeeded hPhase
      · rename_i hPhase
        obtain ⟨rfl, rfl⟩ := by simpa using hStep
        exact .failed hPhase
      · cases hStep
  | start =>
      simp only [step] at hStep
      split at hStep
      · rename_i hPhase
        obtain ⟨rfl, rfl⟩ := by simpa using hStep
        exact .started hPhase
      · cases hStep
  | endStarting =>
      simp only [step] at hStep
      split at hStep
      · rename_i hPhase
        obtain ⟨rfl, rfl⟩ := by simpa using hStep
        exact .startingEnded hPhase
      · cases hStep
  | elapse duration =>
      obtain ⟨rfl, rfl⟩ := by simpa [step] using hStep
      exact .elapsed

end StartupRegistryImpl

/-- The registry with all its modules. -/
def startupSystem (Allocator Module : Type) :
    TransitionSystem (StartupRegistryImpl Allocator Module) (Action Allocator Module)
      (Output Allocator Module) where
  initial s := ∃ now, s = .construct now
  step := StartupRegistryImpl.step

end Startup
end UtilsFramework
