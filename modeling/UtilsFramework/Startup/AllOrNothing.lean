import UtilsFramework.Startup.Calls

/-!
# All or nothing

The two phases are meant to start all modules or none.  `startAllModules` sets
its result at the first success and never takes it back, so it tells "some
module succeeded" from "none did" where it should tell "all succeeded" from
"one did not".  The two agree exactly if the modules are unanimous, and this
file proves that the first call is all or nothing exactly then.

What a `wait` returns is what the promise holds at that moment: a responder is
waited for once, so its future is still valid.
-/

namespace UtilsFramework
namespace Startup

open Library
open Library.TransitionSystem

variable {Allocator Module : Type}

/-- The responders the call under way has still to wait for. -/
def Phase.pending : Phase Allocator Module → List ResponderId
  | .idle => []
  | .preparing _ _ responderVec => responderVec
  | .waiting remaining _ => remaining
  | .starting _ => []

namespace StartupRegistryImpl

/-- What the module has reported whose responder is waited for. -/
def reported (s : StartupRegistryImpl Allocator Module) : Option Bool :=
  match s.phase with
  | .waiting (responder :: _) _ =>
      s.responders[responder]?.bind fun resp => resp.promise.value
  | _ => none

/-- Pending responders are distinct, and their futures are valid. -/
structure Pending (s : StartupRegistryImpl Allocator Module) : Prop where
  nodup : s.phase.pending.Nodup
  valid : ∀ responder ∈ s.phase.pending, ∃ resp,
    s.responders[responder]? = some resp ∧ resp.promise.valid = true

variable {s t : StartupRegistryImpl Allocator Module} {action : Action Allocator Module}
  {history new : List (Output Allocator Module)}

theorem pending_construct (now : Int) :
    (construct now : StartupRegistryImpl Allocator Module).Pending where
  nodup := List.nodup_nil
  valid := nofun

/-- A step that makes no responder pending and changes none. -/
theorem Pending.of_same (hPending : s.Pending) (hResponders : t.responders = s.responders)
    (hPhase : t.phase.pending = s.phase.pending ∨ t.phase.pending = []) : t.Pending := by
  rcases hPhase with hSame | hNone
  · refine ⟨hSame ▸ hPending.nodup, ?_⟩
    rw [hSame, hResponders]
    exact hPending.valid
  · exact ⟨by rw [hNone]; exact List.nodup_nil, by rw [hNone]; nofun⟩

theorem Pending.prepareModule (hPending : s.Pending) {startupTimeout : Int}
    {before remaining : List Allocator} {responderVec : List ResponderId}
    (hPhase : s.phase = .preparing startupTimeout before responderVec) (module : Module) :
    (s.prepareModule startupTimeout remaining responderVec module).Pending := by
  have hValid := hPending.valid
  have hNodup := hPending.nodup
  rw [hPhase] at hValid hNodup
  have hOld : ∀ responder ∈ responderVec, responder < s.responders.length := by
    intro responder hResponder
    obtain ⟨resp, hResp, -⟩ := hValid responder hResponder
    exact (List.getElem?_eq_some_iff.mp hResp).1
  constructor
  · show (responderVec ++ [s.responders.length]).Nodup
    refine List.nodup_append.mpr ⟨hNodup, List.pairwise_singleton _ _, ?_⟩
    intro responder hResponder new hNew
    rw [List.mem_singleton.mp hNew]
    exact Nat.ne_of_lt (hOld responder hResponder)
  · intro responder hResponder
    rcases List.mem_append.mp hResponder with hResponder | hResponder
    · obtain ⟨resp, hResp, hOpen⟩ := hValid responder hResponder
      refine ⟨resp, ?_, hOpen⟩
      rw [StartupRegistryImpl.prepareModule,
        List.getElem?_append_left (hOld responder hResponder), hResp]
    · rw [List.mem_singleton.mp hResponder]
      exact ⟨_, List.getElem?_concat_length, rfl⟩

theorem Pending.step (hPending : s.Pending) (moves : Moves s action t new) :
    t.Pending := by
  cases moves with
  | registered | threw | elapsed => exact hPending.of_same rfl (Or.inl rfl)
  | called => exact hPending.of_same rfl (Or.inr rfl)
  | prepared hPhase => exact hPending.prepareModule hPhase _
  | preparationEnded hPhase => exact hPending.of_same rfl (Or.inl (by rw [hPhase]; rfl))
  | succeeded | failed | startingEnded => exact hPending.of_same rfl (Or.inr rfl)
  | started => exact hPending.of_same rfl (Or.inr rfl)
  | @reported changed success before after hBefore hAfter =>
      refine ⟨hPending.nodup, ?_⟩
      intro responder hResponder
      obtain ⟨resp, hResp, hValid⟩ := hPending.valid responder hResponder
      by_cases hSame : changed = responder
      · subst hSame
        obtain rfl : before = resp := Option.some.inj (hBefore.symm.trans hResp)
        refine ⟨after, ?_, ?_⟩
        · exact List.getElem?_set_self (List.getElem?_eq_some_iff.mp hBefore).1
        · rw [PreparationPhaseResponderImpl.after_of_ready hAfter]
          exact (Promise.valid_use_setValue _ _).trans hValid
      · exact ⟨resp, (List.getElem?_set_ne hSame).trans hResp, hValid⟩
  | @waited waitedFor remaining result before after outcome hPhase hBefore hAfter =>
      have hNodup := hPending.nodup
      have hValid := hPending.valid
      rw [hPhase] at hNodup hValid
      -- the future that has just given up its value is no longer pending
      obtain ⟨hNotMem, hRest⟩ := List.nodup_cons.mp hNodup
      refine ⟨hRest, ?_⟩
      intro responder hResponder
      have hOther : waitedFor ≠ responder := fun hSame => hNotMem (hSame ▸ hResponder)
      obtain ⟨resp, hResp, hOpen⟩ := hValid responder (List.mem_cons_of_mem _ hResponder)
      exact ⟨resp, (List.getElem?_set_ne hOther).trans hResp, hOpen⟩

/-- The future of the responder that is waited for is valid. -/
theorem Pending.awaited (hPending : s.Pending) {responder : ResponderId}
    {remaining : List ResponderId} {result : Bool}
    (hPhase : s.phase = .waiting (responder :: remaining) result) :
    ∃ resp, s.responders[responder]? = some resp ∧ resp.promise.valid = true := by
  have hValid := hPending.valid
  rw [hPhase] at hValid
  exact hValid responder List.mem_cons_self

/-- What a `wait` returns is what the module has reported. -/
theorem Pending.outcome_eq (hPending : s.Pending) {responder : ResponderId}
    {remaining : List ResponderId} {result : Bool}
    {before after : PreparationPhaseResponderImpl} {outcome : Option Bool}
    (hPhase : s.phase = .waiting (responder :: remaining) result)
    (hBefore : s.responders[responder]? = some before)
    (hAfter : before.wait s.now = some (outcome, after)) : outcome = s.reported := by
  obtain ⟨resp, hResp, hValid⟩ := hPending.awaited hPhase
  obtain rfl : before = resp := Option.some.inj (hBefore.symm.trans hResp)
  rw [(PreparationPhaseResponderImpl.outcome_of_wait hValid hAfter).1, reported, hPhase]
  simp [hBefore]

end StartupRegistryImpl

/-- A `wait` finds a report that meets `condition`. -/
def WaitFinds (condition : Option Bool → Prop) (s : StartupRegistryImpl Allocator Module) :
    Action Allocator Module → Prop
  | .wait => condition s.reported
  | _ => True

instance (condition : Option Bool → Prop) [DecidablePred condition]
    (s : StartupRegistryImpl Allocator Module) (action : Action Allocator Module) :
    Decidable (WaitFinds condition s action) :=
  match action with
  | .wait => inferInstanceAs (Decidable (condition s.reported))
  | .registerModuleAllocator _ | .startAllModules _ | .prepare _ | .endPreparation
  | .ready _ _ | .endWaiting | .start | .endStarting | .elapse _ => isTrue trivial

/-- The module whose responder is waited for has reported success. -/
abbrev FindsSuccess (s : StartupRegistryImpl Allocator Module) :
    Action Allocator Module → Prop :=
  WaitFinds (fun report => report = some true) s

/-- The module whose responder is waited for has reported failure or nothing. -/
abbrev FindsNoSuccess (s : StartupRegistryImpl Allocator Module) :
    Action Allocator Module → Prop :=
  WaitFinds (fun report => report ≠ some true) s

/-- Only a `wait` adds an outcome to a call. -/
theorem outcomes_observe (condition : Option Bool → Prop)
    (calls : List (Call Allocator Module)) (output : Output Allocator Module)
    (hOutput : ∀ outcome, output ≠ .waited outcome) :
    (∀ call ∈ observe calls output, ∀ outcome ∈ call.outcomes, condition outcome) ↔
      ∀ call ∈ calls, ∀ outcome ∈ call.outcomes, condition outcome := by
  cases output with
  | waited outcome => exact absurd rfl (hOutput outcome)
  | called => simp [observe, Call.start]
  | prepared | started | futureError | returned =>
      cases calls <;> simp [observe, Call.observe]

/-- The outcomes still meet a condition after a step exactly if they did before
it and the `wait` it may be finds a report that does. -/
theorem StartupRegistryImpl.Moves.outcomes_iff {s t : StartupRegistryImpl Allocator Module}
    {action : Action Allocator Module} {history new : List (Output Allocator Module)}
    (condition : Option Bool → Prop) (hRecorded : s.Recorded history)
    (hPending : s.Pending) (moves : Moves s action t new) :
    (∀ call ∈ calls (history ++ new), ∀ outcome ∈ call.outcomes, condition outcome) ↔
      (∀ call ∈ calls history, ∀ outcome ∈ call.outcomes, condition outcome) ∧
        WaitFinds condition s action := by
  cases moves with
  | registered | reported | elapsed | preparationEnded | succeeded =>
      rw [List.append_nil]
      exact (and_iff_left trivial).symm
  | called | prepared | threw | failed | started | startingEnded =>
      rw [calls_append, outcomes_observe _ _ _ (by simp)]
      exact (and_iff_left trivial).symm
  | @waited responder remaining result before after outcome hPhase hBefore hAfter =>
      obtain ⟨call, earlier, hCalls, -, -⟩ := hRecorded.latest hPhase nofun
      have hReport : outcome = s.reported := hPending.outcome_eq hPhase hBefore hAfter
      rw [calls_append, hCalls]
      show _ ↔ _ ∧ condition s.reported
      rw [← hReport]
      simp only [observe, Call.observe, List.forall_mem_cons, List.forall_mem_append,
        List.not_mem_nil, false_imp_iff, implies_true, and_true]
      tauto

/-- The call prepared a module for each of its allocators in order and waited for
each; it returned true if and only if all succeeded, and then started each of
its modules once and in order, and otherwise none. -/
structure Call.AllOrNothing (call : Call Allocator Module) (result : Bool) : Prop where
  allocated_eq : call.allocated = call.allocators
  outcomes_length : call.outcomes.length = call.allocators.length
  result_iff : result = true ↔ ∀ outcome ∈ call.outcomes, outcome = some true
  started_eq : call.started = if result then call.modules else []

/-- A first call that has returned is all or nothing exactly if it saw only
successes or none. -/
theorem Call.Returned.allOrNothing_iff {call : Call Allocator Module}
    (hReturned : call.Returned []) {result : Bool} (hResult : call.result = some result)
    (hSome : call.allocators ≠ []) :
    call.AllOrNothing result ↔
      (∀ outcome ∈ call.outcomes, outcome = some true) ∨
        (∀ outcome ∈ call.outcomes, outcome ≠ some true) := by
  have hResultEq : result = decide (some true ∈ call.outcomes) :=
    Option.some.inj (hResult.symm.trans hReturned.result_eq)
  have hStarted : call.started = if result then call.modules else [] := by
    rw [hReturned.started_eq, hResultEq]
    simp [allModules]
  constructor
  · intro hAllOrNothing
    by_cases hSuccess : some true ∈ call.outcomes
    · exact Or.inl (hAllOrNothing.result_iff.mp (by simp [hResultEq, hSuccess]))
    · exact Or.inr fun outcome hOutcome hTrue => hSuccess (hTrue ▸ hOutcome)
  · intro hUnanimous
    refine ⟨hReturned.allocated_eq, hReturned.outcomes_length, ?_, hStarted⟩
    -- without an outcome "all succeeded" would hold of a call that returned false
    obtain ⟨first, hFirst⟩ : ∃ first, first ∈ call.outcomes := by
      apply List.exists_mem_of_ne_nil
      intro hNone
      apply hSome
      rw [← List.length_eq_zero_iff, ← hReturned.outcomes_length, hNone, List.length_nil]
    rw [hResultEq, decide_eq_true_iff]
    constructor
    · intro hSuccess
      exact hUnanimous.resolve_right fun hNone => hNone _ hSuccess rfl
    · intro hAll
      exact hAll first hFirst ▸ hFirst

variable {steps : List (StartupRegistryImpl Allocator Module × Action Allocator Module)}
  {history : List (Output Allocator Module)} {s : StartupRegistryImpl Allocator Module}

theorem pending_of_run (run : (startupSystem Allocator Module).Run steps history s) :
    s.Pending := by
  refine run.invariant_of_all (fun _ s => s.Pending) ?_ ?_
  · rintro s ⟨now, rfl⟩
    exact StartupRegistryImpl.pending_construct now
  · intro history s action t new hPending hStep
    exact hPending.step (StartupRegistryImpl.moves_of_step hStep)

/-- The outcomes of all calls meet a condition exactly if the reports do that the
waits find. -/
theorem outcomes_iff (condition : Option Bool → Prop)
    (run : (startupSystem Allocator Module).Run steps history s) :
    (∀ call ∈ calls history, ∀ outcome ∈ call.outcomes, condition outcome) ↔
      EveryStep (WaitFinds condition) steps := by
  induction run with
  | start => simp [calls]
  | next run hStep ih =>
      rw [everyStep_append_singleton, ← ih]
      exact (StartupRegistryImpl.moves_of_step hStep).outcomes_iff condition
        (recorded_of_run run) (pending_of_run run)

/-- In every run in which the first call, of some allocators, has returned: it was
all or nothing if and only if every `wait` found a success or none did. -/
theorem run_all_or_nothing_iff
    (run : (startupSystem Allocator Module).Run steps history s)
    {call : Call Allocator Module} {result : Bool} (hFirst : calls history = [call])
    (hResult : call.result = some result) (hSome : call.allocators ≠ []) :
    call.AllOrNothing result ↔
      EveryStep FindsSuccess steps ∨ EveryStep FindsNoSuccess steps := by
  have hReturned : call.Returned [] := returned_of_run run [] hFirst hResult
  rw [hReturned.allOrNothing_iff hResult hSome, ← outcomes_iff _ run,
    ← outcomes_iff _ run, hFirst]
  simp

/-- Two modules report in time, the second one while the call waits for it. -/
def twoModules (second : Bool) : List (Action Nat Nat) :=
  [.registerModuleAllocator 1, .registerModuleAllocator 2, .startAllModules 30,
    .prepare 10, .ready 0 true, .prepare 20, .endPreparation, .wait,
    .elapse 5000000000, .ready 1 second, .wait, .endWaiting, .start, .start,
    .endStarting]

/-- What is seen of the call of `twoModules`. -/
def twoModulesCall (second : Bool) : Call Nat Nat where
  allocators := [1, 2]
  prepared := [(1, 10), (2, 20)]
  outcomes := [some true, some second]
  started := [10, 20]
  result := some true

/-- If both succeed, both are started. -/
theorem bothSucceed_allOrNothing : (twoModulesCall true).AllOrNothing true :=
  (run_all_or_nothing_iff (run_of_replay (.construct 0) (twoModules true) ⟨0, rfl⟩ rfl)
    rfl rfl (by decide)).mpr (Or.inl (by decide))

/-- If the second fails, both are started all the same. -/
theorem secondFails_not_allOrNothing :
    (∃ (steps : List (StartupRegistryImpl Nat Nat × Action Nat Nat))
        (history : List (Output Nat Nat)) (s : StartupRegistryImpl Nat Nat),
      (startupSystem Nat Nat).Run steps history s ∧
        calls history = [twoModulesCall false]) ∧
      ¬ (twoModulesCall false).AllOrNothing true := by
  constructor
  · exact ⟨_, _, _, run_of_replay (.construct 0) (twoModules false) ⟨0, rfl⟩ rfl, rfl⟩
  · intro hAllOrNothing
    have hAll := hAllOrNothing.result_iff.mp rfl (some false) (by decide)
    cases hAll

end Startup
end UtilsFramework
