import UtilsFramework.Startup.AllOrNothing

/-!
# Repeated readiness reports

`ready` ignores a report if the future is no longer valid, and the future is
valid until a `wait` has taken a report from it.  A repeated report is therefore
ignored after that, but throws before it: while the registry waits for other
modules, or for good if the wait for the module timed out.

This file proves that no report throws exactly if no module repeats its report
before the wait for it has taken the first one.  What a wait returns is the first
report in every case.
-/

namespace UtilsFramework
namespace Startup

open Library
open Library.TransitionSystem

variable {Allocator Module : Type}

/-! ## The reports and the wait of a responder -/

/-- What a step does with the promise of a responder. -/
def useOf (responder : ResponderId) (s : StartupRegistryImpl Allocator Module) :
    Action Allocator Module → Option (Promise.Use Bool)
  | .ready changed success => if changed = responder then some (.setValue success) else none
  | .wait =>
      match s.phase with
      | .waiting (waitedFor :: _) _ => if waitedFor = responder then some .get else none
      | _ => none
  | _ => none

/-- The reports on a responder and the waits for it, in the order of the steps. -/
def usesOf (responder : ResponderId)
    (steps : List (StartupRegistryImpl Allocator Module × Action Allocator Module)) :
    List (Promise.Use Bool) :=
  steps.filterMap fun visited => useOf responder visited.1 visited.2

/-- The first report on a responder. -/
abbrev firstReport (responder : ResponderId)
    (steps : List (StartupRegistryImpl Allocator Module × Action Allocator Module)) :
    Option Bool :=
  Promise.firstSet (usesOf responder steps)

/-- A report on a responder is the first one, or a wait has taken the first one. -/
def RepeatsOnlyTaken
    (before : List (StartupRegistryImpl Allocator Module × Action Allocator Module))
    (_ : StartupRegistryImpl Allocator Module) : Action Allocator Module → Prop
  | .ready responder _ =>
      firstReport responder before = none ∨ Promise.taken (usesOf responder before) = true
  | _ => True

instance (before : List (StartupRegistryImpl Allocator Module × Action Allocator Module))
    (s : StartupRegistryImpl Allocator Module) (action : Action Allocator Module) :
    Decidable (RepeatsOnlyTaken before s action) :=
  match action with
  | .ready _ _ => inferInstanceAs (Decidable (_ ∨ _))
  | .registerModuleAllocator _ | .startAllModules _ | .prepare _ | .endPreparation
  | .wait | .endWaiting | .start | .endStarting | .elapse _ => isTrue trivial

/-- A wait for a module that has reported returns its first report. -/
def WaitReturnsFirst
    (before : List (StartupRegistryImpl Allocator Module × Action Allocator Module))
    (s : StartupRegistryImpl Allocator Module) (action : Action Allocator Module) : Prop :=
  ∀ responder remaining result success, action = .wait →
    s.phase = .waiting (responder :: remaining) result →
    firstReport responder before = some success →
    ∃ t, s.step .wait = some (t, [.waited (some success)])

/-- Reports may come in any number and order. -/
structure ToleratesReports
    (steps : List (StartupRegistryImpl Allocator Module × Action Allocator Module))
    (history : List (Output Allocator Module)) : Prop where
  noError : ∀ responder, .futureError responder ∉ history
  returnsFirst : EveryStepAfter WaitReturnsFirst steps

/-- The promise of every responder is what the reports and the wait have made of it. -/
structure FollowsUses
    (steps : List (StartupRegistryImpl Allocator Module × Action Allocator Module))
    (s : StartupRegistryImpl Allocator Module) : Prop where
  promise_eq : ∀ responder resp, s.responders[responder]? = some resp →
    resp.promise = Promise.after (usesOf responder steps)
  unused : ∀ responder, s.responders.length ≤ responder → usesOf responder steps = []

variable {steps : List (StartupRegistryImpl Allocator Module × Action Allocator Module)}
  {history new : List (Output Allocator Module)}
  {s t : StartupRegistryImpl Allocator Module} {action : Action Allocator Module}

theorem usesOf_append_singleton (responder : ResponderId) :
    usesOf responder (steps ++ [(s, action)]) =
      usesOf responder steps ++ (useOf responder s action).toList := by
  cases hUse : useOf responder s action <;> simp [usesOf, hUse]

theorem usesOf_of_none {responder : ResponderId} (hUse : useOf responder s action = none) :
    usesOf responder (steps ++ [(s, action)]) = usesOf responder steps := by
  rw [usesOf_append_singleton, hUse, Option.toList_none, List.append_nil]

theorem FollowsUses.of_unused (hFollows : FollowsUses steps s)
    (hUse : ∀ responder, useOf responder s action = none)
    (hResponders : t.responders = s.responders) :
    FollowsUses (steps ++ [(s, action)]) t := by
  constructor
  · intro responder resp hResp
    rw [usesOf_of_none (hUse responder)]
    exact hFollows.promise_eq responder resp (hResponders ▸ hResp)
  · intro responder hOld
    rw [usesOf_of_none (hUse responder)]
    exact hFollows.unused responder (hResponders ▸ hOld)

/-- A step that uses the promise of one responder. -/
theorem FollowsUses.of_used (hFollows : FollowsUses steps s) {changed : ResponderId}
    {before after : PreparationPhaseResponderImpl} {used : Promise.Use Bool}
    (hUse : ∀ responder,
      useOf responder s action = if changed = responder then some used else none)
    (hBefore : s.responders[changed]? = some before)
    (hAfter : after.promise = before.promise.use used)
    (hResponders : t.responders = s.responders.set changed after) :
    FollowsUses (steps ++ [(s, action)]) t := by
  have hChanged : changed < s.responders.length := (List.getElem?_eq_some_iff.mp hBefore).1
  constructor
  · intro responder resp hResp
    rw [hResponders] at hResp
    by_cases hSame : changed = responder
    · subst hSame
      obtain rfl : after = resp := by
        rw [List.getElem?_set_self hChanged] at hResp
        exact Option.some.inj hResp
      rw [usesOf_append_singleton, hUse, if_pos rfl, Option.toList_some,
        Promise.after_append_singleton, ← hFollows.promise_eq changed before hBefore, hAfter]
    · rw [List.getElem?_set_ne hSame] at hResp
      rw [usesOf_of_none ((hUse responder).trans (if_neg hSame))]
      exact hFollows.promise_eq responder resp hResp
  · intro responder hOld
    rw [hResponders, List.length_set] at hOld
    have hOther : changed ≠ responder := Nat.ne_of_lt (Nat.lt_of_lt_of_le hChanged hOld)
    rw [usesOf_of_none ((hUse responder).trans (if_neg hOther))]
    exact hFollows.unused responder hOld

theorem FollowsUses.prepareModule (hFollows : FollowsUses steps s) {startupTimeout : Int}
    {remaining : List Allocator} {responderVec : List ResponderId} {module : Module} :
    FollowsUses (steps ++ [(s, .prepare module)])
      (s.prepareModule startupTimeout remaining responderVec module) := by
  constructor
  · intro responder resp hResp
    rw [usesOf_of_none rfl]
    rcases Nat.lt_trichotomy responder s.responders.length with hOld | rfl | hBeyond
    · rw [StartupRegistryImpl.prepareModule, List.getElem?_append_left hOld] at hResp
      exact hFollows.promise_eq responder resp hResp
    · -- the new responder has not been used
      rw [StartupRegistryImpl.prepareModule, List.getElem?_concat_length] at hResp
      obtain rfl := Option.some.inj hResp
      rw [hFollows.unused _ (Nat.le_refl _)]
      rfl
    · have hLength := (List.getElem?_eq_some_iff.mp hResp).1
      rw [StartupRegistryImpl.prepareModule, List.length_append, List.length_singleton]
        at hLength
      omega
  · intro responder hNew
    rw [usesOf_of_none rfl]
    rw [StartupRegistryImpl.prepareModule, List.length_append, List.length_singleton] at hNew
    exact hFollows.unused responder (Nat.le_of_succ_le hNew)

theorem FollowsUses.step (hFollows : FollowsUses steps s)
    (moves : s.Moves action t new) : FollowsUses (steps ++ [(s, action)]) t := by
  cases moves with
  | registered | called | preparationEnded | succeeded | failed | started | startingEnded
  | elapsed => exact hFollows.of_unused (fun _ => rfl) rfl
  | prepared => exact hFollows.prepareModule
  | reported hBefore hAfter =>
      refine hFollows.of_used (fun _ => rfl) hBefore ?_ rfl
      rw [PreparationPhaseResponderImpl.after_of_ready hAfter]
  | @threw responder success before hBefore hThrows =>
      refine hFollows.of_used (fun _ => rfl) hBefore
        (PreparationPhaseResponderImpl.promise_of_threw hThrows) ?_
      obtain ⟨hLength, hGet⟩ := List.getElem?_eq_some_iff.mp hBefore
      rw [← hGet, List.set_getElem_self]
  | @waited _ _ _ before after _ hPhase hBefore hAfter =>
      have hUsed : after.promise = before.promise.use .get := by
        rw [PreparationPhaseResponderImpl.after_of_wait hAfter]
      refine hFollows.of_used (fun responder => ?_) hBefore hUsed rfl
      simp only [useOf, hPhase]

theorem followsUses_of_run (run : (startupSystem Allocator Module).Run steps history s) :
    FollowsUses steps s := by
  induction run with
  | start hInitial =>
      obtain ⟨now, rfl⟩ := hInitial
      exact ⟨nofun, fun _ _ => rfl⟩
  | next run hStep ih => exact ih.step (StartupRegistryImpl.moves_of_step hStep)

/-- The wait of a module that has reported returns the first report. -/
theorem FollowsUses.returnsFirst (hFollows : FollowsUses steps s) (hPending : s.Pending) :
    WaitReturnsFirst steps s action := by
  rintro responder remaining result success - hPhase hReport
  obtain ⟨resp, hResp, hValid⟩ := hPending.awaited hPhase
  have hValue : resp.promise.value = some success := by
    rw [hFollows.promise_eq responder resp hResp, (Promise.after_spec _).1]
    exact hReport
  cases hWait : resp.wait s.now with
  | none =>
      have hNone := (PreparationPhaseResponderImpl.wait_eq_none_iff.mp hWait).2.1
      rw [hValue] at hNone
      cases hNone
  | some returned =>
      obtain ⟨outcome, after⟩ := returned
      obtain rfl : outcome = some success :=
        (PreparationPhaseResponderImpl.outcome_of_wait hValid hWait).1.trans hValue
      simp only [StartupRegistryImpl.step, hPhase, hResp, hWait, Option.map_some]
      exact ⟨_, rfl⟩

/-- A report throws exactly if it repeats one that has not been taken. -/
theorem FollowsUses.ready_eq_none_iff (hFollows : FollowsUses steps s)
    {responder : ResponderId} {before : PreparationPhaseResponderImpl}
    (hBefore : s.responders[responder]? = some before) (success : Bool) :
    before.ready success = none ↔ ¬ RepeatsOnlyTaken steps s (.ready responder success) := by
  rw [PreparationPhaseResponderImpl.ready_eq_none_iff,
    hFollows.promise_eq responder before hBefore, (Promise.after_spec _).1,
    (Promise.after_spec _).2]
  simp [RepeatsOnlyTaken, Option.isSome_iff_ne_none]

/-- No step throws exactly if its report, if it is one, is no untaken repetition. -/
theorem FollowsUses.noError_iff (hFollows : FollowsUses steps s)
    (moves : s.Moves action t new) :
    (∀ responder, .futureError responder ∉ new) ↔ RepeatsOnlyTaken steps s action := by
  cases moves with
  | @reported responder success before after hBefore hAfter =>
      have hThrows := hFollows.ready_eq_none_iff hBefore success
      rw [hAfter] at hThrows
      simp only [reduceCtorEq, false_iff, not_not] at hThrows
      exact ⟨fun _ => hThrows, fun _ _ => List.not_mem_nil⟩
  | @threw responder success before hBefore hThrows =>
      have hRepeats := (hFollows.ready_eq_none_iff hBefore success).mp hThrows
      constructor
      · intro hNone
        exact absurd List.mem_cons_self (hNone responder)
      · intro hTaken
        exact absurd hTaken hRepeats
  | registered | called | prepared | preparationEnded | waited | succeeded | failed
  | started | startingEnded | elapsed => simp [RepeatsOnlyTaken]

theorem noError_iff (run : (startupSystem Allocator Module).Run steps history s) :
    (∀ responder, .futureError responder ∉ history) ↔
      EveryStepAfter RepeatsOnlyTaken steps := by
  induction run with
  | start => simp
  | next run hStep ih =>
      rw [everyStepAfter_append_singleton, ← ih, ← (followsUses_of_run run).noError_iff
        (StartupRegistryImpl.moves_of_step hStep)]
      simp only [List.mem_append, not_or, forall_and]

theorem returnsFirst_of_run (run : (startupSystem Allocator Module).Run steps history s) :
    EveryStepAfter WaitReturnsFirst steps := by
  induction run with
  | start => exact everyStepAfter_nil _
  | next run hStep ih =>
      exact everyStepAfter_append_singleton.mpr
        ⟨ih, (followsUses_of_run run).returnsFirst (pending_of_run run)⟩

/-- In every run, reports are tolerated if and only if every report on a responder is
the first one or comes after a wait has taken the first one. -/
theorem run_tolerates_reports_iff
    (run : (startupSystem Allocator Module).Run steps history s) :
    ToleratesReports steps history ↔ EveryStepAfter RepeatsOnlyTaken steps := by
  rw [← noError_iff run]
  exact ⟨fun hTolerates => hTolerates.noError,
    fun hNone => ⟨hNone, returnsFirst_of_run run⟩⟩

/-- The first module repeats its report after its wait, the second one reports after
it timed out. -/
def lateReports : List (Action Nat Nat) :=
  [.registerModuleAllocator 1, .registerModuleAllocator 2, .startAllModules 30,
    .prepare 10, .ready 0 true, .prepare 20, .endPreparation, .wait, .ready 0 false,
    .elapse 30000000000, .wait, .ready 1 true, .endWaiting]

theorem lateReports_tolerated :
    ∃ (steps : List (StartupRegistryImpl Nat Nat × Action Nat Nat))
      (history : List (Output Nat Nat)) (s : StartupRegistryImpl Nat Nat),
      (startupSystem Nat Nat).Run steps history s ∧
        steps.map Prod.snd = lateReports ∧ ToleratesReports steps history := by
  have run := (run_of_replay (.construct 0) lateReports ⟨0, rfl⟩ rfl :
    (startupSystem Nat Nat).Run _ _ _)
  exact ⟨_, _, _, run, rfl, (run_tolerates_reports_iff run).mpr (by decide)⟩

/-- A module reports success twice in `prepare`: the second report throws. -/
theorem repeatedReport_throws :
    ∃ (steps : List (StartupRegistryImpl Nat Nat × Action Nat Nat))
      (history : List (Output Nat Nat)) (s : StartupRegistryImpl Nat Nat),
      (startupSystem Nat Nat).Run steps history s ∧
        steps.map Prod.snd = [.registerModuleAllocator 1, .startAllModules 30, .prepare 10,
          .ready 0 true, .ready 0 true] ∧
        ¬ ToleratesReports steps history := by
  have run := (run_of_replay (.construct 0) [.registerModuleAllocator 1,
    .startAllModules 30, .prepare 10, .ready 0 true, .ready 0 true] ⟨0, rfl⟩ rfl :
    (startupSystem Nat Nat).Run _ _ _)
  refine ⟨_, _, _, run, rfl, fun hTolerates => ?_⟩
  exact hTolerates.noError 0 (by decide)

end Startup
end UtilsFramework
