import Mathlib.Data.List.Basic
import Mathlib.Tactic.Common

/-!
# Executable transition systems and their runs

A `TransitionSystem` is a guarded step function: `step s a` is `none` when the
action `a` is not enabled in `s`, and otherwise the next state together with
what an observer sees of the step.  The observations of a run are collected
beside the states, so a model's state carries no history of its own.

A `Run` records every visited state with the action taken there.  Assumptions
on the environment and conditions on the steps are then predicates on this
record (`EveryStep`), and a property of every reached state is an `Always`.
The two rules of this file are `Run.invariant`, the induction over a run, and
`Run.always_iff_everyStep`, which turns an exact step criterion into an exact
criterion for whole runs.
-/

namespace UtilsFramework
namespace Library

/-- A system with initial states, a guarded step function and observations. -/
structure TransitionSystem (State Action Output : Type*) where
  initial : State → Prop
  step : State → Action → Option (State × List Output)

namespace TransitionSystem

variable {State Action Output : Type*}
  (system : TransitionSystem State Action Output)

/-- Runs from an initial state: the visited states with the actions taken in
them, the observations in order, and the last state. -/
inductive Run : List (State × Action) → List Output → State → Prop
  | start {s : State} (hInitial : system.initial s) : Run [] [] s
  | next {steps : List (State × Action)} {history : List Output} {s t : State}
      {action : Action} {new : List Output}
      (run : Run steps history s)
      (hStep : system.step s action = some (t, new)) :
      Run (steps ++ [(s, action)]) (history ++ new) t

/-- The same system, started in a given state. -/
def startingAt (start : State) : TransitionSystem State Action Output :=
  { system with initial := fun s => s = start }

/-- A condition on the state before a step and its action holds at every step. -/
def EveryStep (condition : State → Action → Prop)
    (steps : List (State × Action)) : Prop :=
  ∀ visited ∈ steps, condition visited.1 visited.2

instance (condition : State → Action → Prop)
    [∀ s action, Decidable (condition s action)] (steps : List (State × Action)) :
    Decidable (EveryStep condition steps) :=
  inferInstanceAs (Decidable (∀ visited ∈ steps, condition visited.1 visited.2))

@[simp] theorem everyStep_nil (condition : State → Action → Prop) :
    EveryStep condition [] := by
  simp [EveryStep]

@[simp] theorem everyStep_append_singleton {condition : State → Action → Prop}
    {steps : List (State × Action)} {s : State} {action : Action} :
    EveryStep condition (steps ++ [(s, action)]) ↔
      EveryStep condition steps ∧ condition s action := by
  simp only [EveryStep, List.forall_mem_append, List.forall_mem_singleton]

/-- A condition on the steps before a step, the state it starts in and its action
holds at every step. -/
def EveryStepAfter : (List (State × Action) → State → Action → Prop) →
    List (State × Action) → Prop
  | _, [] => True
  | condition, visited :: steps =>
      condition [] visited.1 visited.2 ∧
        EveryStepAfter (fun before => condition (visited :: before)) steps

instance decidableEveryStepAfter :
    (condition : List (State × Action) → State → Action → Prop) →
    [∀ before s action, Decidable (condition before s action)] →
    (steps : List (State × Action)) → Decidable (EveryStepAfter condition steps)
  | _, _, [] => isTrue trivial
  | condition, _, visited :: steps =>
      have := decidableEveryStepAfter (fun before => condition (visited :: before)) steps
      inferInstanceAs (Decidable (_ ∧ _))

@[simp] theorem everyStepAfter_nil
    (condition : List (State × Action) → State → Action → Prop) :
    EveryStepAfter condition [] :=
  trivial

@[simp] theorem everyStepAfter_append_singleton
    {condition : List (State × Action) → State → Action → Prop}
    {steps : List (State × Action)} {s : State} {action : Action} :
    EveryStepAfter condition (steps ++ [(s, action)]) ↔
      EveryStepAfter condition steps ∧ condition steps s action := by
  induction steps generalizing condition with
  | nil => simp [EveryStepAfter]
  | cons visited steps ih =>
      rw [List.cons_append, EveryStepAfter, EveryStepAfter, ih, and_assoc]

variable {system}

/-- The induction over a run: an invariant of state and history that holds
initially and survives every step meeting `guard` holds at the end of every
run all of whose steps meet `guard`. -/
theorem Run.invariant (guard : State → Action → Prop)
    (Inv : List Output → State → Prop)
    (hInitial : ∀ s, system.initial s → Inv [] s)
    (hPreserved : ∀ history s action t new, Inv history s → guard s action →
      system.step s action = some (t, new) → Inv (history ++ new) t)
    {steps : List (State × Action)} {history : List Output} {s : State}
    (run : system.Run steps history s) (hGuard : EveryStep guard steps) :
    Inv history s := by
  induction run with
  | start hStart => exact hInitial _ hStart
  | next run hStep ih =>
      rw [everyStep_append_singleton] at hGuard
      exact hPreserved _ _ _ _ _ (ih hGuard.1) hGuard.2 hStep

/-- The same induction where no step is excluded. -/
theorem Run.invariant_of_all (Inv : List Output → State → Prop)
    (hInitial : ∀ s, system.initial s → Inv [] s)
    (hPreserved : ∀ history s action t new, Inv history s →
      system.step s action = some (t, new) → Inv (history ++ new) t)
    {steps : List (State × Action)} {history : List Output} {s : State}
    (run : system.Run steps history s) : Inv history s :=
  run.invariant (fun _ _ => True) Inv hInitial
    (fun _ _ _ _ _ hInv _ hStep => hPreserved _ _ _ _ _ hInv hStep)
    (fun _ _ => trivial)

/-- A run goes on from where it stands. -/
theorem Run.followed {earlier later : List (State × Action)}
    {before after : List Output} {s t : State} (run : system.Run earlier before s)
    (onward : (system.startingAt s).Run later after t) :
    system.Run (earlier ++ later) (before ++ after) t := by
  induction onward with
  | start hStart =>
      obtain rfl := hStart
      rw [List.append_nil, List.append_nil]
      exact run
  | next _ hStep ih =>
      rw [← List.append_assoc, ← List.append_assoc]
      exact ih.next hStep

/-- The steps of a run up to one of them are a run to the state it starts in. -/
theorem Run.before {before after : List (State × Action)} {visited : State × Action}
    {history : List Output} {s : State}
    (run : system.Run (before ++ visited :: after) history s) :
    ∃ earlier, system.Run before earlier visited.1 := by
  generalize hSteps : before ++ visited :: after = steps at run
  induction run generalizing after with
  | start => simp at hSteps
  | @next steps history s t action new run hStep ih =>
      rcases List.eq_nil_or_concat after with rfl | ⟨rest, last, rfl⟩
      · obtain ⟨rfl, rfl⟩ := List.append_inj' hSteps rfl |>.imp_right (List.cons.inj · |>.1)
        exact ⟨history, run⟩
      · rw [List.concat_eq_append, ← List.cons_append, ← List.append_assoc] at hSteps
        exact ih (List.append_inj' hSteps rfl).1

/-- A condition met by every step out of an invariant state is met by every
step of a run. -/
theorem Run.everyStep (guard : State → Action → Prop)
    (Inv : List Output → State → Prop) {condition : State → Action → Prop}
    (hInitial : ∀ s, system.initial s → Inv [] s)
    (hPreserved : ∀ history s action t new, Inv history s → guard s action →
      system.step s action = some (t, new) → Inv (history ++ new) t)
    (hCondition : ∀ history s action t new, Inv history s → guard s action →
      system.step s action = some (t, new) → condition s action)
    {steps : List (State × Action)} {history : List Output} {s : State}
    (run : system.Run steps history s) (hGuard : EveryStep guard steps) :
    EveryStep condition steps := by
  induction run with
  | start => exact everyStep_nil _
  | next run hStep ih =>
      rw [everyStep_append_singleton] at hGuard ⊢
      have hInv := run.invariant guard Inv hInitial hPreserved hGuard.1
      exact ⟨ih hGuard.1, hCondition _ _ _ _ _ hInv hGuard.2 hStep⟩

variable (system)

/-- A run with `P` at every point, the last one included, and `Q` across every
step. -/
inductive Always (P : List Output → State → Prop)
    (Q : State → Action → List Output → State → Prop) :
    List (State × Action) → List Output → State → Prop
  | start {s : State} (hInitial : system.initial s) (hPoint : P [] s) :
      Always P Q [] [] s
  | next {steps : List (State × Action)} {history : List Output} {s t : State}
      {action : Action} {new : List Output}
      (always : Always P Q steps history s)
      (hStep : system.step s action = some (t, new))
      (hAcross : Q s action new t) (hPoint : P (history ++ new) t) :
      Always P Q (steps ++ [(s, action)]) (history ++ new) t

variable {system}

theorem Always.point {P : List Output → State → Prop}
    {Q : State → Action → List Output → State → Prop}
    {steps : List (State × Action)} {history : List Output} {s : State}
    (always : system.Always P Q steps history s) : P history s := by
  cases always with
  | start _ hPoint => exact hPoint
  | next _ _ _ hPoint => exact hPoint

/-- If, under a background invariant, a step out of a good point is good
exactly when `condition` holds before it, then a run is good throughout
exactly when every one of its steps meets `condition`. -/
theorem Run.always_iff_everyStep (Inv : List Output → State → Prop)
    {P : List Output → State → Prop} {Q : State → Action → List Output → State → Prop}
    {condition : State → Action → Prop}
    (hInitial : ∀ s, system.initial s → Inv [] s ∧ P [] s)
    (hPreserved : ∀ history s action t new, Inv history s → P history s →
      system.step s action = some (t, new) →
      Q s action new t → P (history ++ new) t → Inv (history ++ new) t)
    (hExact : ∀ history s action t new, Inv history s → P history s →
      system.step s action = some (t, new) →
      (Q s action new t ∧ P (history ++ new) t ↔ condition s action))
    {steps : List (State × Action)} {history : List Output} {s : State}
    (run : system.Run steps history s) :
    system.Always P Q steps history s ↔ EveryStep condition steps := by
  have hForward : ∀ {steps history s}, system.Always P Q steps history s →
      Inv history s ∧ EveryStep condition steps := by
    intro steps history s always
    induction always with
    | start hStart _ => exact ⟨(hInitial _ hStart).1, everyStep_nil _⟩
    | next before hStep hAcross hPoint ih =>
        have hCondition :=
          (hExact _ _ _ _ _ ih.1 before.point hStep).mp ⟨hAcross, hPoint⟩
        exact ⟨hPreserved _ _ _ _ _ ih.1 before.point hStep hAcross hPoint,
          everyStep_append_singleton.mpr ⟨ih.2, hCondition⟩⟩
  constructor
  · exact fun always => (hForward always).2
  · intro hSteps
    induction run with
    | start hStart => exact .start hStart (hInitial _ hStart).2
    | next run hStep ih =>
        rw [everyStep_append_singleton] at hSteps
        have before := ih hSteps.1
        obtain ⟨hAcross, hPoint⟩ :=
          (hExact _ _ _ _ _ (hForward before).1 before.point hStep).mpr hSteps.2
        exact .next before hStep hAcross hPoint

/-! ## Replaying a list of actions -/

variable (system)

/-- Extend a recorded run by one action. -/
def extend (recorded : List (State × Action) × List Output × State)
    (action : Action) : Option (List (State × Action) × List Output × State) :=
  (system.step recorded.2.2 action).map fun next =>
    (recorded.1 ++ [(recorded.2.2, action)], recorded.2.1 ++ next.2, next.1)

/-- Replay a list of actions from `s`; `none` if one of them is not enabled. -/
def replay (s : State) (actions : List Action) :
    Option (List (State × Action) × List Output × State) :=
  actions.foldlM system.extend ([], [], s)

variable {system}

/-- A successful replay from an initial state is a run. -/
theorem run_of_replay (s : State) (actions : List Action) {t : State}
    {steps : List (State × Action)} {history : List Output}
    (hInitial : system.initial s)
    (hReplay : system.replay s actions = some (steps, history, t)) :
    system.Run steps history t := by
  suffices hGeneral : ∀ (actions : List Action)
      (recorded final : List (State × Action) × List Output × State),
      system.Run recorded.1 recorded.2.1 recorded.2.2 →
      actions.foldlM system.extend recorded = some final →
      system.Run final.1 final.2.1 final.2.2 from
    hGeneral actions ([], [], s) (steps, history, t) (.start hInitial) hReplay
  intro actions
  induction actions with
  | nil =>
      intro recorded final run hFold
      obtain rfl : recorded = final := by simpa using hFold
      exact run
  | cons action rest ih =>
      intro recorded final run hFold
      rw [List.foldlM_cons] at hFold
      cases hStep : system.step recorded.2.2 action with
      | none => simp [extend, hStep] at hFold
      | some next =>
          simp only [extend, hStep, Option.map_some, Option.bind_eq_bind,
            Option.bind_some] at hFold
          exact ih _ _ (run.next hStep) hFold

end TransitionSystem
end Library
end UtilsFramework
