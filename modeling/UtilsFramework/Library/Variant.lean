import UtilsFramework.Library.TransitionSystem

/-!
# Variants

A variant bounds how often a system can make progress from a state on: it is a
number that no step increases and that every productive step decreases.  The
steps that are not productive, such as interrupted waits, may come in any number
in between.
-/

namespace UtilsFramework
namespace Library
namespace TransitionSystem

variable {State Action Output : Type*} {system : TransitionSystem State Action Output}

/-- The productive steps among some steps. -/
def productiveSteps (productive : Action → Bool) (steps : List (State × Action)) : Nat :=
  steps.countP fun visited => productive visited.2

@[simp]
theorem productiveSteps_nil (productive : Action → Bool) :
    productiveSteps productive ([] : List (State × Action)) = 0 := rfl

theorem productiveSteps_append_singleton (productive : Action → Bool)
    (steps : List (State × Action)) (s : State) (action : Action) :
    productiveSteps productive (steps ++ [(s, action)]) =
      productiveSteps productive steps + if productive action then 1 else 0 := by
  rw [productiveSteps, List.countP_append, List.countP_singleton, ← productiveSteps]

/-- Whatever a system does from a state on, the productive steps are paid for by
the variant. -/
theorem Run.pays_variant (guard : State → Action → Prop) (Inv : State → Prop)
    (productive : Action → Bool) (variant : State → Nat)
    (hPreserved : ∀ s action t new, Inv s → guard s action →
      system.step s action = some (t, new) → Inv t)
    (hPays : ∀ s action t new, Inv s → guard s action →
      system.step s action = some (t, new) →
      variant t + (if productive action then 1 else 0) ≤ variant s)
    {start s : State} (hStart : Inv start) {later : List (State × Action)}
    {after : List Output} (onward : (system.startingAt start).Run later after s)
    (hGuard : EveryStep guard later) :
    Inv s ∧ variant s + productiveSteps productive later ≤ variant start := by
  induction onward with
  | start hInitial =>
      obtain rfl := hInitial
      exact ⟨hStart, Nat.le_refl _⟩
  | next onward hStep ih =>
      rw [everyStep_append_singleton] at hGuard
      obtain ⟨hInv, hPaid⟩ := ih hGuard.1
      have hLast := hPays _ _ _ _ hInv hGuard.2 hStep
      refine ⟨hPreserved _ _ _ _ hInv hGuard.2 hStep, ?_⟩
      rw [productiveSteps_append_singleton]
      omega

end TransitionSystem
end Library
end UtilsFramework
