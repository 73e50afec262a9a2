import UtilsFramework.Library.TransitionSystem

/-!
# Erasing steps without effect

If some actions never change the state, then a run without the steps that took
them is a run to the same state, and its observations are those of the steps that
are left.
-/

namespace UtilsFramework
namespace Library
namespace TransitionSystem

variable {State Action Output : Type*} {system : TransitionSystem State Action Output}

theorem Run.erase (idle : State → Action → Bool) (Inv : State → Prop)
    (hInitial : ∀ s, system.initial s → Inv s)
    (hPreserved : ∀ s action t new, Inv s → system.step s action = some (t, new) → Inv t)
    (hIdle : ∀ s action t new, Inv s → idle s action = true →
      system.step s action = some (t, new) → t = s)
    {steps : List (State × Action)} {history : List Output} {s : State}
    (run : system.Run steps history s) :
    Inv s ∧ ∃ remaining, remaining.Sublist history ∧
      system.Run (steps.filter fun visited => !idle visited.1 visited.2) remaining s := by
  induction run with
  | start hStart => exact ⟨hInitial _ hStart, [], List.Sublist.refl _, .start hStart⟩
  | @next steps history s t action new run hStep ih =>
      obtain ⟨hInv, remaining, hSublist, erased⟩ := ih
      refine ⟨hPreserved _ _ _ _ hInv hStep, ?_⟩
      rw [List.filter_append]
      cases hAction : idle s action with
      | true =>
          -- the state is that of the erased run already
          obtain rfl := hIdle _ _ _ _ hInv hAction hStep
          refine ⟨remaining, hSublist.trans (List.sublist_append_left _ _), ?_⟩
          simpa [hAction] using erased
      | false =>
          refine ⟨remaining ++ new, hSublist.append (List.Sublist.refl _), ?_⟩
          simpa [hAction] using erased.next hStep

end TransitionSystem
end Library
end UtilsFramework
