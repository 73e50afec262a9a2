import Mathlib.Tactic.Common

/-!
# Cleaning up in rounds

Some things are held, each under its own label, and destroying one may cause
others to be created again.  A cleanup goes through the labels in rounds, in an
order that may differ from round to round.  If destroying only ever revives
labels of a smaller rank, every round settles one more rank, so the number of
rounds needed is bounded by the number of ranks, whatever the orders.
-/

namespace UtilsFramework
namespace Library
namespace CleanupRounds

variable {State Label : Type*} {held : State → Label → Prop}
  {destroy : State → Label → State} {rank : Label → Nat}

/-- Everything held has a rank below `bound`. -/
def AllBelow (held : State → Label → Prop) (rank : Label → Nat) (bound : Nat)
    (s : State) : Prop :=
  ∀ label, held s label → rank label < bound

/-- After its destruction a label is not held, and the destruction of a label
that was held revives labels of smaller rank only. -/
def RevivesSmaller (held : State → Label → Prop) (destroy : State → Label → State)
    (rank : Label → Nat) : Prop :=
  ∀ s label other, held (destroy s label) other →
    (other ≠ label ∧ held s other) ∨ (held s label ∧ rank other < rank label)

/-- Where the visited labels are settled below `bound`, visiting the remaining
ones settles them all. -/
theorem AllBelow.visit {bound : Nat} (hRevives : RevivesSmaller held destroy rank)
    (rest : List Label) (s : State) (visited : Label → Prop)
    (hBelow : AllBelow held rank (bound + 1) s)
    (hSettled : ∀ label, visited label → held s label → rank label < bound)
    (hAll : ∀ label, visited label ∨ label ∈ rest) :
    AllBelow held rank bound (rest.foldl destroy s) := by
  induction rest generalizing s visited with
  | nil => exact fun label => hSettled label ((hAll label).resolve_right (by simp))
  | cons first rest ih =>
      -- what is held afterwards was held before or is of smaller rank
      have hAfter : ∀ label, held (destroy s first) label →
          (label ≠ first ∧ held s label) ∨ rank label < bound := by
        intro label hHeld
        rcases hRevives s first label hHeld with hBefore | ⟨hFirst, hSmaller⟩
        · exact Or.inl hBefore
        · have hRank := hBelow first hFirst
          exact Or.inr (by omega)
      refine ih (destroy s first) (fun label => visited label ∨ label = first) ?_ ?_ ?_
      · intro label hHeld
        rcases hAfter label hHeld with ⟨-, hBefore⟩ | hSmaller
        · exact hBelow label hBefore
        · exact Nat.lt_succ_of_lt hSmaller
      · rintro label hVisited hHeld
        rcases hAfter label hHeld with ⟨hOther, hBefore⟩ | hSmaller
        · exact hSettled label (hVisited.resolve_right hOther) hBefore
        · exact hSmaller
      · intro label
        rcases hAll label with hVisited | hRest
        · exact Or.inl (Or.inl hVisited)
        · rcases List.mem_cons.mp hRest with hFirst | hLater
          · exact Or.inl (Or.inr hFirst)
          · exact Or.inr hLater

/-- One round settles one more rank. -/
theorem AllBelow.round {bound : Nat} {s : State}
    (hRevives : RevivesSmaller held destroy rank)
    (hBelow : AllBelow held rank (bound + 1) s) {order : List Label}
    (hOrder : ∀ label, label ∈ order) :
    AllBelow held rank bound (order.foldl destroy s) :=
  .visit hRevives order s (fun _ => False) hBelow (by simp) (by simpa using hOrder)

/-- As many rounds as there are ranks leave nothing held, also where a destruction
turns out differently from round to round. -/
theorem nothing_held {Round : Type*} {destroy : Round → State → Label → State}
    {orderOf : Round → List Label} {bound : Nat} {s : State} {rounds : List Round}
    (hRevives : ∀ round, RevivesSmaller held (destroy round) rank)
    (hOrders : ∀ round ∈ rounds, ∀ label, label ∈ orderOf round)
    (hBelow : AllBelow held rank bound s) (hEnough : bound ≤ rounds.length) (label : Label) :
    ¬ held (rounds.foldl (fun s round => (orderOf round).foldl (destroy round) s) s)
      label := by
  induction rounds generalizing bound s with
  | nil =>
      intro hHeld
      have hRank := hBelow label hHeld
      simp only [List.length_nil] at hEnough
      omega
  | cons round rounds ih =>
      obtain ⟨hOrder, hRest⟩ := List.forall_mem_cons.mp hOrders
      have hNext : AllBelow held rank (bound - 1)
          ((orderOf round).foldl (destroy round) s) := by
        refine .round (hRevives round) (fun other hHeld => ?_) hOrder
        have hRank := hBelow other hHeld
        omega
      refine ih hRest hNext ?_
      simp only [List.length_cons] at hEnough
      omega

end CleanupRounds
end Library
end UtilsFramework
