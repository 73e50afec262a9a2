import UtilsFramework.Library.TransitionSystem

/-!
# Forward simulation

A concrete system follows an abstract one if every step out of related states is
either one step of the abstract system, with the same observations as far as it
has them, or changes nothing that the abstract state shows.  Then every run of the
concrete system is one of the abstract system, so that what is proved of all runs
of the abstract one holds of it.
-/

namespace UtilsFramework
namespace Library
namespace TransitionSystem

variable {Concrete ConcreteAction ConcreteOutput State Action Output : Type*}
  {concrete : TransitionSystem Concrete ConcreteAction ConcreteOutput}
  {abstract : TransitionSystem State Action Output}

/-- What a concrete step has to be for the abstract system, where `view` is what
it observes. -/
inductive Follows (abstract : TransitionSystem State Action Output)
    (Related : Concrete → State → Prop) (view : ConcreteOutput → Option Output) (s : State)
    (t : Concrete) (new : List ConcreteOutput) : Prop
  | stutters (related : Related t s) (hUnseen : new.filterMap view = [])
  | steps (action : Action) {next : State} (related : Related t next)
      (hStep : abstract.step s action = some (next, new.filterMap view))

/-- A run all of whose steps meet `guard` is followed by a run of the abstract
system. -/
theorem Run.simulated (view : ConcreteOutput → Option Output)
    (Related : Concrete → State → Prop) (guard : Concrete → ConcreteAction → Prop)
    (hInitial : ∀ s, concrete.initial s → ∃ t, abstract.initial t ∧ Related s t)
    (hFollows : ∀ s t action next new, Related s t → guard s action →
      concrete.step s action = some (next, new) →
      abstract.Follows Related view t next new)
    {steps : List (Concrete × ConcreteAction)} {history : List ConcreteOutput}
    {s : Concrete} (run : concrete.Run steps history s) (hGuard : EveryStep guard steps) :
    ∃ followed t, abstract.Run followed (history.filterMap view) t ∧ Related s t := by
  induction run with
  | start hStart =>
      obtain ⟨t, hAbstract, related⟩ := hInitial _ hStart
      exact ⟨[], t, .start hAbstract, related⟩
  | next run hStep ih =>
      rw [everyStep_append_singleton] at hGuard
      obtain ⟨followed, t, abstractRun, related⟩ := ih hGuard.1
      rw [List.filterMap_append]
      cases hFollows _ _ _ _ _ related hGuard.2 hStep with
      | stutters related hUnseen =>
          rw [hUnseen, List.append_nil]
          exact ⟨followed, t, abstractRun, related⟩
      | steps action related hAbstract => exact ⟨_, _, abstractRun.next hAbstract, related⟩

end TransitionSystem
end Library
end UtilsFramework
