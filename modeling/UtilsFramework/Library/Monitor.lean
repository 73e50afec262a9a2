import UtilsFramework.Library.TransitionSystem

/-!
# Monitors

A monitor reads the outputs of a system one by one.  It has a state of its own
and rejects an output that cannot come in this state, so a monitor is a
specification of a component in terms of what can be seen of it.

`Run.accepted` is the rule to prove that a system meets it: a relation between
the states of the system and those of the monitor that every step carries over.
-/

namespace UtilsFramework
namespace Library
namespace Monitor

open TransitionSystem

variable {State Action Output Abstract : Type*}

/-- The state after a list of outputs, unless one of them is rejected. -/
def watchAll (watch : Abstract → Output → Option Abstract) (start : Abstract)
    (outputs : List Output) : Option Abstract :=
  outputs.foldlM watch start

variable {watch : Abstract → Output → Option Abstract}

@[simp]
theorem watchAll_nil (start : Abstract) : watchAll watch start [] = some start := rfl

@[simp]
theorem watchAll_singleton (start : Abstract) (output : Output) :
    watchAll watch start [output] = watch start output := by
  simp [watchAll]

theorem watchAll_cons (start : Abstract) (output : Output) (outputs : List Output) :
    watchAll watch start (output :: outputs) =
      (watch start output).bind fun next => watchAll watch next outputs :=
  List.foldlM_cons

/-- A monitor goes on from where it stands. -/
theorem watchAll_append {start middle : Abstract} {before : List Output}
    (hBefore : watchAll watch start before = some middle) (after : List Output) :
    watchAll watch start (before ++ after) = watchAll watch middle after := by
  rw [watchAll, List.foldlM_append, ← watchAll, hBefore]
  rfl

/-- The state before the last output. -/
theorem watchAll_append_singleton {start final : Abstract} {before : List Output}
    {output : Output} (hAll : watchAll watch start (before ++ [output]) = some final) :
    ∃ middle, watchAll watch start before = some middle ∧
      watch middle output = some final := by
  rw [watchAll, List.foldlM_append, ← watchAll] at hAll
  cases hBefore : watchAll watch start before with
  | none => simp [hBefore] at hAll
  | some middle =>
      refine ⟨middle, rfl, ?_⟩
      simpa [hBefore] using hAll

/-- Outputs that leave every state as it is. -/
theorem watchAll_of_ignored {start : Abstract} {outputs : List Output}
    (hIgnored : ∀ output ∈ outputs, watch start output = some start) :
    watchAll watch start outputs = some start := by
  induction outputs with
  | nil => rfl
  | cons output outputs ih =>
      obtain ⟨hFirst, hRest⟩ := List.forall_mem_cons.mp hIgnored
      rw [watchAll_cons, hFirst]
      exact ih hRest

end Monitor

/-- The history of a run is accepted if every step carries over a relation that
holds at the start. -/
theorem TransitionSystem.Run.accepted {State Action Output Abstract : Type*}
    {system : TransitionSystem State Action Output}
    {watch : Abstract → Output → Option Abstract} {start : Abstract}
    (Shows : State → Abstract → Prop)
    (hInitial : ∀ s, system.initial s → Shows s start)
    (hStep : ∀ s action t new before, Shows s before →
      system.step s action = some (t, new) →
      ∃ after, Monitor.watchAll watch before new = some after ∧ Shows t after)
    {steps : List (State × Action)} {history : List Output} {s : State}
    (run : system.Run steps history s) :
    ∃ final, Monitor.watchAll watch start history = some final ∧ Shows s final := by
  refine run.invariant_of_all (fun history s => ∃ final,
    Monitor.watchAll watch start history = some final ∧ Shows s final) ?_ ?_
  · exact fun s hStart => ⟨start, rfl, hInitial s hStart⟩
  · rintro history s action t new ⟨before, hBefore, hShows⟩ hNext
    obtain ⟨after, hAfter, hShown⟩ := hStep s action t new before hShows hNext
    exact ⟨after, by rw [Monitor.watchAll_append hBefore, hAfter], hShown⟩

end Library
end UtilsFramework
