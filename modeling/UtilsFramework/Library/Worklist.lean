import Mathlib.Logic.Hydra

/-!
# A FIFO worklist that grows while it is worked off

Each turn takes the first entry and appends what this entry spawns.  The queue
may grow from turn to turn, so its length is no measure; the measure is the
multiset of queued entries, ordered by replacing an entry with entries it
spawns.  This order is Mathlib's hydra game: it is well-founded over entries
that spawn finitely many others altogether.
-/

namespace UtilsFramework
namespace Library
namespace Worklist

variable {Entry : Type*} (spawns : Entry → List Entry)

/-- As each entry spawns finitely many directly, well-founded spawning means
that it spawns finitely many altogether. -/
def SpawnsFinitely (entry : Entry) : Prop :=
  Acc (fun child parent => child ∈ spawns parent) entry

/-- What spawns finitely does not spawn itself. -/
theorem SpawnsFinitely.not_self {spawns : Entry → List Entry} {entry : Entry}
    (hFinite : SpawnsFinitely spawns entry) : entry ∉ spawns entry := by
  induction hFinite with
  | intro entry _ ih => exact fun hSelf => ih entry hSelf hSelf

/-- Turns from one queue to another, with the entries taken in order. -/
inductive Turns : List Entry → List Entry → List Entry → Prop
  | none {queue : List Entry} : Turns queue [] queue
  | turn {entry : Entry} {rest taken left : List Entry}
      (later : Turns (rest ++ spawns entry) taken left) :
      Turns (entry :: rest) (entry :: taken) left

variable {spawns}

namespace Turns

theorem snoc {queue taken rest : List Entry} {entry : Entry}
    (turns : Turns spawns queue taken (entry :: rest)) :
    Turns spawns queue (taken ++ [entry]) (rest ++ spawns entry) := by
  generalize hLeft : entry :: rest = left at turns
  induction turns with
  | none =>
      subst hLeft
      exact .turn .none
  | turn _ ih => exact .turn (ih hLeft)

/-- What was taken and what is left is what was there and what was spawned, in
this order. -/
theorem conserves {queue taken left : List Entry} (turns : Turns spawns queue taken left) :
    taken ++ left = queue ++ taken.flatMap spawns := by
  induction turns with
  | none => simp
  | turn _ ih =>
      rw [List.cons_append, ih, List.flatMap_cons]
      simp only [List.append_assoc, List.cons_append]

/-- Turns are deterministic: whatever was taken so far begins any list of turns
that empties the queue. -/
theorem isPrefix {queue taken left all : List Entry}
    (complete : Turns spawns queue all []) (turns : Turns spawns queue taken left) :
    taken <+: all := by
  generalize hEmpty : ([] : List Entry) = final at complete
  induction complete generalizing taken with
  | none =>
      subst hEmpty
      cases turns with
      | none => exact List.prefix_rfl
  | turn _ ih =>
      cases turns with
      | none => exact List.nil_prefix
      | turn later =>
          obtain ⟨more, hMore⟩ := ih later hEmpty
          exact ⟨more, by rw [List.cons_append, hMore]⟩

/-- The queue is empty exactly when everything has been taken. -/
theorem left_eq_nil_iff {queue taken left all : List Entry}
    (complete : Turns spawns queue all []) (turns : Turns spawns queue taken left) :
    left = [] ↔ taken = all := by
  constructor
  · rintro rfl
    exact (complete.isPrefix turns).eq_of_length_le (turns.isPrefix complete).length_le
  · rintro rfl
    have hSame := turns.conserves.trans complete.conserves.symm
    exact List.append_cancel_left hSame

end Turns

/-- A queue of entries that spawn finitely is emptied after finitely many turns. -/
theorem exists_turns {queue : List Entry}
    (hFinite : ∀ entry ∈ queue, SpawnsFinitely spawns entry) :
    ∃ all, Turns spawns queue all [] := by
  -- spawning, restricted to the entries where it is well-founded
  let spawned : Entry → Entry → Prop := fun child parent =>
    child ∈ spawns parent ∧ SpawnsFinitely spawns parent
  have hIrreflexive : Std.Irrefl spawned := ⟨fun _ hSelf => hSelf.2.not_self hSelf.1⟩
  have hAcc : Acc (Relation.CutExpand spawned) (queue : Multiset Entry) := by
    refine Relation.acc_of_singleton fun entry hEntry => ?_
    have hSpawns : SpawnsFinitely spawns entry := hFinite entry (by simpa using hEntry)
    exact (Subrelation.accessible (fun hChild => hChild.1) hSpawns).cutExpand
  generalize hQueue : (queue : Multiset Entry) = bag at hAcc
  induction hAcc generalizing queue with
  | intro bag _ ih =>
      subst hQueue
      cases queue with
      | nil => exact ⟨[], .none⟩
      | cons entry rest =>
          have hEntry := hFinite entry List.mem_cons_self
          have hCut : Relation.CutExpand spawned (↑(rest ++ spawns entry))
              (↑(entry :: rest)) := by
            refine ⟨spawns entry, entry, fun child hChild => ⟨by simpa using hChild, hEntry⟩, ?_⟩
            rw [← Multiset.coe_singleton, Multiset.coe_add, Multiset.coe_add,
              Multiset.coe_eq_coe]
            exact List.perm_append_singleton entry (rest ++ spawns entry)
          obtain ⟨all, turns⟩ := ih _ hCut (fun other hOther => by
            rcases List.mem_append.mp hOther with hRest | hChild
            · exact hFinite other (List.mem_cons_of_mem entry hRest)
            · exact hEntry.inv hChild) rfl
          exact ⟨entry :: all, .turn turns⟩

end Worklist
end Library
end UtilsFramework
