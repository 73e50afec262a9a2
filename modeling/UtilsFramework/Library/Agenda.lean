import UtilsFramework.Library.OrderedMultimap

/-!
# Agendas: earliest deadline first, and first come first served

What a timer service is for.  Entries come with a deadline not before
the present and get the next ticket; they may be withdrawn; and the first
waiting entry is served once its deadline has been reached.  Every entry served
precedes every entry still waiting, by deadline and then by ticket, because an
entry that comes later has a deadline no earlier than the present, which all
deadlines already served have reached.  The structure carries this order, so a
list of served entries out of order cannot be built.
-/

namespace UtilsFramework
namespace Library

/-- An entry with its deadline and, behind its label, its ticket. -/
abbrev AgendaEntry (Time Label : Type*) := Time × Label × Nat

/-- By deadline, and by ticket among equal deadlines. -/
def AgendaEntry.Precedes {Time Label : Type*} [LinearOrder Time]
    (earlier later : AgendaEntry Time Label) : Prop :=
  earlier.1 < later.1 ∨ (earlier.1 = later.1 ∧ earlier.2.2 < later.2.2)

/-- The present, the number of tickets issued, and the entries waiting and
served. -/
structure Agenda (Time Label : Type*) [LinearOrder Time] where
  now : Time
  issued : Nat
  waiting : OrderedMultimap Time (Label × Nat)
  served : List (AgendaEntry Time Label)
  ordered : (served ++ waiting.entries).Pairwise AgendaEntry.Precedes
  reached : ∀ entry ∈ served, entry.1 ≤ now
  ticketed : ∀ entry ∈ served ++ waiting.entries, entry.2.2 < issued

namespace Agenda

variable {Time Label : Type*} [LinearOrder Time]

/-- Nothing served and nothing waiting. -/
def start (now : Time) : Agenda Time Label where
  now := now
  issued := 0
  waiting := .empty
  served := []
  ordered := List.Pairwise.nil
  reached := by simp
  ticketed := by simp

/-- Time passes. -/
def elapse (agenda : Agenda Time Label) (later : Time) (hLater : agenda.now ≤ later) :
    Agenda Time Label :=
  { agenda with
    now := later
    reached := fun entry hEntry => (agenda.reached entry hEntry).trans hLater }

/-- Enter a label with a deadline that is not in the past. -/
def enter (agenda : Agenda Time Label) (deadline : Time) (label : Label)
    (hDeadline : agenda.now ≤ deadline) : Agenda Time Label where
  now := agenda.now
  issued := agenda.issued + 1
  waiting := agenda.waiting.emplace deadline (label, agenda.issued)
  served := agenda.served
  ordered := by
    obtain ⟨hServed, hWaiting, hAcross⟩ := List.pairwise_append.mp agenda.ordered
    refine List.pairwise_append.mpr ⟨hServed, ?_, ?_⟩
    · -- the new ticket is the largest, so the place behind equal keys is right
      have hParts := hWaiting
      rw [← List.takeWhile_append_dropWhile (p := OrderedMultimap.notAfter deadline)
        (l := agenda.waiting.entries), List.pairwise_append] at hParts
      obtain ⟨hBefore, hAfter, hBetween⟩ := hParts
      refine List.pairwise_append.mpr ⟨hBefore, List.pairwise_cons.mpr ⟨?_, hAfter⟩, ?_⟩
      · intro later hLater
        left
        exact OrderedMultimap.lt_of_mem_dropWhile agenda.waiting.sorted hLater
      · intro earlier hEarlier later hLater
        rcases List.mem_cons.mp hLater with rfl | hLater
        · have hTicket : earlier.2.2 < agenda.issued :=
            agenda.ticketed earlier (List.mem_append_right _
              ((List.takeWhile_sublist _).subset hEarlier))
          rcases (OrderedMultimap.mem_takeWhile_notAfter hEarlier).lt_or_eq with hLt | hEq
          · exact Or.inl hLt
          · exact Or.inr ⟨hEq, hTicket⟩
        · exact hBetween earlier hEarlier later hLater
    · intro earlier hEarlier later hLater
      rcases OrderedMultimap.mem_emplace.mp hLater with rfl | hOld
      · have hTicket : earlier.2.2 < agenda.issued :=
          agenda.ticketed earlier (List.mem_append_left _ hEarlier)
        rcases ((agenda.reached earlier hEarlier).trans hDeadline).lt_or_eq with hLt | hEq
        · exact Or.inl hLt
        · exact Or.inr ⟨hEq, hTicket⟩
      · exact hAcross earlier hEarlier later hOld
  reached := agenda.reached
  ticketed := by
    intro entry hEntry
    have hNext : agenda.issued < agenda.issued + 1 := Nat.lt_succ_self _
    rcases List.mem_append.mp hEntry with hServed | hWaiting
    · exact (agenda.ticketed entry (List.mem_append_left _ hServed)).trans hNext
    · rcases OrderedMultimap.mem_emplace.mp hWaiting with rfl | hOld
      · exact hNext
      · exact (agenda.ticketed entry (List.mem_append_right _ hOld)).trans hNext

/-- Withdraw the entry at a position. -/
def withdraw (agenda : Agenda Time Label) (position : Nat) : Agenda Time Label :=
  have hFewer : (agenda.served ++ (agenda.waiting.eraseAt position).entries).Sublist
      (agenda.served ++ agenda.waiting.entries) :=
    (List.eraseIdx_sublist _ _).append_left _
  { agenda with
    waiting := agenda.waiting.eraseAt position
    ordered := agenda.ordered.sublist hFewer
    ticketed := fun entry hEntry => agenda.ticketed entry (hFewer.subset hEntry) }

/-- Serve the first entry, whose deadline has been reached. -/
def serve (agenda : Agenda Time Label) (entry : AgendaEntry Time Label)
    (hFirst : agenda.waiting.first? = some entry) (hReached : entry.1 ≤ agenda.now) :
    Agenda Time Label :=
  have hSame : agenda.served ++ [entry] ++ (agenda.waiting.eraseAt 0).entries =
      agenda.served ++ agenda.waiting.entries := by
    obtain ⟨rest, hEntries⟩ := List.head?_eq_some_iff.mp hFirst
    rw [OrderedMultimap.entries_eraseAt_zero, hEntries, List.tail_cons,
      List.append_assoc, List.singleton_append]
  { agenda with
    waiting := agenda.waiting.eraseAt 0
    served := agenda.served ++ [entry]
    ordered := by
      rw [hSame]
      exact agenda.ordered
    reached := by
      intro other hOther
      rcases List.mem_append.mp hOther with hServed | hLast
      · exact agenda.reached other hServed
      · rw [List.mem_singleton.mp hLast]
        exact hReached
    ticketed := by
      rw [hSame]
      exact agenda.ticketed }

/-- What has been served is in order. -/
theorem served_ordered (agenda : Agenda Time Label) :
    agenda.served.Pairwise AgendaEntry.Precedes :=
  (List.pairwise_append.mp agenda.ordered).1

end Agenda
end Library
end UtilsFramework
