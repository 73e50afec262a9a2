import Mathlib.Data.List.AList
import Mathlib.Tactic.Common

/-!
# The interest list of an epoll instance

The kernel side of `epoll_ctl(2)` and `epoll_wait(2)`: which descriptors are
registered, with which event bits and which user data.  Whether a call
succeeds is up to the environment (`succeeds`), except that the kernel never
adds a registered descriptor and never modifies or deletes an unregistered
one.  A failed call leaves the list as it was.
-/

namespace UtilsFramework
namespace Library
namespace Epoll

/-- The bits of `struct epoll_event::events`. -/
abbrev EventMask := BitVec 32

def epollIn : EventMask := 0x001#32
def epollOut : EventMask := 0x004#32
def epollErr : EventMask := 0x008#32
def epollHup : EventMask := 0x010#32

/-- What the kernel keeps for one registered descriptor. -/
structure Interest (Data : Type*) where
  events : EventMask
  data : Data
deriving DecidableEq, Repr

/-- One reported event: the ready bits and the user data of the descriptor. -/
structure Event (Data : Type*) where
  events : EventMask
  data : Data
deriving DecidableEq, Repr

abbrev InterestList (Data : Type*) := AList fun _ : Int => Interest Data

/-- The operation argument of `epoll_ctl`, with the event it reads. -/
inductive CtlOp (Data : Type*)
  | add (interest : Interest Data)
  | modify (interest : Interest Data)
  | delete

/-- `epoll_ctl`: the new interest list, or `none` for a call returning `-1`. -/
def epollCtl {Data : Type*} (list : InterestList Data) (op : CtlOp Data)
    (fd : Int) (succeeds : Bool) : Option (InterestList Data) :=
  match op with
  | .add interest =>
      if succeeds && decide (fd ∉ list) then some (list.insert fd interest) else none
  | .modify interest =>
      if succeeds && decide (fd ∈ list) then some (list.insert fd interest) else none
  | .delete =>
      if succeeds && decide (fd ∈ list) then some (list.erase fd) else none

/-- The data of a reported event is that of a registered descriptor. -/
def reports {Data : Type*} [DecidableEq Data] (list : InterestList Data)
    (event : Event Data) : Bool :=
  list.entries.any fun entry => decide (entry.2.data = event.data)

/-- A batch `epoll_wait` may return: at most `maxEvents` events, each for a
registered descriptor. -/
def batchFrom {Data : Type*} [DecidableEq Data] (list : InterestList Data)
    (maxEvents : Nat) (events : List (Event Data)) : Bool :=
  decide (events.length ≤ maxEvents) && events.all (reports list)

variable {Data : Type*}

@[simp] theorem epollCtl_fails (list : InterestList Data) (op : CtlOp Data)
    (fd : Int) : epollCtl list op fd false = none := by
  cases op <;> simp [epollCtl]

theorem epollCtl_add_some {list updated : InterestList Data}
    {interest : Interest Data} {fd : Int} {succeeds : Bool}
    (hCtl : epollCtl list (.add interest) fd succeeds = some updated) :
    fd ∉ list ∧ updated = list.insert fd interest := by
  simp only [epollCtl, Bool.and_eq_true, decide_eq_true_eq,
    Option.ite_none_right_eq_some, Option.some.injEq] at hCtl
  exact ⟨hCtl.1.2, hCtl.2.symm⟩

theorem epollCtl_modify_of_mem {list : InterestList Data}
    (interest : Interest Data) {fd : Int} (hMem : fd ∈ list) :
    epollCtl list (.modify interest) fd true = some (list.insert fd interest) := by
  simp [epollCtl, hMem]

theorem epollCtl_modify_some {list updated : InterestList Data}
    {interest : Interest Data} {fd : Int} {succeeds : Bool}
    (hCtl : epollCtl list (.modify interest) fd succeeds = some updated) :
    updated = list.insert fd interest := by
  simp only [epollCtl, Option.ite_none_right_eq_some, Option.some.injEq] at hCtl
  exact hCtl.2.symm

theorem epollCtl_delete_of_mem {list : InterestList Data} {fd : Int}
    (hMem : fd ∈ list) : epollCtl list .delete fd true = some (list.erase fd) := by
  simp [epollCtl, hMem]

/-- Whether or not a deletion succeeds, what is left was there before. -/
theorem epollCtl_delete_getD_lookup {list : InterestList Data} {fd other : Int}
    {succeeds : Bool} {interest : Interest Data}
    (hLookup : ((epollCtl list .delete fd succeeds).getD list).lookup other =
      some interest) : list.lookup other = some interest := by
  unfold epollCtl at hLookup
  dsimp only at hLookup
  split at hLookup
  · rw [Option.getD_some] at hLookup
    by_cases hFd : other = fd
    · subst hFd
      rw [AList.lookup_erase] at hLookup
      cases hLookup
    · rw [AList.lookup_erase_ne hFd] at hLookup
      exact hLookup
  · exact hLookup

/-- A deletion leaves the other descriptors alone. -/
theorem epollCtl_delete_getD_lookup_ne {list : InterestList Data} {fd other : Int}
    {succeeds : Bool} (hFd : other ≠ fd) :
    ((epollCtl list .delete fd succeeds).getD list).lookup other = list.lookup other := by
  unfold epollCtl
  dsimp only
  split
  · exact AList.lookup_erase_ne hFd
  · rfl

/-- A reported event carries the data of some registered descriptor. -/
theorem exists_interest_of_reports [DecidableEq Data] {list : InterestList Data}
    {event : Event Data} (hReports : reports list event = true) :
    ∃ fd interest, list.lookup fd = some interest ∧ interest.data = event.data := by
  simp only [reports, List.any_eq_true, decide_eq_true_eq] at hReports
  obtain ⟨⟨fd, interest⟩, hEntry, hData⟩ := hReports
  exact ⟨fd, interest, AList.mem_lookup_iff.mpr hEntry, hData⟩

theorem reports_of_mem_batch [DecidableEq Data] {list : InterestList Data}
    {maxEvents : Nat} {events : List (Event Data)} {event : Event Data}
    (hBatch : batchFrom list maxEvents events = true) (hMem : event ∈ events) :
    reports list event = true := by
  simp only [batchFrom, Bool.and_eq_true, List.all_eq_true] at hBatch
  exact hBatch.2 event hMem

/-- The event of one registered descriptor is a batch. -/
theorem batchFrom_singleton [DecidableEq Data] {list : InterestList Data} {maxEvents : Nat}
    (hRoom : 1 ≤ maxEvents) {fd : Int} {interest : Interest Data}
    (hLookup : list.lookup fd = some interest) {events : EventMask} :
    batchFrom list maxEvents [⟨events, interest.data⟩] = true := by
  have hReports : reports list ⟨events, interest.data⟩ = true := by
    simp only [reports, List.any_eq_true, decide_eq_true_eq]
    exact ⟨⟨fd, interest⟩, AList.mem_lookup_iff.mp hLookup, rfl⟩
  simp [batchFrom, hReports, hRoom]

end Epoll
end Library
end UtilsFramework
