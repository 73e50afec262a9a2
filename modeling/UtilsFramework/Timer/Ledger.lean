import UtilsFramework.Timer.KernelTimer

/-!
# A ledger of starts and expirations

An observer who sees the returns of the interface and the calls of the
subscribers can keep a ledger: which start of a pair is running, with its
deadline and its number, and which start each call of a subscriber ended.  This
file connects the ledger with the multimap.  Up to the numbers of the starts,
the multimap holds the running starts under their deadlines, and every step
books an admission, a withdrawal or the service of the first entry.
-/

namespace UtilsFramework
namespace Timer

open Library
open Library.TransitionSystem

/-- A successful start: `start time + timeout`, and how many starts came before. -/
structure Launch where
  deadline : Int
  index : Nat
deriving DecidableEq, Repr

/-- The running start of each pair, and every call of a subscriber with the
start it ended and the clock at the call. -/
structure Ledger where
  launched : Nat
  running : TimerId → Option Launch
  fired : List (Option Launch × Int)

namespace Ledger

def empty : Ledger where
  launched := 0
  running := fun _ => none
  fired := []

def observe (ledger : Ledger) : Output → Ledger
  | .started _ timer now timeout .normal =>
      { ledger with
        launched := ledger.launched + 1
        running := Function.update ledger.running timer
          (some ⟨deadlineOf now timeout, ledger.launched⟩) }
  | .cancelled timer .normal =>
      { ledger with running := Function.update ledger.running timer none }
  | .handleTimerExpired timer now =>
      { ledger with
        running := Function.update ledger.running timer none
        fired := ledger.fired ++ [(ledger.running timer, now)] }
  | _ => ledger

/-- The ledger after all observations. -/
def ofHistory (history : List Output) : Ledger :=
  history.foldl observe empty

theorem ofHistory_append (history new : List Output) :
    ofHistory (history ++ new) = new.foldl observe (ofHistory history) :=
  List.foldl_append

/-- Calls of `timerfd_settime` are not entered. -/
theorem foldl_calls (ledger : Ledger) {calls : List Output}
    (hCalls : TimerManagerImpl.OnlySets calls) :
    calls.foldl observe ledger = ledger :=
  hCalls.foldl_eq (fun _ _ _ => rfl) ledger

theorem observe_started_refused (ledger : Ledger) {kind : TimerKind} {timer : TimerId}
    {now timeout : Int} {rc : ReturnCode} (hRefused : rc ≠ .normal) :
    ledger.observe (.started kind timer now timeout rc) = ledger := by
  cases rc with
  | normal => exact absurd rfl hRefused
  | alreadyExists | notFound | invalidArg | notThreadLocal | internalFault => rfl

theorem observe_cancelled_refused (ledger : Ledger) {timer : TimerId} {rc : ReturnCode}
    (hRefused : rc ≠ .normal) : ledger.observe (.cancelled timer rc) = ledger := by
  cases rc with
  | normal => exact absurd rfl hRefused
  | alreadyExists | notFound | invalidArg | notThreadLocal | internalFault => rfl

end Ledger

/-- A start whose deadline fits in 64 bits. -/
def DeadlineInRange (s : TimerManagerImpl) : Action → Prop
  | .start _ _ _ timeout _ =>
      -2 ^ 63 ≤ deadlineOf s.now timeout ∧ deadlineOf s.now timeout < 2 ^ 63
  | _ => True

/-- A `read` of the timerfd succeeds only if a tick is pending. -/
def ReadNeedsTick (s : TimerManagerImpl) : Action → Prop
  | .onTimerExpired readSucceeds _ => readSucceeds = true → s.kernelTimer = .expired
  | _ => True

instance (s : TimerManagerImpl) (action : Action) : Decidable (DeadlineInRange s action) :=
  match action with
  | .start _ _ _ timeout _ => inferInstanceAs (Decidable
      (-2 ^ 63 ≤ deadlineOf s.now timeout ∧ deadlineOf s.now timeout < 2 ^ 63))
  | .cancelTimer _ _ _ | .onTimerExpired _ _ | .elapse _ => isTrue trivial

instance (s : TimerManagerImpl) (action : Action) : Decidable (ReadNeedsTick s action) :=
  match action with
  | .onTimerExpired readSucceeds _ =>
      inferInstanceAs (Decidable (readSucceeds = true → s.kernelTimer = .expired))
  | .start _ _ _ _ _ | .cancelTimer _ _ _ | .elapse _ => isTrue trivial

/-- The active timers with the numbers of their starts. -/
abbrev Waiting := OrderedMultimap Int (TimerObject × Nat)

/-- `waiting` is the multimap with numbers, and every entry is the running start
of its pair. -/
structure Recorded (ledger : Ledger) (s : TimerManagerImpl) (waiting : Waiting) :
    Prop where
  timers_eq : s.activeTimers = waiting.mapValues Prod.fst
  running : ∀ entry ∈ waiting.entries,
    ledger.running entry.2.1.id = some ⟨entry.1, entry.2.2⟩

/-- What a step from `s` books: nothing, an admission, a withdrawal or the
service of the first entry. -/
inductive Booked (s : TimerManagerImpl) (action : Action) (ledger : Ledger)
    (waiting : Waiting) (next : Ledger) : Waiting → Prop
  | unchanged (hLaunched : next.launched = ledger.launched)
      (hFired : next.fired = ledger.fired) : Booked s action ledger waiting next waiting
  | admitted {kind : TimerKind} {caller : ThreadId} {syscalls : Syscalls}
      {timeout : Int} {timer : TimerId}
      (hAction : action = .start kind caller syscalls timeout timer)
      (hLaunched : next.launched = ledger.launched + 1)
      (hFired : next.fired = ledger.fired) :
      Booked s action ledger waiting next (waiting.emplace (deadlineOf s.now timeout)
        (TimerManagerImpl.launchedTimer timeout timer kind, ledger.launched))
  | withdrawn {position : Nat} (hLaunched : next.launched = ledger.launched)
      (hFired : next.fired = ledger.fired) :
      Booked s action ledger waiting next (waiting.eraseAt position)
  | served {succeeds : Bool} {entry : Int × TimerObject × Nat}
      (hAction : action = .onTimerExpired true succeeds)
      (hFirst : waiting.first? = some entry)
      (hLaunched : next.launched = ledger.launched)
      (hFired : next.fired = ledger.fired ++ [(some ⟨entry.1, entry.2.2⟩, s.now)]) :
      Booked s action ledger waiting next (waiting.eraseAt 0)

namespace Recorded

open TimerManagerImpl

variable {ledger : Ledger} {s : TimerManagerImpl} {waiting : Waiting}

/-- An entry with a number is an entry of the multimap. -/
theorem mem_activeTimers (hRecorded : Recorded ledger s waiting)
    {entry : Int × TimerObject × Nat} (hMem : entry ∈ waiting.entries) :
    (entry.1, entry.2.1) ∈ s.activeTimers.entries := by
  rw [hRecorded.timers_eq]
  exact OrderedMultimap.mem_mapValues hMem

theorem eraseAt_eq (hRecorded : Recorded ledger s waiting) (position : Nat) :
    s.activeTimers.eraseAt position = (waiting.eraseAt position).mapValues Prod.fst := by
  rw [OrderedMultimap.mapValues_eraseAt, hRecorded.timers_eq]

/-- Closing the pair of an erased entry leaves the others running. -/
theorem running_erase (hRecorded : Recorded ledger s waiting) (hKept : s.WellKept)
    {before after : List (Int × TimerObject)} {found : Int × TimerObject}
    (hEntries : s.activeTimers.entries = before ++ found :: after)
    (hErased : (s.activeTimers.eraseAt before.length).entries = before ++ after) :
    ∀ entry ∈ (waiting.eraseAt before.length).entries,
      Function.update ledger.running found.2.id none entry.2.1.id =
        some ⟨entry.1, entry.2.2⟩ := by
  intro entry hEntry
  have hOther : (entry.1, entry.2.1) ∈ before ++ after := by
    rw [← hErased, hRecorded.eraseAt_eq]
    exact OrderedMultimap.mem_mapValues hEntry
  rw [Function.update_of_ne (hKept.id_ne hEntries hOther)]
  exact hRecorded.running entry (OrderedMultimap.mem_of_mem_eraseAt hEntry)

/-- Every step with deadlines in range keeps the books. -/
theorem step (hRecorded : Recorded ledger s waiting) (hKept : s.WellKept)
    {t : TimerManagerImpl} {action : Action} {new : List Output}
    (hRange : DeadlineInRange s action) (moves : Moves s action t new) :
    ∃ waiting', Recorded (new.foldl Ledger.observe ledger) t waiting' ∧
      Booked s action ledger waiting (new.foldl Ledger.observe ledger) waiting' := by
  cases moves with
  | startRefused hRefused hCalls _ =>
      rw [List.foldl_append, Ledger.foldl_calls _ hCalls, List.foldl_cons,
        List.foldl_nil, Ledger.observe_started_refused _ hRefused]
      exact ⟨waiting, ⟨hRecorded.timers_eq, hRecorded.running⟩, .unchanged rfl rfl⟩
  | @started kind _ _ timeout timer _ _ _ _ hCalls _ _ _ hNew _ =>
      rw [List.foldl_append, Ledger.foldl_calls _ hCalls, List.foldl_cons,
        List.foldl_nil]
      refine ⟨_, ⟨?_, ?_⟩, .admitted rfl rfl rfl⟩
      · rw [OrderedMultimap.mapValues_emplace, ← hRecorded.timers_eq,
          expiredDate_eq hRange.1 hRange.2]
      · intro entry hEntry
        rcases OrderedMultimap.mem_emplace.mp hEntry with rfl | hOld
        · rw [launchedTimer_id]
          exact Function.update_self _ _ _
        · have hOther : entry.2.1.id ≠ timer :=
            hNew _ (hRecorded.mem_activeTimers hOld)
          simp only [Ledger.observe, Function.update_of_ne hOther]
          exact hRecorded.running entry hOld
  | cancelRefused hRefused _ =>
      rw [List.foldl_cons, List.foldl_nil, Ledger.observe_cancelled_refused _ hRefused]
      exact ⟨waiting, hRecorded, .unchanged rfl rfl⟩
  | @cancelled _ _ timer before after found _ calls hCalls _ hEntries hErased hFound _ =>
      subst hFound
      rw [List.foldl_append, Ledger.foldl_calls _ hCalls, List.foldl_cons,
        List.foldl_nil]
      exact ⟨waiting.eraseAt before.length,
        ⟨hRecorded.eraseAt_eq _, hRecorded.running_erase hKept hEntries hErased⟩,
        .withdrawn rfl rfl⟩
  | readFailed => exact ⟨waiting, hRecorded, .unchanged rfl rfl⟩
  | nothingActive =>
      exact ⟨waiting, ⟨hRecorded.timers_eq, hRecorded.running⟩, .unchanged rfl rfl⟩
  | elapsed =>
      exact ⟨waiting, ⟨hRecorded.timers_eq, hRecorded.running⟩, .unchanged rfl rfl⟩
  | @expired succeeds date tmoObj _ hFirst =>
      have hAfter := hKept.afterExpiry_eq hFirst
      have hEntries := hKept.entries_of_first hFirst
      rw [hAfter] at hEntries
      obtain ⟨entry, hWaiting, hEntry⟩ : ∃ entry, waiting.first? = some entry ∧
          (entry.1, entry.2.1) = (date, tmoObj) := by
        have hImage := OrderedMultimap.first?_mapValues Prod.fst waiting
        rw [← hRecorded.timers_eq, hFirst] at hImage
        exact Option.map_eq_some_iff.mp hImage.symm
      obtain ⟨rfl, rfl⟩ := Prod.mk.inj hEntry
      have hRunning :=
        hRecorded.running entry (OrderedMultimap.mem_of_first? hWaiting)
      refine ⟨waiting.eraseAt 0, ⟨?_, ?_⟩, .served rfl hWaiting rfl ?_⟩
      · exact hAfter.trans (hRecorded.eraseAt_eq 0)
      · have hErased : (s.activeTimers.eraseAt
            ([] : List (Int × TimerObject)).length).entries =
              [] ++ (s.activeTimers.eraseAt 0).entries := rfl
        exact hRecorded.running_erase hKept hEntries hErased
      · simp only [List.foldl_cons, List.foldl_nil, Ledger.observe, hRunning]

end Recorded

/-- At the start nothing is booked. -/
theorem recorded_construct (threadId : ThreadId) (now : Int) :
    Recorded (Ledger.ofHistory []) (.construct threadId now) .empty where
  timers_eq := rfl
  running := by simp

end Timer
end UtilsFramework
