import Mathlib.Data.List.Nodup
import UtilsFramework.Library.Alternation
import UtilsFramework.Timer.Entries

/-!
# Every start ends once

For one pair of a subscriber and a user id the observations of a run are an
alternation: a start opens the pair, a cancel or the call of the subscriber
closes it.  The manager accepts an opening exactly if the multimap has no entry
for the pair, and closes only what it has, so the multimap is the state of the
alternation.  The balance of starts, cancels and calls follows.
-/

namespace UtilsFramework
namespace Timer

open Library
open Library.TransitionSystem

/-! ## The alternation of one pair -/

/-- A successful `startTimer` of the pair. -/
def startedNormally (timer : TimerId) : Output → Bool
  | .started .oneShot other _ _ .normal => other == timer
  | _ => false

/-- A successful `cancelTimer` of the pair. -/
def cancelledNormally (timer : TimerId) : Output → Bool
  | .cancelled other .normal => other == timer
  | _ => false

/-- A call of the subscriber for the pair. -/
def handledExpiry (timer : TimerId) : Output → Bool
  | .handleTimerExpired other _ => other == timer
  | _ => false

/-- What an observation means for a pair. -/
def eventOf (timer : TimerId) (output : Output) : Option Alternation.Event :=
  if startedNormally timer output then some .opens
  else if cancelledNormally timer output || handledExpiry timer output then some .closes
  else none

def eventsOf (timer : TimerId) (history : List Output) : List Alternation.Event :=
  history.filterMap (eventOf timer)

theorem eventsOf_append (timer : TimerId) (before after : List Output) :
    eventsOf timer (before ++ after) = eventsOf timer before ++ eventsOf timer after :=
  List.filterMap_append

/-- An observation of another pair, or of a call that failed, means nothing. -/
theorem eventsOf_of_foreign {timer : TimerId} {output : Output}
    (hStarted : startedNormally timer output = false)
    (hCancelled : cancelledNormally timer output = false)
    (hHandled : handledExpiry timer output = false) : eventsOf timer [output] = [] := by
  have hNone : eventOf timer output = none := by
    simp [eventOf, hStarted, hCancelled, hHandled]
  rw [eventsOf, List.filterMap_cons_none hNone, List.filterMap_nil]

theorem eventsOf_started (timer other : TimerId) (kind : TimerKind) (now timeout : Int)
    (rc : ReturnCode) :
    eventsOf other [.started kind timer now timeout rc] =
      if kind = .oneShot ∧ rc = .normal ∧ timer = other then [.opens] else [] := by
  split
  · rename_i hOpens
    obtain ⟨rfl, rfl, rfl⟩ := hOpens
    simp [eventsOf, eventOf, startedNormally]
  · rename_i hQuiet
    refine eventsOf_of_foreign ?_ rfl rfl
    rw [Bool.eq_false_iff]
    intro hStarted
    cases kind with
    | periodical => cases hStarted
    | oneShot =>
        cases rc with
        | normal => exact hQuiet ⟨rfl, rfl, eq_of_beq hStarted⟩
        | alreadyExists | notFound | invalidArg | notThreadLocal | internalFault =>
            cases hStarted

theorem eventsOf_cancelled (timer other : TimerId) (rc : ReturnCode) :
    eventsOf other [.cancelled timer rc] =
      if rc = .normal ∧ timer = other then [.closes] else [] := by
  split
  · rename_i hCloses
    obtain ⟨rfl, rfl⟩ := hCloses
    simp [eventsOf, eventOf, startedNormally, cancelledNormally]
  · rename_i hQuiet
    refine eventsOf_of_foreign rfl ?_ rfl
    rw [Bool.eq_false_iff]
    intro hCancelled
    cases rc with
    | normal => exact hQuiet ⟨rfl, eq_of_beq hCancelled⟩
    | alreadyExists | notFound | invalidArg | notThreadLocal | internalFault =>
        cases hCancelled

theorem eventsOf_handleTimerExpired (timer other : TimerId) (now : Int) :
    eventsOf other [.handleTimerExpired timer now] =
      if timer = other then [.closes] else [] := by
  split
  · rename_i hCloses
    subst hCloses
    simp [eventsOf, eventOf, startedNormally, handledExpiry]
  · rename_i hQuiet
    refine eventsOf_of_foreign rfl rfl ?_
    rw [Bool.eq_false_iff]
    exact fun hHandled => hQuiet (eq_of_beq hHandled)

theorem count_opens_eventsOf (timer : TimerId) (history : List Output) :
    (eventsOf timer history).count .opens = history.countP (startedNormally timer) := by
  rw [eventsOf, List.count_filterMap]
  apply List.countP_congr
  intro output _
  unfold eventOf
  split
  · rename_i hStarted
    simp [hStarted]
  · rename_i hStarted
    split <;> simp [hStarted]

/-- A cancel is not the call of a subscriber, so the closings add up. -/
theorem count_closes_eventsOf (timer : TimerId) (history : List Output) :
    (eventsOf timer history).count .closes =
      history.countP (cancelledNormally timer) + history.countP (handledExpiry timer) := by
  induction history with
  | nil => rfl
  | cons output rest ih =>
      have hOutput : (eventsOf timer [output]).count .closes =
          [output].countP (cancelledNormally timer) +
            [output].countP (handledExpiry timer) := by
        cases output with
        | timerFdSetTime value succeeded => rfl
        | started kind other now timeout rc =>
            rw [eventsOf_started]
            split <;> rfl
        | cancelled other rc =>
            rw [eventsOf_cancelled]
            cases rc <;> by_cases hOther : other = timer <;>
              simp [cancelledNormally, handledExpiry, hOther]
        | handleTimerExpired other now =>
            rw [eventsOf_handleTimerExpired]
            by_cases hOther : other = timer <;>
              simp [cancelledNormally, handledExpiry, hOther]
      rw [← List.singleton_append, eventsOf_append, List.count_append,
        List.countP_append, List.countP_append, ih, hOutput]
      omega

theorem eventsOf_calls {calls : List Output} (hCalls : TimerManagerImpl.OnlySets calls)
    (timer : TimerId) : eventsOf timer calls = [] := by
  rw [eventsOf, List.filterMap_eq_nil_iff]
  intro output hOutput
  obtain ⟨value, succeeded, rfl⟩ := hCalls output hOutput
  rfl

/-- What a step means for the alternations: nothing, the opening of an absent
pair, or the closing of a present one. -/
inductive Turn (s t : TimerManagerImpl) (new : List Output) : Prop
  | quiet (hIds : t.timerIds = s.timerIds) (hNew : ∀ other, eventsOf other new = [])
  | opened (timer : TimerId) (hAbsent : timer ∉ s.timerIds)
      (hIds : t.timerIds.Perm (timer :: s.timerIds))
      (hNew : ∀ other, eventsOf other new = if timer = other then [.opens] else [])
  | closed (timer : TimerId) (hIds : s.timerIds.Perm (timer :: t.timerIds))
      (hNew : ∀ other, eventsOf other new = if timer = other then [.closes] else [])

/-- No step calls `startPeriodicalTimer`. -/
def StartsOneShot (_ : TimerManagerImpl) : Action → Prop
  | .start kind _ _ _ _ => kind = .oneShot
  | _ => True

instance (s : TimerManagerImpl) (action : Action) : Decidable (StartsOneShot s action) :=
  match action with
  | .start kind _ _ _ _ => inferInstanceAs (Decidable (kind = .oneShot))
  | .cancelTimer _ _ _ | .onTimerExpired _ _ | .elapse _ => isTrue trivial

namespace TimerManagerImpl

theorem WellKept.turn {s t : TimerManagerImpl} {action : Action} {new : List Output}
    (hKept : s.WellKept) (hOneShot : StartsOneShot s action)
    (moves : Moves s action t new) : Turn s t new := by
  cases moves with
  | @startRefused kind _ _ timeout timer rc _ _ calls hRefused hCalls _ =>
      refine .quiet rfl fun other => ?_
      -- also where it undid an insertion
      rw [eventsOf_append, eventsOf_calls hCalls, List.nil_append, eventsOf_started]
      exact if_neg fun hNormal => hRefused hNormal.2.1
  | @started kind _ _ timeout timer _ _ _ calls hCalls _ _ _ hNew _ =>
      obtain rfl : kind = .oneShot := hOneShot
      refine .opened timer ?_ ?_ fun other => ?_
      · rw [timerIds, List.mem_map]
        rintro ⟨entry, hEntry, hSame⟩
        exact hNew entry hEntry hSame
      · exact perm_timerIds_emplace s.activeTimers (expiredDate s.now timeout)
          (oneShotTimer timer)
      · rw [eventsOf_append, eventsOf_calls hCalls, List.nil_append, eventsOf_started]
        simp only [true_and]
  | @cancelRefused _ _ timer rc hRefused _ =>
      refine .quiet rfl fun other => ?_
      rw [eventsOf_cancelled]
      exact if_neg fun hNormal => hRefused hNormal.1
  | @cancelled _ _ timer before after found _ calls hCalls _ hEntries hErased hFound _ =>
      refine .closed timer ?_ fun other => ?_
      · simp only [timerIds, hEntries, hErased, List.map_append, List.map_cons, hFound]
        exact List.perm_middle
      · rw [eventsOf_append, eventsOf_calls hCalls, List.nil_append, eventsOf_cancelled]
        simp only [true_and]
  | readFailed => exact .quiet rfl fun other => rfl
  | nothingActive => exact .quiet rfl fun other => rfl
  | elapsed => exact .quiet rfl fun other => rfl
  | @expired _ date tmoObj _ hFirst =>
      refine .closed tmoObj.id ?_ fun other => ?_
      · rw [timerIds, hKept.entries_of_first hFirst]
        exact List.Perm.refl _
      · exact eventsOf_handleTimerExpired tmoObj.id other s.now

end TimerManagerImpl

/-- The multimap has an entry for a pair exactly while the alternation of the
pair is open. -/
def Alternates (history : List Output) (s : TimerManagerImpl) : Prop :=
  ∀ timer, Alternation.followAll false (eventsOf timer history) =
    some (decide (timer ∈ s.timerIds))

theorem Turn.alternates {s t : TimerManagerImpl} {history new : List Output}
    (hKept : s.WellKept) (hAlternates : Alternates history s) (turn : Turn s t new) :
    Alternates (history ++ new) t := by
  intro other
  rw [eventsOf_append, Alternation.followAll_append, hAlternates other]
  cases turn with
  | quiet hIds hNew =>
      rw [hNew, hIds]
      rfl
  | opened timer hAbsent hIds hNew =>
      rw [hNew]
      by_cases hOther : timer = other
      · subst hOther
        have hPresent : timer ∈ t.timerIds := hIds.mem_iff.mpr List.mem_cons_self
        simp [hAbsent, hPresent, Alternation.follow]
      · have hSame : other ∈ t.timerIds ↔ other ∈ s.timerIds := by
          rw [hIds.mem_iff, List.mem_cons, or_iff_right (Ne.symm hOther)]
        simp [hOther, hSame]
  | closed timer hIds hNew =>
      rw [hNew]
      by_cases hOther : timer = other
      · subst hOther
        have hPresent : timer ∈ s.timerIds := hIds.mem_iff.mpr List.mem_cons_self
        have hAbsent : timer ∉ t.timerIds :=
          (List.nodup_cons.mp (hIds.nodup_iff.mp hKept.distinct)).1
        simp [hAbsent, hPresent, Alternation.follow]
      · have hSame : other ∈ s.timerIds ↔ other ∈ t.timerIds := by
          rw [hIds.mem_iff, List.mem_cons, or_iff_right (Ne.symm hOther)]
        simp [hOther, hSame]

theorem alternates_of_run {steps : List (TimerManagerImpl × Action)}
    {history : List Output} {s : TimerManagerImpl}
    (run : timerSystem.Run steps history s) (hOneShot : EveryStep StartsOneShot steps) :
    Alternates history s := by
  refine (run.invariant StartsOneShot
    (fun history s => s.WellKept ∧ Alternates history s) ?_ ?_ hOneShot).2
  · rintro s ⟨threadId, now, rfl⟩
    exact ⟨TimerManagerImpl.wellKept_construct threadId now, fun timer => rfl⟩
  · rintro history s action t new ⟨hKept, hAlternates⟩ hGuard hStep
    have moves := TimerManagerImpl.moves_of_step hStep
    exact ⟨hKept.step moves, (hKept.turn hGuard moves).alternates hKept hAlternates⟩

/-- In every run without `startPeriodicalTimer`, whatever the system calls
answer, the starts of a pair that succeeded are its successful cancels, the
calls of its subscriber and its entries, of which there is at most one.  After
a successful cancel the subscriber is not called again before the next
successful start. -/
theorem run_accounts_for_starts {steps : List (TimerManagerImpl × Action)}
    {history : List Output} {s : TimerManagerImpl}
    (run : timerSystem.Run steps history s) (hOneShot : EveryStep StartsOneShot steps)
    (timer : TimerId) :
    history.countP (startedNormally timer) =
        history.countP (cancelledNormally timer) +
          history.countP (handledExpiry timer) + s.entriesFor timer ∧
      s.entriesFor timer ≤ 1 ∧
      ∀ before rest, history = before ++ .cancelled timer .normal :: rest →
        (∀ output ∈ rest, startedNormally timer output = false) →
        ∀ output ∈ rest, handledExpiry timer output = false := by
  have hFollows := alternates_of_run run hOneShot timer
  have hDistinct := (TimerManagerImpl.wellKept_of_run run).distinct
  refine ⟨?_, List.nodup_iff_count_le_one.mp hDistinct timer, ?_⟩
  · have hBalance := Alternation.count_opens hFollows
    rw [count_opens_eventsOf, count_closes_eventsOf] at hBalance
    have hEntries : s.entriesFor timer = (decide (timer ∈ s.timerIds)).toNat := by
      by_cases hMem : timer ∈ s.timerIds
      · simp only [TimerManagerImpl.entriesFor, hMem, decide_true, Bool.toNat_true]
        exact List.count_eq_one_of_mem hDistinct hMem
      · simp only [TimerManagerImpl.entriesFor, hMem, decide_false, Bool.toNat_false]
        exact List.count_eq_zero.mpr hMem
    rw [hEntries]
    simpa using hBalance
  · rintro before rest rfl hNoStart output hOutput
    have hClose : eventsOf timer (.cancelled timer .normal :: rest) =
        .closes :: eventsOf timer rest := by
      rw [← List.singleton_append, eventsOf_append, eventsOf_cancelled,
        if_pos ⟨rfl, rfl⟩, List.singleton_append]
    rw [eventsOf_append, hClose] at hFollows
    have hNoOpening : .opens ∉ eventsOf timer rest := by
      rw [← List.count_eq_zero, count_opens_eventsOf, List.countP_eq_zero]
      intro output hOutput
      simp [hNoStart output hOutput]
    have hNoClosing := Alternation.closes_notMem hFollows hNoOpening
    rw [← List.count_eq_zero, count_closes_eventsOf, Nat.add_eq_zero_iff,
      List.countP_eq_zero, List.countP_eq_zero] at hNoClosing
    simpa using hNoClosing.2 output hOutput

/-- Start pair (1, 7), fail to arm for the earlier pair (2, 7), and let the
first timer expire. -/
def failedArm : List Action :=
  [.start .oneShot 0 ⟨3, true, true, true⟩ 10 (1, 7),
    .start .oneShot 0 ⟨-1, true, true, false⟩ 5 (2, 7),
    .elapse 10000000,
    .onTimerExpired true true]

/-- What is observed of `failedArm`. -/
def failedArmHistory : List Output :=
  [.timerFdSetTime ⟨0, 0⟩ true, .timerFdSetTime ⟨0, 10000000⟩ true,
    .started .oneShot (1, 7) 0 10 .normal, .timerFdSetTime ⟨0, 5000000⟩ false,
    .started .oneShot (2, 7) 0 5 .internalFault, .timerFdSetTime ⟨0, 0⟩ true,
    .handleTimerExpired (1, 7) 10000000]

/-- The refused start of (2, 7) counts for nothing. -/
theorem failedArm_accounts : ∃ s : TimerManagerImpl,
    failedArmHistory.countP (startedNormally (2, 7)) =
      failedArmHistory.countP (cancelledNormally (2, 7)) +
        failedArmHistory.countP (handledExpiry (2, 7)) + s.entriesFor (2, 7) := by
  obtain ⟨steps, s, run, hOneShot⟩ : ∃ steps s,
      timerSystem.Run steps failedArmHistory s ∧ EveryStep StartsOneShot steps :=
    ⟨_, _, run_of_replay (.construct 0 0) failedArm ⟨0, 0, rfl⟩ rfl, by decide⟩
  exact ⟨s, (run_accounts_for_starts run hOneShot (2, 7)).1⟩

end Timer
end UtilsFramework
