import UtilsFramework.Timer.Accounting
import UtilsFramework.Timer.Ledger

/-!
# Periodical timers

`startPeriodicalTimer` stores the interval and clears `isPeriodical`, the flag
that `onTimerExpired` tests before it inserts an entry again.  A periodical
timer is kept like any other until it expires for the first time, and then it
is gone.  This file determines the runs in which periodical timers behave: those
in which none of them expires.
-/

namespace UtilsFramework
namespace Timer

open Library
open Library.TransitionSystem

/-- The pairs with a periodical timer, each with its interval: started and not
cancelled since. -/
abbrev Periodicals := TimerId → Option Int

namespace Periodicals

def observe (periodicals : Periodicals) : Output → Periodicals
  | .started .periodical timer _ interval .normal =>
      Function.update periodicals timer (some interval)
  | .cancelled timer .normal => Function.update periodicals timer none
  | _ => periodicals

/-- The periodical timers after all observations. -/
def ofHistory (history : List Output) : Periodicals :=
  history.foldl observe fun _ => none

theorem ofHistory_append (history new : List Output) :
    ofHistory (history ++ new) = new.foldl observe (ofHistory history) :=
  List.foldl_append

theorem ofHistory_calls (history : List Output) {calls : List Output}
    (hCalls : TimerManagerImpl.OnlySets calls) (last : Output) :
    ofHistory (history ++ (calls ++ [last])) = observe (ofHistory history) last := by
  rw [ofHistory_append, List.foldl_append, hCalls.foldl_eq (fun _ _ _ => rfl),
    List.foldl_cons, List.foldl_nil]

theorem observe_periodical (periodicals : Periodicals) (timer other : TimerId)
    (now interval : Int) :
    periodicals.observe (.started .periodical timer now interval .normal) other =
      if other = timer then some interval else periodicals other :=
  Function.update_apply _ _ _ _

theorem observe_cancelled (periodicals : Periodicals) (timer other : TimerId) :
    periodicals.observe (.cancelled timer .normal) other =
      if other = timer then none else periodicals other :=
  Function.update_apply _ _ _ _

theorem observe_started_refused (periodicals : Periodicals) {kind : TimerKind}
    {timer : TimerId} {now timeout : Int} {rc : ReturnCode} (hRefused : rc ≠ .normal) :
    periodicals.observe (.started kind timer now timeout rc) = periodicals := by
  cases rc with
  | normal => exact absurd rfl hRefused
  | alreadyExists | notFound | invalidArg | notThreadLocal | internalFault =>
      cases kind <;> rfl

theorem observe_cancelled_refused (periodicals : Periodicals) {timer : TimerId}
    {rc : ReturnCode} (hRefused : rc ≠ .normal) :
    periodicals.observe (.cancelled timer rc) = periodicals := by
  cases rc with
  | normal => exact absurd rfl hRefused
  | alreadyExists | notFound | invalidArg | notThreadLocal | internalFault => rfl

end Periodicals

/-- Every periodical timer has an entry with its interval. -/
def PeriodicalsActive (history : List Output) (s : TimerManagerImpl) : Prop :=
  ∀ timer interval, Periodicals.ofHistory history timer = some interval →
    ∃ entry ∈ s.activeTimers.entries,
      entry.2.id = timer ∧ entry.2.periodicalInterval = some interval

/-- The expiry of a periodical timer calls its subscriber once, with the entry
inserted again at the time of handling plus the interval. -/
def ExpiresPeriodically (s : TimerManagerImpl) (action : Action) (new : List Output)
    (t : TimerManagerImpl) : Prop :=
  ∀ succeeds date tmoObj interval, action = .onTimerExpired true succeeds →
    s.activeTimers.first? = some (date, tmoObj) →
    tmoObj.periodicalInterval = some interval →
    new.countP (handledExpiry tmoObj.id) = 1 ∧
      (deadlineOf s.now interval, tmoObj) ∈ t.activeTimers.entries

/-- The step does not let a timer of `startPeriodicalTimer` expire. -/
def NoPeriodicalExpiry (s : TimerManagerImpl) : Action → Prop
  | .onTimerExpired readSucceeds _ =>
      readSucceeds = true →
        ∀ first ∈ s.activeTimers.first?, first.2.periodicalInterval = none
  | _ => True

instance (s : TimerManagerImpl) (action : Action) :
    Decidable (NoPeriodicalExpiry s action) :=
  match action with
  | .onTimerExpired readSucceeds _ => inferInstanceAs (Decidable (readSucceeds = true →
      ∀ first ∈ s.activeTimers.first?, first.2.periodicalInterval = none))
  | .start _ _ _ _ _ | .cancelTimer _ _ _ | .elapse _ => isTrue trivial

/-- Every entry with an interval belongs to a periodical timer. -/
structure IntervalsKnown (history : List Output) (s : TimerManagerImpl) : Prop where
  kept : s.WellKept
  known : ∀ entry ∈ s.activeTimers.entries, ∀ interval,
    entry.2.periodicalInterval = some interval →
      Periodicals.ofHistory history entry.2.id = some interval

section Steps

open TimerManagerImpl

variable {history new : List Output} {s t : TimerManagerImpl} {action : Action}

theorem IntervalsKnown.step (hInv : IntervalsKnown history s)
    (moves : Moves s action t new) : IntervalsKnown (history ++ new) t := by
  refine ⟨hInv.kept.step moves, ?_⟩
  cases moves with
  | startRefused hRefused hCalls _ =>
      rw [Periodicals.ofHistory_calls _ hCalls,
        Periodicals.observe_started_refused _ hRefused]
      exact hInv.known
  | @started kind _ _ timeout timer _ _ _ _ hCalls _ _ _ hNew _ =>
      rw [Periodicals.ofHistory_calls _ hCalls]
      intro entry hEntry interval hInterval
      rcases OrderedMultimap.mem_emplace.mp hEntry with rfl | hOld
      · cases kind with
        | oneShot => cases hInterval
        | periodical =>
            rw [launchedTimer_id, Periodicals.observe_periodical, if_pos rfl]
            exact hInterval
      · have hKnown := hInv.known entry hOld interval hInterval
        cases kind with
        | oneShot => exact hKnown
        | periodical =>
            rw [Periodicals.observe_periodical, if_neg (hNew entry hOld)]
            exact hKnown
  | cancelRefused hRefused _ =>
      rw [← List.nil_append [Output.cancelled _ _],
        Periodicals.ofHistory_calls _ onlySets_nil,
        Periodicals.observe_cancelled_refused _ hRefused]
      exact hInv.known
  | @cancelled _ _ timer before after found _ _ hCalls _ hEntries hErased hFound _ =>
      rw [Periodicals.ofHistory_calls _ hCalls]
      intro entry hEntry interval hInterval
      have hOther : entry ∈ before ++ after := hErased ▸ hEntry
      have hNe : entry.2.id ≠ timer := hFound ▸ hInv.kept.id_ne hEntries hOther
      rw [Periodicals.observe_cancelled, if_neg hNe]
      exact hInv.known entry (OrderedMultimap.mem_of_mem_eraseAt hEntry) interval hInterval
  | readFailed => exact (List.append_nil history).symm ▸ hInv.known
  | nothingActive => exact (List.append_nil history).symm ▸ hInv.known
  | elapsed => exact (List.append_nil history).symm ▸ hInv.known
  | expired _ hFirst =>
      intro entry hEntry interval hInterval
      rw [Periodicals.ofHistory_append]
      apply hInv.known entry _ interval hInterval
      rw [hInv.kept.entries_of_first hFirst]
      exact List.mem_cons_of_mem _ hEntry

/-- A step without the expiry of a periodical timer keeps them all. -/
theorem PeriodicalsActive.step (hActive : PeriodicalsActive history s)
    (hKept : s.WellKept) (hNoExpiry : NoPeriodicalExpiry s action)
    (moves : Moves s action t new) : PeriodicalsActive (history ++ new) t := by
  cases moves with
  | startRefused hRefused hCalls _ =>
      rw [PeriodicalsActive, Periodicals.ofHistory_calls _ hCalls,
        Periodicals.observe_started_refused _ hRefused]
      exact hActive
  | @started kind _ _ timeout timer _ _ _ _ hCalls _ _ _ _ _ =>
      rw [PeriodicalsActive, Periodicals.ofHistory_calls _ hCalls]
      intro other interval hRunning
      have hOld : Periodicals.ofHistory history other = some interval →
          ∃ entry ∈ (s.activeTimers.emplace (expiredDate s.now timeout)
            (launchedTimer timeout timer kind)).entries,
            entry.2.id = other ∧ entry.2.periodicalInterval = some interval := by
        intro hBefore
        obtain ⟨entry, hEntry, hMatches⟩ := hActive other interval hBefore
        exact ⟨entry, OrderedMultimap.mem_emplace.mpr (Or.inr hEntry), hMatches⟩
      cases kind with
      | oneShot => exact hOld hRunning
      | periodical =>
          rw [Periodicals.observe_periodical] at hRunning
          by_cases hOther : other = timer
          · rw [if_pos hOther] at hRunning
            refine ⟨_, OrderedMultimap.mem_emplace.mpr (Or.inl rfl), ?_, hRunning⟩
            rw [launchedTimer_id, hOther]
          · rw [if_neg hOther] at hRunning
            exact hOld hRunning
  | cancelRefused hRefused _ =>
      rw [← List.nil_append [Output.cancelled _ _], PeriodicalsActive,
        Periodicals.ofHistory_calls _ onlySets_nil,
        Periodicals.observe_cancelled_refused _ hRefused]
      exact hActive
  | @cancelled _ _ timer before after found _ _ hCalls _ hEntries hErased hFound _ =>
      rw [PeriodicalsActive, Periodicals.ofHistory_calls _ hCalls]
      intro other interval hRunning
      rw [Periodicals.observe_cancelled] at hRunning
      by_cases hOther : other = timer
      · rw [if_pos hOther] at hRunning
        cases hRunning
      · rw [if_neg hOther] at hRunning
        obtain ⟨entry, hEntry, hId, hInterval⟩ := hActive other interval hRunning
        refine ⟨entry, ?_, hId, hInterval⟩
        rw [hEntries] at hEntry
        rw [hErased]
        rcases List.mem_append.mp hEntry with hLeft | hRight
        · exact List.mem_append_left _ hLeft
        · rcases List.mem_cons.mp hRight with rfl | hRight
          · exact absurd (hId.symm.trans hFound) hOther
          · exact List.mem_append_right _ hRight
  | readFailed => exact (List.append_nil history).symm ▸ hActive
  | nothingActive => exact (List.append_nil history).symm ▸ hActive
  | elapsed => exact (List.append_nil history).symm ▸ hActive
  | expired _ hFirst =>
      intro other interval hRunning
      rw [Periodicals.ofHistory_append] at hRunning
      obtain ⟨entry, hEntry, hId, hInterval⟩ := hActive other interval hRunning
      refine ⟨entry, ?_, hId, hInterval⟩
      rw [hKept.entries_of_first hFirst] at hEntry
      rcases List.mem_cons.mp hEntry with rfl | hRest
      · have hNone := hNoExpiry rfl _ hFirst
        rw [hNone] at hInterval
        cases hInterval
      · exact hRest

/-- The expiry of a periodical timer drops it. -/
theorem IntervalsKnown.dropped (hInv : IntervalsKnown history s)
    (hExpiry : ¬ NoPeriodicalExpiry s action) (moves : Moves s action t new) :
    ¬ PeriodicalsActive (history ++ new) t := by
  cases moves with
  | @expired succeeds date tmoObj _ hFirst =>
      -- its interval was recorded at the start, but its entry is gone
      intro hActive
      obtain ⟨interval, hInterval⟩ : ∃ interval,
          tmoObj.periodicalInterval = some interval := by
        by_contra hNever
        apply hExpiry
        intro _ first hMem
        rw [hFirst] at hMem
        obtain rfl := Option.some.inj hMem
        exact Option.eq_none_iff_forall_not_mem.mpr fun interval hSome =>
          hNever ⟨interval, hSome⟩
      have hEntries := hInv.kept.entries_of_first hFirst
      have hRunning := hInv.known _ (OrderedMultimap.mem_of_first? hFirst) interval hInterval
      obtain ⟨entry, hEntry, hId, -⟩ := hActive tmoObj.id interval (by
        rw [Periodicals.ofHistory_append]
        exact hRunning)
      have hOther : entry ∈ [] ++ (s.afterExpiry tmoObj).entries := hEntry
      exact hInv.kept.id_ne hEntries hOther hId
  | readFailed => exact absurd (fun hRead => by cases hRead) hExpiry
  | nothingActive _ hNone =>
      refine absurd (fun _ first hMem => ?_) hExpiry
      rw [hNone] at hMem
      cases hMem
  | startRefused | started | cancelRefused | cancelled | elapsed =>
      exact absurd trivial hExpiry

end Steps

/-- In every run, whatever the system calls answer: all periodical timers keep
their entries in every state, and each expiry of one inserts it again, exactly
if no step of the run lets a timer of `startPeriodicalTimer` expire. -/
theorem run_keeps_periodicals_iff {steps : List (TimerManagerImpl × Action)}
    {history : List Output} {s : TimerManagerImpl}
    (run : timerSystem.Run steps history s) :
    timerSystem.Always PeriodicalsActive ExpiresPeriodically steps history s ↔
      EveryStep NoPeriodicalExpiry steps := by
  refine run.always_iff_everyStep IntervalsKnown ?_ ?_ ?_
  · rintro s ⟨threadId, now, rfl⟩
    exact ⟨⟨TimerManagerImpl.wellKept_construct threadId now,
      by simp [TimerManagerImpl.construct]⟩, by
        intro timer interval hRunning
        cases hRunning⟩
  · intro history s action t new hInv _ hStep _ _
    exact hInv.step (TimerManagerImpl.moves_of_step hStep)
  · intro history s action t new hInv hActive hStep
    have moves := TimerManagerImpl.moves_of_step hStep
    constructor
    · rintro ⟨-, hNext⟩
      by_contra hExpiry
      exact hInv.dropped hExpiry moves hNext
    · intro hNoExpiry
      refine ⟨?_, hActive.step hInv.kept hNoExpiry moves⟩
      rintro succeeds date tmoObj interval rfl hFirst hInterval
      have hNone := hNoExpiry rfl _ hFirst
      rw [hNone] at hInterval
      cases hInterval

/-- A periodical timer is cancelled after a timer of `startTimer` expired. -/
def cancelledInTime : List Action :=
  [.start .periodical 0 ⟨3, true, true, true⟩ 10 (1, 7),
    .start .oneShot 0 ⟨-1, true, true, true⟩ 4 (2, 7),
    .elapse 4000000,
    .onTimerExpired true true,
    .cancelTimer 0 true (1, 7)]

/-- The expiry of another timer does no harm. -/
theorem cancelledInTime_kept : ∃ steps s,
    timerSystem.Always PeriodicalsActive ExpiresPeriodically steps
      [.timerFdSetTime ⟨0, 0⟩ true, .timerFdSetTime ⟨0, 10000000⟩ true,
        .started .periodical (1, 7) 0 10 .normal, .timerFdSetTime ⟨0, 4000000⟩ true,
        .started .oneShot (2, 7) 0 4 .normal, .timerFdSetTime ⟨0, 10000000⟩ true,
        .handleTimerExpired (2, 7) 4000000, .timerFdSetTime ⟨0, 0⟩ true,
        .cancelled (1, 7) .normal] s :=
  ⟨_, _, (run_keeps_periodicals_iff
    (run_of_replay (.construct 0 0) cancelledInTime ⟨0, 0, rfl⟩ rfl)).mpr (by decide)⟩

/-- A periodical timer of 10 ms expires. -/
def expiresOnce : List Action :=
  [.start .periodical 0 ⟨3, true, true, true⟩ 10 (1, 7),
    .elapse 10000000,
    .onTimerExpired true true]

/-- What is observed of `expiresOnce`. -/
def expiresOnceHistory : List Output :=
  [.timerFdSetTime ⟨0, 0⟩ true, .timerFdSetTime ⟨0, 10000000⟩ true,
    .started .periodical (1, 7) 0 10 .normal, .timerFdSetTime ⟨0, 0⟩ true,
    .handleTimerExpired (1, 7) 10000000]

/-- The manager after `expiresOnce`: without timers, its kernel timer disarmed. -/
def afterExpiresOnce : TimerManagerImpl where
  threadId := 0
  timerFd := 3
  activeTimers := .empty
  kernelTimer := .disarmed
  now := 10000000

/-- After its first expiry a periodical timer is gone, although no system call
failed. -/
theorem expiresOnce_not_active :
    (∃ steps, timerSystem.Run steps expiresOnceHistory afterExpiresOnce ∧
      EveryStep SetTimeSucceeds steps ∧ EveryStep PositiveDeadline steps ∧
      EveryStep ReadNeedsTick steps) ∧
    ¬ PeriodicalsActive expiresOnceHistory afterExpiresOnce := by
  constructor
  · exact ⟨_, run_of_replay (.construct 0 0) expiresOnce ⟨0, 0, rfl⟩ rfl,
      by decide, by decide, by decide⟩
  · intro hActive
    obtain ⟨entry, hEntry, -⟩ := hActive (1, 7) 10 rfl
    cases hEntry

end Timer
end UtilsFramework
