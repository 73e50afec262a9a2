import UtilsFramework.Library.Agenda
import UtilsFramework.Timer.EarlyExpiry

/-!
# Timers expire in the order of their deadlines

The manager is an agenda: starts are admissions, cancels withdrawals, and an
expiry serves the first entry, which no tick lets it do too early.  The multimap
with the numbers of the starts is what waits, and the calls of the subscribers
are what has been served.  An agenda carries the proof that entries are served
by deadline and, among equal deadlines, in the order of their tickets, and so
the calls of the subscribers are in this order.
-/

namespace UtilsFramework
namespace Timer

open Library
open Library.TransitionSystem

/-- By deadline, and by the order of the starts among equal deadlines. -/
def Launch.Precedes (earlier later : Launch) : Prop :=
  earlier.deadline < later.deadline ∨
    (earlier.deadline = later.deadline ∧ earlier.index < later.index)

/-- The start behind an entry of the agenda. -/
def launchOf (entry : AgendaEntry Int TimerObject) : Launch where
  deadline := entry.1
  index := entry.2.2

/-- No start has a negative timeout. -/
def NonNegativeTimeout (_ : TimerManagerImpl) : Action → Prop
  | .start _ _ _ timeout _ => 0 ≤ timeout
  | _ => True

instance (s : TimerManagerImpl) (action : Action) :
    Decidable (NonNegativeTimeout s action) :=
  match action with
  | .start _ _ _ timeout _ => inferInstanceAs (Decidable (0 ≤ timeout))
  | .cancelTimer _ _ _ | .onTimerExpired _ _ | .elapse _ => isTrue trivial

/-- The agenda that a run of the manager carries out. -/
structure CarriesOut (history : List Output) (s : TimerManagerImpl)
    (agenda : Agenda Int TimerObject) : Prop where
  onTime : OnTimeRun history s agenda.waiting
  now_eq : agenda.now = s.now
  issued_eq : agenda.issued = (Ledger.ofHistory history).launched
  served_eq : (Ledger.ofHistory history).fired.map Prod.fst =
    agenda.served.map fun entry => some (launchOf entry)

theorem TimerManagerImpl.Moves.now_le {s t : TimerManagerImpl} {action : Action}
    {new : List Output} (moves : TimerManagerImpl.Moves s action t new) :
    s.now ≤ t.now := by
  cases moves with
  | elapsed hLater => exact hLater
  | startRefused | started | cancelRefused | cancelled | readFailed | nothingActive
  | expired => exact le_refl s.now

theorem carriesOut_construct (threadId : ThreadId) (now : Int) :
    CarriesOut [] (.construct threadId now) (.start now) where
  onTime :=
    { kept := TimerManagerImpl.wellKept_construct threadId now
      onTime := TimerManagerImpl.onTime_construct threadId now
      recorded := recorded_construct threadId now }
  now_eq := rfl
  issued_eq := rfl
  served_eq := rfl

/-- Every step of the manager is a step of the agenda, after which time may have
passed. -/
theorem CarriesOut.step {history new : List Output} {s t : TimerManagerImpl}
    {action : Action} {agenda : Agenda Int TimerObject}
    (hCarries : CarriesOut history s agenda) (hStep : StepOnTime s action)
    (hTimeout : NonNegativeTimeout s action)
    (moves : TimerManagerImpl.Moves s action t new) :
    ∃ agenda', CarriesOut (history ++ new) t agenda' := by
  obtain ⟨waiting', hNext, hBooked⟩ := hCarries.onTime.step hStep moves
  have hLater : agenda.now ≤ t.now := hCarries.now_eq.le.trans moves.now_le
  cases hBooked with
  | unchanged hLaunched hFired =>
      refine ⟨agenda.elapse t.now hLater, hNext, rfl, ?_, ?_⟩
      · rw [hLaunched]
        exact hCarries.issued_eq
      · rw [hFired]
        exact hCarries.served_eq
  | @admitted kind _ _ timeout timer hAction hLaunched hFired =>
      subst hAction
      have hDeadline : agenda.now ≤ deadlineOf s.now timeout := by
        have hNonNegative : 0 ≤ timeout := hTimeout
        rw [hCarries.now_eq, deadlineOf]
        omega
      rw [← hCarries.issued_eq] at hNext
      refine ⟨(agenda.enter (deadlineOf s.now timeout)
        (TimerManagerImpl.launchedTimer timeout timer kind) hDeadline).elapse t.now hLater,
        hNext, rfl, ?_, ?_⟩
      · rw [hLaunched, ← hCarries.issued_eq]
        rfl
      · rw [hFired]
        exact hCarries.served_eq
  | @withdrawn position hLaunched hFired =>
      refine ⟨(agenda.withdraw position).elapse t.now hLater, hNext, rfl, ?_, ?_⟩
      · rw [hLaunched]
        exact hCarries.issued_eq
      · rw [hFired]
        exact hCarries.served_eq
  | @served succeeds entry hAction hFirst hLaunched hFired =>
      subst hAction
      have hReached : entry.1 ≤ agenda.now := by
        rw [hCarries.now_eq]
        exact hCarries.onTime.reached hStep.2.1 hFirst
      refine ⟨(agenda.serve entry hFirst hReached).elapse t.now hLater, hNext, rfl, ?_, ?_⟩
      · rw [hLaunched]
        exact hCarries.issued_eq
      · rw [hFired, List.map_append, hCarries.served_eq]
        show _ = (agenda.served ++ [entry]).map _
        rw [List.map_append]
        rfl

/-- A run in which every step keeps every expiry on time carries out an agenda. -/
theorem carriesOut_of_run {steps : List (TimerManagerImpl × Action)}
    {history : List Output} {s : TimerManagerImpl}
    (run : timerSystem.Run steps history s)
    (hGuard : EveryStep
      (fun s action => StepOnTime s action ∧ NonNegativeTimeout s action) steps) :
    ∃ agenda, CarriesOut history s agenda := by
  refine run.invariant _ (fun history s => ∃ agenda, CarriesOut history s agenda) ?_ ?_
    hGuard
  · rintro s ⟨threadId, now, rfl⟩
    exact ⟨_, carriesOut_construct threadId now⟩
  · rintro history s action t new ⟨agenda, hCarries⟩ ⟨hOnTime, hTimeout⟩ hStep
    exact hCarries.step hOnTime hTimeout (TimerManagerImpl.moves_of_step hStep)

/-- A re-arm that succeeds leaves nothing behind. -/
theorem SetTimeSucceeds.cancelOnTime {s : TimerManagerImpl} {action : Action}
    (hSucceeds : SetTimeSucceeds s action) : s.CancelOnTime action := by
  cases action with
  | cancelTimer caller succeeds timer =>
      intro _ hFails
      have hTrue : succeeds = true := hSucceeds
      rw [hTrue] at hFails
      cases hFails
  | start | onTimerExpired | elapse => trivial

/-- In every run with non-negative timeouts and deadlines in range, in which
`timerfd_settime` succeeds and a tick is read only when one is pending, the
calls of the subscribers end running starts in the order of their deadlines,
and in the order in which they were started where the deadlines are equal. -/
theorem run_expires_in_order {steps : List (TimerManagerImpl × Action)}
    {history : List Output} {s : TimerManagerImpl}
    (run : timerSystem.Run steps history s)
    (hTimeouts : EveryStep NonNegativeTimeout steps)
    (hDeadlines : EveryStep DeadlineInRange steps)
    (hSetTime : EveryStep SetTimeSucceeds steps)
    (hReads : EveryStep ReadNeedsTick steps) :
    ∃ launches : List Launch,
      (Ledger.ofHistory history).fired.map Prod.fst = launches.map some ∧
        launches.Pairwise Launch.Precedes := by
  obtain ⟨agenda, hCarries⟩ := carriesOut_of_run run fun visited hVisited =>
    ⟨⟨hDeadlines visited hVisited, hReads visited hVisited,
      (hSetTime visited hVisited).cancelOnTime⟩, hTimeouts visited hVisited⟩
  refine ⟨agenda.served.map launchOf, ?_, ?_⟩
  · rw [hCarries.served_eq, List.map_map]
    rfl
  · rw [List.pairwise_map]
    exact agenda.served_ordered

/-- Two timers of 10 ms, then one of 4 ms; all three expire. -/
def threeTimers : List Action :=
  [.start .oneShot 0 ⟨3, true, true, true⟩ 10 (1, 7),
    .start .oneShot 0 ⟨-1, true, true, true⟩ 10 (2, 7),
    .start .oneShot 0 ⟨-1, true, true, true⟩ 4 (3, 7),
    .elapse 20000000,
    .onTimerExpired true true,
    .onTimerExpired true true,
    .onTimerExpired true true]

/-- What is observed of `threeTimers`. -/
def threeTimersHistory : List Output :=
  [.timerFdSetTime ⟨0, 0⟩ true, .timerFdSetTime ⟨0, 10000000⟩ true,
    .started .oneShot (1, 7) 0 10 .normal, .started .oneShot (2, 7) 0 10 .normal,
    .timerFdSetTime ⟨0, 4000000⟩ true, .started .oneShot (3, 7) 0 4 .normal,
    .timerFdSetTime ⟨0, 10000000⟩ true, .handleTimerExpired (3, 7) 20000000,
    .timerFdSetTime ⟨0, 10000000⟩ true, .handleTimerExpired (1, 7) 20000000,
    .timerFdSetTime ⟨0, 0⟩ true, .handleTimerExpired (2, 7) 20000000]

/-- The last start is served first, the other two as they were started. -/
theorem threeTimers_in_order : ∃ launches : List Launch,
    (Ledger.ofHistory threeTimersHistory).fired.map Prod.fst = launches.map some ∧
      launches.Pairwise Launch.Precedes :=
  run_expires_in_order
    (run_of_replay (.construct 0 0) threeTimers ⟨0, 0, rfl⟩ rfl)
    (by decide) (by decide) (by decide) (by decide)

end Timer
end UtilsFramework
