import UtilsFramework.Library.OrderedMultimap
import UtilsFramework.Library.SteadyClock
import UtilsFramework.Library.Timerfd
import UtilsFramework.Library.TransitionSystem

/-!
# The timer manager

`TimerManagerImpl` keeps all timers of a thread in one multimap from expiry
dates to `TimerObject`s and serves them through a single timerfd.  This file
embeds `startTimer`, `startPeriodicalTimer`, `cancelTimer` and
`onTimerExpired`, puts them together as one step function, and states in
`Moves` what a step can do.

Every operation runs to its end before user code runs again: in
`onTimerExpired` the call of the subscriber is the last action.  The calls a
subscriber makes from `handleTimerExpired`, and those of other callbacks of
the same epoll batch, are therefore further steps.  The outcome of every system
call is an argument, and time passes in steps of its own.
-/

namespace UtilsFramework
namespace Timer

open Library

abbrev ThreadId := Nat
/-- The address of an `ITimerSubscriber`. -/
abbrev Subscriber := Nat
abbrev UserId := BitVec 32
/-- What the manager tells timers apart by. -/
abbrev TimerId := Subscriber × UserId

inductive ReturnCode
  | normal
  | alreadyExists
  | notFound
  | invalidArg
  | notThreadLocal
  | internalFault
deriving DecidableEq, Repr

/-- `periodicalInterval` is `none` where the source leaves it uninitialized;
a periodical timer has an interval. -/
structure TimerObject where
  subscriber : Subscriber
  userId : UserId
  isPeriodical : Bool
  periodicalInterval : Option Int
  interval_of_periodical : isPeriodical = true → periodicalInterval.isSome = true
deriving DecidableEq

namespace TimerObject

def id (tmoObj : TimerObject) : TimerId := (tmoObj.subscriber, tmoObj.userId)

/-- The test of the search loops in `cancelTimer` and `launchNewTimer`. -/
def isFor (subscriber : Subscriber) (userId : UserId) (tmoObj : TimerObject) : Bool :=
  tmoObj.subscriber == subscriber && tmoObj.userId == userId

theorem isFor_iff {subscriber : Subscriber} {userId : UserId} {tmoObj : TimerObject} :
    tmoObj.isFor subscriber userId = true ↔ tmoObj.id = (subscriber, userId) := by
  simp [isFor, id]

end TimerObject

/-- `steady_clock::now() + timeout` for a timeout in milliseconds. -/
def expiredDate (now timeout : Int) : Int := dateAfter 1000000 now timeout

/-- The `it_value` for a date: `time_point_cast` to seconds truncates. -/
def itValue (date : Int) : Timespec where
  tvSec := date.tdiv 1000000000
  tvNsec := date - date.tdiv 1000000000 * 1000000000

@[simp]
theorem nanoseconds_itValue (date : Int) : (itValue date).nanoseconds = date := by
  simp [itValue, Timespec.nanoseconds]

theorem itValue_eq_zero {date : Int} : itValue date = ⟨0, 0⟩ ↔ date = 0 := by
  constructor
  · intro hZero
    rw [← nanoseconds_itValue date, hZero]
    rfl
  · rintro rfl
    rfl

/-- The members of `TimerManagerImpl`, the kernel timer that `m_timerFd` refers
to, and the clock. -/
structure TimerManagerImpl where
  threadId : ThreadId
  timerFd : Int
  activeTimers : OrderedMultimap Int TimerObject
  kernelTimer : Timerfd
  now : Int
deriving DecidableEq

/-- The outcomes of the system calls one operation may make: the descriptor
`timerfd_create` returns (`-1` on failure), the `timerfd_settime` of
`createTimerFd`, `addFdHandler`, and the `timerfd_settime` of `setTimerFd`. -/
structure Syscalls where
  timerFdCreate : Int
  repossessSucceeds : Bool
  addFdHandlerSucceeds : Bool
  timerFdSetTimeSucceeds : Bool
deriving DecidableEq, Repr

/-- Which of the two start functions was called. -/
inductive TimerKind
  | oneShot
  | periodical
deriving DecidableEq, Repr

inductive Action
  | start (kind : TimerKind) (caller : ThreadId) (syscalls : Syscalls)
      (timeout : Int) (timer : TimerId)
  | cancelTimer (caller : ThreadId) (timerFdSetTimeSucceeds : Bool) (timer : TimerId)
  | onTimerExpired (readSucceeds timerFdSetTimeSucceeds : Bool)
  | elapse (later : Int)
deriving DecidableEq, Repr

/-- `started` and `cancelled` are the returns of the interface, with the clock
at the call where it matters; `handleTimerExpired` is the call of a subscriber. -/
inductive Output
  | timerFdSetTime (value : Timespec) (succeeded : Bool)
  | started (kind : TimerKind) (timer : TimerId) (now timeout : Int) (rc : ReturnCode)
  | cancelled (timer : TimerId) (rc : ReturnCode)
  | handleTimerExpired (timer : TimerId) (now : Int)
deriving DecidableEq, Repr

namespace TimerManagerImpl

/-- The constructor, on the thread that owns the instance. -/
def construct (threadId : ThreadId) (now : Int) : TimerManagerImpl where
  threadId := threadId
  timerFd := -1
  activeTimers := .empty
  kernelTimer := .disarmed
  now := now

/-- The system call; a failed one leaves the kernel timer as it was. -/
def timerFdSetTime (manager : TimerManagerImpl) (value : Timespec) (succeeds : Bool) :
    Bool × TimerManagerImpl × List Output :=
  if succeeds then
    (true, { manager with kernelTimer := .setTime manager.now value },
      [.timerFdSetTime value true])
  else (false, manager, [.timerFdSetTime value false])

def repossessTimerFd (manager : TimerManagerImpl) (succeeds : Bool) :
    TimerManagerImpl × List Output :=
  (manager.timerFdSetTime ⟨0, 0⟩ succeeds).2

def setTimerFd (manager : TimerManagerImpl) (succeeds : Bool) :
    Bool × TimerManagerImpl × List Output :=
  match manager.activeTimers.first? with
  | some (expiredDate, _) => manager.timerFdSetTime (itValue expiredDate) succeeds
  | none => (true, manager.repossessTimerFd succeeds)

/-- The descriptor, or `-1`, with the manager whose kernel timer it is. -/
def createTimerFd (manager : TimerManagerImpl) (syscalls : Syscalls) :
    Int × TimerManagerImpl × List Output :=
  let fd := syscalls.timerFdCreate
  if fd ≠ -1 then
    let (created, calls) :=
      { manager with kernelTimer := .disarmed }.repossessTimerFd
        syscalls.repossessSucceeds
    if syscalls.addFdHandlerSucceeds then (fd, created, calls)
    -- the new descriptor is closed again
    else (-1, manager, calls)
  else (-1, manager, [])

/-- The lazy creation of the timerfd in `launchNewTimer`. -/
def ensureTimerFd (manager : TimerManagerImpl) (syscalls : Syscalls) :
    TimerManagerImpl × List Output :=
  if manager.timerFd = -1 then
    let (fd, created, calls) := manager.createTimerFd syscalls
    ({ created with timerFd := fd }, calls)
  else (manager, [])

def launchNewTimer (manager : TimerManagerImpl) (caller : ThreadId)
    (syscalls : Syscalls) (tmoObj : TimerObject) (timeout : Int) :
    ReturnCode × TimerManagerImpl × List Output :=
  if caller ≠ manager.threadId then (.notThreadLocal, manager, [])
  else if (manager.activeTimers.findPosition
      (TimerObject.isFor tmoObj.subscriber tmoObj.userId)).isSome then
    (.alreadyExists, manager, [])
  else
    let (manager, calls) := manager.ensureTimerFd syscalls
    if manager.timerFd = -1 then (.internalFault, manager, calls)
    else
      let date := expiredDate manager.now timeout
      let insertedAt := manager.activeTimers.upperBound date
      let manager :=
        { manager with activeTimers := manager.activeTimers.emplace date tmoObj }
      if insertedAt = 0 then
        let (armed, manager, armCalls) :=
          manager.setTimerFd syscalls.timerFdSetTimeSucceeds
        if armed then (.normal, manager, calls ++ armCalls)
        else
          -- erases by key, not the inserted entry
          (.internalFault,
            { manager with activeTimers := manager.activeTimers.eraseKey date },
            calls ++ armCalls)
      else (.normal, manager, calls)

/-- The object `startTimer` launches. -/
def oneShotTimer (timer : TimerId) : TimerObject where
  subscriber := timer.1
  userId := timer.2
  isPeriodical := false
  periodicalInterval := none
  interval_of_periodical := by simp

/-- The object `startPeriodicalTimer` launches; it clears `isPeriodical`. -/
def periodicalTimer (interval : Int) (timer : TimerId) : TimerObject where
  subscriber := timer.1
  userId := timer.2
  isPeriodical := false
  periodicalInterval := some interval
  interval_of_periodical := by simp

def startTimer (manager : TimerManagerImpl) (caller : ThreadId) (syscalls : Syscalls)
    (timeout : Int) (timer : TimerId) : ReturnCode × TimerManagerImpl × List Output :=
  manager.launchNewTimer caller syscalls (oneShotTimer timer) timeout

def startPeriodicalTimer (manager : TimerManagerImpl) (caller : ThreadId)
    (syscalls : Syscalls) (interval : Int) (timer : TimerId) :
    ReturnCode × TimerManagerImpl × List Output :=
  manager.launchNewTimer caller syscalls (periodicalTimer interval timer) interval

def cancelTimer (manager : TimerManagerImpl) (caller : ThreadId)
    (timerFdSetTimeSucceeds : Bool) (timer : TimerId) :
    ReturnCode × TimerManagerImpl × List Output :=
  if caller ≠ manager.threadId then (.notThreadLocal, manager, [])
  else
    match manager.activeTimers.findPosition (TimerObject.isFor timer.1 timer.2) with
    | some position =>
        let manager :=
          { manager with activeTimers := manager.activeTimers.eraseAt position }
        -- the successor of the erased entry is at the beginning
        if position = 0 then
          -- whether it was armed again does not matter to the caller
          (.normal, (manager.setTimerFd timerFdSetTimeSucceeds).2)
        else (.normal, manager, [])
    | none => (.notFound, manager, [])

/-- The multimap after `onTimerExpired` has handled its first entry. -/
def afterExpiry (manager : TimerManagerImpl) (tmoObj : TimerObject) :
    OrderedMultimap Int TimerObject :=
  let remaining := manager.activeTimers.eraseAt 0
  if hPeriodical : tmoObj.isPeriodical = true then
    let interval :=
      tmoObj.periodicalInterval.get (tmoObj.interval_of_periodical hPeriodical)
    remaining.emplace (expiredDate manager.now interval) tmoObj
  else remaining

def onTimerExpired (manager : TimerManagerImpl) (readSucceeds : Bool)
    (timerFdSetTimeSucceeds : Bool) : TimerManagerImpl × List Output :=
  if readSucceeds then
    let manager := { manager with kernelTimer := manager.kernelTimer.read }
    match manager.activeTimers.first? with
    -- its date is not compared with the clock
    | some (_, tmoObj) =>
        let manager := { manager with activeTimers := manager.afterExpiry tmoObj }
        let (_, manager, calls) := manager.setTimerFd timerFdSetTimeSucceeds
        (manager, calls ++ [.handleTimerExpired tmoObj.id manager.now])
    | none => (manager, [])
  else (manager, [])

def step (manager : TimerManagerImpl) : Action → Option (TimerManagerImpl × List Output)
  | .start kind caller syscalls timeout timer =>
      let (rc, next, calls) :=
        match kind with
        | .oneShot => manager.startTimer caller syscalls timeout timer
        | .periodical => manager.startPeriodicalTimer caller syscalls timeout timer
      some (next, calls ++ [.started kind timer manager.now timeout rc])
  | .cancelTimer caller timerFdSetTimeSucceeds timer =>
      let (rc, next, calls) := manager.cancelTimer caller timerFdSetTimeSucceeds timer
      some (next, calls ++ [.cancelled timer rc])
  | .onTimerExpired readSucceeds timerFdSetTimeSucceeds =>
      -- the handler is registered once the descriptor exists
      if manager.timerFd ≠ -1 then
        some (manager.onTimerExpired readSucceeds timerFdSetTimeSucceeds)
      else none
  | .elapse later =>
      if manager.now ≤ later then
        some ({ manager with
          now := later
          kernelTimer := manager.kernelTimer.settle later }, [])
      else none

/-! ## What a step can do -/

/-- The value `setTimerFd` passes: the first date, or zero without timers. -/
def armValue (timers : OrderedMultimap Int TimerObject) : Timespec :=
  match timers.first? with
  | some (expiredDate, _) => itValue expiredDate
  | none => ⟨0, 0⟩

/-- The kernel timer after a `timerfd_settime` for these timers. -/
def rearmed (timers : OrderedMultimap Int TimerObject) (now : Int) (succeeds : Bool)
    (kernelTimer : Timerfd) : Timerfd :=
  if succeeds then .setTime now (armValue timers) else kernelTimer

/-- Only the kernel timer can change in `setTimerFd`, and its only failure is
that of the system call for a first timer. -/
theorem setTimerFd_eq (manager : TimerManagerImpl) (succeeds : Bool) :
    manager.setTimerFd succeeds =
      (succeeds || manager.activeTimers.first?.isNone,
        { manager with
          kernelTimer :=
            rearmed manager.activeTimers manager.now succeeds manager.kernelTimer },
        [.timerFdSetTime (armValue manager.activeTimers) succeeds]) := by
  unfold setTimerFd armValue rearmed
  cases hFirst : manager.activeTimers.first? with
  | none => cases succeeds <;> simp [repossessTimerFd, timerFdSetTime, armValue, hFirst]
  | some entry => cases succeeds <;> simp [timerFdSetTime, armValue, hFirst]

/-- All observations are calls of `timerfd_settime`. -/
def OnlySets (calls : List Output) : Prop :=
  ∀ output ∈ calls, ∃ value succeeded, output = .timerFdSetTime value succeeded

theorem onlySets_nil : OnlySets [] := by
  simp [OnlySets]

theorem OnlySets.append_set {calls : List Output} (hOnly : OnlySets calls)
    (value : Timespec) (succeeded : Bool) :
    OnlySets (calls ++ [.timerFdSetTime value succeeded]) := by
  intro output hOutput
  rcases List.mem_append.mp hOutput with hOutput | hOutput
  · exact hOnly output hOutput
  · exact ⟨value, succeeded, List.mem_singleton.mp hOutput⟩

/-- Who ignores these calls learns nothing from them. -/
theorem OnlySets.foldl_eq {Knowledge : Type} {observe : Knowledge → Output → Knowledge}
    (hIgnores : ∀ known value succeeded,
      observe known (.timerFdSetTime value succeeded) = known)
    {calls : List Output} (hOnly : OnlySets calls) (known : Knowledge) :
    calls.foldl observe known = known := by
  induction calls with
  | nil => rfl
  | cons call rest ih =>
      obtain ⟨value, succeeded, rfl⟩ := hOnly call List.mem_cons_self
      rw [List.foldl_cons, hIgnores]
      exact ih fun output hOutput => hOnly output (List.mem_cons_of_mem _ hOutput)

/-- `m_timerFd` and its kernel timer are as before, or freshly created. -/
def TimerFdKept (manager : TimerManagerImpl) (fd : Int) (kernelTimer : Timerfd) : Prop :=
  (fd = manager.timerFd ∧ kernelTimer = manager.kernelTimer) ∨
    (manager.timerFd = -1 ∧ fd ≠ -1 ∧ kernelTimer = .disarmed)

theorem createTimerFd_cases {manager next : TimerManagerImpl} {syscalls : Syscalls}
    {fd : Int} {calls : List Output}
    (hCreate : manager.createTimerFd syscalls = (fd, next, calls)) :
    OnlySets calls ∧
      ((fd = -1 ∧ next = manager) ∨
        (fd ≠ -1 ∧ fd = syscalls.timerFdCreate ∧ syscalls.addFdHandlerSucceeds = true ∧
          next = { manager with kernelTimer := .disarmed })) := by
  have hSet : ∀ succeeds, { manager with kernelTimer := .disarmed }.repossessTimerFd
      succeeds = ({ manager with kernelTimer := .disarmed },
        [.timerFdSetTime ⟨0, 0⟩ succeeds]) := by
    intro succeeds
    cases succeeds <;> rfl
  have hOnly : OnlySets [.timerFdSetTime ⟨0, 0⟩ syscalls.repossessSucceeds] :=
    onlySets_nil.append_set _ _
  simp only [createTimerFd, hSet] at hCreate
  split at hCreate
  · rename_i hFd
    split at hCreate
    · rename_i hAdded
      obtain ⟨rfl, rfl, rfl⟩ := by simpa using hCreate
      exact ⟨hOnly, Or.inr ⟨hFd, rfl, hAdded, rfl⟩⟩
    · obtain ⟨rfl, rfl, rfl⟩ := by simpa using hCreate
      exact ⟨hOnly, Or.inl ⟨rfl, rfl⟩⟩
  · obtain ⟨rfl, rfl, rfl⟩ := by simpa using hCreate
    exact ⟨onlySets_nil, Or.inl ⟨rfl, rfl⟩⟩

theorem ensureTimerFd_cases {manager next : TimerManagerImpl} {syscalls : Syscalls}
    {calls : List Output} (hEnsure : manager.ensureTimerFd syscalls = (next, calls)) :
    OnlySets calls ∧ ∃ fd kernelTimer, manager.TimerFdKept fd kernelTimer ∧
      (fd = manager.timerFd ∨
        (fd = syscalls.timerFdCreate ∧ syscalls.addFdHandlerSucceeds = true)) ∧
      next = { manager with timerFd := fd, kernelTimer := kernelTimer } := by
  unfold ensureTimerFd at hEnsure
  split at hEnsure
  · rename_i hNone
    cases hCreate : manager.createTimerFd syscalls with
    | mk fd rest =>
        obtain ⟨created, createCalls⟩ := rest
        obtain ⟨hOnly, hCases⟩ := createTimerFd_cases hCreate
        rw [hCreate] at hEnsure
        obtain ⟨rfl, rfl⟩ := Prod.mk.inj hEnsure
        refine ⟨hOnly, ?_⟩
        rcases hCases with ⟨rfl, rfl⟩ | ⟨hFd, hCreated, hAdded, rfl⟩
        · exact ⟨-1, created.kernelTimer, Or.inl ⟨hNone.symm, rfl⟩, Or.inl hNone.symm, rfl⟩
        · exact ⟨fd, .disarmed, Or.inr ⟨hNone, hFd, rfl⟩, Or.inr ⟨hCreated, hAdded⟩, rfl⟩
  · obtain ⟨rfl, rfl⟩ := Prod.mk.inj hEnsure
    exact ⟨onlySets_nil, manager.timerFd, manager.kernelTimer,
      Or.inl ⟨rfl, rfl⟩, Or.inl rfl, rfl⟩

/-- A search that finds nothing has seen no entry of the pair. -/
theorem ids_of_findPosition_none {timers : OrderedMultimap Int TimerObject}
    {timer : TimerId}
    (hNone : timers.findPosition (TimerObject.isFor timer.1 timer.2) = none) :
    ∀ entry ∈ timers.entries, entry.2.id ≠ timer := by
  intro entry hEntry hSame
  have hOther := OrderedMultimap.findPosition_none.mp hNone entry hEntry
  rw [TimerObject.isFor_iff.mpr hSame] at hOther
  cases hOther

/-- `setTimerFd` arms for a timer just inserted at the beginning. -/
theorem setTimerFd_of_inserted {manager : TimerManagerImpl}
    {timers : OrderedMultimap Int TimerObject} {date : Int} (tmoObj : TimerObject)
    (hZero : timers.upperBound date = 0)
    (hInserted : manager.activeTimers = timers.emplace date tmoObj) (succeeds : Bool) :
    manager.setTimerFd succeeds =
      (succeeds,
        { manager with
          kernelTimer :=
            if succeeds then .setTime manager.now (itValue date)
            else manager.kernelTimer },
        [.timerFdSetTime (itValue date) succeeds]) := by
  have hFirst : manager.activeTimers.first? = some (date, tmoObj) := by
    rw [hInserted]
    exact OrderedMultimap.first?_emplace_of_zero tmoObj hZero
  simp [setTimerFd_eq, armValue, rearmed, hFirst]

/-- `launchNewTimer` either reports an error and leaves the timers alone, also
where it inserted one and erased its key again, or inserts the new timer and,
if it is the first, has the kernel arm for it. -/
theorem launchNewTimer_cases {manager next : TimerManagerImpl} {caller : ThreadId}
    {syscalls : Syscalls} {tmoObj : TimerObject} {timeout : Int} {rc : ReturnCode}
    {calls : List Output}
    (hLaunch : manager.launchNewTimer caller syscalls tmoObj timeout =
      (rc, next, calls)) :
    OnlySets calls ∧ ∃ fd kept kernelTimer, manager.TimerFdKept fd kept ∧
      (fd = manager.timerFd ∨
        (fd = syscalls.timerFdCreate ∧ syscalls.addFdHandlerSucceeds = true)) ∧
      ((rc ≠ .normal ∧ kernelTimer = kept ∧
          next = { manager with timerFd := fd, kernelTimer := kernelTimer }) ∨
        (rc = .normal ∧ caller = manager.threadId ∧ fd ≠ -1 ∧
          (∀ entry ∈ manager.activeTimers.entries, entry.2.id ≠ tmoObj.id) ∧
          ((manager.activeTimers.upperBound (expiredDate manager.now timeout) = 0 ∧
              kernelTimer = .setTime manager.now
                (itValue (expiredDate manager.now timeout)) ∧
              .timerFdSetTime (itValue (expiredDate manager.now timeout)) true ∈ calls) ∨
            (manager.activeTimers.upperBound (expiredDate manager.now timeout) ≠ 0 ∧
              kernelTimer = kept)) ∧
          next = { manager with
            timerFd := fd
            kernelTimer := kernelTimer
            activeTimers := manager.activeTimers.emplace
              (expiredDate manager.now timeout) tmoObj })) := by
  have hUnchanged : manager.TimerFdKept manager.timerFd manager.kernelTimer :=
    Or.inl ⟨rfl, rfl⟩
  unfold launchNewTimer at hLaunch
  split at hLaunch
  · obtain ⟨rfl, rfl, rfl⟩ := by simpa using hLaunch
    exact ⟨onlySets_nil, _, _, _, hUnchanged, Or.inl rfl, Or.inl ⟨by decide, rfl, rfl⟩⟩
  rename_i hThread
  split at hLaunch
  · obtain ⟨rfl, rfl, rfl⟩ := by simpa using hLaunch
    exact ⟨onlySets_nil, _, _, _, hUnchanged, Or.inl rfl, Or.inl ⟨by decide, rfl, rfl⟩⟩
  rename_i hAbsent
  have hNew : ∀ entry ∈ manager.activeTimers.entries, entry.2.id ≠ tmoObj.id := by
    rw [Bool.not_eq_true, Option.isSome_eq_false_iff, Option.isNone_iff_eq_none] at hAbsent
    exact ids_of_findPosition_none hAbsent
  cases hEnsure : manager.ensureTimerFd syscalls with
  | mk ensured ensureCalls =>
      obtain ⟨hOnly, fd, kept, hKept, hOrigin, rfl⟩ := ensureTimerFd_cases hEnsure
      simp only [hEnsure] at hLaunch
      split at hLaunch
      · obtain ⟨rfl, rfl, rfl⟩ := by simpa using hLaunch
        exact ⟨hOnly, fd, kept, kept, hKept, hOrigin, Or.inl ⟨by decide, rfl, rfl⟩⟩
      rename_i hFd
      split at hLaunch
      · rename_i hZero
        simp only [setTimerFd_of_inserted tmoObj hZero] at hLaunch
        cases hSucceeds : syscalls.timerFdSetTimeSucceeds with
        | true =>
            rw [hSucceeds] at hLaunch
            obtain ⟨rfl, rfl, rfl⟩ := by simpa using hLaunch
            have hArmed : .timerFdSetTime (itValue (expiredDate manager.now timeout)) true ∈
                ensureCalls ++ [.timerFdSetTime _ true] :=
              List.mem_append_right _ List.mem_cons_self
            exact ⟨hOnly.append_set _ _, fd, kept, _, hKept, hOrigin, Or.inr ⟨rfl,
              by simpa using hThread, hFd, hNew, Or.inl ⟨hZero, rfl, hArmed⟩, rfl⟩⟩
        | false =>
            -- nothing else can have the key of an insertion at the beginning
            have hUndone := OrderedMultimap.eraseKey_emplace_of_zero tmoObj hZero
            simp only [hSucceeds, hUndone] at hLaunch
            obtain ⟨rfl, rfl, rfl⟩ := by simpa using hLaunch
            exact ⟨hOnly.append_set _ _, fd, kept, kept, hKept, hOrigin,
              Or.inl ⟨by decide, rfl, rfl⟩⟩
      · rename_i hLater
        obtain ⟨rfl, rfl, rfl⟩ := by simpa using hLaunch
        exact ⟨hOnly, fd, kept, kept, hKept, hOrigin, Or.inr ⟨rfl, by simpa using hThread,
          hFd, hNew, Or.inr ⟨hLater, rfl⟩, rfl⟩⟩

/-- The object a start function launches. -/
def launchedTimer (timeout : Int) (timer : TimerId) : TimerKind → TimerObject
  | .oneShot => oneShotTimer timer
  | .periodical => periodicalTimer timeout timer

@[simp]
theorem launchedTimer_id (timeout : Int) (timer : TimerId) (kind : TimerKind) :
    (launchedTimer timeout timer kind).id = timer := by
  cases kind <;> rfl

@[simp]
theorem launchedTimer_isPeriodical (timeout : Int) (timer : TimerId) (kind : TimerKind) :
    (launchedTimer timeout timer kind).isPeriodical = false := by
  cases kind <;> rfl

/-- The steps of the manager by what they do. -/
inductive Moves (s : TimerManagerImpl) :
    Action → TimerManagerImpl → List Output → Prop
  /-- A start that reports an error leaves the timers alone. -/
  | startRefused {kind : TimerKind} {caller : ThreadId} {syscalls : Syscalls}
      {timeout : Int} {timer : TimerId} {rc : ReturnCode} {fd : Int}
      {kernelTimer : Timerfd} {calls : List Output}
      (hRefused : rc ≠ .normal) (hCalls : OnlySets calls)
      (hKept : s.TimerFdKept fd kernelTimer) :
      Moves s (.start kind caller syscalls timeout timer)
        { s with timerFd := fd, kernelTimer := kernelTimer }
        (calls ++ [.started kind timer s.now timeout rc])
  /-- A successful start inserts an absent timer and arms for it if it is the
  first. -/
  | started {kind : TimerKind} {caller : ThreadId} {syscalls : Syscalls}
      {timeout : Int} {timer : TimerId} {fd : Int} {kept kernelTimer : Timerfd}
      {calls : List Output} (hCalls : OnlySets calls)
      (hKept : s.TimerFdKept fd kept) (hOwn : caller = s.threadId) (hFd : fd ≠ -1)
      (hNew : ∀ entry ∈ s.activeTimers.entries, entry.2.id ≠ timer)
      (hKernel :
        (s.activeTimers.upperBound (expiredDate s.now timeout) = 0 ∧
          kernelTimer = .setTime s.now (itValue (expiredDate s.now timeout))) ∨
        (s.activeTimers.upperBound (expiredDate s.now timeout) ≠ 0 ∧
          kernelTimer = kept)) :
      Moves s (.start kind caller syscalls timeout timer)
        { s with
          timerFd := fd
          kernelTimer := kernelTimer
          activeTimers := s.activeTimers.emplace (expiredDate s.now timeout)
            (launchedTimer timeout timer kind) }
        (calls ++ [.started kind timer s.now timeout .normal])
  | cancelRefused {caller : ThreadId} {succeeds : Bool} {timer : TimerId}
      {rc : ReturnCode} (hRefused : rc ≠ .normal)
      (hReason : caller ≠ s.threadId ∨
        ∀ entry ∈ s.activeTimers.entries, entry.2.id ≠ timer) :
      Moves s (.cancelTimer caller succeeds timer) s [.cancelled timer rc]
  /-- A successful cancel erases the timer and re-arms if it was the first. -/
  | cancelled {caller : ThreadId} {succeeds : Bool} {timer : TimerId}
      {before after : List (Int × TimerObject)} {found : Int × TimerObject}
      {kernelTimer : Timerfd} {calls : List Output} (hCalls : OnlySets calls)
      (hOwn : caller = s.threadId)
      (hEntries : s.activeTimers.entries = before ++ found :: after)
      (hErased : (s.activeTimers.eraseAt before.length).entries = before ++ after)
      (hFound : found.2.id = timer)
      (hKernel :
        (before = [] ∧ kernelTimer = rearmed (s.activeTimers.eraseAt before.length)
          s.now succeeds s.kernelTimer) ∨
        (before ≠ [] ∧ kernelTimer = s.kernelTimer)) :
      Moves s (.cancelTimer caller succeeds timer)
        { s with
          kernelTimer := kernelTimer
          activeTimers := s.activeTimers.eraseAt before.length }
        (calls ++ [.cancelled timer .normal])
  | readFailed {succeeds : Bool} (hFd : s.timerFd ≠ -1) :
      Moves s (.onTimerExpired false succeeds) s []
  | nothingActive {succeeds : Bool} (hFd : s.timerFd ≠ -1)
      (hNone : s.activeTimers.first? = none) :
      Moves s (.onTimerExpired true succeeds)
        { s with kernelTimer := s.kernelTimer.read } []
  /-- The first timer expires, whatever the clock says. -/
  | expired {succeeds : Bool} {date : Int} {tmoObj : TimerObject}
      (hFd : s.timerFd ≠ -1) (hFirst : s.activeTimers.first? = some (date, tmoObj)) :
      Moves s (.onTimerExpired true succeeds)
        { s with
          kernelTimer :=
            rearmed (s.afterExpiry tmoObj) s.now succeeds s.kernelTimer.read
          activeTimers := s.afterExpiry tmoObj }
        [.timerFdSetTime (armValue (s.afterExpiry tmoObj)) succeeds,
          .handleTimerExpired tmoObj.id s.now]
  | elapsed {later : Int} (hLater : s.now ≤ later) :
      Moves s (.elapse later)
        { s with now := later, kernelTimer := s.kernelTimer.settle later } []

/-- Both start functions are `launchNewTimer` on their object. -/
theorem moves_of_launch {s next : TimerManagerImpl} {kind : TimerKind}
    {caller : ThreadId} {syscalls : Syscalls} {timeout : Int} {timer : TimerId}
    {rc : ReturnCode} {calls : List Output}
    (hLaunch : s.launchNewTimer caller syscalls (launchedTimer timeout timer kind)
      timeout = (rc, next, calls)) :
    Moves s (.start kind caller syscalls timeout timer) next
      (calls ++ [.started kind timer s.now timeout rc]) := by
  obtain ⟨hCalls, fd, kept, kernelTimer, hKept, -, hCases⟩ := launchNewTimer_cases hLaunch
  rcases hCases with ⟨hRefused, rfl, rfl⟩ | ⟨rfl, hOwn, hFd, hNew, hKernel, rfl⟩
  · exact .startRefused hRefused hCalls hKept
  · rw [launchedTimer_id] at hNew
    exact .started hCalls hKept hOwn hFd hNew (hKernel.imp_left fun hArmed =>
      ⟨hArmed.1, hArmed.2.1⟩)

theorem moves_of_cancelTimer {s next : TimerManagerImpl} {caller : ThreadId}
    {succeeds : Bool} {timer : TimerId} {rc : ReturnCode} {calls : List Output}
    (hCancel : s.cancelTimer caller succeeds timer = (rc, next, calls)) :
    Moves s (.cancelTimer caller succeeds timer) next
      (calls ++ [.cancelled timer rc]) := by
  unfold cancelTimer at hCancel
  split at hCancel
  · rename_i hThread
    obtain ⟨rfl, rfl, rfl⟩ := by simpa using hCancel
    exact .cancelRefused (by decide) (Or.inl hThread)
  rename_i hThread
  have hOwn : caller = s.threadId := by simpa using hThread
  split at hCancel
  · rename_i position hPosition
    obtain ⟨before, found, after, hEntries, hErased, rfl, hTest, -⟩ :=
      OrderedMultimap.findPosition_some hPosition
    have hFound : found.2.id = timer := TimerObject.isFor_iff.mp hTest
    simp only [setTimerFd_eq] at hCancel
    split at hCancel
    · rename_i hZero
      obtain ⟨rfl, rfl, rfl⟩ := by simpa using hCancel
      exact .cancelled (onlySets_nil.append_set _ _) hOwn hEntries hErased hFound
        (Or.inl ⟨List.length_eq_zero_iff.mp hZero, rfl⟩)
    · rename_i hNonzero
      obtain ⟨rfl, rfl, rfl⟩ := by simpa using hCancel
      refine .cancelled onlySets_nil hOwn hEntries hErased hFound (Or.inr ⟨?_, rfl⟩)
      rintro rfl
      exact hNonzero rfl
  · rename_i hNone
    obtain ⟨rfl, rfl, rfl⟩ := by simpa using hCancel
    exact .cancelRefused (by decide) (Or.inr (ids_of_findPosition_none hNone))

theorem moves_of_onTimerExpired {s : TimerManagerImpl} {readSucceeds succeeds : Bool}
    (hFd : s.timerFd ≠ -1) :
    Moves s (.onTimerExpired readSucceeds succeeds)
      (s.onTimerExpired readSucceeds succeeds).1
      (s.onTimerExpired readSucceeds succeeds).2 := by
  cases readSucceeds with
  | false => exact .readFailed hFd
  | true =>
      cases hFirst : s.activeTimers.first? with
      | none =>
          simp only [onTimerExpired, hFirst, if_true]
          exact .nothingActive hFd hFirst
      | some entry =>
          simp only [onTimerExpired, hFirst, setTimerFd_eq, if_true]
          exact .expired hFd hFirst

theorem moves_of_step {s t : TimerManagerImpl} {action : Action} {new : List Output}
    (hStep : s.step action = some (t, new)) : Moves s action t new := by
  cases action with
  | start kind caller syscalls timeout timer =>
      cases kind with
      | oneShot =>
          obtain ⟨rfl, rfl⟩ := Prod.mk.inj (Option.some.inj hStep)
          exact moves_of_launch rfl
      | periodical =>
          obtain ⟨rfl, rfl⟩ := Prod.mk.inj (Option.some.inj hStep)
          exact moves_of_launch rfl
  | cancelTimer caller succeeds timer =>
      obtain ⟨rfl, rfl⟩ := Prod.mk.inj (Option.some.inj hStep)
      exact moves_of_cancelTimer rfl
  | onTimerExpired readSucceeds succeeds =>
      simp only [step] at hStep
      split at hStep
      · rename_i hFd
        obtain ⟨rfl, rfl⟩ := Prod.mk.inj (Option.some.inj hStep)
        exact moves_of_onTimerExpired hFd
      · cases hStep
  | elapse later =>
      simp only [step] at hStep
      split at hStep
      · rename_i hLater
        obtain ⟨rfl, rfl⟩ := Prod.mk.inj (Option.some.inj hStep)
        exact .elapsed hLater
      · cases hStep

end TimerManagerImpl

/-- The manager of one thread, its kernel timer and the clock. -/
def timerSystem : TransitionSystem TimerManagerImpl Action Output where
  initial manager := ∃ threadId now, manager = .construct threadId now
  step := TimerManagerImpl.step

end Timer
end UtilsFramework
