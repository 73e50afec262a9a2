import UtilsFramework.Library.TransitionSystem
import Mathlib.Logic.Function.Basic

/-!
# Thread-local instances

`ThreadLocalLinuxImpl<T>` gives every thread its own lazily constructed instance
of `T` through one pthread key.  The key itself is shared: the first thread to
come creates it, guarded by `pthread_once` and by the plain flag
`m_isKeyCreated`, while other threads may be at any point of `get`, `getPtr` or
`reset`.

Every access to something shared is a step of its own, taken by one thread at a
time: the test and the setting of the flag, `pthread_once`, the creation of the
key, `pthread_getspecific` and `pthread_setspecific`.  The constructor and the
destructor of `T` use other thread-local classes at most.  Looking up a key
that has not been created is undefined, so there is no step for it.
-/

namespace UtilsFramework
namespace ThreadLocal

open Library

abbrev ThreadId := Nat
/-- A `pthread_key_t`. -/
abbrev Key := Nat
/-- The address of an instance of `T`. -/
abbrev InstanceId := Nat

inductive Operation
  | get
  | getPtr
  | reset
deriving DecidableEq, Repr

/-- A `pthread_once_t`. -/
inductive Once
  | initial
  | running
  | done
deriving DecidableEq, Repr

/-- Where a thread stands. -/
inductive Control
  | outside
  /-- at the condition in `createKey` -/
  | testing (op : Operation)
  | callingOnce (op : Operation)
  /-- in `tlsMakeKey`, run by `pthread_once` -/
  | makingKey (op : Operation)
  /-- before `m_isKeyCreated = true` -/
  | flagging (op : Operation)
  /-- before `pthread_getspecific` -/
  | looking (op : Operation)
  /-- before `new T` in `get` -/
  | constructing
  /-- before the `pthread_setspecific` of `get` -/
  | storing (instanceId : InstanceId)
  /-- before `delete instance` in `reset` -/
  | deleting (instanceId : InstanceId)
  /-- before the `pthread_setspecific` of `reset` -/
  | clearing
  | exited
deriving DecidableEq, Repr

/-- The static members of `ThreadLocalLinuxImpl<T>`, the keys created with
`tlsDestructor` and their values, and where each thread stands. -/
structure ThreadLocalLinuxImpl where
  tlsKey : Key
  tlsKeyOnce : Once
  isKeyCreated : Bool
  keys : List Key
  specific : Key → ThreadId → Option InstanceId
  control : ThreadId → Control
  nextInstance : InstanceId

inductive Action
  | call (thread : ThreadId) (op : Operation)
  | proceed (thread : ThreadId)
  /-- `none` if no key is left -/
  | pthreadKeyCreate (thread : ThreadId) (result : Option Key)
  /-- in `get`; storing `NULL` in `reset` needs no memory -/
  | pthreadSetspecific (thread : ThreadId) (succeeds : Bool)
  | exit (thread : ThreadId)
deriving DecidableEq, Repr

inductive Output
  | keyCreated (thread : ThreadId) (result : Option Key)
  | constructed (thread : ThreadId) (instanceId : InstanceId)
  | deleted (thread : ThreadId) (instanceId : InstanceId)
  | returned (thread : ThreadId) (op : Operation) (result : Option InstanceId)
  | exited (thread : ThreadId)
deriving DecidableEq, Repr

namespace ThreadLocalLinuxImpl

/-- The static initialization. -/
def initialized : ThreadLocalLinuxImpl where
  tlsKey := 0
  tlsKeyOnce := .initial
  isKeyCreated := false
  keys := []
  specific := fun _ _ => none
  control := fun _ => .outside
  nextInstance := 0

def moveTo (s : ThreadLocalLinuxImpl) (thread : ThreadId) (control : Control) :
    ThreadLocalLinuxImpl :=
  { s with control := Function.update s.control thread control }

/-- `pthread_setspecific` for `m_tlsKey`. -/
def setspecific (s : ThreadLocalLinuxImpl) (thread : ThreadId)
    (value : Option InstanceId) : ThreadLocalLinuxImpl :=
  { s with
    specific := Function.update s.specific s.tlsKey
      (Function.update (s.specific s.tlsKey) thread value) }

/-- What an operation does with the value `pthread_getspecific` returns. -/
def foundSpecific (s : ThreadLocalLinuxImpl) (thread : ThreadId)
    (value : Option InstanceId) : Operation → ThreadLocalLinuxImpl × List Output
  | .get =>
      match value with
      | none => (s.moveTo thread .constructing, [])
      | some _ => (s.moveTo thread .outside, [.returned thread .get value])
  | .getPtr => (s.moveTo thread .outside, [.returned thread .getPtr value])
  | .reset =>
      match value with
      | none => (s.moveTo thread .outside, [.returned thread .reset none])
      | some instanceId => (s.moveTo thread (.deleting instanceId), [])

/-- The next step of a thread that depends on no outcome. -/
def proceed (s : ThreadLocalLinuxImpl) (thread : ThreadId) :
    Control → Option (ThreadLocalLinuxImpl × List Output)
  | .testing op =>
      if s.isKeyCreated then some (s.moveTo thread (.looking op), [])
      else some (s.moveTo thread (.callingOnce op), [])
  | .callingOnce op =>
      match s.tlsKeyOnce with
      | .initial =>
          some ({ s.moveTo thread (.makingKey op) with tlsKeyOnce := .running }, [])
      -- blocked until the other thread has run `tlsMakeKey`
      | .running => none
      | .done => some (s.moveTo thread (.flagging op), [])
  | .flagging op => some ({ s.moveTo thread (.looking op) with isKeyCreated := true }, [])
  | .looking op =>
      if s.tlsKey ∈ s.keys then
        some (s.foundSpecific thread (s.specific s.tlsKey thread) op)
      else none
  | .constructing =>
      some ({ s.moveTo thread (.storing s.nextInstance) with
        nextInstance := s.nextInstance + 1 }, [.constructed thread s.nextInstance])
  | .deleting instanceId =>
      some (s.moveTo thread .clearing, [.deleted thread instanceId])
  | .clearing =>
      some ((s.setspecific thread none).moveTo thread .outside,
        [.returned thread .reset none])
  | _ => none

/-- `tlsMakeKey`; the result of `pthread_key_create` is discarded. -/
def tlsMakeKey (s : ThreadLocalLinuxImpl) (thread : ThreadId) (op : Operation) :
    Option Key → Option (ThreadLocalLinuxImpl × List Output)
  | some key =>
      if key ∈ s.keys then none
      else
        some ({ s.moveTo thread (.flagging op) with
          tlsKey := key
          tlsKeyOnce := .done
          keys := key :: s.keys }, [.keyCreated thread (some key)])
  | none =>
      some ({ s.moveTo thread (.flagging op) with tlsKeyOnce := .done },
        [.keyCreated thread none])

/-- The values `tlsDestructor` is called with when a thread exits. -/
def valuesAtExit (s : ThreadLocalLinuxImpl) (thread : ThreadId) : List InstanceId :=
  s.keys.filterMap fun key => s.specific key thread

/-- The values are cleared before `tlsDestructor` is called with them. -/
def exitThread (s : ThreadLocalLinuxImpl) (thread : ThreadId) :
    ThreadLocalLinuxImpl × List Output :=
  ({ s.moveTo thread .exited with
      specific := fun key => Function.update (s.specific key) thread none },
    (s.valuesAtExit thread).map (.deleted thread) ++ [.exited thread])

def step (s : ThreadLocalLinuxImpl) :
    Action → Option (ThreadLocalLinuxImpl × List Output)
  | .call thread op =>
      if s.control thread = .outside then some (s.moveTo thread (.testing op), []) else none
  | .proceed thread => s.proceed thread (s.control thread)
  | .pthreadKeyCreate thread result =>
      match s.control thread with
      | .makingKey op => s.tlsMakeKey thread op result
      | _ => none
  | .pthreadSetspecific thread succeeds =>
      match s.control thread with
      | .storing instanceId =>
          let stored := if succeeds then s.setspecific thread (some instanceId) else s
          some (stored.moveTo thread .outside,
            [.returned thread .get (some instanceId)])
      | _ => none
  | .exit thread =>
      if s.control thread = .outside then some (s.exitThread thread) else none

/-! ## What a step can do -/

@[simp]
theorem control_moveTo (s : ThreadLocalLinuxImpl) (thread : ThreadId)
    (control : Control) :
    (s.moveTo thread control).control = Function.update s.control thread control := rfl

/-- The steps by what they do to the key, the flag and the instances. -/
inductive Moves (s : ThreadLocalLinuxImpl) :
    Action → ThreadLocalLinuxImpl → List Output → Prop
  | called {thread : ThreadId} {op : Operation} (hControl : s.control thread = .outside) :
      Moves s (.call thread op) (s.moveTo thread (.testing op)) []
  | testedSet {thread : ThreadId} {op : Operation}
      (hControl : s.control thread = .testing op) (hFlag : s.isKeyCreated = true) :
      Moves s (.proceed thread) (s.moveTo thread (.looking op)) []
  | testedClear {thread : ThreadId} {op : Operation}
      (hControl : s.control thread = .testing op) (hFlag : s.isKeyCreated = false) :
      Moves s (.proceed thread) (s.moveTo thread (.callingOnce op)) []
  | onceEntered {thread : ThreadId} {op : Operation}
      (hControl : s.control thread = .callingOnce op) (hOnce : s.tlsKeyOnce = .initial) :
      Moves s (.proceed thread)
        { s.moveTo thread (.makingKey op) with tlsKeyOnce := .running } []
  | oncePassed {thread : ThreadId} {op : Operation}
      (hControl : s.control thread = .callingOnce op) (hOnce : s.tlsKeyOnce = .done) :
      Moves s (.proceed thread) (s.moveTo thread (.flagging op)) []
  | keyCreated {thread : ThreadId} {op : Operation} {key : Key}
      (hControl : s.control thread = .makingKey op) :
      Moves s (.pthreadKeyCreate thread (some key))
        { s.moveTo thread (.flagging op) with
          tlsKey := key
          tlsKeyOnce := .done
          keys := key :: s.keys } [.keyCreated thread (some key)]
  | keyNotCreated {thread : ThreadId} {op : Operation}
      (hControl : s.control thread = .makingKey op) :
      Moves s (.pthreadKeyCreate thread none)
        { s.moveTo thread (.flagging op) with tlsKeyOnce := .done }
        [.keyCreated thread none]
  | flagged {thread : ThreadId} {op : Operation}
      (hControl : s.control thread = .flagging op) :
      Moves s (.proceed thread)
        { s.moveTo thread (.looking op) with isKeyCreated := true } []
  | foundNone {thread : ThreadId} (hControl : s.control thread = .looking .get)
      (hValue : s.specific s.tlsKey thread = none) :
      Moves s (.proceed thread) (s.moveTo thread .constructing) []
  | foundToDelete {thread : ThreadId} {instanceId : InstanceId}
      (hControl : s.control thread = .looking .reset)
      (hValue : s.specific s.tlsKey thread = some instanceId) :
      Moves s (.proceed thread) (s.moveTo thread (.deleting instanceId)) []
  | foundAndReturned {thread : ThreadId} {op : Operation} {value : Option InstanceId}
      (hControl : s.control thread = .looking op)
      (hValue : s.specific s.tlsKey thread = value)
      (hGet : op = .get → value ≠ none) (hReset : op = .reset → value = none) :
      Moves s (.proceed thread) (s.moveTo thread .outside) [.returned thread op value]
  | constructed {thread : ThreadId} (hControl : s.control thread = .constructing) :
      Moves s (.proceed thread)
        { s.moveTo thread (.storing s.nextInstance) with
          nextInstance := s.nextInstance + 1 } [.constructed thread s.nextInstance]
  | stored {thread : ThreadId} {instanceId : InstanceId}
      (hControl : s.control thread = .storing instanceId) :
      Moves s (.pthreadSetspecific thread true)
        ((s.setspecific thread (some instanceId)).moveTo thread .outside)
        [.returned thread .get (some instanceId)]
  | notStored {thread : ThreadId} {instanceId : InstanceId}
      (hControl : s.control thread = .storing instanceId) :
      Moves s (.pthreadSetspecific thread false) (s.moveTo thread .outside)
        [.returned thread .get (some instanceId)]
  | deleted {thread : ThreadId} {instanceId : InstanceId}
      (hControl : s.control thread = .deleting instanceId) :
      Moves s (.proceed thread) (s.moveTo thread .clearing) [.deleted thread instanceId]
  | cleared {thread : ThreadId} (hControl : s.control thread = .clearing) :
      Moves s (.proceed thread) ((s.setspecific thread none).moveTo thread .outside)
        [.returned thread .reset none]
  | exited {thread : ThreadId} (hControl : s.control thread = .outside) :
      Moves s (.exit thread) (s.exitThread thread).1 (s.exitThread thread).2

theorem foundSpecific_moves {s : ThreadLocalLinuxImpl} {thread : ThreadId}
    {op : Operation} (hControl : s.control thread = .looking op) :
    Moves s (.proceed thread) (s.foundSpecific thread (s.specific s.tlsKey thread) op).1
      (s.foundSpecific thread (s.specific s.tlsKey thread) op).2 := by
  cases hValue : s.specific s.tlsKey thread with
  | none =>
      cases op with
      | get => exact .foundNone hControl hValue
      | getPtr => exact .foundAndReturned hControl hValue (by simp) (by simp)
      | reset => exact .foundAndReturned hControl hValue (by simp) (by simp)
  | some instanceId =>
      cases op with
      | get => exact .foundAndReturned hControl hValue (by simp) (by simp)
      | getPtr => exact .foundAndReturned hControl hValue (by simp) (by simp)
      | reset => exact .foundToDelete hControl hValue

theorem proceed_moves {s t : ThreadLocalLinuxImpl} {thread : ThreadId}
    {new : List Output}
    (hProceed : s.proceed thread (s.control thread) = some (t, new)) :
    Moves s (.proceed thread) t new := by
  cases hControl : s.control thread with
  | testing op =>
      cases hFlag : s.isKeyCreated <;>
        simp only [hControl, proceed, hFlag, if_true, Bool.false_eq_true, if_false,
          Option.some.injEq, Prod.mk.injEq] at hProceed <;>
        obtain ⟨rfl, rfl⟩ := hProceed
      · exact .testedClear hControl hFlag
      · exact .testedSet hControl hFlag
  | callingOnce op =>
      cases hOnce : s.tlsKeyOnce <;>
        simp only [hControl, proceed, hOnce, Option.some.injEq, Prod.mk.injEq,
          reduceCtorEq] at hProceed <;>
        obtain ⟨rfl, rfl⟩ := hProceed
      · exact .onceEntered hControl hOnce
      · exact .oncePassed hControl hOnce
  | looking op =>
      simp only [hControl, proceed, Option.ite_none_right_eq_some,
        Option.some.injEq] at hProceed
      have moves := foundSpecific_moves hControl
      rw [hProceed.2] at moves
      exact moves
  | flagging op =>
      simp only [hControl, proceed, Option.some.injEq, Prod.mk.injEq] at hProceed
      obtain ⟨rfl, rfl⟩ := hProceed
      exact .flagged hControl
  | constructing =>
      simp only [hControl, proceed, Option.some.injEq, Prod.mk.injEq] at hProceed
      obtain ⟨rfl, rfl⟩ := hProceed
      exact .constructed hControl
  | deleting instanceId =>
      simp only [hControl, proceed, Option.some.injEq, Prod.mk.injEq] at hProceed
      obtain ⟨rfl, rfl⟩ := hProceed
      exact .deleted hControl
  | clearing =>
      simp only [hControl, proceed, Option.some.injEq, Prod.mk.injEq] at hProceed
      obtain ⟨rfl, rfl⟩ := hProceed
      exact .cleared hControl
  | outside | makingKey | storing | exited => simp [hControl, proceed] at hProceed

/-- Every step is one of the moves. -/
theorem moves_of_step {s t : ThreadLocalLinuxImpl} {action : Action}
    {new : List Output} (hStep : s.step action = some (t, new)) :
    Moves s action t new := by
  cases action with
  | call thread op =>
      simp only [step, Option.ite_none_right_eq_some, Option.some.injEq,
        Prod.mk.injEq] at hStep
      obtain ⟨hControl, rfl, rfl⟩ := hStep
      exact .called hControl
  | proceed thread => exact proceed_moves hStep
  | pthreadKeyCreate thread result =>
      simp only [step] at hStep
      split at hStep
      · rename_i op hControl
        cases result with
        | none =>
            simp only [tlsMakeKey, Option.some.injEq, Prod.mk.injEq] at hStep
            obtain ⟨rfl, rfl⟩ := hStep
            exact .keyNotCreated hControl
        | some key =>
            simp only [tlsMakeKey, Option.ite_none_left_eq_some, Option.some.injEq,
              Prod.mk.injEq] at hStep
            obtain ⟨-, rfl, rfl⟩ := hStep
            exact .keyCreated hControl
      · cases hStep
  | pthreadSetspecific thread succeeds =>
      simp only [step] at hStep
      split at hStep
      · rename_i instanceId hControl
        obtain ⟨rfl, rfl⟩ := Prod.mk.inj (Option.some.inj hStep)
        cases succeeds with
        | false => exact .notStored hControl
        | true => exact .stored hControl
      · cases hStep
  | exit thread =>
      simp only [step, Option.ite_none_right_eq_some, Option.some.injEq] at hStep
      obtain ⟨hControl, hExit⟩ := hStep
      have moves : Moves s (.exit thread) _ _ := .exited hControl
      rw [hExit] at moves
      exact moves

end ThreadLocalLinuxImpl

/-- The storage of one class, used by any number of threads. -/
def storageSystem : TransitionSystem ThreadLocalLinuxImpl Action Output where
  initial s := s = .initialized
  step := ThreadLocalLinuxImpl.step

end ThreadLocal
end UtilsFramework
