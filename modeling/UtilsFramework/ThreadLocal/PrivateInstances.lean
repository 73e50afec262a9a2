import UtilsFramework.ThreadLocal.KeyCreation
import UtilsFramework.Library.Monitor
import Mathlib.Data.List.Induction
import Mathlib.Data.List.Nodup

/-!
# Every thread has an instance of its own

Seen by one thread, a `ThreadLocalLinuxImpl` is a private storage for at most
one instance: `get` constructs one where there is none, `getPtr` reports it,
`reset` and the end of the thread delete it.  `privateStep` is this storage; it
ignores what other threads do.  The file shows that the outputs of every
interleaving are, for each of the threads, those of its private storage, that no
instance ever reaches two threads, and that every instance is deleted once.
-/

namespace UtilsFramework
namespace ThreadLocal

open Library
open Library.TransitionSystem

/-! ## The private storage of a thread -/

/-- What a private storage holding `held` allows its thread to observe, and what
it holds afterwards. -/
def privateStep (thread : ThreadId) (held : Option InstanceId) :
    Output → Option (Option InstanceId)
  | .keyCreated _ _ => some held
  | .constructed owner instanceId =>
      if owner ≠ thread then some held
      else if held = none then some (some instanceId) else none
  | .deleted owner instanceId =>
      if owner ≠ thread then some held
      else if held = some instanceId then some none else none
  | .returned owner op result =>
      if owner ≠ thread then some held
      else if result = held ∧ (op = .get → held ≠ none) ∧ (op = .reset → held = none) then
        some held
      else none
  | .exited owner =>
      if owner ≠ thread then some held else if held = none then some none else none

/-- What a private storage holds after a history, if it allows it. -/
def follow (thread : ThreadId) (history : List Output) : Option (Option InstanceId) :=
  Monitor.watchAll (privateStep thread) none history

/-- A private storage deletes what it has constructed, except for what it
holds. -/
theorem count_of_follow {thread : ThreadId} {history : List Output}
    {held : Option InstanceId} (hFollow : follow thread history = some held)
    (instanceId : InstanceId) :
    history.count (.constructed thread instanceId) =
      history.count (.deleted thread instanceId) +
        if held = some instanceId then 1 else 0 := by
  induction history using List.reverseRecOn generalizing held with
  | nil =>
      obtain rfl : none = held := Option.some.inj hFollow
      rfl
  | append_singleton history output ih =>
      obtain ⟨before, hBefore, hOutput⟩ := Monitor.watchAll_append_singleton hFollow
      have hCounts := ih hBefore
      rw [List.count_append, List.count_append, hCounts]
      cases output with
      | constructed owner other =>
          by_cases hOwner : owner = thread
          · subst hOwner
            simp only [privateStep, ne_eq, not_true_eq_false, if_false,
              Option.ite_none_right_eq_some, Option.some.injEq] at hOutput
            obtain ⟨rfl, rfl⟩ := hOutput
            simp [List.count_singleton]
          · simp only [privateStep, ne_eq, hOwner, not_false_eq_true, if_true,
              Option.some.injEq] at hOutput
            simp [hOwner, hOutput]
      | deleted owner other =>
          by_cases hOwner : owner = thread
          · subst hOwner
            simp only [privateStep, ne_eq, not_true_eq_false, if_false,
              Option.ite_none_right_eq_some, Option.some.injEq] at hOutput
            obtain ⟨rfl, rfl⟩ := hOutput
            simp [List.count_singleton]
          · simp only [privateStep, ne_eq, hOwner, not_false_eq_true, if_true,
              Option.some.injEq] at hOutput
            simp [hOwner, hOutput]
      | keyCreated owner result =>
          obtain rfl : before = held := Option.some.inj hOutput
          simp
      | returned owner op result =>
          have hSame : before = held := by
            simp only [privateStep] at hOutput
            split at hOutput
            · exact Option.some.inj hOutput
            · simp only [Option.ite_none_right_eq_some, Option.some.injEq] at hOutput
              exact hOutput.2
          simp [hSame]
      | exited owner =>
          have hSame : before = held := by
            simp only [privateStep] at hOutput
            split at hOutput
            · exact Option.some.inj hOutput
            · simp only [Option.ite_none_right_eq_some, Option.some.injEq] at hOutput
              rw [hOutput.1, hOutput.2]
          simp [hSame]

/-- What a private storage has given out it has constructed. -/
theorem constructed_of_follow {thread : ThreadId} {history : List Output}
    {instanceId : InstanceId} (hFollow : follow thread history = some (some instanceId)) :
    .constructed thread instanceId ∈ history := by
  have hCount := count_of_follow hFollow instanceId
  rw [if_pos rfl] at hCount
  exact List.count_pos_iff.mp (by omega)

theorem constructed_of_returned {thread : ThreadId} {history : List Output}
    {held : Option InstanceId} (hFollow : follow thread history = some held)
    {op : Operation} {instanceId : InstanceId}
    (hReturned : .returned thread op (some instanceId) ∈ history) :
    .constructed thread instanceId ∈ history := by
  induction history using List.reverseRecOn generalizing held with
  | nil => cases hReturned
  | append_singleton history output ih =>
      obtain ⟨before, hBefore, hOutput⟩ := Monitor.watchAll_append_singleton hFollow
      rcases List.mem_append.mp hReturned with hEarlier | hLast
      · exact List.mem_append_left _ (ih hBefore hEarlier)
      · obtain rfl := List.mem_singleton.mp hLast
        simp only [privateStep, ne_eq, not_true_eq_false, if_false,
          Option.ite_none_right_eq_some] at hOutput
        rw [← hOutput.1.1] at hBefore
        exact List.mem_append_left _ (constructed_of_follow hBefore)

/-- The thread an output is about; the key belongs to all of them. -/
def Output.IsBy (thread : ThreadId) : Output → Prop
  | .keyCreated _ _ => True
  | .constructed owner _ | .deleted owner _ | .returned owner _ _ | .exited owner =>
      owner = thread

/-- A private storage ignores what another thread does. -/
theorem privateStep_ignores {thread other : ThreadId} (hOther : other ≠ thread)
    {new : List Output} (hNew : ∀ output ∈ new, output.IsBy thread)
    (held : Option InstanceId) :
    Monitor.watchAll (privateStep other) held new = some held := by
  refine Monitor.watchAll_of_ignored fun output hOutput => ?_
  have hBy := hNew output hOutput
  cases output with
  | keyCreated => rfl
  | constructed owner | deleted owner | returned owner | exited owner =>
      obtain rfl : owner = thread := hBy
      simp [privateStep, hOther.symm]

/-! ## The invariant -/

/-- The instances constructed in a history. -/
def instances (history : List Output) : List InstanceId :=
  history.filterMap fun output =>
    match output with
    | .constructed _ instanceId => some instanceId
    | _ => none

@[simp]
theorem instances_append (history new : List Output) :
    instances (history ++ new) = instances history ++ instances new :=
  List.filterMap_append

theorem mem_instances_of_constructed {history : List Output} {thread : ThreadId}
    {instanceId : InstanceId} (hConstructed : .constructed thread instanceId ∈ history) :
    instanceId ∈ instances history :=
  List.mem_filterMap.mpr ⟨_, hConstructed, rfl⟩

/-- Instances constructed once belong to one thread. -/
theorem constructed_unique {history : List Output} (hNodup : (instances history).Nodup)
    {thread other : ThreadId} {instanceId : InstanceId}
    (hThread : .constructed thread instanceId ∈ history)
    (hOther : .constructed other instanceId ∈ history) : thread = other := by
  induction history with
  | nil => cases hThread
  | cons output rest ih =>
      rw [← List.singleton_append, instances_append] at hNodup
      obtain ⟨-, hRest, hApart⟩ := List.nodup_append'.mp hNodup
      rcases List.mem_cons.mp hThread with rfl | hLater <;>
        rcases List.mem_cons.mp hOther with hSame | hOtherLater
      · exact (Output.constructed.inj hSame).1.symm
      · exact absurd (mem_instances_of_constructed hOtherLater)
          (hApart (a := instanceId) (by simp [instances]))
      · subst hSame
        exact absurd (mem_instances_of_constructed hLater)
          (hApart (a := instanceId) (by simp [instances]))
      · exact ih hRest hLater hOtherLater

/-- `pthread_key_create` and `pthread_setspecific` succeed. -/
def PthreadCallsSucceed (_ : ThreadLocalLinuxImpl) : Action → Prop
  | .pthreadKeyCreate _ result => result.isSome = true
  | .pthreadSetspecific _ succeeds => succeeds = true
  | _ => True

instance (s : ThreadLocalLinuxImpl) (action : Action) :
    Decidable (PthreadCallsSucceed s action) :=
  match action with
  | .pthreadKeyCreate _ result => inferInstanceAs (Decidable (result.isSome = true))
  | .pthreadSetspecific _ succeeds => inferInstanceAs (Decidable (succeeds = true))
  | .call _ _ | .proceed _ | .exit _ => isTrue trivial

namespace ThreadLocalLinuxImpl

/-- The instance a thread has, stored already or not, cleared already or not. -/
def held (s : ThreadLocalLinuxImpl) (thread : ThreadId) : Option InstanceId :=
  match s.control thread with
  | .storing instanceId => some instanceId
  | .clearing => none
  | _ => s.specific s.tlsKey thread

/-- What a thread knows about its value from the look it has taken. -/
def Knows (value : Option InstanceId) : Control → Prop
  | .constructing | .storing _ | .exited => value = none
  | .deleting instanceId => value = some instanceId
  | _ => True

/-- There are values of the one key only, they are what the threads have seen
there, and the history is that of private storages with different instances. -/
structure Private (history : List Output) (s : ThreadLocalLinuxImpl) : Prop where
  progress : KeyProgress s (creations history)
  succeeded : none ∉ creations history
  ofKey : ∀ key thread, s.specific key thread ≠ none → s.tlsKey = key ∧ s.keys = [key]
  knows : ∀ thread, Knows (s.specific s.tlsKey thread) (s.control thread)
  followed : ∀ thread, follow thread history = some (s.held thread)
  distinct : (instances history).Nodup
  older : ∀ instanceId ∈ instances history, instanceId < s.nextInstance

namespace Private

variable {history new : List Output} {s t : ThreadLocalLinuxImpl}

theorem initialized : Private [] .initialized where
  progress := .initialized
  succeeded := by simp [creations]
  ofKey := by simp [ThreadLocalLinuxImpl.initialized]
  knows := fun _ => trivial
  followed := fun _ => rfl
  distinct := by simp [instances]
  older := by simp [instances]

/-- Behind `createKey` there is exactly one key. -/
theorem keys_eq (inv : Private history s) (thread : ThreadId)
    (hBehind : (s.control thread).behindOnce = true) : s.keys = [s.tlsKey] := by
  obtain ⟨result, hResult, hKey⟩ :=
    inv.progress.of_done (inv.progress.done_of_behindOnce hBehind)
  cases result with
  | none => exact absurd (by simp [hResult]) inv.succeeded
  | some key =>
      obtain ⟨rfl, hKeys⟩ := hKey key rfl
      exact hKeys

theorem specific_eq_none (inv : Private history s) (hKeys : s.keys = []) (key : Key)
    (thread : ThreadId) : s.specific key thread = none := by
  by_contra hSome
  have hOne := (inv.ofKey key thread hSome).2
  simp [hKeys] at hOne

theorem ofKey_setspecific (inv : Private history s) (hKeys : s.keys = [s.tlsKey])
    {thread : ThreadId} {value : Option InstanceId} (key : Key) (other : ThreadId)
    (hSome : (s.setspecific thread value).specific key other ≠ none) :
    s.tlsKey = key ∧ s.keys = [key] := by
  by_cases hKey : key = s.tlsKey
  · rw [hKey]
    exact ⟨rfl, hKeys⟩
  · refine inv.ofKey key other ?_
    simpa [setspecific, hKey] using hSome

/-- A thread that exits leaves its instance to `tlsDestructor`. -/
theorem valuesAtExit_eq (inv : Private history s) (thread : ThreadId) :
    s.valuesAtExit thread = (s.specific s.tlsKey thread).toList := by
  have hKeys : s.keys = [] ∨ s.keys = [s.tlsKey] := by
    cases hProgress : creations history with
    | nil =>
        have progress := inv.progress
        rw [hProgress] at progress
        cases progress with
        | notStarted _ _ _ _ hKeys | underWay _ _ _ _ _ _ hKeys => exact Or.inl hKeys
    | cons result rest =>
        have progress := inv.progress
        rw [hProgress] at progress
        cases progress with
        | created _ _ hKey hKeys =>
            rw [hKey]
            exact Or.inr hKeys
        | failed _ _ hKeys => exact Or.inl hKeys
  rcases hKeys with hNone | hOne
  · simp [valuesAtExit, inv.specific_eq_none hNone]
  · cases hValue : s.specific s.tlsKey thread <;> simp [valuesAtExit, hOne, hValue]

/-- A step of one thread: what it is left with follows from what it has
observed, and the other threads notice nothing. -/
theorem next (inv : Private history s) (thread : ThreadId)
    (hProgress : KeyProgress t (creations (history ++ new)))
    (hSucceeded : none ∉ creations new)
    (hOfKey : ∀ key other, t.specific key other ≠ none → t.tlsKey = key ∧ t.keys = [key])
    (hOthers : ∀ other, other ≠ thread → t.control other = s.control other ∧
      t.specific t.tlsKey other = s.specific s.tlsKey other)
    (hNew : ∀ output ∈ new, output.IsBy thread)
    (hKnows : Knows (t.specific t.tlsKey thread) (t.control thread))
    (hFollowed : Monitor.watchAll (privateStep thread) (s.held thread) new = some (t.held thread))
    (hInstances : (instances new = [] ∧ t.nextInstance = s.nextInstance) ∨
      (instances new = [s.nextInstance] ∧ t.nextInstance = s.nextInstance + 1)) :
    Private (history ++ new) t where
  progress := hProgress
  succeeded := by
    rw [creations_append, List.mem_append]
    exact not_or.mpr ⟨inv.succeeded, hSucceeded⟩
  ofKey := hOfKey
  knows := by
    intro other
    by_cases hOther : other = thread
    · rw [hOther]
      exact hKnows
    · rw [(hOthers other hOther).1, (hOthers other hOther).2]
      exact inv.knows other
  followed := by
    intro other
    rw [follow, Monitor.watchAll_append (inv.followed other)]
    by_cases hOther : other = thread
    · rw [hOther]
      exact hFollowed
    · have hSame : t.held other = s.held other := by
        rw [held, held, (hOthers other hOther).1, (hOthers other hOther).2]
      rw [privateStep_ignores hOther hNew, hSame]
  distinct := by
    rw [instances_append]
    rcases hInstances with ⟨hNone, -⟩ | ⟨hOne, -⟩
    · rw [hNone, List.append_nil]
      exact inv.distinct
    · rw [hOne, List.nodup_append_comm, List.singleton_append, List.nodup_cons]
      exact ⟨fun hMem => Nat.lt_irrefl _ (inv.older _ hMem), inv.distinct⟩
  older := by
    intro instanceId hMem
    rw [instances_append, List.mem_append] at hMem
    rcases hInstances with ⟨hNone, hNext⟩ | ⟨hOne, hNext⟩
    · rw [hNone] at hMem
      rw [hNext]
      exact inv.older _ (hMem.resolve_right (by simp))
    · rw [hOne, List.mem_singleton] at hMem
      rw [hNext]
      rcases hMem with hOld | rfl
      · exact Nat.lt_succ_of_lt (inv.older _ hOld)
      · exact Nat.lt_succ_self _

theorem step (inv : Private history s) {action : Action}
    (hSucceeds : PthreadCallsSucceed s action) (moves : Moves s action t new) :
    Private (history ++ new) t := by
  have hProgress : KeyProgress t (creations (history ++ new)) := by
    rw [creations_append]
    exact inv.progress.step moves
  have hUpdate : ∀ {thread other : ThreadId} {control : Control}, other ≠ thread →
      Function.update s.control thread control other = s.control other :=
    fun hOther => Function.update_of_ne hOther _ _
  -- a thread goes on where it stands and leaves its instance alone
  have hQuiet : ∀ {thread control}, t.control = Function.update s.control thread control →
      t.specific = s.specific → t.tlsKey = s.tlsKey → t.keys = s.keys →
      t.nextInstance = s.nextInstance → creations new = [] → instances new = [] →
      (∀ output ∈ new, output.IsBy thread) →
      Knows (s.specific s.tlsKey thread) control →
      Monitor.watchAll (privateStep thread) (s.held thread) new = some (t.held thread) →
      Private (history ++ new) t := by
    intro thread control hControl hSpecific hKey hKeys hNext hCreations hInstances hNew
      hKnows hFollowed
    refine inv.next thread hProgress (by simp [hCreations]) ?_ ?_ hNew ?_ hFollowed
      (Or.inl ⟨hInstances, hNext⟩)
    · rw [hSpecific, hKey, hKeys]
      exact inv.ofKey
    · intro other hOther
      rw [hControl, hSpecific, hKey]
      exact ⟨hUpdate hOther, rfl⟩
    · rw [hControl, hSpecific, hKey, Function.update_self]
      exact hKnows
  cases moves with
  | @called thread op hControl | @testedSet thread op hControl
  | @testedClear thread op hControl | @onceEntered thread op hControl
  | @oncePassed thread op hControl | @flagged thread op hControl =>
      exact hQuiet rfl rfl rfl rfl rfl rfl rfl (by simp) trivial
        (by simp [held, hControl, moveTo])
  | @keyCreated thread op key hControl =>
      have hKeys := (inv.progress.of_making hControl).2.1
      have hNone := inv.specific_eq_none hKeys
      refine inv.next thread hProgress (by simp [creations]) ?_ ?_ ?_
        (by simp [moveTo, Knows]) ?_ (Or.inl ⟨rfl, rfl⟩)
      · intro other owner hSome
        exact absurd (hNone other owner) hSome
      · intro other hOther
        exact ⟨hUpdate hOther, by simp [moveTo, hNone]⟩
      · simp [Output.IsBy]
      · simp [held, hControl, moveTo, privateStep, hNone]
  | keyNotCreated => cases hSucceeds
  | notStored => cases hSucceeds
  | @foundNone thread hControl hValue =>
      exact hQuiet rfl rfl rfl rfl rfl rfl rfl (by simp) hValue
        (by simp [held, hControl, moveTo])
  | @foundToDelete thread instanceId hControl hValue =>
      exact hQuiet rfl rfl rfl rfl rfl rfl rfl (by simp) hValue
        (by simp [held, hControl, moveTo])
  | @foundAndReturned thread op value hControl hValue hGet hReset =>
      refine hQuiet rfl rfl rfl rfl rfl rfl rfl ?_ trivial ?_
      · simp [Output.IsBy]
      · have hAllowed : (op = .get → value ≠ none) ∧ (op = .reset → value = none) :=
          ⟨hGet, hReset⟩
        simpa [held, hControl, moveTo, privateStep, hValue] using hAllowed
  | @constructed thread hControl =>
      have hNone : s.specific s.tlsKey thread = none := by
        have hKnows := inv.knows thread
        rwa [hControl] at hKnows
      refine inv.next thread hProgress (by simp [creations]) inv.ofKey ?_ ?_ ?_ ?_
        (Or.inr ⟨rfl, rfl⟩)
      · exact fun other hOther => ⟨hUpdate hOther, rfl⟩
      · simp [Output.IsBy]
      · simpa [moveTo, Knows] using hNone
      · simp [held, hControl, moveTo, privateStep, hNone]
  | @stored thread instanceId hControl =>
      have hKeys := inv.keys_eq thread (by rw [hControl]; rfl)
      refine inv.next thread hProgress (by simp [creations]) ?_ ?_ ?_
        (by simp [moveTo, Knows]) ?_ (Or.inl ⟨rfl, rfl⟩)
      · exact inv.ofKey_setspecific hKeys
      · intro other hOther
        exact ⟨hUpdate hOther, by simp [moveTo, setspecific, hOther]⟩
      · simp [Output.IsBy]
      · simp [held, hControl, moveTo, setspecific, privateStep]
  | @deleted thread instanceId hControl =>
      have hValue : s.specific s.tlsKey thread = some instanceId := by
        have hKnows := inv.knows thread
        rwa [hControl] at hKnows
      refine hQuiet rfl rfl rfl rfl rfl rfl rfl ?_ trivial ?_
      · simp [Output.IsBy]
      · simp [held, hControl, moveTo, Monitor.watchAll_cons, privateStep, hValue]
  | @cleared thread hControl =>
      have hKeys := inv.keys_eq thread (by rw [hControl]; rfl)
      refine inv.next thread hProgress (by simp [creations]) ?_ ?_ ?_
        (by simp [moveTo, Knows]) ?_ (Or.inl ⟨rfl, rfl⟩)
      · exact inv.ofKey_setspecific hKeys
      · intro other hOther
        exact ⟨hUpdate hOther, by simp [moveTo, setspecific, hOther]⟩
      · simp [Output.IsBy]
      · simp [held, hControl, moveTo, setspecific, privateStep]
  | @exited thread hControl =>
      refine inv.next thread hProgress ?_ ?_ ?_ ?_ ?_ ?_ (Or.inl ⟨?_, rfl⟩)
      · simp [creations, exitThread]
      · intro key other hSome
        refine inv.ofKey key other fun hNone => hSome ?_
        simp only [exitThread, moveTo, Function.update_apply]
        split
        · rfl
        · exact hNone
      · intro other hOther
        exact ⟨hUpdate hOther, by simp [exitThread, moveTo, hOther]⟩
      · intro output hOutput
        rcases List.mem_append.mp hOutput with hDeleted | hExited
        · obtain ⟨instanceId, -, rfl⟩ := List.mem_map.mp hDeleted
          rfl
        · obtain rfl := List.mem_singleton.mp hExited
          rfl
      · simp [exitThread, moveTo, Knows]
      · rw [exitThread, inv.valuesAtExit_eq]
        cases hValue : s.specific s.tlsKey thread <;>
          simp [held, hControl, moveTo, Monitor.watchAll_cons, privateStep, hValue]
      · simp [exitThread, instances]

end Private
end ThreadLocalLinuxImpl

open ThreadLocalLinuxImpl

theorem private_of_run {steps : List (ThreadLocalLinuxImpl × Action)}
    {history : List Output} {s : ThreadLocalLinuxImpl}
    (run : storageSystem.Run steps history s)
    (hSucceed : EveryStep PthreadCallsSucceed steps) : Private history s := by
  refine run.invariant PthreadCallsSucceed Private ?_ ?_ hSucceed
  · rintro s rfl
    exact .initialized
  · intro history s action t new inv hSucceeds hStep
    exact inv.step hSucceeds (moves_of_step hStep)

/-! ## Privacy and lifetime of the instances -/

/-- Whatever the threads do at the same time, each of them observes exactly its
private storage, and no instance is given to two of them. -/
theorem run_keeps_instances_private {steps : List (ThreadLocalLinuxImpl × Action)}
    {history : List Output} {s : ThreadLocalLinuxImpl}
    (run : storageSystem.Run steps history s)
    (hSucceed : EveryStep PthreadCallsSucceed steps) :
    (∀ thread, follow thread history = some (s.held thread)) ∧
      ∀ thread other op otherOp instanceId,
        .returned thread op (some instanceId) ∈ history →
        .returned other otherOp (some instanceId) ∈ history → thread = other := by
  have inv := private_of_run run hSucceed
  refine ⟨inv.followed, ?_⟩
  intro thread other op otherOp instanceId hThread hOther
  exact constructed_unique inv.distinct
    (constructed_of_returned (inv.followed thread) hThread)
    (constructed_of_returned (inv.followed other) hOther)

/-- Two threads reach `pthread_once` together; the first one resets its instance
and constructs another, the second one exits. -/
def twoThreads : List Action :=
  [.call 1 .get, .proceed 1, .call 2 .get, .proceed 2, .proceed 1,
    .pthreadKeyCreate 1 (some 4), .proceed 2, .proceed 1, .proceed 2, .proceed 1,
    .proceed 1, .pthreadSetspecific 1 true, .proceed 2, .proceed 2,
    .pthreadSetspecific 2 true, .call 1 .reset, .proceed 1, .proceed 1, .proceed 1,
    .proceed 1, .exit 2, .call 1 .get, .proceed 1, .proceed 1, .proceed 1,
    .pthreadSetspecific 1 true]

/-- What the threads observe in `twoThreads`. -/
def twoThreadsHistory : List Output :=
  [.keyCreated 1 (some 4), .constructed 1 0, .returned 1 .get (some 0),
    .constructed 2 1, .returned 2 .get (some 1), .deleted 1 0, .returned 1 .reset none,
    .deleted 2 1, .exited 2, .constructed 1 2, .returned 1 .get (some 2)]

theorem twoThreads_run : ∃ steps s, storageSystem.Run steps twoThreadsHistory s ∧
    EveryStep PthreadCallsSucceed steps ∧ s.control 2 = .exited :=
  ⟨_, _, run_of_replay ThreadLocalLinuxImpl.initialized twoThreads rfl rfl, by decide, rfl⟩

theorem twoThreads_private : ∃ s : ThreadLocalLinuxImpl,
    (∀ thread, follow thread twoThreadsHistory = some (s.held thread)) ∧
      ∀ thread other op otherOp instanceId,
        .returned thread op (some instanceId) ∈ twoThreadsHistory →
        .returned other otherOp (some instanceId) ∈ twoThreadsHistory → thread = other := by
  obtain ⟨steps, s, run, hSucceed, -⟩ := twoThreads_run
  exact ⟨s, run_keeps_instances_private run hSucceed⟩

end ThreadLocal
end UtilsFramework
