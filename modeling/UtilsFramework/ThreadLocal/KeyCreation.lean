import UtilsFramework.ThreadLocal.Storage

/-!
# One key for all threads

The flag `m_isKeyCreated` only saves later calls the `pthread_once`: a thread
that finds it clear goes through `pthread_once`, however many others do the
same.  The file shows for every interleaving that the key is created at most
once, that no thread gets behind `createKey` before it is, and that a thread
blocked in `pthread_once` waits for one that is not.
-/

namespace UtilsFramework
namespace ThreadLocal

open Library
open Library.TransitionSystem

namespace Control

/-- The thread is in `tlsMakeKey`. -/
def isMaking : Control → Bool
  | .makingKey _ => true
  | _ => false

/-- The `pthread_once` of the thread, or of the thread that set the flag it
read, has returned. -/
def behindOnce : Control → Bool
  | .flagging _ | .looking _ | .constructing | .storing _ | .deleting _ | .clearing => true
  | _ => false

end Control

/-- The results of the calls of `pthread_key_create`. -/
def creations (history : List Output) : List (Option Key) :=
  history.filterMap fun output =>
    match output with
    | .keyCreated _ result => some result
    | _ => none

@[simp]
theorem creations_append (history new : List Output) :
    creations (history ++ new) = creations history ++ creations new :=
  List.filterMap_append

namespace ThreadLocalLinuxImpl

/-- How far the creation of the key has come. -/
inductive KeyProgress (s : ThreadLocalLinuxImpl) : List (Option Key) → Prop
  | notStarted (hOnce : s.tlsKeyOnce = .initial) (hFlag : s.isKeyCreated = false)
      (hMaking : ∀ thread, (s.control thread).isMaking = false)
      (hBehind : ∀ thread, (s.control thread).behindOnce = false)
      (hKeys : s.keys = []) : KeyProgress s []
  | underWay (creator : ThreadId) (hOnce : s.tlsKeyOnce = .running)
      (hFlag : s.isKeyCreated = false)
      (hCreator : (s.control creator).isMaking = true)
      (hMaking : ∀ thread, (s.control thread).isMaking = true → thread = creator)
      (hBehind : ∀ thread, (s.control thread).behindOnce = false)
      (hKeys : s.keys = []) : KeyProgress s []
  | created {key : Key} (hOnce : s.tlsKeyOnce = .done)
      (hMaking : ∀ thread, (s.control thread).isMaking = false)
      (hKey : s.tlsKey = key) (hKeys : s.keys = [key]) : KeyProgress s [some key]
  | failed (hOnce : s.tlsKeyOnce = .done)
      (hMaking : ∀ thread, (s.control thread).isMaking = false)
      (hKeys : s.keys = []) : KeyProgress s [none]

namespace KeyProgress

variable {s t : ThreadLocalLinuxImpl} {results : List (Option Key)}

theorem initialized : KeyProgress .initialized [] :=
  .notStarted rfl rfl (fun _ => rfl) (fun _ => rfl) rfl

theorem done_of_flag (progress : KeyProgress s results)
    (hFlag : s.isKeyCreated = true) : s.tlsKeyOnce = .done := by
  cases progress with
  | notStarted _ hClear | underWay _ _ hClear =>
      rw [hFlag] at hClear
      cases hClear
  | created hOnce | failed hOnce => exact hOnce

theorem done_of_behindOnce (progress : KeyProgress s results) {thread : ThreadId}
    (hBehind : (s.control thread).behindOnce = true) : s.tlsKeyOnce = .done := by
  cases progress with
  | notStarted _ _ _ hNobody | underWay _ _ _ _ _ hNobody =>
      rw [hNobody thread] at hBehind
      cases hBehind
  | created hOnce | failed hOnce => exact hOnce

/-- A thread in `tlsMakeKey` finds no key yet. -/
theorem of_making (progress : KeyProgress s results) {thread : ThreadId}
    {op : Operation} (hControl : s.control thread = .makingKey op) :
    results = [] ∧ s.keys = [] ∧
      ∀ other, (s.control other).isMaking = true → other = thread := by
  have hMaking : (s.control thread).isMaking = true := by rw [hControl]; rfl
  cases progress with
  | notStarted _ _ hNobody | created _ hNobody | failed _ hNobody =>
      rw [hNobody thread] at hMaking
      cases hMaking
  | underWay _ _ _ _ hOnly _ hKeys =>
      refine ⟨rfl, hKeys, fun other hOther => ?_⟩
      rw [hOnly other hOther, hOnly thread hMaking]

/-- Neither the creation of the key nor its end is touched by a thread that goes
on outside of `tlsMakeKey`. -/
theorem of_control (progress : KeyProgress s results) {thread : ThreadId}
    {control : Control} (hBefore : (s.control thread).isMaking = false)
    (hAfter : control.isMaking = false)
    (hBehind : control.behindOnce = true → s.tlsKeyOnce = .done)
    (hFlag : t.isKeyCreated = true → s.tlsKeyOnce = .done)
    (hControl : t.control = Function.update s.control thread control)
    (hOnce : t.tlsKeyOnce = s.tlsKeyOnce) (hKey : t.tlsKey = s.tlsKey)
    (hKeys : t.keys = s.keys) : KeyProgress t results := by
  have hNoMaking : (∀ other, (s.control other).isMaking = false) →
      ∀ other, (t.control other).isMaking = false := by
    intro hNobody other
    rw [hControl, Function.update_apply]
    split
    · exact hAfter
    · exact hNobody other
  have hNotDone : s.tlsKeyOnce ≠ .done → t.isKeyCreated = false ∧
      control.behindOnce = false :=
    fun hNot => ⟨Bool.eq_false_iff.mpr (hNot ∘ hFlag),
      Bool.eq_false_iff.mpr (hNot ∘ hBehind)⟩
  have hNobodyBehind : control.behindOnce = false →
      (∀ other, (s.control other).behindOnce = false) →
      ∀ other, (t.control other).behindOnce = false := by
    intro hNew hNobody other
    rw [hControl, Function.update_apply]
    split
    · exact hNew
    · exact hNobody other
  cases progress with
  | notStarted hInitial _ hMaking hNobody hEmpty =>
      obtain ⟨hClear, hNew⟩ := hNotDone (by simp [hInitial])
      exact .notStarted (hOnce.trans hInitial) hClear (hNoMaking hMaking)
        (hNobodyBehind hNew hNobody) (hKeys.trans hEmpty)
  | underWay creator hRunning _ hCreator hMaking hNobody hEmpty =>
      obtain ⟨hClear, hNew⟩ := hNotDone (by simp [hRunning])
      have hOther : creator ≠ thread := by
        rintro rfl
        rw [hBefore] at hCreator
        cases hCreator
      refine .underWay creator (hOnce.trans hRunning) hClear ?_ ?_
        (hNobodyBehind hNew hNobody) (hKeys.trans hEmpty)
      · rw [hControl, Function.update_of_ne hOther]
        exact hCreator
      · intro other hOtherMaking
        rw [hControl, Function.update_apply] at hOtherMaking
        split at hOtherMaking
        · rw [hAfter] at hOtherMaking
          cases hOtherMaking
        · exact hMaking other hOtherMaking
  | created hDone hMaking hSame hOne =>
      exact .created (hOnce.trans hDone) (hNoMaking hMaking) (hKey.trans hSame)
        (hKeys.trans hOne)
  | failed hDone hMaking hEmpty =>
      exact .failed (hOnce.trans hDone) (hNoMaking hMaking) (hKeys.trans hEmpty)

/-- The thread that creates the key leaves `tlsMakeKey`. -/
theorem nobody_making (progress : KeyProgress s results) {thread : ThreadId}
    {op : Operation} (hControl : s.control thread = .makingKey op) (other : ThreadId) :
    (Function.update s.control thread (.flagging op) other).isMaking = false := by
  rw [Function.update_apply]
  split
  · rfl
  · rename_i hOther
    have hOnly := (progress.of_making hControl).2.2 other
    exact Bool.eq_false_iff.mpr fun hMaking => hOther (hOnly hMaking)

theorem step (progress : KeyProgress s results) {action : Action} {new : List Output}
    (moves : Moves s action t new) : KeyProgress t (results ++ creations new) := by
  -- the moves of a thread outside of `tlsMakeKey` observe no creation
  have hQuiet : ∀ {thread control}, creations new = [] →
      (s.control thread).isMaking = false → control.isMaking = false →
      (control.behindOnce = true → s.tlsKeyOnce = .done) →
      (t.isKeyCreated = true → s.tlsKeyOnce = .done) →
      t.control = Function.update s.control thread control →
      t.tlsKeyOnce = s.tlsKeyOnce → t.tlsKey = s.tlsKey → t.keys = s.keys →
      KeyProgress t (results ++ creations new) := by
    intro thread control hNew hBefore hAfter hBehind hFlag hControl hOnce hKey hKeys
    rw [hNew, List.append_nil]
    exact progress.of_control hBefore hAfter hBehind hFlag hControl hOnce hKey hKeys
  have hBehindNow : ∀ {thread}, (s.control thread).behindOnce = true →
      s.tlsKeyOnce = .done := progress.done_of_behindOnce
  cases moves with
  | called hControl | testedClear hControl =>
      exact hQuiet rfl (by rw [hControl]; rfl) rfl (by simp [Control.behindOnce])
        progress.done_of_flag rfl rfl rfl rfl
  | @exited thread hControl =>
      have hNew : creations (s.exitThread thread).2 = [] := by simp [creations, exitThread]
      rw [hNew, List.append_nil]
      exact progress.of_control (by rw [hControl]; rfl) rfl (by simp [Control.behindOnce])
        progress.done_of_flag rfl rfl rfl rfl
  | testedSet hControl hFlag =>
      exact hQuiet rfl (by rw [hControl]; rfl) rfl
        (fun _ => progress.done_of_flag hFlag) progress.done_of_flag rfl rfl rfl rfl
  | oncePassed hControl hOnce =>
      exact hQuiet rfl (by rw [hControl]; rfl) rfl (fun _ => hOnce)
        progress.done_of_flag rfl rfl rfl rfl
  | flagged hControl =>
      have hDone := hBehindNow (by rw [hControl]; rfl)
      exact hQuiet rfl (by rw [hControl]; rfl) rfl (fun _ => hDone) (fun _ => hDone)
        rfl rfl rfl rfl
  | foundNone hControl | foundToDelete hControl | foundAndReturned hControl
  | constructed hControl | stored hControl | notStored hControl | deleted hControl
  | cleared hControl =>
      have hDone := hBehindNow (by rw [hControl]; rfl)
      exact hQuiet rfl (by rw [hControl]; rfl) rfl (fun _ => hDone) (fun _ => hDone)
        rfl rfl rfl rfl
  | @onceEntered thread op hControl hOnce =>
      cases progress with
      | underWay _ hRunning => simp [hRunning] at hOnce
      | created hDone | failed hDone => simp [hDone] at hOnce
      | notStarted _ hFlag hMaking hBehind hKeys =>
          refine .underWay thread rfl hFlag ?_ ?_ ?_ hKeys
          · simp [Control.isMaking]
          · intro other hOther
            by_contra hNe
            simp [Function.update_of_ne hNe, hMaking] at hOther
          · intro other
            simp only [control_moveTo, Function.update_apply]
            split
            · rfl
            · exact hBehind other
  | @keyCreated thread op key hControl =>
      obtain ⟨rfl, hKeys, -⟩ := progress.of_making hControl
      exact .created rfl (progress.nobody_making hControl) rfl (by simp [hKeys])
  | @keyNotCreated thread op hControl =>
      obtain ⟨rfl, hKeys, -⟩ := progress.of_making hControl
      exact .failed rfl (progress.nobody_making hControl) hKeys

/-- What holds where `pthread_once` is done. -/
theorem of_done (progress : KeyProgress s results) (hDone : s.tlsKeyOnce = .done) :
    ∃ result, results = [result] ∧
      ∀ key, result = some key → s.tlsKey = key ∧ s.keys = [key] := by
  cases progress with
  | notStarted hOnce | underWay _ hOnce => simp [hOnce] at hDone
  | created _ _ hKey hKeys =>
      refine ⟨_, rfl, ?_⟩
      rintro _ ⟨⟩
      exact ⟨hKey, hKeys⟩
  | failed => exact ⟨none, rfl, by simp⟩

/-- What holds while `pthread_once` is running its function. -/
theorem of_running (progress : KeyProgress s results) (hRunning : s.tlsKeyOnce = .running) :
    ∃ creator op, s.control creator = .makingKey op := by
  cases progress with
  | notStarted hOnce | created hOnce | failed hOnce => simp [hRunning] at hOnce
  | underWay creator _ _ hCreator =>
      refine ⟨creator, ?_⟩
      cases hMaking : s.control creator with
      | makingKey op => exact ⟨op, rfl⟩
      | _ => simp [hMaking, Control.isMaking] at hCreator

theorem length_le (progress : KeyProgress s results) : results.length ≤ 1 := by
  cases progress <;> simp

end KeyProgress
end ThreadLocalLinuxImpl

open ThreadLocalLinuxImpl

theorem keyProgress_of_run {steps : List (ThreadLocalLinuxImpl × Action)}
    {history : List Output} {s : ThreadLocalLinuxImpl}
    (run : storageSystem.Run steps history s) : KeyProgress s (creations history) := by
  refine run.invariant_of_all (fun history s => KeyProgress s (creations history)) ?_ ?_
  · rintro s rfl
    exact .initialized
  · intro history s action t new progress hStep
    rw [creations_append]
    exact progress.step (moves_of_step hStep)

/-- In every interleaving of any number of threads: `pthread_key_create` is
called at most once; where a thread is behind `createKey`, or the flag is set,
it has been called, and if it succeeded all accesses use its key; and a thread
blocked in `pthread_once` waits for a thread about to create the key. -/
theorem run_creates_key_once {steps : List (ThreadLocalLinuxImpl × Action)}
    {history : List Output} {s : ThreadLocalLinuxImpl}
    (run : storageSystem.Run steps history s) :
    (creations history).length ≤ 1 ∧
      (∀ thread, (s.control thread).behindOnce = true ∨ s.isKeyCreated = true →
        ∃ result, creations history = [result] ∧
          ∀ key, result = some key → s.tlsKey = key ∧ s.keys = [key]) ∧
      ∀ thread op, s.control thread = .callingOnce op → s.step (.proceed thread) = none →
        ∃ creator op, s.control creator = .makingKey op := by
  have progress := keyProgress_of_run run
  refine ⟨progress.length_le, ?_, ?_⟩
  · rintro thread (hBehind | hFlag)
    · exact progress.of_done (progress.done_of_behindOnce hBehind)
    · exact progress.of_done (progress.done_of_flag hFlag)
  · intro thread op hControl hBlocked
    have hRunning : s.tlsKeyOnce = .running := by
      cases hOnce : s.tlsKeyOnce with
      | initial | done =>
          simp [ThreadLocalLinuxImpl.step, ThreadLocalLinuxImpl.proceed, hControl,
            hOnce] at hBlocked
      | running => rfl
    exact progress.of_running hRunning

/-- Two threads find the flag clear; the first one is in `tlsMakeKey`. -/
def bothAtOnce : List Action :=
  [.call 1 .get, .proceed 1, .call 2 .get, .proceed 2, .proceed 1]

/-- The second thread waits for the first one. -/
theorem bothAtOnce_waits : ∃ s : ThreadLocalLinuxImpl,
    s.step (.proceed 2) = none ∧ ∃ creator op, s.control creator = .makingKey op := by
  obtain ⟨steps, s, run, hControl, hBlocked⟩ : ∃ steps s, storageSystem.Run steps [] s ∧
      s.control 2 = .callingOnce .get ∧ s.step (.proceed 2) = none :=
    ⟨_, _, run_of_replay ThreadLocalLinuxImpl.initialized bothAtOnce rfl rfl, rfl, rfl⟩
  exact ⟨s, hBlocked, (run_creates_key_once run).2.2 2 .get hControl hBlocked⟩

end ThreadLocal
end UtilsFramework
