import Mathlib.Data.List.Induction
import Mathlib.Data.Option.Basic
import Mathlib.Tactic.Common

/-!
# A promise and its future

The promise is satisfied at most once, and a second attempt is an error.  The
future gives the value up once, and only when there is one; after that it no
longer refers to the promise.
-/

namespace UtilsFramework
namespace Library

/-- `valid` while the future has not given up the value. -/
structure Promise (Value : Type*) where
  value : Option Value
  valid : Bool
  satisfied_of_not_valid : valid = false → value.isSome = true
deriving DecidableEq

namespace Promise

variable {Value : Type*}

def fresh : Promise Value where
  value := none
  valid := true
  satisfied_of_not_valid := nofun

/-- `none` if the promise is satisfied already. -/
def setValue (promise : Promise Value) (value : Value) : Option (Promise Value) :=
  match promise.value with
  | some _ => none
  | none => some ⟨some value, promise.valid, fun _ => rfl⟩

/-- The value with the future that gave it up; `none` if there is none to give. -/
def get (promise : Promise Value) : Option (Value × Promise Value) :=
  match promise.value, promise.valid with
  | some value, true => some (value, ⟨some value, false, fun _ => rfl⟩)
  | _, _ => none

theorem get_spec {before after : Promise Value} {value : Value}
    (hGet : before.get = some (value, after)) :
    before.value = some value ∧ before.valid = true ∧
      after.value = some value ∧ after.valid = false := by
  unfold get at hGet
  split at hGet
  · rename_i found hValue hValid
    obtain ⟨rfl, rfl⟩ := by simpa using hGet
    exact ⟨hValue, hValid, rfl, rfl⟩
  · cases hGet

/-- A future that is valid gives nothing up only while the promise is open. -/
theorem value_of_get_eq_none {promise : Promise Value} (hValid : promise.valid = true)
    (hGet : promise.get = none) : promise.value = none := by
  cases hValue : promise.value with
  | none => rfl
  | some value => simp [get, hValue, hValid] at hGet

/-! ## What becomes of a promise -/

/-- What is done with a promise and its future. -/
inductive Use (Value : Type*)
  | setValue (value : Value)
  | get
deriving DecidableEq

/-- A use that is an error, or finds nothing, changes nothing. -/
def use (promise : Promise Value) : Use Value → Promise Value
  | .setValue value => (promise.setValue value).getD promise
  | .get =>
      match promise.get with
      | some (_, after) => after
      | none => promise

def after (uses : List (Use Value)) : Promise Value :=
  uses.foldl use fresh

/-- The value that was set first. -/
def firstSet : List (Use Value) → Option Value
  | [] => none
  | .setValue value :: _ => some value
  | .get :: uses => firstSet uses

/-- A value has been taken: there is a `get` after the first value was set. -/
def taken [DecidableEq Value] : List (Use Value) → Bool
  | [] => false
  | .setValue _ :: uses => decide (.get ∈ uses)
  | .get :: uses => taken uses

@[simp]
theorem after_append_singleton (uses : List (Use Value)) (new : Use Value) :
    after (uses ++ [new]) = (after uses).use new := by
  simp [after]

theorem firstSet_append_setValue (uses : List (Use Value)) (value : Value) :
    firstSet (uses ++ [.setValue value]) = (firstSet uses).or (some value) := by
  induction uses with
  | nil => rfl
  | cons first uses ih =>
      cases first with
      | setValue => rfl
      | get => exact ih

theorem firstSet_append_get (uses : List (Use Value)) :
    firstSet (uses ++ [.get]) = firstSet uses := by
  induction uses with
  | nil => rfl
  | cons first uses ih =>
      cases first with
      | setValue => rfl
      | get => exact ih

theorem taken_append_setValue [DecidableEq Value] (uses : List (Use Value))
    (value : Value) : taken (uses ++ [.setValue value]) = taken uses := by
  induction uses with
  | nil => rfl
  | cons first uses ih =>
      cases first with
      | setValue => simp [taken]
      | get => exact ih

theorem taken_append_get [DecidableEq Value] (uses : List (Use Value)) :
    taken (uses ++ [.get]) = (firstSet uses).isSome := by
  induction uses with
  | nil => rfl
  | cons first uses ih =>
      cases first with
      | setValue => simp [taken, firstSet]
      | get => exact ih

theorem value_use_setValue (promise : Promise Value) (value : Value) :
    (promise.use (.setValue value)).value = promise.value.or (some value) := by
  unfold use setValue
  cases hValue : promise.value <;> simp [hValue]

theorem valid_use_setValue (promise : Promise Value) (value : Value) :
    (promise.use (.setValue value)).valid = promise.valid := by
  unfold use setValue
  cases promise.value <;> simp

theorem value_use_get (promise : Promise Value) :
    (promise.use .get).value = promise.value := by
  unfold use get
  cases hValue : promise.value <;> cases promise.valid <;> simp [hValue]

/-- The future is still valid after a `get` exactly if there is no value. -/
theorem valid_use_get (promise : Promise Value) :
    (promise.use .get).valid = !promise.value.isSome := by
  have hSatisfied := promise.satisfied_of_not_valid
  unfold use get
  cases hValue : promise.value <;> cases hValid : promise.valid <;>
    simp_all

/-- Whatever is done with a promise, it holds the value that was set first, and its
future is valid until this value has been taken. -/
theorem after_spec [DecidableEq Value] (uses : List (Use Value)) :
    (after uses).value = firstSet uses ∧ (after uses).valid = !taken uses := by
  induction uses using List.reverseRecOn with
  | nil => exact ⟨rfl, rfl⟩
  | append_singleton uses new ih =>
      rw [after_append_singleton]
      cases new with
      | setValue value =>
          rw [value_use_setValue, valid_use_setValue, firstSet_append_setValue,
            taken_append_setValue, ih.1, ih.2]
          exact ⟨rfl, rfl⟩
      | get =>
          rw [value_use_get, valid_use_get, firstSet_append_get, taken_append_get, ih.1]
          exact ⟨rfl, rfl⟩

end Promise
end Library
end UtilsFramework
