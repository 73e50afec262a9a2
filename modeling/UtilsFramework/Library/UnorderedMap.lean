import Mathlib.Data.List.AList
import Mathlib.Tactic.Common

/-!
# Hash maps without an observed order

Mathlib's `AList` carries the proof that its keys are distinct, which is all
that a program using `find`, `emplace`, `erase` and `empty` of an unordered
map can see.  This file adds the two operations `AList` lacks: an insertion
that leaves a present key alone, and the search for a value whatever its key.
-/

namespace UtilsFramework
namespace Library
namespace UnorderedMap

variable {Key Value : Type*} [DecidableEq Key]

/-- Insert unless the key is present, in which case nothing changes. -/
def emplace (key : Key) (value : Value) (map : AList fun _ : Key => Value) :
    AList fun _ : Key => Value :=
  if key ∈ map then map else map.insert key value

theorem emplace_of_mem {key : Key} {value : Value}
    {map : AList fun _ : Key => Value} (hMem : key ∈ map) :
    emplace key value map = map := by
  simp [emplace, hMem]

theorem emplace_of_notMem {key : Key} {value : Value}
    {map : AList fun _ : Key => Value} (hMem : key ∉ map) :
    emplace key value map = map.insert key value := by
  simp [emplace, hMem]

@[simp] theorem mem_emplace {key other : Key} {value : Value}
    {map : AList fun _ : Key => Value} :
    other ∈ emplace key value map ↔ other = key ∨ other ∈ map := by
  by_cases hMem : key ∈ map
  · rw [emplace_of_mem hMem]
    constructor
    · exact Or.inr
    · rintro (rfl | hOther)
      · exact hMem
      · exact hOther
  · rw [emplace_of_notMem hMem, AList.mem_insert]

/-- A value found after `emplace` is the new one or was there before. -/
theorem lookup_emplace_cases {key other : Key} {value found : Value}
    {map : AList fun _ : Key => Value}
    (hFound : (emplace key value map).lookup other = some found) :
    map.lookup other = some found ∨
      (other = key ∧ key ∉ map ∧ found = value) := by
  by_cases hMem : key ∈ map
  · rw [emplace_of_mem hMem] at hFound
    exact Or.inl hFound
  · rw [emplace_of_notMem hMem] at hFound
    by_cases hKey : other = key
    · subst hKey
      rw [AList.lookup_insert] at hFound
      exact Or.inr ⟨rfl, hMem, (Option.some.inj hFound).symm⟩
    · rw [AList.lookup_insert_ne hKey] at hFound
      exact Or.inl hFound

/-- The map holds the value under some key. -/
def Holds (map : AList fun _ : Key => Value) (value : Value) : Prop :=
  ∃ key, map.lookup key = some value

@[simp] theorem not_holds_empty (value : Value) :
    ¬ Holds (∅ : AList fun _ : Key => Value) value := by
  rintro ⟨key, hKey⟩
  simp at hKey

/-- The first value satisfying `test`, in the unspecified order of the map. -/
def findValue (test : Value → Bool) (map : AList fun _ : Key => Value) :
    Option Value :=
  (map.entries.map Sigma.snd).find? test

theorem holds_iff_mem_values {map : AList fun _ : Key => Value} {value : Value} :
    Holds map value ↔ value ∈ map.entries.map Sigma.snd := by
  simp only [Holds, List.mem_map, ← Option.mem_def, AList.mem_lookup_iff]
  constructor
  · rintro ⟨key, hKey⟩
    exact ⟨⟨key, value⟩, hKey, rfl⟩
  · rintro ⟨⟨key, _⟩, hEntry, rfl⟩
    exact ⟨key, hEntry⟩

/-- A found value is held by the map and passes the test. -/
theorem findValue_some {test : Value → Bool} {map : AList fun _ : Key => Value}
    {value : Value} (hFound : findValue test map = some value) :
    Holds map value ∧ test value = true := by
  refine ⟨holds_iff_mem_values.mpr (List.mem_of_find?_eq_some hFound), ?_⟩
  exact List.find?_some hFound

/-- The search fails only if no held value passes the test. -/
theorem findValue_none {test : Value → Bool} {map : AList fun _ : Key => Value}
    (hNone : findValue test map = none) {value : Value} (hHolds : Holds map value) :
    test value = false := by
  have hAll := List.find?_eq_none.mp hNone value (holds_iff_mem_values.mp hHolds)
  simpa using hAll

end UnorderedMap
end Library
end UtilsFramework
