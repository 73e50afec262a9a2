import Mathlib.Data.List.InsertIdx
import Mathlib.Data.List.TakeWhile
import Mathlib.Order.Lattice
import Mathlib.Tactic.Common

/-!
# Ordered multimaps

The ordered associative container with repeated keys: entries are sorted by
key, and entries of one key stand in the order of their insertion.  The
structure carries the proof of sortedness, so an unordered container cannot be
built.  An iterator is the position it points to, and `begin` is position 0.

`emplace` inserts behind all entries whose key is not larger.  Two facts about
it carry most of what follows: the result is a permutation of the old entries
and the new one, and an insertion at position 0 is undone by erasing its key,
because no older entry can have that key.
-/

namespace UtilsFramework
namespace Library

/-- Entries in ascending order of their keys. -/
@[ext]
structure OrderedMultimap (Key Value : Type*) [LinearOrder Key] where
  entries : List (Key × Value)
  sorted : entries.Pairwise fun earlier later => earlier.1 ≤ later.1

namespace OrderedMultimap

variable {Key Value Image : Type*} [LinearOrder Key]

instance [DecidableEq Value] : DecidableEq (OrderedMultimap Key Value) :=
  fun left right => decidable_of_iff (left.entries = right.entries) OrderedMultimap.ext_iff.symm

/-- The container without entries. -/
def empty : OrderedMultimap Key Value where
  entries := []
  sorted := List.Pairwise.nil

/-- The entry an iterator at the beginning points to. -/
def first? (map : OrderedMultimap Key Value) : Option (Key × Value) :=
  map.entries.head?

/-- The entry comes no later than `key`. -/
def notAfter (key : Key) (entry : Key × Value) : Bool :=
  decide (entry.1 ≤ key)

/-- The position at which `emplace` inserts. -/
def upperBound (map : OrderedMultimap Key Value) (key : Key) : Nat :=
  (map.entries.takeWhile (notAfter key)).length

theorem mem_takeWhile_notAfter {key : Key} {entry : Key × Value}
    {entries : List (Key × Value)}
    (hMem : entry ∈ entries.takeWhile (notAfter key)) : entry.1 ≤ key := by
  simpa [notAfter] using List.mem_takeWhile_imp hMem

/-- In a sorted list the entries from the insertion point on are later. -/
theorem lt_of_mem_dropWhile {key : Key} {entries : List (Key × Value)}
    (hSorted : entries.Pairwise fun earlier later => earlier.1 ≤ later.1)
    {entry : Key × Value} (hMem : entry ∈ entries.dropWhile (notAfter key)) :
    key < entry.1 := by
  induction entries with
  | nil => simp at hMem
  | cons head rest ih =>
      rw [List.pairwise_cons] at hSorted
      by_cases hHead : head.1 ≤ key
      · have hTest : notAfter key head = true := decide_eq_true hHead
        rw [List.dropWhile_cons_of_pos hTest] at hMem
        exact ih hSorted.2 hMem
      · have hTest : ¬ notAfter key head = true := by
          simpa [notAfter] using hHead
        rw [List.dropWhile_cons_of_neg hTest] at hMem
        have hLater : key < head.1 := not_le.mp hHead
        rcases List.mem_cons.mp hMem with rfl | hRest
        · exact hLater
        · exact lt_of_lt_of_le hLater (hSorted.1 entry hRest)

/-- Insert behind the entries whose key is not larger. -/
def emplace (map : OrderedMultimap Key Value) (key : Key) (value : Value) :
    OrderedMultimap Key Value where
  entries := map.entries.takeWhile (notAfter key) ++
    (key, value) :: map.entries.dropWhile (notAfter key)
  sorted := by
    have hParts := map.sorted
    rw [← List.takeWhile_append_dropWhile (p := notAfter key) (l := map.entries),
      List.pairwise_append] at hParts
    obtain ⟨hBefore, hAfter, hAcross⟩ := hParts
    rw [List.pairwise_append]
    refine ⟨hBefore, List.pairwise_cons.mpr ⟨?_, hAfter⟩, ?_⟩
    · intro entry hEntry
      exact (lt_of_mem_dropWhile map.sorted hEntry).le
    · intro earlier hEarlier later hLater
      rcases List.mem_cons.mp hLater with rfl | hLater
      · exact mem_takeWhile_notAfter hEarlier
      · exact hAcross earlier hEarlier later hLater

/-- Erase the entry at a position. -/
def eraseAt (map : OrderedMultimap Key Value) (position : Nat) :
    OrderedMultimap Key Value where
  entries := map.entries.eraseIdx position
  sorted := map.sorted.eraseIdx position

/-- Erase every entry of a key. -/
def eraseKey (map : OrderedMultimap Key Value) (key : Key) :
    OrderedMultimap Key Value where
  entries := map.entries.filter fun entry => decide (entry.1 ≠ key)
  sorted := map.sorted.filter _

/-- The first position whose value passes a test. -/
def findPosition (map : OrderedMultimap Key Value) (test : Value → Bool) : Option Nat :=
  map.entries.findIdx? fun entry => test entry.2

/-- Replace every value by its image. -/
def mapValues (image : Value → Image) (map : OrderedMultimap Key Value) :
    OrderedMultimap Key Image where
  entries := map.entries.map fun entry => (entry.1, image entry.2)
  sorted := by
    rw [List.pairwise_map]
    exact map.sorted

@[simp]
theorem entries_empty : (empty : OrderedMultimap Key Value).entries = [] := rfl

/-! ## The first entry -/

theorem first?_eq_none {map : OrderedMultimap Key Value} :
    map.first? = none ↔ map.entries = [] :=
  List.head?_eq_none_iff

theorem mem_of_first? {map : OrderedMultimap Key Value} {entry : Key × Value}
    (hFirst : map.first? = some entry) : entry ∈ map.entries :=
  List.mem_of_mem_head? hFirst

/-- The first key is the smallest. -/
theorem first_le {map : OrderedMultimap Key Value} {entry other : Key × Value}
    (hFirst : map.first? = some entry) (hMem : other ∈ map.entries) :
    entry.1 ≤ other.1 := by
  obtain ⟨rest, hEntries⟩ := List.head?_eq_some_iff.mp hFirst
  have hSorted := map.sorted
  rw [hEntries, List.pairwise_cons] at hSorted
  rw [hEntries] at hMem
  rcases List.mem_cons.mp hMem with rfl | hRest
  · exact le_refl _
  · exact hSorted.1 other hRest

/-! ## Insertion -/

theorem emplace_perm (map : OrderedMultimap Key Value) (key : Key) (value : Value) :
    (map.emplace key value).entries.Perm ((key, value) :: map.entries) := by
  have hPerm : (map.emplace key value).entries.Perm
      ((key, value) :: (map.entries.takeWhile (notAfter key) ++
        map.entries.dropWhile (notAfter key))) := List.perm_middle
  rwa [List.takeWhile_append_dropWhile] at hPerm

@[simp]
theorem mem_emplace {map : OrderedMultimap Key Value} {key : Key} {value : Value}
    {entry : Key × Value} :
    entry ∈ (map.emplace key value).entries ↔
      entry = (key, value) ∨ entry ∈ map.entries := by
  rw [(map.emplace_perm key value).mem_iff, List.mem_cons]

theorem upperBound_eq_zero {map : OrderedMultimap Key Value} {key : Key} :
    map.upperBound key = 0 ↔ ∀ entry ∈ map.entries, key < entry.1 := by
  rw [upperBound, List.length_eq_zero_iff]
  constructor
  · intro hNone entry hEntry
    apply lt_of_mem_dropWhile map.sorted
    have hAll := List.takeWhile_append_dropWhile (p := notAfter key) (l := map.entries)
    rw [hNone, List.nil_append] at hAll
    rwa [hAll]
  · intro hLater
    rw [List.eq_nil_iff_forall_not_mem]
    intro entry hEntry
    have hMem : entry ∈ map.entries := (List.takeWhile_sublist _).subset hEntry
    have hNotAfter : entry.1 ≤ key := mem_takeWhile_notAfter hEntry
    have hAfter : key < entry.1 := hLater entry hMem
    exact absurd hNotAfter (not_le.mpr hAfter)

/-- An insertion at the beginning leaves all older entries behind it. -/
theorem entries_emplace_of_zero {map : OrderedMultimap Key Value} {key : Key}
    (value : Value) (hZero : map.upperBound key = 0) :
    (map.emplace key value).entries = (key, value) :: map.entries := by
  rw [upperBound, List.length_eq_zero_iff] at hZero
  have hAll := List.takeWhile_append_dropWhile (p := notAfter key) (l := map.entries)
  rw [hZero, List.nil_append] at hAll
  simp only [emplace, hZero, hAll, List.nil_append]

/-- An insertion at the beginning becomes the first entry. -/
theorem first?_emplace_of_zero {map : OrderedMultimap Key Value} {key : Key}
    (value : Value) (hZero : map.upperBound key = 0) :
    (map.emplace key value).first? = some (key, value) := by
  rw [first?, entries_emplace_of_zero value hZero, List.head?_cons]

/-- Any other insertion leaves the first entry in place, and there is one. -/
theorem first?_emplace_of_ne_zero {map : OrderedMultimap Key Value} {key : Key}
    (value : Value) (hNonzero : map.upperBound key ≠ 0) :
    (map.emplace key value).first? = map.first? ∧ map.first? ≠ none := by
  rw [upperBound, Ne, List.length_eq_zero_iff] at hNonzero
  cases hEntries : map.entries with
  | nil => simp [hEntries] at hNonzero
  | cons head rest =>
      have hHead : notAfter key head = true := by
        by_contra hLater
        apply hNonzero
        rw [hEntries, List.takeWhile_cons_of_neg hLater]
      simp [first?, emplace, hEntries, List.takeWhile_cons_of_pos hHead]

/-- Erasing the key of an insertion at the beginning undoes the insertion: no
older entry can have that key. -/
theorem eraseKey_emplace_of_zero {map : OrderedMultimap Key Value} {key : Key}
    (value : Value) (hZero : map.upperBound key = 0) :
    (map.emplace key value).eraseKey key = map := by
  have hLater := upperBound_eq_zero.mp hZero
  ext1
  simp only [eraseKey, entries_emplace_of_zero value hZero]
  rw [List.filter_cons_of_neg (by simp), List.filter_eq_self]
  intro entry hEntry
  exact decide_eq_true (hLater entry hEntry).ne'

/-- No other entry has the key of an insertion at the beginning. -/
theorem eq_of_mem_emplace_of_zero {map : OrderedMultimap Key Value} {key : Key}
    {value : Value} (hZero : map.upperBound key = 0) {entry : Key × Value}
    (hEntry : entry ∈ (map.emplace key value).entries) (hKey : entry.1 = key) :
    entry = (key, value) := by
  rcases mem_emplace.mp hEntry with rfl | hOld
  · rfl
  · exact absurd hKey (upperBound_eq_zero.mp hZero entry hOld).ne'

/-! ## Erasure -/

theorem mem_of_mem_eraseAt {map : OrderedMultimap Key Value} {position : Nat}
    {entry : Key × Value} (hMem : entry ∈ (map.eraseAt position).entries) :
    entry ∈ map.entries :=
  (List.eraseIdx_sublist _ _).subset hMem

theorem entries_eraseAt_zero (map : OrderedMultimap Key Value) :
    (map.eraseAt 0).entries = map.entries.tail :=
  List.eraseIdx_zero

/-- Erasing behind the beginning leaves the first entry in place. -/
theorem first?_eraseAt_of_ne_zero {map : OrderedMultimap Key Value} {position : Nat}
    (hNonzero : position ≠ 0) : (map.eraseAt position).first? = map.first? := by
  obtain ⟨before, rfl⟩ := Nat.exists_eq_succ_of_ne_zero hNonzero
  cases hEntries : map.entries with
  | nil => simp [first?, eraseAt, hEntries]
  | cons head rest => simp [first?, eraseAt, hEntries]

theorem findPosition_none {map : OrderedMultimap Key Value} {test : Value → Bool} :
    map.findPosition test = none ↔ ∀ entry ∈ map.entries, test entry.2 = false :=
  List.findIdx?_eq_none_iff

/-- A found position splits the entries around the first value that passes. -/
theorem findPosition_some {map : OrderedMultimap Key Value} {test : Value → Bool}
    {position : Nat} (hFound : map.findPosition test = some position) :
    ∃ before found after,
      map.entries = before ++ found :: after ∧
      (map.eraseAt position).entries = before ++ after ∧
      position = before.length ∧ test found.2 = true ∧
      ∀ entry ∈ before, test entry.2 = false := by
  obtain ⟨hLength, hTest, hBefore⟩ := List.findIdx?_eq_some_iff_getElem.mp hFound
  refine ⟨map.entries.take position, map.entries[position],
    map.entries.drop (position + 1), ?_, ?_, ?_, hTest, ?_⟩
  · rw [List.getElem_cons_drop, List.take_append_drop]
  · exact List.eraseIdx_eq_take_drop_succ _ _
  · rw [List.length_take, Nat.min_eq_left hLength.le]
  · intro entry hEntry
    obtain ⟨index, hIndex, rfl⟩ := List.mem_iff_getElem.mp hEntry
    rw [List.length_take] at hIndex
    rw [List.getElem_take]
    have hEarlier : index < position := by omega
    simpa using hBefore index hEarlier

/-! ## Images -/

@[simp]
theorem mapValues_empty (image : Value → Image) :
    mapValues image (empty : OrderedMultimap Key Value) = empty := rfl

theorem mapValues_emplace (image : Value → Image) (map : OrderedMultimap Key Value)
    (key : Key) (value : Value) :
    mapValues image (map.emplace key value) =
      (mapValues image map).emplace key (image value) := by
  ext1
  simp only [mapValues, emplace, List.map_append, List.map_cons, List.takeWhile_map,
    List.dropWhile_map]
  rfl

theorem mapValues_eraseAt (image : Value → Image) (map : OrderedMultimap Key Value)
    (position : Nat) :
    mapValues image (map.eraseAt position) = (mapValues image map).eraseAt position := by
  ext1
  exact (List.eraseIdx_map _ _ _).symm

theorem mem_mapValues {image : Value → Image} {map : OrderedMultimap Key Value}
    {entry : Key × Value} (hMem : entry ∈ map.entries) :
    (entry.1, image entry.2) ∈ (mapValues image map).entries :=
  List.mem_map_of_mem hMem

theorem first?_mapValues (image : Value → Image) (map : OrderedMultimap Key Value) :
    (mapValues image map).first? =
      map.first?.map fun entry => (entry.1, image entry.2) := by
  simp [first?, mapValues]

end OrderedMultimap
end Library
end UtilsFramework
