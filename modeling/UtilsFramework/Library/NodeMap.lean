import Mathlib.Data.List.AList
import Mathlib.Tactic.Common

/-!
# A map whose values stay where they are

A node-based map (`std::unordered_map` is one) keeps each value in a node of
its own: insertions and rehashes leave references to a value valid, and only
erasing its key destroys it.  A node is known by its address, which no later
node reuses.  The structure carries the proof that addresses tell nodes apart,
so a reference is an address and is valid exactly while the map holds it.
-/

namespace UtilsFramework
namespace Library

structure Node (Value : Type*) where
  address : Nat
  value : Value
deriving DecidableEq, Repr

/-- `fresh` is the address of the next node. -/
structure NodeMap (Key Value : Type*) [DecidableEq Key] where
  nodes : AList fun _ : Key => Node Value
  fresh : Nat
  old : ∀ key node, nodes.lookup key = some node → node.address < fresh
  distinct : ∀ key other node found, nodes.lookup key = some node →
    nodes.lookup other = some found → node.address = found.address → key = other

namespace NodeMap

variable {Key Value : Type*} [DecidableEq Key]

def empty : NodeMap Key Value where
  nodes := ∅
  fresh := 0
  old := by simp
  distinct := by simp

def find (map : NodeMap Key Value) (key : Key) : Option (Node Value) :=
  map.nodes.lookup key

theorem lookup_insert_cases {nodes : AList fun _ : Key => Node Value} {key other : Key}
    {node found : Node Value} (hFound : (nodes.insert key node).lookup other = some found) :
    (other = key ∧ found = node) ∨ (other ≠ key ∧ nodes.lookup other = some found) := by
  by_cases hKey : other = key
  · subst hKey
    rw [AList.lookup_insert] at hFound
    exact Or.inl ⟨rfl, (Option.some.inj hFound).symm⟩
  · rw [AList.lookup_insert_ne hKey] at hFound
    exact Or.inr ⟨hKey, hFound⟩

theorem lookup_erase_some {nodes : AList fun _ : Key => Node Value} {key other : Key}
    {found : Node Value} (hFound : (nodes.erase key).lookup other = some found) :
    other ≠ key ∧ nodes.lookup other = some found := by
  by_cases hKey : other = key
  · subst hKey
    rw [AList.lookup_erase] at hFound
    cases hFound
  · rw [AList.lookup_erase_ne hKey] at hFound
    exact ⟨hKey, hFound⟩

/-- A new node for the key, unless it has one. -/
def emplace (key : Key) (value : Value) (map : NodeMap Key Value) : NodeMap Key Value :=
  if key ∈ map.nodes then map
  else
    { nodes := map.nodes.insert key ⟨map.fresh, value⟩
      fresh := map.fresh + 1
      old := by
        intro other found hFound
        rcases lookup_insert_cases hFound with ⟨_, rfl⟩ | ⟨_, hOld⟩
        · exact Nat.lt_succ_self _
        · exact Nat.lt_succ_of_lt (map.old other found hOld)
      distinct := by
        intro first second node found hFirst hSecond hSame
        rcases lookup_insert_cases hFirst with ⟨rfl, rfl⟩ | ⟨_, hOldFirst⟩ <;>
          rcases lookup_insert_cases hSecond with ⟨rfl, rfl⟩ | ⟨_, hOldSecond⟩
        · rfl
        · exact absurd hSame.symm (Nat.ne_of_lt (map.old second found hOldSecond))
        · exact absurd hSame (Nat.ne_of_lt (map.old first node hOldFirst))
        · exact map.distinct first second node found hOldFirst hOldSecond hSame }

/-- The node of the key is destroyed. -/
def erase (key : Key) (map : NodeMap Key Value) : NodeMap Key Value where
  nodes := map.nodes.erase key
  fresh := map.fresh
  old := fun other found hFound => map.old other found (lookup_erase_some hFound).2
  distinct := fun first second node found hFirst hSecond =>
    map.distinct first second node found (lookup_erase_some hFirst).2
      (lookup_erase_some hSecond).2

/-- A reference to the node at the address is valid. -/
def Live (map : NodeMap Key Value) (address : Nat) : Prop :=
  ∃ key node, map.find key = some node ∧ node.address = address

theorem Live.of_find {map : NodeMap Key Value} {key : Key} {node : Node Value}
    (hFind : map.find key = some node) : map.Live node.address :=
  ⟨key, node, hFind, rfl⟩

theorem find_emplace_of_find {map : NodeMap Key Value} {key other : Key} {value : Value}
    {node : Node Value} (hFind : map.find other = some node) :
    (map.emplace key value).find other = some node := by
  unfold emplace
  split
  · exact hFind
  · rename_i hMem
    have hKey : other ≠ key := by
      rintro rfl
      rw [find, AList.lookup_eq_none.mpr hMem] at hFind
      cases hFind
    exact (AList.lookup_insert_ne hKey).trans hFind

theorem find_emplace_of_none {map : NodeMap Key Value} {key : Key} {value : Value}
    (hNone : map.find key = none) :
    (map.emplace key value).find key = some ⟨map.fresh, value⟩ := by
  rw [emplace, if_neg (AList.lookup_eq_none.mp hNone)]
  exact AList.lookup_insert _

theorem find_emplace_of_ne {map : NodeMap Key Value} {key other : Key} {value : Value}
    (hKey : other ≠ key) : (map.emplace key value).find other = map.find other := by
  unfold emplace
  split
  · rfl
  · exact AList.lookup_insert_ne hKey

theorem find_erase_self (map : NodeMap Key Value) (key : Key) :
    (map.erase key).find key = none :=
  AList.lookup_erase _ _

theorem find_erase_of_ne {map : NodeMap Key Value} {key other : Key}
    (hKey : other ≠ key) : (map.erase key).find other = map.find other :=
  AList.lookup_erase_ne hKey

/-- Erasing a key invalidates the references to its node and no others. -/
theorem live_erase_iff {map : NodeMap Key Value} {key other : Key} {node : Node Value}
    (hFind : map.find other = some node) :
    (map.erase key).Live node.address ↔ other ≠ key := by
  constructor
  · rintro ⟨third, found, hFound, hSame⟩ rfl
    obtain ⟨hKey, hOld⟩ := lookup_erase_some hFound
    exact hKey (map.distinct third other found node hOld hFind hSame)
  · intro hKey
    exact .of_find (by rw [find_erase_of_ne hKey, hFind])

end NodeMap
end Library
end UtilsFramework
