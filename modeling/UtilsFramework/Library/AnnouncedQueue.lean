import Mathlib.Data.List.Basic
import Mathlib.Tactic.Common

/-!
# Queues announced through a semaphore

Producers put an item into a queue and announce it afterwards by a token of a
semaphore; a consumer claims a token and takes the first item afterwards.  The
two halves of each side are separate steps, so queue and semaphore are never
updated together.  What remains true between the steps is a balance: every item
in the queue is unannounced, announced by a token, or claimed.  The structure
carries the balance and the order of the items as fields; the consumer
therefore never finds the queue empty, and items are taken as they were put.
-/

namespace UtilsFramework
namespace Library

/-- `put` and `taken` are all items ever put and taken, in order. -/
structure AnnouncedQueue (Item : Type*) where
  put : List Item
  taken : List Item
  items : List Item
  tokens : Nat
  unannounced : Nat
  claimed : Nat
  inOrder : taken ++ items = put
  balanced : items.length = tokens + unannounced + claimed

namespace AnnouncedQueue

variable {Item : Type*}

def empty : AnnouncedQueue Item where
  put := []
  taken := []
  items := []
  tokens := 0
  unannounced := 0
  claimed := 0
  inOrder := rfl
  balanced := rfl

/-- The first half of a producer. -/
def enqueue (queue : AnnouncedQueue Item) (item : Item) : AnnouncedQueue Item :=
  { queue with
    put := queue.put ++ [item]
    items := queue.items ++ [item]
    unannounced := queue.unannounced + 1
    inOrder := by rw [← List.append_assoc, queue.inOrder]
    balanced := by
      have hBalanced := queue.balanced
      rw [List.length_append, List.length_singleton]
      omega }

/-- The second half of a producer. -/
def announce (queue : AnnouncedQueue Item) (hUnannounced : 0 < queue.unannounced) :
    AnnouncedQueue Item :=
  { queue with
    tokens := queue.tokens + 1
    unannounced := queue.unannounced - 1
    balanced := by
      have hBalanced := queue.balanced
      omega }

/-- The first half of the consumer. -/
def claim (queue : AnnouncedQueue Item) (hToken : 0 < queue.tokens) :
    AnnouncedQueue Item :=
  { queue with
    tokens := queue.tokens - 1
    claimed := queue.claimed + 1
    balanced := by
      have hBalanced := queue.balanced
      omega }

/-- A consumer with a claim finds an item. -/
theorem items_ne_nil (queue : AnnouncedQueue Item) (hClaimed : 0 < queue.claimed) :
    queue.items ≠ [] := by
  intro hEmpty
  have hBalanced := queue.balanced
  rw [hEmpty, List.length_nil] at hBalanced
  omega

/-- The second half of the consumer. -/
def dequeue (queue : AnnouncedQueue Item) (item : Item) (rest : List Item)
    (hItems : queue.items = item :: rest) (hClaimed : 0 < queue.claimed) :
    AnnouncedQueue Item :=
  { queue with
    taken := queue.taken ++ [item]
    items := rest
    claimed := queue.claimed - 1
    inOrder := by rw [← queue.inOrder, hItems, List.append_assoc, List.singleton_append]
    balanced := by
      have hBalanced := queue.balanced
      rw [hItems, List.length_cons] at hBalanced
      omega }

end AnnouncedQueue
end Library
end UtilsFramework
