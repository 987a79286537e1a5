import Mathlib.Data.List.Basic

/-!
# Bounded queues

A queue with room for `capacity` items. `append` takes all of its data or none, `take` gives all
the items that it is asked for or none, and the two lengths add up to the capacity. `step` is the
queue as a machine that executes commands.
-/

namespace Library

/-- A queue of at most `capacity` items, oldest item first. -/
structure BoundedQueue (α : Type*) (capacity : Nat) where
  items : List α
  fits : items.length ≤ capacity

namespace BoundedQueue

variable {α : Type*} {capacity : Nat}

/-- What can be asked of a queue. -/
inductive Command (α : Type*) where
  | append (data : List α)
  | take (count : Nat)
  | length
  | space

/-- What a queue answers: a number of items or the items themselves. -/
inductive Reply (α : Type*) where
  | count (n : Nat)
  | items (data : List α)
  deriving DecidableEq

/-- The queue without items. -/
def empty : BoundedQueue α capacity where
  items := []
  fits := Nat.zero_le _

/-- Append data that fits, and tell how much was appended. -/
def append (queue : BoundedQueue α capacity) (data : List α) : BoundedQueue α capacity × Nat :=
  if h : queue.items.length + data.length ≤ capacity then
    (⟨queue.items ++ data, by rw [List.length_append]; exact h⟩, data.length)
  else (queue, 0)

/-- Take the oldest `count` items, when there are as many. -/
def take (queue : BoundedQueue α capacity) (count : Nat) : BoundedQueue α capacity × List α :=
  if count ≤ queue.items.length then
    (⟨queue.items.drop count, by
      rw [List.length_drop]
      exact Nat.le_trans (Nat.sub_le _ _) queue.fits⟩, queue.items.take count)
  else (queue, [])

/-- Execute one command. -/
def step (queue : BoundedQueue α capacity) :
    Command α → BoundedQueue α capacity × Reply α
  | .append data => ((queue.append data).1, .count (queue.append data).2)
  | .take count => ((queue.take count).1, .items (queue.take count).2)
  | .length => (queue, .count queue.items.length)
  | .space => (queue, .count (capacity - queue.items.length))

variable {queue : BoundedQueue α capacity}

/-- Data that fits is appended. -/
theorem append_of_fits {data : List α} (h : queue.items.length + data.length ≤ capacity) :
    (queue.append data).1.items = queue.items ++ data ∧ (queue.append data).2 = data.length := by
  simp [append, h]

/-- Data that does not fit is refused. -/
theorem append_of_not_fits {data : List α} (h : capacity < queue.items.length + data.length) :
    queue.append data = (queue, 0) := by
  simp [append, Nat.not_le.mpr h]

/-- Items that are there are taken from the front. -/
theorem take_of_le {count : Nat} (h : count ≤ queue.items.length) :
    (queue.take count).1.items = queue.items.drop count ∧
      (queue.take count).2 = queue.items.take count := by
  simp [take, h]

/-- A request for more items than there are is refused. -/
theorem take_of_lt {count : Nat} (h : queue.items.length < count) :
    queue.take count = (queue, []) := by
  simp [take, Nat.not_le.mpr h]

end BoundedQueue

end Library
