import Mathlib.Data.List.Basic

/-!
# The bounded queue and the lane vector

`Queue` (`Queue.hpp`) refuses a push when it is full, `Vector` (`Vector.hpp`) drops its oldest
element instead. Both hold their elements oldest first. The source keeps `max` in an `int` and
compares it with a `size_t`, so it is a natural number here: every caller sets it to a constant.
-/

namespace RVDataFusionServer

/-- `Queue<T>`: elements oldest first, with an optional maximum. -/
structure Queue (α : Type*) where
  q : List α := []
  max : Nat := 0
  isSetMax : Bool := false
  deriving DecidableEq, Repr

namespace Queue

variable {α : Type*}

/-- `Queue::setMax`. -/
def setMax (queue : Queue α) (value : Nat) : Queue α :=
  { queue with max := value, isSetMax := true }

/-- The queue is at its maximum, so that the next push is refused. -/
def Full (queue : Queue α) : Prop :=
  queue.isSetMax = true ∧ queue.max ≤ queue.q.length

instance (queue : Queue α) : Decidable queue.Full :=
  inferInstanceAs (Decidable (_ ∧ _))

/-- `Queue::push`, with its return value. -/
def push (queue : Queue α) (t : α) : Queue α × Bool :=
  if queue.Full then (queue, false) else ({ queue with q := queue.q ++ [t] }, true)

/-- `Queue::pop`: `none` when it returns `false`. -/
def pop (queue : Queue α) : Option (α × Queue α) :=
  match queue.q with
  | [] => none
  | t :: rest => some (t, { queue with q := rest })

/-- `Queue::size`. -/
def size (queue : Queue α) : Nat := queue.q.length

@[simp] theorem q_setMax (queue : Queue α) (value : Nat) : (queue.setMax value).q = queue.q := rfl

/-- A push into a full queue changes nothing and returns `false`. -/
theorem push_of_full {queue : Queue α} (h : queue.Full) (t : α) :
    queue.push t = (queue, false) := by
  simp [push, h]

/-- A push into a queue with room appends the element and returns `true`. -/
theorem push_of_not_full {queue : Queue α} (h : ¬ queue.Full) (t : α) :
    queue.push t = ({ queue with q := queue.q ++ [t] }, true) := by
  simp [push, h]

end Queue

/-- `Vector<T>`: elements oldest first, with an optional maximum. -/
structure Vector (α : Type*) where
  q : List α := []
  max : Nat := 0
  isSetMax : Bool := false
  deriving DecidableEq, Repr

namespace Vector

variable {α : Type*}

/-- `Vector::setMax`. -/
def setMax (lane : Vector α) (value : Nat) : Vector α :=
  { lane with max := value, isSetMax := true }

/-- `Vector::push`: the element is always stored, and above the maximum the oldest one goes. -/
def push (lane : Vector α) (t : α) : Vector α :=
  if lane.isSetMax = true ∧ lane.max < (lane.q ++ [t]).length then
    { lane with q := (lane.q ++ [t]).tail }
  else { lane with q := lane.q ++ [t] }

/-- The lane is at its maximum, so that the next push drops the oldest element. -/
def Full (lane : Vector α) : Prop :=
  lane.isSetMax = true ∧ lane.max ≤ lane.q.length

instance (lane : Vector α) : Decidable lane.Full :=
  inferInstanceAs (Decidable (_ ∧ _))

/-- `Vector::getIndex`: `none` when it returns `false`. -/
def getIndex (lane : Vector α) (index : Int) : Option α :=
  if index < 0 then none else lane.q[index.toNat]?

/-- `Vector::eraseBegin`. -/
def eraseBegin (lane : Vector α) : Vector α := { lane with q := lane.q.tail }

@[simp] theorem q_setMax (lane : Vector α) (value : Nat) : (lane.setMax value).q = lane.q := rfl

/-- A push into a full lane drops the oldest element. -/
theorem push_of_full {lane : Vector α} (h : lane.Full) (t : α) :
    lane.push t = { lane with q := (lane.q ++ [t]).tail } := by
  have hmax : lane.isSetMax = true ∧ lane.max < (lane.q ++ [t]).length := by
    rw [List.length_append]
    exact ⟨h.1, Nat.lt_succ_of_le h.2⟩
  simp only [push, if_pos hmax]

/-- A push into a lane with room drops nothing. -/
theorem push_of_not_full {lane : Vector α} (h : ¬ lane.Full) (t : α) :
    lane.push t = { lane with q := lane.q ++ [t] } := by
  have hmax : ¬ (lane.isSetMax = true ∧ lane.max < (lane.q ++ [t]).length) := by
    rintro ⟨hset, hlt⟩
    rw [List.length_append] at hlt
    exact h ⟨hset, Nat.le_of_lt_succ hlt⟩
  simp only [push, if_neg hmax]

/-- A push drops at most the oldest element, and only from a full lane. -/
theorem mem_push_or {lane : Vector α} {t x : α} (h : x ∈ lane.q ++ [t]) :
    x ∈ (lane.push t).q ∨ lane.Full ∧ x ∈ (lane.q ++ [t]).take 1 := by
  by_cases hfull : lane.Full
  · rw [push_of_full hfull]
    rw [← List.take_append_drop 1 (lane.q ++ [t]), List.mem_append, List.drop_one] at h
    rcases h with hfirst | hrest
    · exact .inr ⟨hfull, hfirst⟩
    · exact .inl hrest
  · rw [push_of_not_full hfull]
    exact .inl h

/-- A push does not empty a lane. -/
theorem push_ne_nil {lane : Vector α} (h : lane.q ≠ []) (t : α) : (lane.push t).q ≠ [] := by
  have hpos := List.length_pos_of_ne_nil h
  intro hempty
  have hlength : (lane.push t).q.length = 0 := by rw [hempty]; rfl
  by_cases hfull : lane.Full
  · rw [push_of_full hfull] at hlength
    simp only [List.length_tail, List.length_append, List.length_singleton] at hlength
    omega
  · rw [push_of_not_full hfull] at hlength
    simp only [List.length_append, List.length_singleton] at hlength
    omega

/-- A push keeps the order of the elements. -/
theorem push_sublist (lane : Vector α) (t : α) : (lane.push t).q.Sublist (lane.q ++ [t]) := by
  unfold push
  split
  · exact List.tail_sublist _
  · exact List.Sublist.refl _

/-- So it does behind the oldest element. -/
theorem push_tail_sublist (lane : Vector α) (t : α) :
    (lane.push t).q.tail.Sublist (lane.q.tail ++ [t]) := by
  have htail : (lane.q ++ [t]).tail.Sublist (lane.q.tail ++ [t]) := by
    cases lane.q with
    | nil => exact List.nil_sublist _
    | cons first rest => exact List.Sublist.refl _
  unfold push
  split
  · exact (List.tail_sublist _).trans htail
  · exact htail

/-- A push adds only the element that is pushed. -/
theorem mem_push {lane : Vector α} {t x : α} (h : x ∈ (lane.push t).q) : x ∈ lane.q ∨ x = t := by
  have hsub : x ∈ lane.q ++ [t] := by
    unfold push at h
    split at h
    · exact List.mem_of_mem_tail h
    · exact h
  simpa using hsub

end Vector

end RVDataFusionServer
