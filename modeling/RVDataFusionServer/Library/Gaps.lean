import Mathlib.Algebra.Order.BigOperators.Group.List
import Mathlib.Algebra.Order.Group.Nat
import Mathlib.Tactic.Ring

/-!
# Gaps

The gaps of a list are the differences of its neighbours. Those of an increasing list of numbers
are positive and add up to the difference of its ends, and a mean that is rounded down lies between
the smallest and the largest number: `sum_gaps`, `pos_of_mem_gaps` and `mean_between`.
-/

namespace Library

/-- The differences of the neighbours in a list. -/
def gaps {α : Type*} [Sub α] (xs : List α) : List α := List.zipWith (· - ·) xs.tail xs

@[simp] theorem gaps_singleton {α : Type*} [Sub α] (x : α) : gaps [x] = [] := rfl

@[simp] theorem gaps_cons_cons {α : Type*} [Sub α] (x y : α) (xs : List α) :
    gaps (x :: y :: xs) = (y - x) :: gaps (y :: xs) := rfl

@[simp] theorem length_gaps {α : Type*} [Sub α] (xs : List α) :
    (gaps xs).length = xs.length - 1 := by
  simp [gaps]

/-- The gaps of an increasing list lead from its first number to its last one. -/
theorem sum_gaps (first : Nat) (rest : List Nat) (h : (first :: rest).Pairwise (· < ·)) :
    first + (gaps (first :: rest)).sum = rest.getLastD first := by
  induction rest generalizing first with
  | nil => rfl
  | cons second rest ih =>
      obtain ⟨hfirst, hrest⟩ := List.pairwise_cons.mp h
      have hlt : first < second := hfirst second (by simp)
      have hsum := ih second hrest
      rw [gaps_cons_cons, List.sum_cons, List.getLastD_cons, ← hsum]
      omega

/-- The gaps of an increasing list are positive. -/
theorem pos_of_mem_gaps (xs : List Nat) (h : xs.Pairwise (· < ·)) : ∀ gap ∈ gaps xs, 0 < gap := by
  induction xs with
  | nil => simp [gaps]
  | cons first rest ih =>
      cases rest with
      | nil => simp
      | cons second rest =>
          obtain ⟨hfirst, hrest⟩ := List.pairwise_cons.mp h
          have hlt : first < second := hfirst second (by simp)
          intro gap hgap
          rcases List.mem_cons.mp hgap with rfl | hmem
          · exact Nat.sub_pos_of_lt hlt
          · exact ih hrest gap hmem

/-- The mean is at least what all numbers are at least. -/
theorem le_mean {xs : List Nat} (hne : xs ≠ []) {low : Nat} (h : ∀ x ∈ xs, low ≤ x) :
    low ≤ xs.sum / xs.length := by
  have hsum := List.card_nsmul_le_sum xs low h
  rw [Nat.le_div_iff_mul_le (List.length_pos_of_ne_nil hne), Nat.mul_comm]
  simpa using hsum

/-- The mean is at most what all numbers are at most. -/
theorem mean_le {xs : List Nat} (hne : xs ≠ []) {high : Nat} (h : ∀ x ∈ xs, x ≤ high) :
    xs.sum / xs.length ≤ high := by
  have hsum := List.sum_le_card_nsmul xs high h
  rw [Nat.div_le_iff_le_mul_add_pred (List.length_pos_of_ne_nil hne)]
  have hmul : xs.sum ≤ xs.length * high := by simpa using hsum
  omega

/-- So the mean lies between the smallest number and the largest one. -/
theorem mean_between {xs : List Nat} (hne : xs ≠ []) :
    ∃ low high, xs.min? = some low ∧ xs.max? = some high ∧
      low ≤ xs.sum / xs.length ∧ xs.sum / xs.length ≤ high := by
  obtain ⟨low, hlow⟩ := Option.isSome_iff_exists.mp (List.isSome_min?_of_ne_nil hne)
  obtain ⟨high, hhigh⟩ := Option.isSome_iff_exists.mp (List.isSome_max?_of_ne_nil hne)
  exact ⟨low, high, hlow, hhigh, le_mean hne (List.min?_eq_some_iff.mp hlow).2,
    mean_le hne (List.max?_eq_some_iff.mp hhigh).2⟩

end Library
