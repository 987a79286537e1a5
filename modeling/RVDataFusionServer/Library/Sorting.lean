import Mathlib.Data.List.Sort

/-!
# Sorting routines

A `Sorter` for a comparator is a routine such as `std::sort`: the result is a permutation without a
pair in the wrong order, and what becomes of elements that compare equal is up to the routine. There
is one for every comparator that compares keys (`Sorter.ofKey`), and all of them leave a list alone
that ascends strictly (`Sorter.sort_eq_self`).
-/

namespace Library

variable {α κ : Type}

/-- A sorting routine for the comparator `lt`. -/
structure Sorter (lt : α → α → Bool) where
  sort : List α → List α
  perm : ∀ items, (sort items).Perm items
  sorted : ∀ items, (sort items).Pairwise fun a b => lt b a = false

namespace Sorter

variable {lt : α → α → Bool}

/-- Merge sort, for a comparator that compares keys. -/
def ofKey [LinearOrder κ] (key : α → κ) (hlt : ∀ a b, lt a b = true ↔ key a < key b) :
    Sorter lt where
  sort items := items.mergeSort fun a b => decide (key a ≤ key b)
  perm items := List.mergeSort_perm items _
  sorted items := by
    have hsorted := @List.pairwise_mergeSort α (fun a b => decide (key a ≤ key b))
      (fun _ _ _ hab hbc =>
        decide_eq_true (le_trans (of_decide_eq_true hab) (of_decide_eq_true hbc)))
      (fun a b => (Bool.or_eq_true _ _).mpr
        ((le_total (key a) (key b)).imp decide_eq_true decide_eq_true)) items
    apply hsorted.imp
    intro a b h
    rw [Bool.eq_false_iff, Ne, hlt]
    exact not_lt_of_ge (of_decide_eq_true h)

/-- In a list that ascends strictly, elements that compare equal are one. -/
theorem eq_of_ascending {items : List α} (hasc : items.Pairwise fun a b => lt a b = true)
    {a b : α} (ha : a ∈ items) (hb : b ∈ items) (hab : lt a b = false) (hba : lt b a = false) :
    a = b := by
  obtain ⟨i, hi, rfl⟩ := List.mem_iff_getElem.mp ha
  obtain ⟨j, hj, rfl⟩ := List.mem_iff_getElem.mp hb
  rw [List.pairwise_iff_getElem] at hasc
  obtain hlt | heq | hgt := Nat.lt_trichotomy i j
  · rw [hasc i j hi hj hlt] at hab
    cases hab
  · cases heq
    rfl
  · rw [hasc j i hj hi hgt] at hba
    cases hba

/-- A list that ascends strictly stays as it is. -/
theorem sort_eq_self (sorter : Sorter lt) {items : List α}
    (hasc : items.Pairwise fun a b => lt a b = true ∧ lt b a = false) :
    sorter.sort items = items := by
  have hanti : ∀ a b, a ∈ sorter.sort items → b ∈ items → lt b a = false → lt a b = false →
      a = b := by
    intro a b ha hb hba hab
    exact eq_of_ascending (hasc.imp And.left) ((sorter.perm items).mem_iff.mp ha) hb hab hba
  exact List.Perm.eq_of_pairwise hanti (sorter.sorted items) (hasc.imp And.right)
    (sorter.perm items)

end Sorter

end Library
