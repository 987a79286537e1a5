import Mathlib.Data.List.Basic

/-!
# Lists that share with their neighbours only

A list of lists in which an element that stands in two of them stands in adjacent ones: no element
stands in three (`countP_le_two`). Such a list is built from the front with `append`.
-/

namespace Library

variable {α : Type*}

/-- Two lists that are not adjacent have no element in common. -/
def SharesNextOnly (lists : List (List α)) : Prop :=
  ∀ (i j : Nat) first second, lists[i]? = some first → lists[j]? = some second → i + 1 < j →
    first.Disjoint second

namespace SharesNextOnly

theorem nil : SharesNextOnly ([] : List (List α)) := by
  intro i j first second hfirst
  cases hfirst

/-- A list behind the others may share with the last one of them. -/
theorem append {lists : List (List α)} (h : SharesNextOnly lists) {last : List α}
    (hlast : ∀ first ∈ lists.dropLast, first.Disjoint last) : SharesNextOnly (lists ++ [last]) := by
  intro i j first second hfirst hsecond hlt
  have hj := (List.getElem?_eq_some_iff.mp hsecond).1
  rw [List.length_append, List.length_singleton] at hj
  rw [List.getElem?_append_left (by omega)] at hfirst
  by_cases hold : j < lists.length
  · rw [List.getElem?_append_left hold] at hsecond
    exact h i j first second hfirst hsecond hlt
  · obtain rfl : j = lists.length := by omega
    rw [List.getElem?_concat_length] at hsecond
    obtain rfl := Option.some.inj hsecond
    refine hlast first (List.mem_of_getElem? (i := i) ?_)
    rw [List.getElem?_dropLast, if_pos (by omega)]
    exact hfirst

/-- The lists behind the first one. -/
theorem tail {first : List α} {rest : List (List α)} (h : SharesNextOnly (first :: rest)) :
    SharesNextOnly rest :=
  fun i j x y hx hy hlt => h (i + 1) (j + 1) x y hx hy (by omega)

/-- What stands in the first list stands in no list behind the second one. -/
theorem not_mem_drop {first : List α} {rest : List (List α)} (h : SharesNextOnly (first :: rest))
    {x : α} (hx : x ∈ first) : ∀ later ∈ rest.drop 1, x ∉ later := by
  intro later hlater hmem
  obtain ⟨k, hk⟩ := List.mem_iff_getElem?.mp hlater
  rw [List.getElem?_drop] at hk
  have hget : (first :: rest)[1 + k + 1]? = some later := by rwa [List.getElem?_cons_succ]
  exact h 0 (1 + k + 1) first later rfl hget (by omega) hx hmem

/-- No element stands in more than two of the lists. -/
theorem countP_le_two [DecidableEq α] {lists : List (List α)} (h : SharesNextOnly lists) (x : α) :
    lists.countP (x ∈ ·) ≤ 2 := by
  induction lists with
  | nil => exact Nat.zero_le 2
  | cons first rest ih =>
      by_cases hx : x ∈ first
      · have hlater : (rest.drop 1).countP (x ∈ ·) = 0 := by
          rw [List.countP_eq_zero]
          simpa using h.not_mem_drop hx
        have hsplit := @List.countP_append _ (fun l => x ∈ l) (rest.take 1) (rest.drop 1)
        rw [List.take_append_drop] at hsplit
        have hone : (rest.take 1).countP (x ∈ ·) ≤ 1 :=
          Nat.le_trans List.countP_le_length (List.length_take_le 1 rest)
        rw [List.countP_cons_of_pos (by simpa using hx)]
        omega
      · rw [List.countP_cons_of_neg (by simpa using hx)]
        exact ih h.tail

end SharesNextOnly

end Library
