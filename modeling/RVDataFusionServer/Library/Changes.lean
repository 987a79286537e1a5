import Mathlib.Data.List.Destutter

/-!
# Sequences without repetitions

`List.destutter (· ≠ ·)` removes consecutive repetitions. An element behind a list is kept exactly
if it differs from the last one (`destutter_concat`), and the last one is never lost
(`getLast?_destutter`).
-/

namespace Library

variable {α : Type*} [DecidableEq α]

/-- An element behind a list with a first element. -/
theorem destutter'_concat (first : α) (rest : List α) (x : α) :
    List.destutter' (· ≠ ·) first (rest ++ [x]) =
      if (first :: rest).getLast? = some x then List.destutter' (· ≠ ·) first rest
      else List.destutter' (· ≠ ·) first rest ++ [x] := by
  induction rest generalizing first with
  | nil => by_cases h : first = x <;> simp [h]
  | cons second rest ih =>
      rw [List.cons_append, List.destutter', List.destutter']
      by_cases h : first = second
      · subst h
        simpa using ih first
      · rw [if_pos h, if_pos h, ih second, List.getLast?_cons_cons]
        split <;> rfl

/-- An element behind a list is kept exactly if the list does not end with it. -/
theorem destutter_concat (xs : List α) (x : α) :
    (xs ++ [x]).destutter (· ≠ ·) =
      if xs.getLast? = some x then xs.destutter (· ≠ ·) else xs.destutter (· ≠ ·) ++ [x] := by
  cases xs with
  | nil => simp
  | cons first rest => exact destutter'_concat first rest x

/-- The last element is kept. -/
theorem getLast?_destutter (xs : List α) : (xs.destutter (· ≠ ·)).getLast? = xs.getLast? := by
  induction xs using List.reverseRecOn with
  | nil => rfl
  | append_singleton xs x ih =>
      rw [destutter_concat, List.getLast?_concat]
      split_ifs with hlast
      · rw [ih, hlast]
      · exact List.getLast?_concat

end Library
