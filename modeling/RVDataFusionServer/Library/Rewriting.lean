import Mathlib.Data.List.Basic

/-!
# Rewriting a table row by row

A table is rewritten by one statement that deletes its rows and one for each new row. The
statements are numbered, any of them may fail, and one that fails has no effect. `rewritten` is
what the table then holds. The two lemmas to use are `rewritten_of_none_fails` and
`rewritten_self_iff`, which says when a table that already holds the new rows still does.
-/

namespace Library.Rewriting

variable {α : Type*}

/-- The rows that are inserted when the statement for the first one has the number `first`. -/
def inserted (fails : Nat → Bool) : Nat → List α → List α
  | _, [] => []
  | first, row :: rows =>
      if fails first then inserted fails (first + 1) rows
      else row :: inserted fails (first + 1) rows

/-- What a table with the rows `old` holds after it has been rewritten with `rows`, beginning with
the statement number `first`. -/
def rewritten (fails : Nat → Bool) (first : Nat) (old rows : List α) : List α :=
  (if fails first then old else []) ++ inserted fails (first + 1) rows

variable {fails : Nat → Bool}

/-- What holds of consecutive statements holds of the first and of those behind it. -/
theorem forall_statements_succ (first count : Nat) (b : Bool) :
    (∀ k < count + 1, fails (first + k) = b) ↔
      fails first = b ∧ ∀ k < count, fails (first + 1 + k) = b := by
  rw [Nat.forall_lt_succ_left]
  simp only [Nat.add_zero, Nat.add_assoc, Nat.add_comm 1]

/-- No more rows are inserted than there are. -/
theorem length_inserted_le (fails : Nat → Bool) (first : Nat) (rows : List α) :
    (inserted fails first rows).length ≤ rows.length := by
  induction rows generalizing first with
  | nil => simp [inserted]
  | cons row rows ih =>
      have hrest := ih (first + 1)
      unfold inserted
      split
      · simp only [List.length_cons]
        omega
      · simpa using hrest

/-- The inserted rows are all rows exactly if no statement fails. -/
theorem inserted_eq_self_iff (first : Nat) (rows : List α) :
    inserted fails first rows = rows ↔ ∀ k < rows.length, fails (first + k) = false := by
  induction rows generalizing first with
  | nil => simp [inserted]
  | cons row rows ih =>
      rw [List.length_cons, forall_statements_succ]
      unfold inserted
      cases hfirst : fails first with
      | true =>
          simp only [if_true, Bool.true_eq_false, false_and, iff_false]
          intro h
          have hbound := length_inserted_le fails (first + 1) rows
          rw [h, List.length_cons] at hbound
          omega
      | false => simp [ih]

/-- No row is inserted exactly if every statement fails. -/
theorem inserted_eq_nil_iff (first : Nat) (rows : List α) :
    inserted fails first rows = [] ↔ ∀ k < rows.length, fails (first + k) = true := by
  induction rows generalizing first with
  | nil => simp [inserted]
  | cons row rows ih =>
      rw [List.length_cons, forall_statements_succ]
      unfold inserted
      cases hfirst : fails first with
      | true => simp [ih]
      | false => simp

/-- A table is rewritten as it should be when no statement fails. -/
theorem rewritten_of_none_fails {first : Nat} {old rows : List α}
    (h : ∀ k < rows.length + 1, fails (first + k) = false) :
    rewritten fails first old rows = rows := by
  obtain ⟨hdelete, hinsert⟩ := (forall_statements_succ _ _ _).mp h
  simp [rewritten, hdelete, (inserted_eq_self_iff _ _).mpr hinsert]

/-- All statements of a rewriting succeed, or all fail. -/
def Uniform (fails : Nat → Bool) (first count : Nat) : Prop :=
  (∀ k < count, fails (first + k) = false) ∨ ∀ k < count, fails (first + k) = true

instance (fails : Nat → Bool) (first count : Nat) : Decidable (Uniform fails first count) :=
  inferInstanceAs (Decidable (_ ∨ _))

/-- A table that holds the new rows still does after it has been rewritten exactly if all statements
succeed or all fail. -/
theorem rewritten_self_iff (first : Nat) (rows : List α) :
    rewritten fails first rows rows = rows ↔ Uniform fails first (rows.length + 1) := by
  unfold rewritten Uniform
  rw [forall_statements_succ, forall_statements_succ]
  cases hdelete : fails first with
  | true => simp [inserted_eq_nil_iff]
  | false => simp [inserted_eq_self_iff]

end Library.Rewriting
