import Mathlib.Data.List.Basic

/-!
# Texts of records

A text whose records follow each other without separators. `size` reads off the front of a text
how many symbols its first record takes, and `takeRecords` cuts a number of records off the text.
`takeRecords_succ_iff` is one cut. `flatten_of_takeRecords` says that nothing of the text is lost,
and `of_mem_takeRecords` what is known of a single record.
-/

namespace Library

variable {α : Type*} (size : List α → Option Nat)

/-- The first `count` records of a text and what is behind them, when they lie inside of it. -/
def takeRecords : Nat → List α → Option (List (List α) × List α)
  | 0, text => some ([], text)
  | count + 1, text =>
      (size text).bind fun n =>
        if n ≤ text.length then
          (takeRecords count (text.drop n)).map fun (records, behind) =>
            (text.take n :: records, behind)
        else none

variable {size}

/-- One record is cut off, and the others are taken from what is behind it. -/
theorem takeRecords_succ_iff {count : Nat} {text behind : List α} {records : List (List α)} :
    takeRecords size (count + 1) text = some (records, behind) ↔
      ∃ n others, size text = some n ∧ n ≤ text.length ∧
        takeRecords size count (text.drop n) = some (others, behind) ∧
        records = text.take n :: others := by
  rw [takeRecords]
  constructor
  · intro h
    obtain ⟨n, hsize, h⟩ := Option.bind_eq_some_iff.mp h
    split at h
    · next hinside =>
        obtain ⟨⟨others, rest⟩, hothers, h⟩ := Option.map_eq_some_iff.mp h
        cases h
        exact ⟨n, others, hsize, hinside, hothers, rfl⟩
    · cases h
  · rintro ⟨n, others, hsize, hinside, hothers, rfl⟩
    refine Option.bind_eq_some_iff.mpr ⟨n, hsize, ?_⟩
    rw [if_pos hinside]
    exact Option.map_eq_some_iff.mpr ⟨(others, behind), hothers, rfl⟩

/-- The records and what is behind them are the text. -/
theorem flatten_of_takeRecords {count : Nat} {text behind : List α} {records : List (List α)}
    (h : takeRecords size count text = some (records, behind)) :
    text = records.flatten ++ behind := by
  induction count generalizing text records with
  | zero =>
      cases h
      rfl
  | succ count ih =>
      obtain ⟨n, others, -, -, hothers, rfl⟩ := takeRecords_succ_iff.mp h
      rw [List.flatten_cons, List.append_assoc, ← ih hothers, List.take_append_drop]

/-- Each record was cut off the front of some text. -/
theorem of_mem_takeRecords {count : Nat} {text behind : List α} {records : List (List α)}
    (h : takeRecords size count text = some (records, behind)) {record : List α}
    (hrecord : record ∈ records) :
    ∃ front n, size front = some n ∧ n ≤ front.length ∧ record = front.take n := by
  induction count generalizing text records with
  | zero =>
      cases h
      cases hrecord
  | succ count ih =>
      obtain ⟨n, others, hsize, hinside, hothers, rfl⟩ := takeRecords_succ_iff.mp h
      obtain rfl | hrecord := List.mem_cons.mp hrecord
      · exact ⟨text, n, hsize, hinside, rfl⟩
      · exact ih hothers hrecord

end Library
