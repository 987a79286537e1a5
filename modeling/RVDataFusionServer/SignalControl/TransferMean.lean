import RVDataFusionServer.Library.Block
import RVDataFusionServer.Library.Escaping

/-!
# Byte stuffing

`TransferMean` and `DeTransferMean` of `signalControlCom.cpp`. Both edit a copy of the vector in
place while they walk over it, and leave its first byte alone. `transferMean_eq` and
`deTransferMean_eq` give their results by `escape` and `unescape`.
-/

namespace RVDataFusionServer

open Library

/-- The loop of `TransferMean` from position `i` on, for at most `rounds` rounds. -/
def transferMeanLoop (tf : UInt8) (needSet : List UInt8) :
    Nat → List UInt8 → Nat → List UInt8
  | 0, out, _ => out
  | rounds + 1, out, i =>
      if h : i + 1 < out.length then
        if out[i] ∈ needSet then transferMeanLoop tf needSet rounds (out.insertIdx i tf) (i + 2)
        else transferMeanLoop tf needSet rounds out (i + 1)
      else out

/-- `TransferMean`. For an empty vector `size() - 1` wraps, and `at` throws. Each round comes
nearer to the end by one byte. -/
def transferMean (input : List UInt8) (tf : UInt8) (needSet : List UInt8) :
    Except Fault (List UInt8) :=
  if input = [] then .error (.threw "std::out_of_range")
  else .ok (transferMeanLoop tf needSet input.length input 1)

/-- The loop of `DeTransferMean` from position `i` on, for at most `rounds` rounds. -/
def deTransferMeanLoop (tf : UInt8) (needSet : List UInt8) :
    Nat → List UInt8 → Nat → List UInt8
  | 0, out, _ => out
  | rounds + 1, out, i =>
      if h : i + 1 < out.length then
        if out[i] = tf ∧ out[i + 1] ∈ needSet then
          deTransferMeanLoop tf needSet rounds (out.eraseIdx i) (i + 1)
        else deTransferMeanLoop tf needSet rounds out (i + 1)
      else out

/-- `DeTransferMean`. -/
def deTransferMean (input : List UInt8) (tf : UInt8) (needSet : List UInt8) :
    Except Fault (List UInt8) :=
  if input = [] then .error (.threw "std::out_of_range")
  else .ok (deTransferMeanLoop tf needSet input.length input 1)

variable {tf : UInt8} {needSet : List UInt8}

/-- An insertion right behind the first part of a list. -/
theorem insertIdx_length_append (front rest : List UInt8) (x : UInt8) :
    (front ++ rest).insertIdx front.length x = front ++ x :: rest := by
  induction front with
  | nil => rfl
  | cons y front ih =>
      show y :: (front ++ rest).insertIdx front.length x = _
      rw [ih]
      rfl

/-- Behind the bytes already passed, the loop escapes all bytes but the last one. -/
theorem transferMeanLoop_eq (middle : List UInt8) {rounds : Nat} (hrounds : middle.length ≤ rounds)
    (front : List UInt8) (last : UInt8) :
    transferMeanLoop tf needSet rounds (front ++ (middle ++ [last])) front.length =
      front ++ (escape tf needSet middle ++ [last]) := by
  induction middle generalizing rounds front with
  | nil =>
      cases rounds with
      | zero => rfl
      | succ rounds => simp [transferMeanLoop, escape]
  | cons x middle ih =>
      obtain ⟨rounds, rfl⟩ : ∃ n, rounds = n + 1 :=
        Nat.exists_eq_add_one.mpr (Nat.lt_of_lt_of_le (Nat.succ_pos _) hrounds)
      have hrest : middle.length ≤ rounds := Nat.le_of_succ_le_succ hrounds
      have hinside : front.length + 1 < (front ++ (x :: middle ++ [last])).length := by
        simp only [List.length_append, List.length_cons]
        omega
      have hlt : front.length < (front ++ (x :: middle ++ [last])).length := by omega
      have hhere : (front ++ (x :: middle ++ [last]))[front.length] = x := by simp
      by_cases hx : x ∈ needSet
      · have hinsert : (front ++ (x :: middle ++ [last])).insertIdx front.length tf =
            front ++ [tf, x] ++ (middle ++ [last]) := by
          rw [insertIdx_length_append]
          simp
        have hnext : front.length + 2 = (front ++ [tf, x]).length := by simp
        rw [transferMeanLoop, dif_pos hinside, hhere, if_pos hx, hinsert, hnext, ih hrest,
          escape_cons_of_mem tf needSet hx]
        simp
      · have hnext : front.length + 1 = (front ++ [x]).length := by simp
        rw [transferMeanLoop, dif_pos hinside, hhere, if_neg hx, hnext,
          show front ++ (x :: middle ++ [last]) = front ++ [x] ++ (middle ++ [last]) by simp,
          ih hrest, escape_cons_of_notMem tf needSet hx]
        simp

/-- `TransferMean` escapes the bytes between the first one and the last one. -/
theorem transferMean_eq (first : UInt8) (middle : List UInt8) (last : UInt8) :
    transferMean (first :: (middle ++ [last])) tf needSet =
      .ok (first :: (escape tf needSet middle ++ [last])) := by
  have hrounds : middle.length ≤ (first :: (middle ++ [last])).length := by
    simp only [List.length_cons, List.length_append]
    omega
  have hloop : transferMeanLoop tf needSet _ ([first] ++ (middle ++ [last])) 1 = _ :=
    transferMeanLoop_eq middle hrounds [first] last
  rw [transferMean, if_neg (List.cons_ne_nil _ _)]
  exact congrArg Except.ok hloop

/-- Behind the bytes already passed, the loop takes the escapes out. -/
theorem deTransferMeanLoop_eq (rest : List UInt8) {rounds : Nat} (hrounds : rest.length ≤ rounds)
    (front : List UInt8) :
    deTransferMeanLoop tf needSet rounds (front ++ rest) front.length =
      front ++ unescape tf needSet rest := by
  induction rest using unescape.induct tf needSet generalizing rounds front with
  | case1 =>
      cases rounds with
      | zero => rfl
      | succ rounds =>
          have hend : ¬ front.length + 1 < (front ++ []).length := by simp
          rw [deTransferMeanLoop, dif_neg hend]
          rfl
  | case2 x =>
      cases rounds with
      | zero => rfl
      | succ rounds => simp [deTransferMeanLoop, unescape]
  -- the cases are those of `unescape`, whose tail is what the loop has not passed yet
  | case3 x y rest hpair ih =>
      obtain ⟨rounds, rfl⟩ : ∃ n, rounds = n + 1 :=
        Nat.exists_eq_add_one.mpr (Nat.lt_of_lt_of_le (Nat.succ_pos _) hrounds)
      have hrest : rest.length ≤ rounds := by
        simp only [List.length_cons] at hrounds
        omega
      have hinside : front.length + 1 < (front ++ x :: y :: rest).length := by simp
      have hlt : front.length < (front ++ x :: y :: rest).length := by omega
      have hhere : (front ++ x :: y :: rest)[front.length] = x := by simp
      have hnext : (front ++ x :: y :: rest)[front.length + 1] = y := by simp
      have herase : (front ++ x :: y :: rest).eraseIdx front.length = front ++ [y] ++ rest := by
        simp [List.eraseIdx_append_of_length_le]
      rw [deTransferMeanLoop, dif_pos hinside, hhere, hnext, if_pos hpair, herase,
        show front.length + 1 = (front ++ [y]).length by simp, ih hrest]
      simp [unescape, hpair]
  | case4 x y rest hpair ih =>
      obtain ⟨rounds, rfl⟩ : ∃ n, rounds = n + 1 :=
        Nat.exists_eq_add_one.mpr (Nat.lt_of_lt_of_le (Nat.succ_pos _) hrounds)
      have hrest : (y :: rest).length ≤ rounds := Nat.le_of_succ_le_succ hrounds
      have hinside : front.length + 1 < (front ++ x :: y :: rest).length := by simp
      have hlt : front.length < (front ++ x :: y :: rest).length := by omega
      have hhere : (front ++ x :: y :: rest)[front.length] = x := by simp
      have hnext : (front ++ x :: y :: rest)[front.length + 1] = y := by simp
      rw [deTransferMeanLoop, dif_pos hinside, hhere, hnext, if_neg hpair,
        show front ++ x :: y :: rest = front ++ [x] ++ y :: rest by simp,
        show front.length + 1 = (front ++ [x]).length by simp, ih hrest]
      simp [unescape, hpair]

/-- `DeTransferMean` takes the escapes out behind the first byte. -/
theorem deTransferMean_eq (first : UInt8) (rest : List UInt8) :
    deTransferMean (first :: rest) tf needSet = .ok (first :: unescape tf needSet rest) := by
  have hrounds : rest.length ≤ (first :: rest).length := Nat.le_succ _
  have hloop : deTransferMeanLoop tf needSet _ ([first] ++ rest) 1 = _ :=
    deTransferMeanLoop_eq rest hrounds [first]
  rw [deTransferMean, if_neg (List.cons_ne_nil _ _)]
  exact congrArg Except.ok hloop

end RVDataFusionServer
