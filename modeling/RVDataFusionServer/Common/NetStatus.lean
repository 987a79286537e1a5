import Mathlib.Tactic.Ring
import RVDataFusionServer.Library.Execution

/-!
# Counting what was sent

`CalNetStatus` of `config.cpp` counts the results of the sends in two `int` counters, and its guard
waits for all bits of the total to be set. `statistics_consistent_iff` says for how many results
the counters can be trusted.
-/

namespace RVDataFusionServer

open Library

/-- `g_net_status_total` and `g_net_status_success`. -/
structure NetStatus where
  total : Int32
  success : Int32
  deriving DecidableEq, Repr

namespace NetStatus

/-- The counters at the start of the program. -/
def init : NetStatus := ⟨0, 0⟩

/-- `CalNetStatus` of the result of a send. The constant is unsigned, so that the guard compares
the bits of the total. An increment of the largest `int` wraps around. -/
def calNetStatus (status : NetStatus) (s : Int32) : NetStatus :=
  if status.total.toUInt32 = 0xffffffff then ⟨0, 0⟩
  else ⟨status.total + 1, if s = 0 then status.success + 1 else status.success⟩

/-- A call as a step of a machine. -/
def step (status : NetStatus) (s : Int32) : NetStatus × Unit := (calNetStatus status s, ())

/-- `0 <= g_net_status_success <= g_net_status_total`. -/
def Consistent (status : NetStatus) : Prop := 0 ≤ status.success ∧ status.success ≤ status.total

instance decidableConsistent (status : NetStatus) : Decidable status.Consistent :=
  inferInstanceAs (Decidable (_ ∧ _))

theorem consistent_iff (status : NetStatus) :
    status.Consistent ↔ 0 ≤ status.success.toInt ∧ status.success.toInt ≤ status.total.toInt := by
  rw [Consistent, Int32.le_iff_toInt_le, Int32.le_iff_toInt_le]
  exact Iff.rfl

/-- An increment below the largest `int`. -/
theorem toInt_increment {n : Int32} (hlow : 0 ≤ n.toInt) (hhigh : n.toInt + 1 < 2 ^ 31) :
    (n + 1).toInt = n.toInt + 1 := by
  rw [Int32.toInt_add, show Int32.toInt 1 = 1 from rfl]
  exact Int.bmod_eq_of_le (by omega) (by omega)

/-- The bits of a counter that is not negative are never all set. -/
theorem guard_false {n : Int32} (hlow : 0 ≤ n.toInt) : n.toUInt32 ≠ 0xffffffff := by
  intro h
  have hn : n = UInt32.toInt32 0xffffffff := congrArg UInt32.toInt32 h
  rw [hn] at hlow
  exact absurd hlow (by decide)

/-- A call below the largest total counts its result. -/
theorem calNetStatus_counts {status : NetStatus} (s : Int32) (hcons : status.Consistent)
    (hbound : status.total.toInt + 1 < 2 ^ 31) :
    (calNetStatus status s).total.toInt = status.total.toInt + 1 ∧
      (calNetStatus status s).Consistent := by
  obtain ⟨hlow, hle⟩ := (consistent_iff status).mp hcons
  have htotal := toInt_increment (Int.le_trans hlow hle) hbound
  have hsuccess := toInt_increment hlow (by omega)
  rw [calNetStatus, if_neg (guard_false (Int.le_trans hlow hle)), consistent_iff]
  refine ⟨htotal, ?_⟩
  show 0 ≤ Int32.toInt (if s = 0 then status.success + 1 else status.success) ∧
    Int32.toInt (if s = 0 then status.success + 1 else status.success) ≤ (status.total + 1).toInt
  rw [htotal]
  by_cases hs : s = 0
  · rw [if_pos hs, hsuccess]
    omega
  · rw [if_neg hs]
    omega

/-- The call at the largest total makes it negative. -/
theorem calNetStatus_wraps {status : NetStatus} (s : Int32)
    (htotal : status.total.toInt = 2 ^ 31 - 1) : ¬ (calNetStatus status s).Consistent := by
  have hmax : status.total = Int32.maxValue := Int32.toInt_inj.mp htotal
  rw [calNetStatus, hmax, if_neg (by decide), consistent_iff]
  intro h
  have hnegative : (Int32.maxValue + 1).toInt = -2 ^ 31 := by decide
  have hle : 0 ≤ (Int32.maxValue + 1).toInt := Int.le_trans h.1 h.2
  omega

/-- A run of fewer results than an `int` can count. -/
theorem final_counts {status : NetStatus} (results : List Int32) (hcons : status.Consistent)
    (hbound : status.total.toInt + results.length < 2 ^ 31) :
    (Execution.final step status results).total.toInt = status.total.toInt + results.length ∧
      (Execution.final step status results).Consistent := by
  induction results generalizing status with
  | nil => exact ⟨(Int.add_zero _).symm, hcons⟩
  | cons s results ih =>
      rw [List.length_cons] at hbound ⊢
      obtain ⟨htotal, hnext⟩ := calNetStatus_counts s hcons (by omega)
      have hrest := ih hnext (by rw [htotal]; omega)
      rw [Execution.final_cons]
      refine ⟨?_, hrest.2⟩
      rw [show (step status s).1 = calNetStatus status s from rfl, hrest.1, htotal]
      omega

/-- A run from the start of the program. -/
theorem final_init {results : List Int32} (hbound : results.length < 2 ^ 31) :
    (Execution.final step init results).total.toInt = results.length ∧
      (Execution.final step init results).Consistent := by
  have hcounts := final_counts results (show init.Consistent by decide)
    (by rw [show init.total.toInt = 0 from rfl]; omega)
  rw [show init.total.toInt = 0 from rfl, Int.zero_add] at hcounts
  exact hcounts

/-- The result number 2 ^ 31 leaves the counters inconsistent. -/
theorem final_overflow {results : List Int32} (hlength : results.length = 2 ^ 31) :
    ¬ (Execution.final step init results).Consistent := by
  have hne : results ≠ [] := by
    intro hnil
    rw [hnil] at hlength
    exact absurd hlength (by decide)
  have hfront : results.dropLast.length = 2 ^ 31 - 1 := by
    rw [List.length_dropLast, hlength]
  have hcounts := (@final_init results.dropLast (by omega)).1
  rw [← List.dropLast_append_getLast hne, Execution.final_append]
  exact calNetStatus_wraps _ (by omega)

/-- The counters are consistent in every state of a run from zero exactly if the run has fewer than
2 ^ 31 results. The guard sees no total before that. -/
theorem statistics_consistent_iff (results : List Int32) :
    Execution.Always step Consistent init results ↔ results.length < 2 ^ 31 := by
  rw [Execution.always_iff]
  constructor
  · intro h
    apply Nat.lt_of_not_le
    intro hle
    have hlength : (results.take (2 ^ 31)).length = 2 ^ 31 := by
      rw [List.length_take, Nat.min_eq_left hle]
    exact final_overflow hlength (h (2 ^ 31))
  · intro hbound n
    have hshort : (results.take n).length < 2 ^ 31 := by
      rw [List.length_take]
      omega
    exact (final_init hshort).2

/-- The counters after 2 ^ 31 sends that all succeeded. -/
theorem statistics_overflow :
    ¬ Execution.Always step Consistent init (List.replicate (2 ^ 31) 0) := by
  intro h
  have hlast := (Execution.always_iff _ _).mp h (2 ^ 31)
  rw [List.take_replicate, Nat.min_self] at hlast
  exact final_overflow List.length_replicate hlast

end NetStatus

end RVDataFusionServer
