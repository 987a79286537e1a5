import Mathlib.Data.List.Nodup
import RVDataFusionServer.Library.GroupMaxima

/-!
# Queue lengths of the lanes

`DataUnitTrafficFlowGather::getMaxQueueLenByLaneCode` (`DataUnit.cpp`) keeps the entries of a list
that no other entry for their lane outdoes. These are the maxima of the groups with one lane code,
so that a lane whose greatest length is reported twice keeps two entries:
`longestPerLane_iff`.
-/

namespace RVDataFusionServer

open Library

/-- `OneFlowData`: the traffic on one lane. -/
structure OneFlowData where
  laneCode : String := ""
  laneDirection : Int32 := 0
  flowDirection : Int32 := 0
  inCars : Int32 := 0
  inAverageSpeed : Float := 0
  outCars : Int32 := 0
  outAverageSpeed : Float := 0
  queueLen : Int32 := 0
  queueCars : Int32 := 0

namespace DataUnitTrafficFlowGather

/-- The inner loop of `getMaxQueueLenByLaneCode`: whether entry `i` is kept. -/
def isRef (v : List OneFlowData) (i : Nat) (cur : OneFlowData) : Bool :=
  v.zipIdx.all fun (other, j) =>
    ¬ (i ≠ j ∧ cur.laneCode = other.laneCode ∧ cur.queueLen < other.queueLen)

/-- `getMaxQueueLenByLaneCode`: the positions of the entries that are kept, and then a copy of
these entries. -/
def getMaxQueueLenByLaneCode (v : List OneFlowData) : List OneFlowData :=
  let indices := (v.zipIdx.filter fun (cur, i) => isRef v i cur).map Prod.snd
  indices.filterMap fun i => v[i]?

/-- Each lane of a list of entries has one entry in the result, with its greatest length, and the
result keeps the order of the list. -/
structure LongestPerLane (v result : List OneFlowData) : Prop where
  once : ∀ laneCode ∈ v.map OneFlowData.laneCode,
    (result.map OneFlowData.laneCode).count laneCode = 1
  longest : ∀ entry ∈ result, ∀ other ∈ v, other.laneCode = entry.laneCode →
    other.queueLen ≤ entry.queueLen
  order : result.Sublist v

/-- Of two entries for one lane with one length, both are shorter than a third one for the lane. -/
def NoTies (v : List OneFlowData) : Prop :=
  v.Pairwise fun a b => a.laneCode = b.laneCode → a.queueLen = b.queueLen →
    ∃ c ∈ v, c.laneCode = a.laneCode ∧ a.queueLen < c.queueLen

instance (v : List OneFlowData) : Decidable (NoTies v) :=
  inferInstanceAs (Decidable (v.Pairwise _))

/-- An entry is kept exactly if it is a maximum of its lane. -/
theorem isRef_iff {v : List OneFlowData} {cur : OneFlowData} {i : Nat} (hcur : v[i]? = some cur) :
    isRef v i cur = true ↔
      IsGroupMax OneFlowData.laneCode (fun entry => entry.queueLen.toInt) v cur := by
  unfold isRef IsGroupMax
  rw [List.all_eq_true]
  constructor
  · intro h other hother hlane
    obtain ⟨j, hj⟩ := List.mem_iff_getElem?.mp hother
    have hkept := h (other, j) (List.mem_zipIdx_iff_getElem?.mpr hj)
    by_contra hlonger
    have hlt : cur.queueLen < other.queueLen := Int32.lt_iff_toInt_lt.mpr (not_le.mp hlonger)
    have hne : i ≠ j := by
      rintro rfl
      rw [hcur, Option.some.injEq] at hj
      rw [hj] at hlonger
      exact hlonger le_rfl
    simp [hne, hlane, hlt] at hkept
  · rintro h ⟨other, j⟩ hmem
    have hother := List.mem_of_getElem? (List.mem_zipIdx_iff_getElem?.mp hmem)
    simp only [decide_eq_true_eq, not_and, Int32.not_lt]
    intro _ hlane
    exact Int32.le_iff_toInt_le.mpr (h other hother hlane)

/-- The entries that are kept are the maxima of the groups with one lane code. -/
theorem getMaxQueueLenByLaneCode_eq (v : List OneFlowData) :
    getMaxQueueLenByLaneCode v =
      groupMaxima OneFlowData.laneCode (fun entry => entry.queueLen.toInt) v := by
  set keep : OneFlowData → Bool := fun cur =>
    decide (IsGroupMax OneFlowData.laneCode (fun entry => entry.queueLen.toInt) v cur) with hkeep
  have hkept : (v.zipIdx.filter fun (cur, i) => isRef v i cur) =
      v.zipIdx.filter (keep ∘ Prod.fst) := by
    refine List.filter_congr fun (cur, i) hmem => ?_
    rw [Bool.eq_iff_iff, isRef_iff (List.mem_zipIdx_iff_getElem?.mp hmem)]
    simp [hkeep]
  show ((v.zipIdx.filter fun (cur, i) => isRef v i cur).map Prod.snd).filterMap _ = v.filter keep
  rw [hkept, List.filterMap_map]
  -- reading the list at the position of an entry gives the entry
  have hread : (v.zipIdx.filter (keep ∘ Prod.fst)).filterMap ((fun i => v[i]?) ∘ Prod.snd) =
      (v.zipIdx.filter (keep ∘ Prod.fst)).map Prod.fst := by
    rw [← List.filterMap_eq_map]
    refine List.filterMap_congr fun x hx => ?_
    exact List.mem_zipIdx_iff_getElem?.mp (List.mem_filter.mp hx).1
  rw [hread, ← List.filter_map, List.zipIdx_map_fst]

/-- Ties are broken between numbers as they are between `int`s. -/
theorem noTies_iff (v : List OneFlowData) :
    NoTies v ↔ TiesBroken OneFlowData.laneCode (fun entry => entry.queueLen.toInt) v := by
  simp only [NoTies, TiesBroken, Int32.lt_iff_toInt_lt, Int32.toInt_inj]

/-- The result has one entry for each lane, the longest one, exactly if no two entries share the
greatest length of their lane. -/
theorem longestPerLane_iff (v : List OneFlowData) :
    LongestPerLane v (getMaxQueueLenByLaneCode v) ↔ NoTies v := by
  rw [noTies_iff, ← nodup_map_groupMaxima_iff, getMaxQueueLenByLaneCode_eq]
  constructor
  · intro h
    refine List.nodup_iff_count_le_one.mpr fun laneCode => ?_
    by_cases hmem : laneCode ∈ v.map OneFlowData.laneCode
    · exact le_of_eq (h.once laneCode hmem)
    · rw [List.count_eq_zero_of_not_mem fun hresult =>
        hmem ((groupMaxima_sublist.map _).subset hresult)]
      exact Nat.zero_le 1
  · intro hnodup
    refine ⟨fun laneCode hmem => ?_, fun entry hentry other hother hlane => ?_,
      groupMaxima_sublist⟩
    · obtain ⟨entry, hentry, rfl⟩ := List.mem_map.mp hmem
      obtain ⟨longest, hlongest, hlane⟩ : ∃ longest ∈ groupMaxima OneFlowData.laneCode
          (fun entry => entry.queueLen.toInt) v, longest.laneCode = entry.laneCode :=
        exists_mem_groupMaxima hentry
      rw [← hlane]
      exact List.count_eq_one_of_mem hnodup (List.mem_map_of_mem hlongest)
    · exact Int32.le_iff_toInt_le.mpr ((mem_groupMaxima.mp hentry).2 other hother hlane.symm)

/-- The greatest length of a lane is reported twice. -/
theorem two_longest_entries :
    ¬ LongestPerLane [{ laneCode := "l1", queueLen := 2 }, { laneCode := "l1", queueLen := 2 }]
      (getMaxQueueLenByLaneCode
        [{ laneCode := "l1", queueLen := 2 }, { laneCode := "l1", queueLen := 2 }]) := by
  intro h
  exact absurd (h.once "l1" (by decide)) (by decide)

example : (getMaxQueueLenByLaneCode
    [{ laneCode := "l1", queueLen := 2 }, { laneCode := "l2", queueLen := 5 },
      { laneCode := "l1", queueLen := 6 }, { laneCode := "l2", queueLen := 2 }]).map
        OneFlowData.queueLen = [5, 6] := by
  decide

end DataUnitTrafficFlowGather

end RVDataFusionServer
