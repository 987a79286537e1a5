import RVDataFusionServer.Data.DataUnit
import RVDataFusionServer.Library.Execution

/-!
# Progress of the search

A lane whose frames come too early is given up when the product of the searches on it with
`intervalTask` has reached 2.5 `fs_i`, and a lane without a frame after one search. With the lanes
as they are, `searchRounds` searches on each lane and one beside the lanes suffice, unless the
product leaves the range of an `int`: `progresses_iff` says for which values of `fs_i`,
`intervalTask` and `taskSearchCount` they do, whatever is in the lanes.
-/

namespace RVDataFusionServer.DataUnit

open Library.Execution

variable {I O : Type} [Inhabited I] [Timestamped I]

/-- 2.5 `fs_i` over `intervalTask`, rounded up, and at least one. -/
def searchRounds (fs interval : Int32) : Nat :=
  max 1 (-(-(5 * fs.toInt) / (2 * interval.toInt))).toNat

/-- A state of the search in which the frame of lane `g` at the offset comes late enough. -/
structure Searchable (unit : DataUnit I O) (offset : Int) (g : Nat) : Prop where
  lanes_eq : unit.iQueueVector.length = unit.numI
  index_ge : -1 ≤ unit.iMaxSizeIndex
  index_le : unit.iMaxSizeIndex ≤ unit.numI
  fsI_nonneg : 0 ≤ unit.fsI.toInt
  interval_pos : 0 < unit.intervalTask.toInt
  late : ∃ refer, unit.getIOffset g offset = some refer ∧
    unit.timestampStore + unit.fsI.toInt ≤ timestamp refer

/-- The state behind a number of calls. -/
def calls (offset : Int) (n : Nat) (unit : DataUnit I O) : DataUnit I O :=
  (fun unit => (unit.findOneFrame offset).1)^[n] unit

/-- One of the next `(numI + 1) * searchRounds + 1` calls returns 0. -/
def Progresses (unit : DataUnit I O) (offset : Int) : Prop :=
  ∃ n < (unit.numI + 1) * searchRounds unit.fsI unit.intervalTask + 1,
    ((calls offset n unit).findOneFrame offset).2 = 0

/-- The product of two `int`s reaches 2.5 `fs_i` in time: that of the `searchRounds` searches on a
new lane is an `int`, and fewer than three times as many searches suffice on the lane at hand, which
has had `count` searches. -/
structure ReachedInTime (fs interval count : Int32) : Prop where
  fromZero : searchRounds fs interval * interval.toInt < 2 ^ 31
  fromCount : ∃ m : Nat, 0 < m ∧ m < 3 * searchRounds fs interval ∧
    5 * fs.toInt ≤ 2 * ((count + Int32.ofNat m) * interval).toInt

variable {unit : DataUnit I O} {offset : Int} {g : Nat} {fs interval count : Int32}

/-! ## The product -/

omit [Inhabited I] [Timestamped I] in
/-- A number of searches on the lane at hand. -/
theorem counted_iterate (unit : DataUnit I O) (m : Nat) :
    counted^[m] unit =
      { unit with taskSearchCount := unit.taskSearchCount + Int32.ofNat m } := by
  induction m generalizing unit with
  | zero =>
      show unit = { unit with taskSearchCount := unit.taskSearchCount + 0 }
      rw [Int32.add_zero]
  | succ m ih =>
      rw [Function.iterate_succ_apply, ih]
      have hcount : unit.taskSearchCount + 1 + Int32.ofNat m =
          unit.taskSearchCount + Int32.ofNat (m + 1) := by
        rw [Int32.add_assoc, Nat.add_comm m 1, Int32.ofNat_add]
        rfl
      simp only [counted, hcount]

/-- The product of `m` more searches. -/
theorem product_toInt (count interval : Int32) (m : Nat) :
    ((count + Int32.ofNat m) * interval).toInt =
      ((count.toInt + m) * interval.toInt).bmod (2 ^ 32) := by
  rw [Int32.toInt_mul, Int32.toInt_add, Int32.toInt_ofNat', show Int32.size = 2 ^ 32 from rfl,
    Int.add_bmod_bmod, Int.bmod_mul_bmod]

/-- The product of the searches on a new lane. -/
theorem product_fromZero (interval : Int32) (m : Nat) :
    ((0 + Int32.ofNat m) * interval).toInt = (m * interval.toInt).bmod (2 ^ 32) := by
  rw [product_toInt, Int32.toInt_zero, Int.zero_add]

/-- The product of `searchRounds` searches reaches 2.5 `fs_i`, and exceeds it by an interval at
most. -/
theorem searchRounds_spec (hpos : 0 < interval.toInt) :
    5 * fs.toInt ≤ 2 * (searchRounds fs interval * interval.toInt) ∧
      (searchRounds fs interval = 1 ∨
        2 * ((searchRounds fs interval - 1) * interval.toInt) < 5 * fs.toInt) := by
  set quotient := -(5 * fs.toInt) / (2 * interval.toInt) with hquotient
  have hle : quotient * (2 * interval.toInt) ≤ -(5 * fs.toInt) :=
    Int.ediv_mul_le _ (by omega)
  have hlt : -(5 * fs.toInt) < (quotient + 1) * (2 * interval.toInt) :=
    Int.lt_ediv_add_one_mul_self _ (by omega)
  have hcases : searchRounds fs interval = 1 ∧ -1 ≤ quotient ∨
      (searchRounds fs interval : Int) = -quotient := by
    unfold searchRounds
    rw [← hquotient]
    omega
  rcases hcases with ⟨hone, hquot⟩ | hrounds
  · have hmul : -1 * (2 * interval.toInt) ≤ quotient * (2 * interval.toInt) :=
      Int.mul_le_mul_of_nonneg_right hquot (by omega)
    rw [hone]
    omega
  · rw [hrounds, Int.add_mul, Int.one_mul] at *
    have hneg : -quotient * interval.toInt = -(quotient * interval.toInt) := Int.neg_mul _ _
    have hswap : quotient * (2 * interval.toInt) = 2 * (quotient * interval.toInt) :=
      Int.mul_left_comm _ _ _
    have hpred : (-quotient - 1) * interval.toInt =
        -(quotient * interval.toInt) - interval.toInt := by
      rw [Int.sub_mul, Int.neg_mul, Int.one_mul]
    omega

/-- As long as the product of `searchRounds` searches is an `int`, these are enough. -/
theorem reached_fromZero (hpos : 0 < interval.toInt)
    (hrange : searchRounds fs interval * interval.toInt < 2 ^ 31) :
    5 * fs.toInt ≤
      2 * ((0 + Int32.ofNat (searchRounds fs interval)) * interval).toInt := by
  have hnonneg : 0 ≤ searchRounds fs interval * interval.toInt :=
    Int.mul_nonneg (Int.natCast_nonneg _) (Int.le_of_lt hpos)
  rw [product_fromZero, Int.bmod_eq_of_le (by omega) (by omega)]
  exact (searchRounds_spec hpos).1

/-- If it is not, then none of these searches is the last one. -/
theorem not_reached_fromZero (hpos : 0 < interval.toInt)
    (hrange : ¬ searchRounds fs interval * interval.toInt < 2 ^ 31) {m : Nat}
    (hm : m ≤ searchRounds fs interval) :
    ¬ 5 * fs.toInt ≤ 2 * ((0 + Int32.ofNat m) * interval).toInt := by
  set rounds := searchRounds fs interval with hrounds
  have hlt := interval.toInt_lt
  have hbelow : 2 * ((rounds - 1) * interval.toInt) < 5 * fs.toInt := by
    have hspec : rounds = 1 ∨ 2 * ((rounds - 1) * interval.toInt) < 5 * fs.toInt :=
      (searchRounds_spec hpos).2
    rcases hspec with hone | hbelow
    · rw [hone] at hrange
      omega
    · exact hbelow
  rw [Int.sub_mul, Int.one_mul] at hbelow
  have hupper := Int.bmod_lt (x := m * interval.toInt) (m := 2 ^ 32) (by decide)
  have hlower := Int.le_bmod (x := m * interval.toInt) (m := 2 ^ 32) (by decide)
  have hsplit := Int.bmod_add_bdiv (m * interval.toInt) (2 ^ 32)
  have hnonneg : 0 ≤ m * interval.toInt :=
    Int.mul_nonneg (Int.natCast_nonneg _) (Int.le_of_lt hpos)
  rw [product_fromZero]
  rcases Nat.lt_or_eq_of_le hm with hfewer | rfl
  · -- fewer searches have not reached it, and the remainder is not above the product
    have hmul : (m : Int) * interval.toInt ≤ (rounds - 1) * interval.toInt :=
      Int.mul_le_mul_of_nonneg_right (by omega) (Int.le_of_lt hpos)
    rw [Int.sub_mul, Int.one_mul] at hmul
    omega
  · -- the last one leaves the range, and its product is smaller by the range
    omega

omit [Inhabited I] [Timestamped I] in
/-- The searches that the condition allows use up 2.5 `fs_i`. -/
theorem usedUp_iterate_iff (unit : DataUnit I O) (m : Nat) :
    UsedUp (counted^[m] unit) ↔
      5 * unit.fsI.toInt ≤
        2 * ((unit.taskSearchCount + Int32.ofNat m) * unit.intervalTask).toInt := by
  rw [counted_iterate]
  exact Iff.rfl

/-! ## One call -/

omit [Inhabited I] in
/-- The lane with the late frame exists. -/
theorem Searchable.lane_lt (h : unit.Searchable offset g) : g < unit.numI := by
  obtain ⟨refer, hrefer, -⟩ := h.late
  rw [← h.lanes_eq]
  by_contra hge
  have hnone : unit.iQueueVector[g]? = none := List.getElem?_eq_none (Nat.not_lt.mp hge)
  simp [getIOffset, hnone] at hrefer

omit [Inhabited I] in
/-- The late frame is not too early: its timestamp bounds the sum, which does not wrap. -/
theorem Searchable.not_tooEarly (h : unit.Searchable offset g) {refer : I}
    (hrefer : unit.getIOffset g offset = some refer) : ¬ unit.TooEarly refer := by
  obtain ⟨late, hlate, hle⟩ := h.late
  obtain rfl : refer = late := Option.some.inj (hrefer.symm.trans hlate)
  have hfs := h.fsI_nonneg
  have hlt := timestamp_lt refer
  unfold TooEarly
  rw [Int.emod_eq_of_lt (by omega) (by omega)]
  omega

/-- A call for a lane without a frame gives the lane up. -/
theorem findOneFrame_silent (hnone : unit.getIOffset unit.iMaxSizeIndex offset = none) :
    unit.findOneFrame offset = (unit.iMaxSizeIndexNext, -1) := by
  simp [findOneFrame, hnone]

/-- A call for a lane whose frame comes too early gives the lane up or counts one more search. -/
theorem findOneFrame_early {refer : I}
    (hrefer : unit.getIOffset unit.iMaxSizeIndex offset = some refer)
    (hearly : unit.TooEarly refer) :
    unit.findOneFrame offset =
      (if unit.counted.UsedUp then unit.iMaxSizeIndexNext else unit.counted, -2) := by
  by_cases hused : unit.counted.UsedUp
  · simp only [findOneFrame, hrefer, hearly, hused, if_true]
    rfl
  · simp [findOneFrame, hrefer, hearly, hused]

/-- A call that does not return 0 is one of these. -/
theorem findOneFrame_missed (hmiss : (unit.findOneFrame offset).2 ≠ 0) :
    unit.getIOffset unit.iMaxSizeIndex offset = none ∨
      ∃ refer, unit.getIOffset unit.iMaxSizeIndex offset = some refer ∧ unit.TooEarly refer := by
  cases hrefer : unit.getIOffset unit.iMaxSizeIndex offset with
  | none => exact .inl rfl
  | some refer =>
      refine .inr ⟨refer, rfl, ?_⟩
      by_contra hlate
      simp [findOneFrame, hrefer, hlate] at hmiss

omit [Inhabited I] in
/-- The search goes on behind a lane that is given up. -/
theorem Searchable.next (h : unit.Searchable offset g) :
    unit.iMaxSizeIndexNext.Searchable offset g where
  lanes_eq := h.lanes_eq
  index_ge := by
    have hge := h.index_ge
    simp only [iMaxSizeIndexNext]
    split_ifs <;> omega
  index_le := by
    simp only [iMaxSizeIndexNext, h.lanes_eq]
    split_ifs <;> omega
  fsI_nonneg := h.fsI_nonneg
  interval_pos := h.interval_pos
  late := h.late

/-! ## The budget of a search -/

/-- The calls that a search takes from a lane without earlier searches to lane `g`: `searchRounds`
for each lane in between, and one for the index behind the lanes. -/
def callsTo (unit : DataUnit I O) (g : Nat) : Nat :=
  if unit.iMaxSizeIndex ≤ g then
    (g - unit.iMaxSizeIndex).toNat * searchRounds unit.fsI unit.intervalTask
  else (unit.numI - unit.iMaxSizeIndex + g).toNat * searchRounds unit.fsI unit.intervalTask + 1

/-- `m` calls are enough for the reference lane: one if it has no frame at the offset, and
otherwise as many as use up 2.5 `fs_i`. -/
def Suffices (unit : DataUnit I O) (offset : Int) (m : Nat) : Prop :=
  0 < m ∧ (unit.getIOffset unit.iMaxSizeIndex offset ≠ none → UsedUp (counted^[m] unit))

/-- The reference lane is the one with the late frame, or the budget suffices to get there. -/
structure Affords (offset : Int) (g : Nat) (budget : Nat) (unit : DataUnit I O) : Prop
    extends unit.Searchable offset g where
  fromZero :
    searchRounds unit.fsI unit.intervalTask * unit.intervalTask.toInt < 2 ^ 31
  arrives : unit.iMaxSizeIndex = g ∨
    ∃ m, unit.Suffices offset m ∧ m + unit.iMaxSizeIndexNext.callsTo g ≤ budget

omit [Inhabited I] [Timestamped I] in
/-- A frame at the offset is one of a lane. -/
theorem index_lt_of_frame (hlanes : unit.iQueueVector.length = unit.numI)
    (hframe : unit.getIOffset unit.iMaxSizeIndex offset ≠ none) :
    0 ≤ unit.iMaxSizeIndex ∧ unit.iMaxSizeIndex < unit.numI := by
  obtain ⟨refer, hrefer⟩ := Option.ne_none_iff_exists'.mp hframe
  obtain ⟨j, lane, hj, hlane, -⟩ := getIOffset_eq_some hrefer
  have hlt := (List.getElem?_eq_some_iff.mp hlane).1
  omega

omit [Inhabited I] in
/-- A lane that is given up is paid for by `searchRounds` calls, and an index beside the lanes by
one. -/
theorem Searchable.callsTo_next (h : unit.Searchable offset g) (hne : unit.iMaxSizeIndex ≠ g) :
    (if 0 ≤ unit.iMaxSizeIndex ∧ unit.iMaxSizeIndex < unit.numI then
      searchRounds unit.fsI unit.intervalTask else 1) + unit.iMaxSizeIndexNext.callsTo g ≤
        unit.callsTo g := by
  have hge := h.index_ge
  have hle := h.index_le
  have hg := h.lane_lt
  have hrounds : 1 ≤ searchRounds unit.fsI unit.intervalTask := Nat.le_max_left _ _
  have hfew (n : Nat) : (n + 1) * searchRounds unit.fsI unit.intervalTask =
      n * searchRounds unit.fsI unit.intervalTask + searchRounds unit.fsI unit.intervalTask :=
    Nat.succ_mul _ _
  simp only [callsTo, iMaxSizeIndexNext, h.lanes_eq]
  rcases Int.lt_or_gt_of_ne hne with hbefore | hbehind
  · -- towards lane `g`
    have hnext : ¬ (unit.numI : Int) < unit.iMaxSizeIndex + 1 := by omega
    have hdist : (g - unit.iMaxSizeIndex).toNat = (g - (unit.iMaxSizeIndex + 1)).toNat + 1 := by
      omega
    rw [if_neg hnext, if_pos (by omega : unit.iMaxSizeIndex + 1 ≤ (g : Int)),
      if_pos (Int.le_of_lt hbefore), hdist, hfew]
    split_ifs <;> omega
  · rw [if_neg (by omega : ¬ unit.iMaxSizeIndex ≤ (g : Int))]
    rcases Int.lt_or_eq_of_le hle with hlane | hlast
    · -- towards the end of the lanes
      have hnext : ¬ (unit.numI : Int) < unit.iMaxSizeIndex + 1 := by omega
      have hdist : (unit.numI - unit.iMaxSizeIndex + g).toNat =
          (unit.numI - (unit.iMaxSizeIndex + 1) + g).toNat + 1 := by omega
      rw [if_neg hnext, if_neg (by omega : ¬ unit.iMaxSizeIndex + 1 ≤ (g : Int)), hdist, hfew]
      split_ifs <;> omega
    · -- back to the first lane
      have hnext : (unit.numI : Int) < unit.iMaxSizeIndex + 1 := by omega
      have hdist : (unit.numI - unit.iMaxSizeIndex + g).toNat = ((g : Int) - 0).toNat := by omega
      have hbeside : ¬ (0 ≤ unit.iMaxSizeIndex ∧ unit.iMaxSizeIndex < unit.numI) := by omega
      rw [if_neg hbeside, if_pos hnext, if_pos (Int.natCast_nonneg g), hdist]
      omega

omit [Inhabited I] in
/-- A search that starts on a lane affords what `callsTo` says. -/
theorem Affords.fresh (h : unit.Searchable offset g)
    (hrange : searchRounds unit.fsI unit.intervalTask * unit.intervalTask.toInt < 2 ^ 31)
    (hcount : unit.taskSearchCount = 0) {budget : Nat} (hbudget : unit.callsTo g ≤ budget) :
    Affords offset g budget unit := by
  refine ⟨h, hrange, ?_⟩
  by_cases hg : unit.iMaxSizeIndex = g
  · exact .inl hg
  · have hnext := h.callsTo_next hg
    by_cases hframe : unit.getIOffset unit.iMaxSizeIndex offset = none
    · refine .inr ⟨1, ⟨Nat.one_pos, fun hsome => absurd hframe hsome⟩, ?_⟩
      have hrounds : 1 ≤ searchRounds unit.fsI unit.intervalTask := Nat.le_max_left _ _
      split_ifs at hnext <;> omega
    · rw [if_pos (index_lt_of_frame h.lanes_eq hframe)] at hnext
      refine .inr ⟨_, ⟨Nat.lt_of_lt_of_le Nat.one_pos (Nat.le_max_left _ _), fun _ => ?_⟩,
        hnext.trans hbudget⟩
      rw [usedUp_iterate_iff, hcount]
      exact reached_fromZero h.interval_pos hrange

/-- A call that does not return 0 is paid for out of the budget. -/
theorem Affords.step {budget : Nat} (h : Affords offset g budget unit)
    (hmiss : (unit.findOneFrame offset).2 ≠ 0) :
    ∃ rest, budget = rest + 1 ∧ Affords offset g rest (unit.findOneFrame offset).1 := by
  obtain ⟨hsearch, hrange, hg | ⟨m, ⟨hpos, hused⟩, hbudget⟩⟩ := h
  · -- the frame of lane `g` comes late enough
    obtain ⟨refer, hrefer, -⟩ := hsearch.late
    have hlate := hsearch.not_tooEarly hrefer
    rw [← hg] at hrefer
    simp [findOneFrame, hrefer, hlate] at hmiss
  obtain ⟨m, rfl⟩ := Nat.exists_eq_succ_of_ne_zero (Nat.ne_of_gt hpos)
  refine ⟨budget - 1, by omega, ?_⟩
  have hnext : Affords offset g (budget - 1) unit.iMaxSizeIndexNext :=
    Affords.fresh hsearch.next hrange rfl (by omega)
  rcases findOneFrame_missed hmiss with hnone | ⟨refer, hrefer, hearly⟩
  · rw [findOneFrame_silent hnone]
    exact hnext
  · rw [findOneFrame_early hrefer hearly]
    by_cases hdone : unit.counted.UsedUp
    · rw [if_pos hdone]
      exact hnext
    · -- one more search on the lane leaves one fewer
      rw [if_neg hdone]
      have hframe : unit.getIOffset unit.iMaxSizeIndex offset ≠ none := by
        rw [hrefer]
        exact Option.some_ne_none refer
      have hlast := hused hframe
      rw [Function.iterate_succ_apply] at hlast
      have hm : 0 < m := by
        refine Nat.pos_of_ne_zero fun hzero => hdone ?_
        rwa [hzero] at hlast
      refine ⟨{ hsearch with }, hrange, .inr ⟨m, ⟨hm, fun _ => hlast⟩, ?_⟩⟩
      show m + unit.iMaxSizeIndexNext.callsTo g ≤ budget - 1
      omega

omit [Inhabited I] in
/-- A search takes at most `searchRounds` calls for each lane. -/
theorem Searchable.callsTo_le (h : unit.Searchable offset g) :
    unit.callsTo g ≤ unit.numI * searchRounds unit.fsI unit.intervalTask := by
  have hge := h.index_ge
  have hle := h.index_le
  have hg := h.lane_lt
  have hrounds : 1 ≤ searchRounds unit.fsI unit.intervalTask := Nat.le_max_left _ _
  unfold callsTo
  split_ifs with hbefore
  · exact Nat.mul_le_mul_right _ (by omega)
  · have hmul : ((unit.numI - unit.iMaxSizeIndex + g).toNat + 1) *
        searchRounds unit.fsI unit.intervalTask ≤
          unit.numI * searchRounds unit.fsI unit.intervalTask :=
      Nat.mul_le_mul_right _ (by omega)
    rw [Nat.succ_mul] at hmul
    omega

omit [Inhabited I] in
/-- Behind a lane that is not lane `g`, two lanes need no calls any more. -/
theorem Searchable.callsTo_next_le (h : unit.Searchable offset g)
    (hlane : 0 ≤ unit.iMaxSizeIndex ∧ unit.iMaxSizeIndex < unit.numI)
    (hne : unit.iMaxSizeIndex ≠ g) :
    unit.iMaxSizeIndexNext.callsTo g + 2 * searchRounds unit.fsI unit.intervalTask ≤
      unit.numI * searchRounds unit.fsI unit.intervalTask + 1 := by
  have hg := h.lane_lt
  have hnext : ¬ (unit.numI : Int) < unit.iMaxSizeIndex + 1 := by omega
  simp only [callsTo, iMaxSizeIndexNext, h.lanes_eq, if_neg hnext]
  have hmul (n : Nat) (hn : n + 2 ≤ unit.numI) :
      n * searchRounds unit.fsI unit.intervalTask +
          2 * searchRounds unit.fsI unit.intervalTask ≤
        unit.numI * searchRounds unit.fsI unit.intervalTask := by
    rw [← Nat.add_mul]
    exact Nat.mul_le_mul_right _ hn
  split_ifs with hbefore
  · have hfew := hmul (g - (unit.iMaxSizeIndex + 1)).toNat (by omega)
    omega
  · have hfew := hmul (unit.numI - (unit.iMaxSizeIndex + 1) + g).toNat (by omega)
    omega

omit [Inhabited I] in
/-- If the product reaches 2.5 `fs_i` in time, `searchRounds` calls for each lane and for the index
behind the lanes are enough. -/
theorem Affords.start (h : unit.Searchable offset g)
    (hreached : ReachedInTime unit.fsI unit.intervalTask unit.taskSearchCount) :
    Affords offset g ((unit.numI + 1) * searchRounds unit.fsI unit.intervalTask) unit := by
  obtain ⟨hrange, m, hpos, hm, hused⟩ := hreached
  refine ⟨h, hrange, ?_⟩
  rw [Nat.succ_mul]
  by_cases hg : unit.iMaxSizeIndex = g
  · exact .inl hg
  right
  by_cases hframe : unit.getIOffset unit.iMaxSizeIndex offset = none
  · have hrounds : 1 ≤ searchRounds unit.fsI unit.intervalTask := Nat.le_max_left _ _
    have hnext : unit.iMaxSizeIndexNext.callsTo g ≤
        unit.numI * searchRounds unit.fsI unit.intervalTask := h.next.callsTo_le
    exact ⟨1, ⟨Nat.one_pos, fun hsome => absurd hframe hsome⟩, by omega⟩
  · have hnext := h.callsTo_next_le (index_lt_of_frame h.lanes_eq hframe) hg
    exact ⟨m, ⟨hpos, fun _ => (usedUp_iterate_iff unit m).mpr hused⟩, by omega⟩

/-- In that case the search makes progress. -/
theorem Searchable.progresses (h : unit.Searchable offset g)
    (hreached : ReachedInTime unit.fsI unit.intervalTask unit.taskSearchCount) :
    unit.Progresses offset := by
  obtain ⟨n, hn, hfound⟩ := exists_iterate_of_budget (Affords offset g)
    (fun _ _ hafford hmiss => hafford.step hmiss) (Affords.start h hreached)
  exact ⟨n, Nat.lt_succ_of_le hn, hfound⟩

/-! ## Lanes in which it does not -/

/-- `numI` lanes with one frame each, which comes late in lane `g` only. -/
def delayed (early late : I) (numI g : Nat) (fs interval count : Int32) (index : Int) :
    DataUnit I O where
  iQueueVector := (List.replicate numI { q := [early] }).set g { q := [late] }
  numI := numI
  fsI := fs
  intervalTask := interval
  timestampStore := 1
  iMaxSizeIndex := index
  taskSearchCount := count

variable {early late : I} {numI : Nat}

omit [Inhabited I] in
/-- The search can make progress there. -/
theorem delayed_searchable (hfs : 0 ≤ fs.toInt) (hpos : 0 < interval.toInt)
    (hlate : (timestamp late : Int) = 1 + fs.toInt) (hg : g < numI) (count : Int32) {index : Int}
    (hge : -1 ≤ index) (hle : index ≤ numI) :
    (delayed early late numI g fs interval count index : DataUnit I O).Searchable 0 g where
  lanes_eq := by simp [delayed]
  index_ge := hge
  index_le := hle
  fsI_nonneg := hfs
  interval_pos := hpos
  late := ⟨late, by simp [delayed, getIOffset, Vector.getIndex, hg], by
    show (1 : Int) + fs.toInt ≤ timestamp late
    omega⟩

/-- A call for one of the other lanes. -/
theorem delayed_call (hfs : 0 ≤ fs.toInt) (hearly : timestamp early = 0) {index : Nat}
    (hindex : index < numI) (hne : index ≠ g) :
    (delayed early late numI g fs interval count index : DataUnit I O).findOneFrame 0 =
      (if 5 * fs.toInt ≤ 2 * ((count + 1) * interval).toInt then
        delayed early late numI g fs interval 0 (index + 1 : Nat)
      else delayed early late numI g fs interval (count + 1) index, -2) := by
  have hframe : (delayed early late numI g fs interval count index : DataUnit I O).getIOffset
      (index : Int) 0 = some early := by
    simp [delayed, getIOffset, Vector.getIndex, hindex, List.getElem_set_ne hne.symm]
  have htooEarly :
      (delayed early late numI g fs interval count index : DataUnit I O).TooEarly early := by
    have hlt := fs.toInt_lt
    show (timestamp early : Int) < ((1 : Nat) + fs.toInt) % 2 ^ 64
    rw [hearly, Int.emod_eq_of_lt (by omega) (by omega)]
    omega
  rw [findOneFrame_early hframe htooEarly]
  have hnext :
      (delayed early late numI g fs interval count index : DataUnit I O).iMaxSizeIndexNext =
        delayed early late numI g fs interval 0 (index + 1 : Nat) := by
    have hlast : ¬ (numI : Int) < index + 1 := by omega
    simp [iMaxSizeIndexNext, delayed, hlast]
  rw [hnext]
  rfl

variable (late) in
/-- If the product of `searchRounds` searches leaves the range of an `int`, each lane but the first
one takes more searches than that. -/
theorem delayed_calls (hfs : 0 ≤ fs.toInt) (hpos : 0 < interval.toInt)
    (hrange : ¬ searchRounds fs interval * interval.toInt < 2 ^ 31) (hearly : timestamp early = 0)
    (n : Nat) (hn : n ≤ 3 * searchRounds fs interval * (searchRounds fs interval + 1)) :
    ∃ index j : Nat, index < 3 * searchRounds fs interval + 1 ∧
      calls 0 n (delayed early late (3 * searchRounds fs interval + 2)
          (3 * searchRounds fs interval + 1) fs interval count 0 : DataUnit I O) =
        delayed early late (3 * searchRounds fs interval + 2) (3 * searchRounds fs interval + 1)
          fs interval ((if index = 0 then count else 0) + Int32.ofNat j) index ∧
      (index = 0 ∨ (index - 1) * (searchRounds fs interval + 1) + j < n) := by
  set rounds := searchRounds fs interval with hrounds
  induction n with
  | zero => exact ⟨0, 0, by omega, by simp [calls], .inl rfl⟩
  | succ n ih =>
      obtain ⟨index, j, hindex, hstate, hslow⟩ := ih (by omega)
      have hadd (c : Int32) : c + Int32.ofNat j + 1 = c + Int32.ofNat (j + 1) := by
        rw [Int32.add_assoc, Int32.ofNat_add]
        rfl
      rw [calls, Function.iterate_succ_apply', ← calls, hstate,
        delayed_call hfs hearly (by omega) (by omega), hadd]
      by_cases hreached : 5 * fs.toInt ≤
          2 * (((if index = 0 then count else 0) + Int32.ofNat (j + 1)) * interval).toInt
      · -- the lane is given up, and it was not a new one with few searches
        have hslow' : index * (rounds + 1) < n + 1 := by
          rcases Nat.eq_zero_or_pos index with hzero | hlater
          · rw [hzero]
            omega
          · rw [if_neg (Nat.ne_of_gt hlater)] at hreached
            have hmany : rounds < j + 1 := by
              by_contra hfew
              exact not_reached_fromZero hpos hrange (Nat.not_lt.mp hfew) hreached
            obtain ⟨before, rfl⟩ := Nat.exists_eq_succ_of_ne_zero (Nat.ne_of_gt hlater)
            have hcalls := hslow.resolve_left (Nat.succ_ne_zero before)
            rw [Nat.succ_sub_one] at hcalls
            rw [Nat.succ_mul]
            omega
        rw [if_pos hreached]
        refine ⟨index + 1, 0, ?_, ?_, .inr ?_⟩
        · have hmul : index * (rounds + 1) < 3 * rounds * (rounds + 1) := by omega
          have hlt := Nat.lt_of_mul_lt_mul_right hmul
          omega
        · rw [if_neg (Nat.succ_ne_zero index)]
          rfl
        · rw [Nat.add_sub_cancel]
          omega
      · rw [if_neg hreached]
        exact ⟨index, j + 1, hindex, rfl, hslow.imp id fun hcalls => by omega⟩

variable (late) in
/-- If the lane at hand needs three times `searchRounds` searches or more, two lanes are enough to
see it. -/
theorem delayed_calls_two (hfs : 0 ≤ fs.toInt) (hearly : timestamp early = 0)
    (hslow : ∀ m : Nat, 0 < m → m < 3 * searchRounds fs interval →
      ¬ 5 * fs.toInt ≤ 2 * ((count + Int32.ofNat m) * interval).toInt)
    (n : Nat) (hn : n < 3 * searchRounds fs interval) :
    calls 0 n (delayed early late 2 0 fs interval count 1 : DataUnit I O) =
      delayed early late 2 0 fs interval (count + Int32.ofNat n) 1 := by
  induction n with
  | zero =>
      show delayed early late 2 0 fs interval count 1 = _
      rw [show Int32.ofNat 0 = 0 from rfl, Int32.add_zero]
  | succ n ih =>
      have hadd : count + Int32.ofNat n + 1 = count + Int32.ofNat (n + 1) := by
        rw [Int32.add_assoc, Int32.ofNat_add]
        rfl
      rw [calls, Function.iterate_succ_apply', ← calls, ih (by omega),
        show (1 : Int) = (1 : Nat) from rfl,
        delayed_call hfs hearly Nat.one_lt_two Nat.one_ne_zero, hadd,
        if_neg (hslow (n + 1) (Nat.succ_pos n) hn)]

/-- Otherwise there are lanes in which the search makes no progress. -/
theorem exists_not_progresses (hframes : ∀ t < 2 ^ 63, ∃ frame : I, timestamp frame = t)
    (hfs : 0 ≤ fs.toInt) (hpos : 0 < interval.toInt) (hslow : ¬ ReachedInTime fs interval count) :
    ∃ (unit : DataUnit I O) (g : Nat), unit.Searchable 0 g ∧ unit.fsI = fs ∧
      unit.intervalTask = interval ∧ unit.taskSearchCount = count ∧ ¬ unit.Progresses 0 := by
  have hlt := fs.toInt_lt
  obtain ⟨early, hearly⟩ := hframes 0 (by decide)
  obtain ⟨late, hlate⟩ := hframes (1 + fs.toInt.toNat) (by omega)
  have hlate : (timestamp late : Int) = 1 + fs.toInt := by omega
  set rounds := searchRounds fs interval with hrounds
  by_cases hrange : rounds * interval.toInt < 2 ^ 31
  · have hmany : ∀ m : Nat, 0 < m → m < 3 * rounds →
        ¬ 5 * fs.toInt ≤ 2 * ((count + Int32.ofNat m) * interval).toInt :=
      fun m hm hfew hreached => hslow ⟨hrange, m, hm, hfew, hreached⟩
    refine ⟨delayed early late 2 0 fs interval count 1, 0,
      delayed_searchable hfs hpos hlate Nat.two_pos count (by decide) (by decide),
      rfl, rfl, rfl, ?_⟩
    have hwaiting := delayed_calls_two (O := O) late hfs hearly hmany
    rintro ⟨n, hn, hfound⟩
    rcases Nat.lt_or_eq_of_le (Nat.le_of_lt_succ hn) with hfew | hlast
    · rw [hwaiting n hfew, show (1 : Int) = (1 : Nat) from rfl,
        delayed_call hfs hearly Nat.one_lt_two Nat.one_ne_zero] at hfound
      exact absurd (show (-2 : Int) = 0 from hfound) (by decide)
    · -- even if the lane is given up now, the call for the index behind the lanes is still to come
      have hrounds : 1 ≤ rounds := Nat.le_max_left _ _
      obtain ⟨before, rfl⟩ : ∃ before, n = before + 1 :=
        ⟨3 * rounds - 1, by rw [hlast]; show (2 + 1) * rounds = _; omega⟩
      have hbefore : before < 3 * rounds := by
        have hcalls : before + 1 = (2 + 1) * rounds := hlast
        omega
      rw [calls, Function.iterate_succ_apply', ← calls, hwaiting before hbefore,
        show (1 : Int) = (1 : Nat) from rfl,
        delayed_call hfs hearly Nat.one_lt_two Nat.one_ne_zero] at hfound
      dsimp only at hfound
      split_ifs at hfound
      · rw [findOneFrame_silent (by simp [delayed, getIOffset])] at hfound
        exact absurd (show (-1 : Int) = 0 from hfound) (by decide)
      · rw [delayed_call hfs hearly Nat.one_lt_two Nat.one_ne_zero] at hfound
        exact absurd (show (-2 : Int) = 0 from hfound) (by decide)
  · refine ⟨delayed early late (3 * rounds + 2) (3 * rounds + 1) fs interval count 0,
      3 * rounds + 1, delayed_searchable hfs hpos hlate (by omega) count (by decide)
        (Int.natCast_nonneg _), rfl, rfl, rfl, ?_⟩
    rintro ⟨n, hn, hfound⟩
    have hbound : n ≤ 3 * rounds * (rounds + 1) := by
      refine Nat.le_of_lt_succ (hn.trans_eq ?_)
      show (3 * rounds + 2 + 1) * rounds + 1 = 3 * rounds * (rounds + 1) + 1
      ring
    obtain ⟨index, j, hindex, hstate, -⟩ := delayed_calls (O := O) late hfs hpos hrange
      hearly n hbound
    rw [hstate, delayed_call hfs hearly (by omega) (by omega)] at hfound
    exact absurd (show (-2 : Int) = 0 from hfound) (by decide)

omit [Inhabited I] [Timestamped I] in
/-- It does if no product on the way leaves the range of an `int`. -/
theorem ReachedInTime.of_range (hpos : 0 < interval.toInt) (hcount : 0 ≤ count.toInt)
    (hzero : searchRounds fs interval * interval.toInt < 2 ^ 31)
    (hrange : (count.toInt + 1) * interval.toInt < 2 ^ 31) : ReachedInTime fs interval count := by
  have hrounds : 1 ≤ searchRounds fs interval := Nat.le_max_left _ _
  have hreaches : 5 * fs.toInt ≤ 2 * (searchRounds fs interval * interval.toInt) :=
    (searchRounds_spec hpos).1
  by_cases hnew : count.toInt < searchRounds fs interval
  · -- the lane gets as many searches as a new one
    refine ⟨hzero, searchRounds fs interval - count.toInt.toNat, by omega, by omega, ?_⟩
    have hsum : count.toInt + (searchRounds fs interval - count.toInt.toNat : Nat) =
        searchRounds fs interval := by omega
    have hnonneg : 0 ≤ searchRounds fs interval * interval.toInt :=
      Int.mul_nonneg (Int.natCast_nonneg _) (Int.le_of_lt hpos)
    rw [product_toInt, hsum, Int.bmod_eq_of_le (by omega) (by omega)]
    exact hreaches
  · -- the next search is the last one
    refine ⟨hzero, 1, Nat.one_pos, by omega, ?_⟩
    have hmul : searchRounds fs interval * interval.toInt ≤ (count.toInt + 1) * interval.toInt :=
      Int.mul_le_mul_of_nonneg_right (by omega) (Int.le_of_lt hpos)
    have hnonneg : 0 ≤ searchRounds fs interval * interval.toInt :=
      Int.mul_nonneg (Int.natCast_nonneg _) (Int.le_of_lt hpos)
    rw [product_toInt, Int.natCast_one, Int.bmod_eq_of_le (by omega) (by omega)]
    omega

/-- A flow with a given timestamp. -/
theorem exists_trafficFlow (t : Nat) (ht : t < 2 ^ 63) : ∃ flow : TrafficFlow, timestamp flow = t :=
  ⟨{ timestamp := ⟨t, ht⟩ }, rfl⟩

end RVDataFusionServer.DataUnit
