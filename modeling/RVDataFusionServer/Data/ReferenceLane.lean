import RVDataFusionServer.Data.FindOneFrame

/-!
# The reference lane

`i_maxSizeIndex` is selected by `runTask` and moved on by `FindOneFrame`. Its wrap compares with
the number of lanes one step too late, and `referenceLane_valid_iff` says in which runs it names a
lane, or none yet, all the time.
-/

namespace RVDataFusionServer

open Library Execution

variable {I O : Type} [Inhabited I] [Timestamped I]

namespace DataUnit

/-- Work on a data unit that touches neither the reference lane nor the number of lanes: what the
tasks of the source do with frames, such as `TaskProcessOneFrame` and `TransparentTransmission`. -/
structure Process (I O : Type) where
  run : DataUnit I O → DataUnit I O
  index_eq : ∀ unit, (run unit).iMaxSizeIndex = unit.iMaxSizeIndex
  lanes_eq : ∀ unit, (run unit).iQueueVector.length = unit.iQueueVector.length
  numI_eq : ∀ unit, (run unit).numI = unit.numI

/-- No work. -/
def Process.none : Process I O where
  run unit := unit
  index_eq _ := rfl
  lanes_eq _ := rfl
  numI_eq _ := rfl

/-- A task of `runTask`: it calls `FindOneFrame` and goes on when that returns 0, or it does
something else. -/
inductive Task (I O : Type) where
  | findOneFrame (offset : Int) (process : Process I O)
  | other (process : Process I O)

/-- The effect of a task. -/
def Task.run : Task I O → DataUnit I O → DataUnit I O
  | .findOneFrame offset process, unit =>
      let result := unit.findOneFrame offset
      if result.2 = 0 then process.run result.1 else result.1
  | .other process, unit => process.run unit

/-- What happens to a data unit. -/
inductive LaneInput (I O : Type) where
  | push (frame : I) (index : Nat)
  | findOneFrame (offset : Int)
  | runTask (task : Task I O)

/-- One step of a data unit. -/
def laneStep (unit : DataUnit I O) : LaneInput I O → DataUnit I O × Unit
  | .push frame index => ((unit.pushI frame index).1, ())
  | .findOneFrame offset => ((unit.findOneFrame offset).1, ())
  | .runTask task => ((unit.runTask fun unit => (task.run unit, ())).1, ())

/-- `i_maxSizeIndex` is -1 or the index of a lane. -/
def ValidIndex (unit : DataUnit I O) : Prop :=
  unit.iMaxSizeIndex = -1 ∨ 0 ≤ unit.iMaxSizeIndex ∧ unit.iMaxSizeIndex < unit.numI

instance decidableValidIndex (unit : DataUnit I O) : Decidable unit.ValidIndex :=
  inferInstanceAs (Decidable (_ ∨ _))

/-- A call of `FindOneFrame` gives up its reference lane: the lane has no frame at the offset, or
one that comes too early for as long as 2.5 `fs_i`. -/
def givesUp (unit : DataUnit I O) (offset : Int) : Bool :=
  (unit.getIOffset unit.iMaxSizeIndex offset).all fun refer =>
    decide (unit.TooEarly refer ∧ unit.counted.UsedUp)

/-- A call of `FindOneFrame` does not give up the last lane. -/
def KeepsLast (unit : DataUnit I O) (offset : Int) : Prop :=
  unit.iMaxSizeIndex = unit.numI - 1 → unit.givesUp offset = false

instance decidableKeepsLast (unit : DataUnit I O) (offset : Int) :
    Decidable (unit.KeepsLast offset) :=
  inferInstanceAs (Decidable (_ → _))

/-- The condition on a step: a call of `FindOneFrame` that it makes does not give up the last
lane. -/
def LaneKept (unit : DataUnit I O) : LaneInput I O → Prop
  | .push _ _ => True
  | .findOneFrame offset => unit.KeepsLast offset
  | .runTask (.findOneFrame offset _) =>
      unit.cache ≤ unit.longestLane.1 → unit.selectLane.KeepsLast offset
  | .runTask (.other _) => True

instance decidableLaneKept : ∀ (unit : DataUnit I O) (input : LaneInput I O),
    Decidable (unit.LaneKept input)
  | _, .push _ _ => .isTrue trivial
  | unit, .findOneFrame offset => inferInstanceAs (Decidable (unit.KeepsLast offset))
  | unit, .runTask (.findOneFrame offset _) =>
      inferInstanceAs (Decidable (_ → unit.selectLane.KeepsLast offset))
  | _, .runTask (.other _) => .isTrue trivial

/-- The lanes are as many as `numI`, and the reference lane is one of them. -/
structure LaneInv (unit : DataUnit I O) : Prop where
  pos : 0 < unit.numI
  lanes_eq : unit.iQueueVector.length = unit.numI
  valid : unit.ValidIndex

/-! ## One call of `FindOneFrame` -/

omit [Inhabited I] in
/-- The loop over the lanes leaves the reference lane alone. -/
theorem takeLanes_index (unit : DataUnit I O) (count : Nat) :
    (unit.takeLanes count).iMaxSizeIndex = unit.iMaxSizeIndex := by
  unfold takeLanes
  induction List.range count generalizing unit with
  | nil => rfl
  | cons i rest ih =>
      rw [List.foldl_cons, ih]
      unfold threadGetDataInRange
      split <;> rfl

/-- A call moves the reference lane on if it gives the lane up, and keeps it otherwise. -/
theorem findOneFrame_index (unit : DataUnit I O) (offset : Int) :
    (unit.findOneFrame offset).1.iMaxSizeIndex =
      if unit.givesUp offset then unit.iMaxSizeIndexNext.iMaxSizeIndex
      else unit.iMaxSizeIndex := by
  unfold findOneFrame givesUp
  cases hrefer : unit.getIOffset unit.iMaxSizeIndex offset with
  | none => rfl
  | some refer =>
      rw [Option.all_some]
      by_cases hearly : unit.TooEarly refer
      · by_cases hused : unit.counted.UsedUp
        · simp only [hearly, hused, if_true, and_self, decide_true]
          rfl
        · simp [hearly, hused]
          rfl
      · simp only [hearly, if_false, false_and, decide_false, Bool.false_eq_true]
        rw [takeLanes_index]
        rfl

/-- A call leaves the number of lanes alone. -/
theorem findOneFrame_lanes (unit : DataUnit I O) (offset : Int) :
    (unit.findOneFrame offset).1.iQueueVector = unit.iQueueVector ∧
      (unit.findOneFrame offset).1.numI = unit.numI := by
  obtain ⟨refer, -, -, hcall⟩ | ⟨-, -, hlanes, hnum, -⟩ := unit.findOneFrame_cases offset
  · have htaken := takeLanes_spec unit refer unit.iQueueVector.length
    rw [hcall]
    exact ⟨htaken.lanes_eq, htaken.numI_eq⟩
  · exact ⟨hlanes, hnum⟩

/-- A call that does not give up the last lane leads from a lane to a lane. -/
theorem LaneInv.findOneFrame {unit : DataUnit I O} (h : unit.LaneInv) {offset : Int}
    (hkeeps : unit.KeepsLast offset) : (unit.findOneFrame offset).1.LaneInv := by
  obtain ⟨hlanes, hnum⟩ := unit.findOneFrame_lanes offset
  have hpos := h.pos
  refine ⟨by rw [hnum]; exact hpos, by rw [hlanes, hnum]; exact h.lanes_eq, ?_⟩
  rw [ValidIndex, findOneFrame_index, hnum]
  by_cases hgives : unit.givesUp offset = true
  · have hlast : unit.iMaxSizeIndex ≠ unit.numI - 1 := by
      intro hlast
      rw [hkeeps hlast] at hgives
      cases hgives
    have hvalid := h.valid
    rw [ValidIndex] at hvalid
    rw [if_pos hgives, iMaxSizeIndexNext, h.lanes_eq]
    dsimp only
    rw [if_neg (by omega)]
    omega
  · rw [if_neg hgives]
    exact h.valid

/-- A call that gives up the last lane leads behind the lanes. -/
theorem LaneInv.findOneFrame_breaks {unit : DataUnit I O} (h : unit.LaneInv) {offset : Int}
    (hkeeps : ¬ unit.KeepsLast offset) : ¬ (unit.findOneFrame offset).1.ValidIndex := by
  have hpos := h.pos
  obtain ⟨hlast, hgives⟩ := not_forall.mp hkeeps
  rw [Bool.not_eq_false] at hgives
  rw [ValidIndex, findOneFrame_index, (unit.findOneFrame_lanes offset).2, if_pos hgives,
    iMaxSizeIndexNext, h.lanes_eq]
  dsimp only
  rw [if_neg (by omega)]
  omega

/-! ## The other steps -/

omit [Inhabited I] [Timestamped I] in
/-- The longest lane is a lane, as long as there is one. -/
theorem longestLane_lt {unit : DataUnit I O} (h : 0 < unit.iQueueVector.length) :
    unit.longestLane.2 < unit.iQueueVector.length := by
  have hfold (lanes : List (Vector I × Nat)) (longest : Nat × Nat)
      (hlongest : longest.2 < unit.iQueueVector.length)
      (hlanes : ∀ lane ∈ lanes, lane.2 < unit.iQueueVector.length) :
      (lanes.foldl (fun longest lane =>
        if longest.1 < lane.1.q.length then (lane.1.q.length, lane.2) else longest)
          longest).2 < unit.iQueueVector.length := by
    induction lanes generalizing longest with
    | nil => exact hlongest
    | cons lane lanes ih =>
        rw [List.foldl_cons]
        apply ih
        · by_cases hlonger : longest.1 < lane.1.q.length
          · rw [if_pos hlonger]
            exact hlanes lane List.mem_cons_self
          · rw [if_neg hlonger]
            exact hlongest
        · exact fun other hother => hlanes other (List.mem_cons_of_mem lane hother)
  apply hfold _ _ h
  intro lane hlane
  have hlt := List.snd_lt_of_mem_zipIdx hlane
  omega

omit [Inhabited I] [Timestamped I] in
/-- Selecting a lane leads to a lane. -/
theorem LaneInv.selectLane {unit : DataUnit I O} (h : unit.LaneInv) :
    unit.selectLane.LaneInv := by
  unfold DataUnit.selectLane
  by_cases hnone : unit.iMaxSizeIndex = -1
  · have hlanes := h.lanes_eq
    have hlt : unit.longestLane.2 < unit.iQueueVector.length :=
      longestLane_lt (by rw [hlanes]; exact h.pos)
    rw [if_pos hnone]
    refine ⟨h.pos, hlanes, Or.inr ⟨Int.natCast_nonneg _, ?_⟩⟩
    rw [hlanes] at hlt
    exact Int.ofNat_lt.mpr hlt
  · rw [if_neg hnone]
    exact h

omit [Inhabited I] [Timestamped I] in
/-- A push leaves the lanes in number. -/
theorem LaneInv.push {unit : DataUnit I O} (h : unit.LaneInv) (frame : I) (index : Nat) :
    (unit.pushI frame index).1.LaneInv := by
  unfold pushI
  split
  · exact h
  · exact ⟨h.pos, by rw [List.length_set]; exact h.lanes_eq, h.valid⟩

omit [Inhabited I] [Timestamped I] in
/-- So does the work of a task. -/
theorem LaneInv.process {unit : DataUnit I O} (h : unit.LaneInv) (process : Process I O) :
    (process.run unit).LaneInv := by
  refine ⟨by rw [process.numI_eq]; exact h.pos, ?_, ?_⟩
  · rw [process.lanes_eq, process.numI_eq]
    exact h.lanes_eq
  · rw [ValidIndex, process.index_eq, process.numI_eq]
    exact h.valid

/-- A task that looks for a frame leaves a lane behind exactly when its call does. -/
theorem Task.run_findOneFrame_validIndex (unit : DataUnit I O) (offset : Int)
    (process : Process I O) :
    ((Task.findOneFrame offset process).run unit).ValidIndex ↔
      (unit.findOneFrame offset).1.ValidIndex := by
  unfold Task.run
  dsimp only
  split
  · rw [ValidIndex, process.index_eq, process.numI_eq]
    exact Iff.rfl
  · exact Iff.rfl

/-- A step that meets the condition keeps the invariant. -/
theorem LaneInv.step {unit : DataUnit I O} (h : unit.LaneInv) {input : LaneInput I O}
    (hkept : unit.LaneKept input) : (laneStep unit input).1.LaneInv := by
  cases input with
  | push frame index => exact h.push frame index
  | findOneFrame offset => exact h.findOneFrame hkept
  | runTask task =>
      show (runTask unit _).1.LaneInv
      unfold runTask
      by_cases hrun : unit.cache ≤ unit.longestLane.1
      · rw [if_pos hrun]
        cases task with
        | other process => exact h.selectLane.process process
        | findOneFrame offset process =>
            have hcall := h.selectLane.findOneFrame (hkept hrun)
            show ((Task.findOneFrame offset process).run unit.selectLane).LaneInv
            unfold Task.run
            dsimp only
            split
            · exact hcall.process process
            · exact hcall
      · rw [if_neg hrun]
        exact h

/-- A step that does not meet it leads behind the lanes. -/
theorem LaneInv.step_breaks {unit : DataUnit I O} (h : unit.LaneInv) {input : LaneInput I O}
    (hkept : ¬ unit.LaneKept input) : ¬ (laneStep unit input).1.ValidIndex := by
  cases input with
  | push frame index => exact absurd trivial hkept
  | findOneFrame offset => exact h.findOneFrame_breaks hkept
  | runTask task =>
      cases task with
      | other process => exact absurd trivial hkept
      | findOneFrame offset process =>
          obtain ⟨hrun, hbreaks⟩ := not_forall.mp hkept
          show ¬ (runTask unit _).1.ValidIndex
          unfold runTask
          rw [if_pos hrun]
          show ¬ ((Task.findOneFrame offset process).run unit.selectLane).ValidIndex
          rw [Task.run_findOneFrame_validIndex]
          exact h.selectLane.findOneFrame_breaks hbreaks

/-- A data unit after its initialisation. -/
def laneStart (c : Nat) (fs : Int32) (i_num : Nat) (cache : Int) (intervalTask : Int32) :
    DataUnit I O :=
  DataUnit.init {} c fs i_num cache intervalTask

omit [Timestamped I] in
theorem laneInv_start {i_num : Nat} (hpos : 0 < i_num) (c : Nat) (fs : Int32)
    (cache : Int) (intervalTask : Int32) :
    (laneStart (I := I) (O := O) c fs i_num cache intervalTask).LaneInv := by
  refine ⟨hpos, ?_, Or.inl rfl⟩
  show ((resize [] i_num _).map _).length = i_num
  rw [List.length_map, length_resize]

/-- The reference lane is -1 or a lane in every state of a run exactly if no call of `FindOneFrame`
in the run gives up the last lane. -/
theorem referenceLane_valid_iff {i_num : Nat} (hpos : 0 < i_num) (c : Nat) (fs : Int32)
    (cache : Int) (intervalTask : Int32) (inputs : List (LaneInput I O)) :
    Always laneStep ValidIndex (laneStart c fs i_num cache intervalTask) inputs ↔
      Allowed laneStep LaneKept (laneStart c fs i_num cache intervalTask) inputs :=
  always_iff_allowed LaneInv (fun _ h => h.valid) (fun _ _ h => h.step)
    (fun _ _ h => h.step_breaks) (laneInv_start hpos c fs cache intervalTask) inputs

/-- One lane, a call before the first frame, and a task that looks for none. -/
theorem referenceLane_valid_one :
    Always laneStep ValidIndex (laneStart 3 100 1 3 10 : DataUnit TrafficFlow Unit)
      [.findOneFrame 0, .runTask (.other .none)] :=
  (referenceLane_valid_iff Nat.one_pos 3 100 3 10 _).mpr (by decide)

/-- One lane, and two calls before the first frame. -/
theorem referenceLane_one_past :
    ¬ Always laneStep ValidIndex (laneStart 3 100 1 3 10 : DataUnit TrafficFlow Unit)
      [.findOneFrame 0, .findOneFrame 0] := by
  intro h
  have hlast : ValidIndex (final laneStep (laneStart 3 100 1 3 10 : DataUnit TrafficFlow Unit)
      [.findOneFrame 0, .findOneFrame 0]) := (always_iff _ _).mp h 2
  revert hlast
  decide

end DataUnit

end RVDataFusionServer
