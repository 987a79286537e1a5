import Mathlib.Tactic.Ring
import Mathlib.Tactic.SplitIfs
import RVDataFusionServer.Queue

/-!
# Data units

`DataUnit<I, O>` (`DataUnit.h`): one input lane for each device, an output queue, the table
`unOrder` from lanes to device codes and the search for frames of one moment. Timestamps are
the milliseconds to which every use in the source converts its `double`. The name, the serial
number and the owner of a data unit are used by no function here and left out, as are the threads
that `init` starts.
-/

namespace RVDataFusionServer

/-- An input of a data unit has a timestamp, which fits into a `long long`. -/
class Timestamped (I : Type) where
  timestamp : I → Nat
  timestamp_lt : ∀ frame, timestamp frame < 2 ^ 63

/-- An input of a data unit names the device that it comes from. -/
class HardCoded (I : Type) where
  hardCode : I → String

export Timestamped (timestamp timestamp_lt)
export HardCoded (hardCode)

/-- There are timestamps, so that numbers can be written for them. -/
instance neZero_timestamps : NeZero (2 ^ 63) := ⟨by decide⟩

/-- `TrafficFlow`, the input of one of the data units, without the fields that the lanes do not
look at. -/
structure TrafficFlow where
  hardCode : String := ""
  timestamp : Fin (2 ^ 63) := 0
  deriving DecidableEq, Repr, Inhabited

instance : Timestamped TrafficFlow where
  timestamp flow := flow.timestamp
  timestamp_lt flow := flow.timestamp.isLt

instance : HardCoded TrafficFlow where
  hardCode flow := flow.hardCode

/-- `DataUnit<I, O>`. The field `fs_i`, which has no default in the source, starts at 0. -/
structure DataUnit (I O : Type) where
  iQueueVector : List (Vector I) := []
  oQueue : Queue O := {}
  cache : Int := 0
  iMaxSizeIndex : Int := -1
  taskSearchCount : Int32 := 0
  fsI : Int32 := 0
  cap : Nat := 0
  numI : Nat := 0
  thresholdFrame : Int32 := 10
  curTimestamp : Nat := 0
  xRoadTimestamp : List Nat := []
  oneFrame : List I := []
  unOrder : List String := []
  isTaskRun : Bool := false
  intervalTask : Int32 := 10
  timestampStore : Nat := 0

/-- The number is one of an `int`. -/
def IsInt (n : Int) : Prop := -2 ^ 31 ≤ n ∧ n < 2 ^ 31

instance (n : Int) : Decidable (IsInt n) := inferInstanceAs (Decidable (_ ∧ _))

/-- A number that is cut to an `int` stays what it is exactly if it is one. -/
theorem toInt_ofInt_iff (n : Int) : (Int32.ofInt n).toInt = n ↔ IsInt n := by
  constructor
  · intro hsame
    rw [← hsame]
    exact ⟨Int32.le_toInt _, Int32.toInt_lt _⟩
  · rintro ⟨hlow, hhigh⟩
    exact Int32.toInt_ofInt_of_le hlow hhigh

/-- `std::vector::resize`. -/
def resize {α : Type} (xs : List α) (n : Nat) (x : α) : List α :=
  xs.take n ++ List.replicate (n - xs.length) x

@[simp] theorem length_resize {α : Type} (xs : List α) (n : Nat) (x : α) :
    (resize xs n x).length = n := by
  simp [resize]
  omega

/-- A resized list has the old elements in front and the new one behind them. -/
theorem getElem?_resize {α : Type} {xs : List α} {n i : Nat} (hi : i < n) (x : α) :
    (resize xs n x)[i]? = some (xs[i]?.getD x) := by
  unfold resize
  by_cases hlt : i < xs.length
  · rw [List.getElem?_append_left (by simp; omega), List.getElem?_take_of_lt hi]
    simp [hlt]
  · rw [List.getElem?_append_right (by simp; omega), List.getElem?_eq_none (Nat.le_of_not_lt hlt)]
    simp [List.getElem?_replicate]
    omega

/-- A loop that appends one element for each element of a list. -/
theorem foldl_push {α β : Type} (f : β → α) (acc : List α) (xs : List β) :
    xs.foldl (fun acc x => acc ++ [f x]) acc = acc ++ xs.map f := by
  rw [List.foldl_append_eq_append, ← List.flatMap_def, ← List.map_eq_flatMap]

/-- A lane that is changed is the changed one, and the others are what they were. -/
theorem getElem?_set_cases {α : Type} {xs : List α} {i j : Nat} {x y : α}
    (h : (xs.set i x)[j]? = some y) : i = j ∧ x = y ∨ xs[j]? = some y := by
  rw [List.getElem?_set] at h
  split_ifs at h with heq hlt
  · exact .inl ⟨heq, Option.some.inj h⟩
  · exact .inr h

namespace DataUnit

variable {I O : Type}

/-- What `setCapNumI` and `init` do to the lanes, the output queue and the tables. -/
def setLanes [Inhabited I] (unit : DataUnit I O) (c i_num : Nat) : DataUnit I O :=
  { unit with
    cap := c
    numI := i_num
    iQueueVector := (resize unit.iQueueVector i_num {}).map fun lane => lane.setMax c
    oQueue := unit.oQueue.setMax c
    oneFrame := resize unit.oneFrame i_num default
    xRoadTimestamp := List.replicate i_num 0
    unOrder := List.replicate i_num "" }

/-- `DataUnit::setCapNumI`. -/
def setCapNumI [Inhabited I] (unit : DataUnit I O) (c i_num : Nat) : DataUnit I O :=
  unit.setLanes c i_num

/-- `DataUnit::init`, up to the threads that it starts. -/
def init [Inhabited I] (unit : DataUnit I O) (c : Nat) (fs : Int32) (i_num : Nat) (cache : Int)
    (intervalTask : Int32) : DataUnit I O :=
  { unit.setLanes c i_num with
    isTaskRun := true
    thresholdFrame := fs
    fsI := fs
    cache := cache
    intervalTask := intervalTask }

/-- `DataUnit::getIOffset`: `none` when it returns `false`, also for a lane that does not exist. -/
def getIOffset (unit : DataUnit I O) (index offset : Int) : Option I :=
  if index < 0 then none
  else unit.iQueueVector[index.toNat]?.bind fun lane => lane.getIndex offset

/-- `DataUnit::pushI`, with its return value. A lane that does not exist takes nothing. -/
def pushI (unit : DataUnit I O) (i : I) (index : Nat) : DataUnit I O × Bool :=
  match unit.iQueueVector[index]? with
  | none => (unit, false)
  | some lane => ({ unit with iQueueVector := unit.iQueueVector.set index (lane.push i) }, true)

/-- `DataUnit::eraseBeginI`. -/
def eraseBeginI (unit : DataUnit I O) (index : Nat) : DataUnit I O :=
  match unit.iQueueVector[index]? with
  | none => unit
  | some lane => { unit with iQueueVector := unit.iQueueVector.set index lane.eraseBegin }

/-- `DataUnit::FindIndexInUnOrder`: the lane that a code has, or else the first lane that no code
has, which it gets. -/
def findIndexInUnOrder (unit : DataUnit I O) (code : String) : DataUnit I O × Int :=
  match unit.unOrder.findIdx? (· = code) with
  | some alreadyExistIndex => (unit, alreadyExistIndex)
  | none =>
      match unit.unOrder.findIdx? (· = "") with
      | some i => ({ unit with unOrder := unit.unOrder.set i code }, i)
      | none => (unit, -1)

/-- What `getIOffset` finds is a frame in a lane. -/
theorem getIOffset_eq_some {unit : DataUnit I O} {index offset : Int} {refer : I}
    (h : unit.getIOffset index offset = some refer) :
    ∃ (j : Nat) (lane : Vector I), index = j ∧ unit.iQueueVector[j]? = some lane ∧
      lane.q[offset.toNat]? = some refer := by
  unfold getIOffset at h
  split_ifs at h with hneg
  obtain ⟨lane, hlane, hget⟩ := Option.bind_eq_some_iff.mp h
  unfold Vector.getIndex at hget
  split_ifs at hget with hoff
  exact ⟨index.toNat, lane, by omega, hlane, hget⟩

/-- Taking a frame from a lane leaves the output queue alone. -/
@[simp] theorem oQueue_eraseBeginI (unit : DataUnit I O) (index : Nat) :
    (unit.eraseBeginI index).oQueue = unit.oQueue := by
  unfold eraseBeginI
  split <;> rfl

/-- Taking a frame from a lane adds no frame to a lane. -/
theorem mem_of_eraseBeginI {unit : DataUnit I O} {index : Nat} {lane : Vector I} {x : I}
    (hlane : lane ∈ (unit.eraseBeginI index).iQueueVector) (hx : x ∈ lane.q) :
    ∃ old ∈ unit.iQueueVector, x ∈ old.q := by
  unfold eraseBeginI at hlane
  cases hindex : unit.iQueueVector[index]? with
  | none =>
      rw [hindex] at hlane
      exact ⟨lane, hlane, hx⟩
  | some old =>
      rw [hindex] at hlane
      rcases List.mem_or_eq_of_mem_set hlane with hold | rfl
      · exact ⟨lane, hold, hx⟩
      · exact ⟨old, List.mem_of_getElem? hindex, List.mem_of_mem_tail hx⟩

/-- A push adds only the frame that is pushed. -/
theorem mem_of_pushI {unit : DataUnit I O} {frame : I} {index : Nat} {lane : Vector I} {x : I}
    (hlane : lane ∈ (unit.pushI frame index).1.iQueueVector) (hx : x ∈ lane.q) :
    x = frame ∨ ∃ old ∈ unit.iQueueVector, x ∈ old.q := by
  unfold pushI at hlane
  cases hindex : unit.iQueueVector[index]? with
  | none =>
      rw [hindex] at hlane
      exact .inr ⟨lane, hlane, hx⟩
  | some old =>
      rw [hindex] at hlane
      rcases List.mem_or_eq_of_mem_set hlane with hold | rfl
      · exact .inr ⟨lane, hold, hx⟩
      · rcases Vector.mem_push hx with hold | hnew
        · exact .inr ⟨old, List.mem_of_getElem? hindex, hold⟩
        · exact .inl hnew

/-- Assigning a code to a lane keeps the lanes that have a code. -/
theorem findIndexInUnOrder_spec (unit : DataUnit I O) (code : String) :
    (unit.findIndexInUnOrder code).1.iQueueVector = unit.iQueueVector ∧
      ∀ (index : Nat) (other : String), other ≠ "" → unit.unOrder[index]? = some other →
        (unit.findIndexInUnOrder code).1.unOrder[index]? = some other := by
  unfold findIndexInUnOrder
  cases hexists : unit.unOrder.findIdx? (· = code) with
  | some index => exact ⟨rfl, fun _ _ _ h => h⟩
  | none =>
      cases hfree : unit.unOrder.findIdx? (· = "") with
      | none => exact ⟨rfl, fun _ _ _ h => h⟩
      | some free =>
          refine ⟨rfl, fun index other hother h => ?_⟩
          obtain ⟨hlt, hempty, -⟩ := List.findIdx?_eq_some_iff_getElem.mp hfree
          have hne : free ≠ index := by
            rintro rfl
            rw [List.getElem?_eq_getElem hlt] at h
            exact hother (by simpa [Option.some.inj h] using hempty)
          rw [List.getElem?_set_ne hne]
          exact h

/-- `DataUnit::i_maxSizeIndexNext`. -/
def iMaxSizeIndexNext (unit : DataUnit I O) : DataUnit I O :=
  let next := unit.iMaxSizeIndex + 1
  { unit with
    iMaxSizeIndex := if (unit.iQueueVector.length : Int) < next then 0 else next
    taskSearchCount := 0 }

/-- The first loop of `runTask`: the size and the index of the first lane of the greatest size. -/
def longestLane (unit : DataUnit I O) : Nat × Nat :=
  unit.iQueueVector.zipIdx.foldl
    (fun longest lane => if longest.1 < lane.1.q.length then (lane.1.q.length, lane.2) else longest)
    (0, 0)

/-- The reference lane of `runTask`: the longest one, as long as there is none yet. -/
def selectLane (unit : DataUnit I O) : DataUnit I O :=
  if unit.iMaxSizeIndex = -1 then { unit with iMaxSizeIndex := unit.longestLane.2 } else unit

/-- `DataUnit::runTask`: `none` when the lanes do not hold enough frames for the task to run. -/
def runTask {α : Type} (unit : DataUnit I O) (task : DataUnit I O → DataUnit I O × α) :
    DataUnit I O × Option α :=
  if unit.cache ≤ unit.longestLane.1 then
    let result := task unit.selectLane
    (result.1, some result.2)
  else (unit, none)

/-- The lanes behind an initialisation are lanes from before, with the same frames. -/
theorem lane_of_setLanes [Inhabited I] (unit : DataUnit I O) {c i_num index : Nat}
    {lane : Vector I} (hlane : (unit.setLanes c i_num).iQueueVector[index]? = some lane) :
    index < i_num ∧
      (lane.q = [] ∨ ∃ old, unit.iQueueVector[index]? = some old ∧ old.q = lane.q) := by
  have hlt : index < i_num := by
    have hbound := (List.getElem?_eq_some_iff.mp hlane).1
    simpa [setLanes] using hbound
  simp only [setLanes, List.getElem?_map, getElem?_resize hlt, Option.map_some,
    Option.some.injEq] at hlane
  refine ⟨hlt, ?_⟩
  cases hold : unit.iQueueVector[index]? with
  | none =>
      rw [hold] at hlane
      exact .inl (by rw [← hlane]; rfl)
  | some old =>
      rw [hold] at hlane
      exact .inr ⟨old, rfl, by rw [← hlane]; rfl⟩

/-- The lanes of a new data unit are empty. -/
theorem lane_of_setLanes_new [Inhabited I] {c i_num : Nat} {lane : Vector I}
    (hlane : lane ∈ (({} : DataUnit I O).setLanes c i_num).iQueueVector) : lane.q = [] := by
  obtain ⟨index, hindex⟩ := List.mem_iff_getElem?.mp hlane
  obtain ⟨-, hnil | ⟨old, hold, -⟩⟩ := lane_of_setLanes {} hindex
  · exact hnil
  · simp at hold

variable [Timestamped I]

/-- The timestamp of a frame is nearer to `curTimestamp` than `fs_i`. -/
def InWindow (fsI : Int32) (curTimestamp : Nat) (frame : I) : Prop :=
  (((timestamp frame : Int) - curTimestamp).natAbs : Int) < fsI.toInt

instance (fsI : Int32) (curTimestamp : Nat) (frame : I) :
    Decidable (InWindow fsI curTimestamp frame) :=
  inferInstanceAs (Decidable (_ < _))

/-- The loop of `ThreadGetDataInRange`: the first frame of a lane in the window. -/
def firstInWindow (unit : DataUnit I O) (index curTimestamp : Nat) : Option I :=
  unit.iQueueVector[index]?.bind fun lane =>
    lane.q.find? fun refer => InWindow unit.fsI curTimestamp refer

/-- `DataUnit::ThreadGetDataInRange`. -/
def threadGetDataInRange (unit : DataUnit I O) (index curTimestamp : Nat) : DataUnit I O :=
  match unit.firstInWindow index curTimestamp with
  | none => unit
  | some refer =>
      { unit with
        xRoadTimestamp := unit.xRoadTimestamp.set index (timestamp refer)
        oneFrame := unit.oneFrame.set index refer }

/-- The reference frame comes too early: the sum is that of a `uint64_t` and an `int`. -/
def TooEarly (unit : DataUnit I O) (refer : I) : Prop :=
  (timestamp refer : Int) < ((unit.timestampStore : Int) + unit.fsI.toInt) % 2 ^ 64

instance (unit : DataUnit I O) (refer : I) : Decidable (unit.TooEarly refer) :=
  inferInstanceAs (Decidable (_ < _))

/-- The new reference of a successful `FindOneFrame`, with an empty `oneFrame`. -/
def newReference [Inhabited I] (unit : DataUnit I O) (refer : I) : DataUnit I O :=
  { unit with
    taskSearchCount := 0
    timestampStore := timestamp refer
    curTimestamp := timestamp refer
    oneFrame := List.replicate unit.numI default }

/-- The loop of a successful `FindOneFrame`, over the first `count` lanes. -/
def takeLanes (unit : DataUnit I O) (count : Nat) : DataUnit I O :=
  (List.range count).foldl (fun unit i => unit.threadGetDataInRange i unit.curTimestamp) unit

/-- The searches on the reference lane have taken 2.5 `fs_i`: the product is that of two `int`s,
and the factor is 5/2. -/
def UsedUp (unit : DataUnit I O) : Prop :=
  5 * unit.fsI.toInt ≤ 2 * (unit.taskSearchCount * unit.intervalTask).toInt

instance (unit : DataUnit I O) : Decidable unit.UsedUp :=
  inferInstanceAs (Decidable (_ ≤ _))

/-- One more search on the reference lane. -/
def counted (unit : DataUnit I O) : DataUnit I O :=
  { unit with taskSearchCount := unit.taskSearchCount + 1 }

/-- `DataUnit::FindOneFrame`, with its return value. -/
def findOneFrame [Inhabited I] (unit : DataUnit I O) (offset : Int) : DataUnit I O × Int :=
  match unit.getIOffset unit.iMaxSizeIndex offset with
  | none => (unit.iMaxSizeIndexNext, -1)
  | some refer =>
      if unit.TooEarly refer then
        let unit := unit.counted
        if unit.UsedUp then (unit.iMaxSizeIndexNext, -2) else (unit, -2)
      else ((unit.newReference refer).takeLanes unit.iQueueVector.length, 0)

end DataUnit

end RVDataFusionServer
