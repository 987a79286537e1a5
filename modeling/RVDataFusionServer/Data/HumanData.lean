import RVDataFusionServer.Data.DataUnit

/-!
# Pedestrians

`DataUnitHumanData::specialBusiness` (`DataUnit.cpp`) drains the lanes and sums up the areas of each
record. It never assigns the `detectDirection` of the entry that it creates, which is whatever is
found in that memory: `drains_iff`.
-/

namespace RVDataFusionServer

/-- `HumanData_areaListItem`, without the fields that nothing here reads. -/
structure HumanData.AreaListItem where
  humanNum : Int32 := 0
  humanType : Int32 := 0
  bicycleNum : Int32 := 0
  deriving DecidableEq, Repr

/-- `HumanData`, without the `location`, which nothing here reads. -/
structure HumanData where
  oprNum : String := ""
  timestamp : Nat := 0
  crossID : String := ""
  hardCode : String := ""
  direction : Int32 := 0
  areaList : List HumanData.AreaListItem := []
  deriving DecidableEq, Repr

/-- `HumanDataGather_deviceListItem`. The numbers have no default. -/
structure HumanDataGather.DeviceListItem where
  deviceCode : String := ""
  deviceLocation : String := ""
  waitingAreaLocation : String := ""
  zebraCrossingCode : String := ""
  detectDirection : Int32
  direction : Int32
  humanNum : Int32
  humanType : Int32
  bicycleNum : Int32
  deriving DecidableEq, Repr

/-- `HumanDataGather`. -/
structure HumanDataGather where
  oprNum : String := ""
  timestamp : Nat := 0
  crossID : String := ""
  hardCode : String := ""
  deviceList : List HumanDataGather.DeviceListItem := []
  deriving DecidableEq, Repr

/-- `DataUnitHumanData`. -/
abbrev DataUnitHumanData := DataUnit HumanData HumanDataGather

namespace DataUnitHumanData

/-- The body of the loop over the areas. -/
def count (item1 : HumanDataGather.DeviceListItem) (iter1 : HumanData.AreaListItem) :
    HumanDataGather.DeviceListItem :=
  { item1 with
    humanNum := item1.humanNum + iter1.humanNum
    bicycleNum := item1.bicycleNum + iter1.bicycleNum
    humanType := iter1.humanType }

/-- The output for a record, when `memory` is found where the entry is created. The statement
`item1.detectDirection - cur.direction;` changes nothing. -/
def gather (memory : Int32) (cur : HumanData) : HumanDataGather :=
  let item1 : HumanDataGather.DeviceListItem :=
    { detectDirection := memory, direction := cur.direction, deviceCode := "", humanType := 0,
      humanNum := 0, bicycleNum := 0 }
  { oprNum := cur.oprNum
    timestamp := cur.timestamp
    crossID := cur.crossID
    hardCode := cur.hardCode
    deviceList := [cur.areaList.foldl count item1] }

/-- The output queue, and the number of records that were taken from the lanes. -/
structure Drained where
  oQueue : Queue HumanDataGather
  taken : Nat := 0

/-- What happens to a record that was taken: the return value of `pushO` is logged only. The `k`th
entry is created where `memory k` is found. -/
def Drained.pushO (memory : Nat → Int32) (out : Drained) (cur : HumanData) : Drained where
  oQueue := (out.oQueue.push (gather (memory out.taken) cur)).1
  taken := out.taken + 1

/-- The loop over the records of a lane, for at most `turns` turns. -/
def drainLane (memory : Nat → Int32) : Nat → Vector HumanData → Drained →
    Vector HumanData × Drained
  | 0, iter, out => (iter, out)
  | turns + 1, iter, out =>
      match iter.getIndex 0 with
      | none => (iter, out)
      | some cur => drainLane memory turns iter.eraseBegin (out.pushO memory cur)

/-- `DataUnitHumanData::specialBusiness`, with no other thread at the data unit: each lane is
drained in as many turns as it holds records. -/
def specialBusiness (memory : Nat → Int32) (dataUnit : DataUnitHumanData) : DataUnitHumanData :=
  let (lanes, out) := dataUnit.iQueueVector.foldl
    (fun (lanes, out) iter =>
      let (iter, out) := drainLane memory iter.q.length iter out
      (lanes ++ [iter], out))
    (([] : List (Vector HumanData)), { oQueue := dataUnit.oQueue })
  { dataUnit with iQueueVector := lanes, oQueue := out.oQueue }

/-- The records of a data unit, lane by lane and oldest first in each. -/
def records (dataUnit : DataUnitHumanData) : List HumanData :=
  dataUnit.iQueueVector.flatMap fun lane => lane.q

/-- The records for which there is room in the output queue. -/
def accepted (oQueue : Queue HumanDataGather) (records : List HumanData) : List HumanData :=
  if oQueue.isSetMax then records.take (oQueue.max - oQueue.q.length) else records

/-- A number of the areas of a record, summed up. -/
def total (number : HumanData.AreaListItem → Int32) (cur : HumanData) : Int :=
  (cur.areaList.map fun area => (number area).toInt).sum

/-- An output has the sums of a record, and all that is copied from it but one field. -/
structure CountsFor (cur : HumanData) (item : HumanDataGather) : Prop where
  oprNum : item.oprNum = cur.oprNum
  timestamp : item.timestamp = cur.timestamp
  crossID : item.crossID = cur.crossID
  hardCode : item.hardCode = cur.hardCode
  entry : ∃ entry, item.deviceList = [entry] ∧
    entry.humanNum.toInt = total HumanData.AreaListItem.humanNum cur ∧
    entry.bicycleNum.toInt = total HumanData.AreaListItem.bicycleNum cur ∧
    entry.direction = cur.direction

/-- An output stands for a record. -/
structure StandsFor (cur : HumanData) (item : HumanDataGather) : Prop
    extends CountsFor cur item where
  detectDirection : ∀ entry ∈ item.deviceList, entry.detectDirection = cur.direction

/-- One run empties the lanes, and puts an output for each record behind those that were there,
until the queue is full. -/
def Drains (answers : HumanData → HumanDataGather → Prop) (memory : Nat → Int32)
    (dataUnit : DataUnitHumanData) : Prop :=
  (specialBusiness memory dataUnit).iQueueVector =
      dataUnit.iQueueVector.map (fun lane => { lane with q := [] }) ∧
    ∃ items, (specialBusiness memory dataUnit).oQueue =
        { dataUnit.oQueue with q := dataUnit.oQueue.q ++ items } ∧
      List.Forall₂ answers (accepted dataUnit.oQueue (records dataUnit)) items

/-- The sums of a record are `int`s. -/
def Countable (cur : HumanData) : Prop :=
  IsInt (total HumanData.AreaListItem.humanNum cur) ∧
    IsInt (total HumanData.AreaListItem.bicycleNum cur)

/-! ### One record -/

/-- What the loop over the areas leaves in the entry. -/
theorem foldl_count (areas : List HumanData.AreaListItem)
    (item1 : HumanDataGather.DeviceListItem) :
    ∃ humanType, areas.foldl count item1 = { item1 with
      humanNum := item1.humanNum + Int32.ofInt (areas.map fun area => area.humanNum.toInt).sum
      bicycleNum :=
        item1.bicycleNum + Int32.ofInt (areas.map fun area => area.bicycleNum.toInt).sum
      humanType } := by
  induction areas generalizing item1 with
  | nil => exact ⟨item1.humanType, by simp⟩
  | cons area areas ih =>
      obtain ⟨humanType, hrest⟩ := ih (count item1 area)
      refine ⟨humanType, ?_⟩
      rw [List.foldl_cons, hrest]
      simp only [count, List.map_cons, List.sum_cons, Int32.ofInt_add, Int32.ofInt_toInt,
        Int32.add_assoc]

/-- The entry of the output for a record. -/
theorem exists_entry (memory : Int32) (cur : HumanData) :
    ∃ entry, (gather memory cur).deviceList = [entry] ∧
      entry.humanNum = Int32.ofInt (total HumanData.AreaListItem.humanNum cur) ∧
      entry.bicycleNum = Int32.ofInt (total HumanData.AreaListItem.bicycleNum cur) ∧
      entry.direction = cur.direction ∧ entry.detectDirection = memory := by
  obtain ⟨humanType, hentry⟩ := foldl_count cur.areaList
    { detectDirection := memory, direction := cur.direction, deviceCode := "", humanType := 0,
      humanNum := 0, bicycleNum := 0 }
  exact ⟨_, congrArg (fun entry => [entry]) hentry, Int32.zero_add _, Int32.zero_add _, rfl, rfl⟩

/-- An output has the sums of its record if they are `int`s. -/
theorem countsFor_gather_iff (memory : Int32) (cur : HumanData) :
    CountsFor cur (gather memory cur) ↔ Countable cur := by
  obtain ⟨entry, hlist, hhuman, hbicycle, hdirection, -⟩ := exists_entry memory cur
  constructor
  · intro h
    obtain ⟨other, hdevice, hhumanSum, hbicycleSum, -⟩ := h.entry
    obtain rfl : entry = other := List.singleton_inj.mp (hlist.symm.trans hdevice)
    rw [hhuman] at hhumanSum
    rw [hbicycle] at hbicycleSum
    exact ⟨(toInt_ofInt_iff _).mp hhumanSum, (toInt_ofInt_iff _).mp hbicycleSum⟩
  · rintro ⟨hhumanInt, hbicycleInt⟩
    refine ⟨rfl, rfl, rfl, rfl, entry, hlist, ?_, ?_, hdirection⟩
    · rw [hhuman]
      exact (toInt_ofInt_iff _).mpr hhumanInt
    · rw [hbicycle]
      exact (toInt_ofInt_iff _).mpr hbicycleInt

/-- It stands for its record only if the direction was found in the memory of its entry. -/
theorem memory_of_standsFor {memory : Int32} {cur : HumanData}
    (h : StandsFor cur (gather memory cur)) : memory = cur.direction := by
  obtain ⟨entry, hlist, -, -, -, hdetect⟩ := exists_entry memory cur
  rw [← hdetect]
  exact h.detectDirection entry (by rw [hlist]; exact List.mem_singleton_self entry)

/-! ### The loops -/

/-- The loop over the records of a lane takes all of them. -/
theorem drainLane_eq (memory : Nat → Int32) (iter : Vector HumanData) (out : Drained) :
    drainLane memory iter.q.length iter out =
      ({ iter with q := [] }, iter.q.foldl (Drained.pushO memory) out) := by
  obtain ⟨q, max, isSetMax⟩ := iter
  induction q generalizing out with
  | nil => rfl
  | cons cur rest ih => exact ih (out.pushO memory cur)

/-- The loop over the lanes. -/
theorem foldl_drainLane (memory : Nat → Int32) (lanes done : List (Vector HumanData))
    (out : Drained) :
    lanes.foldl (fun (lanes, out) iter =>
        let (iter, out) := drainLane memory iter.q.length iter out
        (lanes ++ [iter], out)) (done, out) =
      (done ++ lanes.map (fun lane => { lane with q := [] }),
        (lanes.flatMap fun lane => lane.q).foldl (Drained.pushO memory) out) := by
  induction lanes generalizing done out with
  | nil => simp
  | cons lane lanes ih =>
      simp only [List.foldl_cons, drainLane_eq] at ih ⊢
      rw [ih]
      simp [List.foldl_append]

/-- The outputs for the records that find room are put behind those that were there. -/
theorem foldl_pushO (memory : Nat → Int32) (records : List HumanData) (out : Drained) :
    (records.foldl (Drained.pushO memory) out).oQueue = { out.oQueue with
      q := out.oQueue.q ++ ((accepted out.oQueue records).zipIdx out.taken).map
        fun (cur, k) => gather (memory k) cur } := by
  induction records generalizing out with
  | nil => simp [accepted]
  | cons cur records ih =>
      rw [List.foldl_cons, ih]
      by_cases hfull : out.oQueue.Full
      · have hzero : out.oQueue.max - out.oQueue.q.length = 0 := by
          have hle := hfull.2
          omega
        simp [Drained.pushO, Queue.push_of_full hfull, accepted, hfull.1, hzero]
      · rw [Drained.pushO, Queue.push_of_not_full hfull]
        cases hset : out.oQueue.isSetMax with
        | false => simp [accepted, hset]
        | true =>
            have hroom : out.oQueue.max - out.oQueue.q.length =
                out.oQueue.max - (out.oQueue.q.length + 1) + 1 := by
              have hlt : ¬ out.oQueue.max ≤ out.oQueue.q.length := fun hle => hfull ⟨hset, hle⟩
              omega
            simp [accepted, hset, hroom]

/-- What a run leaves. -/
theorem specialBusiness_eq (memory : Nat → Int32) (dataUnit : DataUnitHumanData) :
    specialBusiness memory dataUnit =
      { dataUnit with
        iQueueVector := dataUnit.iQueueVector.map fun lane => { lane with q := [] }
        oQueue := { dataUnit.oQueue with
          q := dataUnit.oQueue.q ++
            ((accepted dataUnit.oQueue (records dataUnit)).zipIdx 0).map
              fun (cur, k) => gather (memory k) cur } } := by
  have hlanes := foldl_drainLane memory dataUnit.iQueueVector [] { oQueue := dataUnit.oQueue }
  have hpushed := foldl_pushO memory (records dataUnit) { oQueue := dataUnit.oQueue }
  unfold specialBusiness
  rw [hlanes, ← hpushed]
  rfl

/-- A run does its work if each output that finds room in the queue answers its record. -/
theorem drains_iff_forall₂ (answers : HumanData → HumanDataGather → Prop) (memory : Nat → Int32)
    (dataUnit : DataUnitHumanData) :
    Drains answers memory dataUnit ↔
      List.Forall₂ answers (accepted dataUnit.oQueue (records dataUnit))
        (((accepted dataUnit.oQueue (records dataUnit)).zipIdx 0).map
          fun (cur, k) => gather (memory k) cur) := by
  rw [Drains, specialBusiness_eq]
  constructor
  · rintro ⟨-, items, hqueue, hitems⟩
    have hq := congrArg Queue.q hqueue
    rw [List.append_cancel_left hq]
    exact hitems
  · intro hitems
    exact ⟨rfl, _, rfl, hitems⟩

/-- The outputs have the sums of their records if these are `int`s. -/
theorem forall₂_countsFor_iff (memory : Nat → Int32) (taken : List HumanData) (n : Nat) :
    List.Forall₂ CountsFor taken ((taken.zipIdx n).map fun (cur, k) => gather (memory k) cur) ↔
      ∀ cur ∈ taken, Countable cur := by
  induction taken generalizing n with
  | nil => simp
  | cons cur taken ih =>
      rw [List.zipIdx_cons, List.map_cons, List.forall₂_cons, countsFor_gather_iff, ih,
        List.forall_mem_cons]

/-- No record finds room if there is none, or the output queue is full. -/
theorem accepted_eq_nil_iff (oQueue : Queue HumanDataGather) (records : List HumanData) :
    accepted oQueue records = [] ↔ records = [] ∨ oQueue.Full := by
  unfold accepted Queue.Full
  cases oQueue.isSetMax with
  | false => simp
  | true =>
      rw [if_pos rfl, List.take_eq_nil_iff, Nat.sub_eq_zero_iff_le]
      exact or_comm.trans (or_congr_right (and_iff_right rfl).symm)

/-- Whatever is found in the memory, a run drains the lanes as it should only if no record finds
room in the output queue. Apart from the field that is never assigned, it does so exactly if the
sums of the records that find room are `int`s. -/
theorem drains_iff (dataUnit : DataUnitHumanData) :
    ((∀ memory, Drains StandsFor memory dataUnit) ↔
      records dataUnit = [] ∨ dataUnit.oQueue.Full) ∧
    ∀ memory, Drains CountsFor memory dataUnit ↔
      ∀ cur ∈ accepted dataUnit.oQueue (records dataUnit), Countable cur := by
  refine ⟨?_, fun memory => ?_⟩
  · rw [← accepted_eq_nil_iff]
    simp only [drains_iff_forall₂]
    constructor
    · intro h
      cases htaken : accepted dataUnit.oQueue (records dataUnit) with
      | nil => rfl
      | cons cur taken =>
          -- another value than the direction of the first record is found
          have hstands := h fun _ => cur.direction + 1
          rw [htaken, List.zipIdx_cons, List.map_cons, List.forall₂_cons] at hstands
          have hmemory := memory_of_standsFor hstands.1
          exact absurd hmemory (by simp)
    · intro hnone memory
      rw [hnone]
      exact List.Forall₂.nil
  · rw [drains_iff_forall₂, forall₂_countsFor_iff]

/-- A record of direction 1 with two areas, in the only lane. -/
def oneRecord : DataUnitHumanData where
  iQueueVector :=
    [{ q := [{ direction := 1, areaList := [{ humanNum := 2 }, { humanNum := 3 }] }] }]

/-- Its entry has the direction that is found in the memory, and not 1. -/
theorem not_drains_oneRecord : ¬ ∀ memory, Drains StandsFor memory oneRecord := by
  intro h
  have hstands := (drains_iff_forall₂ _ _ _).mp (h fun _ => 0)
  obtain ⟨hfirst, -⟩ := List.forall₂_cons.mp hstands
  exact absurd (memory_of_standsFor hfirst) (by decide)

end DataUnitHumanData

end RVDataFusionServer
