import RVDataFusionServer.Data.DataUnit
import RVDataFusionServer.Library.Block
import RVDataFusionServer.Library.Grouping

/-!
# People at the light poles

`DataUnitHumanLitPoleData::TaskProcessOneFrame` (`DataUnit.cpp`) groups the entries of a frame by
the pairs of crossings that belong together (`getRelatedAreasPairs`, `DBCom.cpp`). An entry is known
by the first two bytes of its crossing. The entries of no pair are passed on, and each pair gets one
entry that stands for its members, as long as their number is one of an `int`:
`taskProcessOneFrame_groups_iff`.
-/

namespace RVDataFusionServer

open Library

/-- `HumanLitPoleData_deviceListItem`: the people at one crossing. -/
structure HumanLitPoleData.DeviceListItem where
  deviceCode : String := ""
  deviceLocation : Int32 := 0
  waitingAreaLocation : String := ""
  zebraCrossingCode : List UInt8 := []
  detectDirection : Int32 := 0
  direction : Int32 := 0
  humanNum : Int32 := 0
  humanFlow : Int32 := 0
  humanWaitList : List Int32 := []
  waitingTime : Int32 := 0
  lightStatus : Int32 := 0
  imageData : String := ""
  deriving DecidableEq, Repr

/-- `HumanLitPoleData`. -/
structure HumanLitPoleData where
  oprNum : String := ""
  timestamp : Nat := 0
  crossID : String := ""
  hardCode : String := ""
  deviceList : List HumanLitPoleData.DeviceListItem := []
  deriving DecidableEq, Repr

/-- `RelatedArea_t`, as far as the pairs need it: the names of two crossings. -/
structure RelatedAreaT where
  pavementName : List UInt8
  pavementName2 : List UInt8
  deriving DecidableEq, Repr

/-- `getRelatedAreasPairs`, for the list `g_RelatedAreas`. -/
def getRelatedAreasPairs (gRelatedAreas : List RelatedAreaT) : List (List (List UInt8)) :=
  gRelatedAreas.foldl (fun pairs iter => pairs ++ [[iter.pavementName, iter.pavementName2]]) []

/-- The `zbcCode` of an entry: `zebraCrossingCode.substr(0, 2)`. -/
def HumanLitPoleData.DeviceListItem.zbcCode (item : HumanLitPoleData.DeviceListItem) : List UInt8 :=
  item.zebraCrossingCode.take 2

/-- `DataUnitHumanLitPoleData`. -/
abbrev DataUnitHumanLitPoleData := DataUnit HumanLitPoleData HumanLitPoleData

namespace DataUnitHumanLitPoleData

/-- The first loops of `TaskProcessOneFrame`: the entries that stand in no pair of the list. -/
def notPaired (oneFrame : List HumanLitPoleData) (list : List (List UInt8)) :
    List HumanLitPoleData.DeviceListItem :=
  oneFrame.foldl (fun deviceList iter =>
    iter.deviceList.foldl (fun deviceList iter1 =>
      let isExist := list.any fun listIter => iter1.zbcCode = listIter
      if ¬ isExist then deviceList ++ [iter1] else deviceList) deviceList) []

/-- What the entry of a pair gets from one of its members. -/
def add (item1 iter2 : HumanLitPoleData.DeviceListItem) : HumanLitPoleData.DeviceListItem :=
  { item1 with
    humanNum := item1.humanNum + iter2.humanNum
    waitingTime :=
      if item1.waitingTime < iter2.waitingTime then iter2.waitingTime else item1.waitingTime
    imageData := if item1.imageData = "" then iter2.imageData else item1.imageData }

/-- The entry of a pair, whose crossing is the first one of the pair. -/
def paired (oneFrame : List HumanLitPoleData) (iter : List (List UInt8)) :
    Except Fault HumanLitPoleData.DeviceListItem :=
  let item1 := oneFrame.foldl (fun item1 iter1 =>
    iter1.deviceList.foldl (fun item1 iter2 =>
      let isExist := iter.any fun iterIter => iter2.zbcCode = iterIter
      if isExist then add item1 iter2 else item1) item1) {}
  match iter with
  | [] => .error (.threw "std::out_of_range")
  | zebraCrossingCode :: _ => .ok { item1 with zebraCrossingCode }

/-- `TaskProcessOneFrame`, with the item and the answer of the output queue. -/
def taskProcessOneFrame (unit : DataUnitHumanLitPoleData) (gRelatedAreas : List RelatedAreaT)
    (plateId matrixNo uuid : String) :
    Except Fault (DataUnitHumanLitPoleData × HumanLitPoleData × Bool) := do
  let pairs := getRelatedAreasPairs gRelatedAreas
  let list := pairs.foldl (fun list iter =>
    iter.foldl (fun list iter1 => list ++ [iter1]) list) []
  let deviceList ← pairs.foldlM (fun deviceList iter => do
    let item1 ← paired unit.oneFrame iter
    .ok (deviceList ++ [item1])) (notPaired unit.oneFrame list)
  let item : HumanLitPoleData :=
    { oprNum := uuid
      timestamp := unit.curTimestamp
      crossID := plateId
      hardCode := matrixNo
      deviceList }
  let (oQueue, pushed) := unit.oQueue.push item
  .ok ({ unit with oQueue }, item, pushed)

/-- The entries of a frame, in lane order and then in list order. -/
def entries (oneFrame : List HumanLitPoleData) : List HumanLitPoleData.DeviceListItem :=
  oneFrame.flatMap HumanLitPoleData.deviceList

/-- The number of people in a list of entries. -/
def people (items : List HumanLitPoleData.DeviceListItem) : Int :=
  (items.map fun item => item.humanNum.toInt).sum

/-- The entries that stand in a pair. -/
def membersOf (items : List HumanLitPoleData.DeviceListItem) (pair : List (List UInt8)) :
    List HumanLitPoleData.DeviceListItem :=
  members HumanLitPoleData.DeviceListItem.zbcCode items pair

/-- An entry stands for the members of a pair. -/
structure StandsFor (items : List HumanLitPoleData.DeviceListItem) (pair : List (List UInt8))
    (item : HumanLitPoleData.DeviceListItem) : Prop where
  humanNum : item.humanNum.toInt = people (membersOf items pair)
  waitingTime : IsGreatest
    { time | time = 0 ∨ ∃ member ∈ membersOf items pair, member.waitingTime.toInt = time }
    item.waitingTime.toInt
  imageData : item.imageData =
    ((membersOf items pair).find? fun member => member.imageData ≠ "").elim ""
      HumanLitPoleData.DeviceListItem.imageData
  zebraCrossingCode : pair.head? = some item.zebraCrossingCode

/-- The entries of a frame are grouped: those of no pair come first, each once, and then one entry
for each pair. Nobody is lost or counted twice if no name stands in two pairs. -/
structure Groups (items : List HumanLitPoleData.DeviceListItem) (pairs : List (List (List UInt8)))
    (deviceList : List HumanLitPoleData.DeviceListItem) : Prop where
  grouped : ∃ standing,
    deviceList = ungrouped HumanLitPoleData.DeviceListItem.zbcCode pairs items ++ standing ∧
      List.Forall₂ (StandsFor items) pairs standing
  conserved : pairs.Pairwise List.Disjoint → people deviceList = people items

/-- `TaskProcessOneFrame` pushes an item whose entries are those of the frame, grouped by the pairs
of the areas. -/
def GroupsFrame (unit : DataUnitHumanLitPoleData) (gRelatedAreas : List RelatedAreaT)
    (plateId matrixNo uuid : String) : Prop :=
  ∃ item, unit.taskProcessOneFrame gRelatedAreas plateId matrixNo uuid =
      .ok ({ unit with oQueue := (unit.oQueue.push item).1 }, item, (unit.oQueue.push item).2) ∧
    Groups (entries unit.oneFrame) (getRelatedAreasPairs gRelatedAreas) item.deviceList

/-- The number of people at the crossings of a pair is one of an `int`. -/
def Countable (oneFrame : List HumanLitPoleData) (pair : List (List UInt8)) : Prop :=
  IsInt (people (membersOf (entries oneFrame) pair))

/-! ### The loops -/

/-- There is a pair for each area, and each has a first name. -/
theorem ne_nil_of_mem_pairs {gRelatedAreas : List RelatedAreaT} {pair : List (List UInt8)}
    (h : pair ∈ getRelatedAreasPairs gRelatedAreas) : pair ≠ [] := by
  rw [getRelatedAreasPairs, foldl_push, List.nil_append] at h
  obtain ⟨area, -, rfl⟩ := List.mem_map.mp h
  exact List.cons_ne_nil _ _

/-- The loops that collect the names of all pairs. -/
theorem foldl_names (pairs : List (List (List UInt8))) :
    pairs.foldl (fun list iter => iter.foldl (fun list iter1 => list ++ [iter1]) list) [] =
      pairs.flatten := by
  have hnames (iter list : List (List UInt8)) :
      iter.foldl (fun list iter1 => list ++ [iter1]) list = list ++ id iter := by
    show _ = list ++ iter
    rw [foldl_push, List.map_id']
  simp only [hnames]
  rw [List.foldl_append_eq_append, List.map_id, List.nil_append]

/-- The first loops keep the entries that stand in no pair. -/
theorem notPaired_eq (oneFrame : List HumanLitPoleData) (pairs : List (List (List UInt8))) :
    notPaired oneFrame pairs.flatten =
      ungrouped HumanLitPoleData.DeviceListItem.zbcCode pairs (entries oneFrame) := by
  have hloop (list : List (List UInt8)) (items deviceList : List HumanLitPoleData.DeviceListItem) :
      items.foldl (fun deviceList iter1 =>
        if ¬ (list.any fun listIter => iter1.zbcCode = listIter) then deviceList ++ [iter1]
        else deviceList) deviceList =
      deviceList ++ items.filter fun item => item.zbcCode ∉ list := by
    induction items generalizing deviceList with
    | nil => simp
    | cons item items ih =>
        rw [List.foldl_cons, ih]
        by_cases hmem : item.zbcCode ∈ list <;> simp [hmem]
  unfold notPaired entries ungrouped
  rw [← List.foldl_flatMap, hloop, List.nil_append]
  exact List.filter_congr fun item _ => by simp only [decide_eq_decide]

/-- The loops over the pairs pass by what is no member. -/
theorem foldl_members (oneFrame : List HumanLitPoleData) (iter : List (List UInt8))
    (item1 : HumanLitPoleData.DeviceListItem) :
    oneFrame.foldl (fun item1 iter1 =>
      iter1.deviceList.foldl (fun item1 iter2 =>
        if (iter.any fun iterIter => iter2.zbcCode = iterIter) then add item1 iter2 else item1)
        item1) item1 =
      (membersOf (entries oneFrame) iter).foldl add item1 := by
  unfold membersOf members entries
  rw [← List.foldl_flatMap, List.foldl_filter]
  refine List.foldl_ext _ _ _ fun item1 iter2 _ => ?_
  simp

/-- The running number of people is the sum, as an `int`. -/
theorem humanNum_foldl_add (items : List HumanLitPoleData.DeviceListItem)
    (item : HumanLitPoleData.DeviceListItem) :
    (items.foldl add item).humanNum = item.humanNum + Int32.ofInt (people items) := by
  induction items generalizing item with
  | nil => simp [people]
  | cons first items ih =>
      rw [List.foldl_cons, ih]
      simp only [add, people, List.map_cons, List.sum_cons, Int32.ofInt_add, Int32.ofInt_toInt]
      rw [Int32.add_assoc]

/-- The running waiting time is the maximum. -/
theorem waitingTime_foldl_add (items : List HumanLitPoleData.DeviceListItem)
    (item : HumanLitPoleData.DeviceListItem) :
    (items.foldl add item).waitingTime.toInt =
      (items.map fun member => member.waitingTime.toInt).foldl max item.waitingTime.toInt := by
  induction items generalizing item with
  | nil => rfl
  | cons first items ih =>
      have hmax : (add item first).waitingTime.toInt =
          max item.waitingTime.toInt first.waitingTime.toInt := by
        simp only [add, Int32.lt_iff_toInt_lt]
        split
        · rw [max_eq_right (by omega)]
        · rw [max_eq_left (by omega)]
      rw [List.foldl_cons, ih, hmax, List.map_cons, List.foldl_cons]

/-- The first image that is not empty stays. -/
theorem imageData_foldl_add (items : List HumanLitPoleData.DeviceListItem)
    (item : HumanLitPoleData.DeviceListItem) :
    (items.foldl add item).imageData =
      if item.imageData = "" then (items.find? fun member => member.imageData ≠ "").elim ""
        HumanLitPoleData.DeviceListItem.imageData
      else item.imageData := by
  induction items generalizing item with
  | nil => simp
  | cons first items ih =>
      rw [List.foldl_cons, ih]
      by_cases hitem : item.imageData = "" <;> by_cases hfirst : first.imageData = "" <;>
        simp [add, hitem, hfirst]

/-- The entry of a pair stands for its members, if their number is one of an `int`. -/
theorem standsFor_paired (oneFrame : List HumanLitPoleData) {pair : List (List UInt8)}
    (hpair : pair ≠ []) :
    ∃ item, paired oneFrame pair = .ok item ∧
      (Countable oneFrame pair → StandsFor (entries oneFrame) pair item) := by
  obtain ⟨name, names, rfl⟩ := List.exists_cons_of_ne_nil hpair
  set found := membersOf (entries oneFrame) (name :: names) with hfound
  set sum := found.foldl add {} with hsum
  have hitem : paired oneFrame (name :: names) = .ok { sum with zebraCrossingCode := name } := by
    unfold paired
    simp only [foldl_members, ← hfound, ← hsum]
  have hnum : sum.humanNum = Int32.ofInt (people found) := by
    show (found.foldl add {}).humanNum = _
    rw [humanNum_foldl_add]
    exact Int32.zero_add _
  refine ⟨_, hitem, fun hint => ⟨?_, ?_, ?_, rfl⟩⟩
  · show sum.humanNum.toInt = people found
    rw [hnum]
    exact (toInt_ofInt_iff _).mpr hint
  · show IsGreatest _ sum.waitingTime.toInt
    have hgreatest := isGreatest_foldl_max 0 (found.map fun member => member.waitingTime.toInt)
    rw [hsum, waitingTime_foldl_add]
    simpa [eq_comm] using hgreatest
  · show sum.imageData = _
    rw [hsum, imageData_foldl_add]
    rfl

/-- The last loop appends the entries of the pairs. -/
theorem foldlM_paired (oneFrame : List HumanLitPoleData) (pairs : List (List (List UInt8)))
    (hpairs : ∀ pair ∈ pairs, pair ≠ []) (deviceList : List HumanLitPoleData.DeviceListItem) :
    ∃ standing, List.Forall₂ (fun pair item => Countable oneFrame pair →
        StandsFor (entries oneFrame) pair item) pairs standing ∧
      pairs.foldlM (fun deviceList iter => do
        let item1 ← paired oneFrame iter
        .ok (deviceList ++ [item1])) deviceList = .ok (deviceList ++ standing) := by
  induction pairs generalizing deviceList with
  | nil => exact ⟨[], .nil, by simp [pure, Except.pure]⟩
  | cons pair pairs ih =>
      obtain ⟨item, hitem, hstands⟩ := standsFor_paired oneFrame (hpairs pair (.head _))
      obtain ⟨standing, hstanding, hloop⟩ :=
        ih (fun other hother => hpairs other (.tail _ hother)) (deviceList ++ [item])
      refine ⟨item :: standing, .cons hstands hstanding, ?_⟩
      rw [List.append_cons, ← hloop, List.foldlM_cons, hitem]
      rfl

/-! ### Conservation -/

/-- The people of two lists. -/
theorem people_append (items others : List HumanLitPoleData.DeviceListItem) :
    people (items ++ others) = people items + people others := by
  simp [people]

/-- Entries that stand for pairs have the people of the members. -/
theorem people_standing {items standing : List HumanLitPoleData.DeviceListItem}
    {pairs : List (List (List UInt8))}
    (h : List.Forall₂ (StandsFor items) pairs standing) :
    people standing = (pairs.map fun pair => people (membersOf items pair)).sum := by
  induction h with
  | nil => rfl
  | @cons pair item pairs standing hitem _ ih =>
      rw [← List.singleton_append, people_append, List.map_cons, List.sum_cons, ih,
        ← hitem.humanNum]
      simp [people]

/-- The entries of no pair, followed by those that stand for the pairs, group a frame. -/
theorem groups_of_standsFor {items standing : List HumanLitPoleData.DeviceListItem}
    {pairs : List (List (List UInt8))}
    (h : List.Forall₂ (StandsFor items) pairs standing) :
    Groups items pairs
      (ungrouped HumanLitPoleData.DeviceListItem.zbcCode pairs items ++ standing) := by
  refine ⟨⟨standing, rfl, h⟩, fun hdisjoint => ?_⟩
  have hpeople : people (ungrouped HumanLitPoleData.DeviceListItem.zbcCode pairs items) +
      (pairs.map fun pair => people (membersOf items pair)).sum = people items :=
    sum_ungrouped_add_sum_members HumanLitPoleData.DeviceListItem.zbcCode
      (fun item => item.humanNum.toInt) hdisjoint items
  rw [people_append, people_standing h, hpeople]

/-- What stands for the members of a pair counts them in an `int`. -/
theorem Groups.isInt {items deviceList : List HumanLitPoleData.DeviceListItem}
    {pairs : List (List (List UInt8))} (h : Groups items pairs deviceList)
    {pair : List (List UInt8)} (hpair : pair ∈ pairs) : IsInt (people (membersOf items pair)) := by
  obtain ⟨⟨standing, -, hstanding⟩, -⟩ := h
  obtain ⟨i, hi, rfl⟩ := List.mem_iff_getElem.mp hpair
  have hstands := hstanding.get (i := i) hi (by rwa [← hstanding.length_eq])
  rw [List.get_eq_getElem] at hstands
  rw [← hstands.humanNum]
  exact ⟨Int32.le_toInt _, Int32.toInt_lt _⟩

/-- Whatever the frame and the areas are, `TaskProcessOneFrame` groups the entries of the frame by
the pairs exactly if the number of people in each pair is one of an `int`. -/
theorem taskProcessOneFrame_groups_iff (unit : DataUnitHumanLitPoleData)
    (gRelatedAreas : List RelatedAreaT) (plateId matrixNo uuid : String) :
    unit.GroupsFrame gRelatedAreas plateId matrixNo uuid ↔
      ∀ pair ∈ getRelatedAreasPairs gRelatedAreas, Countable unit.oneFrame pair := by
  refine ⟨fun ⟨_, _, hgroups⟩ pair hpair => hgroups.isInt hpair, fun hcountable => ?_⟩
  set pairs := getRelatedAreasPairs gRelatedAreas with hpairs
  obtain ⟨standing, hstanding, hloop⟩ := foldlM_paired unit.oneFrame pairs
    (fun _ => ne_nil_of_mem_pairs) (notPaired unit.oneFrame pairs.flatten)
  have hstands : List.Forall₂ (StandsFor (entries unit.oneFrame)) pairs standing :=
    ((List.forall₂_and_left _ _).mpr ⟨hcountable, hstanding⟩).imp fun _ _ h => h.2 h.1
  have hgroups := groups_of_standsFor hstands
  rw [← notPaired_eq] at hgroups
  refine ⟨{
      oprNum := uuid
      timestamp := unit.curTimestamp
      crossID := plateId
      hardCode := matrixNo
      deviceList := notPaired unit.oneFrame pairs.flatten ++ standing }, ?_, hgroups⟩
  unfold taskProcessOneFrame
  simp only [← hpairs, foldl_names, hloop]
  rfl

/-- A pair whose crossings report the greatest `int` and one more. -/
def crowded : DataUnitHumanLitPoleData where
  oneFrame := [{
    deviceList := [
      { zebraCrossingCode := [0x31, 0x30], humanNum := 2147483647 },
      { zebraCrossingCode := [0x31, 0x31], humanNum := 1 }] }]

/-- The sum of the two is not an `int`, so that the entry of the pair does not have it. -/
theorem crowded_not_grouped :
    ¬ crowded.GroupsFrame [⟨[0x31, 0x30], [0x31, 0x31]⟩] "" "" "" := by
  rintro ⟨item, -, hgroups⟩
  have hint : IsInt (people (membersOf (entries crowded.oneFrame)
      [[0x31, 0x30], [0x31, 0x31]])) := hgroups.isInt (by decide)
  revert hint
  decide

end DataUnitHumanLitPoleData

end RVDataFusionServer
