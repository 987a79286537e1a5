import Mathlib.Data.List.Nodup
import RVDataFusionServer.Data.FusionData

/-!
# The fused targets of a frame

What becomes of the targets of a frame in `TaskProcessOneFrame` (`DataUnitFusionData.cpp`), target
by target. A fused target shows its source in the way of its lane and in no other
(`showsWay_fused`). It has none of the attributes that `OBJECT_INFO_T2OBJECT_INFO_NEW` would have
kept (`attributes_kept_iff`). Its identity is the number of the source, shifted by 10000 for each
lane, so that it is unique as long as no number reaches into the range of the next lanes
(`nodup_objID_iff`).
-/

namespace RVDataFusionServer

/-- `Data::roadDirection`: the directions of the lanes. -/
def roadDirection : List Int32 :=
  [Direction.north.code, Direction.east.code, Direction.south.code, Direction.west.code]

/-- The lane of a direction in `PkgProcessFun_CmdFusionData`, if there is one. -/
def laneOf (numI : Nat) (direction : Int32) : Option Nat :=
  (roadDirection.findIdx? fun d => d = direction).filter fun index => index < numI

/-- A target of a frame, with the lane in which it stands. -/
structure Source where
  lane : Nat
  direction : Int32
  target : ObjTarget

/-- The number of a source. -/
def Source.id (source : Source) : Int32 := atoi source.target.objID

/-- The fused target that a source becomes. -/
def Source.fuse (source : Source) : ObjMix :=
  toObjMix (notMerged source.lane (objTarget2ObjectInfoT source.target))

/-- The attributes that a device reports for a target. -/
structure Attributes where
  laneCode : String := ""
  plates : String := ""
  plateColor : String := ""
  carType : Int32 := 0
  carLength : Float := (0 : Float32).toFloat
  carFeaturePic : String := ""

/-- The attributes of a target. -/
def ObjTarget.attributes (target : ObjTarget) : Attributes where
  laneCode := target.laneCode
  plates := target.plates
  plateColor := target.plateColor
  carType := target.carType
  carLength := target.carLength
  carFeaturePic := target.carFeaturePic

/-- The attributes of a fused target. -/
def ObjMix.attributes (objMix : ObjMix) : Attributes where
  laneCode := objMix.laneCode
  plates := objMix.plates
  plateColor := objMix.plateColor
  carType := objMix.carType
  carLength := objMix.carLength
  carFeaturePic := objMix.carFeaturePic

/-- The fused target that the conversions of `mergeStruct.cpp` make of a target. -/
def ObjTarget.convert (target : ObjTarget) : ObjMix :=
  objectInfoNew2ObjMix (objectInfoT2ObjectInfoNew (objTarget2ObjectInfoT target) {}) {}

namespace Frame

variable {numI : Nat}

/-- The targets of a frame, in lane order and then in list order. -/
def sources (frame : Frame numI) : List Source :=
  frame.1.zipIdx.flatMap fun (lane, i) =>
    lane.lstObjTarget.map fun target => { lane := i, direction := lane.direction, target }

/-- Each source becomes one fused target. -/
theorem targets_eq (frame : Frame numI) : frame.targets = frame.sources.map Source.fuse := by
  unfold targets sources
  rw [List.map_flatMap]
  refine List.flatMap_congr fun (lane, i) _ => ?_
  rw [List.map_map]
  rfl

/-- A source stands in one of the lanes. -/
theorem lane_lt {frame : Frame numI} {source : Source} (h : source ∈ frame.sources) :
    source.lane < numI := by
  obtain ⟨⟨lane, i⟩, hlane, hsource⟩ := List.mem_flatMap.mp h
  obtain ⟨target, -, rfl⟩ := List.mem_map.mp hsource
  rw [← frame.2]
  exact List.snd_lt_of_mem_zipIdx hlane

end Frame

namespace DataUnitFusionData

/-- The fused targets that a frame adds to the member `fusionData`. -/
def fused (u : DataUnitFusionData) (frame : Frame u.unit.numI) (timestamp : Nat)
    (mergeType : MergeType) (plateId uuid : String) : List ObjMix :=
  let result := (u.found frame.1 timestamp).taskProcessOneFrame true mergeType plateId uuid
  result.1.fusionData.lstObjTarget.drop u.fusionData.lstObjTarget.length

/-- Whatever the data unit has processed before, a frame adds what its targets become. -/
theorem fused_eq (u : DataUnitFusionData) (frame : Frame u.unit.numI) (timestamp : Nat)
    (mergeType : MergeType) (plateId uuid : String) :
    u.fused frame timestamp mergeType plateId uuid = frame.sources.map Source.fuse := by
  have hcontents :=
    ((u.found frame.1 timestamp).taskProcessOneFrame_spec frame rfl mergeType plateId uuid).1
  have htargets := congrArg Prod.fst hcontents
  show List.drop u.fusionData.lstObjTarget.length (contents _).1 = _
  rw [htargets, ← frame.targets_eq]
  exact List.drop_left

end DataUnitFusionData

namespace Source

/-! ### Attributes -/

/-- No attribute of a source reaches its fused target. -/
theorem attributes_fuse (source : Source) : source.fuse.attributes = {} := by
  obtain ⟨lane, direction, target⟩ := source
  unfold fuse notMerged wayNumbers
  split <;> rfl

end Source

/-- The conversions keep the attributes, with the length as a `float`. -/
theorem ObjTarget.attributes_convert (target : ObjTarget) :
    target.convert.attributes =
      { target.attributes with carLength := target.carLength.toFloat32.toFloat } := rfl

namespace DataUnitFusionData

/-- The fused targets of a frame have the attributes of their sources exactly if these have none.
They have those that the conversions would have kept exactly if the conversions keep none. -/
theorem attributes_kept_iff (u : DataUnitFusionData) (frame : Frame u.unit.numI) (timestamp : Nat)
    (mergeType : MergeType) (plateId uuid : String) :
    let fused := u.fused frame timestamp mergeType plateId uuid
    (fused.map ObjMix.attributes = frame.sources.map (fun source => source.target.attributes) ↔
        ∀ source ∈ frame.sources, source.target.attributes = {}) ∧
      (fused.map ObjMix.attributes =
          frame.sources.map (fun source => source.target.convert.attributes) ↔
        ∀ source ∈ frame.sources, source.target.convert.attributes = {}) := by
  have hkept (attributes : Source → Attributes) :
      (frame.sources.map Source.fuse).map ObjMix.attributes = frame.sources.map attributes ↔
        ∀ source ∈ frame.sources, attributes source = {} := by
    rw [List.map_map, List.map_inj_left]
    refine forall₂_congr fun source _ => ?_
    show source.fuse.attributes = attributes source ↔ attributes source = {}
    rw [source.attributes_fuse]
    exact eq_comm
  simp only [fused_eq]
  exact ⟨hkept _, hkept _⟩

/-- A frame of one lane, with one target that shows its plates. -/
def withPlates : Frame 1 := ⟨[{ lstObjTarget := [{ plates := "A" }] }], rfl⟩

/-- The data unit after its initialisation with one lane. -/
def oneLane : DataUnitFusionData := Fusion.start 15 80 1 15 10

/-- The plates are lost. -/
theorem plates_lost :
    (oneLane.fused withPlates 1000 .notMerge "P" "1").map ObjMix.attributes ≠
      withPlates.sources.map fun source => source.target.attributes := by
  intro h
  have hplates := congrArg (List.map Attributes.plates) h
  exact absurd hplates (by decide +kernel)

end DataUnitFusionData

/-! ### Directions -/

/-- A fused target shows its source in the way of its lane, which is the way of the direction for
which the lane has been chosen. It shows nothing for the number that stands for none. -/
def ShowsWay (numI : Nat) (source : Source) (objMix : ObjMix) : Prop :=
  ∃ wayNo, roadDirection[source.lane]? = some wayNo ∧
    (laneOf numI source.direction = some source.lane → source.direction = wayNo) ∧
    objMix.rvWayObject =
      if source.id = -inf then [] else [⟨wayNo, source.id, source.target.objCameraID⟩]

/-- The lane of a direction is one whose direction it is. -/
theorem roadDirection_of_laneOf {numI i : Nat} {direction : Int32}
    (h : laneOf numI direction = some i) : roadDirection[i]? = some direction := by
  obtain ⟨hindex, -⟩ := Option.filter_eq_some_iff.mp h
  obtain ⟨hlt, hdirection, -⟩ := List.findIdx?_eq_some_iff_getElem.mp hindex
  rw [List.getElem?_eq_getElem hlt, of_decide_eq_true hdirection]

/-- A source in one of the four lanes shows the way of its lane. -/
theorem Source.showsWay_fuse {numI : Nat} (source : Source) (hlane : source.lane < 4) :
    ShowsWay numI source source.fuse := by
  have hway : ∃ wayNo, roadDirection[source.lane]? = some wayNo ∧ source.fuse.rvWayObject =
      if source.id = -inf then [] else [⟨wayNo, source.id, source.target.objCameraID⟩] := by
    obtain ⟨lane, direction, target⟩ := source
    -- three of the four numbers are the one that is not shown
    match lane, hlane with
    | 0, _ | 1, _ | 2, _ | 3, _ =>
        refine ⟨_, rfl, ?_⟩
        by_cases hid : atoi target.objID = -inf <;>
          simp [fuse, toObjMix, objectInfoNew2ObjMix, rvWayObjects, notMerged, wayNumbers,
            objTarget2ObjectInfoT, id, hid]
  obtain ⟨wayNo, hroad, hobjects⟩ := hway
  refine ⟨wayNo, hroad, fun hchosen => ?_, hobjects⟩
  have hdirection := roadDirection_of_laneOf hchosen
  rw [hroad, Option.some.injEq] at hdirection
  exact hdirection.symm

namespace DataUnitFusionData

/-- In a frame of at most four lanes every target is shown once, in the way of its lane, with its
own numbers. -/
theorem showsWay_fused (u : DataUnitFusionData) (hlanes : u.unit.numI ≤ 4)
    (frame : Frame u.unit.numI) (timestamp : Nat) (mergeType : MergeType)
    (plateId uuid : String) :
    List.Forall₂ (ShowsWay u.unit.numI) frame.sources
      (u.fused frame timestamp mergeType plateId uuid) := by
  rw [fused_eq, List.forall₂_map_right_iff, List.forall₂_same]
  intro source hsource
  exact source.showsWay_fuse (Nat.lt_of_lt_of_le (Frame.lane_lt hsource) hlanes)

/-- The target with plates is shown in the way of the first lane. -/
theorem showsWay_withPlates :
    List.Forall₂ (ShowsWay 1) withPlates.sources
      (oneLane.fused withPlates 1000 .notMerge "P" "1") :=
  oneLane.showsWay_fused (by decide) withPlates 1000 .notMerge "P" "1"

end DataUnitFusionData

/-! ### Identities -/

namespace Source

/-- The number that is shown for a source: its own, shifted by 10000 for each lane. -/
def showID (source : Source) : Int32 := source.id + Int32.ofNat (10000 * (source.lane + 1))

/-- The fused target of a source in one of the four lanes has the shown number as its identity. -/
theorem objID_fuse (source : Source) (hlane : source.lane < 4) :
    source.fuse.objID = toString source.showID.toInt := by
  obtain ⟨lane, direction, target⟩ := source
  match lane, hlane with
  | 0, _ | 1, _ | 2, _ | 3, _ => rfl

/-- Two numbers that are not negative are shown as one exactly if they differ by the shift between
their lanes, even where the sum leaves the range of an `int`. -/
theorem showID_eq_iff {p q : Source} (hp : p.lane < 4) (hq : q.lane < 4)
    (hpid : 0 ≤ p.id.toInt) (hqid : 0 ≤ q.id.toInt) :
    p.showID = q.showID ↔ p.id.toInt = q.id.toInt + 10000 * ((q.lane : Int) - p.lane) := by
  -- all sums are below 2 ^ 32, so that no two of them are taken for one number
  have hmod (source : Source) (hlane : source.lane < 4) (hid : 0 ≤ source.id.toInt) :
      source.showID.toInt % 2 ^ 32 = source.id.toInt + 10000 * ((source.lane : Int) + 1) := by
    have hlt := source.id.toInt_lt
    have hshift : (Int32.ofNat (10000 * (source.lane + 1))).toInt =
        10000 * ((source.lane : Int) + 1) := by
      rw [Int32.toInt_ofNat_of_lt (by omega)]
      push_cast
      rfl
    rw [showID, Int32.toInt_add, hshift]
    rw [show (2 : Int) ^ 32 = ((2 ^ 32 : Nat) : Int) from rfl, Int.bmod_emod]
    exact Int.emod_eq_of_lt (by omega) (by omega)
  have hpmod := hmod p hp hpid
  have hqmod := hmod q hq hqid
  constructor
  · intro h
    rw [h] at hpmod
    omega
  · intro h
    refine Int32.toInt_inj.mp ?_
    have hple := p.showID.le_toInt
    have hplt := p.showID.toInt_lt
    have hqle := q.showID.le_toInt
    have hqlt := q.showID.toInt_lt
    omega

end Source

/-- No target has the number of one in a later lane, shifted by 10000 for each lane between. -/
def Frame.NoClash {numI : Nat} (frame : Frame numI) : Prop :=
  ∀ p ∈ frame.sources, ∀ q ∈ frame.sources, p.lane < q.lane →
    p.id.toInt ≠ q.id.toInt + 10000 * ((q.lane : Int) - p.lane)

namespace DataUnitFusionData

/-- In a frame of at most four lanes, whose numbers are not negative and distinct within each lane,
all fused targets have different identities exactly if no numbers clash. -/
theorem nodup_objID_iff (u : DataUnitFusionData) (hlanes : u.unit.numI ≤ 4)
    (frame : Frame u.unit.numI) (hnonneg : ∀ source ∈ frame.sources, 0 ≤ source.id.toInt)
    (hdistinct : frame.sources.Pairwise fun p q => p.lane = q.lane → p.id ≠ q.id)
    (timestamp : Nat) (mergeType : MergeType) (plateId uuid : String) :
    ((u.fused frame timestamp mergeType plateId uuid).map ObjMix.objID).Nodup ↔ frame.NoClash := by
  have hlane (source : Source) (h : source ∈ frame.sources) : source.lane < 4 :=
    Nat.lt_of_lt_of_le (Frame.lane_lt h) hlanes
  have hclash (p q : Source) (hp : p ∈ frame.sources) (hq : q ∈ frame.sources) :
      p.fuse.objID = q.fuse.objID ↔
        p.id.toInt = q.id.toInt + 10000 * ((q.lane : Int) - p.lane) := by
    rw [p.objID_fuse (hlane p hp), q.objID_fuse (hlane q hq),
      ← Source.showID_eq_iff (hlane p hp) (hlane q hq) (hnonneg p hp) (hnonneg q hq),
      ← Int32.toInt_inj]
    exact toString_inj
  rw [fused_eq, List.map_map]
  constructor
  · intro h p hp q hq hlt heq
    have hsame : p = q := List.inj_on_of_nodup_map h hp hq ((hclash p q hp hq).mpr heq)
    rw [hsame] at hlt
    exact lt_irrefl _ hlt
  · intro h
    rw [List.Nodup, List.pairwise_map]
    refine hdistinct.imp_of_mem fun {p q} hp hq hids heq => ?_
    have hshift := (hclash p q hp hq).mp heq
    rcases lt_trichotomy p.lane q.lane with hlt | hsame | hgt
    · exact h p hp q hq hlt hshift
    · refine hids hsame (Int32.toInt_inj.mp ?_)
      rw [hshift, hsame]
      ring
    · refine h q hq p hp hgt ?_
      rw [hshift]
      ring

/-- The data unit after its initialisation with two lanes. -/
def twoLanes : DataUnitFusionData := Fusion.start 15 80 2 15 10

/-- A frame of two lanes, with one target in each. -/
def twoTargets (north east : String) : Frame 2 :=
  ⟨[{ lstObjTarget := [{ objID := north }] }, { lstObjTarget := [{ objID := east }] }], rfl⟩

/-- Two targets with the number 1 have different identities. -/
theorem nodup_objID_sameNumber :
    ((twoLanes.fused (twoTargets "1" "1") 1000 .notMerge "P" "1").map ObjMix.objID).Nodup ↔
      (twoTargets "1" "1").NoClash :=
  twoLanes.nodup_objID_iff (by decide) (twoTargets "1" "1") (by decide +kernel) (by decide +kernel)
    1000 .notMerge "P" "1"

/-- The number 10000 in the first lane and 0 in the second one both become 20000. -/
theorem objID_twice :
    ¬ ((twoLanes.fused (twoTargets "10000" "0") 1000 .notMerge "P" "1").map
      ObjMix.objID).Nodup := by
  decide +kernel

end DataUnitFusionData

end RVDataFusionServer
