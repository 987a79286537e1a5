import RVDataFusionServer.Data.FindOneFrame
import RVDataFusionServer.Data.MergeStruct

/-!
# Fusion data

The way of a frame through `DataUnitFusionData` (`DataUnitFusionData.cpp`): its lanes become the
input of the fusion, the input becomes objects, and these become the fused targets of a
`FusionData`, which goes to the output queue. The last step appends to a member that is never
cleared, so that `exact_iff` holds: the output is that of the current frame for the first frame
only.
-/

namespace RVDataFusionServer

open Library Execution

/-- `WatchData`, as far as the fusion reads it: one lane of a frame. -/
structure WatchData where
  hardCode : String := ""
  timestamp : Fin (2 ^ 63) := 0
  imageData : String := ""
  direction : Int32 := -1
  lstObjTarget : List ObjTarget := []
  deriving Inhabited

instance : Timestamped WatchData where
  timestamp lane := lane.timestamp
  timestamp_lt lane := lane.timestamp.isLt

/-- `VideoTargets`: a target in the picture of a lane. -/
structure VideoTargets where
  cameraObjID : Int32
  left : Int32
  top : Int32
  right : Int32
  bottom : Int32
  deriving DecidableEq, Repr

/-- `VideoData`: the picture of a lane. -/
structure VideoData where
  rvHardCode : String
  lstVideoTargets : List VideoTargets
  imageData : String
  direction : Int32
  deriving DecidableEq, Repr

/-- `FusionData`: the output of the fusion. -/
structure FusionData where
  oprNum : String := ""
  timestamp : Nat := 0
  crossID : String := ""
  isHasImage : Int32 := 0
  lstObjTarget : List ObjMix := []
  lstVideos : List VideoData := []

/-- `RoadData`: the input of the fusion from one lane. -/
structure RoadData where
  hardCode : String := ""
  listObjs : List ObjectInfoT := []
  imageData : String := ""
  direction : Int32 := -1
  timestamp : Nat := 0

/-- `RoadDataInSet`: the input of the fusion from all lanes. -/
structure RoadDataInSet where
  timestamp : Nat := 0
  roadDataList : List RoadData := []

/-- `MergeData`: what the fusion works on. -/
structure MergeData where
  timestamp : Nat := 0
  objOutput : List ObjectInfoNew := []
  objInput : RoadDataInSet := {}

/-- `DataUnitFusionData`, with the two members that are used again for every frame. -/
structure DataUnitFusionData where
  unit : DataUnit WatchData FusionData := {}
  mergeData : MergeData := {}
  fusionData : FusionData := {}

/-- `MergeType`. -/
inductive MergeType where
  | notMerge
  | merge
  deriving DecidableEq, Repr

/-- The input of the fusion from a lane. -/
def roadData (lane : WatchData) : RoadData where
  hardCode := lane.hardCode
  imageData := lane.imageData
  direction := lane.direction
  timestamp := lane.timestamp
  listObjs := lane.lstObjTarget.map objTarget2ObjectInfoT

/-- The picture that `GetFusionData` makes of the input from a lane. -/
def videoData (iter : RoadData) : VideoData where
  rvHardCode := iter.hardCode
  imageData := iter.imageData
  direction := iter.direction
  lstVideoTargets := iter.listObjs.map fun iter1 =>
    { cameraObjID := iter1.cameraID
      left := iter1.left
      top := iter1.top
      right := iter1.right
      bottom := iter1.bottom }

namespace DataUnitFusionData

/-- `GetFusionData`, with the answer of the output queue. Both loops append to lists of the member
`fusionData`. -/
def getFusionData (u : DataUnitFusionData) (plateId uuid : String) : DataUnitFusionData × Bool :=
  let fusionData := { u.fusionData with
    oprNum := uuid
    timestamp := u.mergeData.timestamp
    crossID := plateId }
  let lstObjTarget := u.mergeData.objOutput.foldl
    (fun lstObjTarget iter => lstObjTarget ++ [toObjMix iter]) fusionData.lstObjTarget
  let fusionData := { fusionData with lstObjTarget, isHasImage := 1 }
  let lstVideos := u.mergeData.objInput.roadDataList.foldl
    (fun lstVideos iter => lstVideos ++ [videoData iter]) fusionData.lstVideos
  let fusionData := { fusionData with lstVideos }
  let (oQueue, pushed) := u.unit.oQueue.push fusionData
  ({ u with fusionData, unit := { u.unit with oQueue } }, pushed)

/-- `TaskNotMerge`, which ends with `GetFusionData` if the output is sent to the cloud. -/
def taskNotMerge (isSendCloud : Bool) (u : DataUnitFusionData) (roadDataInSet : RoadDataInSet)
    (plateId uuid : String) : DataUnitFusionData × Bool :=
  let objOutput := roadDataInSet.roadDataList.zipIdx.foldl
    (fun objOutput (iter, i) =>
      iter.listObjs.foldl (fun objOutput iter1 => objOutput ++ [notMerged i iter1]) objOutput) []
  let mergeData : MergeData :=
    { timestamp := roadDataInSet.timestamp, objOutput, objInput := roadDataInSet }
  let u := { u with mergeData }
  if isSendCloud then u.getFusionData plateId uuid else (u, false)

/-- `TaskProcessOneFrame`. Both merge types lead to `TaskNotMerge`. -/
def taskProcessOneFrame (isSendCloud : Bool) (u : DataUnitFusionData) (mergeType : MergeType)
    (plateId uuid : String) : DataUnitFusionData × Bool :=
  let roadDataList := u.unit.oneFrame.zipIdx.foldl
    (fun roadDataList (iter, i) => roadDataList.set i (roadData iter))
    (List.replicate u.unit.numI {})
  let roadDataInSet : RoadDataInSet := { timestamp := u.unit.curTimestamp, roadDataList }
  match mergeType with
  | .notMerge => u.taskNotMerge isSendCloud roadDataInSet plateId uuid
  | .merge => u.taskNotMerge isSendCloud roadDataInSet plateId uuid

/-- What a successful `FindOneFrame` hands on: one lane for each lane, and the reference time. -/
def found (u : DataUnitFusionData) (oneFrame : List WatchData) (curTimestamp : Nat) :
    DataUnitFusionData :=
  { u with unit := { u.unit with oneFrame, curTimestamp } }

end DataUnitFusionData

/-- A frame of one moment: one lane for each of the `numI` lanes of the data unit. -/
abbrev Frame (numI : Nat) := { lanes : List WatchData // lanes.length = numI }

/-- The lists of a `FusionData`. -/
abbrev Contents := List ObjMix × List VideoData

namespace Frame

variable {numI : Nat}

/-- The fused targets of a frame, in lane order and then in list order. -/
def targets (frame : Frame numI) : List ObjMix :=
  frame.1.zipIdx.flatMap fun (lane, i) =>
    lane.lstObjTarget.map fun target => toObjMix (notMerged i (objTarget2ObjectInfoT target))

/-- The pictures of a frame, in lane order. -/
def videos (frame : Frame numI) : List VideoData :=
  frame.1.map fun lane => videoData (roadData lane)

/-- The lists of a `FusionData` that contains exactly the frame. -/
def contents (frame : Frame numI) : Contents := (frame.targets, frame.videos)

end Frame

/-- A loop that overwrites one element of a list for each element of another. -/
theorem foldl_set {α β : Type} (f : β → α) (done todo : List α) (xs : List β)
    (h : xs.length = todo.length) :
    (xs.zipIdx done.length).foldl (fun acc (x, i) => acc.set i (f x)) (done ++ todo) =
      done ++ xs.map f := by
  induction xs generalizing done todo with
  | nil =>
      rw [List.length_nil] at h
      simp [List.length_eq_zero_iff.mp h.symm]
  | cons x xs ih =>
      cases todo with
      | nil => cases h
      | cons old todo =>
          have hset : (done ++ old :: todo).set done.length (f x) = (done ++ [f x]) ++ todo := by
            simp
          have hrest := ih (done ++ [f x]) todo (by simpa using h)
          simp only [List.zipIdx_cons, List.foldl_cons, hset]
          simpa using hrest

namespace DataUnitFusionData

/-- The lists of the member `fusionData`. -/
def contents (u : DataUnitFusionData) : Contents :=
  (u.fusionData.lstObjTarget, u.fusionData.lstVideos)

/-- The objects that a frame becomes. -/
theorem objOutput_eq (lanes : List WatchData) :
    (lanes.map roadData).zipIdx.foldl
      (fun objOutput (iter, i) =>
        iter.listObjs.foldl (fun objOutput iter1 => objOutput ++ [notMerged i iter1]) objOutput)
      [] = lanes.zipIdx.flatMap fun (lane, i) =>
        lane.lstObjTarget.map fun target => notMerged i (objTarget2ObjectInfoT target) := by
  simp only [foldl_push, List.foldl_append_eq_append, List.nil_append, ← List.flatMap_def]
  simp [List.zipIdx_map, List.flatMap_map, roadData, Function.comp_def]

/-- A frame is appended to what the member `fusionData` already contains, and the output queue gets
the result if it has room. -/
theorem taskProcessOneFrame_spec (u : DataUnitFusionData) (frame : Frame u.unit.numI)
    (hframe : u.unit.oneFrame = frame.1) (mergeType : MergeType) (plateId uuid : String) :
    let result := u.taskProcessOneFrame true mergeType plateId uuid
    result.1.contents = (u.contents.1 ++ frame.targets, u.contents.2 ++ frame.videos) ∧
      result.1.unit.numI = u.unit.numI ∧ (result.2 = true ↔ ¬ u.unit.oQueue.Full) := by
  have hinput : frame.1.zipIdx.foldl
      (fun roadDataList (iter, i) => roadDataList.set i (roadData iter))
      (List.replicate u.unit.numI {}) = frame.1.map roadData := by
    have hloop := foldl_set roadData [] (List.replicate u.unit.numI {}) frame.1
      (by simp [frame.2])
    simpa using hloop
  have htargets : (frame.1.zipIdx.flatMap fun (lane, i) =>
      lane.lstObjTarget.map fun target => notMerged i (objTarget2ObjectInfoT target)).map toObjMix =
        frame.targets := by
    simp [Frame.targets, List.map_flatMap, Function.comp_def]
  have hvideos : (frame.1.map roadData).map videoData = frame.videos := by
    simp [Frame.videos, Function.comp_def]
  have hprocess : u.taskProcessOneFrame true mergeType plateId uuid =
      u.taskNotMerge true { timestamp := u.unit.curTimestamp, roadDataList := frame.1.map roadData }
        plateId uuid := by
    unfold taskProcessOneFrame
    rw [hframe, hinput]
    cases mergeType <;> rfl
  simp only [hprocess, taskNotMerge, objOutput_eq, if_true]
  simp only [getFusionData, foldl_push, htargets, hvideos, contents, Queue.push]
  refine ⟨trivial, trivial, ?_⟩
  split <;> simp_all

end DataUnitFusionData

namespace Fusion

/-- What happens to the data unit: a frame is found and processed, or the output is taken. -/
inductive Input (numI : Nat) where
  | frame (frame : Frame numI) (timestamp : Nat) (mergeType : MergeType) (uuid : String)
  | popO

variable {numI : Nat}

/-- One step, with the `FusionData` that the output queue gets. -/
def step (plateId : String) (u : DataUnitFusionData) :
    Input numI → DataUnitFusionData × List FusionData
  | .frame frame timestamp mergeType uuid =>
      let (u, pushed) :=
        (u.found frame.1 timestamp).taskProcessOneFrame true mergeType plateId uuid
      (u, if pushed then [u.fusionData] else [])
  | .popO =>
      match u.unit.oQueue.pop with
      | none => (u, [])
      | some (_, oQueue) => ({ u with unit := { u.unit with oQueue } }, [])

/-- The data unit after its initialisation. -/
def start (c : Nat) (fs : Int32) (numI : Nat) (cache : Int) (intervalTask : Int32) :
    DataUnitFusionData where
  unit := DataUnit.init {} c fs numI cache intervalTask

/-- The output queue has room for the output of a frame. -/
def HasRoom (u : DataUnitFusionData) : Input numI → Prop
  | .frame _ _ _ _ => ¬ u.unit.oQueue.Full
  | .popO => True

instance (u : DataUnitFusionData) : (input : Input numI) → Decidable (HasRoom u input)
  | .frame _ _ _ _ => inferInstanceAs (Decidable (¬ _))
  | .popO => .isTrue trivial

/-- The frames of a run. -/
def frames (inputs : List (Input numI)) : List (Frame numI) :=
  inputs.filterMap fun
    | .frame frame _ _ _ => some frame
    | .popO => none

/-- The lists of a `FusionData`. -/
def contents (fusionData : FusionData) : Contents := (fusionData.lstObjTarget, fusionData.lstVideos)

/-- What each frame of a list leaves when all are appended to the same two lists. -/
def accumulated : Contents → List (Frame numI) → List Contents
  | _, [] => []
  | before, frame :: rest =>
      let now := (before.1 ++ frame.targets, before.2 ++ frame.videos)
      now :: accumulated now rest

/-- The output for the `k`-th frame contains the first `k` frames. -/
theorem emitted_eq (plateId : String) (u : DataUnitFusionData) (hnum : u.unit.numI = numI)
    (inputs : List (Input numI)) (hroom : Allowed (step plateId) HasRoom u inputs) :
    (emitted (step plateId) u inputs).map contents = accumulated u.contents (frames inputs) := by
  induction inputs generalizing u with
  | nil => rfl
  | cons input rest ih =>
      obtain ⟨hnow, hrest⟩ := hroom
      cases input with
      | popO =>
          have hsame : ((step plateId u (.popO : Input numI)).1.contents = u.contents ∧
              (step plateId u (.popO : Input numI)).1.unit.numI = u.unit.numI) ∧
                (step plateId u (.popO : Input numI)).2 = [] := by
            simp only [step]
            split <;> exact ⟨⟨rfl, rfl⟩, rfl⟩
          rw [emitted_cons, hsame.2, List.nil_append, ih _ (hsame.1.2.trans hnum) hrest, hsame.1.1]
          rfl
      | frame frame timestamp mergeType uuid =>
          subst hnum
          obtain ⟨hcontents, hnum, hpushed⟩ :=
            (u.found frame.1 timestamp).taskProcessOneFrame_spec frame rfl mergeType plateId uuid
          have hpush := hpushed.mpr hnow
          set result :=
            (u.found frame.1 timestamp).taskProcessOneFrame true mergeType plateId uuid with hresult
          have hstep : step plateId u (.frame frame timestamp mergeType uuid) =
              (result.1, [result.1.fusionData]) := by
            simp only [step, ← hresult, hpush, if_true]
          rw [hstep] at hrest
          have hlists : contents result.1.fusionData =
              (u.contents.1 ++ frame.targets, u.contents.2 ++ frame.videos) := hcontents
          rw [emitted_cons, hstep, List.map_append, ih _ hnum hrest, List.map_singleton, hlists,
            hcontents]
          rfl

/-- Frames without lanes leave nothing. -/
theorem accumulated_of_no_lanes (list : List (Frame 0)) :
    accumulated ([], []) list = list.map Frame.contents := by
  have hempty (frame : Frame 0) : frame.targets = [] ∧ frame.videos = [] := by
    have hlanes := List.length_eq_zero_iff.mp frame.2
    simp [Frame.targets, Frame.videos, hlanes]
  induction list with
  | nil => rfl
  | cons frame rest ih =>
      obtain ⟨htargets, hvideos⟩ := hempty frame
      simp [accumulated, Frame.contents, htargets, hvideos, ← ih]

/-- The outputs are those of their frames exactly if there is at most one frame, or the frames have
no lanes. -/
theorem accumulated_eq_iff (list : List (Frame numI)) :
    accumulated ([], []) list = list.map Frame.contents ↔ list.length ≤ 1 ∨ numI = 0 := by
  have hlength (frame : Frame numI) : frame.videos.length = numI := by
    simp [Frame.videos, frame.2]
  cases list with
  | nil => simp [accumulated]
  | cons first rest =>
      cases rest with
      | nil => simp [accumulated, Frame.contents]
      | cons second rest =>
          constructor
          · intro h
            -- the second output has the pictures of two frames
            simp only [accumulated, List.map_cons, List.cons.injEq, Frame.contents] at h
            have hvideos := congrArg (fun lists : Contents => lists.2.length) h.2.1
            simp only [List.nil_append, List.length_append, hlength] at hvideos
            omega
          · intro h
            obtain rfl := h.resolve_left (by simp)
            exact accumulated_of_no_lanes _

/-- In a run whose output queue has room for every output, the outputs contain exactly their frames
if and only if there is at most one frame, or the data unit has no lanes. -/
theorem exact_iff (c : Nat) (fs : Int32) (cache : Int) (intervalTask : Int32) (plateId : String)
    (inputs : List (Input numI))
    (hroom : Allowed (step plateId) HasRoom (start c fs numI cache intervalTask) inputs) :
    (emitted (step plateId) (start c fs numI cache intervalTask) inputs).map contents =
        (frames inputs).map Frame.contents ↔
      (frames inputs).length ≤ 1 ∨ numI = 0 := by
  have hnum : (start c fs numI cache intervalTask).unit.numI = numI := rfl
  rw [emitted_eq plateId _ hnum inputs hroom]
  exact accumulated_eq_iff (frames inputs)

/-- Two frames of one lane, without targets. -/
def twoFrames : List (Input 1) :=
  [.frame ⟨[{ hardCode := "A" }], rfl⟩ 1000 .notMerge "1",
    .frame ⟨[{ hardCode := "A" }], rfl⟩ 1100 .notMerge "2"]

/-- The outputs for two frames contain exactly them only if there is one frame, or no lane. -/
theorem exact_twoFrames :
    (emitted (step "P") (start 15 80 1 15 10) twoFrames).map contents =
        (frames twoFrames).map Frame.contents ↔
      (frames twoFrames).length ≤ 1 ∨ 1 = 0 :=
  exact_iff 15 80 15 10 "P" twoFrames (by decide)

/-- The second output has the picture of the first frame, too. -/
theorem not_exact_twoFrames :
    (emitted (step "P") (start 15 80 1 15 10) twoFrames).map contents ≠
      (frames twoFrames).map Frame.contents := by
  intro h
  have hcounts := congrArg (List.map fun lists => lists.2.length) h
  exact absurd hcounts (by decide)

end Fusion

end RVDataFusionServer
