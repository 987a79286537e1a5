import RVDataFusionServer.Common.Numeric

/-!
# Targets and their conversions

The targets of a lane, the targets that the fusion works on and the fused ones, with the
conversions between them (`mergeStruct.cpp`). A `double` is a `Float`, a `float` a `Float32`. The
character arrays for plates and distances, which no fused target shows, are left out, as are the
fields that are written nowhere on this path.
-/

namespace RVDataFusionServer

/-- `ObjTarget`: a target as a device reports it. -/
structure ObjTarget where
  objID : String := ""
  objCameraID : Int32 := 0
  objRadarID : Int32 := 0
  objSourceType : Int32 := 0
  objType : Int32 := 0
  plates : String := ""
  plateColor : String := ""
  carType : Int32 := 0
  left : Int32 := 0
  top : Int32 := 0
  right : Int32 := 0
  bottom : Int32 := 0
  locationX : Float := 0
  locationY : Float := 0
  directionAngle : Float := 0
  speedX : Float := 0
  speedY : Float := 0
  longitude : Float := 0
  latitude : Float := 0
  laneCode : String := ""
  carLength : Float := 0
  carFeaturePic : String := ""

/-- `OBJECT_INFO_T`: a target of one lane. -/
structure ObjectInfoT where
  objID : Int32 := 0
  inputID : String := ""
  cameraID : Int32 := 0
  objSourceType : Int32 := 0
  objType : Int32 := 0
  laneCode : String := ""
  carLength : Float32 := 0
  carFeaturePic : String := ""
  plates : String := ""
  plateColor : String := ""
  carType : Int32 := 0
  left : Int32 := 0
  top : Int32 := 0
  right : Int32 := 0
  bottom : Int32 := 0
  locationX : Float := 0
  locationY : Float := 0
  directionAngle : Float := 0
  speedX : Float := 0
  speedY : Float := 0
  longitude : Float := 0
  latitude : Float := 0
  radarID : Int32 := 0

/-- `OBJECT_INFO_NEW`: a target with its numbers in the four ways. -/
structure ObjectInfoNew where
  objID1 : Int32 := 0
  objID2 : Int32 := 0
  objID3 : Int32 := 0
  objID4 : Int32 := 0
  cameraID1 : Int32 := 0
  cameraID2 : Int32 := 0
  cameraID3 : Int32 := 0
  cameraID4 : Int32 := 0
  objType : Int32 := 0
  laneCode : String := ""
  carLength : Float32 := 0
  carFeaturePic : String := ""
  plates : String := ""
  plateColor : String := ""
  carType : Int32 := 0
  showID : Int32 := 0
  left : Int32 := 0
  top : Int32 := 0
  right : Int32 := 0
  bottom : Int32 := 0
  directionAngle : Float := 0
  speed : Float := 0
  longitude : Float := 0
  latitude : Float := 0
  locationX : Float := -1
  locationY : Float := -1
  flagNew : Int32 := -1

/-- `OneRvWayObject`: the numbers of a fused target in one way. -/
structure OneRvWayObject where
  wayNo : Int32
  roID : Int32
  voID : Int32
  deriving DecidableEq, Repr

/-- `ObjMix`: a fused target. -/
structure ObjMix where
  objID : String := ""
  rvWayObject : List OneRvWayObject := []
  objType : Int32 := 0
  objColor : String := ""
  carType : Int32 := 0
  plates : String := ""
  plateColor : String := ""
  distance : Float32 := 0
  angle : Float32 := 0
  speed : Float32 := 0
  locationX : Float := 0
  locationY : Float := 0
  longitude : Float := 0
  latitude : Float := 0
  laneCode : String := ""
  carLength : Float := 0
  carFeaturePic : String := ""
  flagNew : Int32 := 0

/-- `INF`. -/
def inf : Int32 := 0x7FFFFFFF

/-- `enum Direction`. -/
inductive Direction where
  | unknown
  | east
  | south
  | west
  | north
  deriving DecidableEq, Repr

/-- The number of a direction. -/
def Direction.code : Direction → Int32
  | .unknown => 0
  | .east => 1
  | .south => 2
  | .west => 3
  | .north => 4

/-- `atoi`. -/
def atoi (text : String) : Int32 := Int32.ofInt (strtol text.toUTF8.toList)

/-- `ObjTarget2OBJECT_INFO_T`. -/
def objTarget2ObjectInfoT (objTarget : ObjTarget) : ObjectInfoT where
  objID := atoi objTarget.objID
  inputID := objTarget.objID
  cameraID := objTarget.objCameraID
  radarID := objTarget.objRadarID
  objType := objTarget.objType
  objSourceType := objTarget.objSourceType
  left := objTarget.left
  top := objTarget.top
  right := objTarget.right
  bottom := objTarget.bottom
  locationX := objTarget.locationX
  locationY := objTarget.locationY
  plates := objTarget.plates
  plateColor := objTarget.plateColor
  carFeaturePic := objTarget.carFeaturePic
  laneCode := objTarget.laneCode
  carType := objTarget.carType
  carLength := objTarget.carLength.toFloat32
  directionAngle := objTarget.directionAngle
  speedX := objTarget.speedX
  speedY := objTarget.speedY
  longitude := objTarget.longitude
  latitude := objTarget.latitude

/-- `OBJECT_INFO_T2OBJECT_INFO_NEW`, which `TaskNotMerge` does not use. -/
def objectInfoT2ObjectInfoNew (objectInfoT : ObjectInfoT) (objectInfoNew : ObjectInfoNew) :
    ObjectInfoNew :=
  { objectInfoNew with
    objID1 := objectInfoT.objID
    objID2 := -inf
    objID3 := -inf
    objID4 := -inf
    cameraID1 := objectInfoT.cameraID
    cameraID2 := -inf
    cameraID3 := -inf
    cameraID4 := -inf
    showID := objectInfoT.objID
    objType := objectInfoT.objType
    left := objectInfoT.left
    top := objectInfoT.top
    right := objectInfoT.right
    bottom := objectInfoT.bottom
    locationX := objectInfoT.locationX
    locationY := objectInfoT.locationY
    plates := objectInfoT.plates
    plateColor := objectInfoT.plateColor
    carFeaturePic := objectInfoT.carFeaturePic
    laneCode := objectInfoT.laneCode
    carType := objectInfoT.carType
    carLength := objectInfoT.carLength
    directionAngle := objectInfoT.directionAngle
    speed :=
      Float.sqrt (objectInfoT.speedX * objectInfoT.speedX + objectInfoT.speedY * objectInfoT.speedY)
    longitude := objectInfoT.longitude
    latitude := objectInfoT.latitude }

/-- `OBJECT_INFO_NEW2ObjMix`, on an object whose numbers in the ways are set. -/
def objectInfoNew2ObjMix (objectInfoNew : ObjectInfoNew) (objMix : ObjMix) : ObjMix :=
  { objMix with
    objID := toString objectInfoNew.showID.toInt
    objType := objectInfoNew.objType
    angle := objectInfoNew.directionAngle.toFloat32
    speed := objectInfoNew.speed.toFloat32
    locationX := objectInfoNew.locationX
    locationY := objectInfoNew.locationY
    longitude := objectInfoNew.longitude
    latitude := objectInfoNew.latitude
    flagNew := objectInfoNew.flagNew
    laneCode := objectInfoNew.laneCode
    carLength := objectInfoNew.carLength.toFloat
    carFeaturePic := objectInfoNew.carFeaturePic
    plates := objectInfoNew.plates
    plateColor := objectInfoNew.plateColor
    carType := objectInfoNew.carType }

/-- The numbers that `TaskNotMerge` gives to a target of lane `i`. A lane beyond the four ways
leaves them at their defaults. -/
def wayNumbers (i : Nat) (target : ObjectInfoT) : ObjectInfoNew :=
  let missing : ObjectInfoNew :=
    { objID1 := -inf, cameraID1 := -inf, objID2 := -inf, cameraID2 := -inf
      objID3 := -inf, cameraID3 := -inf, objID4 := -inf, cameraID4 := -inf }
  match i with
  | 0 => { missing with
      objID1 := target.objID, cameraID1 := target.cameraID, showID := target.objID + 10000 }
  | 1 => { missing with
      objID2 := target.objID, cameraID2 := target.cameraID, showID := target.objID + 20000 }
  | 2 => { missing with
      objID3 := target.objID, cameraID3 := target.cameraID, showID := target.objID + 30000 }
  | 3 => { missing with
      objID4 := target.objID, cameraID4 := target.cameraID, showID := target.objID + 40000 }
  | _ => {}

/-- The object that `TaskNotMerge` makes of a target of lane `i`. -/
def notMerged (i : Nat) (target : ObjectInfoT) : ObjectInfoNew :=
  { wayNumbers i target with
    objType := target.objType
    left := target.left
    top := target.top
    right := target.right
    bottom := target.bottom
    locationX := target.locationX
    locationY := target.locationY
    directionAngle := target.directionAngle
    speed := Float.sqrt (target.speedX * target.speedX + target.speedY * target.speedY)
    latitude := target.latitude
    longitude := target.longitude
    flagNew := 0 }

/-- The ways in which `GetFusionData` shows an object. -/
def rvWayObjects (object : ObjectInfoNew) : List OneRvWayObject :=
  let shown (way : Direction) (id cameraID : Int32) : List OneRvWayObject :=
    if id ≠ -inf then [⟨way.code, id, cameraID⟩] else []
  shown .north object.objID1 object.cameraID1 ++ shown .east object.objID2 object.cameraID2 ++
    shown .south object.objID3 object.cameraID3 ++ shown .west object.objID4 object.cameraID4

/-- The fused target that `GetFusionData` makes of an object. -/
def toObjMix (object : ObjectInfoNew) : ObjMix :=
  objectInfoNew2ObjMix object { rvWayObject := rvWayObjects object }

end RVDataFusionServer
