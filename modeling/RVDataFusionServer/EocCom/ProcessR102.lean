import RVDataFusionServer.Db.EocConfigure

/-!
# The configuration download

`processR102` (`EOCCom.cpp`) rewrites the tables of the configuration database one after the
other and replies to the cloud. The two files that it writes besides, whose errors it does not look
at, are left out.

`atomic_iff` says for which failures of its statements the reply and the tables are what they
should be.
-/

namespace RVDataFusionServer

open Library.Rewriting

/-- `IntersectionBaseSettingEntity`. -/
structure IntersectionBaseSettingEntity where
  flagEast : Int32
  flagSouth : Int32
  flagWest : Int32
  flagNorth : Int32
  deltaXEast : Float
  deltaYEast : Float
  deltaXSouth : Float
  deltaYSouth : Float
  deltaXWest : Float
  deltaYWest : Float
  deltaXNorth : Float
  deltaYNorth : Float
  widthX : Float
  widthY : Float
  deriving Inhabited

/-- `IntersectionEntity`. -/
structure IntersectionEntity where
  guid : String
  name : String
  type : Int32
  platId : String
  xLength : Float32
  yLength : Float32
  laneNumber : Int32
  latitude : String
  longitude : String
  intersectionBaseSetting : IntersectionBaseSettingEntity
  deriving Inhabited

/-- `BaseSettingEntity`. -/
structure BaseSettingEntity where
  city : String
  isUploadToPlatform : Int32
  is4Gmodel : Int32
  isIllegalCapture : Int32
  isPrintIntersectionName : Int32
  remarks : String
  filesServicePath : String
  filesServicePort : Int32
  mainDNS : String
  alternateDNS : String
  platformTcpPath : String
  platformTcpPort : Int32
  platformHttpPath : String
  platformHttpPort : Int32
  signalMachinePath : String
  signalMachinePort : Int32
  isUseSignalMachine : Int32
  ntpServerPath : String
  illegalPlatformAddress : String
  fusionMainboardIp : String
  fusionMainboardPort : Int32
  deriving Inhabited

/-- `AssociatedEquip`. -/
structure AssociatedEquip where
  equipType : Int32
  equipCode : String

/-- `R102` with its `DataR102`, as far as `processR102` reads them for the tables and the reply. -/
structure R102 where
  guid : String
  dataVersion : String
  intersectionInfo : IntersectionEntity
  index : Int32
  baseSetting : BaseSettingEntity
  associatedEquips : List AssociatedEquip
  deriving Inhabited

/-- `S102` with its `DataS102`: the reply. -/
structure S102 where
  version : String
  code : String
  guid : String
  dataCode : String
  state : Int
  message : String
  deriving DecidableEq, Repr

/-- `EOCCom::convertBaseSetS2DB`. -/
def convertBaseSetS2DB (setting : BaseSettingEntity) (index : Int32) : DBBaseSet where
  index := index
  city := setting.city
  isUploadToPlatform := setting.isUploadToPlatform
  is4Gmodel := setting.is4Gmodel
  isIllegalCapture := setting.isIllegalCapture
  isPrintIntersectionName := setting.isPrintIntersectionName
  filesServicePath := setting.filesServicePath
  filesServicePort := setting.filesServicePort
  mainDNS := setting.mainDNS
  alternateDNS := setting.alternateDNS
  platformTcpPath := setting.platformTcpPath
  platformTcpPort := setting.platformTcpPort
  platformHttpPath := setting.platformHttpPath
  platformHttpPort := setting.platformHttpPort
  signalMachinePath := setting.signalMachinePath
  signalMachinePort := setting.signalMachinePort
  isUseSignalMachine := setting.isUseSignalMachine
  ntpServerPath := setting.ntpServerPath
  fusionMainboardIp := setting.fusionMainboardIp
  fusionMainboardPort := setting.fusionMainboardPort
  illegalPlatformAddress := setting.illegalPlatformAddress
  remarks := setting.remarks

/-- `EOCCom::convertIntersectionS2DB`. -/
def convertIntersectionS2DB (info : IntersectionEntity) : DBIntersection where
  guid := info.guid
  name := info.name
  type := info.type
  platId := info.platId
  xLength := info.xLength
  yLength := info.yLength
  laneNumber := info.laneNumber
  latitude := info.latitude
  longitude := info.longitude
  flagEast := info.intersectionBaseSetting.flagEast
  flagSouth := info.intersectionBaseSetting.flagSouth
  flagWest := info.intersectionBaseSetting.flagWest
  flagNorth := info.intersectionBaseSetting.flagNorth
  deltaXEast := info.intersectionBaseSetting.deltaXEast
  deltaYEast := info.intersectionBaseSetting.deltaYEast
  deltaXSouth := info.intersectionBaseSetting.deltaXSouth
  deltaYSouth := info.intersectionBaseSetting.deltaYSouth
  deltaXWest := info.intersectionBaseSetting.deltaXWest
  deltaYWest := info.intersectionBaseSetting.deltaYWest
  deltaXNorth := info.intersectionBaseSetting.deltaXNorth
  deltaYNorth := info.intersectionBaseSetting.deltaYNorth
  widthX := info.intersectionBaseSetting.widthX
  widthY := info.intersectionBaseSetting.widthY

/-- `EOCCom::convertAssociated_EquipS2DB`. -/
def convertAssociatedEquipS2DB (equip : AssociatedEquip) : DBAssociatedEquip where
  equipType := equip.equipType
  equipCode := equip.equipCode

/-- What is left of a result when one more function has returned `ret`. -/
def resultAfter (result ret : Int) : Int := if ret = 0 then result else -1

/-- The loop over the associated devices. -/
def insertAssociatedEquips (fails : Nat → Bool) (db : Database) (result : Int)
    (equips : List AssociatedEquip) : Database × Int :=
  equips.foldl
    (fun (db, result) iter =>
      let (db, ret) := (convertAssociatedEquipS2DB iter).insertToDB fails db
      (db, resultAfter result ret))
    (db, result)

/-- The block that writes the version of the data, with the time of day as the clock shows it. -/
def writeDataVersion (fails : Nat → Bool) (db : Database) (result : Int) (version time : String) :
    Database × Int :=
  if version = "" then (db, result)
  else
    let (db, _) := DBDataVersion.deleteFromDB fails db
    let (db, ret) := DBDataVersion.insertToDB { version, time } fails db
    (db, resultAfter result ret)

/-- `S102::get`. -/
def S102.get (comVersion guid : String) (state : Int) (message : String) : S102 where
  version := comVersion
  code := "MCCS102"
  guid := guid
  dataCode := "MCCS102"
  state := state
  message := message

/-- `processR102`: the database behind it, the reply, and whether a reboot is scheduled. A message
that cannot be decoded gets no reply. -/
def processR102 (fails : Nat → Bool) (db : Database) (time : String) :
    Option R102 → Database × Option S102 × Bool
  | none => (db, none, false)
  | some data =>
      let result := 0
      let (db, _) := DBBaseSet.deleteFromDB fails db
      let (db, ret) := (convertBaseSetS2DB data.baseSetting data.index).insertToDB fails db
      let result := resultAfter result ret
      let (db, _) := DBIntersection.deleteFromDB fails db
      let (db, ret) := (convertIntersectionS2DB data.intersectionInfo).insertToDB fails db
      let result := resultAfter result ret
      let (db, _) := DBAssociatedEquip.deleteAllFromDB fails db
      let (db, result) := insertAssociatedEquips fails db result data.associatedEquips
      let (db, result) := writeDataVersion fails db result data.dataVersion time
      if result ≠ 0 then (db, some (S102.get "V1.0.0" data.guid 0 "fail"), false)
      else (db, some (S102.get "V1.0.0" data.guid 1 "ok"), true)

/-- What the tables hold when they hold exactly the received configuration. A download without a
version does not write the table of versions. -/
def R102.stored (data : R102) (before : Tables) (time : String) : Tables where
  confVersion := if data.dataVersion = "" then before.confVersion else [⟨data.dataVersion, time⟩]
  baseSet := [convertBaseSetS2DB data.baseSetting data.index]
  belongIntersection := [convertIntersectionS2DB data.intersectionInfo]
  associatedEquip := data.associatedEquips.map convertAssociatedEquipS2DB

/-- The number of statements that a download executes. -/
def R102.statements (data : R102) : Nat :=
  5 + data.associatedEquips.length + if data.dataVersion = "" then 0 else 2

/-- What the tables hold behind a download. -/
def R102.written (data : R102) (fails : Nat → Bool) (before : Tables) (time : String) :
    Tables where
  baseSet := rewritten fails 0 before.baseSet [convertBaseSetS2DB data.baseSetting data.index]
  belongIntersection :=
    rewritten fails 2 before.belongIntersection [convertIntersectionS2DB data.intersectionInfo]
  associatedEquip :=
    rewritten fails 4 before.associatedEquip (data.associatedEquips.map convertAssociatedEquipS2DB)
  confVersion :=
    if data.dataVersion = "" then before.confVersion
    else rewritten fails (5 + data.associatedEquips.length) before.confVersion
      [⟨data.dataVersion, time⟩]

/-- The reply and the reboot are those of a success only if the tables hold the received
configuration, and if a statement has failed, the tables hold what they held before. -/
def Atomic (fails : Nat → Bool) (before : Tables) (time : String) (data : R102) : Prop :=
  let (db, reply, reboot) := processR102 fails { tables := before } time (some data)
  ((∃ s102, reply = some s102 ∧ s102.state = 1) ∨ reboot = true →
      db.tables = data.stored before time) ∧
    ((∃ i < db.executed, fails i = true) → db.tables = before)

/-- The condition under which a download is atomic: no statement fails, or the tables already hold
the received configuration and of each table all statements fail or none. -/
def Harmless (fails : Nat → Bool) (before : Tables) (time : String) (data : R102) : Prop :=
  (∀ i < data.statements, fails i = false) ∨
    before = data.stored before time ∧ Uniform fails 0 2 ∧ Uniform fails 2 2 ∧
      Uniform fails 4 (data.associatedEquips.length + 1) ∧
      (data.dataVersion = "" ∨ Uniform fails (5 + data.associatedEquips.length) 2)

variable {fails : Nat → Bool}

/-- Every function reports success, so that the result stays what it is. -/
@[simp] theorem resultAfter_zero (result : Int) : resultAfter result 0 = result := rfl

/-- The loop inserts the devices whose statements do not fail. -/
theorem insertAssociatedEquips_eq (db : Database) (result : Int) (equips : List AssociatedEquip) :
    insertAssociatedEquips fails db result equips =
      ({ tables := { db.tables with
            associatedEquip := db.tables.associatedEquip ++
              inserted fails db.executed (equips.map convertAssociatedEquipS2DB) }
         executed := db.executed + equips.length }, result) := by
  induction equips generalizing db with
  | nil => simp [insertAssociatedEquips, inserted]
  | cons equip equips ih =>
      have hstep : insertAssociatedEquips fails db result (equip :: equips) =
          insertAssociatedEquips fails
            ((convertAssociatedEquipS2DB equip).insertToDB fails db).1 result equips := rfl
      rw [hstep, ih]
      simp only [DBAssociatedEquip.insertToDB, runStatement_eq, List.map_cons, inserted,
        List.length_cons]
      cases fails db.executed <;> simp <;> omega

/-- The table of devices is rewritten with one row for each device. -/
theorem rewriteAssociatedEquips (db : Database) (result : Int) (equips : List AssociatedEquip) :
    insertAssociatedEquips fails (DBAssociatedEquip.deleteAllFromDB fails db).1 result equips =
      ({ tables := { db.tables with
            associatedEquip := rewritten fails db.executed db.tables.associatedEquip
              (equips.map convertAssociatedEquipS2DB) }
         executed := db.executed + 1 + equips.length }, result) := by
  rw [insertAssociatedEquips_eq, DBAssociatedEquip.deleteAllFromDB, runStatement_eq]
  simp only [rewritten]
  cases fails db.executed <;> simp

/-- The table of versions is rewritten if there is a version. -/
theorem writeDataVersion_eq (db : Database) (result : Int) (version time : String) :
    writeDataVersion fails db result version time =
      (if version = "" then db
        else ⟨{ db.tables with
          confVersion := rewritten fails db.executed db.tables.confVersion [⟨version, time⟩] },
          db.executed + 2⟩, result) := by
  unfold writeDataVersion
  split
  · rfl
  · simp only [DBDataVersion.rewrite, resultAfter_zero]

/-- A download writes the tables as far as its statements succeed, and always reports success. -/
theorem processR102_eq (before : Tables) (time : String) (data : R102) :
    processR102 fails { tables := before } time (some data) =
      (⟨data.written fails before time, data.statements⟩,
        some (S102.get "V1.0.0" data.guid 1 "ok"), true) := by
  simp only [processR102, DBBaseSet.rewrite, DBIntersection.rewrite, rewriteAssociatedEquips,
    writeDataVersion_eq, resultAfter_zero, ne_eq, not_true_eq_false, if_false, R102.written,
    R102.statements]
  split <;> simp

/-- A download without failures leaves the received configuration. -/
theorem written_of_none_fails {before : Tables} {time : String} {data : R102}
    (h : ∀ i < data.statements, fails i = false) :
    data.written fails before time = data.stored before time := by
  have hbound : 5 + data.associatedEquips.length ≤ data.statements := Nat.le_add_right _ _
  unfold R102.written R102.stored
  congr 1
  · split
    · rfl
    · rename_i hversion
      refine rewritten_of_none_fails fun k hk => h _ ?_
      simp only [List.length_singleton] at hk
      simp only [R102.statements, hversion, if_false]
      omega
  · refine rewritten_of_none_fails fun k hk => h _ ?_
    simp only [List.length_singleton] at hk
    omega
  · refine rewritten_of_none_fails fun k hk => h _ ?_
    simp only [List.length_singleton] at hk
    omega
  · refine rewritten_of_none_fails fun k hk => h _ ?_
    rw [List.length_map] at hk
    omega

/-- Tables that hold the received configuration still do behind a download exactly if of each table
all statements fail or none. -/
theorem written_same_iff {before : Tables} {time : String} {data : R102}
    (h : before = data.stored before time) :
    data.written fails before time = before ↔
      Uniform fails 0 2 ∧ Uniform fails 2 2 ∧
        Uniform fails 4 (data.associatedEquips.length + 1) ∧
        (data.dataVersion = "" ∨ Uniform fails (5 + data.associatedEquips.length) 2) := by
  have hconf : data.dataVersion ≠ "" → before.confVersion = [⟨data.dataVersion, time⟩] := by
    intro hversion
    rw [h]
    simp [R102.stored, hversion]
  have hbase : before.baseSet = [convertBaseSetS2DB data.baseSetting data.index] := by rw [h]; rfl
  have hintersection :
      before.belongIntersection = [convertIntersectionS2DB data.intersectionInfo] := by rw [h]; rfl
  have hequip :
      before.associatedEquip = data.associatedEquips.map convertAssociatedEquipS2DB := by
    rw [h]; rfl
  have hfields : data.written fails before time = before ↔
      (data.written fails before time).confVersion = before.confVersion ∧
        (data.written fails before time).baseSet = before.baseSet ∧
        (data.written fails before time).belongIntersection = before.belongIntersection ∧
        (data.written fails before time).associatedEquip = before.associatedEquip := by
    rw [← Tables.mk.injEq]
  have hversions : (data.written fails before time).confVersion = before.confVersion ↔
      data.dataVersion = "" ∨ Uniform fails (5 + data.associatedEquips.length) 2 := by
    simp only [R102.written]
    split
    · rename_i hversion
      simp [hversion]
    · rename_i hversion
      rw [hconf hversion, rewritten_self_iff]
      simp [hversion]
  rw [hfields, hversions]
  simp only [R102.written, hbase, hintersection, hequip, rewritten_self_iff,
    List.length_singleton, List.length_map]
  constructor
  · rintro ⟨hversion, hset, hinfo, hequips⟩
    exact ⟨hset, hinfo, hequips, hversion⟩
  · rintro ⟨hset, hinfo, hequips, hversion⟩
    exact ⟨hversion, hset, hinfo, hequips⟩

/-- A download is atomic if and only if its failures are harmless. -/
theorem atomic_iff (fails : Nat → Bool) (before : Tables) (time : String) (data : R102) :
    Atomic fails before time data ↔ Harmless fails before time data := by
  have hatomic : Atomic fails before time data ↔
      data.written fails before time = data.stored before time ∧
        ((∃ i < data.statements, fails i = true) →
          data.written fails before time = before) := by
    simp [Atomic, processR102_eq, S102.get]
  rw [hatomic, Harmless]
  by_cases hnone : ∀ i < data.statements, fails i = false
  · refine ⟨fun _ => .inl hnone, fun _ => ⟨written_of_none_fails hnone, ?_⟩⟩
    rintro ⟨i, hi, hfail⟩
    rw [hnone i hi] at hfail
    cases hfail
  · have hsome : ∃ i < data.statements, fails i = true := by
      by_contra h
      exact hnone fun i hi => by simpa using fun hfail => h ⟨i, hi, hfail⟩
    simp only [hsome, hnone, true_imp_iff, false_or]
    constructor
    · rintro ⟨hstored, hbefore⟩
      have hsame : before = data.stored before time := hbefore.symm.trans hstored
      exact ⟨hsame, (written_same_iff hsame).mp hbefore⟩
    · rintro ⟨hsame, huniform⟩
      have hbefore := (written_same_iff hsame).mpr huniform
      exact ⟨hbefore.trans hsame, hbefore⟩

/-- The second statement fails: the base settings are deleted and the new ones not inserted. -/
theorem not_atomic_insert_fails :
    ¬ Atomic (fun i => i = 1) { baseSet := [default] } "" default := by
  intro h
  have hbefore := h.2 ⟨1, by decide, rfl⟩
  have hlost : ([] : List DBBaseSet) = [default] := congrArg Tables.baseSet hbefore
  cases hlost

end RVDataFusionServer
