import RVDataFusionServer.Library.Rewriting

/-!
# The configuration database

The tables of `eoc_configure.db` that a configuration download writes, and the functions of
`eoc_configure.cpp` that delete and insert their rows. Each function runs one statement. A
statement has its effect or throws and has none, which the pattern `fails` decides by the number of
the statement.
-/

namespace RVDataFusionServer

/-- `DBDataVersion`, a row of `conf_version`. -/
structure DBDataVersion where
  version : String
  time : String
  deriving DecidableEq, Repr

/-- `DBBaseSet`, a row of `base_set`. -/
structure DBBaseSet where
  index : Int32
  city : String
  isUploadToPlatform : Int32
  is4Gmodel : Int32
  isIllegalCapture : Int32
  isPrintIntersectionName : Int32
  filesServicePath : String
  filesServicePort : Int32
  mainDNS : String
  alternateDNS : String
  platformTcpPath : String
  platformTcpPort : Int32
  platformHttpPath : String
  platformHttpPort : Int32
  signalMachinePath : String
  signalMachinePort : Int32
  isUseSignalMachine : Int32
  ntpServerPath : String
  fusionMainboardIp : String
  fusionMainboardPort : Int32
  illegalPlatformAddress : String
  remarks : String
  deriving DecidableEq, Repr, Inhabited

/-- `DBIntersection`, a row of `belong_intersection`. -/
structure DBIntersection where
  guid : String
  name : String
  type : Int32
  platId : String
  xLength : Float32
  yLength : Float32
  laneNumber : Int32
  latitude : String
  longitude : String
  flagEast : Int32
  flagSouth : Int32
  flagWest : Int32
  flagNorth : Int32
  deltaXEast : Float
  deltaYEast : Float
  deltaXSouth : Float
  deltaYSouth : Float
  deltaXWest : Float
  deltaYWest : Float
  deltaXNorth : Float
  deltaYNorth : Float
  widthX : Float
  widthY : Float
  deriving Inhabited

/-- `DBAssociatedEquip`, a row of `associated_equip`. -/
structure DBAssociatedEquip where
  equipType : Int32
  equipCode : String
  deriving DecidableEq, Repr

/-- The rows of the tables, without the keys that the database gives them. -/
structure Tables where
  confVersion : List DBDataVersion := []
  baseSet : List DBBaseSet := []
  belongIntersection : List DBIntersection := []
  associatedEquip : List DBAssociatedEquip := []

/-- The tables, and the number of statements that have been executed. -/
structure Database where
  tables : Tables
  executed : Nat := 0

/-- One of the functions of `eoc_configure.cpp`, with its return value. Its `catch` blocks set
`ret`, which is not what the function returns. -/
def runStatement (fails : Nat → Bool) (effect : Tables → Tables) (db : Database) :
    Database × Int :=
  let threw := fails db.executed
  let _ret : Int := if threw then -1 else 0
  ({ tables := if threw then db.tables else effect db.tables, executed := db.executed + 1 }, 0)

/-- `DBDataVersion::deleteFromDB`. -/
def DBDataVersion.deleteFromDB (fails : Nat → Bool) : Database → Database × Int :=
  runStatement fails fun tables => { tables with confVersion := [] }

/-- `DBDataVersion::insertToDB`. -/
def DBDataVersion.insertToDB (row : DBDataVersion) (fails : Nat → Bool) :
    Database → Database × Int :=
  runStatement fails fun tables => { tables with confVersion := tables.confVersion ++ [row] }

/-- `DBBaseSet::deleteFromDB`. -/
def DBBaseSet.deleteFromDB (fails : Nat → Bool) : Database → Database × Int :=
  runStatement fails fun tables => { tables with baseSet := [] }

/-- `DBBaseSet::insertToDB`. -/
def DBBaseSet.insertToDB (row : DBBaseSet) (fails : Nat → Bool) : Database → Database × Int :=
  runStatement fails fun tables => { tables with baseSet := tables.baseSet ++ [row] }

/-- `DBIntersection::deleteFromDB`. -/
def DBIntersection.deleteFromDB (fails : Nat → Bool) : Database → Database × Int :=
  runStatement fails fun tables => { tables with belongIntersection := [] }

/-- `DBIntersection::insertToDB`. -/
def DBIntersection.insertToDB (row : DBIntersection) (fails : Nat → Bool) :
    Database → Database × Int :=
  runStatement fails fun tables =>
    { tables with belongIntersection := tables.belongIntersection ++ [row] }

/-- `DBAssociatedEquip::deleteAllFromDB`. -/
def DBAssociatedEquip.deleteAllFromDB (fails : Nat → Bool) : Database → Database × Int :=
  runStatement fails fun tables => { tables with associatedEquip := [] }

/-- `DBAssociatedEquip::insertToDB`. -/
def DBAssociatedEquip.insertToDB (row : DBAssociatedEquip) (fails : Nat → Bool) :
    Database → Database × Int :=
  runStatement fails fun tables =>
    { tables with associatedEquip := tables.associatedEquip ++ [row] }

open Library.Rewriting

/-- A statement is counted and reported as a success, whether it fails or not. -/
theorem runStatement_eq (fails : Nat → Bool) (effect : Tables → Tables) (db : Database) :
    runStatement fails effect db =
      (⟨if fails db.executed then db.tables else effect db.tables, db.executed + 1⟩, 0) := rfl

variable {fails : Nat → Bool} (db : Database)

/-- The table of versions is rewritten with one row. -/
theorem DBDataVersion.rewrite (row : DBDataVersion) :
    row.insertToDB fails (deleteFromDB fails db).1 =
      (⟨{ db.tables with confVersion := rewritten fails db.executed db.tables.confVersion [row] },
        db.executed + 2⟩, 0) := by
  simp only [deleteFromDB, insertToDB, runStatement_eq, rewritten, inserted]
  cases fails db.executed <;> cases fails (db.executed + 1) <;> simp

/-- The table of base settings is rewritten with one row. -/
theorem DBBaseSet.rewrite (row : DBBaseSet) :
    row.insertToDB fails (deleteFromDB fails db).1 =
      (⟨{ db.tables with baseSet := rewritten fails db.executed db.tables.baseSet [row] },
        db.executed + 2⟩, 0) := by
  simp only [deleteFromDB, insertToDB, runStatement_eq, rewritten, inserted]
  cases fails db.executed <;> cases fails (db.executed + 1) <;> simp

/-- The table of crossings is rewritten with one row. -/
theorem DBIntersection.rewrite (row : DBIntersection) :
    row.insertToDB fails (deleteFromDB fails db).1 =
      (⟨{ db.tables with
          belongIntersection := rewritten fails db.executed db.tables.belongIntersection [row] },
        db.executed + 2⟩, 0) := by
  simp only [deleteFromDB, insertToDB, runStatement_eq, rewritten, inserted]
  cases fails db.executed <;> cases fails (db.executed + 1) <;> simp

end RVDataFusionServer
