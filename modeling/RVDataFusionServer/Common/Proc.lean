import RVDataFusionServer.Common.CacheTimestamp
import RVDataFusionServer.Data.FusedTargets
import RVDataFusionServer.Data.LanePurity
import RVDataFusionServer.MyTcp.Conns

/-!
# The handlers of the packages

A `MyTcpServerHandler` has a thread that takes its packages one by one and calls the handler that
`PkgProcessMap` (`proc.cpp`) has for the command. A handler that takes a frame judges the time and
the code of the frame, throws out a peer whose code is not in the table of associated devices, finds
a lane and pushes the frame there; for three of the commands it also measures the interval of the
frames and starts a thread, which initialises the data unit once the interval is known. `Reception`
is the state that all these threads share, and `step` interleaves them at the places where they
take a lock or give one up.

`FindIndexInUnOrder` takes no lock. Its search through the table and the entry of a code are two
steps here, and each of the two is one.

The lambda of a started thread captures the locals of its handler by reference. If the handler has
returned when the thread comes to `init`, the place of the locals can hold anything. Here it holds
nothing, or some data unit and interval that the environment chooses; other damage to the memory is
not modelled.
-/

namespace RVDataFusionServer

/-- A frame of `WatchData` names its direction, a frame of another data unit has any. -/
class Directed (I : Type) where
  direction : I → Int32

export Directed (direction)

instance : Directed TrafficFlow where
  direction _ := 0

/-- What the handlers read of `localConfig`, and the codes of `g_AssociatedEquips`. None of it
changes once the server runs. -/
structure ProcConfig where
  mode : Int32 := 0
  roadNum : Nat := 8
  thresholdTimeRecv : Int32 := 60 * 3
  isUseThresholdTimeRecv : Bool := true
  isUseJudgeHardCode : Bool := true
  associatedEquips : List String := []

/-- `isAssociatedEquip`. -/
def ProcConfig.isAssociatedEquip (config : ProcConfig) (code : String) : Bool :=
  if config.associatedEquips.isEmpty then false
  else config.associatedEquips.any fun equipCode => equipCode = code

/-- `judgeHardCode`, but for throwing out the peer. -/
def ProcConfig.judgeHardCode (config : ProcConfig) (code : String) : Bool :=
  if config.isUseJudgeHardCode then config.isAssociatedEquip code else true

/-- `judgeTimestamp` at a time of the clock. -/
def ProcConfig.judgeTimestamp (config : ProcConfig) (now timestamp : Nat) : Bool :=
  if config.isUseThresholdTimeRecv then
    decide ((((now : Int) - timestamp).natAbs : Int) < (1000 * config.thresholdTimeRecv).toInt)
  else true

variable {I O : Type}

/-- What the search of `FindIndexInUnOrder` ends with: the index of the lane, which is -1 if there
is none, or the first lane that no code has. -/
inductive LaneSearch where
  | known (index : Int)
  | free (i : Nat)
  deriving DecidableEq, Repr

namespace DataUnit

/-- The search of `FindIndexInUnOrder`. -/
def searchUnOrder (unit : DataUnit I O) (code : String) : LaneSearch :=
  match unit.unOrder.findIdx? (· = code) with
  | some alreadyExistIndex => .known alreadyExistIndex
  | none =>
      match unit.unOrder.findIdx? (· = "") with
      | some i => .free i
      | none => .known (-1)

/-- What `FindIndexInUnOrder` does with a free lane. -/
def assignUnOrder (unit : DataUnit I O) (code : String) (i : Nat) : DataUnit I O :=
  { unit with unOrder := unit.unOrder.set i code }

/-- The search and what is done with a free lane are `FindIndexInUnOrder`, if nothing comes between
them. -/
theorem findIndexInUnOrder_eq_search (unit : DataUnit I O) (code : String) :
    unit.findIndexInUnOrder code =
      match unit.searchUnOrder code with
      | .known index => (unit, index)
      | .free i => (unit.assignUnOrder code i, i) := by
  unfold findIndexInUnOrder searchUnOrder
  cases unit.unOrder.findIdx? (· = code) with
  | some alreadyExistIndex => rfl
  | none => cases unit.unOrder.findIdx? (· = "") <;> rfl

end DataUnit

/-- A handler of `PkgProcessMap`. All those that take a frame have the body of `Reception.run`, and
they differ in whether they look at the mode and at the timestamp, in how they find a lane, if they
store the frame at all, and in how many timestamps they measure the interval of the frames by. -/
structure PkgProcessFun (I O : Type) where
  judgeMode : ProcConfig → Bool
  judgesTimestamp : Bool
  lane : Option (DataUnit I O → I → LaneSearch)
  caches : Option Nat
  ctIndex : I → Int → Int32

section Handlers

variable [HardCoded I]

/-- A handler that finds the lane by the code of the frame. -/
def processToLaneOfCode (caches : Option Nat) : PkgProcessFun I O where
  judgeMode _ := true
  judgesTimestamp := true
  lane := some fun unit frame => unit.searchUnOrder (hardCode frame)
  caches := caches
  ctIndex _ index := Int32.ofInt index

/-- A handler that stores nothing. -/
def processWithoutLane (judgesTimestamp : Bool) : PkgProcessFun I O where
  judgeMode _ := true
  judgesTimestamp := judgesTimestamp
  lane := none
  caches := none
  ctIndex _ index := Int32.ofInt index

/-- `PkgProcessFun_CmdFusionData`: the lane is that of the direction. -/
def PkgProcessFun.cmdFusionData [Directed I] : PkgProcessFun I O where
  judgeMode config := config.mode != 2
  judgesTimestamp := true
  lane := some fun _ frame =>
    match roadDirection.findIdx? (· = direction frame) with
    | some index => .known index
    | none => .known (-1)
  caches := some 15
  ctIndex frame _ := direction frame

/-- `PkgProcessFun_CmdCrossTrafficJamAlarm`. -/
def PkgProcessFun.cmdCrossTrafficJamAlarm : PkgProcessFun I O := processToLaneOfCode none

/-- `PkgProcessFun_CmdAbnormalStopData`. -/
def PkgProcessFun.cmdAbnormalStopData : PkgProcessFun I O := processToLaneOfCode none

/-- `PkgProcessFun_CmdIntersectionOverflowAlarm`. -/
def PkgProcessFun.cmdIntersectionOverflowAlarm : PkgProcessFun I O := processToLaneOfCode none

/-- `PkgProcessFun_CmdTrafficFlowGather`. -/
def PkgProcessFun.cmdTrafficFlowGather : PkgProcessFun I O := processToLaneOfCode (some 3)

/-- `PkgProcessFun_CmdInWatchData_1_3_4`. -/
def PkgProcessFun.cmdInWatchData134 : PkgProcessFun I O := processToLaneOfCode none

/-- `PkgProcessFun_CmdInWatchData_2`. -/
def PkgProcessFun.cmdInWatchData2 : PkgProcessFun I O := processToLaneOfCode none

/-- `PkgProcessFun_CmdStopLinePassData`. -/
def PkgProcessFun.cmdStopLinePassData : PkgProcessFun I O := processToLaneOfCode none

/-- `PkgProcessFun_CmdLongDistanceOnSolidLineAlarm`. -/
def PkgProcessFun.cmdLongDistanceOnSolidLineAlarm : PkgProcessFun I O := processToLaneOfCode none

/-- `PkgProcessFun_CmdHumanData`. -/
def PkgProcessFun.cmdHumanData : PkgProcessFun I O := processToLaneOfCode none

/-- `PkgProcessFun_CmdHumanLitPoleData`. -/
def PkgProcessFun.cmdHumanLitPoleData : PkgProcessFun I O := processToLaneOfCode (some 3)

/-- `PkgProcessFun_CmdTrafficDetectorStatus`. -/
def PkgProcessFun.cmdTrafficDetectorStatus : PkgProcessFun I O := processToLaneOfCode none

/-- `PkgProcessFun_0xf1`, up to what it sends to the signal controller. -/
def PkgProcessFun.cmd0xf1 : PkgProcessFun I O := processWithoutLane true

/-- `PkgProcessFun_0xf2`. -/
def PkgProcessFun.cmd0xf2 : PkgProcessFun I O := processWithoutLane true

/-- `PkgProcessFun_0xf3`. -/
def PkgProcessFun.cmd0xf3 : PkgProcessFun I O := processWithoutLane true

/-- `PkgProcessFun_CmdCrossStageData`, up to its answer: it does not look at the timestamp. -/
def PkgProcessFun.cmdCrossStageData : PkgProcessFun I O := processWithoutLane false

/-- `PkgProcessMap`, without the commands that carry no frame. -/
def pkgProcessMap [Directed I] (cmd : UInt8) : Option (PkgProcessFun I O) :=
  match cmd with
  | 0x03 => some .cmdFusionData
  | 0x04 => some .cmdCrossTrafficJamAlarm
  | 0x05 => some .cmdAbnormalStopData
  | 0x06 => some .cmdIntersectionOverflowAlarm
  | 0x07 => some .cmdTrafficFlowGather
  | 0x08 => some .cmdInWatchData134
  | 0x09 => some .cmdInWatchData2
  | 0x0a => some .cmdStopLinePassData
  | 0x0b => some .cmdLongDistanceOnSolidLineAlarm
  | 0x0c => some .cmdHumanData
  | 0x0d => some .cmdHumanLitPoleData
  | 0x0e => some .cmdTrafficDetectorStatus
  | 0xf1 => some .cmd0xf1
  | 0xf2 => some .cmd0xf2
  | 0xf3 => some .cmd0xf3
  | 0xfe => some .cmdCrossStageData
  | _ => none

end Handlers

/-- What the thread of a handler does next with its frame. -/
inductive Stage where
  | judgeHardCode
  | deleteFromConns
  | lane
  | assign (i : Nat)
  | update (index : Int)
  | startTask (index : Int)
  | pushI (index : Int)
  deriving DecidableEq, Repr

/-- A frame in the thread of the handler at a pointer. -/
structure Work (I : Type) where
  pointer : Nat
  cmd : UInt8
  frame : I
  stage : Stage

/-- A thread that a handler has started for a command and that has not called `init` yet, with the
pointer of the handler, and whether that has returned since. -/
structure InitThread where
  pointer : Nat
  cmd : UInt8
  returned : Bool
  deriving DecidableEq, Repr

/-- What the threads of the handlers share: the handlers, the frame that each is working on, the
data unit of each command, its `CacheTimestamp` with `isStartTask`, and the started threads. -/
structure Reception (I O : Type) where
  registry : Registry := {}
  work : List (Work I) := []
  unit : UInt8 → DataUnit I O
  ct : UInt8 → CacheTimestamp := fun _ => {}
  isStartTask : UInt8 → Bool := fun _ => false
  starting : List InitThread := []

namespace Reception

/-- What happens: a peer connects, a handler that is not working is destroyed, a handler takes a
package at a time of the clock, the `k`-th of the working ones goes on, the `k`-th of the started
threads calls `init`, or a task takes a frame from a lane. In the place of the locals of a handler
that has returned a started thread finds `stale`: the data unit of a command and an interval, or
nothing of the kind. -/
inductive Input (I : Type) where
  | accept (pointer : Nat) (peerAddress : String)
  | release (pointer : Nat)
  | receive (pointer : Nat) (cmd : UInt8) (frame : I) (now : Nat)
  | run (k : Nat)
  | init (k : Nat) (stale : Option (UInt8 × Int32))
  | eraseBegin (cmd : UInt8) (index : Nat)

/-- What a step does: a handler throws its peer out, a timestamp goes to a `CacheTimestamp`, or a
data unit is initialised with an interval. -/
inductive Event where
  | dismissed (pointer : Nat)
  | updated (cmd : UInt8) (call : CacheTimestamp.Call)
  | initialised (cmd : UInt8) (fs : Int32)
  deriving DecidableEq, Repr

/-- The data units of `Data::instance`. Those that are initialised at the start take 10 frames in a
lane. -/
def instanceUnit [Inhabited I] (config : ProcConfig) (cmd : UInt8) : DataUnit I O :=
  match cmd with
  | 0x03 => DataUnit.setCapNumI {} 15 config.roadNum
  | 0x07 => DataUnit.setCapNumI {} 3 config.roadNum
  | 0x0d => DataUnit.setCapNumI {} 3 config.roadNum
  | 0x04 => DataUnit.init {} 10 500 config.roadNum 1 (10 * 1000)
  | _ => DataUnit.init {} 10 500 config.roadNum 1 10

/-- The server before the first connection. -/
def start [Inhabited I] (config : ProcConfig) : Reception I O where
  unit := instanceUnit config

variable [Timestamped I] [HardCoded I] [Directed I]

/-- The thread of a handler takes a package and decodes it: a frame that comes in a wrong mode, too
early or too late or without a code is dropped. -/
def receive (config : ProcConfig) (s : Reception I O) (pointer : Nat) (cmd : UInt8) (frame : I)
    (now : Nat) : Reception I O :=
  match (pkgProcessMap cmd : Option (PkgProcessFun I O)) with
  | none => s
  | some process =>
      if !process.judgeMode config then s
      else if process.judgesTimestamp && !config.judgeTimestamp now (timestamp frame) then s
      else if hardCode frame = "" then s
      else { s with work := s.work ++ [{ pointer, cmd, frame, stage := .judgeHardCode }] }

/-- The next stage of the thread that is the `k`-th at work. -/
def goto (s : Reception I O) (k : Nat) (w : Work I) (stage : Stage) : Reception I O :=
  { s with work := s.work.set k { w with stage } }

/-- The handler of the `k`-th thread at work returns. What it has started loses its locals. -/
def finish (s : Reception I O) (k : Nat) (w : Work I) : Reception I O :=
  { s with
    work := s.work.eraseIdx k
    starting := s.starting.map fun thread =>
      if thread.pointer = w.pointer then { thread with returned := true } else thread }

/-- A handler has found the lane of its frame. -/
def found (s : Reception I O) (k : Nat) (w : Work I) (process : PkgProcessFun I O)
    (index : Int) : Reception I O × Option Event :=
  if index = -1 ∨ ((s.unit w.cmd).numI : Int) ≤ index then (s.finish k w, none)
  else if process.caches.isSome then (s.goto k w (.update index), none)
  else (s.goto k w (.pushI index), none)

/-- A thread goes on to the next place where it takes a lock, or to the next access of the table. -/
def run (config : ProcConfig) (s : Reception I O) (k : Nat) (w : Work I)
    (process : PkgProcessFun I O) : Reception I O × Option Event :=
  match w.stage with
  | .judgeHardCode =>
      if config.judgeHardCode (hardCode w.frame) then
        match process.lane with
        | none => (s.finish k w, none)
        | some _ => (s.goto k w .lane, none)
      else (s.goto k w .deleteFromConns, none)
  | .deleteFromConns =>
      match s.registry.deref w.pointer with
      | none => (s.finish k w, none)
      | some handler =>
          ({ s.finish k w with registry := s.registry.deleteFromConns handler.peerAddress },
            some (.dismissed w.pointer))
  | .lane =>
      match process.lane with
      | none => (s.finish k w, none)
      | some lane =>
          match lane (s.unit w.cmd) w.frame with
          | .known index => s.found k w process index
          | .free i => (s.goto k w (.assign i), none)
  | .assign i =>
      let unit := (s.unit w.cmd).assignUnOrder (hardCode w.frame) i
      { s with unit := Function.update s.unit w.cmd unit }.found k w process i
  | .update index =>
      match process.caches with
      | none => (s.goto k w (.startTask index), none)
      | some caches =>
          let call : CacheTimestamp.Call :=
            ⟨process.ctIndex w.frame index, UInt64.ofNat (timestamp w.frame)⟩
          let ct := (s.ct w.cmd).update call.index call.timestamp (Int32.ofNat caches)
          ({ s with ct := Function.update s.ct w.cmd ct }.goto k w (.startTask index),
            some (.updated w.cmd call))
  | .startTask index =>
      if (s.ct w.cmd).isSetInterval && !s.isStartTask w.cmd then
        ({ s with
            isStartTask := Function.update s.isStartTask w.cmd true
            starting := s.starting ++ [InitThread.mk w.pointer w.cmd false] }.goto k w
              (.pushI index), none)
      else (s.goto k w (.pushI index), none)
  | .pushI index =>
      ({ s.finish k w with
          unit := Function.update s.unit w.cmd ((s.unit w.cmd).pushI w.frame index.toNat).1 }, none)

/-- The data unit and the interval that a started thread gets from the captured locals. The interval
is converted to an `int`. -/
def captured (s : Reception I O) (thread : InitThread) (stale : Option (UInt8 × Int32)) :
    Option (UInt8 × Int32) :=
  if thread.returned then stale
  else some (thread.cmd, (s.ct thread.cmd).interval.toUInt32.toInt32)

/-- The thread that a handler has started calls `init`. -/
def callInit [Inhabited I] (config : ProcConfig) (s : Reception I O) (k : Nat)
    (thread : InitThread) (caches : Nat) (stale : Option (UInt8 × Int32)) :
    Reception I O × Option Event :=
  match s.captured thread stale with
  | none => ({ s with starting := s.starting.eraseIdx k }, none)
  | some (cmd, fs) =>
      ({ s with
          unit := Function.update s.unit cmd ((s.unit cmd).init caches fs config.roadNum caches 10)
          starting := s.starting.eraseIdx k }, some (.initialised cmd fs))

/-- No thread works for the handler at a pointer. -/
def Idle (s : Reception I O) (pointer : Nat) : Prop :=
  ∀ w ∈ s.work, w.pointer ≠ pointer

instance (s : Reception I O) (pointer : Nat) : Decidable (s.Idle pointer) :=
  inferInstanceAs (Decidable (∀ w ∈ s.work, w.pointer ≠ pointer))

/-- One step. The destructor of a handler waits for its thread. -/
def step [Inhabited I] (config : ProcConfig) (s : Reception I O) :
    Input I → Reception I O × Option Event
  | .accept pointer peerAddress =>
      ({ s with registry := s.registry.accept pointer peerAddress }, none)
  | .release pointer =>
      if s.Idle pointer then ({ s with registry := s.registry.release pointer }, none)
      else (s, none)
  | .receive pointer cmd frame now =>
      if (s.registry.deref pointer).isSome && s.Idle pointer then
        (s.receive config pointer cmd frame now, none)
      else (s, none)
  | .run k =>
      match s.work[k]? with
      | none => (s, none)
      | some w =>
          match pkgProcessMap w.cmd with
          | none => (s, none)
          | some process => s.run config k w process
  | .init k stale =>
      match s.starting[k]? with
      | none => (s, none)
      | some thread =>
          match (pkgProcessMap thread.cmd : Option (PkgProcessFun I O)).bind
            PkgProcessFun.caches with
          | none => (s, none)
          | some caches => s.callInit config k thread caches stale
  | .eraseBegin cmd index =>
      ({ s with unit := Function.update s.unit cmd ((s.unit cmd).eraseBeginI index) }, none)

end Reception

end RVDataFusionServer
