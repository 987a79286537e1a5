import RVDataFusionServer.Common.Numeric
import RVDataFusionServer.Data.ReSendQueue
import RVDataFusionServer.Queue

/-!
# The tasks that send alarms

`taskO` of the data units for jams, overflows and abnormal stops (`DataUnit.cpp`), which are one
task with three command types, and the system that they are part of: three output queues, the
clients and the resend queue that they share. What the task writes to disk is left out.

`allKept_iff` says when no alarm is lost: exactly when every call that takes an alarm out of its
queue finds the client connected, or the resend queue full.
-/

namespace RVDataFusionServer

open Library Execution

/-- What the tasks read of an alarm: its time, and the text into which it is encoded. -/
class Alarm (O : Type) where
  timestamp : O → UInt64
  encode : O → List UInt8

/-- The output side of a data unit. -/
structure AlarmUnit (O : Type) where
  oQueue : Queue O := {}
  sn : Int32 := 0

/-- The data units for which the resend queue is declared. -/
inductive AlarmKind where
  | crossTrafficJam
  | intersectionOverflow
  | abnormalStop
  deriving DecidableEq, Repr

/-- `cmdType` of the items of a data unit. -/
def AlarmKind.cmdType : AlarmKind → UInt8
  | .crossTrafficJam => 0x04
  | .intersectionOverflow => 0x06
  | .abnormalStop => 0x05

/-- What `taskO` has done with the item that it took: the package, the return value of `SendBase`
if it was called, and the resend queue before and behind the call. -/
structure Popped (O : Type) where
  item : O
  pkg : Pkg
  ret : Option Int
  before : ReSendQueue
  after : ReSendQueue

/-- What the data units share: the clients and the resend queue. -/
structure Shared where
  clientList : ClientList
  reSendQueue : ReSendQueue := {}

section Task

variable {O : Type} [Alarm O]

/-- The message under which `taskO` queues a package that was not sent. -/
def resendMsg (pkg : Pkg) (timestamp : UInt64) : Msg where
  name := "client2"
  pkg := pkg
  timestampFrame := timestamp
  type := .count
  threshold := 2

/-- The three tasks, with the command type of their items. An alarm is queued at the time
`added`. The first result is the data unit with the item taken out. -/
def taskO (cmdType : UInt8) (config : ReconnectConfig) (matrixNo : List UInt8)
    (unit : AlarmUnit O) (shared : Shared) (env : SendEnv) (added : UInt64) :
    Except Fault (AlarmUnit O × Shared × Option (Popped O)) :=
  match unit.oQueue.pop with
  | none => pure (unit, shared, none)
  | some (item, oQueue) => do
      let deviceNo ← deviceNoOf matrixNo
      let pkg := pkgWithoutCRC cmdType unit.sn.toUInt32.toUInt16 deviceNo (Alarm.encode item)
      let unit : AlarmUnit O := { oQueue, sn := unit.sn + 1 }
      let (clientList, ret) ← shared.clientList.sendTo config "client2" pkg env
      let reSendQueue :=
        match ret with
        | none => shared.reSendQueue
        | some ret =>
            if ret ≠ 0 then (shared.reSendQueue.add (resendMsg pkg (Alarm.timestamp item)) added).1
            else shared.reSendQueue
      pure (unit, { clientList, reSendQueue },
        some { item, pkg, ret, before := shared.reSendQueue, after := reSendQueue })

/-- `DataUnitCrossTrafficJamAlarm::taskO`. -/
def DataUnitCrossTrafficJamAlarm.taskO (config : ReconnectConfig) (matrixNo : List UInt8)
    (unit : AlarmUnit O) (shared : Shared) (env : SendEnv) (added : UInt64) :
    Except Fault (AlarmUnit O × Shared × Option (Popped O)) :=
  RVDataFusionServer.taskO 0x04 config matrixNo unit shared env added

/-- `DataUnitIntersectionOverflowAlarm::taskO`. -/
def DataUnitIntersectionOverflowAlarm.taskO (config : ReconnectConfig) (matrixNo : List UInt8)
    (unit : AlarmUnit O) (shared : Shared) (env : SendEnv) (added : UInt64) :
    Except Fault (AlarmUnit O × Shared × Option (Popped O)) :=
  RVDataFusionServer.taskO 0x06 config matrixNo unit shared env added

/-- `DataUnitAbnormalStopData::taskO`. -/
def DataUnitAbnormalStopData.taskO (config : ReconnectConfig) (matrixNo : List UInt8)
    (unit : AlarmUnit O) (shared : Shared) (env : SendEnv) (added : UInt64) :
    Except Fault (AlarmUnit O × Shared × Option (Popped O)) :=
  RVDataFusionServer.taskO 0x05 config matrixNo unit shared env added

end Task

/-- The data units with the clients and the resend queue. `log` is what the resend queue has
attempted, and an exception that leaves a task ends the program. -/
structure AlarmSystem (Item : AlarmKind → Type) where
  units : (kind : AlarmKind) → AlarmUnit (Item kind)
  shared : Shared
  log : List Attempt := []
  terminated : Bool := false

namespace AlarmSystem

variable {Item : AlarmKind → Type} [∀ kind, Alarm (Item kind)]

/-- What happens in the system: a data unit gets an alarm, its task runs, or the resend queue makes
a pass. -/
inductive Input (Item : AlarmKind → Type) where
  | pushO (kind : AlarmKind) (item : Item kind)
  | taskO (kind : AlarmKind) (env : SendEnv) (added : UInt64)
  | resend (env : Nat → SendEnv)

/-- The task of a data unit. -/
def taskOf (kind : AlarmKind) : ReconnectConfig → List UInt8 → AlarmUnit (Item kind) → Shared →
    SendEnv → UInt64 →
      Except Fault (AlarmUnit (Item kind) × Shared × Option (Popped (Item kind))) :=
  match kind with
  | .crossTrafficJam => DataUnitCrossTrafficJamAlarm.taskO
  | .intersectionOverflow => DataUnitIntersectionOverflowAlarm.taskO
  | .abnormalStop => DataUnitAbnormalStopData.taskO

/-- One step, with the item that a task has taken. -/
def step (config : ReconnectConfig) (matrixNo : List UInt8) (s : AlarmSystem Item) :
    Input Item → AlarmSystem Item × Option ((kind : AlarmKind) × Popped (Item kind))
  | .pushO kind item =>
      let unit := s.units kind
      let pushed := { unit with oQueue := (unit.oQueue.push item).1 }
      ({ s with units := Function.update s.units kind pushed }, none)
  | .taskO kind env added =>
      if s.terminated then (s, none)
      else
        match taskOf kind config matrixNo (s.units kind) s.shared env added with
        | .error _ => ({ s with terminated := true }, none)
        | .ok (unit, shared, popped) =>
            ({ s with units := Function.update s.units kind unit, shared },
              popped.map fun popped => ⟨kind, popped⟩)
  | .resend env =>
      if s.terminated then (s, none)
      else
        match Resending.pass config ⟨s.shared.clientList, s.shared.reSendQueue, s.log⟩ env with
        | .error _ => ({ s with terminated := true }, none)
        | .ok after =>
            ({ s with shared := ⟨after.clientList, after.queue⟩, log := after.log }, none)

/-- An item was sent, or it is the new last message of the resend queue, or that was full. -/
def Kept {O : Type} [Alarm O] (popped : Popped O) : Prop :=
  popped.ret = some 0 ∨
    (∃ msg, popped.after.msgQueue = popped.before.msgQueue ++ [msg] ∧ msg.name = "client2" ∧
      msg.pkg = popped.pkg ∧ msg.timestampFrame = Alarm.timestamp popped.item ∧
      msg.type = .count ∧ msg.threshold = 2) ∨
    popped.before.Full

/-- The condition under which a step loses no alarm: a task that takes an item finds the client
connected, or the resend queue full. -/
def Ready (matrixNo : List UInt8) (s : AlarmSystem Item) : Input Item → Prop
  | .pushO _ _ => True
  | .resend _ => True
  | .taskO kind env _ =>
      s.terminated = false → (s.units kind).oQueue.pop.isSome →
        (∃ deviceNo, deviceNoOf matrixNo = .ok deviceNo) →
          s.shared.clientList.Connected "client2" env ∨ s.shared.reSendQueue.Full

/-- The three tasks are one task with three command types. -/
theorem taskOf_eq (kind : AlarmKind) :
    taskOf kind = RVDataFusionServer.taskO (O := Item kind) kind.cmdType := by
  cases kind <;> rfl

/-- What a task that takes an item does with it. -/
theorem taskO_spec {O : Type} [Alarm O] (cmdType : UInt8) (config : ReconnectConfig)
    (matrixNo : List UInt8) {deviceNo : UInt32} (hdevice : deviceNoOf matrixNo = .ok deviceNo)
    {unit : AlarmUnit O} {item : O} {rest : Queue O} (hpop : unit.oQueue.pop = some (item, rest))
    (shared : Shared) (env : SendEnv) (added : UInt64) :
    ∃ unit' shared' popped,
      taskO cmdType config matrixNo unit shared env added = .ok (unit', shared', some popped) ∧
        (Kept popped ↔ shared.clientList.Connected "client2" env ∨ shared.reSendQueue.Full) := by
  obtain ⟨clientList, ret, hsend, hconnected⟩ := shared.clientList.sendTo_spec config "client2"
    (pkgWithoutCRC cmdType unit.sn.toUInt32.toUInt16 deviceNo (Alarm.encode item)) env
  simp only [taskO, hpop, hdevice, hsend, bind, Except.bind, pure, Except.pure]
  refine ⟨_, _, _, rfl, ?_⟩
  rw [← hconnected]
  cases ret with
  | none => simp [Kept]
  | some ret =>
      by_cases hret : ret = 0
      · simp [Kept, hret]
      · by_cases hfull : shared.reSendQueue.Full
        · simp [Kept, hfull]
        · simp [Kept, hret, ReSendQueue.add, hfull, resendMsg]

/-- A step loses no alarm if and only if it meets the condition. -/
theorem kept_step_iff (config : ReconnectConfig) (matrixNo : List UInt8) (s : AlarmSystem Item)
    (input : Input Item) :
    (∀ popped, (step config matrixNo s input).2 = some popped → Kept popped.2) ↔
      Ready matrixNo s input := by
  cases input with
  | pushO kind item => simp [step, Ready]
  | resend env =>
      simp only [step, Ready, iff_true]
      split
      · simp
      · split <;> simp
  | taskO kind env added =>
      simp only [step, Ready, taskOf_eq]
      by_cases hterminated : s.terminated = true
      · simp [hterminated]
      cases hpop : (s.units kind).oQueue.pop with
      | none => simp [hterminated, taskO, hpop, pure, Except.pure]
      | some taken =>
          cases hdevice : deviceNoOf matrixNo with
          | error fault =>
              simp [hterminated, taskO, hpop, hdevice, bind, Except.bind]
          | ok deviceNo =>
              obtain ⟨unit, shared, popped, htask, hkept⟩ :=
                taskO_spec kind.cmdType config matrixNo hdevice hpop s.shared env added
              simp [hterminated, htask, ← hkept]

/-- In a run of the system, every item that a task takes is sent or queued for resending, if the
resend queue has room, if and only if every call that takes an item finds the client connected or
the resend queue full. -/
theorem allKept_iff (config : ReconnectConfig) (matrixNo : List UInt8) (s : AlarmSystem Item)
    (inputs : List (Input Item)) :
    (∀ output ∈ outputs (step config matrixNo) s inputs,
      ∀ popped, output = some popped → Kept popped.2) ↔
      Allowed (step config matrixNo) (Ready matrixNo) s inputs :=
  forall_outputs_iff (fun _ => True) (fun _ _ _ => trivial)
    (fun s input _ => kept_step_iff config matrixNo s input) trivial inputs

/-- An alarm as its time and its text. -/
structure EncodedAlarm where
  timestamp : UInt64
  text : List UInt8

instance : Alarm EncodedAlarm where
  timestamp alarm := alarm.timestamp
  encode alarm := alarm.text

/-- No alarms yet, and a client that needs a reconnect. -/
def disconnected : AlarmSystem fun _ => EncodedAlarm where
  units _ := {}
  shared := ⟨fun _ => some {}, {}⟩

/-- A jam is reported while the client needs a reconnect. -/
theorem lost_while_disconnected :
    ¬ ∀ output ∈ outputs (step {} [0x30, 0x31, 0x32, 0x33, 0x34, 0x35, 0x36, 0x37, 0x38, 0x39])
        disconnected
        [.pushO .crossTrafficJam ⟨1000, [0x7b, 0x7d]⟩,
          .taskO .crossTrafficJam { outcome := .returned 17 } 1001],
      ∀ popped, output = some popped → Kept popped.2 := by
  intro h
  have hallowed := (forall_outputs_iff (fun _ => True) (fun _ _ _ => trivial)
    (fun s input _ => kept_step_iff _ _ s input) trivial _).mp h
  have hready := hallowed.2.1 rfl rfl ⟨123456789, by decide +kernel⟩
  rcases hready with ⟨conn, hfound, hneed⟩ | hfull
  · obtain rfl : { } = conn := Option.some.inj hfound
    cases hneed
  · exact absurd hfull (by decide +kernel)

end AlarmSystem

end RVDataFusionServer
