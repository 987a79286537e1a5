import RVDataFusionServer.Common.Numeric
import RVDataFusionServer.Common.Pkg
import RVDataFusionServer.Library.Execution

/-!
# Stage data from Kafka

The Kafka consumer (`KafkaConsumer.cpp`) and the request for stage data (`proc.cpp`), which share
the vector `dataUnitCrossStageData`. Both work on a copy of it, so that the vector stays empty:
`allRight_iff` says that a run answers all requests rightly exactly when it answers none behind a
message for this crossing. Texts of the log, and what becomes of a package behind `SendBase`, are
left out.
-/

namespace RVDataFusionServer

open Library Execution

/-- `TabStageFrameHeader`. -/
structure TabStageFrameHeader where
  header : List UInt8
  noTab : UInt8
  numByte : UInt8
  deriving DecidableEq, Repr

/-- `TabStage`. -/
structure TabStage where
  noArea : UInt8
  noJunc : UInt8
  noOldStage : UInt8
  lenOldStage : UInt8
  noNewStage : UInt8
  lenNewStage : UInt8
  newStageName : List UInt8
  deriving DecidableEq, Repr

/-- `sizeof(TabStageFrameHeader)`. -/
def sizeofTabStageFrameHeader : Nat := 6

/-- `sizeof(TabStage)`. -/
def sizeofTabStage : Nat := 46

/-- The header in the first bytes of a buffer. -/
def TabStageFrameHeader.ofBytes (bytes : List UInt8) : TabStageFrameHeader where
  header := bytes.take 4
  noTab := bytes.getD 4 0
  numByte := bytes.getD 5 0

/-- The stage data in the first bytes of a buffer. -/
def TabStage.ofBytes (bytes : List UInt8) : TabStage where
  noArea := bytes.getD 0 0
  noJunc := bytes.getD 1 0
  noOldStage := bytes.getD 2 0
  lenOldStage := bytes.getD 3 0
  noNewStage := bytes.getD 4 0
  lenNewStage := bytes.getD 5 0
  newStageName := (bytes.drop 6).take 40

/-- `CrossStageData`. The timestamp is the number of milliseconds that the `double` holds. -/
structure CrossStageData where
  oprNum : List UInt8 := []
  timestamp : Int := 0
  crossID : List UInt8 := []
  hardCode : List UInt8 := []
  lastStage : Int := -1
  lastStageDuration : Int := -1
  lastControlMode : Int := -1
  curStage : Int := -1
  curStageDuration : Int := -1
  curControlMode : Int := -1
  deriving DecidableEq, Repr

/-- What the consumer and the requests use of `Data`. -/
structure StageData where
  matrixNo : List UInt8
  plateId : List UInt8
  dataUnitCrossStageData : List CrossStageData := []
  deriving DecidableEq, Repr

/-- A message from Kafka, with what `err` says of it. -/
structure KafkaMessage where
  noError : Bool
  payload : List UInt8
  timestamp : Int
  deriving DecidableEq, Repr

/-- `_crossId_c`, which the constructor takes from the last three characters of the number of the
crossing. -/
def KafkaConsumer.crossIdC (crossId : List UInt8) : Except Fault UInt8 :=
  if crossId.length < 3 then .error (.threw "out_of_range")
  else .ok (UInt8.ofInt (strtol (crossId.drop (crossId.length - 3))))

example : KafkaConsumer.crossIdC [0x35, 0x31, 0x30, 0x30, 0x31, 0x37] = .ok 17 := by
  decide +kernel

/-- The tests of `ThreadConsume`: the stage data of a message, if it has some for this crossing.
`remain` is an `int` that is compared with a `size_t`. -/
def matchingStage (crossIdC : UInt8) (msg : KafkaMessage) : Option TabStage :=
  if ¬ msg.noError then none
  else if msg.payload.length < sizeofTabStageFrameHeader then none
  else
    let head := TabStageFrameHeader.ofBytes msg.payload
    let remain := Int32.ofNat msg.payload.length - Int32.ofNat sizeofTabStageFrameHeader
    if head.noTab ≠ 4 then none
    else if remain.toInt64.toUInt64.toNat < sizeofTabStage then none
    else
      let tabStage := TabStage.ofBytes (msg.payload.drop sizeofTabStageFrameHeader)
      if crossIdC = tabStage.noJunc then some tabStage else none

/-- The record that `ThreadConsume` makes of stage data. -/
def stageRecord (data : StageData) (oprNum : List UInt8) (timestamp : Int) (tabStage : TabStage) :
    CrossStageData where
  oprNum := oprNum
  crossID := data.plateId
  hardCode := data.matrixNo
  timestamp := timestamp
  lastStage := tabStage.noOldStage.toNat
  lastStageDuration := tabStage.lenOldStage.toNat
  curStage := tabStage.noNewStage.toNat
  curStageDuration := tabStage.lenNewStage.toNat

/-- The body of the loop of `ThreadConsume`. `dataUnit` is a copy of the vector in `data`, and the
second result is what it holds when the block ends and destroys it. -/
def threadConsume (crossIdC : UInt8) (data : StageData) (msg : KafkaMessage)
    (oprNum : List UInt8) : StageData × Option (List CrossStageData) :=
  match matchingStage crossIdC msg with
  | none => (data, none)
  | some tabStage =>
      let dataUnit := data.dataUnitCrossStageData
      let item := stageRecord data oprNum msg.timestamp tabStage
      let dataUnit := if dataUnit ≠ [] then dataUnit.eraseIdx 0 else dataUnit
      let dataUnit := dataUnit ++ [item]
      (data, some dataUnit)

/-- `judgeHardCode`, with the codes of the associated devices, up to the connection that it shuts
down. -/
def judgeHardCode (isUseJudgeHardCode : Bool) (associated : List (List UInt8))
    (hardCode : List UInt8) : Bool :=
  if isUseJudgeHardCode then associated.contains hardCode else true

/-- A request for stage data. `decoded` is its text as `json::decode` reads it, if it can. -/
structure StageRequest where
  decoded : Option CrossStageData
  isUseJudgeHardCode : Bool := true
  associated : List (List UInt8)
  oprNum : List UInt8
  timestamp : Int
  deriving DecidableEq, Repr

/-- The reply to a request: the record and the package that goes to `SendBase`. -/
structure StageReply where
  msgSend : CrossStageData
  pkg : Pkg

/-- `PkgProcessFun_CmdCrossStageData` up to `SendBase`: the reply, if there is one. -/
def cmdCrossStageData (encode : CrossStageData → List UInt8) (data : StageData) (sn : UInt64)
    (request : StageRequest) : Except Fault (Option StageReply) :=
  match request.decoded with
  | none => pure none
  | some msg =>
      if msg.hardCode = [] then pure none
      else if ¬ judgeHardCode request.isUseJudgeHardCode request.associated msg.hardCode then
        pure none
      else do
        let dataUnit := data.dataUnitCrossStageData
        let msgSend : CrossStageData :=
          match dataUnit.getLast? with
          | none =>
              { oprNum := request.oprNum
                crossID := data.plateId
                hardCode := data.matrixNo
                timestamp := request.timestamp }
          | some back => back
        let deviceNo ← deviceNoOf data.matrixNo
        pure (some ⟨msgSend, pkgWithoutCRC 0xfe sn.toUInt16 deviceNo (encode msgSend)⟩)

/-- The crossing between steps: the shared data, the number of replies, and the stage data of the
last message for this crossing. -/
structure Crossing where
  data : StageData
  sn : UInt64 := 0
  latest : Option TabStage := none

namespace Crossing

/-- What happens at the crossing: a message from Kafka, or a request. -/
inductive Input where
  | kafka (msg : KafkaMessage) (oprNum : List UInt8)
  | request (request : StageRequest)

/-- A reply, with the stage data of the last message for this crossing before it. -/
structure Answer where
  reply : StageReply
  latest : Option TabStage

variable (crossIdC : UInt8) (encode : CrossStageData → List UInt8)

/-- One step, with the answer to a request. -/
def step (s : Crossing) : Input → Crossing × Option Answer
  | .kafka msg oprNum =>
      ({ s with
        data := (threadConsume crossIdC s.data msg oprNum).1
        latest := (matchingStage crossIdC msg).or s.latest }, none)
  | .request request =>
      match cmdCrossStageData encode s.data s.sn request with
      | .ok (some reply) => ({ s with sn := s.sn + 1 }, some ⟨reply, s.latest⟩)
      | _ => (s, none)

/-- The crossing before the first message. -/
def start (matrixNo plateId : List UInt8) : Crossing where
  data := { matrixNo, plateId }

/-- The stage fields of a record. -/
def stage (record : CrossStageData) : Int × Int × Int × Int :=
  (record.lastStage, record.lastStageDuration, record.curStage, record.curStageDuration)

/-- The stage fields that a reply should have. -/
def expected : Option TabStage → Int × Int × Int × Int
  | none => (-1, -1, -1, -1)
  | some tabStage =>
      (tabStage.noOldStage.toNat, tabStage.lenOldStage.toNat, tabStage.noNewStage.toNat,
        tabStage.lenNewStage.toNat)

/-- A reply is right if it has the stage fields of the last message for this crossing, and those of
the default record exactly if there was none. -/
def Right (answer : Answer) : Prop :=
  stage answer.reply.msgSend = expected answer.latest ∧
    (stage answer.reply.msgSend = expected none ↔ answer.latest = none)

/-- A request is answered: it has a hard code, of an associated device, and the number of the
crossing is one. -/
def Answered (data : StageData) (request : StageRequest) : Prop :=
  (∃ msg, request.decoded = some msg ∧ msg.hardCode ≠ [] ∧
    judgeHardCode request.isUseJudgeHardCode request.associated msg.hardCode = true) ∧
    ∃ deviceNo, deviceNoOf data.matrixNo = .ok deviceNo

/-- The condition under which a step gives no wrong reply: if a request is answered, there has been
no message for this crossing. -/
def BeforeStages (s : Crossing) : Input → Prop
  | .kafka _ _ => True
  | .request request => Answered s.data request → s.latest = none

variable {crossIdC : UInt8} {encode : CrossStageData → List UInt8}

/-- The consumer does not change the shared vector. -/
theorem threadConsume_data (data : StageData) (msg : KafkaMessage) (oprNum : List UInt8) :
    (threadConsume crossIdC data msg oprNum).1 = data := by
  unfold threadConsume
  split <;> rfl

/-- The vector that the consumer throws away would have given the right reply. -/
theorem threadConsume_copy {data : StageData} {msg : KafkaMessage} {oprNum : List UInt8}
    {tabStage : TabStage} (h : matchingStage crossIdC msg = some tabStage) :
    ∃ dataUnit record, (threadConsume crossIdC data msg oprNum).2 = some dataUnit ∧
      dataUnit.getLast? = some record ∧ stage record = expected (some tabStage) := by
  simp [threadConsume, h, stage, stageRecord, expected]

/-- What the handler of a request does. -/
theorem cmdCrossStageData_cases (encode : CrossStageData → List UInt8) (data : StageData)
    (sn : UInt64) (request : StageRequest) :
    (Answered data request ∧ ∃ reply, cmdCrossStageData encode data sn request = .ok (some reply) ∧
      (data.dataUnitCrossStageData = [] → stage reply.msgSend = expected none)) ∨
    (¬ Answered data request ∧
      ∀ reply, cmdCrossStageData encode data sn request ≠ .ok (some reply)) := by
  unfold cmdCrossStageData Answered
  cases hdecoded : request.decoded with
  | none => exact .inr ⟨by simp, by simp [pure, Except.pure]⟩
  | some msg =>
      by_cases hcode : msg.hardCode = []
      · exact .inr ⟨by simp [hcode], by simp [hcode, pure, Except.pure]⟩
      by_cases hjudge : judgeHardCode request.isUseJudgeHardCode request.associated
          msg.hardCode = true
      · cases hdevice : deviceNoOf data.matrixNo with
        | error fault => exact .inr ⟨by simp, by simp [hcode, hjudge, bind, Except.bind]⟩
        | ok deviceNo =>
            refine .inl ⟨⟨⟨msg, rfl, hcode, hjudge⟩, deviceNo, rfl⟩, ?_⟩
            simp only [hcode, hjudge, if_false, not_true_eq_false, bind, Except.bind, pure,
              Except.pure]
            refine ⟨_, rfl, fun hempty => ?_⟩
            simp [hempty, stage, expected]
      · exact .inr ⟨by simp [hjudge], by simp [hcode, hjudge, pure, Except.pure]⟩

/-- A reply from the empty vector is right if and only if there was no message. -/
theorem right_iff {reply : StageReply} (h : stage reply.msgSend = expected none)
    (latest : Option TabStage) : Right ⟨reply, latest⟩ ↔ latest = none := by
  unfold Right
  simp only [h, true_iff, and_iff_right_iff_imp]
  rintro rfl
  rfl

/-- The shared vector stays empty. -/
theorem empty_step (s : Crossing) (input : Input) (h : s.data.dataUnitCrossStageData = []) :
    (step crossIdC encode s input).1.data.dataUnitCrossStageData = [] := by
  cases input with
  | kafka msg oprNum =>
      simp only [step, threadConsume_data]
      exact h
  | request request =>
      simp only [step]
      split <;> exact h

/-- A step gives no wrong reply if and only if it meets the condition. -/
theorem right_step_iff (s : Crossing) (input : Input) (h : s.data.dataUnitCrossStageData = []) :
    (∀ answer, (step crossIdC encode s input).2 = some answer → Right answer) ↔
      BeforeStages s input := by
  cases input with
  | kafka msg oprNum => simp [step, BeforeStages]
  | request request =>
      simp only [step, BeforeStages]
      rcases cmdCrossStageData_cases encode s.data s.sn request with
        ⟨hanswered, reply, hreply, hstage⟩ | ⟨hnot, hnone⟩
      · simp [hreply, hanswered, right_iff (hstage h)]
      · split
        · rename_i reply hreply
          exact absurd hreply (hnone reply)
        · simp [hnot]

/-- In a run, every reply has the stage fields of the last message for this crossing before it, or
the default ones if there was none, if and only if no request is answered behind a message for this
crossing. -/
theorem allRight_iff (crossIdC : UInt8) (encode : CrossStageData → List UInt8)
    (matrixNo plateId : List UInt8) (inputs : List Input) :
    (∀ output ∈ outputs (step crossIdC encode) (start matrixNo plateId) inputs,
      ∀ answer, output = some answer → Right answer) ↔
      Allowed (step crossIdC encode) BeforeStages (start matrixNo plateId) inputs :=
  forall_outputs_iff (fun s => s.data.dataUnitCrossStageData = [])
    (fun s input h => empty_step s input h) (fun s input h => right_step_iff s input h) rfl inputs

/-- A message for crossing 17: stage 1 lasted 30 seconds, stage 2 lasts 40. -/
def stageMessage : KafkaMessage where
  noError := true
  payload := [0, 0, 0, 0, 4, 46, 1, 17, 1, 30, 2, 40] ++ List.replicate 40 0
  timestamp := 1000

/-- A request from device `A`, which is associated. -/
def stageRequest : StageRequest where
  decoded := some { hardCode := [0x41] }
  associated := [[0x41]]
  oprNum := []
  timestamp := 2000

/-- The request comes behind the message. -/
theorem request_behind_message :
    ¬ ∀ output ∈ outputs (step 17 fun _ => [0x7b, 0x7d]) (start [0x31] [0x35, 0x31, 0x37])
        [.kafka stageMessage [], .request stageRequest],
      ∀ answer, output = some answer → Right answer := by
  intro h
  have hallowed := (forall_outputs_iff (fun s => s.data.dataUnitCrossStageData = [])
    (fun s input h => empty_step s input h) (fun s input h => right_step_iff s input h) rfl _).mp h
  have hnone := hallowed.2.1 ⟨⟨{ hardCode := [0x41] }, rfl, by simp, by decide⟩, 1, by decide⟩
  exact absurd hnone (by decide +kernel)

end Crossing

end RVDataFusionServer
