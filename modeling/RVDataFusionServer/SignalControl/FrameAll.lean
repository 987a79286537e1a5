import Mathlib.Tactic.Ring
import RVDataFusionServer.Common.Crc
import RVDataFusionServer.SignalControl.TransferMean

/-!
# Frames of the signal controller protocol

`DataItem` and `FrameAll` of `signalControlCom.h` with their codecs. A frame is sent with the high
byte of a number first. The vectors of the source are lists, and an access by `operator[]` or by
iterators that leaves one is the fault `outOfBounds`.
-/

namespace RVDataFusionServer

open Library

/-! ## Numbers of several bytes -/

/-- The byte of a 16-bit number that is sent first. -/
def highByte (value : UInt16) : UInt8 := ((value &&& 0xff00) >>> 8).toUInt8

/-- The byte of a 16-bit number that is sent last. -/
def lowByte (value : UInt16) : UInt8 := (value &&& 0x00ff).toUInt8

/-- A 16-bit number from its bytes. -/
def word16 (high low : UInt8) : UInt16 := (high.toUInt16 <<< 8) + low.toUInt16

/-- The bytes of a 32-bit number in the order in which they are sent. -/
def bytes32 (value : UInt32) : List UInt8 :=
  [((value &&& 0xff000000) >>> 24).toUInt8, ((value &&& 0x00ff0000) >>> 16).toUInt8,
    ((value &&& 0x0000ff00) >>> 8).toUInt8, (value &&& 0x000000ff).toUInt8]

/-- A 32-bit number from its bytes. -/
def word32 (b3 b2 b1 b0 : UInt8) : UInt32 :=
  (b3.toUInt32 <<< 24) + (b2.toUInt32 <<< 16) + (b1.toUInt32 <<< 8) + b0.toUInt32

/-! ## The frame -/

/-- `CRC16` of the namespace `ComFrame_GBT20999_2017`. -/
def comFrameCRC16 (data : List UInt8) : UInt16 :=
  if data = [] then 0 else crc16Cal data 0x1005 0x0000 0x0000 0

/-- `ComType`. -/
inductive ComType where
  | tcp
  | udp
  | rs232
  deriving DecidableEq, Repr

/-- `DataItem`. The two fields without a default in the source start at 0 here. -/
structure DataItem where
  index : UInt8 := 0
  length : UInt8 := 0
  typeID : UInt8 := 0
  objID : UInt8 := 0
  attrID : UInt8 := 0
  elementID : UInt8 := 0
  data : List UInt8 := []
  deriving DecidableEq, Repr

/-- `FrameAll`. Only the flags, `comType` and the two marks have a default. -/
structure FrameAll where
  isUpdateLength : Bool := false
  isUpdateCRC : Bool := false
  comType : ComType := .udp
  beginByte : UInt8 := 0x7e
  length : UInt16
  version : UInt16
  controlCenterID : UInt8
  roadTrafficSignalControllerID : UInt32
  roadID : UInt8
  sequence : UInt8
  type : UInt8
  dataItemNum : UInt8
  dataItems : List DataItem := []
  crc16 : UInt16
  endByte : UInt8 := 0x7d
  deriving DecidableEq, Repr

/-- The escape byte. -/
def escapeByte : UInt8 := 0x5c

/-- The bytes that are escaped. -/
def needSet : List UInt8 := [0x7e, 0x7d, 0x5c]

/-- `DataItem::getFromBytes`: the return value and the item. -/
def DataItem.getFromBytes (item : DataItem) (input : List UInt8) : Except Fault (Int × DataItem) :=
  match input with
  | index :: length :: rest =>
      if length = 0 then .ok (0, { item with index, length })
      else
        match rest with
        | typeID :: objID :: attrID :: elementID :: data =>
            .ok (0, { index, length, typeID, objID, attrID, elementID,
                      data := if data = [] then item.data else data })
        | _ => .error .outOfBounds
  | _ => .ok (-1, item)

/-- `DataItem::setToBytes`. -/
def DataItem.setToBytes (item : DataItem) : List UInt8 :=
  if item.length = 0 then [item.index, item.length]
  else
    [item.index, item.length, item.typeID, item.objID, item.attrID, item.elementID] ++ item.data

/-- The check of an item's length before it is sent. -/
def DataItem.withLength (item : DataItem) : DataItem :=
  if item.length.toNat ≠ 4 + item.data.length then
    { item with length := UInt8.ofNat (4 + item.data.length) }
  else item

/-- The items of `FrameAll::getFromBytes`, from the bytes at `index` on, and the bytes behind them.
The length of an item's bytes is a `uint8_t`. -/
def dataItemsFromBytes : Nat → List UInt8 → Except Fault (List DataItem × List UInt8)
  | 0, input => .ok ([], input)
  | count + 1, input =>
      match input with
      | _ :: length :: _ =>
          let dataItemLen := (length + 2).toNat
          if input.length < dataItemLen then .error .outOfBounds
          else do
            -- an item that cannot be read is put into the frame as well
            let (_, dataItem) ← DataItem.getFromBytes {} (input.take dataItemLen)
            let (dataItems, rest) ← dataItemsFromBytes count (input.drop dataItemLen)
            pure (dataItem :: dataItems, rest)
      | _ => .error .outOfBounds

namespace FrameAll

/-- `FrameAll::getFromBytes`: the return value and the frame. The items are put behind those that
the frame has. -/
def getFromBytes (frame : FrameAll) (input : List UInt8) : Except Fault (Int × FrameAll) :=
  if input.length < 17 then .ok (-1, frame)
  else
    match input with
    | beginByte :: length1 :: length0 :: version1 :: version0 :: controlCenterID ::
        id3 :: id2 :: id1 :: id0 :: roadID :: sequence :: type :: dataItemNum :: rest => do
        let (dataItems, rest) ← dataItemsFromBytes dataItemNum.toNat rest
        match rest with
        | crc1 :: crc0 :: endByte :: _ =>
            pure (0,
              { frame with
                beginByte
                length := word16 length1 length0
                version := word16 version1 version0
                controlCenterID
                roadTrafficSignalControllerID := word32 id3 id2 id1 id0
                roadID, sequence, type, dataItemNum
                dataItems := frame.dataItems ++ dataItems
                crc16 := word16 crc1 crc0
                endByte })
        | _ => .error .outOfBounds
    | _ => .error .outOfBounds

/-- The part of a frame's bytes between the length and the checksum. -/
def content (frame : FrameAll) : List UInt8 :=
  [highByte frame.version, lowByte frame.version, frame.controlCenterID] ++
    bytes32 frame.roadTrafficSignalControllerID ++
    [frame.roadID, frame.sequence, frame.type, frame.dataItemNum] ++
    frame.dataItems.flatMap fun item => item.withLength.setToBytes

/-- `FrameAll::setToBytes`. -/
def setToBytes (frame : FrameAll) : List UInt8 :=
  [frame.beginByte, highByte frame.length, lowByte frame.length] ++ frame.content ++
    [highByte frame.crc16, lowByte frame.crc16, frame.endByte]

/-- The bytes from the second one to the fourth last one, which the checksum covers. -/
def covered (bytes : List UInt8) : List UInt8 := (bytes.take (bytes.length - 3)).drop 1

/-- `FrameAll::UpdateFrameLength`. -/
def updateFrameLength (frame : FrameAll) : FrameAll :=
  { frame with length := UInt16.ofNat (frame.setToBytes.length - 4), isUpdateLength := true }

/-- `FrameAll::UpdateFrameCRC16`. -/
def updateFrameCRC16 (frame : FrameAll) : FrameAll :=
  { frame with crc16 := comFrameCRC16 (covered frame.setToBytes), isUpdateCRC := true }

/-- `FrameAll::UpdateByteLength`: the return value and the bytes. -/
def updateByteLength (bytes : List UInt8) : Int × List UInt8 :=
  if bytes.length < 17 then (-1, bytes)
  else
    let value16 := UInt16.ofNat (bytes.length - 4)
    (0, (bytes.set 1 (highByte value16)).set 2 (lowByte value16))

/-- `FrameAll::UpdateByteCRC16`: the return value and the bytes. -/
def updateByteCRC16 (bytes : List UInt8) : Int × List UInt8 :=
  if bytes.length < 17 then (-1, bytes)
  else
    let value16 := comFrameCRC16 (covered bytes)
    (0, (bytes.set (bytes.length - 3) (highByte value16)).set (bytes.length - 2)
      (lowByte value16))

/-- The bytes to send with the escapes, which a UDP frame does not have. -/
def addTF (comType : ComType) (bytes : List UInt8) : Except Fault (List UInt8) :=
  if comType ≠ .udp then transferMean bytes escapeByte needSet else .ok bytes

/-- The received bytes without the escapes. -/
def removeTF (comType : ComType) (bytes : List UInt8) : Except Fault (List UInt8) :=
  if comType ≠ .udp then deTransferMean bytes escapeByte needSet else .ok bytes

/-- `FrameAll::getFromBytesWithTF`: the return value and the frame. At least 9 bytes are left of 17
when the escapes are taken out, so that no `at` throws. -/
def getFromBytesWithTF (frame : FrameAll) (input : List UInt8) (isCheckCRC : Bool) :
    Except Fault (Int × FrameAll) :=
  if input.length < 17 then .ok (-1, frame)
  else if UInt16.ofNat (input.length - 4) ≠ word16 (input.getD 1 0) (input.getD 2 0) then
    .ok (-1, frame)
  else do
    let bytes ← removeTF frame.comType input
    -- nobody looks at the return value of `getFromBytes`
    let (_, frame) ← frame.getFromBytes bytes
    if isCheckCRC = true ∧ comFrameCRC16 (covered bytes) ≠
        word16 (bytes.getD (bytes.length - 3) 0) (bytes.getD (bytes.length - 2) 0) then
      pure (-1, frame)
    else pure (0, frame)

/-- `FrameAll::setToBytesWithTF`: the return value and the bytes. -/
def setToBytesWithTF (frame : FrameAll) : Except Fault (Int × List UInt8) := do
  let bytes ← addTF frame.comType frame.setToBytes
  -- the fields that are updated now are not escaped any more
  let bytes := if frame.isUpdateLength then bytes else (updateByteLength bytes).2
  let bytes := if frame.isUpdateCRC then bytes else (updateByteCRC16 bytes).2
  pure (0, bytes)

end FrameAll

end RVDataFusionServer
