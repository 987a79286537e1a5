import RVDataFusionServer.SignalControl.Codec

/-!
# Frames over UDP

A frame without escapes: `setToBytesWithTF` puts the length and the checksum into the bytes, and
`getFromBytesWithTF` gives the frame back with these fields at the values that `UpdateFrameLength`
and `UpdateFrameCRC16` compute.
-/

namespace RVDataFusionServer

namespace FrameAll

/-- A frame object before it receives anything. All other members are overwritten or, as in the
source, start with any value. -/
structure Fresh (comType : ComType) (frame : FrameAll) : Prop where
  isUpdateLength : frame.isUpdateLength = false
  isUpdateCRC : frame.isUpdateCRC = false
  comType : frame.comType = comType
  dataItems : frame.dataItems = []

/-- The frame with its lengths and its checksum as they are computed. -/
def computed (frame : FrameAll) : FrameAll :=
  { frame with
    length := frame.updateFrameLength.length
    dataItems := frame.dataItems.map DataItem.withLength
    crc16 := frame.updateFrameLength.updateFrameCRC16.crc16 }

variable {frame : FrameAll}

theorem length_updateFrameLength :
    frame.updateFrameLength.length = UInt16.ofNat (frame.content.length + 2) := by
  have hcount : frame.setToBytes.length - 4 = frame.content.length + 2 := by
    simp [setToBytes]
  show UInt16.ofNat (frame.setToBytes.length - 4) = _
  rw [hcount]

/-- The checksum that `UpdateFrameCRC16` computes when the length is up to date. -/
theorem crc16_updateFrameCRC16 :
    frame.updateFrameLength.updateFrameCRC16.crc16 =
      comFrameCRC16 (highByte (UInt16.ofNat (frame.content.length + 2)) ::
        lowByte (UInt16.ofNat (frame.content.length + 2)) :: frame.content) := by
  show comFrameCRC16 (covered frame.updateFrameLength.setToBytes) = _
  rw [← length_updateFrameLength]
  exact congrArg comFrameCRC16 (covered_eq frame.beginByte
    (highByte frame.updateFrameLength.length :: lowByte frame.updateFrameLength.length ::
      frame.content) (highByte frame.crc16) (lowByte frame.crc16) frame.endByte)

theorem eleven_le_length_content (frame : FrameAll) : 11 ≤ frame.content.length := by
  rw [length_content]
  exact Nat.le_add_right _ _

/-- What a UDP frame that was not updated sends. -/
theorem setToBytesWithTF_udp (hcom : frame.comType = .udp)
    (hupdateLength : frame.isUpdateLength = false) (hupdateCRC : frame.isUpdateCRC = false) :
    frame.setToBytesWithTF =
      .ok (0, enclose frame.beginByte frame.content frame.endByte) := by
  have hbytes := updateBytes_eq frame.beginByte (highByte frame.length) (lowByte frame.length)
    (eleven_le_length_content frame) (highByte frame.crc16) (lowByte frame.crc16) frame.endByte
  unfold setToBytesWithTF
  rw [hcom, hupdateLength, hupdateCRC]
  exact congrArg (fun bytes => Except.ok (0, bytes)) hbytes

/-- Items of at most 255 bytes. -/
theorem length_items_le {items : List DataItem} (h : ∀ item ∈ items, item.data.length ≤ 249) :
    (items.flatMap fun item => item.withLength.setToBytes).length ≤ 255 * items.length := by
  induction items with
  | nil => exact Nat.le_refl 0
  | cons item items ih =>
      have hitem := h item List.mem_cons_self
      have hrest := ih fun other hother => h other (List.mem_cons_of_mem item hother)
      have hfits : item.data.length ≤ 251 := by omega
      have hlength := DataItem.length_setToBytes_withLength hfits
      rw [List.flatMap_cons, List.length_append, List.length_cons]
      omega

/-- A UDP frame that was not updated is sent and received as the frame with its computed fields.
With at most 255 items of at most 249 data bytes no encoding is longer than 65042 bytes, so that
the length field holds the length itself. -/
theorem udp_round_trip {fresh : FrameAll} (hfresh : fresh.Fresh .udp)
    (hcom : frame.comType = .udp) (hupdateLength : frame.isUpdateLength = false)
    (hupdateCRC : frame.isUpdateCRC = false)
    (hnum : frame.dataItemNum.toNat = frame.dataItems.length)
    (hdata : ∀ item ∈ frame.dataItems, item.data.length ≤ 249) :
    ∃ bytes, frame.setToBytesWithTF = .ok (0, bytes) ∧
      fresh.getFromBytesWithTF bytes true = .ok (0, frame.computed) ∧
      frame.computed.length.toNat = bytes.length - 4 ∧
      ∀ item ∈ frame.computed.dataItems, item.length.toNat = 4 + item.data.length := by
  have hinner := eleven_le_length_content frame
  refine ⟨enclose frame.beginByte frame.content frame.endByte, ?_, ?_, ?_, ?_⟩
  · exact setToBytesWithTF_udp hcom hupdateLength hupdateCRC
  · have hudp : removeTF fresh.comType (enclose frame.beginByte frame.content frame.endByte) =
        .ok (enclose frame.beginByte frame.content frame.endByte) := by
      rw [hfresh.comType]
      rfl
    refine (getFromBytesWithTF_enclose_iff hinner hudp).mpr ⟨⟨0, ?_⟩, ?_⟩
    · have hread := getFromBytes_eq fresh hnum hdata frame.beginByte
        (highByte (UInt16.ofNat (frame.content.length + 2)))
        (lowByte (UInt16.ofNat (frame.content.length + 2)))
        (highByte frame.updateFrameLength.updateFrameCRC16.crc16)
        (lowByte frame.updateFrameLength.updateFrameCRC16.crc16) frame.endByte []
      rw [word16_highByte_lowByte, word16_highByte_lowByte, hfresh.dataItems,
        hfresh.isUpdateLength, hfresh.isUpdateCRC, hfresh.comType] at hread
      rw [enclose, ← crc16_updateFrameCRC16]
      refine hread.trans ?_
      rw [computed, length_updateFrameLength, hcom, hupdateLength, hupdateCRC]
      rfl
    · exact (checksumAgrees_iff _ _ _ _ _).mpr (word16_highByte_lowByte _).symm
  · have hcontent := frame.length_content
    have hitems := length_items_le hdata
    have hcount := frame.dataItemNum.toNat_lt
    have hlt : frame.content.length + 2 < 2 ^ 16 := by omega
    show frame.updateFrameLength.length.toNat = _
    rw [length_updateFrameLength, length_enclose, UInt16.toNat_ofNat_of_lt' hlt]
    rfl
  · intro item hitem
    obtain ⟨original, horiginal, rfl⟩ := List.mem_map.mp hitem
    have hfits := hdata original horiginal
    rw [DataItem.toNat_length_withLength (by omega), DataItem.withLength_eq]

/-- A request that sets one byte, with members without a value at 0. -/
def setRequest (comType : ComType) (byte : UInt8) : FrameAll where
  comType
  length := 0
  version := 0x0102
  controlCenterID := 1
  roadTrafficSignalControllerID := 1
  roadID := 1
  sequence := 1
  type := 0x30
  dataItemNum := 1
  dataItems := [{ index := 1, typeID := 2, objID := 3, attrID := 4, data := [byte] }]
  crc16 := 0

/-- A frame object with members without a value at 0. -/
def blank (comType : ComType) : FrameAll where
  comType
  length := 0
  version := 0
  controlCenterID := 0
  roadTrafficSignalControllerID := 0
  roadID := 0
  sequence := 0
  type := 0
  dataItemNum := 0
  crc16 := 0

/-- A request with a byte that is a mark of the protocol, which UDP does not escape. -/
theorem udp_round_trip_mark :
    ∃ bytes, (setRequest .udp 0x7e).setToBytesWithTF = .ok (0, bytes) ∧
      (blank .udp).getFromBytesWithTF bytes true = .ok (0, (setRequest .udp 0x7e).computed) ∧
      (setRequest .udp 0x7e).computed.length.toNat = bytes.length - 4 ∧
      ∀ item ∈ (setRequest .udp 0x7e).computed.dataItems,
        item.length.toNat = 4 + item.data.length :=
  udp_round_trip ⟨rfl, rfl, rfl, rfl⟩ rfl rfl rfl rfl (by decide)

end FrameAll

end RVDataFusionServer
