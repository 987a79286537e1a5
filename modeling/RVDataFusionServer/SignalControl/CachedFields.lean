import RVDataFusionServer.Common.CrcRegister
import RVDataFusionServer.SignalControl.Bounds
import RVDataFusionServer.SignalControl.StuffedRoundTrip

/-!
# Fields that are updated before a frame is sent

`UpdateFrameLength` and `UpdateFrameCRC16` store a field in the frame, and `setToBytesWithTF` does
not compute it again. The checksum covers the length, so that `sent_accepted_iff` depends on which
of them was called last: a checksum that was stored before the length was is out of date.
-/

namespace RVDataFusionServer

open Library

namespace FrameAll

/-- The calls that store a field. -/
inductive Update where
  | length
  | crc16
  deriving DecidableEq, Repr

/-- `UpdateFrameLength` or `UpdateFrameCRC16`. -/
def update (frame : FrameAll) : Update → FrameAll
  | .length => frame.updateFrameLength
  | .crc16 => frame.updateFrameCRC16

/-- The frame after a sequence of calls. -/
def updated (frame : FrameAll) (updates : List Update) : FrameAll := updates.foldl update frame

/-- The bytes that are sent are accepted by every object that receives them. -/
def SentAccepted (frame : FrameAll) : Prop :=
  ∃ bytes, frame.setToBytesWithTF = .ok (0, bytes) ∧
    ∀ fresh : FrameAll, fresh.Fresh .udp →
      ∃ received, fresh.getFromBytesWithTF bytes true = .ok (0, received)

/-- The number of bytes behind the length and in front of the last byte. -/
def byteCount (frame : FrameAll) : Nat :=
  13 + (frame.dataItems.map fun item => 6 + item.data.length).sum

/-- The last checksum was computed over the length that is sent: `UpdateFrameLength` was called
before, or the frame had this length from the beginning. -/
def LengthBeforeCRC (frame : FrameAll) (updates : List Update) : Prop :=
  ∀ before after, updates = before ++ .crc16 :: after → .crc16 ∉ after →
    .length ∈ before ∨ frame.length = UInt16.ofNat frame.byteCount

variable {frame : FrameAll}

/-! ## The calls -/

/-- The checksum of the frame's own length and content. -/
theorem crc16_updateFrameCRC16_eq (frame : FrameAll) :
    frame.updateFrameCRC16.crc16 = crcUnder frame.length frame.content :=
  congrArg comFrameCRC16 (covered_eq frame.beginByte
    (highByte frame.length :: lowByte frame.length :: frame.content) (highByte frame.crc16)
    (lowByte frame.crc16) frame.endByte)

/-- The length that `UpdateFrameLength` stores. -/
theorem length_updateFrameLength_eq (hdata : ∀ item ∈ frame.dataItems, item.data.length ≤ 249) :
    frame.updateFrameLength.length = UInt16.ofNat frame.byteCount := by
  have hitems : ∀ item ∈ frame.dataItems,
      item.withLength.setToBytes.length = 6 + item.data.length := by
    intro item hitem
    have hfits := hdata item hitem
    exact DataItem.length_setToBytes_withLength (by omega)
  rw [length_updateFrameLength, length_content, List.length_flatMap, List.map_congr_left hitems,
    byteCount]
  congr 1
  omega

/-- The length that `UpdateFrameLength` stores does not depend on the fields that are stored. -/
theorem updateFrameLength_update (frame : FrameAll) (u : Update) :
    (frame.update u).updateFrameLength.length = frame.updateFrameLength.length := by
  rw [length_updateFrameLength, length_updateFrameLength]
  cases u with
  | length => rfl
  | crc16 => rfl

/-- What a sequence of calls leaves in the frame. -/
theorem updated_eq (frame : FrameAll) (updates : List Update) :
    ∃ length crc16, frame.updated updates =
      { frame with
        length, crc16
        isUpdateLength := frame.isUpdateLength || decide (.length ∈ updates)
        isUpdateCRC := frame.isUpdateCRC || decide (.crc16 ∈ updates) } ∧
      length = (if .length ∈ updates then frame.updateFrameLength.length else frame.length) ∧
      (.crc16 ∉ updates → crc16 = frame.crc16) := by
  induction updates generalizing frame with
  | nil => exact ⟨frame.length, frame.crc16, by simp [updated], by simp, fun _ => rfl⟩
  | cons u updates ih =>
      obtain ⟨length, crc16, hupdated, hlength, hcrc⟩ := ih (frame.update u)
      rw [updateFrameLength_update] at hlength
      refine ⟨length, crc16, hupdated.trans ?_, hlength.trans ?_, ?_⟩
      · cases u with
        | length => simp [update, updateFrameLength]
        | crc16 => simp [update, updateFrameCRC16]
      · cases u with
        | length => simp [update]
        | crc16 => simp [update, updateFrameCRC16]
      · intro hnone
        cases u with
        | length => exact hcrc fun hmem => hnone (List.mem_cons_of_mem _ hmem)
        | crc16 => exact absurd List.mem_cons_self hnone

/-- The checksum that was stored last is that of the length at that time. -/
theorem crc16_updated (frame : FrameAll) (before after : List Update) (hlast : .crc16 ∉ after) :
    (frame.updated (before ++ .crc16 :: after)).crc16 =
      crcUnder (frame.updated before).length frame.content := by
  have hcalls : frame.updated (before ++ .crc16 :: after) =
      (frame.updated before).updateFrameCRC16.updated after := List.foldl_append
  obtain ⟨_, crc16, hafter, -, hcrc⟩ := updated_eq (frame.updated before).updateFrameCRC16 after
  obtain ⟨_, _, hbefore, -, -⟩ := updated_eq frame before
  rw [hcalls, hafter]
  show crc16 = _
  rw [hcrc hlast, crc16_updateFrameCRC16_eq]
  conv_lhs => rw [hbefore]
  conv_rhs => rw [hbefore]
  rfl

/-- A call that was made was made last at some place. -/
theorem exists_last {updates : List Update} {u : Update} (h : u ∈ updates) :
    ∃ before after, updates = before ++ u :: after ∧ u ∉ after := by
  obtain ⟨front, back, hreverse, hnone⟩ := List.eq_append_cons_of_mem (List.mem_reverse.mpr h)
  refine ⟨back.reverse, front.reverse, ?_, by simpa using hnone⟩
  rw [← List.reverse_reverse updates, hreverse]
  simp

/-! ## The bytes that are sent -/

/-- The bytes of a frame with a given length and checksum. -/
def assembled (frame : FrameAll) (length crc : UInt16) : List UInt8 :=
  frame.beginByte :: highByte length :: lowByte length ::
    (frame.content ++ [highByte crc, lowByte crc, frame.endByte])

/-- The length that is sent is the stored one, or computed when the frame is sent. -/
def sentLength (frame : FrameAll) : UInt16 :=
  if frame.isUpdateLength then frame.length else frame.updateFrameLength.length

/-- The checksum that is sent is the stored one, or computed when the frame is sent. -/
def sentCRC (frame : FrameAll) : UInt16 :=
  if frame.isUpdateCRC then frame.crc16 else crcUnder frame.sentLength frame.content

/-- What a UDP frame sends. -/
theorem setToBytesWithTF_assembled (hcom : frame.comType = .udp) :
    frame.setToBytesWithTF = .ok (0, frame.assembled frame.sentLength frame.sentCRC) := by
  have hinner := eleven_le_length_content frame
  have hbytes : addTF frame.comType frame.setToBytes =
      .ok (frame.assembled frame.length frame.crc16) := by
    rw [hcom]
    simp [addTF, setToBytes, assembled]
  have hlength (length crc : UInt16) : (updateByteLength (frame.assembled length crc)).2 =
      frame.assembled frame.updateFrameLength.length crc := by
    rw [assembled, updateByteLength_eq _ _ _ (by simp; omega), length_updateFrameLength,
      show (frame.content ++ [highByte crc, lowByte crc, frame.endByte]).length - 1 =
        frame.content.length + 2 by simp]
    rfl
  have hcrc (length crc : UInt16) : (updateByteCRC16 (frame.assembled length crc)).2 =
      frame.assembled length (crcUnder length frame.content) := by
    have hmiddle : 13 ≤ (highByte length :: lowByte length :: frame.content).length := by
      simp only [List.length_cons]
      omega
    exact congrArg Prod.snd (updateByteCRC16_eq frame.beginByte hmiddle (highByte crc)
      (lowByte crc) frame.endByte)
  unfold setToBytesWithTF
  rw [hbytes, sentCRC, sentLength]
  refine congrArg (fun bytes => Except.ok (0, bytes)) ?_
  cases frame.isUpdateLength with
  | true =>
      cases frame.isUpdateCRC with
      | true => rfl
      | false => exact hcrc _ _
  | false =>
      cases frame.isUpdateCRC with
      | true => exact hlength _ _
      | false =>
          show (updateByteCRC16 (updateByteLength _).2).2 = _
          rw [hlength]
          exact hcrc _ _

/-- The bytes are accepted if their length is right and the checksum is that of this length. -/
theorem sentAccepted_iff (hcom : frame.comType = .udp)
    (hnum : frame.dataItemNum.toNat = frame.dataItems.length)
    (hdata : ∀ item ∈ frame.dataItems, item.data.length ≤ 249)
    (hlength : frame.sentLength = frame.updateFrameLength.length) :
    frame.SentAccepted ↔ frame.sentCRC = crcUnder frame.sentLength frame.content := by
  have hinner := eleven_le_length_content frame
  have hagrees : LengthAgrees (frame.assembled frame.sentLength frame.sentCRC) := by
    refine ⟨by simp [assembled]; omega, ?_⟩
    rw [show (frame.assembled frame.sentLength frame.sentCRC).length - 4 =
      frame.content.length + 2 by simp [assembled], ← length_updateFrameLength, ← hlength]
    exact (word16_highByte_lowByte _).symm
  have hcrc : ChecksumAgrees (frame.assembled frame.sentLength frame.sentCRC) ↔
      frame.sentCRC = crcUnder frame.sentLength frame.content := by
    have hiff := checksumAgrees_iff frame.beginByte
      (highByte frame.sentLength :: lowByte frame.sentLength :: frame.content)
      (highByte frame.sentCRC) (lowByte frame.sentCRC) frame.endByte
    rw [word16_highByte_lowByte] at hiff
    exact hiff.trans eq_comm
  rw [← hcrc]
  constructor
  · rintro ⟨bytes, hsent, hreceived⟩
    rw [setToBytesWithTF_assembled hcom] at hsent
    cases hsent
    obtain ⟨received, haccepted⟩ := hreceived (blank .udp) ⟨rfl, rfl, rfl, rfl⟩
    exact ((accepted_iff rfl).mp haccepted).2.2
  · intro hchecksum
    refine ⟨_, setToBytesWithTF_assembled hcom, ?_⟩
    intro fresh hfresh
    have hread := getFromBytes_eq fresh hnum hdata frame.beginByte (highByte frame.sentLength)
      (lowByte frame.sentLength) (highByte frame.sentCRC) (lowByte frame.sentCRC) frame.endByte []
    exact ⟨_, (accepted_iff hfresh.comType).mpr ⟨hagrees, hread, hchecksum⟩⟩

/-- Contents under two lengths have different checksums. -/
theorem crcUnder_injective {length other : UInt16} {content : List UInt8}
    (h : crcUnder length content = crcUnder other content) : length = other := by
  have hodd : (0x1005 : UInt16).toNat % 2 = 1 := rfl
  obtain ⟨hhigh, hlow⟩ := crc16Cal_pair_injective hodd h
  rw [← word16_highByte_lowByte length, hhigh, hlow, word16_highByte_lowByte]

/-- The length of the frame is right after some calls if one of them stored it, or it was so from
the beginning. -/
theorem length_updated_iff (frame : FrameAll) (updates : List Update) :
    (frame.updated updates).length = frame.updateFrameLength.length ↔
      .length ∈ updates ∨ frame.length = frame.updateFrameLength.length := by
  obtain ⟨length, crc16, hupdated, hlength, -⟩ := updated_eq frame updates
  rw [hupdated]
  show length = _ ↔ _
  rw [hlength]
  by_cases hmem : .length ∈ updates
  · simp [hmem]
  · simp [hmem]

/-- When the bytes of a UDP frame are accepted after any calls of `UpdateFrameLength` and
`UpdateFrameCRC16`: no checksum was stored, or the last one was stored with the right length in the
frame. -/
theorem sent_accepted_iff (hcom : frame.comType = .udp)
    (hupdateLength : frame.isUpdateLength = false) (hupdateCRC : frame.isUpdateCRC = false)
    (hnum : frame.dataItemNum.toNat = frame.dataItems.length)
    (hdata : ∀ item ∈ frame.dataItems, item.data.length ≤ 249) (updates : List Update) :
    (frame.updated updates).SentAccepted ↔ frame.LengthBeforeCRC updates := by
  obtain ⟨length, crc16, hupdated, hlength, -⟩ := updated_eq frame updates
  rw [hupdateLength, hupdateCRC, Bool.false_or, Bool.false_or] at hupdated
  rw [LengthBeforeCRC, ← length_updateFrameLength_eq hdata]
  have hcontent : (frame.updated updates).content = frame.content := by
    rw [hupdated]
    rfl
  have hright : (frame.updated updates).updateFrameLength.length =
      frame.updateFrameLength.length := by
    rw [length_updateFrameLength, hcontent, length_updateFrameLength]
  have hsent : (frame.updated updates).sentLength =
      (frame.updated updates).updateFrameLength.length := by
    rw [sentLength, hright, hupdated]
    by_cases hmem : .length ∈ updates
    · simp [hmem, hlength]
    · rw [← hright, hupdated]
      simp [hmem]
  have haccepted : (frame.updated updates).SentAccepted ↔ _ :=
    sentAccepted_iff (by rw [hupdated]; exact hcom) (by rw [hupdated]; exact hnum)
      (by rw [hupdated]; exact hdata) hsent
  rw [haccepted, sentCRC, hcontent]
  by_cases hmem : .crc16 ∈ updates
  · have hflag : (frame.updated updates).isUpdateCRC = true := by
      rw [hupdated]
      exact decide_eq_true hmem
    rw [if_pos hflag, hsent, hright]
    constructor
    · intro hcrc before after hsplit hlast
      rw [hsplit, crc16_updated frame before after hlast] at hcrc
      exact (length_updated_iff frame before).mp (crcUnder_injective hcrc)
    · intro hordered
      obtain ⟨before, after, hsplit, hlast⟩ := exists_last hmem
      rw [hsplit, crc16_updated frame before after hlast,
        (length_updated_iff frame before).mpr (hordered before after hsplit hlast)]
  · have hflag : (frame.updated updates).isUpdateCRC = false := by
      rw [hupdated]
      exact decide_eq_false hmem
    constructor
    · intro _ before after hsplit
      exact absurd (hsplit ▸ List.mem_append_right _ List.mem_cons_self) hmem
    · intro _
      rw [hflag]
      rfl

/-- When a request whose checksum alone was stored is accepted. -/
theorem sent_accepted_crc16 :
    ((setRequest .udp 0x01).updated [.crc16]).SentAccepted ↔
      (setRequest .udp 0x01).LengthBeforeCRC [.crc16] :=
  sent_accepted_iff rfl rfl rfl rfl (by decide) [.crc16]

/-- It is refused: the checksum was computed with the length 0. -/
theorem not_sent_accepted_crc16 : ¬ ((setRequest .udp 0x01).updated [.crc16]).SentAccepted := by
  rintro ⟨bytes, hsent, hreceived⟩
  have hbytes : ((setRequest .udp 0x01).updated [.crc16]).setToBytesWithTF = .ok (0,
      ((setRequest .udp 0x01).updated [.crc16]).assembled 20
        (crcUnder 0 (setRequest .udp 0x01).content)) := by
    decide +kernel
  rw [hbytes] at hsent
  cases hsent
  obtain ⟨received, haccepted⟩ := hreceived (blank .udp) ⟨rfl, rfl, rfl, rfl⟩
  have hrefused : ((blank .udp).getFromBytesWithTF
      (((setRequest .udp 0x01).updated [.crc16]).assembled 20
        (crcUnder 0 (setRequest .udp 0x01).content)) true).map Prod.fst = .ok (-1) := by
    decide +kernel
  rw [haccepted] at hrefused
  cases hrefused

end FrameAll

end RVDataFusionServer
