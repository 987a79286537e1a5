import RVDataFusionServer.SignalControl.Canonical

/-!
# The frame codec over all lengths of items

The length of an item is one byte, which leaves room for 251 data bytes, and `setToBytes` writes
that many. `getFromBytes` adds 2 to the length in one byte, so that `plain_round_trip_iff` holds up
to 249 data bytes only.
-/

namespace RVDataFusionServer

open Library

namespace FrameAll

/-- The frame in another object, which keeps its flags and its communication type. -/
def inObject (frame fresh : FrameAll) : FrameAll :=
  { frame with
    isUpdateLength := fresh.isUpdateLength
    isUpdateCRC := fresh.isUpdateCRC
    comType := fresh.comType }

/-- A frame is restored from its bytes in every object without items. -/
def PlainRoundTrip (frame : FrameAll) : Prop :=
  ∀ fresh : FrameAll, fresh.dataItems = [] →
    fresh.getFromBytes frame.setToBytes = .ok (0, frame.inObject fresh)

variable {frame : FrameAll}

/-- Items whose lengths are right are written as they are. -/
theorem map_withLength_eq {items : List DataItem}
    (h : ∀ item ∈ items, item.length.toNat = 4 + item.data.length) :
    items.map DataItem.withLength = items := by
  have heach : ∀ item ∈ items, item.withLength = id item := fun item hitem =>
    if_neg (not_not.mpr (h item hitem))
  rw [List.map_congr_left heach, List.map_id]

/-- A frame of items with at most 249 data bytes is restored. -/
theorem plainRoundTrip_of_le (hnum : frame.dataItemNum.toNat = frame.dataItems.length)
    (hlength : ∀ item ∈ frame.dataItems, item.length.toNat = 4 + item.data.length)
    (hdata : ∀ item ∈ frame.dataItems, item.data.length ≤ 249) : frame.PlainRoundTrip := by
  intro fresh hfresh
  have hread := getFromBytes_eq fresh hnum hdata frame.beginByte (highByte frame.length)
    (lowByte frame.length) (highByte frame.crc16) (lowByte frame.crc16) frame.endByte []
  rw [word16_highByte_lowByte, word16_highByte_lowByte, hfresh, map_withLength_eq hlength] at hread
  have hbytes : frame.setToBytes = frame.beginByte :: highByte frame.length ::
      lowByte frame.length :: (frame.content ++
        [highByte frame.crc16, lowByte frame.crc16, frame.endByte]) := by
    simp [setToBytes]
  rw [hbytes]
  exact hread

/-- The items that the bytes of a frame declare are looked for behind its header. -/
theorem declaredItems_setToBytes (frame : FrameAll) :
    declaredItems frame.setToBytes = takeRecords itemSize frame.dataItemNum.toNat
      (frame.dataItems.flatMap itemBytes ++
        [highByte frame.crc16, lowByte frame.crc16, frame.endByte]) :=
  rfl

/-- When a frame is restored, its items were read whole, and so have at most 249 data bytes. -/
theorem le_of_plainRoundTrip
    (hlength : ∀ item ∈ frame.dataItems, item.length.toNat = 4 + item.data.length)
    (h : frame.PlainRoundTrip) : ∀ item ∈ frame.dataItems, item.data.length ≤ 249 := by
  have hlong : 17 ≤ frame.setToBytes.length := by
    have hcontent := eleven_le_length_content frame
    simp only [setToBytes, List.length_append, List.length_cons, List.length_nil]
    omega
  obtain ⟨records, crc1, crc0, endByte, behind, hrecords, -, hresult⟩ :=
    (getFromBytes_iff hlong).mp (h (blank .udp) rfl)
  have hitems : frame.dataItems = records.map .ofRecord := congrArg dataItems hresult
  rw [declaredItems_setToBytes] at hrecords
  obtain ⟨hwhole, -⟩ := whole_of_flatMap_itemBytes hrecords (by rw [hitems])
  intro item hitem
  have hthis := hlength item hitem
  have hbyte := item.length.toNat_lt
  have hfits : item.data.length ≤ 251 := by omega
  have hcount : (itemBytes item).length = 6 + item.data.length :=
    DataItem.length_setToBytes_withLength hfits
  rw [hitems] at hitem
  obtain ⟨record, hrecord, rfl⟩ := List.mem_map.mp hitem
  obtain ⟨hbytes, hle⟩ := itemBytes_ofRecord hrecords hrecord (hwhole record hrecord)
  rw [hbytes] at hcount
  omega

/-- When a frame is restored from its bytes. The lengths of its items already say that none has
more than 251 data bytes. -/
theorem plain_round_trip_iff (hnum : frame.dataItemNum.toNat = frame.dataItems.length)
    (hlength : ∀ item ∈ frame.dataItems, item.length.toNat = 4 + item.data.length) :
    frame.PlainRoundTrip ↔ ∀ item ∈ frame.dataItems, item.data.length ≤ 249 := by
  constructor
  · exact le_of_plainRoundTrip hlength
  · exact plainRoundTrip_of_le hnum hlength

/-- A frame with one item of `count` data bytes. -/
def itemOf (count : Nat) : FrameAll :=
  { blank .udp with
    dataItemNum := 1
    dataItems := [{ index := 1, length := UInt8.ofNat (4 + count),
                    data := List.replicate count 0 }] }

/-- When the frame with 250 data bytes is restored. -/
theorem plain_round_trip_250 :
    (itemOf 250).PlainRoundTrip ↔ ∀ item ∈ (itemOf 250).dataItems, item.data.length ≤ 249 :=
  plain_round_trip_iff rfl (by decide +kernel)

/-- It is not: no byte is taken for its item. -/
theorem not_plain_round_trip_250 : ¬ (itemOf 250).PlainRoundTrip := by
  intro h
  have hread : ((blank .udp).getFromBytes (itemOf 250).setToBytes).map
      (fun result => result.2.dataItems) = .ok [{}] := by
    decide +kernel
  rw [h (blank .udp) rfl] at hread
  have hitems : (itemOf 250).dataItems = [{}] := Except.ok.inj hread
  exact absurd hitems (by decide +kernel)

end FrameAll

end RVDataFusionServer
