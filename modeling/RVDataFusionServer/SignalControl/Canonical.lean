import RVDataFusionServer.SignalControl.Bounds

/-!
# Frames that are encoded as they were received

A UDP frame that was accepted is encoded again. The length and the checksum of the input were
checked, so that its bytes come back if and only if its items do: `reencoded_iff` says that each
item has to be whole, and that nothing stands between the items and the checksum.
-/

namespace RVDataFusionServer

open Library

/-- The bytes that an item is written as. -/
def itemBytes (item : DataItem) : List UInt8 := item.withLength.setToBytes

/-- Bytes that are taken for a whole item are written again. -/
theorem itemBytes_ofRecord_whole {index length : UInt8} {more : List UInt8}
    (hwhole : WholeLength length)
    (hinside : (length + 2).toNat ≤ (index :: length :: more).length) :
    itemBytes (.ofRecord ((index :: length :: more).take (length + 2).toNat)) =
        (index :: length :: more).take (length + 2).toNat ∧
      6 ≤ ((index :: length :: more).take (length + 2).toNat).length := by
  obtain ⟨item, -, rfl, hdata, hbytes⟩ := whole_record hwhole hinside
  have hne := hwhole.ne_zero
  have hread := DataItem.getFromBytes_setToBytes hne
  have hlength : item.withLength = item := if_neg (not_not.mpr hdata)
  rw [hbytes, DataItem.ofRecord, hread]
  constructor
  · show item.withLength.setToBytes = _
    rw [hlength]
  · rw [DataItem.setToBytes, if_neg hne]
    simp

/-- Bytes that are taken under another length are written as an item without data. -/
theorem itemBytes_ofRecord_cut (index : UInt8) {length : UInt8} (more : List UInt8)
    (hshort : length ∉ ([1, 2, 3] : List UInt8)) (hwhole : ¬ WholeLength length) :
    (∃ first rest,
      itemBytes (.ofRecord ((index :: length :: more).take (length + 2).toNat)) =
        first :: 4 :: rest) ∧
      ((index :: length :: more).take (length + 2).toNat).length < 6 := by
  constructor
  · obtain ⟨ret, item, hread, hlength, hdata⟩ :=
      cut_record index more hshort hwhole
    have hzero : item.withLength.length = 4 := by
      rw [DataItem.withLength_eq, hdata]
      rfl
    rw [DataItem.ofRecord, hread]
    refine ⟨item.withLength.index, [item.withLength.typeID, item.withLength.objID,
      item.withLength.attrID, item.withLength.elementID] ++ item.withLength.data, ?_⟩
    show item.withLength.setToBytes = _
    rw [DataItem.setToBytes, hzero]
    rfl
  · rw [List.length_take]
    obtain rfl | rfl | rfl := eq_of_not_wholeLength hshort hwhole
    · exact Nat.lt_of_le_of_lt (Nat.min_le_left _ _) (by decide)
    · exact Nat.lt_of_le_of_lt (Nat.min_le_left _ _) (by decide)
    · exact Nat.lt_of_le_of_lt (Nat.min_le_left _ _) (by decide)

/-- A whole item is written as the bytes that were taken for it, of which there are at most 255. -/
theorem itemBytes_ofRecord {count : Nat} {text behind : List UInt8}
    {records : List (List UInt8)}
    (h : takeRecords itemSize count text = some (records, behind)) {record : List UInt8}
    (hrecord : record ∈ records) (hlong : 6 ≤ record.length) :
    itemBytes (.ofRecord record) = record ∧ record.length ≤ 255 := by
  obtain ⟨front, n, hsize, hinside, rfl⟩ := of_mem_takeRecords h hrecord
  obtain ⟨index, length, more, rfl, hshort, rfl⟩ := of_itemSize hsize
  have hlength : WholeLength length := by
    by_contra hcut
    have hlt := (itemBytes_ofRecord_cut index more hshort hcut).2
    omega
  constructor
  · exact (itemBytes_ofRecord_whole hlength hinside).1
  · have hlt := (length + 2).toNat_lt
    rw [List.length_take]
    omega

/-- Whole items are written as the bytes that were taken for them. -/
theorem flatMap_itemBytes_eq {count : Nat} {text behind : List UInt8}
    {records : List (List UInt8)}
    (h : takeRecords itemSize count text = some (records, behind))
    (hwhole : ∀ record ∈ records, 6 ≤ record.length) :
    (records.map DataItem.ofRecord).flatMap itemBytes = records.flatten := by
  have hbytes : ∀ record ∈ records, itemBytes (.ofRecord record) = record := fun record hrecord =>
    (itemBytes_ofRecord h hrecord (hwhole record hrecord)).1
  rw [List.flatMap_map, List.flatMap_congr hbytes, List.flatMap_id']

/-- No other items are written as the bytes that they were read from: the first one that is not
whole would be written with a length of 4. -/
theorem whole_of_flatMap_itemBytes {count : Nat} {text behind rest : List UInt8}
    {records : List (List UInt8)}
    (h : takeRecords itemSize count text = some (records, behind))
    (htext : text = (records.map DataItem.ofRecord).flatMap itemBytes ++ rest) :
    (∀ record ∈ records, 6 ≤ record.length) ∧ behind = rest := by
  induction count generalizing text records with
  | zero =>
      cases h
      exact ⟨by simp, htext⟩
  | succ count ih =>
      obtain ⟨n, others, hsize, hinside, hothers, rfl⟩ := takeRecords_succ_iff.mp h
      obtain ⟨index, length, more, rfl, hshort, rfl⟩ := of_itemSize hsize
      rw [List.map_cons, List.flatMap_cons, List.append_assoc] at htext
      have hlength : WholeLength length := by
        by_contra hcut
        obtain ⟨⟨first, others', hfirst⟩, -⟩ :=
          itemBytes_ofRecord_cut index more hshort hcut
        rw [hfirst] at htext
        obtain ⟨-, htail⟩ := List.cons.inj htext
        obtain ⟨rfl, -⟩ := List.cons.inj htail
        exact hcut ⟨by decide, by decide⟩
      obtain ⟨hfirst, hlong⟩ := itemBytes_ofRecord_whole hlength hinside
      rw [hfirst] at htext
      have hdrop : (index :: length :: more).drop (length + 2).toNat =
          (others.map DataItem.ofRecord).flatMap itemBytes ++ rest := by
        have hcut := List.take_append_drop (length + 2).toNat (index :: length :: more)
        exact List.append_cancel_left (hcut.trans htext)
      obtain ⟨hothersWhole, hbehind⟩ := ih hothers hdrop
      refine ⟨?_, hbehind⟩
      intro record hrecord
      obtain rfl | hrecord := List.mem_cons.mp hrecord
      · exact hlong
      · exact hothersWhole record hrecord

namespace FrameAll

/-- Each declared item is whole, and only the checksum and the last byte stand behind them. -/
def Canonical (input : List UInt8) : Prop :=
  ∃ records behind, declaredItems input = some (records, behind) ∧
    (∀ record ∈ records, 6 ≤ record.length) ∧ behind.length = 3

/-- The first three bytes of an input, the last three bytes and those between them. -/
theorem exists_three_three {input : List UInt8} (h : 17 ≤ input.length) :
    ∃ first length1 length0 middle crc1 crc0 last,
      input = first :: length1 :: length0 :: (middle ++ [crc1, crc0, last]) ∧
        11 ≤ middle.length := by
  match input, h with
  | first :: length1 :: length0 :: tail, h =>
      have hlong : 14 ≤ tail.length := by
        simp only [List.length_cons] at h
        omega
      have hthree : (tail.drop (tail.length - 3)).length = 3 := by
        rw [List.length_drop]
        omega
      obtain ⟨crc1, crc0, last, hlast⟩ := List.length_eq_three.mp hthree
      refine ⟨first, length1, length0, tail.take (tail.length - 3), crc1, crc0, last, ?_, ?_⟩
      · rw [← hlast, List.take_append_drop]
      · rw [List.length_take]
        omega

/-- An input whose length and checksum agree is what is sent for the bytes between them. -/
theorem eq_enclose {input : List UInt8} (hlength : LengthAgrees input)
    (hcrc : ChecksumAgrees input) :
    ∃ first middle last, input = enclose first middle last ∧ 11 ≤ middle.length := by
  obtain ⟨first, length1, length0, middle, crc1, crc0, last, rfl, hlong⟩ :=
    exists_three_three hlength.1
  have hcount : (first :: length1 :: length0 :: (middle ++ [crc1, crc0, last])).length - 4 =
      middle.length + 2 := by
    simp
  have hword : word16 length1 length0 = UInt16.ofNat (middle.length + 2) := by
    rw [← hcount]
    exact hlength.2.symm
  have hsum := (checksumAgrees_iff first (length1 :: length0 :: middle) crc1 crc0 last).mp hcrc
  refine ⟨first, middle, last, ?_, hlong⟩
  rw [enclose, ← hword, highByte_word16, lowByte_word16, hsum, highByte_word16, lowByte_word16]
  rfl

/-- What is sent determines the bytes between the length and the checksum. -/
theorem enclose_inj {first second : UInt8} {inner other : List UInt8} {last end_ : UInt8}
    (h : enclose first inner last = enclose second other end_) :
    inner = other ∧ last = end_ := by
  simp only [enclose, List.cons_append, List.cons.injEq] at h
  obtain ⟨hinner, hend⟩ := List.append_inj' h.2.2.2 (by simp)
  simp only [List.cons.injEq] at hend
  exact ⟨hinner, hend.2.2.1⟩

/-- What stands behind the header of what is sent. -/
theorem drop_enclose (first last : UInt8) {middle : List UInt8} (hlong : 11 ≤ middle.length) :
    ∃ crc1 crc0, (enclose first middle last).drop 14 =
      middle.drop 11 ++ [crc1, crc0, last] := by
  have hdrop (crc1 crc0 : UInt8) : (middle ++ [crc1, crc0, last]).drop 11 =
      middle.drop 11 ++ [crc1, crc0, last] :=
    List.drop_append_of_le_length hlong
  exact ⟨_, _, hdrop _ _⟩

/-- The bytes of a frame that was read: the header of the input and the items as they are
written. -/
theorem content_received {fresh : FrameAll} (hfresh : fresh.dataItems = [])
    (first last crc1 crc0 endByte : UInt8) (records : List (List UInt8)) {middle : List UInt8}
    (hlong : 11 ≤ middle.length) :
    (fresh.received (enclose first middle last) records crc1 crc0 endByte).content =
      middle.take 11 ++ (records.map DataItem.ofRecord).flatMap itemBytes := by
  match middle, hlong with
  | _ :: _ :: _ :: _ :: _ :: _ :: _ :: _ :: _ :: _ :: _ :: rest, _ =>
      unfold content received
      rw [hfresh, List.nil_append]
      simp only [enclose, List.getD_cons_succ, List.getD_cons_zero, highByte_word16,
        lowByte_word16, bytes32_word32, List.cons_append, List.nil_append]
      rfl

/-- When the frame that was accepted is encoded as the input: all its items are whole, and they
end where the checksum begins. -/
theorem reencoded_iff {fresh frame : FrameAll} {input : List UInt8} (hfresh : fresh.Fresh .udp)
    (haccepted : fresh.getFromBytesWithTF input true = .ok (0, frame)) :
    frame.setToBytesWithTF = .ok (0, input) ↔ Canonical input := by
  obtain ⟨hlength, hread, hcrc⟩ := (accepted_iff hfresh.comType).mp haccepted
  obtain ⟨records, crc1, crc0, endByte, behind, hrecords, -, rfl⟩ :=
    (getFromBytes_iff hlength.1).mp hread
  obtain ⟨first, middle, last, rfl, hlong⟩ := eq_enclose hlength hcrc
  have hcontent := content_received hfresh.dataItems first last crc1 crc0 endByte records hlong
  set frame := fresh.received (enclose first middle last) records crc1 crc0 endByte
  have hsent : frame.setToBytesWithTF = .ok (0, enclose first frame.content endByte) :=
    setToBytesWithTF_udp hfresh.comType hfresh.isUpdateLength hfresh.isUpdateCRC
  obtain ⟨crc1', crc0', hdrop⟩ := drop_enclose first last hlong
  rw [declaredItems, hdrop] at hrecords
  rw [Canonical, declaredItems, hdrop, hsent]
  constructor
  · intro h
    have hbytes : enclose first frame.content endByte = enclose first middle last := by
      simpa using h
    obtain ⟨hmiddle, rfl⟩ := enclose_inj hbytes
    have hitems : (records.map DataItem.ofRecord).flatMap itemBytes = middle.drop 11 := by
      have hcut := List.take_append_drop 11 middle
      exact List.append_cancel_left (hcontent.symm.trans (hmiddle.trans hcut.symm))
    obtain ⟨hwhole, hbehind⟩ := whole_of_flatMap_itemBytes hrecords (by rw [hitems])
    exact ⟨records, _, hrecords, hwhole, by rw [hbehind]; rfl⟩
  · rintro ⟨records', behind', hrecords', hwhole, hthree⟩
    rw [hrecords] at hrecords'
    cases hrecords'
    obtain rfl : behind = [] := by simpa using hthree
    have hflatten := flatten_of_takeRecords hrecords
    obtain ⟨hitems, hlast⟩ := List.append_inj' hflatten rfl
    simp only [List.cons.injEq] at hlast
    rw [hcontent, flatMap_itemBytes_eq hrecords hwhole, ← hitems, List.take_append_drop,
      hlast.2.2.1]

/-- A frame whose only item has the length 0, as it is sent. -/
def emptyItem : List UInt8 :=
  enclose 0x7e [1, 2, 1, 0, 0, 0, 1, 1, 1, 0x20, 1, 1, 0] 0x7d

/-- The frame that is read from it. -/
def emptyItemFrame : FrameAll :=
  { blank .udp with
    length := 15
    version := 0x0102
    controlCenterID := 1
    roadTrafficSignalControllerID := 1
    roadID := 1
    sequence := 1
    type := 0x20
    dataItemNum := 1
    dataItems := [{ index := 1 }]
    crc16 := comFrameCRC16 [0, 15, 1, 2, 1, 0, 0, 0, 1, 1, 1, 0x20, 1, 1, 0] }

theorem accepted_emptyItem :
    (blank .udp).getFromBytesWithTF emptyItem true = .ok (0, emptyItemFrame) := by
  decide +kernel

/-- When the frame with the item without a length is encoded as it was received. -/
theorem reencoded_emptyItem :
    emptyItemFrame.setToBytesWithTF = .ok (0, emptyItem) ↔ Canonical emptyItem :=
  reencoded_iff ⟨rfl, rfl, rfl, rfl⟩ accepted_emptyItem

/-- It is not: the item is encoded with four identifiers and the length 4. -/
theorem not_reencoded_emptyItem :
    (blank .udp).getFromBytesWithTF emptyItem true = .ok (0, emptyItemFrame) ∧
      emptyItemFrame.setToBytesWithTF ≠ .ok (0, emptyItem) := by
  constructor
  · exact accepted_emptyItem
  · decide +kernel

end FrameAll

end RVDataFusionServer
