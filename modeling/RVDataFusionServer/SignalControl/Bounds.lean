import RVDataFusionServer.Library.Records
import RVDataFusionServer.SignalControl.UdpRoundTrip

/-!
# The reads of the frame parser

`getFromBytesWithTF` checks the length of a UDP frame, but neither the number of its items nor
their lengths, and `getFromBytes` reads as far as these say. `getFromBytes_iff` gives its result by
the items that the bytes declare, and `stays_inside_iff` says when no read leaves the input.
-/

namespace RVDataFusionServer

open Library

/-! ## Items -/

/-- The number of bytes that the loop over the items takes for the first item of a text. An item
with a length of 1 to 3 is read beyond these. -/
def itemSize : List UInt8 → Option Nat
  | _ :: length :: _ => if length ∈ [1, 2, 3] then none else some (length + 2).toNat
  | _ => none

/-- The first bytes of a text from which an item is taken. -/
theorem of_itemSize {input : List UInt8} {n : Nat} (h : itemSize input = some n) :
    ∃ index length more, input = index :: length :: more ∧
      length ∉ ([1, 2, 3] : List UInt8) ∧ n = (length + 2).toNat := by
  unfold itemSize at h
  split at h
  · next index length more =>
      split at h
      · cases h
      next hshort =>
        cases h
        exact ⟨index, length, more, rfl, hshort, rfl⟩
  · cases h

/-- The item that is read from the bytes that were taken for it. -/
def DataItem.ofRecord (record : List UInt8) : DataItem :=
  match getFromBytes {} record with
  | .ok (_, item) => item
  | .error _ => {}

/-- A length under which an item is read whole. With 0 the item ends behind it, and with 254 and
255 the number of bytes wraps, so that the item is not even read. -/
def WholeLength (length : UInt8) : Prop := 4 ≤ length.toNat ∧ length.toNat ≤ 253

/-- An item that is read whole has a length. -/
theorem WholeLength.ne_zero {length : UInt8} (h : WholeLength length) : length ≠ 0 := by
  rintro rfl
  exact absurd h.1 (by decide)

/-- A length that is neither whole nor too short. -/
theorem eq_of_not_wholeLength {length : UInt8} (hshort : length ∉ ([1, 2, 3] : List UInt8))
    (hwhole : ¬ WholeLength length) : length = 0 ∨ length = 254 ∨ length = 255 := by
  have hlt := length.toNat_lt
  have hvalue (n : UInt8) : length = n ↔ length.toNat = n.toNat := UInt8.toNat_inj.symm
  simp only [List.mem_cons, List.not_mem_nil, or_false, hvalue, WholeLength] at *
  simp only [UInt8.reduceToNat] at *
  omega

/-- The bytes of an item that is read whole are those that it is written as. -/
theorem whole_record {index length : UInt8} {more : List UInt8} (hwhole : WholeLength length)
    (hinside : (length + 2).toNat ≤ (index :: length :: more).length) :
    ∃ item : DataItem, item.index = index ∧ item.length = length ∧
      length.toNat = 4 + item.data.length ∧
      (index :: length :: more).take (length + 2).toNat = item.setToBytes := by
  have hne := hwhole.ne_zero
  obtain ⟨hlow, hhigh⟩ := hwhole
  have hcount : (length + 2).toNat = length.toNat + 2 := by
    show (length.toNat + 2) % 256 = _
    exact Nat.mod_eq_of_lt (by omega)
  rw [hcount] at hinside ⊢
  obtain ⟨k, hk⟩ := Nat.exists_eq_add_of_le hlow
  rw [hk] at hinside ⊢
  match more, hinside with
  | typeID :: objID :: attrID :: elementID :: data, hinside =>
      have hdata : k ≤ data.length := by
        simp only [List.length_cons] at hinside
        omega
      refine ⟨{ index, length, typeID, objID, attrID, elementID, data := data.take k },
        rfl, rfl, ?_, ?_⟩
      · show 4 + k = 4 + (data.take k).length
        rw [List.length_take, Nat.min_eq_left hdata]
      · rw [DataItem.setToBytes, if_neg hne, show 4 + k + 2 = k + 6 by omega]
        rfl
  | [_, _, _], hinside => simp at hinside; omega
  | [_, _], hinside => simp at hinside; omega
  | [_], hinside => simp at hinside; omega
  | [], hinside => simp at hinside

/-- The bytes that are taken under another length are not those of an item. -/
theorem cut_record (index : UInt8) {length : UInt8} (more : List UInt8)
    (hshort : length ∉ ([1, 2, 3] : List UInt8)) (hwhole : ¬ WholeLength length) :
    ∃ ret item, DataItem.getFromBytes {} ((index :: length :: more).take (length + 2).toNat) =
        .ok (ret, item) ∧ item.length = 0 ∧ item.data = [] := by
  obtain rfl | rfl | rfl := eq_of_not_wholeLength hshort hwhole
  · exact ⟨0, { index }, rfl, rfl, rfl⟩
  · exact ⟨-1, {}, rfl, rfl, rfl⟩
  · exact ⟨-1, {}, rfl, rfl, rfl⟩

/-- An item with a length of 1 to 3 is read beyond the bytes that were taken for it. -/
theorem short_record {index length : UInt8} {more : List UInt8}
    (hshort : length ∈ ([1, 2, 3] : List UInt8)) :
    DataItem.getFromBytes {} ((index :: length :: more).take (length + 2).toNat) =
      .error .outOfBounds := by
  simp only [List.mem_cons, List.not_mem_nil, or_false] at hshort
  obtain rfl | rfl | rfl := hshort
  · match more with
    | [] => rfl
    | _ :: _ => rfl
  · match more with
    | [] => rfl
    | [_] => rfl
    | _ :: _ :: _ => rfl
  · match more with
    | [] => rfl
    | [_] => rfl
    | [_, _] => rfl
    | _ :: _ :: _ :: _ => rfl

/-- The bytes that are taken for an item can be read. -/
theorem getFromBytes_record {index length : UInt8} {more : List UInt8}
    (hshort : length ∉ ([1, 2, 3] : List UInt8))
    (hinside : (length + 2).toNat ≤ (index :: length :: more).length) :
    ∃ ret, DataItem.getFromBytes {} ((index :: length :: more).take (length + 2).toNat) =
      .ok (ret, .ofRecord ((index :: length :: more).take (length + 2).toNat)) := by
  have hread : ∃ ret item,
      DataItem.getFromBytes {} ((index :: length :: more).take (length + 2).toNat) =
        .ok (ret, item) := by
    by_cases hwhole : WholeLength length
    · obtain ⟨item, -, hlength, hdata, hbytes⟩ := whole_record hwhole hinside
      have hne : item.length ≠ 0 := hlength ▸ hwhole.ne_zero
      rw [hbytes]
      exact ⟨0, item, DataItem.getFromBytes_setToBytes hne⟩
    · obtain ⟨ret, item, hok, -, -⟩ := cut_record index more hshort hwhole
      exact ⟨ret, item, hok⟩
  obtain ⟨ret, item, hok⟩ := hread
  refine ⟨ret, ?_⟩
  rw [hok, DataItem.ofRecord, hok]

/-- The loop over the items reads those that the bytes declare, and leaves the input when they do
not lie inside of it. -/
theorem dataItemsFromBytes_iff {count : Nat} {input behind : List UInt8}
    {items : List DataItem} :
    dataItemsFromBytes count input = .ok (items, behind) ↔
      ∃ records, takeRecords itemSize count input = some (records, behind) ∧
        items = records.map .ofRecord := by
  induction count generalizing input items with
  | zero =>
      constructor
      · intro h
        cases h
        exact ⟨[], rfl, rfl⟩
      · rintro ⟨records, h, rfl⟩
        cases h
        rfl
  | succ count ih =>
      constructor
      · intro h
        match input, h with
        | index :: length :: more, h =>
            rw [dataItemsFromBytes_succ] at h
            split at h
            · cases h
            next hlong =>
              have hinside := Nat.le_of_not_lt hlong
              obtain ⟨⟨ret, item⟩, hitem, h⟩ := bind_eq_ok.mp h
              obtain ⟨⟨others, rest⟩, hothers, h⟩ := bind_eq_ok.mp h
              cases h
              obtain ⟨records, hrecords, rfl⟩ := ih.mp hothers
              have hshort : length ∉ ([1, 2, 3] : List UInt8) := by
                intro hshort
                rw [short_record hshort] at hitem
                cases hitem
              obtain ⟨ret', hread⟩ := getFromBytes_record hshort hinside
              rw [hread] at hitem
              cases hitem
              exact ⟨_, takeRecords_succ_iff.mpr
                ⟨_, records, if_neg hshort, hinside, hrecords, rfl⟩, rfl⟩
      · rintro ⟨records, hrecords, rfl⟩
        obtain ⟨n, others, hsize, hinside, hothers, rfl⟩ := takeRecords_succ_iff.mp hrecords
        obtain ⟨index, length, more, rfl, hshort, rfl⟩ := of_itemSize hsize
        obtain ⟨ret, hread⟩ := getFromBytes_record hshort hinside
        rw [dataItemsFromBytes_succ, if_neg (Nat.not_lt_of_le hinside), hread]
        exact bind_eq_ok.mpr ⟨_, rfl, bind_eq_ok.mpr ⟨_, ih.mpr ⟨others, hothers, rfl⟩, rfl⟩⟩

/-! ## Frames -/

/-- The items that a frame's bytes declare, and what is behind them. -/
def declaredItems (input : List UInt8) : Option (List (List UInt8) × List UInt8) :=
  takeRecords itemSize (input.getD 13 0).toNat (input.drop 14)

/-- The declared items lie inside of the bytes, with the checksum and the last byte behind them. -/
def DeclaredInside (input : List UInt8) : Prop :=
  ∃ records behind, declaredItems input = some (records, behind) ∧ 3 ≤ behind.length

namespace FrameAll

/-- The frame object with the header, the items and the checksum that were read. -/
def received (frame : FrameAll) (input : List UInt8) (records : List (List UInt8))
    (crc1 crc0 endByte : UInt8) : FrameAll :=
  { frame with
    beginByte := input.getD 0 0
    length := word16 (input.getD 1 0) (input.getD 2 0)
    version := word16 (input.getD 3 0) (input.getD 4 0)
    controlCenterID := input.getD 5 0
    roadTrafficSignalControllerID :=
      word32 (input.getD 6 0) (input.getD 7 0) (input.getD 8 0) (input.getD 9 0)
    roadID := input.getD 10 0
    sequence := input.getD 11 0
    type := input.getD 12 0
    dataItemNum := input.getD 13 0
    dataItems := frame.dataItems ++ records.map .ofRecord
    crc16 := word16 crc1 crc0
    endByte }

/-- What `getFromBytes` reads from an input that is long enough. -/
theorem getFromBytes_iff {frame result : FrameAll} {input : List UInt8} {ret : Int}
    (hlong : 17 ≤ input.length) :
    frame.getFromBytes input = .ok (ret, result) ↔
      ∃ records crc1 crc0 endByte behind,
        declaredItems input = some (records, crc1 :: crc0 :: endByte :: behind) ∧ ret = 0 ∧
          result = frame.received input records crc1 crc0 endByte := by
  match input, hlong with
  | _ :: _ :: _ :: _ :: _ :: _ :: _ :: _ :: _ :: _ :: _ :: _ :: _ :: dataItemNum :: rest, hlong =>
      unfold getFromBytes
      rw [if_neg (Nat.not_lt_of_le hlong)]
      constructor
      · intro h
        obtain ⟨⟨items, behind⟩, hitems, h⟩ := bind_eq_ok.mp h
        obtain ⟨records, hrecords, rfl⟩ := dataItemsFromBytes_iff.mp hitems
        dsimp only at h
        split at h
        · cases h
          exact ⟨records, _, _, _, _, hrecords, rfl, rfl⟩
        · cases h
      · rintro ⟨records, crc1, crc0, endByte, behind, hrecords, rfl, rfl⟩
        exact bind_eq_ok.mpr ⟨_, dataItemsFromBytes_iff.mpr ⟨records, hrecords, rfl⟩, rfl⟩

/-- The checks of `getFromBytesWithTF` before it reads the frame. -/
def LengthAgrees (input : List UInt8) : Prop :=
  17 ≤ input.length ∧ UInt16.ofNat (input.length - 4) = word16 (input.getD 1 0) (input.getD 2 0)

/-- `getFromBytesWithTF` refuses the input or decodes the frame from it, and no read leaves the
input. -/
def StaysInside (frame : FrameAll) (input : List UInt8) (isCheckCRC : Bool) : Prop :=
  ∃ ret result, frame.getFromBytesWithTF input isCheckCRC = .ok (ret, result) ∧
    (ret = -1 ∨ ret = 0 ∧ frame.getFromBytes input = .ok (0, result))

instance decidableChecksumAgrees (bytes : List UInt8) : Decidable (ChecksumAgrees bytes) :=
  inferInstanceAs (Decidable (_ = _))

variable {frame : FrameAll} {input : List UInt8}

/-- An input that does not pass the first checks is refused. -/
theorem getFromBytesWithTF_refused (isCheckCRC : Bool) (h : ¬ LengthAgrees input) :
    frame.getFromBytesWithTF input isCheckCRC = .ok (-1, frame) := by
  unfold getFromBytesWithTF
  split
  · rfl
  next hlong =>
    split
    · rfl
    next hlength => exact absurd ⟨Nat.le_of_not_lt hlong, not_not.mp hlength⟩ h

/-- Over UDP, an input that passes the first checks is decoded before its checksum is looked at. -/
theorem getFromBytesWithTF_decoded (isCheckCRC : Bool) (hcom : frame.comType = .udp)
    (h : LengthAgrees input) :
    frame.getFromBytesWithTF input isCheckCRC = (do
      let (_, result) ← frame.getFromBytes input
      if isCheckCRC = true ∧ ¬ ChecksumAgrees input then pure (-1, result)
      else pure (0, result)) := by
  unfold getFromBytesWithTF
  rw [if_neg (Nat.not_lt_of_le h.1), if_neg (not_not.mpr h.2), hcom]
  rfl

/-- Over UDP, an input with the right length and the right checksum is decoded and nothing else. -/
theorem getFromBytesWithTF_agrees (isCheckCRC : Bool) (hcom : frame.comType = .udp)
    (h : LengthAgrees input) (hcrc : ChecksumAgrees input) :
    frame.getFromBytesWithTF input isCheckCRC = frame.getFromBytes input := by
  have hagrees : ¬ (isCheckCRC = true ∧ ¬ ChecksumAgrees input) := fun hwrong => hwrong.2 hcrc
  rw [getFromBytesWithTF_decoded isCheckCRC hcom h]
  cases hread : frame.getFromBytes input with
  | error fault => rfl
  | ok decoded =>
      obtain ⟨_, _, _, _, _, -, hret, -⟩ := (getFromBytes_iff h.1).mp hread
      rw [← hret]
      exact if_neg hagrees

/-- What is accepted over UDP: the first checks pass, the frame can be decoded, and the checksum
agrees. -/
theorem accepted_iff {result : FrameAll} (hcom : frame.comType = .udp) :
    frame.getFromBytesWithTF input true = .ok (0, result) ↔
      LengthAgrees input ∧ frame.getFromBytes input = .ok (0, result) ∧ ChecksumAgrees input := by
  by_cases hlength : LengthAgrees input
  · rw [getFromBytesWithTF_decoded true hcom hlength]
    constructor
    · intro h
      obtain ⟨⟨ret, decoded⟩, hread, h⟩ := bind_eq_ok.mp h
      obtain ⟨_, _, _, _, _, -, rfl, -⟩ := (getFromBytes_iff hlength.1).mp hread
      dsimp only at h
      split at h
      · cases h
      next hcrc =>
        cases h
        exact ⟨hlength, hread, not_not.mp fun hne => hcrc ⟨rfl, hne⟩⟩
    · rintro ⟨-, hread, hcrc⟩
      rw [← getFromBytesWithTF_decoded true hcom hlength,
        getFromBytesWithTF_agrees true hcom hlength hcrc]
      exact hread
  · rw [getFromBytesWithTF_refused true hlength]
    constructor
    · intro h
      cases h
    · rintro ⟨hagrees, -⟩
      exact absurd hagrees hlength

/-- When no read leaves the input: it is refused before anything is read, or the declared items lie
inside of it. The length field alone bounds neither their number nor their lengths. -/
theorem stays_inside_iff (hcom : frame.comType = .udp) (input : List UInt8) (isCheckCRC : Bool) :
    frame.StaysInside input isCheckCRC ↔ ¬ LengthAgrees input ∨ DeclaredInside input := by
  by_cases hlength : LengthAgrees input
  · rw [StaysInside, getFromBytesWithTF_decoded isCheckCRC hcom hlength]
    constructor
    · rintro ⟨ret, result, hok, -⟩
      obtain ⟨⟨_, decoded⟩, hread, -⟩ := bind_eq_ok.mp hok
      obtain ⟨records, crc1, crc0, endByte, behind, hrecords, -, -⟩ :=
        (getFromBytes_iff hlength.1).mp hread
      exact .inr ⟨records, _, hrecords, by simp⟩
    · rintro (hrefused | ⟨records, behind, hrecords, hbehind⟩)
      · exact absurd hlength hrefused
      match behind, hbehind with
      | crc1 :: crc0 :: endByte :: behind, _ =>
          have hread : frame.getFromBytes input = .ok (0, _) :=
            (getFromBytes_iff hlength.1).mpr
              ⟨records, crc1, crc0, endByte, behind, hrecords, rfl, rfl⟩
          by_cases hcrc : isCheckCRC = true ∧ ¬ ChecksumAgrees input
          · exact ⟨-1, _, bind_eq_ok.mpr ⟨(0, _), hread, if_pos hcrc⟩, .inl rfl⟩
          · exact ⟨0, _, bind_eq_ok.mpr ⟨(0, _), hread, if_neg hcrc⟩, .inr ⟨rfl, hread⟩⟩
  · constructor
    · intro _
      exact .inl hlength
    · intro _
      exact ⟨-1, frame, getFromBytesWithTF_refused isCheckCRC hlength, .inl rfl⟩

/-- A frame of 17 bytes that declares an item of 200 bytes. -/
def truncatedItem : List UInt8 :=
  [0x7e, 0, 13, 1, 2, 1, 0, 0, 0, 1, 1, 1, 0x20, 1, 1, 200, 0x7d]

/-- The reads of a frame object that decodes the truncated item. -/
theorem stays_inside_truncated :
    (blank .udp).StaysInside truncatedItem true ↔
      ¬ LengthAgrees truncatedItem ∨ DeclaredInside truncatedItem :=
  stays_inside_iff rfl truncatedItem true

/-- The truncated item is read beyond the end of the input. -/
theorem not_stays_inside_truncated : ¬ (blank .udp).StaysInside truncatedItem true := by
  rintro ⟨ret, result, hok, -⟩
  have hfault : (blank .udp).getFromBytesWithTF truncatedItem true = .error .outOfBounds := by
    decide +kernel
  rw [hfault] at hok
  cases hok

end FrameAll

end RVDataFusionServer
