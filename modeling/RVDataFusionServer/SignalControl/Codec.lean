import RVDataFusionServer.SignalControl.FrameAll

/-!
# The frame codec without escapes

`DataItem::getFromBytes` and `FrameAll::getFromBytes` against the bytes of `setToBytes`. An item
with at most 249 data bytes has a length that can be increased by 2 in one byte, and the parser
then takes it out of the input whole: `dataItemsFromBytes_eq` and `getFromBytes_eq`. In the other
direction `eq_of_dataItemsFromBytes` and `eq_of_getFromBytes` say which bytes were read when such
items come out.
-/

namespace RVDataFusionServer

open Library

/-! ## Numbers of several bytes -/

/-- A byte that is cut out of a number and shifted down. -/
theorem and_shiftRight_byte (n k : Nat) : (n &&& 255 <<< k) >>> k = n / 2 ^ k % 256 := by
  rw [Nat.shiftRight_and_distrib, Nat.shiftLeft_shiftRight, Nat.shiftRight_eq_div_pow]
  exact Nat.and_two_pow_sub_one_eq_mod _ 8

theorem toNat_highByte (value : UInt16) : (highByte value).toNat = value.toNat / 256 := by
  have hlt := value.toNat_lt
  have hbyte := and_shiftRight_byte value.toNat 8
  show ((value.toNat &&& 255 <<< 8) >>> 8) % 256 = _
  omega

theorem toNat_lowByte (value : UInt16) : (lowByte value).toNat = value.toNat % 256 := by
  have hbyte := and_shiftRight_byte value.toNat 0
  show ((value.toNat &&& 255 <<< 0) >>> 0) % 256 = _
  omega

theorem toNat_word16 (high low : UInt8) :
    (word16 high low).toNat = 256 * high.toNat + low.toNat := by
  have hhigh := high.toNat_lt
  have hlow := low.toNat_lt
  show (high.toNat <<< 8 % 65536 + low.toNat) % 65536 = _
  rw [Nat.shiftLeft_eq]
  omega

/-- A 16-bit number is read back from its bytes. -/
@[simp] theorem word16_highByte_lowByte (value : UInt16) :
    word16 (highByte value) (lowByte value) = value := by
  apply UInt16.toNat_inj.mp
  rw [toNat_word16, toNat_highByte, toNat_lowByte]
  omega

@[simp] theorem highByte_word16 (high low : UInt8) : highByte (word16 high low) = high := by
  apply UInt8.toNat_inj.mp
  have hlow := low.toNat_lt
  rw [toNat_highByte, toNat_word16]
  omega

@[simp] theorem lowByte_word16 (high low : UInt8) : lowByte (word16 high low) = low := by
  apply UInt8.toNat_inj.mp
  have hlow := low.toNat_lt
  rw [toNat_lowByte, toNat_word16]
  omega

theorem toNat_word32 (b3 b2 b1 b0 : UInt8) :
    (word32 b3 b2 b1 b0).toNat =
      16777216 * b3.toNat + 65536 * b2.toNat + 256 * b1.toNat + b0.toNat := by
  have h3 := b3.toNat_lt
  have h2 := b2.toNat_lt
  have h1 := b1.toNat_lt
  have h0 := b0.toNat_lt
  have hbyte3 : b3.toNat <<< 24 % 4294967296 = 16777216 * b3.toNat := by
    rw [Nat.shiftLeft_eq]
    omega
  have hbyte2 : b2.toNat <<< 16 % 4294967296 = 65536 * b2.toNat := by
    rw [Nat.shiftLeft_eq]
    omega
  have hbyte1 : b1.toNat <<< 8 % 4294967296 = 256 * b1.toNat := by
    rw [Nat.shiftLeft_eq]
    omega
  show (((b3.toNat <<< 24 % 4294967296 + b2.toNat <<< 16 % 4294967296) % 4294967296 +
    b1.toNat <<< 8 % 4294967296) % 4294967296 + b0.toNat) % 4294967296 = _
  have hhigh : 16777216 * b3.toNat + 65536 * b2.toNat < 4294967296 := by omega
  rw [hbyte3, hbyte2, hbyte1, Nat.mod_eq_of_lt hhigh, Nat.mod_add_mod]
  exact Nat.mod_eq_of_lt (by omega)

/-- A 32-bit number is read back from its bytes. -/
@[simp] theorem word32_bytes32 (value : UInt32) :
    word32 ((value &&& 0xff000000) >>> 24).toUInt8 ((value &&& 0x00ff0000) >>> 16).toUInt8
      ((value &&& 0x0000ff00) >>> 8).toUInt8 (value &&& 0x000000ff).toUInt8 = value := by
  apply UInt32.toNat_inj.mp
  have hlt := value.toNat_lt
  have hbyte3 := and_shiftRight_byte value.toNat 24
  have hbyte2 := and_shiftRight_byte value.toNat 16
  have hbyte1 := and_shiftRight_byte value.toNat 8
  have hbyte0 := and_shiftRight_byte value.toNat 0
  rw [toNat_word32]
  show 16777216 * (((value.toNat &&& 255 <<< 24) >>> 24) % 256) +
    65536 * (((value.toNat &&& 255 <<< 16) >>> 16) % 256) +
    256 * (((value.toNat &&& 255 <<< 8) >>> 8) % 256) +
    ((value.toNat &&& 255 <<< 0) >>> 0) % 256 = _
  -- each byte is cut off by one more division by 256
  have hdiv2 : value.toNat / 2 ^ 16 = value.toNat / 2 ^ 8 / 256 :=
    (Nat.div_div_eq_div_mul value.toNat (2 ^ 8) 256).symm
  have hdiv3 : value.toNat / 2 ^ 24 = value.toNat / 2 ^ 16 / 256 :=
    (Nat.div_div_eq_div_mul value.toNat (2 ^ 16) 256).symm
  rw [hbyte3, hbyte2, hbyte1, hbyte0, hdiv3, hdiv2]
  omega

/-- The bytes of a 32-bit number are those it was read from. -/
@[simp] theorem bytes32_word32 (b3 b2 b1 b0 : UInt8) :
    bytes32 (word32 b3 b2 b1 b0) = [b3, b2, b1, b0] := by
  have h3 := b3.toNat_lt
  have h2 := b2.toNat_lt
  have h1 := b1.toNat_lt
  have h0 := b0.toNat_lt
  have hvalue := toNat_word32 b3 b2 b1 b0
  set value := word32 b3 b2 b1 b0
  have hthird : ((value &&& 0xff000000) >>> 24).toUInt8 = b3 := by
    apply UInt8.toNat_inj.mp
    show ((value.toNat &&& 255 <<< 24) >>> 24) % 256 = _
    rw [and_shiftRight_byte, hvalue]
    omega
  have hsecond : ((value &&& 0x00ff0000) >>> 16).toUInt8 = b2 := by
    apply UInt8.toNat_inj.mp
    show ((value.toNat &&& 255 <<< 16) >>> 16) % 256 = _
    rw [and_shiftRight_byte, hvalue]
    omega
  have hfirst : ((value &&& 0x0000ff00) >>> 8).toUInt8 = b1 := by
    apply UInt8.toNat_inj.mp
    show ((value.toNat &&& 255 <<< 8) >>> 8) % 256 = _
    rw [and_shiftRight_byte, hvalue]
    omega
  have hzeroth : (value &&& 0x000000ff).toUInt8 = b0 := by
    apply UInt8.toNat_inj.mp
    show ((value.toNat &&& 255 <<< 0) >>> 0) % 256 = _
    rw [and_shiftRight_byte, hvalue]
    omega
  rw [bytes32, hthird, hsecond, hfirst, hzeroth]

/-! ## Items -/

namespace DataItem

variable {item : DataItem}

/-- The length that is sent is the one of the item's identifiers and data. -/
theorem withLength_eq (item : DataItem) :
    item.withLength = { item with length := UInt8.ofNat (4 + item.data.length) } := by
  unfold withLength
  split
  · rfl
  · next hlength =>
      have heq : item.length.toNat = 4 + item.data.length := not_not.mp hlength
      rw [← heq, UInt8.ofNat_toNat]

theorem toNat_length_withLength (h : item.data.length ≤ 251) :
    item.withLength.length.toNat = 4 + item.data.length := by
  rw [withLength_eq]
  show (4 + item.data.length) % 256 = _
  omega

theorem length_withLength_ne_zero (h : item.data.length ≤ 251) : item.withLength.length ≠ 0 := by
  intro hzero
  have hlength := toNat_length_withLength h
  rw [hzero] at hlength
  have hnat : 0 = 4 + item.data.length := hlength
  omega

/-- An item takes two bytes, four identifiers and its data. -/
theorem length_setToBytes_withLength (h : item.data.length ≤ 251) :
    item.withLength.setToBytes.length = 6 + item.data.length := by
  rw [setToBytes, if_neg (length_withLength_ne_zero h), withLength_eq]
  simp only [List.length_append, List.length_cons, List.length_nil]

/-- An item is read from the bytes that it is written as. -/
theorem getFromBytes_setToBytes (h : item.length ≠ 0) :
    getFromBytes {} item.setToBytes = .ok (0, item) := by
  obtain ⟨index, length, typeID, objID, attrID, elementID, data⟩ := item
  rw [setToBytes, if_neg h]
  show (if length = 0 then _ else _) = _
  rw [if_neg h]
  cases data with
  | nil => rfl
  | cons byte data => rfl

/-- An item with a length is read from no other bytes. -/
theorem eq_setToBytes_of_getFromBytes {input : List UInt8} {ret : Int}
    (hread : getFromBytes {} input = .ok (ret, item)) (h : item.length ≠ 0) :
    input = item.setToBytes := by
  unfold getFromBytes at hread
  split at hread
  · split at hread
    · next hzero =>
        cases hread
        exact absurd hzero h
    · split at hread
      · next data =>
          cases hread
          rw [setToBytes, if_neg h]
          cases data with
          | nil => rfl
          | cons byte data => rfl
      · cases hread
  · cases hread
    exact absurd rfl h

end DataItem

/-- One turn of the loop over the items. -/
theorem dataItemsFromBytes_succ (count : Nat) (index length : UInt8) (more : List UInt8) :
    dataItemsFromBytes (count + 1) (index :: length :: more) =
      if (index :: length :: more).length < (length + 2).toNat then .error .outOfBounds
      else (do
        let (_, dataItem) ← DataItem.getFromBytes {}
          ((index :: length :: more).take (length + 2).toNat)
        let (dataItems, rest) ← dataItemsFromBytes count
          ((index :: length :: more).drop (length + 2).toNat)
        pure (dataItem :: dataItems, rest)) :=
  rfl

/-- Items with at most 249 data bytes are read from the bytes that they are written as. -/
theorem dataItemsFromBytes_eq {items : List DataItem}
    (h : ∀ item ∈ items, item.data.length ≤ 249) (rest : List UInt8) :
    dataItemsFromBytes items.length
        ((items.flatMap fun item => item.withLength.setToBytes) ++ rest) =
      .ok (items.map DataItem.withLength, rest) := by
  induction items with
  | nil => rfl
  | cons item items ih =>
      have hitem : item.data.length ≤ 249 := h item List.mem_cons_self
      have hrest := ih fun other hother => h other (List.mem_cons_of_mem item hother)
      have hfits : item.data.length ≤ 251 := by omega
      have hne := DataItem.length_withLength_ne_zero hfits
      have hlen := DataItem.length_setToBytes_withLength hfits
      -- 2 can be added to the length in one byte
      have hdataItemLen : (item.withLength.length + 2).toNat =
          item.withLength.setToBytes.length := by
        have hlength := DataItem.toNat_length_withLength hfits
        show (item.withLength.length.toNat + 2) % 256 = _
        omega
      have hread := DataItem.getFromBytes_setToBytes hne
      set bytes := item.withLength.setToBytes with hbytes
      have hhead : ∃ more, bytes = item.withLength.index :: item.withLength.length :: more := by
        rw [hbytes, DataItem.setToBytes, if_neg hne]
        exact ⟨_, rfl⟩
      obtain ⟨more, hmore⟩ := hhead
      rw [List.flatMap_cons, List.append_assoc, List.length_cons, ← hbytes]
      set tail := (items.flatMap fun item => item.withLength.setToBytes) ++ rest with htail
      have hshort : ¬ (bytes ++ tail).length < bytes.length := by simp
      have hinput : bytes ++ tail =
          item.withLength.index :: item.withLength.length :: (more ++ tail) := by
        rw [hmore]
        rfl
      rw [hinput, dataItemsFromBytes_succ, ← hinput, hdataItemLen, if_neg hshort,
        List.take_left' rfl, List.drop_left' rfl, hread]
      simp only [hrest, bind, Except.bind, pure, Except.pure, List.map_cons]

/-- Items with a length are read from no other bytes. -/
theorem eq_of_dataItemsFromBytes {count : Nat} {input rest : List UInt8} {items : List DataItem}
    (hread : dataItemsFromBytes count input = .ok (items, rest))
    (h : ∀ item ∈ items, item.length ≠ 0) : input = items.flatMap DataItem.setToBytes ++ rest := by
  induction count generalizing input items with
  | zero =>
      cases hread
      rfl
  | succ count ih =>
      cases input with
      | nil => cases hread
      | cons index input =>
          cases input with
          | nil => cases hread
          | cons length more =>
              rw [dataItemsFromBytes_succ] at hread
              split at hread
              · cases hread
              obtain ⟨⟨ret, item⟩, hitem, hread⟩ := bind_eq_ok.mp hread
              obtain ⟨⟨others, behind⟩, hothers, hread⟩ := bind_eq_ok.mp hread
              cases hread
              have hfirst :=
                DataItem.eq_setToBytes_of_getFromBytes hitem (h item List.mem_cons_self)
              have hbehind := ih hothers fun other hother =>
                h other (List.mem_cons_of_mem item hother)
              rw [List.flatMap_cons, List.append_assoc, ← hbehind, ← hfirst]
              exact (List.take_append_drop _ _).symm

/-! ## Frames -/

namespace FrameAll

/-- A received frame has the header and the items of the frame that was sent. -/
structure Restores (received frame : FrameAll) : Prop where
  beginByte : received.beginByte = frame.beginByte
  version : received.version = frame.version
  controlCenterID : received.controlCenterID = frame.controlCenterID
  roadTrafficSignalControllerID :
    received.roadTrafficSignalControllerID = frame.roadTrafficSignalControllerID
  roadID : received.roadID = frame.roadID
  sequence : received.sequence = frame.sequence
  type : received.type = frame.type
  dataItemNum : received.dataItemNum = frame.dataItemNum
  dataItems : received.dataItems = frame.dataItems.map DataItem.withLength

/-- The header without the length takes 11 bytes. -/
theorem length_content (frame : FrameAll) :
    frame.content.length =
      11 + (frame.dataItems.flatMap fun item => item.withLength.setToBytes).length := by
  simp only [content, bytes32, List.length_append, List.length_cons, List.length_nil]

/-- A frame whose items have at most 249 data bytes is read from the bytes that it is written as,
whatever follows them. -/
theorem getFromBytes_eq (fresh : FrameAll) {frame : FrameAll}
    (hnum : frame.dataItemNum.toNat = frame.dataItems.length)
    (hdata : ∀ item ∈ frame.dataItems, item.data.length ≤ 249)
    (beginByte length1 length0 crc1 crc0 endByte : UInt8) (behind : List UInt8) :
    fresh.getFromBytes (beginByte :: length1 :: length0 ::
        (frame.content ++ crc1 :: crc0 :: endByte :: behind)) =
      .ok (0,
        { fresh with
          beginByte
          length := word16 length1 length0
          version := frame.version
          controlCenterID := frame.controlCenterID
          roadTrafficSignalControllerID := frame.roadTrafficSignalControllerID
          roadID := frame.roadID
          sequence := frame.sequence
          type := frame.type
          dataItemNum := frame.dataItemNum
          dataItems := fresh.dataItems ++ frame.dataItems.map DataItem.withLength
          crc16 := word16 crc1 crc0
          endByte }) := by
  have hlong : ¬ (beginByte :: length1 :: length0 ::
      (frame.content ++ crc1 :: crc0 :: endByte :: behind)).length < 17 := by
    have hcontent := frame.length_content
    simp only [List.length_cons, List.length_append]
    omega
  have hitems := dataItemsFromBytes_eq hdata (crc1 :: crc0 :: endByte :: behind)
  rw [← hnum] at hitems
  unfold getFromBytes
  rw [if_neg hlong]
  simp only [content, bytes32, List.cons_append, List.nil_append, hitems, bind, Except.bind, pure,
    Except.pure, word16_highByte_lowByte, word32_bytes32]

/-- When a frame is restored, its bytes were read, or the input was too short to be read at all. -/
theorem eq_of_getFromBytes {fresh received frame : FrameAll} {input : List UInt8} {ret : Int}
    (hfresh : fresh.dataItems = []) (hread : fresh.getFromBytes input = .ok (ret, received))
    (hrestores : received.Restores frame)
    (hdata : ∀ item ∈ frame.dataItems, item.data.length ≤ 249) :
    received = fresh ∨ ∃ length1 length0 crc1 crc0 endByte behind,
      input = frame.beginByte :: length1 :: length0 ::
        (frame.content ++ crc1 :: crc0 :: endByte :: behind) := by
  unfold getFromBytes at hread
  split at hread
  · cases hread
    exact .inl rfl
  right
  split at hread
  · next beginByte length1 length0 version1 version0 controlCenterID id3 id2 id1 id0 roadID sequence
        type dataItemNum rest hlong =>
      obtain ⟨⟨items, rest'⟩, hitems, hread⟩ := bind_eq_ok.mp hread
      dsimp only at hread
      split at hread
      · next crc1 crc0 endByte behind =>
          cases hread
          have hrestored := hrestores.dataItems
          rw [hfresh, List.nil_append] at hrestored
          subst hrestored
          have hnonzero : ∀ item ∈ frame.dataItems.map DataItem.withLength, item.length ≠ 0 := by
            intro item hitem
            obtain ⟨original, horiginal, rfl⟩ := List.mem_map.mp hitem
            have hfits := hdata original horiginal
            exact DataItem.length_withLength_ne_zero (by omega)
          have hbytes := eq_of_dataItemsFromBytes hitems hnonzero
          rw [List.flatMap_map] at hbytes
          refine ⟨length1, length0, crc1, crc0, endByte, behind, ?_⟩
          rw [content, ← hrestores.version, ← hrestores.controlCenterID,
            ← hrestores.roadTrafficSignalControllerID, ← hrestores.roadID, ← hrestores.sequence,
            ← hrestores.type, ← hrestores.dataItemNum, ← hrestores.beginByte]
          simp only [highByte_word16, lowByte_word16, bytes32_word32, hbytes, List.cons_append,
            List.nil_append]
      · cases hread
  · cases hread

/-! ## Length and checksum -/

/-- What is sent when neither field was updated before: the length and the checksum are put around
the bytes between them. -/
def enclose (beginByte : UInt8) (inner : List UInt8) (endByte : UInt8) : List UInt8 :=
  let length := UInt16.ofNat (inner.length + 2)
  let covered := highByte length :: lowByte length :: inner
  beginByte :: (covered ++
    [highByte (comFrameCRC16 covered), lowByte (comFrameCRC16 covered), endByte])

@[simp] theorem length_enclose (beginByte : UInt8) (inner : List UInt8) (endByte : UInt8) :
    (enclose beginByte inner endByte).length = inner.length + 6 := by
  simp [enclose]

/-- The checksum covers all bytes but the first one and the last three. -/
theorem covered_eq (first : UInt8) (middle : List UInt8) (crc1 crc0 last : UInt8) :
    covered (first :: (middle ++ [crc1, crc0, last])) = middle := by
  have hcount : (first :: (middle ++ [crc1, crc0, last])).length - 3 = middle.length + 1 := by
    simp
  rw [covered, hcount, List.take_succ_cons, List.take_left' rfl, List.drop_one, List.tail_cons]

/-- The checksum in front of the last byte is that of the bytes that it covers. -/
def ChecksumAgrees (bytes : List UInt8) : Prop :=
  comFrameCRC16 (covered bytes) =
    word16 (bytes.getD (bytes.length - 3) 0) (bytes.getD (bytes.length - 2) 0)

theorem checksumAgrees_iff (first : UInt8) (middle : List UInt8) (crc1 crc0 last : UInt8) :
    ChecksumAgrees (first :: (middle ++ [crc1, crc0, last])) ↔
      comFrameCRC16 middle = word16 crc1 crc0 := by
  have hthird : (first :: (middle ++ [crc1, crc0, last])).length - 3 = middle.length + 1 := by simp
  have hsecond : (first :: (middle ++ [crc1, crc0, last])).length - 2 = middle.length + 1 + 1 := by
    simp
  have hcrc1 : (first :: (middle ++ [crc1, crc0, last])).getD (middle.length + 1) 0 = crc1 := by
    simp
  have hcrc0 : (first :: (middle ++ [crc1, crc0, last])).getD (middle.length + 1 + 1) 0 = crc0 := by
    simp
  rw [ChecksumAgrees, covered_eq, hthird, hsecond, hcrc1, hcrc0]

theorem updateByteLength_eq (first x y : UInt8) {rest : List UInt8} (h : 14 ≤ rest.length) :
    updateByteLength (first :: x :: y :: rest) =
      (0, first :: highByte (UInt16.ofNat (rest.length - 1)) ::
        lowByte (UInt16.ofNat (rest.length - 1)) :: rest) := by
  have hlong : ¬ (first :: x :: y :: rest).length < 17 := by
    simp only [List.length_cons]
    omega
  have hcount : (first :: x :: y :: rest).length - 4 = rest.length - 1 := by
    simp only [List.length_cons]
    omega
  rw [updateByteLength, if_neg hlong, hcount]
  rfl

theorem updateByteCRC16_eq (first : UInt8) {middle : List UInt8} (h : 13 ≤ middle.length)
    (x y last : UInt8) :
    updateByteCRC16 (first :: (middle ++ [x, y, last])) =
      (0, first ::
        (middle ++ [highByte (comFrameCRC16 middle), lowByte (comFrameCRC16 middle), last])) := by
  have hlong : ¬ (first :: (middle ++ [x, y, last])).length < 17 := by
    simp only [List.length_cons, List.length_append, List.length_nil]
    omega
  have hthird : (first :: (middle ++ [x, y, last])).length - 3 = middle.length + 1 := by simp
  have hsecond : (first :: (middle ++ [x, y, last])).length - 2 = middle.length + 1 + 1 := by simp
  rw [updateByteCRC16, if_neg hlong, covered_eq, hthird, hsecond]
  simp

/-- The two updates of the bytes enclose those between length and checksum. -/
theorem updateBytes_eq (first x y : UInt8) {inner : List UInt8} (h : 11 ≤ inner.length)
    (p q last : UInt8) :
    (updateByteCRC16 (updateByteLength (first :: x :: y :: (inner ++ [p, q, last]))).2).2 =
      enclose first inner last := by
  have hlength : 14 ≤ (inner ++ [p, q, last]).length := by
    simp only [List.length_append, List.length_cons, List.length_nil]
    omega
  have hcount : (inner ++ [p, q, last]).length - 1 = inner.length + 2 := by simp
  rw [updateByteLength_eq _ _ _ hlength, hcount]
  set length := UInt16.ofNat (inner.length + 2) with hvalue
  have hmiddle : 13 ≤ (highByte length :: lowByte length :: inner).length := by
    simp only [List.length_cons]
    omega
  have hcrc := updateByteCRC16_eq first hmiddle p q last
  show (updateByteCRC16 (first :: (highByte length :: lowByte length :: inner ++
    [p, q, last]))).2 = _
  rw [hcrc, enclose, ← hvalue]

/-- What is sent has the right length, so that it is accepted if and only if the bytes without the
escapes can be read and their checksum agrees. -/
theorem getFromBytesWithTF_enclose_iff {fresh received : FrameAll} {beginByte endByte : UInt8}
    {inner bytes : List UInt8} (h : 11 ≤ inner.length)
    (hbytes : removeTF fresh.comType (enclose beginByte inner endByte) = .ok bytes) :
    fresh.getFromBytesWithTF (enclose beginByte inner endByte) true = .ok (0, received) ↔
      (∃ ret, fresh.getFromBytes bytes = .ok (ret, received)) ∧ ChecksumAgrees bytes := by
  have hlong : ¬ (enclose beginByte inner endByte).length < 17 := by
    rw [length_enclose]
    omega
  have hlength : UInt16.ofNat ((enclose beginByte inner endByte).length - 4) =
      word16 ((enclose beginByte inner endByte).getD 1 0)
        ((enclose beginByte inner endByte).getD 2 0) := by
    rw [length_enclose, show inner.length + 6 - 4 = inner.length + 2 from by omega]
    exact (word16_highByte_lowByte _).symm
  rw [getFromBytesWithTF, if_neg hlong, if_neg (not_not.mpr hlength), hbytes]
  constructor
  · intro haccepted
    obtain ⟨_, hok, haccepted⟩ := bind_eq_ok.mp haccepted
    cases hok
    obtain ⟨⟨ret, read⟩, hread, haccepted⟩ := bind_eq_ok.mp haccepted
    dsimp only at haccepted
    split at haccepted
    · cases haccepted
    · next hcrc =>
        cases haccepted
        exact ⟨⟨ret, hread⟩, not_not.mp fun hne => hcrc ⟨rfl, hne⟩⟩
  · rintro ⟨⟨ret, hread⟩, hcrc⟩
    refine bind_eq_ok.mpr ⟨bytes, rfl, bind_eq_ok.mpr ⟨(ret, received), hread, ?_⟩⟩
    have hagrees : ¬ (true = true ∧ ¬ ChecksumAgrees bytes) := fun hwrong => hwrong.2 hcrc
    exact if_neg hagrees

end FrameAll

end RVDataFusionServer
