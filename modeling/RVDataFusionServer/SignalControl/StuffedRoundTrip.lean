import RVDataFusionServer.SignalControl.Stuffing
import RVDataFusionServer.SignalControl.UdpRoundTrip

/-!
# Frames over TCP and RS-232

`setToBytesWithTF` escapes the bytes of a frame first and then writes the length and the checksum
over bytes of the escaped frame. Its checksum covers the escapes, while `getFromBytesWithTF`
compares it with that of the bytes without them. What is overwritten are the first two bytes of the
escaped length and the last two of the escaped checksum, so that up to two bytes of either field
stay behind. `stuffed_round_trip_iff` says for which frames this goes well.
-/

namespace RVDataFusionServer

open Library

namespace FrameAll

/-- The bytes that are sent are accepted by every frame object of the same communication type, and
restore the frame. -/
def StuffedRoundTrip (frame : FrameAll) : Prop :=
  ∃ bytes, frame.setToBytesWithTF = .ok (0, bytes) ∧
    ∀ fresh : FrameAll, fresh.Fresh frame.comType →
      ∃ received, fresh.getFromBytesWithTF bytes true = .ok (0, received) ∧
        received.Restores frame

/-- What is left of the escaped length that the frame had: its first two bytes are overwritten. -/
def keptLength (frame : FrameAll) : List UInt8 :=
  if lowByte frame.length ∈ needSet then
    if highByte frame.length ∈ needSet then [escapeByte, lowByte frame.length]
    else [lowByte frame.length]
  else if highByte frame.length ∈ needSet then [lowByte frame.length]
  else []

/-- What is left of the escaped checksum that the frame had: its last two bytes are overwritten. -/
def keptCRC (frame : FrameAll) : List UInt8 :=
  if highByte frame.crc16 ∈ needSet then
    if lowByte frame.crc16 ∈ needSet then [escapeByte, highByte frame.crc16] else [escapeByte]
  else if lowByte frame.crc16 ∈ needSet then [highByte frame.crc16]
  else []

/-- The bytes between the length and the checksum that are sent. -/
def stuffedInner (frame : FrameAll) : List UInt8 :=
  frame.keptLength ++ (escape escapeByte needSet frame.content ++ frame.keptCRC)

/-- The length that is sent. -/
def stuffedLength (frame : FrameAll) : UInt16 := UInt16.ofNat (frame.stuffedInner.length + 2)

/-- The checksum of some bytes under a length. -/
def crcUnder (length : UInt16) (inner : List UInt8) : UInt16 :=
  comFrameCRC16 (highByte length :: lowByte length :: inner)

/-- The checksum that is sent. -/
def stuffedCRC (frame : FrameAll) : UInt16 := crcUnder frame.stuffedLength frame.stuffedInner

/-- What is read in front of the content: the length that is sent and what is left of the old one,
without the first byte of each pair that they happen to form. -/
def heading (frame : FrameAll) : List UInt8 :=
  unescape escapeByte needSet
    (highByte frame.stuffedLength :: lowByte frame.stuffedLength :: frame.keptLength)

/-- The last bytes that are sent: what is left of the old checksum, the new one and the end mark. -/
def lastBytes (frame : FrameAll) : List UInt8 :=
  frame.keptCRC ++ [highByte frame.stuffedCRC, lowByte frame.stuffedCRC, frame.endByte]

/-- One byte too many stands in front of a content that has this byte everywhere, so that nobody
can tell whether it stands in front of it or behind it. -/
def Uniform (frame : FrameAll) : Prop :=
  frame.heading.length = 3 ∧ ∀ x ∈ frame.content, x = lowByte frame.length

instance (frame : FrameAll) : Decidable frame.Uniform := inferInstanceAs (Decidable (_ ∧ _))

/-- What is read behind the content. -/
def trailer (frame : FrameAll) : List UInt8 :=
  if ¬ frame.Uniform then unescape escapeByte needSet frame.lastBytes
  else if frame.keptLength = [escapeByte] then
    unescape escapeByte needSet (escapeByte :: frame.lastBytes)
  else lowByte frame.length :: unescape escapeByte needSet frame.lastBytes

/-- The length that is sent forms as many pairs as bytes are left of the old one, so that two bytes
are read in front of the content, and behind it stand at least three, with the right checksum. -/
structure Legible (frame : FrameAll) : Prop where
  place : frame.heading.length = 2 ∨ frame.Uniform
  checksum : ∃ front crc1 crc0 last, frame.trailer = front ++ [crc1, crc0, last] ∧
    comFrameCRC16 (frame.heading.take 2 ++ (frame.content ++ front)) = word16 crc1 crc0

/-- The fields that are overwritten need no escapes. -/
structure CleanFields (frame : FrameAll) : Prop where
  length : highByte frame.length ∉ needSet ∧ lowByte frame.length ∉ needSet
  crc16 : highByte frame.crc16 ∉ needSet ∧ lowByte frame.crc16 ∉ needSet

/-- The bytes that are written last form no pair with an escape byte, and the escapes do not change
the checksum. -/
structure Harmless (frame : FrameAll) : Prop where
  length : ¬ (highByte frame.stuffedLength = escapeByte ∧ lowByte frame.stuffedLength ∈ needSet)
  crc : ¬ (highByte frame.stuffedCRC = escapeByte ∧ lowByte frame.stuffedCRC ∈ needSet)
  crcEnd : lowByte frame.stuffedCRC ≠ escapeByte
  checksum : frame.stuffedCRC = crcUnder frame.stuffedLength frame.content

/-- What is behind the first byte when the escapes are taken out of the sent bytes. -/
def unstuffed (frame : FrameAll) : List UInt8 :=
  unescape escapeByte needSet (enclose frame.beginByte frame.stuffedInner frame.endByte).tail

/-- Without the escapes, the content stands where it is read, and the checksum agrees. -/
def SurvivesStuffing (frame : FrameAll) : Prop :=
  (∃ length1 length0 crc1 crc0 endByte behind, frame.unstuffed =
    length1 :: length0 :: (frame.content ++ crc1 :: crc0 :: endByte :: behind)) ∧
  ChecksumAgrees (frame.beginByte :: frame.unstuffed)

variable {frame : FrameAll}

theorem length_stuffedInner (frame : FrameAll) : 11 ≤ frame.stuffedInner.length := by
  have hcontent := frame.length_content
  have hescape := length_le_length_escape escapeByte needSet frame.content
  simp only [stuffedInner, List.length_append]
  omega

/-- The escaped length, of which the first two bytes are overwritten. -/
theorem exists_escape_length (frame : FrameAll) : ∃ x y,
    escape escapeByte needSet [highByte frame.length, lowByte frame.length] =
      x :: y :: frame.keptLength := by
  unfold keptLength
  by_cases hhigh : highByte frame.length ∈ needSet <;>
    by_cases hlow : lowByte frame.length ∈ needSet <;>
    simp [escape, hhigh, hlow]

/-- The escaped checksum, of which the last two bytes are overwritten. -/
theorem exists_escape_crc16 (frame : FrameAll) : ∃ p q,
    escape escapeByte needSet [highByte frame.crc16, lowByte frame.crc16] =
      frame.keptCRC ++ [p, q] := by
  unfold keptCRC
  by_cases hhigh : highByte frame.crc16 ∈ needSet <;>
    by_cases hlow : lowByte frame.crc16 ∈ needSet <;>
    simp [escape, hhigh, hlow]

/-- The length and the checksum are written over the escaped frame. -/
theorem setToBytesWithTF_eq (hcom : frame.comType ≠ .udp)
    (hupdateLength : frame.isUpdateLength = false) (hupdateCRC : frame.isUpdateCRC = false) :
    frame.setToBytesWithTF =
      .ok (0, enclose frame.beginByte frame.stuffedInner frame.endByte) := by
  obtain ⟨x, y, hlength⟩ := frame.exists_escape_length
  obtain ⟨p, q, hcrc⟩ := frame.exists_escape_crc16
  have hbytes : addTF frame.comType frame.setToBytes =
      .ok (frame.beginByte :: x :: y :: (frame.stuffedInner ++ [p, q, frame.endByte])) := by
    have hsplit : frame.setToBytes = frame.beginByte ::
        (([highByte frame.length, lowByte frame.length] ++
          (frame.content ++ [highByte frame.crc16, lowByte frame.crc16])) ++
            [frame.endByte]) := by
      simp [setToBytes]
    rw [addTF, if_pos hcom, hsplit, transferMean_eq, escape_append, escape_append, hlength, hcrc,
      stuffedInner]
    simp only [List.cons_append, List.append_assoc, List.nil_append]
  have hupdated := updateBytes_eq frame.beginByte x y (length_stuffedInner frame) p q
    frame.endByte
  unfold setToBytesWithTF
  rw [hbytes, hupdateLength, hupdateCRC]
  exact congrArg (fun bytes => Except.ok (0, bytes)) hupdated

/-- The escapes are taken out behind the first byte. -/
theorem removeTF_enclose (hcom : frame.comType ≠ .udp) :
    removeTF frame.comType (enclose frame.beginByte frame.stuffedInner frame.endByte) =
      .ok (frame.beginByte :: frame.unstuffed) := by
  rw [removeTF, if_pos hcom]
  exact deTransferMean_eq _ _

/-- A frame is restored if and only if it survives: the content can be read at no other place. -/
theorem stuffedRoundTrip_iff (hcom : frame.comType ≠ .udp)
    (hupdateLength : frame.isUpdateLength = false) (hupdateCRC : frame.isUpdateCRC = false)
    (hnum : frame.dataItemNum.toNat = frame.dataItems.length)
    (hdata : ∀ item ∈ frame.dataItems, item.data.length ≤ 249) :
    frame.StuffedRoundTrip ↔ frame.SurvivesStuffing := by
  have hbytes := removeTF_enclose hcom
  have haccepted {fresh received : FrameAll} (hfresh : fresh.Fresh frame.comType) :
      fresh.getFromBytesWithTF (enclose frame.beginByte frame.stuffedInner frame.endByte) true =
          .ok (0, received) ↔
        (∃ ret, fresh.getFromBytes (frame.beginByte :: frame.unstuffed) = .ok (ret, received)) ∧
          ChecksumAgrees (frame.beginByte :: frame.unstuffed) :=
    getFromBytesWithTF_enclose_iff (length_stuffedInner frame) (hfresh.comType ▸ hbytes)
  constructor
  · rintro ⟨bytes, hsent, hreceived⟩
    rw [setToBytesWithTF_eq hcom hupdateLength hupdateCRC] at hsent
    cases hsent
    -- the object that receives may have had another version before
    have hfresh : Fresh frame.comType { blank frame.comType with version := frame.version + 1 } :=
      ⟨rfl, rfl, rfl, rfl⟩
    obtain ⟨received, hok, hrestores⟩ := hreceived _ hfresh
    obtain ⟨⟨ret, hread⟩, hcrc⟩ := (haccepted hfresh).mp hok
    obtain rfl | ⟨length1, length0, crc1, crc0, endByte, behind, hinput⟩ :=
      eq_of_getFromBytes rfl hread hrestores hdata
    · have hversion : frame.version + 1 = frame.version := hrestores.version
      simp at hversion
    · exact ⟨⟨length1, length0, crc1, crc0, endByte, behind, (List.cons.inj hinput).2⟩, hcrc⟩
  · rintro ⟨⟨length1, length0, crc1, crc0, endByte, behind, hinput⟩, hcrc⟩
    refine ⟨_, setToBytesWithTF_eq hcom hupdateLength hupdateCRC, ?_⟩
    intro fresh hfresh
    have hread := getFromBytes_eq fresh hnum hdata frame.beginByte length1 length0 crc1 crc0
      endByte behind
    rw [← hinput, hfresh.dataItems] at hread
    exact ⟨_, (haccepted hfresh).mpr ⟨⟨0, hread⟩, hcrc⟩,
      ⟨rfl, rfl, rfl, rfl, rfl, rfl, rfl, rfl, rfl⟩⟩

/-! ## Where the content stands -/

theorem unstuffed_eq (frame : FrameAll) : frame.unstuffed = unescape escapeByte needSet
    (highByte frame.stuffedLength :: lowByte frame.stuffedLength ::
      (frame.keptLength ++ (escape escapeByte needSet frame.content ++ frame.lastBytes))) := by
  have hsame : (enclose frame.beginByte frame.stuffedInner frame.endByte).tail =
      highByte frame.stuffedLength :: lowByte frame.stuffedLength ::
        (frame.stuffedInner ++
          [highByte frame.stuffedCRC, lowByte frame.stuffedCRC, frame.endByte]) := rfl
  rw [unstuffed, hsame, stuffedInner, lastBytes]
  simp only [List.append_assoc]

/-- A symbol in front of a text that is itself read in the text's place. -/
theorem cons_append_eq_append_iff {x : UInt8} {text rest other : List UInt8} :
    x :: (text ++ rest) = text ++ other ↔ (∀ y ∈ text, y = x) ∧ other = x :: rest := by
  induction text generalizing x with
  | nil => simp [eq_comm]
  | cons y text ih =>
      show x :: y :: (text ++ rest) = y :: (text ++ other) ↔ _
      rw [List.cons.injEq]
      constructor
      · rintro ⟨rfl, hrest⟩
        obtain ⟨hall, hother⟩ := ih.mp hrest
        refine ⟨?_, hother⟩
        intro z hz
        obtain rfl | hz := List.mem_cons.mp hz
        · rfl
        · exact hall z hz
      · rintro ⟨hall, hother⟩
        obtain rfl : y = x := hall y List.mem_cons_self
        exact ⟨rfl, ih.mpr ⟨fun z hz => hall z (List.mem_cons_of_mem y hz), hother⟩⟩

/-- How long a content with a single value is: the value is the number of items and the length of
each. -/
theorem length_content_of_forall_eq (hnum : frame.dataItemNum.toNat = frame.dataItems.length)
    (hdata : ∀ item ∈ frame.dataItems, item.data.length ≤ 249) {x : UInt8}
    (hall : ∀ y ∈ frame.content, y = x) :
    frame.content.length = 11 + x.toNat * (x.toNat + 2) ∧ x.toNat ≤ 253 := by
  have hcount : frame.dataItems.length = x.toNat := by
    have hbyte : frame.dataItemNum = x := hall _ (by simp [content])
    rw [← hnum, hbyte]
  have hitems : ∀ item ∈ frame.dataItems, x.toNat = 4 + item.data.length ∧
      item.withLength.setToBytes.length = x.toNat + 2 := by
    intro item hitem
    have hfits : item.data.length ≤ 251 := by
      have hitemData := hdata item hitem
      omega
    have hmem : item.withLength.length ∈ frame.content := by
      refine List.mem_append_right _ (List.mem_flatMap.mpr ⟨item, hitem, ?_⟩)
      rw [DataItem.setToBytes, if_neg (DataItem.length_withLength_ne_zero hfits)]
      simp
    have hlength := DataItem.toNat_length_withLength hfits
    rw [hall _ hmem] at hlength
    refine ⟨hlength, ?_⟩
    rw [DataItem.length_setToBytes_withLength hfits]
    omega
  have hflat : (frame.dataItems.flatMap fun item => item.withLength.setToBytes).length =
      frame.dataItems.length * (x.toNat + 2) := by
    rw [List.length_flatMap, List.map_congr_left fun item hitem => (hitems item hitem).2,
      List.map_const', List.sum_replicate_nat]
  refine ⟨by rw [length_content, hflat, hcount], ?_⟩
  cases hlist : frame.dataItems with
  | nil =>
      rw [← hcount, hlist]
      exact Nat.zero_le _
  | cons item items =>
      have hmem : item ∈ frame.dataItems := by
        rw [hlist]
        exact List.mem_cons_self
      have hlength := (hitems item hmem).1
      have hitemData := hdata item hmem
      omega

theorem keptLength_cases (frame : FrameAll) :
    frame.keptLength = [] ∨ frame.keptLength = [lowByte frame.length] ∨
      (frame.keptLength = [escapeByte, lowByte frame.length] ∧
        lowByte frame.length ∈ needSet) := by
  unfold keptLength
  split_ifs with hlow <;> simp [hlow]

theorem length_keptLength_le (frame : FrameAll) : frame.keptLength.length ≤ 2 := by
  unfold keptLength
  split_ifs <;> simp

theorem length_keptCRC_le (frame : FrameAll) : frame.keptCRC.length ≤ 2 := by
  unfold keptCRC
  split_ifs <;> simp

/-- The bytes that are escaped, as numbers. -/
theorem toNat_of_mem_needSet {x : UInt8} (h : x ∈ needSet) :
    x.toNat = 126 ∨ x.toNat = 125 ∨ x.toNat = 92 := by
  have hcases : x = 0x7e ∨ x = 0x7d ∨ x = 0x5c := by simpa [needSet] using h
  rcases hcases with rfl | rfl | rfl <;> simp

/-- The length that is sent for a content with a single value. -/
theorem toNat_stuffedLength_of_forall_eq (hnum : frame.dataItemNum.toNat = frame.dataItems.length)
    (hdata : ∀ item ∈ frame.dataItems, item.data.length ≤ 249) {x : UInt8}
    (hall : ∀ y ∈ frame.content, y = x) :
    frame.stuffedLength.toNat = frame.keptLength.length +
      (if x ∈ needSet then 2 else 1) * (11 + x.toNat * (x.toNat + 2)) +
      frame.keptCRC.length + 2 := by
  obtain ⟨hlength, hx⟩ := length_content_of_forall_eq hnum hdata hall
  have hkeptLength := frame.length_keptLength_le
  have hkeptCRC := frame.length_keptCRC_le
  have hescape : (escape escapeByte needSet frame.content).length =
      (if x ∈ needSet then 2 else 1) * (11 + x.toNat * (x.toNat + 2)) ∧
      (if x ∈ needSet then 2 else 1) * (11 + x.toNat * (x.toNat + 2)) ≤ 64526 := by
    by_cases hmem : x ∈ needSet
    · rw [if_pos hmem, ← hlength]
      refine ⟨length_escape_of_mem _ _ fun y hy => (hall y hy).symm ▸ hmem, ?_⟩
      have hsmall : x.toNat ≤ 126 := by
        rcases toNat_of_mem_needSet hmem with h | h | h <;> omega
      have hproduct : x.toNat * (x.toNat + 2) ≤ 126 * 128 :=
        Nat.mul_le_mul hsmall (Nat.add_le_add_right hsmall 2)
      omega
    · rw [if_neg hmem, one_mul, ← hlength]
      refine ⟨?_, ?_⟩
      · rw [escape_eq_self _ _ fun y hy => (hall y hy).symm ▸ hmem]
      · have hproduct : x.toNat * (x.toNat + 2) ≤ 253 * 255 :=
          Nat.mul_le_mul hx (Nat.add_le_add_right hx 2)
        omega
  have hinner : frame.stuffedInner.length + 2 = frame.keptLength.length +
      (if x ∈ needSet then 2 else 1) * (11 + x.toNat * (x.toNat + 2)) +
      frame.keptCRC.length + 2 := by
    rw [stuffedInner, List.length_append, List.length_append, hescape.1]
    omega
  rw [stuffedLength, hinner, UInt16.toNat_ofNat']
  exact Nat.mod_eq_of_lt (by omega)

/-- Around a content with a single value, the length that is sent is no pair. -/
theorem stuffedLength_of_forall_eq (hnum : frame.dataItemNum.toNat = frame.dataItems.length)
    (hdata : ∀ item ∈ frame.dataItems, item.data.length ≤ 249) {x : UInt8}
    (hall : ∀ y ∈ frame.content, y = x) :
    ¬ (highByte frame.stuffedLength = escapeByte ∧ lowByte frame.stuffedLength ∈ needSet) := by
  rintro ⟨hhigh, hlow⟩
  have hsent := toNat_stuffedLength_of_forall_eq hnum hdata hall
  have hkeptLength := frame.length_keptLength_le
  have hkeptCRC := frame.length_keptCRC_le
  have hvalue := toNat_word16 (highByte frame.stuffedLength) (lowByte frame.stuffedLength)
  have hlowRange := toNat_of_mem_needSet hlow
  rw [word16_highByte_lowByte, hhigh, show escapeByte.toNat = 92 from rfl] at hvalue
  by_cases hmem : x ∈ needSet
  · rw [if_pos hmem] at hsent
    -- 23677 lies between 2 * (11 + 92 * 94) and 2 * (11 + 125 * 127)
    rcases toNat_of_mem_needSet hmem with hx | hx | hx <;> rw [hx] at hsent <;> omega
  · rw [if_neg hmem] at hsent
    -- 23677 lies between 11 + 152 * 154 and 11 + 153 * 155
    obtain hx | hx := Nat.lt_or_ge 152 x.toNat
    · have hproduct : 153 * 155 ≤ x.toNat * (x.toNat + 2) :=
        Nat.mul_le_mul hx (Nat.add_le_add_right hx 2)
      omega
    · have hproduct : x.toNat * (x.toNat + 2) ≤ 152 * 154 :=
        Nat.mul_le_mul hx (Nat.add_le_add_right hx 2)
      omega

/-- Around a content of escape bytes only, the length that is sent has no escape byte. -/
theorem stuffedLength_of_forall_escapeByte
    (hnum : frame.dataItemNum.toNat = frame.dataItems.length)
    (hdata : ∀ item ∈ frame.dataItems, item.data.length ≤ 249)
    (hall : ∀ y ∈ frame.content, y = escapeByte) :
    highByte frame.stuffedLength ≠ escapeByte ∧ lowByte frame.stuffedLength ≠ escapeByte := by
  have hsent := toNat_stuffedLength_of_forall_eq hnum hdata hall
  have hkeptLength := frame.length_keptLength_le
  have hkeptCRC := frame.length_keptCRC_le
  rw [if_pos escapeByte_mem_needSet, show escapeByte.toNat = 92 from rfl] at hsent
  have hhigh := toNat_highByte frame.stuffedLength
  have hlow := toNat_lowByte frame.stuffedLength
  constructor
  · intro heq
    rw [heq, show escapeByte.toNat = 92 from rfl] at hhigh
    omega
  · intro heq
    rw [heq, show escapeByte.toNat = 92 from rfl] at hlow
    omega

/-- Two bytes are read in front of the content, or a third one that belonged to the old length, or
only one: then the length that is sent is a pair, and nothing is left of the old one. -/
theorem heading_cases (frame : FrameAll) :
    frame.heading.length = 2 ∨ (∃ a b, frame.heading = [a, b, lowByte frame.length]) ∨
      ((∃ a, frame.heading = [a]) ∧ highByte frame.stuffedLength = escapeByte ∧
        lowByte frame.stuffedLength ∈ needSet) := by
  have hkept := frame.keptLength_cases
  unfold heading
  by_cases hpair : highByte frame.stuffedLength = escapeByte ∧ lowByte frame.stuffedLength ∈ needSet
  · rw [hpair.1, unescape_pair _ _ hpair.2]
    obtain hkept | hkept | ⟨hkept, hmem⟩ := hkept
    · rw [hkept]
      exact .inr (.inr ⟨⟨_, rfl⟩, rfl, hpair.2⟩)
    · rw [hkept]
      exact .inl rfl
    · rw [hkept, unescape_pair _ _ hmem]
      exact .inl rfl
  · rw [unescape, if_neg hpair]
    by_cases hlow : lowByte frame.stuffedLength = escapeByte
    · obtain hkept | hkept | ⟨hkept, hmem⟩ := hkept
      · rw [hkept]
        exact .inl rfl
      · rw [hkept, hlow]
        by_cases hmem : lowByte frame.length ∈ needSet
        · rw [unescape_pair _ _ hmem]
          exact .inl rfl
        · rw [unescape_cons_of_notMem _ _ hmem]
          exact .inr (.inl ⟨_, _, rfl⟩)
      · rw [hkept, hlow, unescape_pair _ _ escapeByte_mem_needSet]
        exact .inr (.inl ⟨_, _, rfl⟩)
    · rw [unescape_cons_of_ne _ _ hlow]
      obtain hkept | hkept | ⟨hkept, hmem⟩ := hkept
      · rw [hkept]
        exact .inl rfl
      · rw [hkept]
        exact .inr (.inl ⟨_, _, rfl⟩)
      · rw [hkept, unescape_pair _ _ hmem]
        exact .inr (.inl ⟨_, _, rfl⟩)

/-- A last escape byte of the old length in front of a content of escape bytes only. -/
def EscapeInFront (frame : FrameAll) : Prop :=
  frame.keptLength = [escapeByte] ∧ ∀ x ∈ frame.content, x = escapeByte

/-- The three parts of what is read. -/
theorem unstuffed_eq_append (hnum : frame.dataItemNum.toNat = frame.dataItems.length)
    (hdata : ∀ item ∈ frame.dataItems, item.data.length ≤ 249) (h : ¬ frame.EscapeInFront) :
    frame.unstuffed = frame.heading ++
      (frame.content ++ unescape escapeByte needSet frame.lastBytes) := by
  have htf := escapeByte_mem_needSet
  rw [unstuffed_eq, heading]
  by_cases hother : ∃ x ∈ frame.content, x ≠ escapeByte
  · exact unescape_append_escape_append _ _ htf
      (highByte frame.stuffedLength :: lowByte frame.stuffedLength :: frame.keptLength) hother _
  · have hall : ∀ x ∈ frame.content, x = escapeByte := by
      intro x hx
      by_contra hne
      exact hother ⟨x, hx, hne⟩
    obtain ⟨hhigh, hlow⟩ := stuffedLength_of_forall_escapeByte hnum hdata hall
    rw [unescape_cons_of_ne _ _ hhigh, unescape_cons_of_ne _ _ hlow,
      unescape_cons_of_ne _ _ hhigh, unescape_cons_of_ne _ _ hlow]
    refine congrArg (highByte frame.stuffedLength :: lowByte frame.stuffedLength :: ·) ?_
    -- what is left of the old length ends with no escape byte, or with the second half of a pair
    obtain hkept | hkept | ⟨hkept, hmem⟩ := frame.keptLength_cases
    · rw [hkept]
      exact unescape_escape_append _ _ htf _ _
    · have hne : lowByte frame.length ≠ escapeByte := fun heq => h ⟨heq ▸ hkept, hall⟩
      rw [hkept]
      show unescape escapeByte needSet (lowByte frame.length ::
        (escape escapeByte needSet frame.content ++ frame.lastBytes)) = _
      rw [unescape_cons_of_ne _ _ hne, unescape_escape_append _ _ htf]
      rfl
    · rw [hkept]
      show unescape escapeByte needSet (escapeByte :: lowByte frame.length ::
        (escape escapeByte needSet frame.content ++ frame.lastBytes)) = _
      rw [unescape_pair _ _ hmem, unescape_pair _ _ hmem, unescape_escape_append _ _ htf]
      rfl

/-- An escape byte in front of a content of escape bytes only is one byte too many. -/
theorem heading_of_escapeInFront (hnum : frame.dataItemNum.toNat = frame.dataItems.length)
    (hdata : ∀ item ∈ frame.dataItems, item.data.length ≤ 249) (h : frame.EscapeInFront) :
    frame.heading = [highByte frame.stuffedLength, lowByte frame.stuffedLength, escapeByte] ∧
      frame.Uniform := by
  obtain ⟨hkept, hall⟩ := h
  obtain ⟨hhigh, hlow⟩ := stuffedLength_of_forall_escapeByte hnum hdata hall
  have hheading : frame.heading =
      [highByte frame.stuffedLength, lowByte frame.stuffedLength, escapeByte] := by
    rw [heading, hkept, unescape_cons_of_ne _ _ hhigh, unescape_cons_of_ne _ _ hlow]
    rfl
  have hlast : lowByte frame.length = escapeByte := by
    obtain hnil | hone | ⟨htwo, -⟩ := frame.keptLength_cases
    · rw [hkept] at hnil
      cases hnil
    · rw [hkept] at hone
      exact (List.cons.inj hone).1.symm
    · rw [hkept] at htwo
      cases htwo
  exact ⟨hheading, by rw [hheading]; rfl, fun x hx => (hall x hx).trans hlast.symm⟩

/-- In its place the content is read behind two bytes. -/
theorem unstuffed_eq_of_place (hnum : frame.dataItemNum.toNat = frame.dataItems.length)
    (hdata : ∀ item ∈ frame.dataItems, item.data.length ≤ 249)
    (hplace : frame.heading.length = 2 ∨ frame.Uniform) :
    ∃ a b, frame.heading.take 2 = [a, b] ∧
      frame.unstuffed = a :: b :: (frame.content ++ frame.trailer) := by
  by_cases hfront : frame.EscapeInFront
  · obtain ⟨hheading, huniform⟩ := heading_of_escapeInFront hnum hdata hfront
    obtain ⟨hhigh, hlow⟩ := stuffedLength_of_forall_escapeByte hnum hdata hfront.2
    refine ⟨_, _, by rw [hheading]; rfl, ?_⟩
    rw [unstuffed_eq, trailer, if_neg (not_not.mpr huniform), if_pos hfront.1, hfront.1,
      unescape_cons_of_ne _ _ hhigh, unescape_cons_of_ne _ _ hlow, List.singleton_append,
      cons_escape_append_of_eq _ _ escapeByte_mem_needSet hfront.2,
      unescape_escape_append _ _ escapeByte_mem_needSet]
  rw [unstuffed_eq_append hnum hdata hfront]
  by_cases huniform : frame.Uniform
  · obtain ⟨hlength, hall⟩ := huniform
    obtain htwo | ⟨a, b, hheading⟩ | ⟨⟨a, hheading⟩, -⟩ := frame.heading_cases
    · omega
    · have hkept : frame.keptLength ≠ [escapeByte] := by
        intro hkept
        obtain hnil | hone | ⟨htwo, -⟩ := frame.keptLength_cases
        · rw [hkept] at hnil
          cases hnil
        · rw [hkept] at hone
          exact hfront ⟨hkept, fun x hx => (hall x hx).trans (List.cons.inj hone).1.symm⟩
        · rw [hkept] at htwo
          cases htwo
      refine ⟨a, b, by rw [hheading]; rfl, ?_⟩
      rw [trailer, if_neg (not_not.mpr ⟨hlength, hall⟩), if_neg hkept, hheading]
      have hshifted : lowByte frame.length ::
          (frame.content ++ unescape escapeByte needSet frame.lastBytes) =
          frame.content ++
            lowByte frame.length :: unescape escapeByte needSet frame.lastBytes :=
        cons_append_eq_append_iff.mpr ⟨hall, rfl⟩
      exact congrArg (a :: b :: ·) hshifted
    · rw [hheading] at hlength
      cases hlength
  · obtain ⟨a, b, hheading⟩ := List.length_eq_two.mp (hplace.resolve_right huniform)
    refine ⟨a, b, by rw [hheading]; rfl, ?_⟩
    rw [trailer, if_pos huniform, hheading]
    rfl

/-- A content that is read where it belongs is in its place. -/
theorem place_of_located (hnum : frame.dataItemNum.toNat = frame.dataItems.length)
    (hdata : ∀ item ∈ frame.dataItems, item.data.length ≤ 249) {length1 length0 : UInt8}
    {behind : List UInt8}
    (hlocated : frame.unstuffed = length1 :: length0 :: (frame.content ++ behind)) :
    frame.heading.length = 2 ∨ frame.Uniform := by
  by_cases hfront : frame.EscapeInFront
  · exact .inr (heading_of_escapeInFront hnum hdata hfront).2
  rw [unstuffed_eq_append hnum hdata hfront] at hlocated
  obtain htwo | ⟨a, b, hheading⟩ | ⟨⟨a, hheading⟩, hpair⟩ := frame.heading_cases
  · exact .inl htwo
  · rw [hheading] at hlocated
    obtain ⟨-, hrest⟩ := List.cons.inj hlocated
    have hshifted : lowByte frame.length ::
        (frame.content ++ unescape escapeByte needSet frame.lastBytes) =
        frame.content ++ behind := (List.cons.inj hrest).2
    refine .inr ⟨by rw [hheading]; rfl, ?_⟩
    exact (cons_append_eq_append_iff.mp hshifted).1
  · -- the content would have to stand one place too late
    rw [hheading] at hlocated
    obtain ⟨-, hshifted⟩ := List.cons.inj hlocated
    obtain ⟨hall, -⟩ := cons_append_eq_append_iff.mp hshifted.symm
    exact absurd hpair (stuffedLength_of_forall_eq hnum hdata hall)

/-- A frame survives if and only if it is legible. -/
theorem survives_iff (hnum : frame.dataItemNum.toNat = frame.dataItems.length)
    (hdata : ∀ item ∈ frame.dataItems, item.data.length ≤ 249) :
    frame.SurvivesStuffing ↔ frame.Legible := by
  have hagrees_iff {a b : UInt8} {front : List UInt8} {crc1 crc0 last : UInt8}
      (hheading : frame.heading.take 2 = [a, b]) :
      ChecksumAgrees (frame.beginByte :: a :: b ::
          (frame.content ++ (front ++ [crc1, crc0, last]))) ↔
        comFrameCRC16 (frame.heading.take 2 ++ (frame.content ++ front)) = word16 crc1 crc0 := by
    rw [hheading, ← List.append_assoc frame.content]
    exact checksumAgrees_iff frame.beginByte (a :: b :: (frame.content ++ front)) _ _ _
  constructor
  · rintro ⟨⟨length1, length0, crc1, crc0, endByte, behind, hlocated⟩, hagrees⟩
    have hplace := place_of_located hnum hdata hlocated
    obtain ⟨a, b, hheading, hunstuffed⟩ := unstuffed_eq_of_place hnum hdata hplace
    rw [hunstuffed] at hlocated hagrees
    obtain ⟨-, hrest⟩ := List.cons.inj hlocated
    obtain ⟨-, hcontent⟩ := List.cons.inj hrest
    have htrailer := List.append_cancel_left hcontent
    -- the checksum is looked for in front of the last byte that is left
    obtain ⟨front, p, q, r, hlast⟩ : ∃ front p q r, frame.trailer = front ++ [p, q, r] := by
      have hthree : (frame.trailer.drop (frame.trailer.length - 3)).length = 3 := by
        rw [List.length_drop, htrailer]
        simp only [List.length_cons]
        omega
      obtain ⟨p, q, r, hdrop⟩ := List.length_eq_three.mp hthree
      exact ⟨_, p, q, r, by rw [← hdrop, List.take_append_drop]⟩
    rw [hlast] at hagrees
    exact ⟨hplace, front, p, q, r, hlast, (hagrees_iff hheading).mp hagrees⟩
  · rintro ⟨hplace, front, p, q, r, hlast, hsum⟩
    obtain ⟨a, b, hheading, hunstuffed⟩ := unstuffed_eq_of_place hnum hdata hplace
    rw [SurvivesStuffing, hunstuffed, hlast]
    refine ⟨?_, (hagrees_iff hheading).mpr hsum⟩
    cases front with
    | nil => exact ⟨a, b, p, q, r, [], rfl⟩
    | cons x front =>
        cases front with
        | nil => exact ⟨a, b, x, p, q, [r], rfl⟩
        | cons y front =>
            cases front with
            | nil => exact ⟨a, b, x, y, p, [q, r], rfl⟩
            | cons z front => exact ⟨a, b, x, y, z, front ++ [p, q, r], rfl⟩

/-! ## Clean fields -/

/-- Three bytes behind the content are left only if none of them is taken for an escape byte. -/
theorem unescape_crc_iff {crc1 crc0 : UInt8} :
    3 ≤ (unescape escapeByte needSet [crc1, crc0, 0x7d]).length ↔
      ¬ (crc1 = escapeByte ∧ crc0 ∈ needSet) ∧ crc0 ≠ escapeByte := by
  by_cases hpair : crc1 = escapeByte ∧ crc0 ∈ needSet
  · simp [unescape, hpair]
  · by_cases hend : crc0 = escapeByte
    · subst hend
      rw [unescape, if_neg hpair, unescape_pair _ _ (by decide)]
      simp [unescape]
    · rw [unescape, if_neg hpair, unescape_cons_of_ne _ _ hend]
      simp [unescape, hpair, hend]

/-- Bytes that form no pair are not changed. -/
theorem unescape_crc {crc1 crc0 : UInt8} (hpair : ¬ (crc1 = escapeByte ∧ crc0 ∈ needSet))
    (hend : crc0 ≠ escapeByte) :
    unescape escapeByte needSet [crc1, crc0, 0x7d] = [crc1, crc0, 0x7d] := by
  rw [unescape, if_neg hpair, unescape_cons_of_ne _ _ hend]
  rfl

/-- With clean fields a frame is legible if and only if the bytes that are written last are
harmless: otherwise the content is moved, or fewer than three bytes are left behind it. -/
theorem legible_iff (hclean : frame.CleanFields) (hend : frame.endByte = 0x7d) :
    frame.Legible ↔ frame.Harmless := by
  have hkeptLength : frame.keptLength = [] := by
    rw [keptLength, if_neg hclean.length.2, if_neg hclean.length.1]
  have hkeptCRC : frame.keptCRC = [] := by
    rw [keptCRC, if_neg hclean.crc16.1, if_neg hclean.crc16.2]
  set sent := [highByte frame.stuffedLength, lowByte frame.stuffedLength] with hsent
  have hheading : frame.heading = unescape escapeByte needSet sent := by
    rw [heading, hkeptLength]
  have hshort : frame.heading.length ≤ 2 := by
    rw [hheading]
    exact length_unescape_le _ _ _
  have huniform : ¬ frame.Uniform := fun huniform => by
    have hlength := huniform.1
    omega
  have htrailer : frame.trailer = unescape escapeByte needSet
      [highByte frame.stuffedCRC, lowByte frame.stuffedCRC, 0x7d] := by
    rw [trailer, if_pos huniform, lastBytes, hkeptCRC, hend]
    rfl
  have hplace : frame.heading.length = 2 ↔
      ¬ (highByte frame.stuffedLength = escapeByte ∧ lowByte frame.stuffedLength ∈ needSet) := by
    rw [hheading, hsent]
    by_cases hpair : highByte frame.stuffedLength = escapeByte ∧
        lowByte frame.stuffedLength ∈ needSet
    · simp [unescape, hpair]
    · simp [unescape, hpair]
  have htake (hno : ¬ (highByte frame.stuffedLength = escapeByte ∧
      lowByte frame.stuffedLength ∈ needSet)) : frame.heading.take 2 = sent := by
    rw [hheading, hsent, unescape, if_neg hno]
    rfl
  constructor
  · rintro ⟨hlength, front, crc1, crc0, last, hlast, hsum⟩
    have hno := hplace.mp (hlength.resolve_right huniform)
    rw [htrailer] at hlast
    have hthree : 3 ≤ (unescape escapeByte needSet
        [highByte frame.stuffedCRC, lowByte frame.stuffedCRC, 0x7d]).length := by
      rw [hlast, List.length_append]
      exact Nat.le_add_left _ _
    obtain ⟨hpair, hne⟩ := unescape_crc_iff.mp hthree
    rw [unescape_crc hpair hne] at hlast
    have hsplit : [] ++ [highByte frame.stuffedCRC, lowByte frame.stuffedCRC, 0x7d] =
        front ++ [crc1, crc0, last] := hlast
    obtain ⟨rfl, hbytes⟩ := List.append_inj' hsplit rfl
    cases hbytes
    rw [htake hno, word16_highByte_lowByte, List.append_nil] at hsum
    exact ⟨hno, hpair, hne, hsum.symm⟩
  · rintro ⟨hlength, hpair, hne, hsum⟩
    refine ⟨.inl (hplace.mpr hlength), [], highByte frame.stuffedCRC, lowByte frame.stuffedCRC,
      0x7d, ?_, ?_⟩
    · rw [htrailer, unescape_crc hpair hne]
      rfl
    · rw [htake hlength, word16_highByte_lowByte, List.append_nil]
      exact hsum.symm

/-- When a frame is restored over TCP or RS-232: it has to be legible. For a frame whose own length
and checksum need no escapes this is said by `Harmless`. -/
theorem stuffed_round_trip_iff (hcom : frame.comType ≠ .udp)
    (hupdateLength : frame.isUpdateLength = false) (hupdateCRC : frame.isUpdateCRC = false)
    (hend : frame.endByte = 0x7d)
    (hnum : frame.dataItemNum.toNat = frame.dataItems.length)
    (hdata : ∀ item ∈ frame.dataItems, item.data.length ≤ 249) :
    (frame.StuffedRoundTrip ↔ frame.Legible) ∧
      (frame.CleanFields → (frame.StuffedRoundTrip ↔ frame.Harmless)) := by
  have hlegible := (stuffedRoundTrip_iff hcom hupdateLength hupdateCRC hnum hdata).trans
    (survives_iff hnum hdata)
  exact ⟨hlegible, fun hclean => hlegible.trans (legible_iff hclean hend)⟩

/-- A request without a byte that needs an escape is restored. -/
theorem stuffed_round_trip_plain : (setRequest .tcp 0x01).StuffedRoundTrip := by
  have hclean : (setRequest .tcp 0x01).CleanFields := ⟨by decide, by decide⟩
  have hharmless : (setRequest .tcp 0x01).Harmless :=
    ⟨by decide +kernel, by decide +kernel, by decide +kernel, by decide +kernel⟩
  have hiff : (setRequest .tcp 0x01).CleanFields →
      ((setRequest .tcp 0x01).StuffedRoundTrip ↔ (setRequest .tcp 0x01).Harmless) :=
    (stuffed_round_trip_iff (by decide) rfl rfl rfl rfl (by decide)).2
  exact (hiff hclean).mpr hharmless

/-- A request with a byte that needs an escape is refused: its checksum covers the escape. -/
theorem not_stuffed_round_trip_mark : ¬ (setRequest .tcp 0x7e).StuffedRoundTrip := by
  rintro ⟨bytes, hsent, hreceived⟩
  have hbytes : (setRequest .tcp 0x7e).setToBytesWithTF = .ok (0,
      [0x7e, 0, 21, 1, 2, 1, 0, 0, 0, 1, 1, 1, 0x30, 1, 1, 5, 2, 3, 4, 0, 0x5c, 0x7e, 0xa5, 0xdc,
        0x7d]) := by
    decide +kernel
  rw [hbytes] at hsent
  cases hsent
  obtain ⟨received, hok, -⟩ := hreceived (blank .tcp) ⟨rfl, rfl, rfl, rfl⟩
  have hrefused : ((blank .tcp).getFromBytesWithTF
      [0x7e, 0, 21, 1, 2, 1, 0, 0, 0, 1, 1, 1, 0x30, 1, 1, 5, 2, 3, 4, 0, 0x5c, 0x7e, 0xa5, 0xdc,
        0x7d] true).map Prod.fst = .ok (-1) := by
    decide +kernel
  rw [hok] at hrefused
  cases hrefused

end FrameAll

end RVDataFusionServer
