import RVDataFusionServer.Common.CrcAgreement

/-!
# The documented parameters of the table-driven routines

Above each routine `CRC.h` gives the polynomial, the initial value, the reflection and the final
xor. With these the bit by bit routines compute the same, except for `Crc16TabMAXIM`, which keeps
its register in eight bits: there the result is right for the texts with two particular last bytes
only (`value_eq_documented_iff`).
-/

namespace RVDataFusionServer

open Library.ShiftRegister

/-- The table-driven routines other than `Crc16TabCCITT`. -/
inductive TableCrc where
  | crc8
  | crc8ITU
  | crc8ROHC
  | crc8MAXIM
  | crc16IBM
  | crc16MAXIM
  | crc16USB
  | crc16MODBUS
  | crc16CCITTFALSE
  | crc16X25
  | crc16XMODEM
  | crc32
  | crc32MPEG2
  deriving DecidableEq

/-- What a routine returns. -/
def TableCrc.value (data : List UInt8) : TableCrc → Nat
  | .crc8 => (crc8Tab data).toNat
  | .crc8ITU => (crc8TabITU data).toNat
  | .crc8ROHC => (crc8TabROHC data).toNat
  | .crc8MAXIM => (crc8TabMAXIM data).toNat
  | .crc16IBM => (crc16TabIBM data).toNat
  | .crc16MAXIM => (crc16TabMAXIM data).toNat
  | .crc16USB => (crc16TabUSB data).toNat
  | .crc16MODBUS => (crc16TabMODBUS data).toNat
  | .crc16CCITTFALSE => (crc16TabCCITTFALSE data).toNat
  | .crc16X25 => (crc16TabX25 data).toNat
  | .crc16XMODEM => (crc16TabXMODEM data).toNat
  | .crc32 => (crc32Tab data).toNat
  | .crc32MPEG2 => (crc32TabMPEG2 data).toNat

/-- What the bit by bit routine returns with the parameters above the routine. -/
def TableCrc.documented (data : List UInt8) : TableCrc → Nat
  | .crc8 => (crc8Cal data 0x07 0x00 0x00 0).toNat
  | .crc8ITU => (crc8Cal data 0x07 0x00 0x55 0).toNat
  | .crc8ROHC => (crc8Cal data 0x07 0xFF 0x00 1).toNat
  | .crc8MAXIM => (crc8Cal data 0x31 0x00 0x00 1).toNat
  | .crc16IBM => (crc16Cal data 0x8005 0x0000 0x0000 1).toNat
  | .crc16MAXIM => (crc16Cal data 0x8005 0x0000 0xFFFF 1).toNat
  | .crc16USB => (crc16Cal data 0x8005 0xFFFF 0xFFFF 1).toNat
  | .crc16MODBUS => (crc16Cal data 0x8005 0xFFFF 0x0000 1).toNat
  | .crc16CCITTFALSE => (crc16Cal data 0x1021 0xFFFF 0x0000 0).toNat
  | .crc16X25 => (crc16Cal data 0x1021 0xFFFF 0xFFFF 1).toNat
  | .crc16XMODEM => (crc16Cal data 0x1021 0x0000 0x0000 0).toNat
  | .crc32 => (crc32Cal data 0x04C11DB7 0xFFFFFFFF 0xFFFFFFFF 1).toNat
  | .crc32MPEG2 => (crc32Cal data 0x04C11DB7 0xFFFFFFFF 0x00000000 0).toNat

/-- Every routine with a register of the full width computes what its comment says. -/
theorem value_eq_documented (routine : TableCrc) (h : routine ≠ .crc16MAXIM) (data : List UInt8) :
    routine.value data = routine.documented data := by
  cases routine with
  | crc8 =>
      show (crc8TabLoop _ _ _).toNat = _
      rw [crc8TabLoop_eq 0x07 crcTabCrc8Poly0x07Ref0_eq]
      exact congrArg UInt8.toNat UInt8.xor_zero.symm
  | crc8ITU =>
      show (crc8TabLoop _ _ _ ^^^ _).toNat = _
      rw [crc8TabLoop_eq 0x07 crcTabCrc8Poly0x07Ref0_eq]
      rfl
  | crc8ROHC =>
      show (crc8TabLoop _ _ _).toNat = _
      rw [crc8TabLoop_eq_reversed (crc8CalReverse 0x07) crcTabCrc8Poly0x07Ref1_eq]
      exact congrArg UInt8.toNat UInt8.xor_zero.symm
  | crc8MAXIM =>
      show (crc8TabLoop _ _ _).toNat = _
      rw [crc8TabLoop_eq_reversed (crc8CalReverse 0x31) crcTabCrc8Poly0x31Ref1_eq]
      exact congrArg UInt8.toNat UInt8.xor_zero.symm
  | crc16IBM =>
      show (crc16TabLoopReversed _ _ _).toNat = _
      rw [crc16TabLoopReversed_eq (crc16CalReverse 0x8005) crcTabCrc16Poly0x8005Ref1_eq]
      exact congrArg UInt16.toNat UInt16.xor_zero.symm
  | crc16MAXIM => exact absurd rfl h
  | crc16USB =>
      show (crc16TabLoopReversed _ _ _ ^^^ _).toNat = _
      rw [crc16TabLoopReversed_eq (crc16CalReverse 0x8005) crcTabCrc16Poly0x8005Ref1_eq]
      rfl
  | crc16MODBUS =>
      show (crc16TabLoopReversed _ _ _).toNat = _
      rw [crc16TabLoopReversed_eq (crc16CalReverse 0x8005) crcTabCrc16Poly0x8005Ref1_eq]
      exact congrArg UInt16.toNat UInt16.xor_zero.symm
  | crc16CCITTFALSE =>
      show (crc16TabLoop _ _ _).toNat = _
      rw [crc16TabLoop_eq 0x1021 crcTabCrc16Poly0x1021Ref0_eq]
      exact congrArg UInt16.toNat UInt16.xor_zero.symm
  | crc16X25 =>
      show (crc16TabLoopReversed _ _ _ ^^^ _).toNat = _
      rw [crc16TabLoopReversed_eq (crc16CalReverse 0x1021) crcTabCrc16Poly0x1021Ref1_eq]
      rfl
  | crc16XMODEM =>
      show (crc16TabLoop _ _ _).toNat = _
      rw [crc16TabLoop_eq 0x1021 crcTabCrc16Poly0x1021Ref0_eq]
      exact congrArg UInt16.toNat UInt16.xor_zero.symm
  | crc32 =>
      show (crc32TabLoopReversed _ _ _ ^^^ _).toNat = _
      rw [crc32TabLoopReversed_eq (crc32CalReverse 0x04C11DB7) crcTabCrc32Poly0x4C11DB7Ref1_eq]
      rfl
  | crc32MPEG2 =>
      show (crc32TabLoop _ _ _).toNat = _
      rw [crc32TabLoop_eq 0x04C11DB7 crcTabCrc32Poly0x4C11DB7Ref0_eq]
      exact congrArg UInt32.toNat UInt32.xor_zero.symm

/-! ## The narrow register of `Crc16TabMAXIM` -/

/-- Bit `i` of a byte. -/
def crcBit (i : Nat) (byte : UInt8) : Bool := byte.toNat.testBit i

/-- Whether an odd number of the bits of a byte are set. -/
def crcOdd (byte : UInt8) : Bool :=
  (List.range 8).foldl (fun odd i => odd ^^ crcBit i byte) false

/-- Three bytes for three bits, added. -/
def crcBits (x y z : UInt8) (u v w : Bool) : UInt8 :=
  (if u then x else 0) ^^^ (if v then y else 0) ^^^ (if w then z else 0)

/-- The two bytes behind a text with which the register of `Crc16TabMAXIM` gives the checksum,
from the full register behind the text and the number of its bytes with bit 1. -/
def crc16MAXIMClosing (front : List UInt8) : List UInt8 :=
  let crc := crc16Cal front 0x8005 0 0 1
  let high := (crc >>> 8).toUInt8
  let low := crc.toUInt8
  let ones := front.foldl (fun ones byte => ones ^^ crcBit 1 byte) false
  let u := crcBit 0 high ^^ crcOdd high ^^ ones
  let v := crcBit 1 high
  let w := crcBit 1 low ^^ ones
  [low ^^^ crcBits 0x01 0xFE 0x03 u v w, high ^^^ crcBits 0xC1 0x81 0x40 u v w ^^^ 0x54]

/-- The texts with such an end. -/
def Crc16MAXIMCloses (data : List UInt8) : Prop :=
  data = [0x54] ∨ ∃ front, data = front ++ crc16MAXIMClosing front

theorem crcBit_xor (i : Nat) (a b : UInt8) :
    crcBit i (a ^^^ b) = (crcBit i a ^^ crcBit i b) := by
  rw [crcBit, UInt8.toNat_xor, Nat.testBit_xor]
  rfl

theorem crcOdd_xor (a b : UInt8) : crcOdd (a ^^^ b) = (crcOdd a ^^ crcOdd b) := by
  have hfold (indices : List Nat) (x y : Bool) :
      indices.foldl (fun odd i => odd ^^ crcBit i (a ^^^ b)) (x ^^ y) =
        (indices.foldl (fun odd i => odd ^^ crcBit i a) x ^^
          indices.foldl (fun odd i => odd ^^ crcBit i b) y) := by
    induction indices generalizing x y with
    | nil => rfl
    | cons i indices ih =>
        rw [List.foldl_cons, List.foldl_cons, List.foldl_cons, ← ih, crcBit_xor]
        rw [Bool.xor_assoc, Bool.xor_assoc, Bool.xor_left_comm y]
  exact hfold (List.range 8) false false

/-- The low byte of an entry. -/
def crc16MAXIMLow (byte : UInt8) : UInt8 := crcTabCrc16Poly0x8005Ref1[byte.toNat]!.toUInt8

/-- The high byte of an entry. -/
def crc16MAXIMHigh (byte : UInt8) : UInt8 := (crcTabCrc16Poly0x8005Ref1[byte.toNat]! >>> 8).toUInt8

/-- The low bytes of the entries have bits 0, 6 and 7 only. -/
theorem crc16MAXIMLow_eq (byte : UInt8) : crc16MAXIMLow byte =
    crcBits 0xC0 0x80 0x01 (crcBit 0 byte) (crcBit 1 byte) (crcOdd byte) := by
  have hall : ∀ i < 256, (Nat.repeat (turnDownNat 0xA001) 8 i) % 256 =
      (crcBits 0xC0 0x80 0x01 (crcBit 0 (UInt8.ofNat i)) (crcBit 1 (UInt8.ofNat i))
        (crcOdd (UInt8.ofNat i))).toNat := by
    decide +kernel
  have hentry := hall byte.toNat byte.toNat_lt
  rw [← value_entry crcTabCrc16Poly0x8005Ref1_eq _ byte.toNat_lt, UInt8.ofNat_toNat] at hentry
  exact UInt8.toNat_inj.mp hentry

theorem toNat_crc16MAXIMHigh (byte : UInt8) :
    (crc16MAXIMHigh byte).toNat = Nat.repeat (turnDownNat 0xA001) 8 byte.toNat / 256 := by
  have hlt := crcTabCrc16Poly0x8005Ref1[byte.toNat]!.toNat_lt
  rw [← value_entry crcTabCrc16Poly0x8005Ref1_eq _ byte.toNat_lt, crc16MAXIMHigh]
  show crcTabCrc16Poly0x8005Ref1[byte.toNat]!.toNat >>> 8 % 256 = _
  rw [Nat.shiftRight_eq_div_pow]
  exact Nat.mod_eq_of_lt (by omega)

/-- Which byte has an entry with one of these high bytes. -/
theorem crc16MAXIMHigh_eq_iff (byte : UInt8) (u v w : Bool) :
    crc16MAXIMHigh byte = crcBits 0xC0 0x80 0x01 u v w ↔
      byte = crcBits 0x01 0xFE 0x03 u v w := by
  have hall : ∀ u v w : Bool, ∀ i < 256, Nat.repeat (turnDownNat 0xA001) 8 i / 256 =
      (crcBits 0xC0 0x80 0x01 u v w).toNat ↔ i = (crcBits 0x01 0xFE 0x03 u v w).toNat := by
    decide +kernel
  rw [← UInt8.toNat_inj, toNat_crc16MAXIMHigh, hall u v w _ byte.toNat_lt, UInt8.toNat_inj]

/-- Only one entry has all bits in its high byte. -/
theorem crc16MAXIMHigh_eq_0xFF_iff (byte : UInt8) :
    crc16MAXIMHigh byte = 0xFF ↔ byte = 0x54 := by
  have hall : ∀ i < 256, Nat.repeat (turnDownNat 0xA001) 8 i / 256 = 0xFF ↔ i = 0x54 := by
    decide +kernel
  rw [← UInt8.toNat_inj, toNat_crc16MAXIMHigh]
  show _ = 0xFF ↔ _
  rw [hall _ byte.toNat_lt, ← UInt8.toNat_inj]
  rfl

theorem crcOdd_crc16MAXIMHigh (byte : UInt8) :
    crcOdd (crc16MAXIMHigh byte) = crcBit 1 byte := by
  have hall : ∀ i < 256, crcOdd (UInt8.ofNat (Nat.repeat (turnDownNat 0xA001) 8 i / 256)) =
      i.testBit 1 := by
    decide +kernel
  have hentry := hall byte.toNat byte.toNat_lt
  rwa [← toNat_crc16MAXIMHigh, UInt8.ofNat_toNat] at hentry

theorem crcBit_one_crc16MAXIMLow (byte : UInt8) : crcBit 1 (crc16MAXIMLow byte) = false := by
  rw [crc16MAXIMLow_eq]
  cases crcBit 0 byte <;> cases crcBit 1 byte <;> cases crcOdd byte <;> rfl

theorem crcBit_zero_crc16MAXIMLow (byte : UInt8) :
    crcBit 0 (crc16MAXIMLow byte) = crcOdd byte := by
  rw [crc16MAXIMLow_eq]
  cases crcBit 0 byte <;> cases crcBit 1 byte <;> cases crcOdd byte <;> rfl

theorem crcOdd_crc16MAXIMLow (byte : UInt8) :
    crcOdd (crc16MAXIMLow byte) = (crcBit 1 byte ^^ crcOdd byte) := by
  rw [crc16MAXIMLow_eq]
  cases crcBit 0 byte <;> cases crcBit 1 byte <;> cases crcOdd byte <;> rfl

theorem crc16MAXIMLow_xor (a b : UInt8) :
    crc16MAXIMLow (a ^^^ b) = crc16MAXIMLow a ^^^ crc16MAXIMLow b := by
  simp only [crc16MAXIMLow_eq, crcBit_xor, crcOdd_xor]
  generalize crcBit 0 a = a₀, crcBit 1 a = a₁, crcOdd a = p, crcBit 0 b = b₀, crcBit 1 b = b₁,
    crcOdd b = q
  revert a₀ a₁ p b₀ b₁ q
  decide +kernel

/-- A turn of the loop with the full register. -/
def crc16MAXIMFull (crc : UInt16) (byte : UInt8) : UInt16 :=
  (crc >>> 8) ^^^ crcTabCrc16Poly0x8005Ref1[(crc &&& 0xFF ^^^ byte.toUInt16).toNat]!

theorem crc16MAXIMFull_low (crc : UInt16) (byte : UInt8) :
    (crc16MAXIMFull crc byte).toUInt8 =
      (crc >>> 8).toUInt8 ^^^ crc16MAXIMLow (crc.toUInt8 ^^^ byte) := by
  have hindex : (crc &&& 0xFF ^^^ byte.toUInt16).toNat = (crc.toUInt8 ^^^ byte).toNat :=
    toNat_and_xor (by decide) crc.toBitVec byte.toBitVec
  rw [crc16MAXIMFull, hindex]
  exact UInt16.toUInt8_xor _ _

theorem crc16MAXIMFull_high (crc : UInt16) (byte : UInt8) :
    (crc16MAXIMFull crc byte >>> 8).toUInt8 = crc16MAXIMHigh (crc.toUInt8 ^^^ byte) := by
  have hindex : (crc &&& 0xFF ^^^ byte.toUInt16).toNat = (crc.toUInt8 ^^^ byte).toNat :=
    toNat_and_xor (by decide) crc.toBitVec byte.toBitVec
  rw [crc16MAXIMFull, hindex, UInt16.shiftRight_xor, UInt16.toUInt8_xor]
  have hgone : ((crc >>> 8) >>> 8).toUInt8 = 0 := by
    have hlt := crc.toNat_lt
    apply UInt8.toNat_inj.mp
    show (crc.toNat >>> 8) >>> 8 % 256 = 0
    rw [← Nat.shiftRight_add, Nat.shiftRight_eq_div_pow, Nat.div_eq_of_lt hlt]
  rw [hgone, UInt8.zero_xor]
  rfl

theorem crc16TabMAXIMStep_eq (crc byte : UInt8) :
    crc16TabMAXIMStep crc byte = crc16MAXIMLow (crc ^^^ byte) := by
  have hindex : (crc.toUInt16 &&& 0xFF ^^^ byte.toUInt16).toNat = (crc ^^^ byte).toNat := by
    show ((crc.toBitVec.setWidth 16 &&& 0xFF#16) ^^^ byte.toBitVec.setWidth 16).toNat = _
    rw [toNat_and_xor (by decide), BitVec.setWidth_setWidth_of_le _ (by decide),
      BitVec.setWidth_eq]
    rfl
  have hgone : crc.toUInt16 >>> 8 = 0 := by
    apply UInt16.toNat_inj.mp
    show crc.toNat >>> 8 = 0
    rw [Nat.shiftRight_eq_div_pow, Nat.div_eq_of_lt crc.toNat_lt]
  rw [crc16TabMAXIMStep, hindex, hgone, UInt16.zero_xor]
  rfl

/-- What the narrow register `narrow` and the full one `crc` have in common behind a text of which
`ones` tells whether an odd number of bytes has bit 1. -/
def Crc16MAXIMInv (crc : UInt16) (narrow : UInt8) (ones : Bool) : Prop :=
  (crcOdd narrow ^^ crcOdd crc.toUInt8 ^^ crcOdd (crc >>> 8).toUInt8) = ones ∧
    crcBit 1 narrow = false

/-- A byte leaves what they have in common. -/
theorem Crc16MAXIMInv.step {crc : UInt16} {narrow : UInt8} {ones : Bool}
    (h : Crc16MAXIMInv crc narrow ones) (byte : UInt8) :
    Crc16MAXIMInv (crc16MAXIMFull crc byte) (crc16TabMAXIMStep narrow byte)
      (ones ^^ crcBit 1 byte) := by
  obtain ⟨hodd, hbit⟩ := h
  rw [crc16TabMAXIMStep_eq]
  refine ⟨?_, crcBit_one_crc16MAXIMLow _⟩
  rw [crc16MAXIMFull_low, crc16MAXIMFull_high, crcOdd_crc16MAXIMHigh, crcOdd_xor,
    crcOdd_crc16MAXIMLow, crcOdd_crc16MAXIMLow, crcBit_xor, crcBit_xor, crcOdd_xor, crcOdd_xor,
    hbit, ← hodd]
  generalize crcOdd narrow = x, crcOdd crc.toUInt8 = y, crcOdd (crc >>> 8).toUInt8 = z,
    crcBit 1 byte = b, crcOdd byte = p, crcBit 1 crc.toUInt8 = c
  revert x y z b p c
  decide

/-- Any text leaves what they have in common. -/
theorem Crc16MAXIMInv.foldl {crc : UInt16} {narrow : UInt8} {ones : Bool}
    (h : Crc16MAXIMInv crc narrow ones) (data : List UInt8) :
    Crc16MAXIMInv (data.foldl crc16MAXIMFull crc) (data.foldl crc16TabMAXIMStep narrow)
      (data.foldl (fun ones byte => ones ^^ crcBit 1 byte) ones) := by
  induction data generalizing crc narrow ones with
  | nil => exact h
  | cons byte data ih => exact ih (h.step byte)

theorem xor_eq_iff_eq_xor (x y z : UInt8) : x ^^^ y = z ↔ y = x ^^^ z := by
  constructor
  · intro h
    rw [← h, ← UInt8.xor_assoc, UInt8.xor_self, UInt8.zero_xor]
  · intro h
    rw [h, ← UInt8.xor_assoc, UInt8.xor_self, UInt8.zero_xor]

/-- Two bytes take a full and a narrow register to the same checksum just when they are the closing
ones. -/
theorem crc16MAXIM_pair_iff {crc : UInt16} {narrow : UInt8} {ones : Bool}
    (h : Crc16MAXIMInv crc narrow ones) (a b : UInt8) :
    ((crc16MAXIMFull (crc16MAXIMFull crc a) b >>> 8).toUInt8 = 0xFF ∧
      (crc16MAXIMFull (crc16MAXIMFull crc a) b).toUInt8 =
        crc16TabMAXIMStep (crc16TabMAXIMStep narrow a) b) ↔
    a = crc.toUInt8 ^^^ crcBits 0x01 0xFE 0x03
      (crcBit 0 (crc >>> 8).toUInt8 ^^ crcOdd (crc >>> 8).toUInt8 ^^ ones)
      (crcBit 1 (crc >>> 8).toUInt8) (crcBit 1 crc.toUInt8 ^^ ones) ∧
    b = (crc >>> 8).toUInt8 ^^^ crcBits 0xC1 0x81 0x40
      (crcBit 0 (crc >>> 8).toUInt8 ^^ crcOdd (crc >>> 8).toUInt8 ^^ ones)
      (crcBit 1 (crc >>> 8).toUInt8) (crcBit 1 crc.toUInt8 ^^ ones) ^^^ 0x54 := by
  obtain ⟨hodd, hbit⟩ := h
  set high := (crc >>> 8).toUInt8
  set low := crc.toUInt8
  set u := crcBit 0 high ^^ crcOdd high ^^ ones
  set v := crcBit 1 high
  set w := crcBit 1 low ^^ ones
  -- what the narrow register has lost behind the first byte
  have hlost : crc16MAXIMLow (high ^^^ crc16MAXIMLow (low ^^^ narrow)) =
      crcBits 0xC0 0x80 0x01 u v w := by
    have hu : (crcBit 0 high ^^ (crcOdd low ^^ crcOdd narrow)) = u := by
      rw [show u = (crcBit 0 high ^^ crcOdd high ^^ ones) from rfl, ← hodd]
      cases crcBit 0 high <;> cases crcOdd low <;> cases crcOdd narrow <;> cases crcOdd high <;> rfl
    have hw : (crcOdd high ^^ (crcBit 1 low ^^ false ^^ (crcOdd low ^^ crcOdd narrow))) = w := by
      rw [show w = (crcBit 1 low ^^ ones) from rfl, ← hodd]
      cases crcBit 1 low <;> cases crcOdd low <;> cases crcOdd narrow <;> cases crcOdd high <;> rfl
    rw [crc16MAXIMLow_eq, crcBit_xor, crcBit_xor, crcOdd_xor, crcBit_zero_crc16MAXIMLow,
      crcBit_one_crc16MAXIMLow, crcOdd_crc16MAXIMLow, crcBit_xor, crcOdd_xor, hbit, hu, hw,
      Bool.xor_false]
  have hnarrow : (high ^^^ crc16MAXIMLow (low ^^^ a)) ^^^ crc16MAXIMLow (narrow ^^^ a) =
      high ^^^ crc16MAXIMLow (low ^^^ narrow) := by
    rw [UInt8.xor_assoc, ← crc16MAXIMLow_xor, UInt8.xor_assoc low, UInt8.xor_comm narrow,
      ← UInt8.xor_assoc a, UInt8.xor_self, UInt8.zero_xor]
  have hclosing : crc16MAXIMLow (crcBits 0x01 0xFE 0x03 u v w) = crcBits 0xC1 0x81 0x40 u v w := by
    rw [crc16MAXIMLow_eq]
    generalize u = x, v = y, w = z
    revert x y z
    decide
  have hfirst : crc16MAXIMHigh (low ^^^ a) =
        crc16MAXIMLow (high ^^^ crc16MAXIMLow (low ^^^ narrow)) ↔
      a = low ^^^ crcBits 0x01 0xFE 0x03 u v w := by
    rw [hlost, crc16MAXIMHigh_eq_iff, xor_eq_iff_eq_xor]
  have hsecond : (crc16MAXIMFull (crc16MAXIMFull crc a) b).toUInt8 =
      crc16TabMAXIMStep (crc16TabMAXIMStep narrow a) b ↔
      crc16MAXIMHigh (low ^^^ a) = crc16MAXIMLow (high ^^^ crc16MAXIMLow (low ^^^ narrow)) := by
    rw [crc16MAXIMFull_low, crc16MAXIMFull_low, crc16MAXIMFull_high, crc16TabMAXIMStep_eq,
      crc16TabMAXIMStep_eq, UInt8.xor_comm, xor_eq_iff_eq_xor, ← crc16MAXIMLow_xor,
      UInt8.xor_comm _ b, UInt8.xor_comm _ b, ← hnarrow]
    rw [show (b ^^^ (high ^^^ crc16MAXIMLow (low ^^^ a))) ^^^
        (b ^^^ crc16MAXIMLow (narrow ^^^ a)) =
        (high ^^^ crc16MAXIMLow (low ^^^ a)) ^^^ crc16MAXIMLow (narrow ^^^ a) by
      rw [UInt8.xor_comm b, UInt8.xor_assoc, ← UInt8.xor_assoc b, UInt8.xor_self, UInt8.zero_xor]]
  rw [hsecond, hfirst, crc16MAXIMFull_high, crc16MAXIMHigh_eq_0xFF_iff, crc16MAXIMFull_low,
    xor_eq_iff_eq_xor, and_comm]
  apply and_congr_right
  intro ha
  rw [ha, ← UInt8.xor_assoc low, UInt8.xor_self, UInt8.zero_xor, hclosing]

/-- The result of `Crc16TabMAXIM` is the documented one when the full register ends with the narrow
one under a byte of ones. -/
theorem crc16TabMAXIM_eq_iff (data : List UInt8) :
    crc16TabMAXIM data = crc16Cal data 0x8005 0x0000 0xFFFF 1 ↔
      (data.foldl crc16MAXIMFull 0 >>> 8).toUInt8 = 0xFF ∧
        (data.foldl crc16MAXIMFull 0).toUInt8 = data.foldl crc16TabMAXIMStep 0 := by
  have hcal : crc16Cal data 0x8005 0x0000 0xFFFF 1 = data.foldl crc16MAXIMFull 0 ^^^ 0xFFFF := by
    show _ = crc16TabLoopReversed crcTabCrc16Poly0x8005Ref1 0 data ^^^ 0xFFFF
    rw [crc16TabLoopReversed_eq (crc16CalReverse 0x8005) crcTabCrc16Poly0x8005Ref1_eq]
    rfl
  rw [hcal, crc16TabMAXIM]
  generalize data.foldl crc16MAXIMFull 0 = full
  show ((data.foldl crc16TabMAXIMStep 0).toUInt16 ^^^ 0xFFFF).toUInt8.toUInt16 = _ ↔ _
  generalize data.foldl crc16TabMAXIMStep 0 = narrow
  have hnot (crc : UInt16) : (crc ^^^ 0xFFFF).toNat = 65535 - crc.toNat := by
    show (crc.toBitVec ^^^ BitVec.allOnes 16).toNat = _
    rw [BitVec.xor_allOnes, BitVec.toNat_not]
    rfl
  have hwide : ((narrow.toUInt16 ^^^ 0xFFFF).toUInt8.toUInt16).toNat =
      (65535 - narrow.toNat) % 256 := by
    rw [show ((narrow.toUInt16 ^^^ 0xFFFF).toUInt8.toUInt16).toNat =
      (narrow.toUInt16 ^^^ 0xFFFF).toNat % 256 from rfl, hnot]
    rfl
  have hhigh : (full >>> 8).toUInt8.toNat = full.toNat / 256 % 256 := by
    show full.toNat >>> 8 % 256 = _
    rw [Nat.shiftRight_eq_div_pow]
  have hlow : full.toUInt8.toNat = full.toNat % 256 := rfl
  rw [← UInt16.toNat_inj, ← UInt8.toNat_inj, ← UInt8.toNat_inj, hwide, hnot, hhigh, hlow]
  show _ ↔ _ = 255 ∧ _
  have hnarrow := narrow.toNat_lt
  have hfull := full.toNat_lt
  omega

/-- `Crc16TabMAXIM` gives the documented checksum of the texts with the closing bytes only. -/
theorem crc16TabMAXIM_eq_iff_closes (data : List UInt8) :
    crc16TabMAXIM data = crc16Cal data 0x8005 0x0000 0xFFFF 1 ↔ Crc16MAXIMCloses data := by
  have hcal (front : List UInt8) : crc16Cal front 0x8005 0 0 1 = front.foldl crc16MAXIMFull 0 := by
    show _ = crc16TabLoopReversed crcTabCrc16Poly0x8005Ref1 0 front
    rw [crc16TabLoopReversed_eq (crc16CalReverse 0x8005) crcTabCrc16Poly0x8005Ref1_eq]
    exact UInt16.xor_zero
  have hpair (front : List UInt8) (a b : UInt8) :
      crc16TabMAXIM (front ++ [a, b]) = crc16Cal (front ++ [a, b]) 0x8005 0x0000 0xFFFF 1 ↔
        [a, b] = crc16MAXIMClosing front := by
    have hinv : Crc16MAXIMInv 0 0 false := ⟨rfl, rfl⟩
    rw [crc16TabMAXIM_eq_iff, List.foldl_append, List.foldl_append, crc16MAXIMClosing, hcal]
    simp only [List.cons.injEq, and_true]
    exact crc16MAXIM_pair_iff (hinv.foldl front) a b
  have hsingle (byte : UInt8) :
      crc16TabMAXIM [byte] = crc16Cal [byte] 0x8005 0x0000 0xFFFF 1 → byte = 0x54 := by
    intro h
    have hhigh := ((crc16TabMAXIM_eq_iff [byte]).mp h).1
    rw [List.foldl_cons, List.foldl_nil, crc16MAXIMFull_high, crc16MAXIMHigh_eq_0xFF_iff] at hhigh
    rw [← hhigh]
    exact UInt8.zero_xor.symm
  constructor
  · intro h
    obtain rfl | ⟨rest, b, rfl⟩ := data.eq_nil_or_concat
    · exact absurd h (by decide)
    · obtain rfl | ⟨front, a, rfl⟩ := rest.eq_nil_or_concat
      · exact Or.inl (congrArg (fun byte => [byte]) (hsingle b h))
      · rw [List.concat_eq_append, List.concat_eq_append, List.append_assoc] at h ⊢
        exact Or.inr ⟨front, congrArg (front ++ ·) ((hpair front a b).mp h)⟩
  · intro h
    obtain rfl | ⟨front, rfl⟩ := h
    · decide +kernel
    · exact (hpair front _ _).mpr rfl

/-- **The routines and the parameters above them**: all routines agree on all texts, but for
`Crc16TabMAXIM`, which does on the texts with the closing bytes only. -/
theorem value_eq_documented_iff (routine : TableCrc) (data : List UInt8) :
    routine.value data = routine.documented data ↔
      routine ≠ .crc16MAXIM ∨ Crc16MAXIMCloses data := by
  by_cases hroutine : routine = .crc16MAXIM
  · rw [hroutine]
    show (crc16TabMAXIM data).toNat = (crc16Cal data 0x8005 0x0000 0xFFFF 1).toNat ↔ _
    rw [UInt16.toNat_inj, crc16TabMAXIM_eq_iff_closes]
    exact (or_iff_right (fun h => h rfl)).symm
  · exact iff_of_true (value_eq_documented routine hroutine data) (Or.inl hroutine)

/-- The text 123456789 has the checksum 0x44C2, and `Crc16TabMAXIM` returns one byte. -/
theorem crc16MAXIM_value_ne_documented :
    ¬ ∀ (routine : TableCrc) (data : List UInt8),
      routine.value data = routine.documented data := by
  intro h
  exact absurd (h .crc16MAXIM [0x31, 0x32, 0x33, 0x34, 0x35, 0x36, 0x37, 0x38, 0x39])
    (by decide +kernel)

end RVDataFusionServer
