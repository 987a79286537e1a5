import RVDataFusionServer.Common.CrcRegister
import RVDataFusionServer.Common.CrcTables

/-!
# The tables and the bit by bit routines

Both kinds of routine of `CRC.cpp` run the same register. A turn of a bit by bit routine is a turn
of the shift register, the eight turns for a byte are linear, and each table holds them for the 256
bytes, so a loop over a table is the loop of turns (`crc16TabLoopReversed_eq` and its siblings).
`crc16TabCCITT_eq_crc16Cal` says so of the routine that guards the packages.
-/

namespace RVDataFusionServer

open Library.ShiftRegister

/-! ## Turns -/

theorem toBitVec_crc8CalTurn (poly crc : UInt8) :
    (crc8CalTurn poly crc).toBitVec = turnUp poly.toBitVec crc.toBitVec := by
  rw [turnUp_eq_ite (by decide), crc8CalTurn, apply_ite UInt8.toBitVec]
  simp only [ne_eq, ← UInt8.toBitVec_inj]
  rfl

theorem toBitVec_crc8CalTurnReversed (poly crc : UInt8) :
    (crc8CalTurnReversed poly crc).toBitVec = turnDown poly.toBitVec crc.toBitVec := by
  rw [turnDown_eq_ite (by decide), crc8CalTurnReversed, apply_ite UInt8.toBitVec]
  simp only [ne_eq, ← UInt8.toBitVec_inj]
  rfl

theorem toBitVec_crc16CalTurnReversed (poly crc : UInt16) :
    (crc16CalTurnReversed poly crc).toBitVec = turnDown poly.toBitVec crc.toBitVec := by
  rw [turnDown_eq_ite (by decide), crc16CalTurnReversed, apply_ite UInt16.toBitVec]
  simp only [ne_eq, ← UInt16.toBitVec_inj]
  rfl

theorem toBitVec_crc32CalTurn (poly crc : UInt32) :
    (crc32CalTurn poly crc).toBitVec = turnUp poly.toBitVec crc.toBitVec := by
  rw [turnUp_eq_ite (by decide), crc32CalTurn, apply_ite UInt32.toBitVec]
  simp only [ne_eq, ← UInt32.toBitVec_inj]
  rfl

theorem toBitVec_crc32CalTurnReversed (poly crc : UInt32) :
    (crc32CalTurnReversed poly crc).toBitVec = turnDown poly.toBitVec crc.toBitVec := by
  rw [turnDown_eq_ite (by decide), crc32CalTurnReversed, apply_ite UInt32.toBitVec]
  simp only [ne_eq, ← UInt32.toBitVec_inj]
  rfl

/-! ## Tables -/

/-- The entries of a table, from the whole list of them. -/
theorem value_entry {α : Type} [Inhabited α] {table : Array α} {value : α → Nat}
    {entry : Nat → Nat} (h : table.toList.map value = (List.range 256).map entry) (i : Nat)
    (hi : i < 256) : value table[i]! = entry i := by
  have hlength : table.toList.length = 256 := by
    have hsame := congrArg List.length h
    rwa [List.length_map, List.length_map, List.length_range] at hsame
  have hsize : i < table.size := by
    rw [← Array.length_toList, hlength]
    exact hi
  have hentry := congrArg (fun l => l[i]?) h
  simp only [List.getElem?_map, Array.getElem?_toList, Array.getElem?_eq_getElem hsize,
    List.getElem?_range hi, Option.map_some, Option.some.injEq] at hentry
  rw [getElem!_pos table i hsize, hentry]

theorem crcTabCrc8Poly0x07Ref0_eq : crcTabCrc8Poly0x07Ref0.toList.map UInt8.toNat =
    (List.range 256).map fun i => Nat.repeat (turnUpNat 8 0x07) 8 i := by
  decide +kernel

theorem crcTabCrc8Poly0x07Ref1_eq : crcTabCrc8Poly0x07Ref1.toList.map UInt8.toNat =
    (List.range 256).map fun i => Nat.repeat (turnDownNat 0xE0) 8 i := by
  decide +kernel

theorem crcTabCrc8Poly0x31Ref1_eq : crcTabCrc8Poly0x31Ref1.toList.map UInt8.toNat =
    (List.range 256).map fun i => Nat.repeat (turnDownNat 0x8C) 8 i := by
  decide +kernel

theorem crcTabCrc16Poly0x8005Ref1_eq : crcTabCrc16Poly0x8005Ref1.toList.map UInt16.toNat =
    (List.range 256).map fun i => Nat.repeat (turnDownNat 0xA001) 8 i := by
  decide +kernel

theorem crcTabCrc16Poly0x1021Ref0_eq : crcTabCrc16Poly0x1021Ref0.toList.map UInt16.toNat =
    (List.range 256).map fun i => Nat.repeat (turnUpNat 16 0x1021) 8 (i * 2 ^ 8) := by
  decide +kernel

theorem crcTabCrc16Poly0x1021Ref1_eq : crcTabCrc16Poly0x1021Ref1.toList.map UInt16.toNat =
    (List.range 256).map fun i => Nat.repeat (turnDownNat 0x8408) 8 i := by
  decide +kernel

theorem crcTabCrc32Poly0x4C11DB7Ref0_eq : crcTabCrc32Poly0x4C11DB7Ref0.toList.map UInt32.toNat =
    (List.range 256).map fun i => Nat.repeat (turnUpNat 32 0x4C11DB7) 8 (i * 2 ^ 24) := by
  decide +kernel

theorem crcTabCrc32Poly0x4C11DB7Ref1_eq : crcTabCrc32Poly0x4C11DB7Ref1.toList.map UInt32.toNat =
    (List.range 256).map fun i => Nat.repeat (turnDownNat 0xEDB88320) 8 i := by
  decide +kernel

/-! ## Loops -/

/-- The index with 8 bits of the register and a byte, lowest bit first. -/
theorem toNat_and_xor {w : Nat} (hw : 8 ≤ w) (s : BitVec w) (b : BitVec 8) :
    (s &&& 0xFF#w ^^^ b.setWidth w).toNat = (s.setWidth 8 ^^^ b).toNat := by
  have hmask : (0xFF#w).toNat = 2 ^ 8 - 1 := by
    rw [BitVec.toNat_ofNat]
    exact Nat.mod_eq_of_lt (Nat.lt_of_lt_of_le (by decide) (Nat.pow_le_pow_right (by decide) hw))
  rw [BitVec.toNat_xor, BitVec.toNat_and, hmask, Nat.and_two_pow_sub_one_eq_mod,
    BitVec.toNat_setWidth_of_le hw, BitVec.toNat_xor, BitVec.toNat_setWidth]

/-- The index with 8 bits of the register and a byte, highest bit first. -/
theorem toNat_ushiftRight_xor {w : Nat} (hw : 8 ≤ w) (s : BitVec w) (b : BitVec 8) :
    ((s >>> (w - 8)) ^^^ b.setWidth w).toNat = ((s >>> (w - 8)).setWidth 8 ^^^ b).toNat := by
  have hhigh : (s >>> (w - 8)).toNat < 2 ^ 8 := by
    rw [BitVec.toNat_ushiftRight, Nat.shiftRight_eq_div_pow]
    apply Nat.div_lt_of_lt_mul
    rw [← Nat.pow_add, Nat.sub_add_cancel hw]
    exact s.isLt
  rw [BitVec.toNat_xor, BitVec.toNat_setWidth_of_le hw, BitVec.toNat_xor, BitVec.toNat_setWidth,
    Nat.mod_eq_of_lt hhigh]

/-- A loop over a table with 8 bits is the loop of turns, highest bit first. -/
theorem crc8TabLoop_eq {table : Array UInt8} (poly : UInt8)
    (htable : table.toList.map UInt8.toNat =
      (List.range 256).map fun i => Nat.repeat (turnUpNat 8 poly.toNat) 8 i)
    (init : UInt8) (data : List UInt8) :
    crc8TabLoop table init data =
      data.foldl (fun crc byte => Nat.repeat (crc8CalTurn poly) 8 (crc ^^^ byte)) init := by
  have hturn (crc : UInt8) : (crc8CalTurn poly crc).toNat = turnUpNat 8 poly.toNat crc.toNat := by
    show (crc8CalTurn poly crc).toBitVec.toNat = _
    rw [toBitVec_crc8CalTurn, toNat_turnUp]
    rfl
  rw [crc8TabLoop]
  congr 1
  funext crc byte
  apply UInt8.toNat_inj.mp
  rw [value_entry htable _ (crc ^^^ byte).toNat_lt, repeat_hom UInt8.toNat hturn]

/-- A loop over a table with 8 bits is the loop of turns, lowest bit first. -/
theorem crc8TabLoop_eq_reversed {table : Array UInt8} (poly : UInt8)
    (htable : table.toList.map UInt8.toNat =
      (List.range 256).map fun i => Nat.repeat (turnDownNat poly.toNat) 8 i)
    (init : UInt8) (data : List UInt8) :
    crc8TabLoop table init data =
      data.foldl (fun crc byte => Nat.repeat (crc8CalTurnReversed poly) 8 (crc ^^^ byte)) init := by
  have hturn (crc : UInt8) :
      (crc8CalTurnReversed poly crc).toNat = turnDownNat poly.toNat crc.toNat := by
    show (crc8CalTurnReversed poly crc).toBitVec.toNat = _
    rw [toBitVec_crc8CalTurnReversed, toNat_turnDown]
    rfl
  rw [crc8TabLoop]
  congr 1
  funext crc byte
  apply UInt8.toNat_inj.mp
  rw [value_entry htable _ (crc ^^^ byte).toNat_lt, repeat_hom UInt8.toNat hturn]

/-- The register behind a byte from a table with 16 bits, lowest bit first. -/
theorem toBitVec_crc16TabReversed {table : Array UInt16} (poly : UInt16)
    (htable : table.toList.map UInt16.toNat =
      (List.range 256).map fun i => Nat.repeat (turnDownNat poly.toNat) 8 i)
    (crc : UInt16) (byte : UInt8) :
    ((crc >>> 8) ^^^ table[(crc &&& 0xFF ^^^ byte.toUInt16).toNat]!).toBitVec =
      byteDown poly.toBitVec crc.toBitVec byte.toBitVec := by
  rw [byteDown_eq_table (by decide) (fun i => table[i]!.toBitVec) (value_entry htable),
    ← toNat_and_xor (by decide)]
  rfl

/-- A loop over a table with 16 bits is the loop of turns, lowest bit first. -/
theorem crc16TabLoopReversed_eq {table : Array UInt16} (poly : UInt16)
    (htable : table.toList.map UInt16.toNat =
      (List.range 256).map fun i => Nat.repeat (turnDownNat poly.toNat) 8 i)
    (init : UInt16) (data : List UInt8) :
    crc16TabLoopReversed table init data =
      data.foldl (fun crc byte =>
        Nat.repeat (crc16CalTurnReversed poly) 8 (crc ^^^ byte.toUInt16)) init := by
  rw [crc16TabLoopReversed]
  congr 1
  funext crc byte
  apply UInt16.toBitVec_inj.mp
  rw [toBitVec_crc16TabReversed poly htable,
    repeat_hom UInt16.toBitVec (toBitVec_crc16CalTurnReversed poly)]
  rfl

/-- The register behind a byte from a table with 16 bits, highest bit first. -/
theorem toBitVec_crc16Tab {table : Array UInt16} (poly : UInt16)
    (htable : table.toList.map UInt16.toNat =
      (List.range 256).map fun i => Nat.repeat (turnUpNat 16 poly.toNat) 8 (i * 2 ^ 8))
    (crc : UInt16) (byte : UInt8) :
    ((crc <<< 8) ^^^ table[((crc >>> 8) ^^^ byte.toUInt16).toNat]!).toBitVec =
      byteUp poly.toBitVec crc.toBitVec byte.toBitVec := by
  rw [byteUp_eq_table (by decide) (fun i => table[i]!.toBitVec) (value_entry htable),
    ← toNat_ushiftRight_xor (by decide)]
  rfl

/-- A loop over a table with 16 bits is the loop of turns, highest bit first. -/
theorem crc16TabLoop_eq {table : Array UInt16} (poly : UInt16)
    (htable : table.toList.map UInt16.toNat =
      (List.range 256).map fun i => Nat.repeat (turnUpNat 16 poly.toNat) 8 (i * 2 ^ 8))
    (init : UInt16) (data : List UInt8) :
    crc16TabLoop table init data =
      data.foldl (fun crc byte =>
        Nat.repeat (crc16CalTurn poly) 8 (crc ^^^ (byte.toUInt16 <<< (8 : UInt16)))) init := by
  rw [crc16TabLoop]
  congr 1
  funext crc byte
  apply UInt16.toBitVec_inj.mp
  rw [toBitVec_crc16Tab poly htable]
  exact (toBitVec_crc16CalByte poly crc byte).symm

/-- The register behind a byte from a table with 32 bits, lowest bit first. -/
theorem toBitVec_crc32TabReversed {table : Array UInt32} (poly : UInt32)
    (htable : table.toList.map UInt32.toNat =
      (List.range 256).map fun i => Nat.repeat (turnDownNat poly.toNat) 8 i)
    (crc : UInt32) (byte : UInt8) :
    ((crc >>> 8) ^^^ table[(crc &&& 0xFF ^^^ byte.toUInt32).toNat]!).toBitVec =
      byteDown poly.toBitVec crc.toBitVec byte.toBitVec := by
  rw [byteDown_eq_table (by decide) (fun i => table[i]!.toBitVec) (value_entry htable),
    ← toNat_and_xor (by decide)]
  rfl

/-- A loop over a table with 32 bits is the loop of turns, lowest bit first. -/
theorem crc32TabLoopReversed_eq {table : Array UInt32} (poly : UInt32)
    (htable : table.toList.map UInt32.toNat =
      (List.range 256).map fun i => Nat.repeat (turnDownNat poly.toNat) 8 i)
    (init : UInt32) (data : List UInt8) :
    crc32TabLoopReversed table init data =
      data.foldl (fun crc byte =>
        Nat.repeat (crc32CalTurnReversed poly) 8 (crc ^^^ byte.toUInt32)) init := by
  rw [crc32TabLoopReversed]
  congr 1
  funext crc byte
  apply UInt32.toBitVec_inj.mp
  rw [toBitVec_crc32TabReversed poly htable,
    repeat_hom UInt32.toBitVec (toBitVec_crc32CalTurnReversed poly)]
  rfl

/-- The register behind a byte from a table with 32 bits, highest bit first. -/
theorem toBitVec_crc32Tab {table : Array UInt32} (poly : UInt32)
    (htable : table.toList.map UInt32.toNat =
      (List.range 256).map fun i => Nat.repeat (turnUpNat 32 poly.toNat) 8 (i * 2 ^ 24))
    (crc : UInt32) (byte : UInt8) :
    ((crc <<< 8) ^^^ table[((crc >>> 24) ^^^ byte.toUInt32).toNat]!).toBitVec =
      byteUp poly.toBitVec crc.toBitVec byte.toBitVec := by
  rw [byteUp_eq_table (by decide) (fun i => table[i]!.toBitVec) (value_entry htable),
    ← toNat_ushiftRight_xor (by decide)]
  rfl

/-- A loop over a table with 32 bits is the loop of turns, highest bit first. -/
theorem crc32TabLoop_eq {table : Array UInt32} (poly : UInt32)
    (htable : table.toList.map UInt32.toNat =
      (List.range 256).map fun i => Nat.repeat (turnUpNat 32 poly.toNat) 8 (i * 2 ^ 24))
    (init : UInt32) (data : List UInt8) :
    crc32TabLoop table init data =
      data.foldl (fun crc byte =>
        Nat.repeat (crc32CalTurn poly) 8 (crc ^^^ (byte.toUInt32 <<< (24 : UInt32)))) init := by
  rw [crc32TabLoop]
  congr 1
  funext crc byte
  apply UInt32.toBitVec_inj.mp
  rw [toBitVec_crc32Tab poly htable,
    repeat_hom UInt32.toBitVec (toBitVec_crc32CalTurn poly)]
  rfl

/-! ## The checksum of the packages -/

/-- **The table-driven routine that guards the packages is the bit by bit one.** -/
theorem crc16TabCCITT_eq_crc16Cal (data : List UInt8) :
    crc16TabCCITT data = crc16Cal data 0x1021 0 0 1 := by
  show crc16TabLoopReversed crcTabCrc16Poly0x1021Ref1 0 data = _
  rw [crc16TabLoopReversed_eq (crc16CalReverse 0x1021) crcTabCrc16Poly0x1021Ref1_eq]
  exact UInt16.xor_zero.symm

end RVDataFusionServer
