import RVDataFusionServer.Common.Crc
import RVDataFusionServer.Library.ShiftRegister

/-!
# The register of the bit by bit checksum

A turn of `Crc16Cal`, highest bit first, is a turn of the shift register (`toBitVec_crc16CalTurn`).
With an odd polynomial the register after two bytes determines both of them, and
`crc16Cal_pair_injective` says that two texts that differ in their first two bytes only have
different checksums.
-/

namespace RVDataFusionServer

open Library.ShiftRegister

/-- The bit that leaves the register in the next turn. -/
def topBit (crc : UInt16) : Bool := crc.toBitVec.msb

theorem toBitVec_crc16CalTurn (poly crc : UInt16) :
    (crc16CalTurn poly crc).toBitVec = turnUp poly.toBitVec crc.toBitVec := by
  rw [turnUp_eq_ite (by decide), crc16CalTurn, apply_ite UInt16.toBitVec]
  simp only [ne_eq, ← UInt16.toBitVec_inj]
  rfl

/-- A turn moves the register, and adds the polynomial when a bit has left it. -/
theorem crc16CalTurn_eq (poly crc : UInt16) :
    crc16CalTurn poly crc = (crc <<< 1) ^^^ (if topBit crc then poly else 0) := by
  apply UInt16.toBitVec_inj.mp
  rw [toBitVec_crc16CalTurn, turnUp, UInt16.toBitVec_xor, apply_ite UInt16.toBitVec]
  rfl

/-- The register after a byte, as `Crc16Cal` computes it highest bit first. -/
def crc16CalByte (poly crc : UInt16) (byte : UInt8) : UInt16 :=
  Nat.repeat (crc16CalTurn poly) 8 (crc ^^^ (byte.toUInt16 <<< (8 : UInt16)))

theorem crc16Cal_eq (data : List UInt8) (poly init xorout : UInt16) :
    crc16Cal data poly init xorout 0 = data.foldl (crc16CalByte poly) init ^^^ xorout :=
  rfl

theorem toBitVec_crc16CalByte (poly crc : UInt16) (byte : UInt8) :
    (crc16CalByte poly crc byte).toBitVec =
      byteUp poly.toBitVec crc.toBitVec byte.toBitVec := by
  rw [crc16CalByte, repeat_hom UInt16.toBitVec (toBitVec_crc16CalTurn poly)]
  rfl

/-- An odd polynomial has the lowest bit. -/
theorem lowBit_of_odd {poly : UInt16} (hodd : poly.toNat % 2 = 1) :
    poly.toBitVec.getLsbD 0 = true := by
  rw [BitVec.getLsbD, Nat.testBit_zero]
  exact decide_eq_true hodd

/-- The register after some bytes determines the one before them. -/
theorem foldl_crc16CalByte_injective {poly : UInt16} (hodd : poly.toNat % 2 = 1)
    (data : List UInt8) : Function.Injective (data.foldl (crc16CalByte poly)) := by
  have hregister (crc : UInt16) : (data.foldl (crc16CalByte poly) crc).toBitVec =
      (data.map UInt8.toBitVec).foldl (byteUp poly.toBitVec) crc.toBitVec := by
    rw [List.foldl_map]
    apply Eq.symm
    apply List.foldl_hom UInt16.toBitVec
    intro crc byte
    exact (toBitVec_crc16CalByte poly crc byte).symm
  intro a b h
  have hsame := congrArg UInt16.toBitVec h
  rw [hregister, hregister] at hsame
  exact UInt16.toBitVec_inj.mp (foldl_byteUp_injective (by decide) (lowBit_of_odd hodd) _ hsame)

/-- Texts with one checksum that differ in their first two bytes at most are the same. -/
theorem crc16Cal_pair_injective {poly xorout : UInt16} (hodd : poly.toNat % 2 = 1)
    {high low high' low' : UInt8} {rest : List UInt8}
    (h : crc16Cal (high :: low :: rest) poly 0 xorout 0 =
      crc16Cal (high' :: low' :: rest) poly 0 xorout 0) : high = high' ∧ low = low' := by
  rw [crc16Cal_eq, crc16Cal_eq, UInt16.xor_left_inj] at h
  simp only [List.foldl_cons] at h
  have hpair := congrArg UInt16.toBitVec (foldl_crc16CalByte_injective hodd rest h)
  simp only [toBitVec_crc16CalByte] at hpair
  obtain ⟨hhigh, hlow⟩ := byteUp_pair_injective (by decide) (lowBit_of_odd hodd) hpair
  exact ⟨UInt8.toBitVec_inj.mp hhigh, UInt8.toBitVec_inj.mp hlow⟩

end RVDataFusionServer
