import RVDataFusionServer.Common.DecimalText
import RVDataFusionServer.Common.Pkg

/-!
# The device number of a package

Every send task converts the first ten characters of the matrix number by `stoi` and passes the
result to `PkgWithoutCRC` as a `uint32_t`. `packItem_carries_iff` says which of the numbers that the
field can hold the conversion lets through.
-/

namespace RVDataFusionServer

open Library

/-- The package of an item, as the tasks of `DataUnit.cpp` and `DataUnitFusionData.cpp` make it. -/
def packItem (matrixNo : List UInt8) (cmdType : UInt8) (sn : UInt16) (jsonStr : List UInt8) :
    Except Fault Pkg := do
  let deviceNo ← deviceNoOf matrixNo
  pure (pkgWithoutCRC cmdType sn deviceNo jsonStr)

/-- The task does not throw, and the header of its package carries the number of the first ten
digits. -/
def CarriesDeviceNo (matrixNo : List UInt8) (cmdType : UInt8) (sn : UInt16)
    (jsonStr : List UInt8) : Prop :=
  ∃ pkg, packItem matrixNo cmdType sn jsonStr = .ok pkg ∧
    pkg.head.deviceNO.toNat = digitsValue (matrixNo.take 10)

/-- `stoi` on digits: the number, as long as it is an `int`. -/
theorem stoi_digitsValue {digits : List UInt8} (hne : digits ≠ [])
    (hdigits : digits.all isDigit = true) :
    stoi digits = if digitsValue digits < 2 ^ 31 then .ok (digitsValue digits : Int)
      else .error (.threw "out_of_range") := by
  rw [stoi, leadingInt_eq_digitsValue hne hdigits]
  by_cases hlt : digitsValue digits < 2 ^ 31
  · rw [if_pos hlt]
    exact if_pos (by omega)
  · rw [if_neg hlt]
    exact if_neg (by omega)

/-- A number below 2 ^ 32 passes through a `uint32_t`. -/
theorem toNat_ofInt {n : Nat} (h : n < 2 ^ 32) : (UInt32.ofInt n).toNat = n := by
  have hmod : ((n : Int) % 2 ^ 32).toNat = n := by omega
  rw [UInt32.ofInt, hmod]
  exact UInt32.toNat_ofNat_of_lt' h

/-- The first ten characters of a decimal number are a decimal number. -/
theorem take_digits {matrixNo : List UInt8} (hne : matrixNo ≠ [])
    (hdigits : matrixNo.all isDigit = true) :
    matrixNo.take 10 ≠ [] ∧ (matrixNo.take 10).all isDigit = true := by
  refine ⟨fun hnil => ?_, ?_⟩
  · obtain hten | hempty := List.take_eq_nil_iff.mp hnil
    · cases hten
    · exact hne hempty
  · rw [List.all_eq_true] at hdigits ⊢
    exact fun c hc => hdigits c (List.mem_of_mem_take hc)

/-- Of the device numbers that fit the field, the packages of the send tasks carry exactly those
that an `int` can hold. -/
theorem packItem_carries_iff {matrixNo : List UInt8} (hne : matrixNo ≠ [])
    (hdigits : matrixNo.all isDigit = true) (hfits : digitsValue (matrixNo.take 10) < 2 ^ 32)
    (cmdType : UInt8) (sn : UInt16) (jsonStr : List UInt8) :
    CarriesDeviceNo matrixNo cmdType sn jsonStr ↔ digitsValue (matrixNo.take 10) < 2 ^ 31 := by
  obtain ⟨hne', hdigits'⟩ := take_digits hne hdigits
  rw [CarriesDeviceNo, packItem, deviceNoOf, stoi_digitsValue hne' hdigits']
  by_cases hlt : digitsValue (matrixNo.take 10) < 2 ^ 31
  · rw [if_pos hlt]
    exact iff_of_true ⟨_, rfl, toNat_ofInt hfits⟩ hlt
  · rw [if_neg hlt]
    apply iff_of_false _ hlt
    intro h
    obtain ⟨pkg, hpkg, -⟩ := h
    cases hpkg

/-- The serial number 0123456789. -/
theorem packItem_carries_serial :
    CarriesDeviceNo [0x30, 0x31, 0x32, 0x33, 0x34, 0x35, 0x36, 0x37, 0x38, 0x39] 3 1
      [0x7B, 0x7D] :=
  (packItem_carries_iff (List.cons_ne_nil _ _) (by decide +kernel) (by decide +kernel) 3 1 _).mpr
    (by decide +kernel)

/-- The serial number 2147483648 fits the field, and the task throws. -/
theorem packItem_throws :
    digitsValue [0x32, 0x31, 0x34, 0x37, 0x34, 0x38, 0x33, 0x36, 0x34, 0x38] < 2 ^ 32 ∧
      ¬ CarriesDeviceNo [0x32, 0x31, 0x34, 0x37, 0x34, 0x38, 0x33, 0x36, 0x34, 0x38] 3 1
        [0x7B, 0x7D] := by
  refine ⟨by decide +kernel, ?_⟩
  intro h
  obtain ⟨pkg, hpkg, -⟩ := h
  have hthrows : deviceNoOf [0x32, 0x31, 0x34, 0x37, 0x34, 0x38, 0x33, 0x36, 0x34, 0x38] =
      .error (.threw "out_of_range") := by decide +kernel
  rw [packItem, hthrows] at hpkg
  cases hpkg

end RVDataFusionServer
