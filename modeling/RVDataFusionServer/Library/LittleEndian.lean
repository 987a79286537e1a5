import Mathlib.Tactic.Ring
import Mathlib.Data.List.Basic

/-!
# Little-endian numbers

`toLE width n` lists the `width` low bytes of `n`, lowest first, and `ofLE` reads them back.
-/

namespace Library

/-- The number with the given bytes, lowest first. -/
def ofLE : List UInt8 → Nat
  | [] => 0
  | byte :: rest => byte.toNat + 256 * ofLE rest

/-- The `width` low bytes of a number, lowest first. -/
def toLE : Nat → Nat → List UInt8
  | 0, _ => []
  | width + 1, n => UInt8.ofNat n :: toLE width (n / 256)

@[simp] theorem length_toLE (width n : Nat) : (toLE width n).length = width := by
  induction width generalizing n with
  | zero => rfl
  | succ width ih => simp [toLE, ih]

/-- Reading back a number that fits. -/
theorem ofLE_toLE (width : Nat) {n : Nat} (h : n < 256 ^ width) : ofLE (toLE width n) = n := by
  induction width generalizing n with
  | zero => simp [toLE, ofLE] at h ⊢; omega
  | succ width ih =>
      have hrest : n / 256 < 256 ^ width := by
        rw [Nat.div_lt_iff_lt_mul (by decide)]
        simpa [Nat.pow_succ] using h
      simp only [toLE, ofLE, ih hrest, UInt8.toNat_ofNat']
      omega

/-- The bytes behind others count from their weight on. -/
theorem ofLE_append (low high : List UInt8) :
    ofLE (low ++ high) = ofLE low + 256 ^ low.length * ofLE high := by
  induction low with
  | nil => simp [ofLE]
  | cons byte rest ih =>
      simp only [List.cons_append, ofLE, ih, List.length_cons]
      ring

/-- A 16-bit number is read back from its two bytes. -/
theorem uint16_ofLE_toLE (x : UInt16) : UInt16.ofNat (ofLE (toLE 2 x.toNat)) = x := by
  rw [ofLE_toLE 2 x.toNat_lt, UInt16.ofNat_toNat]

/-- A 32-bit number is read back from its four bytes. -/
theorem uint32_ofLE_toLE (x : UInt32) : UInt32.ofNat (ofLE (toLE 4 x.toNat)) = x := by
  rw [ofLE_toLE 4 x.toNat_lt, UInt32.ofNat_toNat]

/-- Writing back a number that was read. -/
theorem toLE_ofLE (bytes : List UInt8) : toLE bytes.length (ofLE bytes) = bytes := by
  induction bytes with
  | nil => rfl
  | cons byte rest ih =>
      have hbyte := byte.toNat_lt
      have hhead : UInt8.ofNat (byte.toNat + 256 * ofLE rest) = byte := by
        apply UInt8.toNat_inj.mp
        simp only [UInt8.toNat_ofNat']
        omega
      have htail : (byte.toNat + 256 * ofLE rest) / 256 = ofLE rest := by omega
      simp only [List.length_cons, ofLE, toLE, hhead, htail, ih]

/-- The bytes bound the number. -/
theorem ofLE_lt (bytes : List UInt8) : ofLE bytes < 256 ^ bytes.length := by
  induction bytes with
  | nil => simp [ofLE]
  | cons byte rest ih =>
      have hbyte := byte.toNat_lt
      simp only [ofLE, List.length_cons, Nat.pow_succ]
      omega

/-- Two bytes are written back from the 16-bit number they were read as. -/
theorem toLE_uint16_ofLE (bytes : List UInt8) (h : bytes.length = 2) :
    toLE 2 (UInt16.ofNat (ofLE bytes)).toNat = bytes := by
  have hlt : ofLE bytes < 2 ^ 16 := by simpa [h] using ofLE_lt bytes
  rw [UInt16.toNat_ofNat_of_lt' hlt, ← h, toLE_ofLE]

/-- Four bytes are written back from the 32-bit number they were read as. -/
theorem toLE_uint32_ofLE (bytes : List UInt8) (h : bytes.length = 4) :
    toLE 4 (UInt32.ofNat (ofLE bytes)).toNat = bytes := by
  have hlt : ofLE bytes < 2 ^ 32 := by simpa [h] using ofLE_lt bytes
  rw [UInt32.toNat_ofNat_of_lt' hlt, ← h, toLE_ofLE]

end Library
