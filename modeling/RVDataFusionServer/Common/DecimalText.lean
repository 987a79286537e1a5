import Mathlib.Data.List.TakeWhile
import RVDataFusionServer.Common.Numeric

/-!
# Printed numbers

The decimal text of a number, as `std::to_string` and `%d` of `sprintf` write it, and that a
conversion reads it back in front of anything that is not a digit (`leadingInt_intText`).
-/

namespace RVDataFusionServer

/-- The decimal digits of a number. -/
def natText (n : Nat) : List UInt8 := (Nat.toDigits 10 n).map fun c => UInt8.ofNat c.toNat

/-- The decimal text of an integer. -/
def intText : Int → List UInt8
  | .ofNat n => natText n
  | .negSucc n => 0x2D :: natText (n + 1)

/-- The byte of a digit. -/
theorem digit_byte {c : Char} (h : c.isDigit = true) :
    isDigit (UInt8.ofNat c.toNat) = true ∧ (UInt8.ofNat c.toNat).toNat = c.toNat := by
  obtain ⟨hlow, hhigh⟩ := Char.isDigit_iff_toNat.mp h
  have hlow' : 48 ≤ c.toNat := hlow
  have hhigh' : c.toNat ≤ 57 := hhigh
  have hbyte : (UInt8.ofNat c.toNat).toNat = c.toNat :=
    UInt8.toNat_ofNat_of_lt' (Nat.lt_of_le_of_lt hhigh' (by decide))
  refine ⟨?_, hbyte⟩
  rw [isDigit, Bool.and_eq_true, decide_eq_true_iff, decide_eq_true_iff, UInt8.le_iff_toNat_le,
    UInt8.le_iff_toNat_le, hbyte]
  exact ⟨hlow', hhigh'⟩

/-- A digit of a number is a digit. -/
theorem isDigit_of_mem_natText {n : Nat} {c : UInt8} (h : c ∈ natText n) : isDigit c = true := by
  obtain ⟨d, hd, rfl⟩ := List.mem_map.mp h
  exact (digit_byte (Nat.isDigit_of_mem_toDigits (by decide) (by decide) hd)).1

/-- A number has a first digit. -/
theorem natText_cons (n : Nat) : ∃ c rest, natText n = c :: rest ∧ isDigit c = true := by
  have hne : natText n ≠ [] := by
    rw [natText, Ne, List.map_eq_nil_iff]
    exact Nat.toDigits_ne_nil
  obtain ⟨c, rest, hcons⟩ := List.exists_cons_of_ne_nil hne
  exact ⟨c, rest, hcons, isDigit_of_mem_natText (by rw [hcons]; exact List.mem_cons_self)⟩

theorem all_isDigit_natText (n : Nat) : (natText n).all isDigit = true :=
  List.all_eq_true.mpr fun _ hc => isDigit_of_mem_natText hc

/-- How many digits a number has. -/
theorem length_natText_le_iff {n k : Nat} (hk : 0 < k) :
    (natText n).length ≤ k ↔ n < 10 ^ k := by
  rw [natText, List.length_map]
  exact Nat.length_toDigits_le_iff (by decide) hk

theorem length_natText_pos (n : Nat) : 0 < (natText n).length := by
  rw [natText, List.length_map]
  exact Nat.length_toDigits_pos

/-- Digits as bytes denote what they denote as characters. -/
theorem foldl_digits {digits : List Char} (hdigits : ∀ c ∈ digits, c.isDigit = true) (n : Nat) :
    (digits.map fun c => UInt8.ofNat c.toNat).foldl (fun n c => 10 * n + (c.toNat - 0x30)) n =
      Nat.ofDigitChars 10 digits n := by
  induction digits generalizing n with
  | nil => rfl
  | cons c digits ih =>
      have hbyte := (digit_byte (hdigits c List.mem_cons_self)).2
      rw [List.map_cons, List.foldl_cons, hbyte, Nat.ofDigitChars_cons]
      exact ih (fun d hd => hdigits d (List.mem_cons_of_mem c hd)) _

/-- Reading the digits of a number in front of anything that is not a digit. -/
theorem takeWhile_natText (n : Nat) {rest : List UInt8}
    (hrest : rest.takeWhile isDigit = []) :
    (natText n ++ rest).takeWhile isDigit = natText n := by
  rw [List.takeWhile_append_of_pos (fun _ hc => isDigit_of_mem_natText hc), hrest,
    List.append_nil]

theorem leadingDigits_natText (n : Nat) {rest : List UInt8}
    (hrest : rest.takeWhile isDigit = []) : leadingDigits (natText n ++ rest) = some n := by
  rw [leadingDigits, takeWhile_natText n hrest]
  obtain ⟨c, digits, hcons, -⟩ := natText_cons n
  have hvalue : (natText n).foldl (fun n c => 10 * n + (c.toNat - 0x30)) 0 = n := by
    rw [natText, foldl_digits (fun _ hc => Nat.isDigit_of_mem_toDigits (by decide) (by decide) hc),
      Nat.ofDigitChars_ten_toDigits]
  rw [hcons] at hvalue ⊢
  exact congrArg some hvalue

/-- A digit is no white space and no sign. -/
theorem ne_of_isDigit {c : UInt8} (h : isDigit c = true) :
    isSpace c = false ∧ c ≠ 0x2B ∧ c ≠ 0x2D := by
  have hall : ∀ i < 256, isDigit (UInt8.ofNat i) = true →
      isSpace (UInt8.ofNat i) = false ∧ UInt8.ofNat i ≠ 0x2B ∧ UInt8.ofNat i ≠ 0x2D := by
    decide +kernel
  have hbyte := hall c.toNat c.toNat_lt
  rw [UInt8.ofNat_toNat] at hbyte
  exact hbyte h

/-- Without white space and a sign in front of it, a text starts with its digits. -/
theorem leadingInt_of_isDigit {c : UInt8} (h : isDigit c = true) (text : List UInt8) :
    leadingInt (c :: text) = (leadingDigits (c :: text)).map fun n => (n : Int) := by
  obtain ⟨hspace, hplus, hminus⟩ := ne_of_isDigit h
  rw [leadingInt, List.dropWhile_cons_of_neg (by rw [hspace]; exact Bool.false_ne_true)]
  split
  · next heq => exact absurd (List.cons.inj heq).1 hplus
  · next heq => exact absurd (List.cons.inj heq).1 hminus
  · rfl

/-- Reading a number in front of anything that is not a digit. -/
theorem leadingInt_intText (n : Int) {rest : List UInt8}
    (hrest : rest.takeWhile isDigit = []) : leadingInt (intText n ++ rest) = some n := by
  cases n with
  | ofNat n =>
      obtain ⟨c, digits, hcons, hdigit⟩ := natText_cons n
      have hdigits := leadingDigits_natText n hrest
      show leadingInt (natText n ++ rest) = _
      rw [hcons] at hdigits ⊢
      rw [List.cons_append, leadingInt_of_isDigit hdigit, ← List.cons_append, hdigits]
      rfl
  | negSucc n =>
      show (leadingDigits (natText (n + 1) ++ rest)).map (fun n => -(n : Int)) = _
      rw [leadingDigits_natText (n + 1) hrest]
      rfl

/-- How large the number of some digits is. -/
theorem foldl_digits_lt {digits : List UInt8} (hdigits : digits.all isDigit = true) (n : Nat) :
    digits.foldl (fun n c => 10 * n + (c.toNat - 0x30)) n < (n + 1) * 10 ^ digits.length := by
  induction digits generalizing n with
  | nil =>
      rw [List.foldl_nil, List.length_nil, Nat.pow_zero]
      omega
  | cons c digits ih =>
      rw [List.all_cons, Bool.and_eq_true] at hdigits
      have hc : c.toNat - 0x30 < 10 := by
        have hdigit := hdigits.1
        rw [isDigit, Bool.and_eq_true, decide_eq_true_iff, decide_eq_true_iff,
          UInt8.le_iff_toNat_le, UInt8.le_iff_toNat_le] at hdigit
        have hhigh : c.toNat ≤ 0x39 := hdigit.2
        omega
      calc (c :: digits).foldl (fun n c => 10 * n + (c.toNat - 0x30)) n
          < (10 * n + (c.toNat - 0x30) + 1) * 10 ^ digits.length := ih hdigits.2 _
        _ ≤ ((n + 1) * 10) * 10 ^ digits.length := Nat.mul_le_mul_right _ (by omega)
        _ = (n + 1) * 10 ^ (c :: digits).length := by
          rw [List.length_cons, Nat.pow_succ, Nat.mul_assoc, Nat.mul_comm 10]

/-- The number that digits denote. -/
def digitsValue (digits : List UInt8) : Nat :=
  digits.foldl (fun n c => 10 * n + (c.toNat - 0x30)) 0

/-- A conversion of a text of digits reads all of them. -/
theorem leadingInt_eq_digitsValue {digits : List UInt8} (hne : digits ≠ [])
    (hdigits : digits.all isDigit = true) :
    leadingInt digits = some (digitsValue digits : Int) := by
  obtain ⟨c, rest, rfl⟩ := List.exists_cons_of_ne_nil hne
  have hc : isDigit c = true := List.all_eq_true.mp hdigits c List.mem_cons_self
  have htake : (c :: rest).takeWhile isDigit = c :: rest :=
    List.takeWhile_eq_self_iff.mpr (List.all_eq_true.mp hdigits)
  rw [leadingInt_of_isDigit hc, leadingDigits, htake]
  rfl

/-- The number of a text of digits. -/
theorem leadingInt_digits {digits : List UInt8} (hne : digits ≠ [])
    (hdigits : digits.all isDigit = true) :
    ∃ n : Nat, leadingInt digits = some (n : Int) ∧ n < 10 ^ digits.length := by
  have hbound := foldl_digits_lt hdigits 0
  rw [Nat.zero_add, Nat.one_mul] at hbound
  exact ⟨digitsValue digits, leadingInt_eq_digitsValue hne hdigits, hbound⟩

/-- Different numbers have different texts. -/
theorem intText_injective : Function.Injective intText := by
  intro a b h
  have ha := @leadingInt_intText a [] rfl
  have hb := @leadingInt_intText b [] rfl
  rw [h, hb] at ha
  exact (Option.some.inj ha).symm

end RVDataFusionServer
