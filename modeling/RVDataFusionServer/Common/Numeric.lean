import Mathlib.Tactic.Ring
import RVDataFusionServer.Library.Block

/-!
# Decimal numbers in strings

`strtol` with base 10 and `std::stoi`, on the bytes of a string. A conversion skips white space,
takes a sign and reads digits up to the first byte that is not one. `std::to_string` is `toString`,
which writes no two numbers alike (`toString_inj`).
-/

namespace RVDataFusionServer

open Library

/-- `isspace` in the C locale. -/
def isSpace (c : UInt8) : Bool := c = 0x20 || (0x09 ≤ c && c ≤ 0x0d)

/-- `isdigit`. -/
def isDigit (c : UInt8) : Bool := 0x30 ≤ c && c ≤ 0x39

/-- The number that the digits in front of a text denote, if there is a digit. -/
def leadingDigits (text : List UInt8) : Option Nat :=
  match text.takeWhile isDigit with
  | [] => none
  | digits => some (digits.foldl (fun n c => 10 * n + (c.toNat - 0x30)) 0)

/-- The integer in front of a text, with its white space and its sign. -/
def leadingInt (text : List UInt8) : Option Int :=
  match text.dropWhile isSpace with
  | 0x2b :: digits => (leadingDigits digits).map fun n => (n : Int)
  | 0x2d :: digits => (leadingDigits digits).map fun n => -(n : Int)
  | digits => (leadingDigits digits).map fun n => (n : Int)

/-- `strtol` with base 10: 0 without a digit, and saturated at the limits of a `long`. -/
def strtol (text : List UInt8) : Int :=
  max (-2 ^ 63) (min (2 ^ 63 - 1) ((leadingInt text).getD 0))

/-- `std::stoi`. -/
def stoi (text : List UInt8) : Except Fault Int :=
  match leadingInt text with
  | none => .error (.threw "invalid_argument")
  | some n => if -2 ^ 31 ≤ n ∧ n < 2 ^ 31 then .ok n else .error (.threw "out_of_range")

/-- The deviceNo of a matrix number: `stoi(matrixNo.substr(0, 10))`, as a `uint32_t`. -/
def deviceNoOf (matrixNo : List UInt8) : Except Fault UInt32 :=
  (stoi (matrixNo.take 10)).map UInt32.ofInt

example : deviceNoOf [0x30, 0x31, 0x32, 0x33, 0x34, 0x35, 0x36, 0x37, 0x38, 0x39] =
    .ok 123456789 := by
  decide +kernel

/-- The number of a decimal text with a minus sign, or without one. -/
def decimal : List Char → Int
  | '-' :: digits => -(Nat.ofDigitChars 10 digits 0 : Int)
  | digits => Nat.ofDigitChars 10 digits 0

/-- Reading back the decimal text of a number. -/
theorem decimal_toString (n : Int) : decimal (toString n).toList = n := by
  have hdigits (m : Nat) : Nat.ofDigitChars 10 m.repr.toList 0 = m := by
    rw [Nat.toList_repr, Nat.ofDigitChars_toDigits (by decide) (by decide)]
  cases n with
  | ofNat m =>
      show decimal m.repr.toList = m
      have hsign : ∀ digits, m.repr.toList ≠ '-' :: digits := by
        intro digits h
        rw [Nat.toList_repr] at h
        have hdigit := Nat.isDigit_of_mem_toDigits (by decide) (by decide)
          (show '-' ∈ Nat.toDigits 10 m by simp [h])
        exact absurd hdigit (by decide)
      unfold decimal
      split
      · next digits h => exact absurd h (hsign digits)
      · rw [hdigits]
  | negSucc m =>
      show decimal ("-" ++ (m + 1).repr).toList = _
      rw [String.toList_append]
      show -(Nat.ofDigitChars 10 (m + 1).repr.toList 0 : Int) = _
      rw [hdigits]
      rfl

/-- `std::to_string` gives different numbers different texts. -/
theorem toString_inj {a b : Int} : toString a = toString b ↔ a = b := by
  refine ⟨fun h => ?_, fun h => h ▸ rfl⟩
  rw [← decimal_toString a, h, decimal_toString]

end RVDataFusionServer
