import Mathlib.Tactic.Ring

/-!
# Shift registers with feedback

A register of `w` bits that moves by one place in a turn and adds a polynomial when a bit leaves
it, in both directions. Turns are linear (`repeat_turnDown_xor`, `repeat_turnUp_xor`), so that the
eight turns for a byte may be read from a table (`byteDown_eq`, `byteUp_eq`), and with a polynomial
that has the bit at the other end they lose nothing (`repeat_turnDown_injective`). Bytes of eight
bits go into the end at which the bits leave. The two directions are each other's mirror image
(`reverse_turnUp`).
-/

namespace Library.ShiftRegister

variable {w : Nat}

/-- One turn, lowest bit first. -/
def turnDown (poly s : BitVec w) : BitVec w :=
  (s >>> 1) ^^^ (if s.getLsbD 0 then poly else 0)

/-- One turn, highest bit first. -/
def turnUp (poly s : BitVec w) : BitVec w :=
  (s <<< 1) ^^^ (if s.msb then poly else 0)

/-- The register behind a byte, lowest bit first. -/
def byteDown (poly s : BitVec w) (b : BitVec 8) : BitVec w :=
  Nat.repeat (turnDown poly) 8 (s ^^^ b.setWidth w)

/-- The register behind a byte, highest bit first. -/
def byteUp (poly s : BitVec w) (b : BitVec 8) : BitVec w :=
  Nat.repeat (turnUp poly) 8 (s ^^^ (b.setWidth w <<< (w - 8)))

/-! ## The tests of a bit, and the numbers in the register -/

/-- A test of one bit with a mask. -/
theorem and_twoPow_ne_zero_iff (s : BitVec w) {i : Nat} (hi : i < w) :
    s &&& BitVec.twoPow w i ≠ 0 ↔ s.getLsbD i = true := by
  rw [BitVec.and_twoPow]
  have hbit : BitVec.twoPow w i ≠ 0#w := by
    intro hzero
    have hset := congrArg (fun bits => bits.getLsbD i) hzero
    simp [hi] at hset
  cases s.getLsbD i with
  | true => simp [hbit]
  | false => simp

/-- A turn with the lowest bit tested by a mask. -/
theorem turnDown_eq_ite (hw : 0 < w) (poly s : BitVec w) :
    turnDown poly s =
      if s &&& BitVec.twoPow w 0 ≠ 0 then (s >>> 1) ^^^ poly else s >>> 1 := by
  rw [turnDown]
  by_cases hlow : s.getLsbD 0 = true
  · rw [if_pos hlow, if_pos ((and_twoPow_ne_zero_iff s hw).mpr hlow)]
  · rw [if_neg hlow, if_neg (mt (and_twoPow_ne_zero_iff s hw).mp hlow)]
    exact BitVec.xor_zero

/-- A turn with the highest bit tested by a mask. -/
theorem turnUp_eq_ite (hw : 0 < w) (poly s : BitVec w) :
    turnUp poly s =
      if s &&& BitVec.twoPow w (w - 1) ≠ 0 then (s <<< 1) ^^^ poly else s <<< 1 := by
  have htop : w - 1 < w := Nat.sub_lt hw Nat.one_pos
  rw [turnUp, BitVec.msb_eq_getLsbD_last]
  by_cases hhigh : s.getLsbD (w - 1) = true
  · rw [if_pos hhigh, if_pos ((and_twoPow_ne_zero_iff s htop).mpr hhigh)]
  · rw [if_neg hhigh, if_neg (mt (and_twoPow_ne_zero_iff s htop).mp hhigh)]
    exact BitVec.xor_zero

/-- A turn on numbers, lowest bit first. -/
def turnDownNat (poly s : Nat) : Nat :=
  (s / 2) ^^^ (s % 2 * poly)

/-- A turn on numbers below `2 ^ w`, highest bit first. -/
def turnUpNat (w poly s : Nat) : Nat :=
  (s * 2 % 2 ^ w) ^^^ (s / 2 ^ (w - 1) * poly)

theorem toNat_turnDown (poly s : BitVec w) :
    (turnDown poly s).toNat = turnDownNat poly.toNat s.toNat := by
  rw [turnDown, BitVec.toNat_xor, BitVec.toNat_ushiftRight, Nat.shiftRight_eq_div_pow, turnDownNat]
  have hlow : s.getLsbD 0 = decide (s.toNat % 2 = 1) := by
    rw [BitVec.getLsbD, Nat.testBit_zero]
  rw [hlow]
  rcases Nat.mod_two_eq_zero_or_one s.toNat with heven | hodd
  · rw [heven]
    simp
  · rw [hodd]
    simp

theorem toNat_turnUp (poly s : BitVec w) :
    (turnUp poly s).toNat = turnUpNat w poly.toNat s.toNat := by
  rw [turnUp, BitVec.toNat_xor, BitVec.toNat_shiftLeft, Nat.shiftLeft_eq, turnUpNat, Nat.pow_one,
    BitVec.msb_eq_decide]
  by_cases hhigh : 2 ^ (w - 1) ≤ s.toNat
  · have hlt : s.toNat < 2 ^ (w - 1) * 2 := by
      have hbound := s.isLt
      cases w with
      | zero => simp at hbound hhigh; omega
      | succ w => simpa [Nat.pow_succ] using hbound
    have hone : s.toNat / 2 ^ (w - 1) = 1 := by
      rw [Nat.div_eq_iff (Nat.two_pow_pos _)]
      omega
    rw [hone, decide_eq_true hhigh, if_pos rfl, Nat.one_mul]
  · rw [Nat.div_eq_of_lt (Nat.lt_of_not_le hhigh), decide_eq_false hhigh,
      if_neg Bool.false_ne_true, Nat.zero_mul]
    rfl

/-- Repeating along a map. -/
theorem repeat_hom {α β : Type} {f : α → α} {g : β → β} (φ : α → β)
    (h : ∀ x, φ (f x) = g (φ x)) (n : Nat) (x : α) :
    φ (Nat.repeat f n x) = Nat.repeat g n (φ x) := by
  induction n with
  | zero => rfl
  | succ n ih =>
      show φ (f (Nat.repeat f n x)) = _
      rw [h, ih]
      rfl

/-! ## Linearity -/

/-- Adding the polynomial for a sum of two bits. -/
theorem ite_xor (poly : BitVec w) (x y : Bool) :
    (if (x ^^ y) then poly else 0) = (if x then poly else 0) ^^^ (if y then poly else 0) := by
  cases x <;> cases y <;> simp

/-- A turn is linear. -/
theorem turnDown_xor (poly a b : BitVec w) :
    turnDown poly (a ^^^ b) = turnDown poly a ^^^ turnDown poly b := by
  simp only [turnDown, BitVec.getLsbD_xor, ite_xor, BitVec.ushiftRight_xor_distrib]
  ac_rfl

/-- A turn is linear. -/
theorem turnUp_xor (poly a b : BitVec w) :
    turnUp poly (a ^^^ b) = turnUp poly a ^^^ turnUp poly b := by
  simp only [turnUp, BitVec.msb_xor, ite_xor, BitVec.shiftLeft_xor_distrib]
  ac_rfl

/-- Repeating a linear function is linear. -/
theorem repeat_xor {f : BitVec w → BitVec w} (hf : ∀ a b, f (a ^^^ b) = f a ^^^ f b) (n : Nat)
    (a b : BitVec w) : Nat.repeat f n (a ^^^ b) = Nat.repeat f n a ^^^ Nat.repeat f n b := by
  induction n with
  | zero => rfl
  | succ n ih =>
      show f (Nat.repeat f n (a ^^^ b)) = _
      rw [ih, hf]
      rfl

theorem repeat_turnDown_xor (poly : BitVec w) (n : Nat) (a b : BitVec w) :
    Nat.repeat (turnDown poly) n (a ^^^ b) =
      Nat.repeat (turnDown poly) n a ^^^ Nat.repeat (turnDown poly) n b :=
  repeat_xor (turnDown_xor poly) n a b

theorem repeat_turnUp_xor (poly : BitVec w) (n : Nat) (a b : BitVec w) :
    Nat.repeat (turnUp poly) n (a ^^^ b) =
      Nat.repeat (turnUp poly) n a ^^^ Nat.repeat (turnUp poly) n b :=
  repeat_xor (turnUp_xor poly) n a b

/-! ## Tables -/

/-- A register whose lowest bits are clear only moves. -/
theorem repeat_turnDown_shiftLeft (poly s : BitVec w) {n k : Nat} (h : n ≤ k) :
    Nat.repeat (turnDown poly) n (s <<< k) = (s <<< k) >>> n := by
  induction n with
  | zero => rfl
  | succ n ih =>
      show turnDown poly (Nat.repeat (turnDown poly) n (s <<< k)) = _
      have hlow : ((s <<< k) >>> n).getLsbD 0 = false := by
        rw [BitVec.getLsbD_ushiftRight, BitVec.getLsbD_shiftLeft]
        simp only [Nat.add_zero, decide_eq_true (show n < k from h), Bool.not_true, Bool.and_false,
          Bool.false_and]
      rw [ih (Nat.le_of_succ_le h), turnDown, hlow, if_neg Bool.false_ne_true,
        BitVec.shiftRight_add]
      exact BitVec.xor_zero

/-- A register whose highest bits are clear only moves. -/
theorem repeat_turnUp_ushiftRight (poly s : BitVec w) {n k : Nat} (h : n ≤ k) :
    Nat.repeat (turnUp poly) n (s >>> k) = (s >>> k) <<< n := by
  induction n with
  | zero => exact (BitVec.shiftLeft_zero _).symm
  | succ n ih =>
      show turnUp poly (Nat.repeat (turnUp poly) n (s >>> k)) = _
      have hhigh : ((s >>> k) <<< n).msb = false := by
        rw [BitVec.msb_eq_getLsbD_last, BitVec.getLsbD_shiftLeft, BitVec.getLsbD_ushiftRight]
        by_cases hw : w - 1 < n
        · simp [hw]
        · rw [BitVec.getLsbD_of_ge s _ (by omega), Bool.and_false]
      rw [ih (Nat.le_of_succ_le h), turnUp, hhigh, if_neg Bool.false_ne_true,
        BitVec.shiftLeft_add]
      exact BitVec.xor_zero

/-- A register is its upper bits and its lowest byte. -/
theorem shiftLeft_xor_low (s : BitVec w) :
    ((s >>> 8) <<< 8) ^^^ (s.setWidth 8).setWidth w = s := by
  ext i hi
  by_cases hlow : i < 8
  · simp [hlow, hi]
  · simp [hlow, hi, Nat.add_sub_cancel' (Nat.le_of_not_lt hlow)]

/-- A register is its lower bits and its highest byte. -/
theorem shiftRight_xor_high (hw : 8 ≤ w) (s : BitVec w) :
    ((s <<< 8) >>> 8) ^^^ (((s >>> (w - 8)).setWidth 8).setWidth w <<< (w - 8)) = s := by
  ext i hi
  by_cases hhigh : i < w - 8
  · have hinside : 8 + i < w := by omega
    simp [hhigh, hinside]
  · have hbyte : i - (w - 8) < 8 := by omega
    have houtside : ¬ 8 + i < w := by omega
    simp [hhigh, hi, hbyte, houtside, Nat.add_sub_cancel' (Nat.le_of_not_lt hhigh)]

/-- The eight turns for a byte, lowest bit first: the register moves by eight places, and the rest
depends on its lowest byte and the new one only. -/
theorem byteDown_eq (poly s : BitVec w) (b : BitVec 8) :
    byteDown poly s b =
      (s >>> 8) ^^^ Nat.repeat (turnDown poly) 8 ((s.setWidth 8 ^^^ b).setWidth w) := by
  have hmoved : ((s >>> 8) <<< 8) >>> 8 = s >>> 8 := by
    ext i hi
    simp [hi]
    exact BitVec.lt_of_getLsbD
  have hsplit : s ^^^ b.setWidth w = ((s >>> 8) <<< 8) ^^^ (s.setWidth 8 ^^^ b).setWidth w := by
    rw [BitVec.setWidth_xor, ← BitVec.xor_assoc, shiftLeft_xor_low]
  rw [byteDown, hsplit, repeat_turnDown_xor, repeat_turnDown_shiftLeft poly _ (Nat.le_refl 8),
    hmoved]

/-- The eight turns for a byte, highest bit first. -/
theorem byteUp_eq (hw : 8 ≤ w) (poly s : BitVec w) (b : BitVec 8) :
    byteUp poly s b =
      (s <<< 8) ^^^ Nat.repeat (turnUp poly) 8
        (((s >>> (w - 8)).setWidth 8 ^^^ b).setWidth w <<< (w - 8)) := by
  have hmoved : ((s <<< 8) >>> 8) <<< 8 = s <<< 8 := by
    ext i hi
    by_cases hlow : i < 8
    · simp [hlow]
    · have hinside : 8 + (i - 8) < w := by omega
      simp [hlow, hinside]
  have hsplit : s ^^^ (b.setWidth w <<< (w - 8)) = ((s <<< 8) >>> 8) ^^^
      (((s >>> (w - 8)).setWidth 8 ^^^ b).setWidth w <<< (w - 8)) := by
    rw [BitVec.setWidth_xor, BitVec.shiftLeft_xor_distrib, ← BitVec.xor_assoc,
      shiftRight_xor_high hw]
  rw [byteUp, hsplit, repeat_turnUp_xor, repeat_turnUp_ushiftRight poly _ (Nat.le_refl 8), hmoved]

/-- Reading the eight turns for a byte from a table, lowest bit first. -/
theorem byteDown_eq_table (hw : 8 ≤ w) {poly : BitVec w} (table : Nat → BitVec w)
    (h : ∀ i < 256, (table i).toNat = Nat.repeat (turnDownNat poly.toNat) 8 i) (s : BitVec w)
    (b : BitVec 8) : byteDown poly s b = (s >>> 8) ^^^ table (s.setWidth 8 ^^^ b).toNat := by
  rw [byteDown_eq]
  congr 1
  apply BitVec.eq_of_toNat_eq
  rw [h _ (s.setWidth 8 ^^^ b).isLt, repeat_hom BitVec.toNat (toNat_turnDown poly),
    BitVec.toNat_setWidth_of_le hw]

/-- Reading the eight turns for a byte from a table, highest bit first. -/
theorem byteUp_eq_table (hw : 8 ≤ w) {poly : BitVec w} (table : Nat → BitVec w)
    (h : ∀ i < 256,
      (table i).toNat = Nat.repeat (turnUpNat w poly.toNat) 8 (i * 2 ^ (w - 8)))
    (s : BitVec w) (b : BitVec 8) :
    byteUp poly s b = (s <<< 8) ^^^ table ((s >>> (w - 8)).setWidth 8 ^^^ b).toNat := by
  rw [byteUp_eq hw]
  congr 1
  set high := (s >>> (w - 8)).setWidth 8 ^^^ b
  have hfits : high.toNat * 2 ^ (w - 8) < 2 ^ w := by
    calc high.toNat * 2 ^ (w - 8) < 2 ^ 8 * 2 ^ (w - 8) :=
          Nat.mul_lt_mul_of_pos_right high.isLt (Nat.two_pow_pos _)
      _ = 2 ^ w := by rw [← Nat.pow_add, Nat.add_sub_cancel' hw]
  apply BitVec.eq_of_toNat_eq
  rw [h _ high.isLt, repeat_hom BitVec.toNat (toNat_turnUp poly), BitVec.toNat_shiftLeft,
    BitVec.toNat_setWidth_of_le hw, Nat.shiftLeft_eq, Nat.mod_eq_of_lt hfits]

/-! ## Nothing is lost -/

/-- A polynomial with the highest bit: only a register without bits loses all of them. -/
theorem eq_zero_of_turnDown {poly s : BitVec w} (hpoly : poly.msb = true)
    (h : turnDown poly s = 0) : s = 0 := by
  have hmoved : (s >>> 1) = if s.getLsbD 0 then poly else 0 := BitVec.xor_eq_zero_iff.mp h
  cases hlow : s.getLsbD 0 with
  | true =>
      have hhigh : (s >>> 1).msb = false := by
        rw [BitVec.msb_eq_getLsbD_last, BitVec.getLsbD_ushiftRight]
        exact BitVec.getLsbD_of_ge s _ (by omega)
      rw [hmoved, hlow, if_pos rfl, hpoly] at hhigh
      cases hhigh
  | false =>
      rw [hlow, if_neg Bool.false_ne_true] at hmoved
      apply BitVec.eq_of_getLsbD_eq
      intro i hi
      rw [show (0 : BitVec w).getLsbD i = false from BitVec.getLsbD_zero]
      cases i with
      | zero => exact hlow
      | succ i =>
          rw [Nat.add_comm, ← BitVec.getLsbD_ushiftRight, hmoved]
          exact BitVec.getLsbD_zero

/-- Any number of turns with such a polynomial loses nothing. -/
theorem repeat_turnDown_injective {poly : BitVec w} (hpoly : poly.msb = true) (n : Nat) :
    Function.Injective (Nat.repeat (turnDown poly) n) := by
  intro a b h
  rw [← BitVec.xor_eq_zero_iff] at h ⊢
  rw [← repeat_turnDown_xor] at h
  induction n with
  | zero => exact h
  | succ n ih => exact ih (eq_zero_of_turnDown hpoly h)

/-- The register behind some bytes determines the one in front of them. -/
theorem foldl_byteDown_injective {poly : BitVec w} (hpoly : poly.msb = true)
    (bytes : List (BitVec 8)) : Function.Injective (bytes.foldl (byteDown poly)) := by
  induction bytes with
  | nil => exact fun _ _ h => h
  | cons b bytes ih =>
      intro s t h
      have hbyte : byteDown poly s b = byteDown poly t b := ih h
      exact (BitVec.xor_left_inj _).mp (repeat_turnDown_injective hpoly 8 hbyte)

/-- The register behind a byte determines it. -/
theorem byteDown_injective (hw : 8 ≤ w) {poly s : BitVec w} (hpoly : poly.msb = true) :
    Function.Injective (byteDown poly s) := by
  intro x y h
  have hsame := congrArg BitVec.toNat
    ((BitVec.xor_right_inj _).mp (repeat_turnDown_injective hpoly 8 h))
  rw [BitVec.toNat_setWidth_of_le hw, BitVec.toNat_setWidth_of_le hw] at hsame
  exact BitVec.eq_of_toNat_eq hsame

/-- The register behind two bytes determines both of them, and the one in front of them is that of
two pairs only if the pairs are the same. -/
theorem byteDown_pair_injective (hw : 16 ≤ w) {poly s : BitVec w} (hpoly : poly.msb = true)
    {x₁ x₂ y₁ y₂ : BitVec 8}
    (h : byteDown poly (byteDown poly s x₁) x₂ = byteDown poly (byteDown poly s y₁) y₂) :
    x₁ = y₁ ∧ x₂ = y₂ := by
  -- the second byte may as well be added eight places higher, in front of the first turns
  have hback (x : BitVec 8) : x.setWidth w =
      Nat.repeat (turnDown poly) 8 (x.setWidth w <<< 8) := by
    rw [repeat_turnDown_shiftLeft poly _ (Nat.le_refl 8)]
    ext i hi
    by_cases hbyte : i < 8
    · have hinside : 8 + i < w := by omega
      simp [hinside]
    · have houtside : x.getLsbD i = false := BitVec.getLsbD_of_ge x i (Nat.le_of_not_lt hbyte)
      simp [houtside]
  have hpair (x₁ x₂ : BitVec 8) : byteDown poly s x₁ ^^^ x₂.setWidth w =
      Nat.repeat (turnDown poly) 8 (s ^^^ (x₁.setWidth w ^^^ (x₂.setWidth w <<< 8))) := by
    rw [byteDown, ← BitVec.xor_assoc, repeat_turnDown_xor poly 8 (s ^^^ x₁.setWidth w), ← hback]
  have hsame := repeat_turnDown_injective hpoly 8 h
  rw [hpair, hpair] at hsame
  have hbytes := (BitVec.xor_right_inj _).mp (repeat_turnDown_injective hpoly 8 hsame)
  have hbit (i : Nat) := congrArg (fun bits => bits.getLsbD i) hbytes
  simp only [BitVec.getLsbD_xor, BitVec.getLsbD_shiftLeft, BitVec.getLsbD_setWidth] at hbit
  constructor
  · apply BitVec.eq_of_getLsbD_eq
    intro i hi
    have hinside : i < w := by omega
    simpa [hi, hinside] using hbit i
  · apply BitVec.eq_of_getLsbD_eq
    intro i hi
    have hinside : 8 + i < w := by omega
    have hupper (x : BitVec 8) : x.getLsbD (8 + i) = false :=
      BitVec.getLsbD_of_ge x (8 + i) (Nat.le_add_right 8 i)
    have hless : i < w := by omega
    simpa [hinside, hupper, hless] using hbit (8 + i)

/-- Two texts that differ in at most two neighbouring bytes leave different registers. -/
theorem eq_of_burst (hw : 16 ≤ w) {poly : BitVec w} (hpoly : poly.msb = true) {i : Nat}
    {xs ys : List (BitVec 8)} (hlength : xs.length = ys.length)
    (hburst : ∀ j, xs[j]? ≠ ys[j]? → j = i ∨ j = i + 1) {s : BitVec w}
    (h : xs.foldl (byteDown poly) s = ys.foldl (byteDown poly) s) : xs = ys := by
  induction i generalizing xs ys s with
  | zero =>
      have hrest (k : Nat) : xs[k + 2]? = ys[k + 2]? := by
        by_contra hne
        obtain hk | hk := hburst (k + 2) hne <;> omega
      obtain _ | ⟨x₁, _ | ⟨x₂, xs⟩⟩ := xs
      · exact (List.length_eq_zero_iff.mp hlength.symm).symm
      · obtain ⟨y, rfl⟩ := List.length_eq_one_iff.mp hlength.symm
        exact congrArg (fun b => [b]) (byteDown_injective (by omega) hpoly h)
      · obtain ⟨y₁, y₂, ys, rfl⟩ : ∃ y₁ y₂ rest, ys = y₁ :: y₂ :: rest := by
          obtain _ | ⟨y₁, _ | ⟨y₂, ys⟩⟩ := ys
          · cases hlength
          · cases hlength
          · exact ⟨y₁, y₂, ys, rfl⟩
        obtain rfl : xs = ys := List.ext_getElem? hrest
        rw [List.foldl_cons, List.foldl_cons, List.foldl_cons, List.foldl_cons] at h
        have hpair := byteDown_pair_injective hw hpoly (foldl_byteDown_injective hpoly xs h)
        rw [hpair.1, hpair.2]
  | succ i ih =>
      obtain _ | ⟨x, xs⟩ := xs
      · exact (List.length_eq_zero_iff.mp hlength.symm).symm
      · obtain ⟨y, ys, rfl⟩ : ∃ y rest, ys = y :: rest :=
          List.exists_cons_of_length_eq_add_one hlength.symm
        obtain rfl : x = y := by
          by_contra hne
          obtain hk | hk := hburst 0 (fun hsame => hne (Option.some.inj hsame)) <;> omega
        have hinner (j : Nat) (hne : xs[j]? ≠ ys[j]?) : j = i ∨ j = i + 1 := by
          obtain hk | hk := hburst (j + 1) hne <;> omega
        rw [List.foldl_cons, List.foldl_cons] at h
        rw [ih (Nat.succ.inj hlength) hinner h]

/-! ## The other direction -/

theorem reverse_injective : Function.Injective (BitVec.reverse : BitVec w → BitVec w) := by
  intro a b h
  rw [← @BitVec.reverse_reverse_eq w a, h, BitVec.reverse_reverse_eq]

theorem reverse_xor (a b : BitVec w) : (a ^^^ b).reverse = a.reverse ^^^ b.reverse := by
  apply BitVec.eq_of_getLsbD_eq
  intro i hi
  simp only [BitVec.getLsbD_reverse, BitVec.getLsbD_xor, BitVec.getMsbD_xor]

theorem reverse_shiftLeft (s : BitVec w) (n : Nat) : (s <<< n).reverse = s.reverse >>> n := by
  apply BitVec.eq_of_getLsbD_eq
  intro i hi
  rw [BitVec.getLsbD_reverse, BitVec.getMsbD_shiftLeft, BitVec.getLsbD_ushiftRight,
    BitVec.getLsbD_reverse, Nat.add_comm]

/-- The upper end of a register is the lower end of the reversed one. -/
theorem reverse_setWidth (hw : 8 ≤ w) (b : BitVec 8) :
    (b.setWidth w <<< (w - 8)).reverse = b.reverse.setWidth w := by
  apply BitVec.eq_of_getLsbD_eq
  intro i hi
  have hplace : i + (w - 8) + 8 - w = i := by omega
  rw [BitVec.getLsbD_reverse, BitVec.getMsbD_shiftLeft, BitVec.getMsbD_setWidth,
    BitVec.getLsbD_setWidth, BitVec.getLsbD_reverse, hplace, decide_eq_true hi,
    decide_eq_true (Nat.le_add_left _ _)]

/-- A reversed register turns in the other direction. -/
theorem reverse_turnUp (poly s : BitVec w) :
    (turnUp poly s).reverse = turnDown poly.reverse s.reverse := by
  have hzero : (0 : BitVec w).reverse = 0 := BitVec.reverse_eq_zero_iff.mpr rfl
  rw [turnUp, turnDown, reverse_xor, reverse_shiftLeft, apply_ite BitVec.reverse, hzero,
    BitVec.getLsbD_reverse]
  rfl

theorem reverse_byteUp (hw : 8 ≤ w) (poly s : BitVec w) (b : BitVec 8) :
    (byteUp poly s b).reverse = byteDown poly.reverse s.reverse b.reverse := by
  rw [byteUp, repeat_hom BitVec.reverse (reverse_turnUp poly), reverse_xor, reverse_setWidth hw]
  rfl

/-- The register behind some bytes determines the one in front of them, highest bit first. -/
theorem foldl_byteUp_injective (hw : 8 ≤ w) {poly : BitVec w} (hpoly : poly.getLsbD 0 = true)
    (bytes : List (BitVec 8)) : Function.Injective (bytes.foldl (byteUp poly)) := by
  have hreversed (s : BitVec w) : (bytes.foldl (byteUp poly) s).reverse =
      (bytes.map BitVec.reverse).foldl (byteDown poly.reverse) s.reverse := by
    rw [List.foldl_map]
    apply Eq.symm
    apply List.foldl_hom BitVec.reverse
    intro s b
    exact (reverse_byteUp hw poly s b).symm
  intro s t h
  have hsame := congrArg BitVec.reverse h
  rw [hreversed, hreversed] at hsame
  exact reverse_injective (foldl_byteDown_injective (BitVec.msb_reverse.trans hpoly) _ hsame)

/-- The register behind two bytes determines both of them, highest bit first. -/
theorem byteUp_pair_injective (hw : 16 ≤ w) {poly s : BitVec w} (hpoly : poly.getLsbD 0 = true)
    {x₁ x₂ y₁ y₂ : BitVec 8}
    (h : byteUp poly (byteUp poly s x₁) x₂ = byteUp poly (byteUp poly s y₁) y₂) :
    x₁ = y₁ ∧ x₂ = y₂ := by
  have hbyte : 8 ≤ w := Nat.le_trans (by decide) hw
  have hsame := congrArg BitVec.reverse h
  rw [reverse_byteUp hbyte, reverse_byteUp hbyte, reverse_byteUp hbyte, reverse_byteUp hbyte]
    at hsame
  obtain ⟨h₁, h₂⟩ := byteDown_pair_injective hw (BitVec.msb_reverse.trans hpoly) hsame
  exact ⟨reverse_injective h₁, reverse_injective h₂⟩

end Library.ShiftRegister
