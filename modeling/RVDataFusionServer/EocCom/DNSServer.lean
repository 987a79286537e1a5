import RVDataFusionServer.Os.IpAddress

/-!
# The address test of the resolver

`isIP` of `DNSServer.cpp` scans four numbers, prints them again and compares the texts. Its last
test is about three of the numbers only, so that `isIP_agrees_iff` names the strings that it takes
for an address and `isIPv4` does not.
-/

namespace RVDataFusionServer

/-- What is behind the number that `%d` reads. -/
def afterInt (text : List UInt8) : List UInt8 :=
  match text.dropWhile isSpace with
  | 0x2b :: digits => digits.dropWhile isDigit
  | 0x2d :: digits => digits.dropWhile isDigit
  | digits => digits.dropWhile isDigit

/-- `%d` of `sscanf`, with an `int` as its target. -/
def scanInt (text : List UInt8) : Option (Int × List UInt8) :=
  match leadingInt text with
  | none => none
  | some _ => some (Int.bmod (strtol text) (2 ^ 32), afterInt text)

/-- The dot in a format of `sscanf`. -/
def scanDot : List UInt8 → Option (List UInt8)
  | 0x2E :: rest => some rest
  | _ => none

/-- `sscanf(str, "%d.%d.%d.%d", ..)`, when it returns 4. -/
def scanAddress (str : List UInt8) : Option (Int × Int × Int × Int) := do
  let (a, rest) ← scanInt str
  let (b, rest) ← scanInt (← scanDot rest)
  let (c, rest) ← scanInt (← scanDot rest)
  let (d, _) ← scanInt (← scanDot rest)
  pure (a, b, c, d)

/-- `isIP` of the bytes of a string. The four numbers have at most 15 characters, and so have
their texts in `temp`. -/
def isIP (str : List UInt8) : Int :=
  if 15 < str.length then 0
  else
    match scanAddress str with
    | none => 0
    | some (a, b, c, d) =>
        let temp := dotted a b c d
        if temp ≠ str then 0
        else if ¬ ((a ≤ 255 ∧ a ≥ 0) ∧ (b ≤ 255 ∧ b ≥ 0) ∧ (c ≤ 255 ∧ c ≥ 0)) then 0
        else 1

/-! ## Scanning what was printed -/

/-- What is behind a printed number. -/
theorem afterInt_intText (n : Int) {rest : List UInt8} (hrest : rest.takeWhile isDigit = []) :
    afterInt (intText n ++ rest) = rest := by
  have hdrop (n : Nat) : (natText n ++ rest).dropWhile isDigit = rest := by
    have hall := List.takeWhile_append_dropWhile (p := isDigit) (l := natText n ++ rest)
    rw [takeWhile_natText n hrest] at hall
    exact List.append_cancel_left hall
  cases n with
  | ofNat n =>
      obtain ⟨c, digits, hcons, hdigit⟩ := natText_cons n
      obtain ⟨hspace, hplus, hminus⟩ := ne_of_isDigit hdigit
      have hdigits := hdrop n
      show afterInt (natText n ++ rest) = _
      rw [hcons, List.cons_append] at hdigits ⊢
      rw [afterInt, List.dropWhile_cons_of_neg (by rw [hspace]; exact Bool.false_ne_true)]
      split
      · next heq => exact absurd (List.cons.inj heq).1 hplus
      · next heq => exact absurd (List.cons.inj heq).1 hminus
      · exact hdigits
  | negSucc n => exact hdrop (n + 1)

/-- Scanning a printed `int`. -/
theorem scanInt_intText {n : Int} (hlow : -2 ^ 31 ≤ n) (hhigh : n < 2 ^ 31) {rest : List UInt8}
    (hrest : rest.takeWhile isDigit = []) : scanInt (intText n ++ rest) = some (n, rest) := by
  rw [scanInt, strtol, leadingInt_intText n hrest, afterInt_intText n hrest]
  have hsaturated : max (-2 ^ 63) (min (2 ^ 63 - 1) n) = n := by omega
  have hwrap : Int.bmod n (2 ^ 32) = n := by
    apply Int.bmod_eq_of_le
    · omega
    · omega
  simp only [Option.getD_some, hsaturated, hwrap]

/-- Scanning a printed address. -/
theorem scanAddress_dotted {a b c d : Int} (ha : -2 ^ 31 ≤ a ∧ a < 2 ^ 31)
    (hb : -2 ^ 31 ≤ b ∧ b < 2 ^ 31) (hc : -2 ^ 31 ≤ c ∧ c < 2 ^ 31)
    (hd : -2 ^ 31 ≤ d ∧ d < 2 ^ 31) : scanAddress (dotted a b c d) = some (a, b, c, d) := by
  have hlast : scanInt (intText d) = some (d, []) := by
    rw [← List.append_nil (intText d)]
    exact scanInt_intText hd.1 hd.2 rfl
  rw [scanAddress, dotted, scanInt_intText ha.1 ha.2 rfl]
  show (do
    let (b, rest) ← scanInt (intText b ++ 0x2E :: (intText c ++ 0x2E :: intText d))
    let (c, rest) ← scanInt (← scanDot rest)
    let (d, _) ← scanInt (← scanDot rest)
    pure (a, b, c, d)) = _
  rw [scanInt_intText hb.1 hb.2 rfl]
  show (do
    let (c, rest) ← scanInt (intText c ++ 0x2E :: intText d)
    let (d, _) ← scanInt (← scanDot rest)
    pure (a, b, c, d)) = _
  rw [scanInt_intText hc.1 hc.2 rfl]
  show (do
    let (d, _) ← scanInt (intText d)
    pure (a, b, c, d)) = _
  rw [hlast]
  rfl

/-- A number with at most nine characters is an `int`. -/
theorem int_of_length_intText {n : Int} (h : (intText n).length ≤ 9) :
    -2 ^ 31 ≤ n ∧ n < 2 ^ 31 := by
  have hnine (k : Nat) (hk : (natText k).length ≤ 9) : k < 10 ^ 9 :=
    (length_natText_le_iff (by decide)).mp hk
  cases n with
  | ofNat n =>
      have hn := hnine n h
      show -2 ^ 31 ≤ (n : Int) ∧ (n : Int) < 2 ^ 31
      omega
  | negSucc n =>
      have hlength : (natText (n + 1)).length + 1 ≤ 9 := h
      have hn := hnine (n + 1) (by omega)
      omega

/-- A number up to 255 has one to three digits. -/
theorem length_natText {n : Nat} (h : n ≤ 255) :
    1 ≤ (natText n).length ∧ (natText n).length ≤ 3 :=
  ⟨length_natText_pos n, (length_natText_le_iff (by decide)).mpr (by omega)⟩

theorem length_dotted (a b c d : Int) : (dotted a b c d).length =
    (intText a).length + (intText b).length + (intText c).length + (intText d).length + 3 := by
  simp only [dotted, List.length_append, List.length_cons]
  omega

/-- Different addresses have different texts. -/
theorem dotted_inj {a b c d a' b' c' d' : Int} (h : dotted a b c d = dotted a' b' c' d') :
    a = a' ∧ b = b' ∧ c = c' ∧ d = d' := by
  have hparts := congrArg (List.splitOn 0x2E) h
  rw [splitOn_dotted, splitOn_dotted] at hparts
  simp only [List.cons.injEq, and_true, intText_injective.eq_iff] at hparts
  exact hparts

/-! ## The two tests -/

/-- `isIP` accepts the printed addresses of at most 15 characters whose first three numbers are in
range. -/
theorem isIP_iff (str : List UInt8) :
    isIP str = 1 ↔ ∃ (a b c : Nat) (d : Int), a ≤ 255 ∧ b ≤ 255 ∧ c ≤ 255 ∧ str.length ≤ 15 ∧
      str = dotted a b c d := by
  constructor
  · intro h
    rw [isIP] at h
    by_cases hlength : 15 < str.length
    · rw [if_pos hlength] at h
      cases h
    · rw [if_neg hlength] at h
      cases hscan : scanAddress str with
      | none =>
          rw [hscan] at h
          cases h
      | some numbers =>
          obtain ⟨a, b, c, d⟩ := numbers
          rw [hscan] at h
          dsimp only at h
          by_cases htext : dotted a b c d = str
          · rw [if_neg (not_not.mpr htext)] at h
            by_cases hrange : (a ≤ 255 ∧ a ≥ 0) ∧ (b ≤ 255 ∧ b ≥ 0) ∧ (c ≤ 255 ∧ c ≥ 0)
            · obtain ⟨⟨ha, ha'⟩, ⟨hb, hb'⟩, hc, hc'⟩ := hrange
              obtain ⟨a, rfl⟩ := Int.eq_ofNat_of_zero_le ha'
              obtain ⟨b, rfl⟩ := Int.eq_ofNat_of_zero_le hb'
              obtain ⟨c, rfl⟩ := Int.eq_ofNat_of_zero_le hc'
              exact ⟨a, b, c, d, by omega, by omega, by omega, Nat.le_of_not_lt hlength,
                htext.symm⟩
            · rw [if_pos hrange] at h
              cases h
          · rw [if_pos htext] at h
            cases h
  · intro h
    obtain ⟨a, b, c, d, ha, hb, hc, hlength, rfl⟩ := h
    have hsum := length_dotted a b c d
    have hla := length_natText ha
    have hlb := length_natText hb
    have hlc := length_natText hc
    have hd : (intText d).length ≤ 9 := by
      rw [show intText (a : Int) = natText a from rfl, show intText (b : Int) = natText b from rfl,
        show intText (c : Int) = natText c from rfl] at hsum
      omega
    have hscan := @scanAddress_dotted a b c d (by omega) (by omega) (by omega)
      (int_of_length_intText hd)
    rw [isIP, if_neg (Nat.not_lt.mpr hlength), hscan]
    show (if dotted a b c d ≠ dotted a b c d then (0 : Int) else _) = 1
    rw [if_neg (not_not.mpr rfl)]
    exact if_neg (not_not.mpr (by omega))

/-- **The two address tests agree** but for the texts of at most 15 characters whose first three
numbers are in range and whose fourth is not. -/
theorem isIP_agrees_iff (str : List UInt8) :
    (isIP str = 1 ↔ isIPv4 str = .ok true) ↔
      ¬ ∃ (a b c : Nat) (d : Int), a ≤ 255 ∧ b ≤ 255 ∧ c ≤ 255 ∧ (d < 0 ∨ 255 < d) ∧
        str.length ≤ 15 ∧ str = dotted a b c d := by
  rw [isIP_iff, isIPv4_iff]
  constructor
  · intro hagree hbad
    obtain ⟨a, b, c, d, ha, hb, hc, hd, hlength, htext⟩ := hbad
    obtain ⟨a', b', c', d', -, -, -, hd', htext'⟩ :=
      hagree.mp ⟨a, b, c, d, ha, hb, hc, hlength, htext⟩
    have hsame := (dotted_inj (htext.symm.trans htext')).2.2.2
    omega
  · intro hgood
    constructor
    · intro h
      obtain ⟨a, b, c, d, ha, hb, hc, hlength, htext⟩ := h
      have hd : ¬ (d < 0 ∨ 255 < d) :=
        fun hd => hgood ⟨a, b, c, d, ha, hb, hc, hd, hlength, htext⟩
      obtain ⟨n, rfl⟩ := Int.eq_ofNat_of_zero_le (show 0 ≤ d by omega)
      exact ⟨a, b, c, n, ha, hb, hc, by omega, htext⟩
    · intro h
      obtain ⟨a, b, c, d, ha, hb, hc, hd, rfl⟩ := h
      have hsum : (dotted a b c d).length = (natText a).length + (natText b).length +
        (natText c).length + (natText d).length + 3 := length_dotted a b c d
      have hla := length_natText ha
      have hlb := length_natText hb
      have hlc := length_natText hc
      have hld := length_natText hd
      exact ⟨a, b, c, d, ha, hb, hc, by omega, rfl⟩

/-- The string 1.2.3.999 is an address for `isIP` only. -/
theorem isIP_disagrees :
    ¬ ∀ str : List UInt8, isIP str = 1 ↔ isIPv4 str = .ok true := by
  intro h
  have hresolver : isIP [0x31, 0x2E, 0x32, 0x2E, 0x33, 0x2E, 0x39, 0x39, 0x39] = 1 := by
    decide +kernel
  have hvalidator : isIPv4 [0x31, 0x2E, 0x32, 0x2E, 0x33, 0x2E, 0x39, 0x39, 0x39] ≠ .ok true := by
    decide +kernel
  exact hvalidator ((h _).mp hresolver)

end RVDataFusionServer
