import RVDataFusionServer.Common.DecimalText
import RVDataFusionServer.Library.Segments

/-!
# IP addresses

`isIPv4`, `isIPv6` and `validIPAddress` of `os.cpp` on the bytes of a string. The two scanners
differ in the separator, the number of separators and the test of a part, so they are one scanner
with three parameters. `validIPAddress_eq` says that they accept exactly the two grammars, and
that nothing is thrown.
-/

namespace RVDataFusionServer

open Library Segments

/-- The loop that cuts a string at `sep` and tests each part. `temp` is the part so far. -/
def scanParts (sep : UInt8) (check : List UInt8 → Except Fault Bool) (temp : List UInt8) :
    List UInt8 → Except Fault Bool
  | [] => .ok true
  | c :: rest => do
      let temp := if c ≠ sep then temp ++ [c] else temp
      if c = sep ∨ rest = [] then
        if ← check temp then scanParts sep check [] rest else pure false
      else scanParts sep check temp rest

/-- A string with `dotcnt` separators whose parts pass the test, and no separator at its end. -/
def hasParts (sep : UInt8) (dotcnt : Nat) (check : List UInt8 → Except Fault Bool)
    (ip : List UInt8) : Except Fault Bool := do
  if ip.count sep ≠ dotcnt then pure false
  else if ← scanParts sep check [] ip then pure (decide (ip.getLast? ≠ some sep))
  else pure false

/-- The test of a part in `isIPv4`. -/
def isIPv4Part (temp : List UInt8) : Except Fault Bool := do
  if temp.length = 0 ∨ 3 < temp.length then pure false
  else if ¬ temp.all isDigit then pure false
  else
    let tempInt ← stoi temp
    if 255 < tempInt ∨ tempInt < 0 then pure false
    else
      let convertString := intText tempInt
      pure (decide (convertString = temp))

/-- `isIPv4`. -/
def isIPv4 (ip : List UInt8) : Except Fault Bool := hasParts 0x2E 3 isIPv4Part ip

/-- The hexadecimal digits of `isIPv6`. -/
def isHexDigit (c : UInt8) : Bool :=
  isDigit c || (0x61 ≤ c && c ≤ 0x66) || (0x41 ≤ c && c ≤ 0x46)

/-- The test of a part in `isIPv6`. -/
def isIPv6Part (temp : List UInt8) : Except Fault Bool :=
  if temp.length = 0 ∨ 4 < temp.length then .ok false else .ok (temp.all isHexDigit)

/-- `isIPv6`. -/
def isIPv6 (ip : List UInt8) : Except Fault Bool := hasParts 0x3A 7 isIPv6Part ip

/-- The loop of `validIPAddress` over the rest of the string. -/
def validIPAddressLoop (ip : List UInt8) : List UInt8 → Except Fault String
  | [] => .ok "Neither"
  | c :: rest =>
      if c = 0x2E then do pure (if ← isIPv4 ip then "IPv4" else "Neither")
      else if c = 0x3A then do pure (if ← isIPv6 ip then "IPv6" else "Neither")
      else validIPAddressLoop ip rest

/-- `validIPAddress`. -/
def validIPAddress (ip : List UInt8) : Except Fault String := validIPAddressLoop ip ip

/-! ## The grammars -/

/-- Four numbers, separated by dots. -/
def dotted (a b c d : Int) : List UInt8 :=
  intText a ++ 0x2E :: (intText b ++ 0x2E :: (intText c ++ 0x2E :: intText d))

/-- Four decimal numbers up to 255 without leading zeros, separated by dots. -/
def IPv4Text (ip : List UInt8) : Prop :=
  ∃ a b c d : Nat, a ≤ 255 ∧ b ≤ 255 ∧ c ≤ 255 ∧ d ≤ 255 ∧ ip = dotted a b c d

/-- A group of an IPv6 address. -/
def HexGroup (group : List UInt8) : Prop :=
  1 ≤ group.length ∧ group.length ≤ 4 ∧ ∀ c ∈ group, isHexDigit c = true

/-- Eight groups of hexadecimal digits, separated by colons. -/
def IPv6Text (ip : List UInt8) : Prop :=
  ∃ groups : List (List UInt8), groups.length = 8 ∧ (∀ group ∈ groups, HexGroup group) ∧
    ip = [0x3A].intercalate groups

/-! ## The scanner -/

variable {sep : UInt8} {check : List UInt8 → Except Fault Bool}

/-- The scanner does not throw when the test does not. -/
theorem scanParts_total (hcheck : ∀ part, ∃ result, check part = .ok result)
    (temp text : List UInt8) : ∃ result, scanParts sep check temp text = .ok result := by
  induction text generalizing temp with
  | nil => exact ⟨true, rfl⟩
  | cons c rest ih =>
      rw [scanParts]
      by_cases hend : c = sep ∨ rest = []
      · obtain ⟨passed, hpassed⟩ := hcheck (if c ≠ sep then temp ++ [c] else temp)
        rw [if_pos hend, hpassed]
        cases passed with
        | false => exact ⟨false, rfl⟩
        | true => exact ih []
      · rw [if_neg hend]
        exact ih _

/-- In a text that does not end with a separator every part is tested. -/
theorem scanParts_iff {temp text : List UInt8} (htemp : sep ∉ temp) (hne : text ≠ [])
    (hlast : text.getLast? ≠ some sep) :
    scanParts sep check temp text = .ok true ↔
      ∀ part ∈ (temp ++ text).splitOn sep, check part = .ok true := by
  have htest (part : List UInt8) (next : Except Fault Bool) :
      (do if ← check part then next else pure false) = .ok true ↔
        check part = .ok true ∧ next = .ok true := by
    cases check part with
    | error fault =>
        constructor
        · intro h
          cases h
        · intro h
          cases h.1
    | ok passed =>
        cases passed with
        | false =>
            constructor
            · intro h
              cases h
            · intro h
              cases h.1
        | true => exact ⟨fun h => ⟨rfl, h⟩, fun h => h.2⟩
  induction text generalizing temp with
  | nil => exact absurd rfl hne
  | cons c rest ih =>
      rw [scanParts]
      by_cases hc : c = sep
      · have hrest : rest ≠ [] := by
          rintro rfl
          exact hlast (congrArg some hc)
        have hlast' : rest.getLast? ≠ some sep := by
          rwa [List.getLast?_cons_of_ne_nil hrest] at hlast
        have hparts := ih List.not_mem_nil hrest hlast'
        rw [if_pos (Or.inl hc), if_neg (not_not.mpr hc), htest, hc,
          List.splitOn_append_cons_self_of_not_mem htemp, List.forall_mem_cons]
        exact and_congr_right' hparts
      · have htemp' : sep ∉ temp ++ [c] := by
          rw [List.mem_append, List.mem_singleton]
          exact fun hmem => hmem.elim htemp (fun heq => hc heq.symm)
        rw [if_pos hc]
        by_cases hrest : rest = []
        · rw [if_pos (Or.inr hrest), hrest, htest, List.splitOn_eq_singleton htemp',
            List.forall_mem_singleton]
          exact and_iff_left rfl
        · have hlast' : rest.getLast? ≠ some sep := by
            rwa [List.getLast?_cons_of_ne_nil hrest] at hlast
          have hparts := ih htemp' hrest hlast'
          rw [List.append_assoc] at hparts
          rw [if_neg (not_or.mpr ⟨hc, hrest⟩)]
          exact hparts

/-- The whole test does not throw when that of a part does not. -/
theorem hasParts_total (hcheck : ∀ part, ∃ result, check part = .ok result) (dotcnt : Nat)
    (ip : List UInt8) : ∃ result, hasParts sep dotcnt check ip = .ok result := by
  obtain ⟨valid, hvalid⟩ := scanParts_total hcheck [] ip
  rw [hasParts, hvalid]
  by_cases hcount : ip.count sep ≠ dotcnt
  · exact ⟨false, if_pos hcount⟩
  · rw [if_neg hcount]
    cases valid with
    | false => exact ⟨false, rfl⟩
    | true => exact ⟨decide (ip.getLast? ≠ some sep), rfl⟩

/-- A string passes when it has the right number of parts and each of them passes. -/
theorem hasParts_iff {dotcnt : Nat} (hpos : 0 < dotcnt) (hempty : check [] ≠ .ok true)
    (ip : List UInt8) :
    hasParts sep dotcnt check ip = .ok true ↔
      (ip.splitOn sep).length = dotcnt + 1 ∧ ∀ part ∈ ip.splitOn sep, check part = .ok true := by
  rw [hasParts, length_splitOn, Nat.add_right_cancel_iff]
  by_cases hcount : ip.count sep = dotcnt
  · have hne : ip ≠ [] := by
      intro hnil
      rw [hnil] at hcount
      exact absurd hcount (Nat.ne_of_lt hpos)
    rw [if_neg (not_not.mpr hcount)]
    by_cases hlast : ip.getLast? = some sep
    · -- the part behind the last separator is empty
      have hmem : [] ∈ ip.splitOn sep := by
        obtain ⟨front, rfl⟩ := List.getLast?_eq_some_iff.mp hlast
        rw [splitOn_concat_self]
        exact List.mem_append_right _ (List.mem_singleton_self _)
      apply iff_of_false
      · intro h
        cases hscan : scanParts sep check [] ip with
        | error fault =>
            rw [hscan] at h
            cases h
        | ok valid =>
            rw [hscan] at h
            cases valid with
            | false => cases h
            | true =>
                have hend : decide (ip.getLast? ≠ some sep) = true := Except.ok.inj h
                exact of_decide_eq_true hend hlast
      · intro h
        exact hempty (h.2 [] hmem)
    · have hparts := @scanParts_iff sep check [] ip List.not_mem_nil hne hlast
      rw [decide_eq_true hlast]
      apply Iff.trans _ (hparts.trans (and_iff_right hcount).symm)
      cases scanParts sep check [] ip with
      | error fault => exact Iff.rfl
      | ok valid =>
          cases valid with
          | false => exact Iff.rfl
          | true => exact Iff.rfl
  · rw [if_pos hcount]
    apply iff_of_false
    · intro h
      cases h
    · exact fun h => hcount h.1

/-! ## The parts -/

/-- The numbers up to 255 pass the test, and `stoi` reads them. -/
theorem isIPv4Part_natText {n : Nat} (h : n ≤ 255) : isIPv4Part (natText n) = .ok true := by
  have hpos := length_natText_pos n
  have hshort : (natText n).length ≤ 3 := (length_natText_le_iff (by decide)).mpr (by omega)
  have hread : stoi (natText n) = .ok (n : Int) := by
    have hleading := @leadingInt_intText n [] rfl
    rw [List.append_nil] at hleading
    rw [stoi, show natText n = intText n from rfl, hleading]
    exact if_pos (by omega)
  rw [isIPv4Part, if_neg (by omega), if_neg (not_not.mpr (all_isDigit_natText n)), hread]
  show (if 255 < (n : Int) ∨ (n : Int) < 0 then Except.ok false
    else Except.ok (decide (intText n = natText n))) = Except.ok true
  rw [if_neg (by omega)]
  exact congrArg Except.ok (decide_eq_true rfl)

/-- At most three digits are below 1000. -/
theorem stoi_digits {temp : List UInt8} (hne : temp ≠ []) (hlength : temp.length ≤ 3)
    (hdigits : temp.all isDigit = true) : ∃ n : Nat, stoi temp = .ok (n : Int) := by
  obtain ⟨n, hread, hbound⟩ := leadingInt_digits hne hdigits
  have hthousand : 10 ^ temp.length ≤ 10 ^ 3 := Nat.pow_le_pow_right (by decide) hlength
  refine ⟨n, ?_⟩
  rw [stoi, hread]
  exact if_pos (by omega)

theorem isIPv4Part_total (temp : List UInt8) : ∃ result, isIPv4Part temp = .ok result := by
  rw [isIPv4Part]
  by_cases hlength : temp.length = 0 ∨ 3 < temp.length
  · exact ⟨false, if_pos hlength⟩
  · rw [if_neg hlength]
    obtain ⟨hne, hshort⟩ := not_or.mp hlength
    by_cases hdigits : temp.all isDigit = true
    · obtain ⟨n, hn⟩ := stoi_digits (fun hnil => hne (by rw [hnil]; rfl))
        (Nat.le_of_not_lt hshort) hdigits
      rw [if_neg (not_not.mpr hdigits), hn]
      by_cases hrange : 255 < (n : Int) ∨ (n : Int) < 0
      · exact ⟨false, if_pos hrange⟩
      · exact ⟨decide (intText n = temp), if_neg hrange⟩
    · exact ⟨false, if_pos hdigits⟩

/-- The test of a part: a number up to 255 without a leading zero. -/
theorem isIPv4Part_iff (temp : List UInt8) :
    isIPv4Part temp = .ok true ↔ ∃ n ≤ 255, temp = natText n := by
  constructor
  · intro h
    rw [isIPv4Part] at h
    by_cases hlength : temp.length = 0 ∨ 3 < temp.length
    · rw [if_pos hlength] at h
      cases h
    · rw [if_neg hlength] at h
      by_cases hdigits : temp.all isDigit = true
      · rw [if_neg (not_not.mpr hdigits)] at h
        obtain ⟨tempInt, -, h⟩ := bind_eq_ok.mp h
        by_cases hrange : 255 < tempInt ∨ tempInt < 0
        · rw [if_pos hrange] at h
          cases h
        · rw [if_neg hrange] at h
          have htext := of_decide_eq_true (Except.ok.inj h)
          have hnonneg : 0 ≤ tempInt := Int.not_lt.mp (fun hneg => hrange (Or.inr hneg))
          obtain ⟨n, rfl⟩ := Int.eq_ofNat_of_zero_le hnonneg
          exact ⟨n, by omega, htext.symm⟩
      · rw [if_pos hdigits] at h
        cases h
  · intro h
    obtain ⟨n, hn, rfl⟩ := h
    exact isIPv4Part_natText hn

theorem isIPv6Part_iff (temp : List UInt8) : isIPv6Part temp = .ok true ↔ HexGroup temp := by
  rw [isIPv6Part, HexGroup]
  by_cases hlength : temp.length = 0 ∨ 4 < temp.length
  · rw [if_pos hlength]
    apply iff_of_false
    · intro h
      cases h
    · omega
  · rw [if_neg hlength, Except.ok.injEq, List.all_eq_true]
    constructor
    · intro h
      exact ⟨by omega, by omega, h⟩
    · exact fun h => h.2.2

theorem isIPv6Part_total (temp : List UInt8) : ∃ result, isIPv6Part temp = .ok result := by
  rw [isIPv6Part]
  split
  · exact ⟨false, rfl⟩
  · exact ⟨temp.all isHexDigit, rfl⟩

/-! ## The languages -/

theorem dotted_eq_intercalate (a b c d : Int) :
    dotted a b c d = [0x2E].intercalate [intText a, intText b, intText c, intText d] := by
  simp [dotted, List.intercalate]

/-- There is no dot in a number. -/
theorem dot_not_mem_intText (n : Int) : 0x2E ∉ intText n := by
  have hnat (n : Nat) : 0x2E ∉ natText n := by
    intro hmem
    exact absurd (isDigit_of_mem_natText hmem) (by decide)
  cases n with
  | ofNat n => exact hnat n
  | negSucc n =>
      intro hmem
      obtain hsign | hdigit := List.mem_cons.mp hmem
      · exact absurd hsign (by decide)
      · exact hnat (n + 1) hdigit

theorem splitOn_dotted (a b c d : Int) :
    (dotted a b c d).splitOn 0x2E = [intText a, intText b, intText c, intText d] := by
  rw [dotted_eq_intercalate]
  apply List.splitOn_intercalate
  · simp [dot_not_mem_intText]
  · exact List.cons_ne_nil _ _

/-- `isIPv4` accepts the grammar. -/
theorem isIPv4_iff (ip : List UInt8) : isIPv4 ip = .ok true ↔ IPv4Text ip := by
  rw [isIPv4, hasParts_iff (by decide) (by decide)]
  constructor
  · intro h
    obtain ⟨hlength, hparts⟩ := h
    obtain ⟨w, x, y, z, hsplit⟩ := List.length_eq_four.mp hlength
    rw [hsplit] at hparts
    simp only [List.mem_cons, List.not_mem_nil, or_false, forall_eq_or_imp, forall_eq,
      isIPv4Part_iff] at hparts
    obtain ⟨⟨a, ha, rfl⟩, ⟨b, hb, rfl⟩, ⟨c, hc, rfl⟩, ⟨d, hd, rfl⟩⟩ := hparts
    refine ⟨a, b, c, d, ha, hb, hc, hd, ?_⟩
    have hjoined : [0x2E].intercalate (ip.splitOn 0x2E) = ip := List.intercalate_splitOn 0x2E
    rw [dotted_eq_intercalate, ← hjoined, hsplit]
    rfl
  · intro h
    obtain ⟨a, b, c, d, ha, hb, hc, hd, rfl⟩ := h
    rw [splitOn_dotted]
    refine ⟨rfl, ?_⟩
    simp only [List.mem_cons, List.not_mem_nil, or_false, forall_eq_or_imp, forall_eq]
    exact ⟨isIPv4Part_natText ha, isIPv4Part_natText hb, isIPv4Part_natText hc,
      isIPv4Part_natText hd⟩

/-- `isIPv6` accepts the grammar. -/
theorem isIPv6_iff (ip : List UInt8) : isIPv6 ip = .ok true ↔ IPv6Text ip := by
  rw [isIPv6, hasParts_iff (by decide) (by decide)]
  simp only [isIPv6Part_iff]
  constructor
  · intro h
    exact ⟨ip.splitOn 0x3A, h.1, h.2, (List.intercalate_splitOn 0x3A).symm⟩
  · intro h
    obtain ⟨groups, hlength, hgroups, rfl⟩ := h
    have hcolon : ∀ group ∈ groups, 0x3A ∉ group := by
      intro group hgroup hmem
      exact absurd ((hgroups group hgroup).2.2 _ hmem) (by decide)
    have hne : groups ≠ [] := by
      intro hnil
      rw [hnil] at hlength
      cases hlength
    rw [List.splitOn_intercalate 0x3A hcolon hne]
    exact ⟨hlength, hgroups⟩

/-- An IPv4 address has dots and no colons. -/
theorem IPv4Text.separators {ip : List UInt8} (h : IPv4Text ip) : 0x2E ∈ ip ∧ 0x3A ∉ ip := by
  obtain ⟨a, b, c, d, -, -, -, -, rfl⟩ := h
  have hnat (n : Nat) : 0x3A ∉ intText n := by
    intro hmem
    exact absurd (isDigit_of_mem_natText hmem) (by decide)
  simp [dotted, hnat]

/-- An IPv6 address has colons and no dots. -/
theorem IPv6Text.separators {ip : List UInt8} (h : IPv6Text ip) : 0x3A ∈ ip ∧ 0x2E ∉ ip := by
  have hparts := (isIPv6_iff ip).mpr h
  rw [isIPv6, hasParts_iff (by decide) (by decide), length_splitOn] at hparts
  constructor
  · apply List.count_pos_iff.mp
    omega
  · intro hmem
    obtain heq | ⟨segment, hsegment, hmem⟩ := @eq_or_mem_segment _ _ _ 0x3A ip 0x2E hmem
    · exact absurd heq (by decide)
    · have hgroup := (isIPv6Part_iff segment).mp (hparts.2 segment hsegment)
      exact absurd (hgroup.2.2 _ hmem) (by decide)

/-- The loop of `validIPAddress` decides by the first separator. -/
theorem validIPAddressLoop_eq {ip : List UInt8} {v4 v6 : Bool} (h4 : isIPv4 ip = .ok v4)
    (h6 : isIPv6 ip = .ok v6) (text : List UInt8)
    (htext4 : v4 = true → 0x2E ∈ text ∧ 0x3A ∉ text)
    (htext6 : v6 = true → 0x3A ∈ text ∧ 0x2E ∉ text) :
    validIPAddressLoop ip text =
      .ok (if v4 then "IPv4" else if v6 then "IPv6" else "Neither") := by
  induction text with
  | nil =>
      have hv4 : v4 = false := Bool.eq_false_iff.mpr (fun h => List.not_mem_nil (htext4 h).1)
      have hv6 : v6 = false := Bool.eq_false_iff.mpr (fun h => List.not_mem_nil (htext6 h).1)
      rw [hv4, hv6]
      rfl
  | cons c rest ih =>
      rw [validIPAddressLoop]
      by_cases hdot : c = 0x2E
      · have hv6 : v6 = false := Bool.eq_false_iff.mpr
          (fun h => (htext6 h).2 (by rw [hdot]; exact List.mem_cons_self))
        rw [if_pos hdot, h4, hv6]
        rfl
      · by_cases hcolon : c = 0x3A
        · have hv4 : v4 = false := Bool.eq_false_iff.mpr
            (fun h => (htext4 h).2 (by rw [hcolon]; exact List.mem_cons_self))
          rw [if_neg hdot, if_pos hcolon, h6, hv4]
          rfl
        · rw [if_neg hdot, if_neg hcolon]
          apply ih
          · intro h
            obtain ⟨hmem, hnot⟩ := htext4 h
            exact ⟨(List.mem_cons.mp hmem).resolve_left (Ne.symm hdot),
              fun hrest => hnot (List.mem_cons_of_mem c hrest)⟩
          · intro h
            obtain ⟨hmem, hnot⟩ := htext6 h
            exact ⟨(List.mem_cons.mp hmem).resolve_left (Ne.symm hcolon),
              fun hrest => hnot (List.mem_cons_of_mem c hrest)⟩

/-- **Address validation accepts exactly the two grammars**, and throws for no string. -/
theorem validIPAddress_eq (ip : List UInt8) :
    ∃ v4 v6 : Bool, isIPv4 ip = .ok v4 ∧ isIPv6 ip = .ok v6 ∧
      (v4 = true ↔ IPv4Text ip) ∧ (v6 = true ↔ IPv6Text ip) ∧
      validIPAddress ip = .ok (if v4 then "IPv4" else if v6 then "IPv6" else "Neither") := by
  obtain ⟨v4, h4⟩ := @hasParts_total 0x2E _ isIPv4Part_total 3 ip
  obtain ⟨v6, h6⟩ := @hasParts_total 0x3A _ isIPv6Part_total 7 ip
  have hv4 : v4 = true ↔ IPv4Text ip := by
    rw [← isIPv4_iff, isIPv4, h4, Except.ok.injEq]
  have hv6 : v6 = true ↔ IPv6Text ip := by
    rw [← isIPv6_iff, isIPv6, h6, Except.ok.injEq]
  exact ⟨v4, v6, h4, h6, hv4, hv6, validIPAddressLoop_eq h4 h6 ip
    (fun h => (hv4.mp h).separators) (fun h => (hv6.mp h).separators)⟩

end RVDataFusionServer
