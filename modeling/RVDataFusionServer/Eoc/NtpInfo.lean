import RVDataFusionServer.Common.Numeric

/-!
# The answer of the clock script

`getNTPFromContent` of `Eoc.cpp` looks for the word `get_ntp_info` in what a script printed, and
takes the server and the port from the two words behind it. Its bounds let the index one behind the
last word pass, and `getNTPFromContent_returns_iff` says for which answers that is not fatal.
-/

namespace RVDataFusionServer

open Library

/-- `os::split`. The stream is made of the C string, which ends at the first NUL, and `std::getline`
takes the texts between the delimiters until it fails, which it does when nothing is left: there is
no empty text behind a last delimiter. -/
def split (text : List UInt8) (delim : UInt8) : List (List UInt8) :=
  let segments := (text.takeWhile (· ≠ 0)).splitOn delim
  if segments.getLast? = some [] then segments.dropLast else segments

/-- `std::vector::at`. -/
def vectorAt {α : Type} (items : List α) (index : Nat) : Except Fault α :=
  match items[index]? with
  | none => .error (.threw "out_of_range")
  | some item => .ok item

/-- The server and the port, which the caller passes by reference. -/
structure NtpInfo where
  ip : List UInt8
  port : Int
  deriving DecidableEq, Repr

namespace NtpInfo

/-- `get_ntp_info`. -/
def key : List UInt8 :=
  [0x67, 0x65, 0x74, 0x5F, 0x6E, 0x74, 0x70, 0x5F, 0x69, 0x6E, 0x66, 0x6F]

/-- The end of `getNTPFromContent`, with its return value. The `return 0` between the two accesses
is that of `ASS`, and `port` is an `int`. -/
def writeInfo (info : NtpInfo) (strs : List (List UInt8)) (index : Nat) :
    Except Fault (Int × NtpInfo) := do
  let ip ← vectorAt strs index
  let index := index + 1
  if index > strs.length then .ok (0, ⟨ip, info.port⟩)
  else
    let port ← vectorAt strs index
    .ok (0, ⟨ip, Int.bmod (strtol port) (2 ^ 32)⟩)

/-- `getNTPFromContent`. -/
def getNTPFromContent (info : NtpInfo) (content : List UInt8) : Except Fault (Int × NtpInfo) :=
  if content = [] then .ok (-1, info)
  else
    let strs := split content 0x20
    if strs = [] then .ok (-1, info)
    else
      match strs.findIdx? (· = key) with
      | none => .ok (-1, info)
      | some i =>
          let index := i + 1
          if index > strs.length then .ok (-1, info) else writeInfo info strs index

theorem vectorAt_eq_ok_iff {α : Type} (items : List α) (index : Nat) :
    (∃ item, vectorAt items index = .ok item) ↔ index < items.length := by
  rw [vectorAt]
  by_cases hlt : index < items.length
  · rw [List.getElem?_eq_getElem hlt]
    exact iff_of_true ⟨_, rfl⟩ hlt
  · rw [List.getElem?_eq_none (Nat.le_of_not_lt hlt)]
    apply iff_of_false _ hlt
    intro h
    cases h.choose_spec

/-- The loop finds the first of the words that are the key. -/
theorem findIdx?_first {front rest : List (List UInt8)} (hfront : key ∉ front) :
    (front ++ key :: rest).findIdx? (· = key) = some front.length := by
  have hnone : front.findIdx? (· = key) = none := by
    rw [List.findIdx?_eq_none_iff]
    intro word hword
    rw [decide_eq_false_iff_not]
    intro heq
    exact hfront (heq ▸ hword)
  rw [List.findIdx?_append, hnone, List.findIdx?_cons, if_pos (decide_eq_true rfl)]
  exact congrArg some (Nat.zero_add _)

/-- Without the key among the words there is no answer. -/
theorem getNTPFromContent_of_not_mem (info : NtpInfo) {content : List UInt8}
    (hkey : key ∉ split content 0x20) : getNTPFromContent info content = .ok (-1, info) := by
  have hnone : (split content 0x20).findIdx? (· = key) = none := by
    rw [List.findIdx?_eq_none_iff]
    intro word hword
    rw [decide_eq_false_iff_not]
    intro heq
    exact hkey (heq ▸ hword)
  unfold getNTPFromContent
  dsimp only
  rw [hnone, ite_self, ite_self]

/-- Behind the first key the answer is written, whether there are words or not. -/
theorem getNTPFromContent_of_split (info : NtpInfo) {content : List UInt8}
    {front rest : List (List UInt8)} (hsplit : split content 0x20 = front ++ key :: rest)
    (hfront : key ∉ front) :
    getNTPFromContent info content =
      writeInfo info (front ++ key :: rest) (front.length + 1) := by
  have hne : front ++ key :: rest ≠ [] :=
    List.append_ne_nil_of_right_ne_nil _ (List.cons_ne_nil _ _)
  have hcontent : content ≠ [] := by
    intro hnil
    rw [hnil] at hsplit
    exact hne hsplit.symm
  have hlength : (front ++ key :: rest).length = front.length + (rest.length + 1) := by
    rw [List.length_append, List.length_cons]
  unfold getNTPFromContent
  dsimp only
  rw [if_neg hcontent, hsplit, if_neg hne, findIdx?_first hfront]
  exact if_neg (by omega)

/-- Both words are accessed once the first one is there. -/
theorem writeInfo_returns_iff (info : NtpInfo) (strs : List (List UInt8)) (index : Nat) :
    (∃ result, writeInfo info strs index = .ok result) ↔ index + 1 < strs.length := by
  constructor
  · intro h
    obtain ⟨result, hresult⟩ := h
    obtain ⟨ip, hip, hresult⟩ := bind_eq_ok.mp hresult
    have hlt := (vectorAt_eq_ok_iff strs index).mp ⟨ip, hip⟩
    rw [if_neg (by omega)] at hresult
    obtain ⟨port, hport, -⟩ := bind_eq_ok.mp hresult
    exact (vectorAt_eq_ok_iff strs (index + 1)).mp ⟨port, hport⟩
  · intro hlt
    obtain ⟨ip, hip⟩ := (vectorAt_eq_ok_iff strs index).mpr (by omega)
    obtain ⟨port, hport⟩ := (vectorAt_eq_ok_iff strs (index + 1)).mpr hlt
    refine ⟨(0, ⟨ip, Int.bmod (strtol port) (2 ^ 32)⟩), bind_eq_ok.mpr ⟨ip, hip, ?_⟩⟩
    rw [if_neg (by omega)]
    exact bind_eq_ok.mpr ⟨port, hport, rfl⟩

/-- The query returns exactly if two words follow the first one that is the key. -/
theorem getNTPFromContent_returns_iff (info : NtpInfo) (content : List UInt8) :
    (∃ result, getNTPFromContent info content = .ok result) ↔
      ∀ front rest, split content 0x20 = front ++ key :: rest → key ∉ front →
        2 ≤ rest.length := by
  by_cases hkey : key ∈ split content 0x20
  · obtain ⟨front, rest, hsplit, hfront⟩ := List.eq_append_cons_of_mem hkey
    have hlength : (front ++ key :: rest).length = front.length + (rest.length + 1) := by
      rw [List.length_append, List.length_cons]
    rw [getNTPFromContent_of_split info hsplit hfront, writeInfo_returns_iff, hlength]
    constructor
    · intro hlt front' rest' hsplit' hfront'
      -- there is one place for the first key
      have hfirst := @findIdx?_first front' rest' hfront'
      rw [← hsplit', hsplit, findIdx?_first hfront] at hfirst
      have hsame := Option.some.inj hfirst
      have htotal := congrArg List.length (hsplit.symm.trans hsplit')
      rw [hlength, List.length_append, List.length_cons] at htotal
      omega
    · intro h
      have hrest := h front rest hsplit hfront
      omega
  · rw [getNTPFromContent_of_not_mem info hkey]
    apply iff_of_true ⟨_, rfl⟩
    intro front rest hsplit
    rw [hsplit] at hkey
    exact absurd (List.mem_append_right front List.mem_cons_self) hkey

/-- An answer that is the word alone. -/
theorem getNTPFromContent_word : ¬ ∃ result, getNTPFromContent ⟨[], 0⟩ key = .ok result := by
  have hsplit : split key 0x20 = [] ++ key :: [] := by decide +kernel
  rw [getNTPFromContent_of_split _ hsplit List.not_mem_nil, writeInfo_returns_iff]
  show ¬ 2 < 1
  omega

end NtpInfo

end RVDataFusionServer
