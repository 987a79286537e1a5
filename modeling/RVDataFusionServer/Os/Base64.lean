import Mathlib.Data.List.TakeWhile
import Mathlib.Tactic.Ring
import RVDataFusionServer.Library.Block

/-!
# Base64

`base64_encode` and `base64_decode` of `os.cpp`. The output goes into a memory block, one checked
store for a character, so that a write behind the end of the block is a fault; so is a table index
outside of the table. `signed` says whether a plain `char` is signed, as it is on x86-64.
-/

namespace RVDataFusionServer

open Library

/-- `encodeCharacterTable`, without the zero at its end. -/
def encodeCharacterTable : Array UInt8 :=
  #['A', 'B', 'C', 'D', 'E', 'F', 'G', 'H', 'I', 'J', 'K', 'L', 'M', 'N', 'O', 'P', 'Q', 'R', 'S',
    'T', 'U', 'V', 'W', 'X', 'Y', 'Z', 'a', 'b', 'c', 'd', 'e', 'f', 'g', 'h', 'i', 'j', 'k', 'l',
    'm', 'n', 'o', 'p', 'q', 'r', 's', 't', 'u', 'v', 'w', 'x', 'y', 'z', '0', '1', '2', '3', '4',
    '5', '6', '7', '8', '9', '+', '/'].map fun c => UInt8.ofNat c.toNat

/-- `decodeCharacterTable`. -/
def decodeCharacterTable : Array Int8 :=
  #[-1, -1, -1, -1, -1, -1, -1, -1, -1, -1, -1, -1, -1, -1, -1, -1,
    -1, -1, -1, -1, -1, -1, -1, -1, -1, -1, -1, -1, -1, -1, -1, -1,
    -1, -1, -1, -1, -1, -1, -1, -1, -1, -1, -1, 62, -1, -1, -1, 63,
    52, 53, 54, 55, 56, 57, 58, 59, 60, 61, -1, -1, -1, -1, -1, -1,
    -1, 0, 1, 2, 3, 4, 5, 6, 7, 8, 9, 10, 11, 12, 13, 14,
    15, 16, 17, 18, 19, 20, 21, 22, 23, 24, 25, -1, -1, -1, -1, -1,
    -1, 26, 27, 28, 29, 30, 31, 32, 33, 34, 35, 36, 37, 38, 39, 40,
    41, 42, 43, 44, 45, 46, 47, 48, 49, 50, 51, -1, -1, -1, -1, -1,
    -1, -1, -1, -1, -1, -1, -1, -1, -1, -1, -1, -1, -1, -1, -1, -1,
    -1, -1, -1, -1, -1, -1, -1, -1, -1, -1, -1, -1, -1, -1, -1, -1,
    -1, -1, -1, -1, -1, -1, -1, -1, -1, -1, -1, -1, -1, -1, -1, -1,
    -1, -1, -1, -1, -1, -1, -1, -1, -1, -1, -1, -1, -1, -1, -1, -1,
    -1, -1, -1, -1, -1, -1, -1, -1, -1, -1, -1, -1, -1, -1, -1, -1,
    -1, -1, -1, -1, -1, -1, -1, -1, -1, -1, -1, -1, -1, -1, -1, -1,
    -1, -1, -1, -1, -1, -1, -1, -1, -1, -1, -1, -1, -1, -1, -1, -1,
    -1, -1, -1, -1, -1, -1, -1, -1, -1, -1, -1, -1, -1, -1, -1, -1]

/-- The output buffer and `output_cnt`. -/
abbrev Output := Block UInt8 × UInt32

/-- `output[output_cnt++] = byte`. -/
def putByte (out : Output) (byte : UInt8) : Except Fault Output := do
  let block ← out.1.store out.2.toNat [byte]
  pure (block, out.2 + 1)

/-- A number of such assignments. -/
def putBytes (out : Output) (bytes : List UInt8) : Except Fault Output :=
  bytes.foldlM putByte out

/-! ## Encoding -/

/-- The four indices for three bytes. -/
def encodeGroup (b₀ b₁ b₂ : UInt8) : List UInt8 :=
  [(b₀ &&& 0xfc) >>> 2, ((b₀ &&& 0x03) <<< 4) + ((b₁ &&& 0xf0) >>> 4),
    ((b₁ &&& 0x0f) <<< 2) + ((b₂ &&& 0xc0) >>> 6), b₂ &&& 0x3f]

/-- `encodeCharacterTable[index]`. -/
def encodeChar (index : UInt8) : UInt8 := encodeCharacterTable[index.toNat]!

/-- The loop of `base64_encode`. `buff1` are the bytes in front of `i`. -/
def encodeLoop (out : Output) (buff1 : List UInt8) :
    List UInt8 → Except Fault (Output × List UInt8)
  | [] => .ok (out, buff1)
  | byte :: input =>
      match buff1 ++ [byte] with
      | [b₀, b₁, b₂] => do
          let out ← putBytes out ((encodeGroup b₀ b₁ b₂).map encodeChar)
          encodeLoop out [] input
      | buff1 => encodeLoop out buff1 input

/-- The end of `base64_encode`, for the bytes that form no group. -/
def encodeTail (out : Output) (buff1 : List UInt8) : Except Fault Output :=
  let i := buff1.length
  if i = 0 then .ok out
  else
    let buff2 := encodeGroup (buff1.getD 0 0) (buff1.getD 1 0) (buff1.getD 2 0)
    putBytes out ((buff2.take (i + 1)).map encodeChar ++ List.replicate (3 - i) 0x3D)

/-- `base64_encode`: the output buffer and `output_length`. -/
def base64Encode (input : List UInt8) (inputLength : UInt32) (output : Block UInt8) :
    Except Fault Output := do
  let (out, buff1) ← encodeLoop (output, 0) [] (input.take inputLength.toNat)
  let out ← encodeTail out buff1
  let block ← out.1.store out.2.toNat [0]
  pure (block, out.2)

/-! ## Decoding -/

/-- `decodeCharacterTable[c]` for a plain `char`, as the `char` that it is stored in. -/
def decodeChar (signed : Bool) (c : UInt8) : Except Fault UInt8 :=
  if signed && 0x80 ≤ c then .error .outOfBounds else .ok decodeCharacterTable[c.toNat]!.toUInt8

/-- The three bytes for four table entries. -/
def decodeGroup (v₀ v₁ v₂ v₃ : UInt8) : List UInt8 :=
  [(v₀ <<< 2) + ((v₁ &&& 0x30) >>> 4), ((v₁ &&& 0xf) <<< 4) + ((v₂ &&& 0x3c) >>> 2),
    ((v₂ &&& 0x3) <<< 6) + v₃]

/-- The three bytes for four characters. -/
def decodeChars (signed : Bool) (c₀ c₁ c₂ c₃ : UInt8) : Except Fault (List UInt8) := do
  let v₀ ← decodeChar signed c₀
  let v₁ ← decodeChar signed c₁
  let v₂ ← decodeChar signed c₂
  let v₃ ← decodeChar signed c₃
  pure (decodeGroup v₀ v₁ v₂ v₃)

/-- The loop of `base64_decode`, up to the first `=`. `buff2` are the characters in front of
`i`. -/
def decodeLoop (signed : Bool) (out : Output) (buff2 : List UInt8) :
    List UInt8 → Except Fault (Output × List UInt8)
  | [] => .ok (out, buff2)
  | c :: input =>
      if c = 0x3D then .ok (out, buff2)
      else
        match buff2 ++ [c] with
        | [c₀, c₁, c₂, c₃] => do
            let out ← putBytes out (← decodeChars signed c₀ c₁ c₂ c₃)
            decodeLoop signed out [] input
        | buff2 => decodeLoop signed out buff2 input

/-- The end of `base64_decode`, for the characters that form no group. -/
def decodeTail (signed : Bool) (out : Output) (buff2 : List UInt8) : Except Fault Output :=
  let i := buff2.length
  if i = 0 then .ok out
  else do
    let buff1 ← decodeChars signed (buff2.getD 0 0) (buff2.getD 1 0) (buff2.getD 2 0)
      (buff2.getD 3 0)
    putBytes out (buff1.take (i - 1))

/-- `base64_decode`: the output buffer and `output_length`. -/
def base64Decode (signed : Bool) (input : List UInt8) (inputLength : UInt32)
    (output : Block UInt8) : Except Fault Output := do
  let (out, buff2) ← decodeLoop signed (output, 0) [] (input.take inputLength.toNat)
  decodeTail signed out buff2

/-! ## Output -/

/-- From `out` to `out'` the bytes `text` were written. -/
structure Wrote (out out' : Output) (text : List UInt8) : Prop where
  size_eq : out'.1.size = out.1.size
  count_eq : out'.2.toNat = out.2.toNat + text.length
  window_eq : out'.1.window 0 out'.2.toNat = out.1.window 0 out.2.toNat ++ text

/-- Nothing was written. -/
theorem Wrote.refl (out : Output) : Wrote out out [] :=
  ⟨rfl, rfl, (List.append_nil _).symm⟩

/-- One text behind the other. -/
theorem Wrote.trans {out middle out' : Output} {first second : List UInt8}
    (hfirst : Wrote out middle first) (hsecond : Wrote middle out' second) :
    Wrote out out' (first ++ second) where
  size_eq := hsecond.size_eq.trans hfirst.size_eq
  count_eq := by
    rw [hsecond.count_eq, hfirst.count_eq, List.length_append, Nat.add_assoc]
  window_eq := by
    rw [hsecond.window_eq, hfirst.window_eq, List.append_assoc]

/-- Bytes that fit are written. -/
theorem putBytes_eq {out : Output} {bytes : List UInt8}
    (hfits : out.2.toNat + bytes.length ≤ out.1.size)
    (hcount : out.2.toNat + bytes.length < 2 ^ 32) :
    ∃ out', putBytes out bytes = .ok out' ∧ Wrote out out' bytes := by
  induction bytes generalizing out with
  | nil => exact ⟨out, rfl, .refl out⟩
  | cons byte bytes ih =>
      rw [List.length_cons] at hfits hcount
      have hstore : out.1.store out.2.toNat [byte] = .ok (out.1.overwrite out.2.toNat [byte]) :=
        Block.store_eq _ _ _ (by rw [List.length_singleton]; omega)
      have hnext : (out.2 + 1).toNat = out.2.toNat + 1 := by
        rw [UInt32.toNat_add]
        exact Nat.mod_eq_of_lt (by show out.2.toNat + 1 < _; omega)
      have hput : putByte out byte = .ok (out.1.overwrite out.2.toNat [byte], out.2 + 1) := by
        rw [putByte, hstore]
        rfl
      have hwrote : Wrote out (out.1.overwrite out.2.toNat [byte], out.2 + 1) [byte] := by
        refine ⟨rfl, hnext, ?_⟩
        show (out.1.overwrite out.2.toNat [byte]).window 0 (out.2 + 1).toNat = _
        have happend := Block.window_overwrite_append out.1 0 out.2.toNat [byte]
        rw [Nat.zero_add] at happend
        rw [hnext]
        exact happend
      obtain ⟨out', hrest, hwroteRest⟩ := @ih (out.1.overwrite out.2.toNat [byte], out.2 + 1)
        (by show (out.2 + 1).toNat + _ ≤ out.1.size; omega)
        (by show (out.2 + 1).toNat + _ < _; omega)
      refine ⟨out', ?_, hwrote.trans hwroteRest⟩
      rw [putBytes, List.foldlM_cons, hput]
      exact hrest

/-! ## What is encoded -/

/-- The indices for a text. -/
def encodedDigits : List UInt8 → List UInt8
  | b₀ :: b₁ :: b₂ :: input => encodeGroup b₀ b₁ b₂ ++ encodedDigits input
  | [b₀, b₁] => (encodeGroup b₀ b₁ 0).take 3
  | [b₀] => (encodeGroup b₀ 0 0).take 2
  | [] => []

/-- The fill characters behind a text of `n` bytes. -/
def padding (n : Nat) : List UInt8 := List.replicate ((3 - n % 3) % 3) 0x3D

/-- The characters for a text. -/
def encoded (input : List UInt8) : List UInt8 :=
  (encodedDigits input).map encodeChar ++ padding input.length

theorem length_encoded (input : List UInt8) :
    (encoded input).length = 4 * ((input.length + 2) / 3) := by
  have hdigits : (encodedDigits input).length = input.length + (input.length + 2) / 3 := by
    induction input using encodedDigits.induct with
    | case1 b₀ b₁ b₂ input ih =>
        rw [encodedDigits, List.length_append, ih]
        simp only [encodeGroup, List.length_cons, List.length_nil]
        omega
    | case2 => simp [encodedDigits, encodeGroup]
    | case3 => simp [encodedDigits, encodeGroup]
    | case4 => rfl
  rw [encoded, padding, List.length_append, List.length_map, List.length_replicate, hdigits]
  omega

/-- A whole group goes in front. -/
theorem encoded_cons (b₀ b₁ b₂ : UInt8) (input : List UInt8) :
    encoded (b₀ :: b₁ :: b₂ :: input) =
      (encodeGroup b₀ b₁ b₂).map encodeChar ++ encoded input := by
  have hpadding : padding (b₀ :: b₁ :: b₂ :: input).length = padding input.length := by
    rw [padding, padding, List.length_cons, List.length_cons, List.length_cons, Nat.add_assoc,
      Nat.add_assoc, Nat.add_mod_right]
  rw [encoded, encodedDigits, List.map_append, List.append_assoc, hpadding, encoded]

/-- The loop and the end write the characters for the text. -/
theorem encodeTail_encodeLoop {out : Output} {input : List UInt8}
    (hfits : out.2.toNat + (encoded input).length ≤ out.1.size)
    (hcount : out.2.toNat + (encoded input).length < 2 ^ 32) :
    ∃ out', (do
        let (out, buff1) ← encodeLoop out [] input
        encodeTail out buff1) = .ok out' ∧ Wrote out out' (encoded input) := by
  induction input using encodedDigits.induct generalizing out with
  | case1 b₀ b₁ b₂ input ih =>
      rw [encoded_cons, List.length_append] at hfits hcount
      obtain ⟨middle, hput, hgroup⟩ := @putBytes_eq out
        ((encodeGroup b₀ b₁ b₂).map encodeChar) (by omega) (by omega)
      have hsize := hgroup.size_eq
      have hmiddle := hgroup.count_eq
      obtain ⟨out', hrest, hwrote⟩ := @ih middle (by omega) (by omega)
      refine ⟨out', ?_, ?_⟩
      · show (do
          let (out, buff1) ← (do
            let out ← putBytes out ((encodeGroup b₀ b₁ b₂).map encodeChar)
            encodeLoop out [] input)
          encodeTail out buff1) = _
        rw [hput]
        exact hrest
      · rw [encoded_cons]
        exact hgroup.trans hwrote
  | case2 b₀ b₁ => exact putBytes_eq hfits hcount
  | case3 b₀ => exact putBytes_eq hfits hcount
  | case4 => exact ⟨out, rfl, .refl out⟩

/-- `base64_encode` fills a buffer with the characters for the text and a zero. -/
theorem base64Encode_eq {input : List UInt8} (hlength : input.length < 2 ^ 30)
    {output : Block UInt8} (hout : (encoded input).length < output.size) :
    ∃ out, base64Encode input (UInt32.ofNat input.length) output = .ok out ∧
      out.2.toNat = (encoded input).length ∧ out.1.window 0 out.2.toNat = encoded input := by
  have hencoded := length_encoded input
  have htake : input.take (UInt32.ofNat input.length).toNat = input := by
    rw [UInt32.toNat_ofNat_of_lt' (by show _ < 2 ^ 32; omega), List.take_length]
  obtain ⟨⟨block, count⟩, hloop, hwrote⟩ := @encodeTail_encodeLoop (output, 0) input
    (by show 0 + _ ≤ output.size; omega) (by show 0 + _ < _; omega)
  obtain ⟨hsize, hcount, hwindow⟩ := hwrote
  have hcount' : count.toNat = (encoded input).length := by
    rw [show count.toNat = 0 + (encoded input).length from hcount, Nat.zero_add]
  have hstore : block.store count.toNat [0] = .ok (block.overwrite count.toNat [0]) := by
    apply Block.store_eq
    rw [show block.size = output.size from hsize, hcount']
    exact hout
  refine ⟨(block.overwrite count.toNat [0], count), ?_, hcount', ?_⟩
  · rw [base64Encode, htake]
    rw [bind_eq_ok] at hloop ⊢
    obtain ⟨⟨out, buff1⟩, hgroups, htail⟩ := hloop
    refine ⟨(out, buff1), hgroups, ?_⟩
    show (do
      let out ← encodeTail out buff1
      let block ← out.1.store out.2.toNat [0]
      pure (block, out.2)) = _
    rw [show encodeTail out buff1 = .ok (block, count) from htail]
    show (do
      let block ← block.store count.toNat [0]
      pure (block, count)) = _
    rw [hstore]
    rfl
  · show (block.overwrite count.toNat [0]).window 0 count.toNat = _
    rw [Block.window_overwrite_other _ _ _ (Or.inl (by omega))]
    exact hwindow

/-! ## What is decoded -/

/-- The bytes for a list of table entries. A missing entry is that of a zero character. -/
def decodedBytes : List UInt8 → List UInt8
  | v₀ :: v₁ :: v₂ :: v₃ :: values => decodeGroup v₀ v₁ v₂ v₃ ++ decodedBytes values
  | [v₀, v₁, v₂] => (decodeGroup v₀ v₁ v₂ 0xFF).take 2
  | [v₀, v₁] => (decodeGroup v₀ v₁ 0xFF 0xFF).take 1
  | [_] => []
  | [] => []

/-- The entry of a character. -/
def digitValue (c : UInt8) : UInt8 := decodeCharacterTable[c.toNat]!.toUInt8

theorem length_decodedBytes_le (values : List UInt8) :
    (decodedBytes values).length ≤ values.length := by
  induction values using decodedBytes.induct with
  | case1 v₀ v₁ v₂ v₃ values ih =>
      rw [decodedBytes, List.length_append]
      simp only [decodeGroup, List.length_cons, List.length_nil]
      omega
  | case2 => simp [decodedBytes, decodeGroup]
  | case3 => simp [decodedBytes, decodeGroup]
  | case4 => simp [decodedBytes]
  | case5 => exact Nat.le_refl 0

/-- The character may be used as an index. -/
def InTable (signed : Bool) (c : UInt8) : Prop := signed = false ∨ c < 0x80

theorem decodeChar_eq {signed : Bool} {c : UInt8} (h : InTable signed c) :
    decodeChar signed c = .ok (digitValue c) := by
  have hcheck : (signed && decide (0x80 ≤ c)) = false := by
    obtain rfl | hlow := h
    · rfl
    · rw [decide_eq_false (UInt8.not_le.mpr hlow), Bool.and_false]
  rw [decodeChar, hcheck]
  rfl

theorem inTable_of_decodeChar {signed : Bool} {c v : UInt8} (h : decodeChar signed c = .ok v) :
    InTable signed c := by
  rw [decodeChar] at h
  by_cases hcheck : (signed && decide (0x80 ≤ c)) = true
  · rw [if_pos hcheck] at h
    cases h
  · cases signed with
    | false => exact Or.inl rfl
    | true => exact Or.inr (UInt8.not_le.mp (fun hle => hcheck (decide_eq_true hle)))

/-- The loop reads nothing behind the first `=`. -/
theorem decodeLoop_takeWhile (signed : Bool) (input : List UInt8) (out : Output)
    (buff2 : List UInt8) :
    decodeLoop signed out buff2 input =
      decodeLoop signed out buff2 (input.takeWhile (· ≠ 0x3D)) := by
  induction input generalizing out buff2 with
  | nil => rfl
  | cons c input ih =>
      by_cases hc : c = 0x3D
      · rw [List.takeWhile_cons_of_neg (by simp [hc])]
        exact if_pos hc
      · rw [List.takeWhile_cons_of_pos (by simp [hc])]
        rw [decodeLoop, if_neg hc, decodeLoop, if_neg hc]
        split
        · congr 1
          funext chars
          congr 1
          funext out
          exact ih out []
        · exact ih out _

theorem decodeChars_eq {signed : Bool} {c₀ c₁ c₂ c₃ : UInt8}
    (h : ∀ c ∈ [c₀, c₁, c₂, c₃], InTable signed c) :
    decodeChars signed c₀ c₁ c₂ c₃ =
      .ok (decodeGroup (digitValue c₀) (digitValue c₁) (digitValue c₂) (digitValue c₃)) := by
  simp only [List.mem_cons, List.not_mem_nil, or_false, forall_eq_or_imp, forall_eq] at h
  rw [decodeChars, decodeChar_eq h.1, decodeChar_eq h.2.1, decodeChar_eq h.2.2.1,
    decodeChar_eq h.2.2.2]
  rfl

theorem inTable_of_decodeChars {signed : Bool} {c₀ c₁ c₂ c₃ : UInt8} {bytes : List UInt8}
    (h : decodeChars signed c₀ c₁ c₂ c₃ = .ok bytes) :
    ∀ c ∈ [c₀, c₁, c₂, c₃], InTable signed c := by
  rw [decodeChars] at h
  obtain ⟨v₀, h₀, h⟩ := bind_eq_ok.mp h
  obtain ⟨v₁, h₁, h⟩ := bind_eq_ok.mp h
  obtain ⟨v₂, h₂, h⟩ := bind_eq_ok.mp h
  obtain ⟨v₃, h₃, -⟩ := bind_eq_ok.mp h
  simp only [List.mem_cons, List.not_mem_nil, or_false, forall_eq_or_imp, forall_eq]
  exact ⟨inTable_of_decodeChar h₀, inTable_of_decodeChar h₁, inTable_of_decodeChar h₂,
    inTable_of_decodeChar h₃⟩

/-- A zero character is in the table. -/
theorem inTable_zero (signed : Bool) : InTable signed 0 := Or.inr (by decide)

/-- A turn of the loop with a whole group. -/
theorem decodeLoop_group {signed : Bool} {out : Output} {c₀ c₁ c₂ c₃ : UInt8}
    {text : List UInt8} (h : ∀ c ∈ [c₀, c₁, c₂, c₃], c ≠ 0x3D) :
    decodeLoop signed out [] (c₀ :: c₁ :: c₂ :: c₃ :: text) = (do
      let out ← putBytes out (← decodeChars signed c₀ c₁ c₂ c₃)
      decodeLoop signed out [] text) := by
  simp only [List.mem_cons, List.not_mem_nil, or_false, forall_eq_or_imp, forall_eq] at h
  simp [decodeLoop, h.1, h.2.1, h.2.2.1, h.2.2.2]

/-- The loop leaves fewer characters than a group as they are. -/
theorem decodeLoop_short {signed : Bool} {out : Output} {text : List UInt8}
    (hlength : text.length < 4) (h : ∀ c ∈ text, c ≠ 0x3D) :
    decodeLoop signed out [] text = .ok (out, text) := by
  obtain _ | ⟨c₀, _ | ⟨c₁, _ | ⟨c₂, _ | ⟨c₃, text⟩⟩⟩⟩ := text
  · rfl
  · simp only [List.mem_cons, List.not_mem_nil, or_false, forall_eq] at h
    simp [decodeLoop, h]
  · simp only [List.mem_cons, List.not_mem_nil, or_false, forall_eq_or_imp, forall_eq] at h
    simp [decodeLoop, h.1, h.2]
  · simp only [List.mem_cons, List.not_mem_nil, or_false, forall_eq_or_imp, forall_eq] at h
    simp [decodeLoop, h.1, h.2.1, h.2.2]
  · simp only [List.length_cons] at hlength
    omega

/-- The end, with the entry 255 for a zero character. -/
theorem decodeTail_eq {signed : Bool} {out : Output} {text : List UInt8}
    (hlength : text.length < 4) (h : ∀ c ∈ text, InTable signed c) :
    decodeTail signed out text = putBytes out (decodedBytes (text.map digitValue)) := by
  have hzero : digitValue 0 = 0xFF := by decide +kernel
  obtain _ | ⟨c₀, _ | ⟨c₁, _ | ⟨c₂, _ | ⟨c₃, text⟩⟩⟩⟩ := text
  · rfl
  · have hchars : ∀ c ∈ [c₀, 0, 0, 0], InTable signed c := by
      simpa [inTable_zero signed] using h
    show (do
      let buff1 ← decodeChars signed c₀ 0 0 0
      putBytes out (buff1.take 0)) = _
    rw [decodeChars_eq hchars]
    rfl
  · have hchars : ∀ c ∈ [c₀, c₁, 0, 0], InTable signed c := by
      simpa [inTable_zero signed] using h
    show (do
      let buff1 ← decodeChars signed c₀ c₁ 0 0
      putBytes out (buff1.take 1)) = _
    rw [decodeChars_eq hchars, hzero]
    rfl
  · have hchars : ∀ c ∈ [c₀, c₁, c₂, 0], InTable signed c := by
      simpa [inTable_zero signed] using h
    show (do
      let buff1 ← decodeChars signed c₀ c₁ c₂ 0
      putBytes out (buff1.take 2)) = _
    rw [decodeChars_eq hchars, hzero]
    rfl
  · simp only [List.length_cons] at hlength
    omega

/-- The end succeeds only on characters in the table. -/
theorem inTable_of_decodeTail {signed : Bool} {out out' : Output} {text : List UInt8}
    (hlength : text.length < 4) (h : decodeTail signed out text = .ok out') :
    ∀ c ∈ text, InTable signed c := by
  obtain _ | ⟨c₀, rest⟩ := text
  · exact fun c hc => absurd hc List.not_mem_nil
  · rw [decodeTail, if_neg (by rw [List.length_cons]; omega)] at h
    obtain ⟨bytes, hchars, -⟩ := bind_eq_ok.mp h
    have htable := inTable_of_decodeChars hchars
    obtain _ | ⟨c₁, _ | ⟨c₂, _ | ⟨c₃, rest⟩⟩⟩ := rest
    · intro c hc
      exact htable c (List.mem_append_left [_, _, _] hc)
    · intro c hc
      exact htable c (List.mem_append_left [_, _] hc)
    · intro c hc
      exact htable c (List.mem_append_left [_] hc)
    · simp only [List.length_cons] at hlength
      omega

/-- The loop and the end write the bytes for fewer characters than a group. -/
theorem decodeTail_short {signed : Bool} {out : Output} {text : List UInt8}
    (hlength : text.length < 4) (htext : ∀ c ∈ text, c ≠ 0x3D)
    (htable : ∀ c ∈ text, InTable signed c)
    (hfits : out.2.toNat + (decodedBytes (text.map digitValue)).length ≤ out.1.size)
    (hcount : out.2.toNat + (decodedBytes (text.map digitValue)).length < 2 ^ 32) :
    ∃ out', (do
        let (out, buff2) ← decodeLoop signed out [] text
        decodeTail signed out buff2) = .ok out' ∧
      Wrote out out' (decodedBytes (text.map digitValue)) := by
  obtain ⟨out', hput, hwrote⟩ := putBytes_eq hfits hcount
  refine ⟨out', ?_, hwrote⟩
  rw [decodeLoop_short hlength htext, ← hput]
  exact decodeTail_eq hlength htable

/-- The loop and the end write the bytes for the characters. -/
theorem decodeTail_decodeLoop {signed : Bool} {out : Output} {text : List UInt8}
    (htext : ∀ c ∈ text, c ≠ 0x3D) (htable : ∀ c ∈ text, InTable signed c)
    (hfits : out.2.toNat + (decodedBytes (text.map digitValue)).length ≤ out.1.size)
    (hcount : out.2.toNat + (decodedBytes (text.map digitValue)).length < 2 ^ 32) :
    ∃ out', (do
        let (out, buff2) ← decodeLoop signed out [] text
        decodeTail signed out buff2) = .ok out' ∧
      Wrote out out' (decodedBytes (text.map digitValue)) := by
  induction text using decodedBytes.induct generalizing out with
  | case1 c₀ c₁ c₂ c₃ text ih =>
      have hgroup : ∀ c ∈ [c₀, c₁, c₂, c₃], c ∈ c₀ :: c₁ :: c₂ :: c₃ :: text := by
        intro c hc
        exact List.mem_append_left text hc
      have hrest : ∀ c ∈ text, c ∈ c₀ :: c₁ :: c₂ :: c₃ :: text := by
        intro c hc
        exact List.mem_append_right [c₀, c₁, c₂, c₃] hc
      have hbytes : decodedBytes ((c₀ :: c₁ :: c₂ :: c₃ :: text).map digitValue) =
          decodeGroup (digitValue c₀) (digitValue c₁) (digitValue c₂) (digitValue c₃) ++
            decodedBytes (text.map digitValue) := rfl
      rw [hbytes, List.length_append] at hfits hcount
      rw [hbytes, decodeLoop_group (fun c hc => htext c (hgroup c hc)),
        decodeChars_eq (fun c hc => htable c (hgroup c hc))]
      obtain ⟨middle, hput, hwrote⟩ := @putBytes_eq out
        (decodeGroup (digitValue c₀) (digitValue c₁) (digitValue c₂) (digitValue c₃)) (by omega)
        (by omega)
      have hsize := hwrote.size_eq
      have hmiddle := hwrote.count_eq
      obtain ⟨out', heq, hwroteRest⟩ := @ih middle (fun c hc => htext c (hrest c hc))
        (fun c hc => htable c (hrest c hc)) (by omega) (by omega)
      refine ⟨out', ?_, hwrote.trans hwroteRest⟩
      show (do
        let (out, buff2) ← (do
          let out ← putBytes out
            (decodeGroup (digitValue c₀) (digitValue c₁) (digitValue c₂) (digitValue c₃))
          decodeLoop signed out [] text)
        decodeTail signed out buff2) = _
      rw [hput]
      exact heq
  | case2 c₀ c₁ c₂ => exact decodeTail_short (Nat.lt_succ_self 3) htext htable hfits hcount
  | case3 c₀ c₁ => exact decodeTail_short (Nat.lt_of_sub_eq_succ rfl) htext htable hfits hcount
  | case4 c₀ => exact decodeTail_short (Nat.lt_of_sub_eq_succ rfl) htext htable hfits hcount
  | case5 => exact ⟨out, rfl, .refl out⟩

/-- The loop and the end succeed only on characters in the table. -/
theorem inTable_of_decodeTail_decodeLoop {signed : Bool} {out out' : Output} {text : List UInt8}
    (htext : ∀ c ∈ text, c ≠ 0x3D)
    (h : (do
      let (out, buff2) ← decodeLoop signed out [] text
      decodeTail signed out buff2) = .ok out') :
    ∀ c ∈ text, InTable signed c := by
  have hshort {out : Output} {text : List UInt8} (hlength : text.length < 4)
      (htext : ∀ c ∈ text, c ≠ 0x3D)
      (h : (do
        let (out, buff2) ← decodeLoop signed out [] text
        decodeTail signed out buff2) = .ok out') : ∀ c ∈ text, InTable signed c := by
    rw [decodeLoop_short hlength htext] at h
    exact inTable_of_decodeTail hlength h
  induction text using decodedBytes.induct generalizing out with
  | case1 c₀ c₁ c₂ c₃ text ih =>
      have hgroup : ∀ c ∈ [c₀, c₁, c₂, c₃], c ≠ 0x3D := by
        intro c hc
        exact htext c (List.mem_append_left text hc)
      rw [decodeLoop_group hgroup, bind_assoc] at h
      obtain ⟨bytes, hchars, h⟩ := bind_eq_ok.mp h
      rw [bind_assoc] at h
      obtain ⟨middle, -, h⟩ := bind_eq_ok.mp h
      have hrest := ih (fun c hc => htext c (List.mem_append_right [c₀, c₁, c₂, c₃] hc)) h
      intro c hc
      obtain hc | hc := List.mem_append.mp (show c ∈ [c₀, c₁, c₂, c₃] ++ text from hc)
      · exact inTable_of_decodeChars hchars c hc
      · exact hrest c hc
  | case2 c₀ c₁ c₂ => exact hshort (Nat.lt_succ_self 3) htext h
  | case3 c₀ c₁ => exact hshort (Nat.lt_of_sub_eq_succ rfl) htext h
  | case4 c₀ => exact hshort (Nat.lt_of_sub_eq_succ rfl) htext h
  | case5 => exact hshort (Nat.lt_of_sub_eq_succ rfl) htext h

/-- The characters that `base64_decode` reads. -/
def readChars (input : List UInt8) (inputLength : UInt32) : List UInt8 :=
  (input.take inputLength.toNat).takeWhile (· ≠ 0x3D)

theorem ne_of_mem_readChars {input : List UInt8} {inputLength : UInt32} {c : UInt8}
    (h : c ∈ readChars input inputLength) : c ≠ 0x3D := by
  rw [readChars] at h
  have hread := List.mem_takeWhile_imp h
  exact of_decide_eq_true hread

theorem length_readChars_le (input : List UInt8) (inputLength : UInt32) :
    (readChars input inputLength).length ≤ min inputLength.toNat input.length := by
  rw [← List.length_take]
  exact (List.takeWhile_sublist _).length_le

/-- `base64_decode` writes the bytes for the characters that it reads. -/
theorem base64Decode_eq {signed : Bool} {input : List UInt8} {inputLength : UInt32}
    {output : Block UInt8} (htable : ∀ c ∈ readChars input inputLength, InTable signed c)
    (hfits : (decodedBytes ((readChars input inputLength).map digitValue)).length ≤ output.size) :
    ∃ out, base64Decode signed input inputLength output = .ok out ∧
      out.2.toNat = (decodedBytes ((readChars input inputLength).map digitValue)).length ∧
      out.1.window 0 out.2.toNat =
        decodedBytes ((readChars input inputLength).map digitValue) := by
  have hread := length_readChars_le input inputLength
  have hshort := length_decodedBytes_le ((readChars input inputLength).map digitValue)
  rw [List.length_map] at hshort
  have hlt := inputLength.toNat_lt
  obtain ⟨out, hloop, -, hcount, hwindow⟩ := @decodeTail_decodeLoop signed (output, 0)
    (readChars input inputLength) (fun c hc => ne_of_mem_readChars hc) htable
    (by show 0 + _ ≤ output.size; omega) (by show 0 + _ < _; omega)
  refine ⟨out, ?_, ?_, hwindow⟩
  · rw [base64Decode, decodeLoop_takeWhile]
    exact hloop
  · rw [hcount]
    exact Nat.zero_add _

/-- It succeeds only on characters in the table. -/
theorem inTable_of_base64Decode {signed : Bool} {input : List UInt8} {inputLength : UInt32}
    {output : Block UInt8} {out : Output}
    (h : base64Decode signed input inputLength output = .ok out) :
    ∀ c ∈ readChars input inputLength, InTable signed c := by
  rw [base64Decode, decodeLoop_takeWhile] at h
  exact inTable_of_decodeTail_decodeLoop (fun c hc => ne_of_mem_readChars hc) h

/-! ## The round trip -/

/-- The parts of a byte that go into different digits. -/
theorem toNat_parts (b : UInt8) :
    ((b &&& 0xfc) >>> 2).toNat = b.toNat / 4 ∧
      ((b &&& 0x03) <<< 4).toNat = b.toNat % 4 * 16 ∧
      ((b &&& 0xf0) >>> 4).toNat = b.toNat / 16 ∧
      ((b &&& 0x0f) <<< 2).toNat = b.toNat % 16 * 4 ∧
      ((b &&& 0xc0) >>> 6).toNat = b.toNat / 64 ∧ (b &&& 0x3f).toNat = b.toNat % 64 := by
  have hall : ∀ i < 256, ((UInt8.ofNat i &&& 0xfc) >>> 2).toNat = i / 4 ∧
      ((UInt8.ofNat i &&& 0x03) <<< 4).toNat = i % 4 * 16 ∧
      ((UInt8.ofNat i &&& 0xf0) >>> 4).toNat = i / 16 ∧
      ((UInt8.ofNat i &&& 0x0f) <<< 2).toNat = i % 16 * 4 ∧
      ((UInt8.ofNat i &&& 0xc0) >>> 6).toNat = i / 64 ∧
      (UInt8.ofNat i &&& 0x3f).toNat = i % 64 := by
    decide +kernel
  have hbyte := hall b.toNat b.toNat_lt
  rwa [UInt8.ofNat_toNat] at hbyte

/-- The parts of a digit that go into different bytes. -/
theorem toNat_digitParts (v : UInt8) :
    (v <<< 2).toNat = v.toNat * 4 % 256 ∧
      ((v &&& 0x30) >>> 4).toNat = v.toNat / 16 % 4 ∧
      ((v &&& 0xf) <<< 4).toNat = v.toNat % 16 * 16 ∧
      ((v &&& 0x3c) >>> 2).toNat = v.toNat / 4 % 16 ∧
      ((v &&& 0x3) <<< 6).toNat = v.toNat % 4 * 64 := by
  have hall : ∀ i < 256, (UInt8.ofNat i <<< 2).toNat = i * 4 % 256 ∧
      ((UInt8.ofNat i &&& 0x30) >>> 4).toNat = i / 16 % 4 ∧
      ((UInt8.ofNat i &&& 0xf) <<< 4).toNat = i % 16 * 16 ∧
      ((UInt8.ofNat i &&& 0x3c) >>> 2).toNat = i / 4 % 16 ∧
      ((UInt8.ofNat i &&& 0x3) <<< 6).toNat = i % 4 * 64 := by
    decide +kernel
  have hdigit := hall v.toNat v.toNat_lt
  rwa [UInt8.ofNat_toNat] at hdigit

/-- A group is decoded to its bytes; an incomplete one to those that were there. -/
theorem decodeGroup_encodeGroup (b₀ b₁ b₂ v₂ v₃ : UInt8) :
    ∃ w₀ w₁ w₂ w₃, encodeGroup b₀ b₁ b₂ = [w₀, w₁, w₂, w₃] ∧
      decodeGroup w₀ w₁ w₂ w₃ = [b₀, b₁, b₂] ∧
      (decodeGroup w₀ w₁ w₂ v₃).take 2 = [b₀, b₁] ∧ (decodeGroup w₀ w₁ v₂ v₃).take 1 = [b₀] := by
  refine ⟨_, _, _, _, rfl, ?_⟩
  obtain ⟨h₀a, h₀b, -⟩ := toNat_parts b₀
  obtain ⟨-, -, h₁a, h₁b, -⟩ := toNat_parts b₁
  obtain ⟨-, -, -, -, h₂a, h₂b⟩ := toNat_parts b₂
  have hb₀ := b₀.toNat_lt
  have hb₁ := b₁.toNat_lt
  have hb₂ := b₂.toNat_lt
  set w₀ := (b₀ &&& 0xfc) >>> 2
  set w₁ := ((b₀ &&& 0x03) <<< 4) + ((b₁ &&& 0xf0) >>> 4) with hw₁
  set w₂ := ((b₁ &&& 0x0f) <<< 2) + ((b₂ &&& 0xc0) >>> 6) with hw₂
  set w₃ := b₂ &&& 0x3f
  have hw₁' : w₁.toNat = b₀.toNat % 4 * 16 + b₁.toNat / 16 := by
    rw [hw₁, UInt8.toNat_add, h₀b, h₁a]
    exact Nat.mod_eq_of_lt (by show _ < 256; omega)
  have hw₂' : w₂.toNat = b₁.toNat % 16 * 4 + b₂.toNat / 64 := by
    rw [hw₂, UInt8.toNat_add, h₁b, h₂a]
    exact Nat.mod_eq_of_lt (by show _ < 256; omega)
  obtain ⟨k₀, -⟩ := toNat_digitParts w₀
  obtain ⟨-, k₁a, k₁b, -⟩ := toNat_digitParts w₁
  obtain ⟨-, -, -, k₂a, k₂b⟩ := toNat_digitParts w₂
  have hfirst : (w₀ <<< 2) + ((w₁ &&& 0x30) >>> 4) = b₀ := by
    apply UInt8.toNat_inj.mp
    rw [UInt8.toNat_add, k₀, k₁a, h₀a, hw₁']
    show _ % 256 = _
    omega
  have hsecond : ((w₁ &&& 0xf) <<< 4) + ((w₂ &&& 0x3c) >>> 2) = b₁ := by
    apply UInt8.toNat_inj.mp
    rw [UInt8.toNat_add, k₁b, k₂a, hw₁', hw₂']
    show _ % 256 = _
    omega
  have hthird : ((w₂ &&& 0x3) <<< 6) + w₃ = b₂ := by
    apply UInt8.toNat_inj.mp
    rw [UInt8.toNat_add, k₂b, h₂b, hw₂']
    show _ % 256 = _
    omega
  simp only [decodeGroup, hfirst, hsecond, hthird, List.take_succ_cons, List.take_zero, and_self]

/-- The bytes of the digits for a text are the text. -/
theorem decodedBytes_encodedDigits (input : List UInt8) :
    decodedBytes (encodedDigits input) = input := by
  induction input using encodedDigits.induct with
  | case1 b₀ b₁ b₂ input ih =>
      obtain ⟨w₀, w₁, w₂, w₃, hgroup, hdecode, -⟩ := decodeGroup_encodeGroup b₀ b₁ b₂ 0 0
      rw [encodedDigits, hgroup]
      show decodeGroup w₀ w₁ w₂ w₃ ++ decodedBytes (encodedDigits input) = _
      rw [hdecode, ih]
      rfl
  | case2 b₀ b₁ =>
      obtain ⟨w₀, w₁, w₂, w₃, hgroup, -, hdecode, -⟩ := decodeGroup_encodeGroup b₀ b₁ 0 0 0xFF
      rw [encodedDigits, hgroup]
      exact hdecode
  | case3 b₀ =>
      obtain ⟨w₀, w₁, w₂, w₃, hgroup, -, -, hdecode⟩ := decodeGroup_encodeGroup b₀ 0 0 0xFF 0xFF
      rw [encodedDigits, hgroup]
      exact hdecode
  | case4 => rfl

/-- The indices are below 64. -/
theorem lt_of_mem_encodeGroup {b₀ b₁ b₂ v : UInt8} (h : v ∈ encodeGroup b₀ b₁ b₂) :
    v.toNat < 64 := by
  obtain ⟨h₀a, h₀b, -⟩ := toNat_parts b₀
  obtain ⟨-, -, h₁a, h₁b, -⟩ := toNat_parts b₁
  obtain ⟨-, -, -, -, h₂a, h₂b⟩ := toNat_parts b₂
  have hb₀ := b₀.toNat_lt
  have hb₁ := b₁.toNat_lt
  have hb₂ := b₂.toNat_lt
  rw [encodeGroup] at h
  simp only [List.mem_cons, List.not_mem_nil, or_false] at h
  obtain rfl | rfl | rfl | rfl := h
  · omega
  · rw [UInt8.toNat_add, h₀b, h₁a]
    show _ % 256 < 64
    omega
  · rw [UInt8.toNat_add, h₁b, h₂a]
    show _ % 256 < 64
    omega
  · omega

theorem lt_of_mem_encodedDigits {input : List UInt8} {v : UInt8} (h : v ∈ encodedDigits input) :
    v.toNat < 64 := by
  induction input using encodedDigits.induct with
  | case1 b₀ b₁ b₂ input ih =>
      rw [encodedDigits, List.mem_append] at h
      exact h.elim lt_of_mem_encodeGroup ih
  | case2 b₀ b₁ => exact lt_of_mem_encodeGroup (List.mem_of_mem_take h)
  | case3 b₀ => exact lt_of_mem_encodeGroup (List.mem_of_mem_take h)
  | case4 => cases h

/-- The letters, the digits, `+` and `/`. -/
def IsBase64 (c : UInt8) : Prop :=
  (0x41 ≤ c ∧ c ≤ 0x5A) ∨ (0x61 ≤ c ∧ c ≤ 0x7A) ∨ (0x30 ≤ c ∧ c ≤ 0x39) ∨ c = 0x2B ∨ c = 0x2F

instance decidableIsBase64 (c : UInt8) : Decidable (IsBase64 c) :=
  inferInstanceAs (Decidable (_ ∨ _))

/-- The two tables are inverse to each other on the 64 indices. -/
theorem encodeChar_spec {v : UInt8} (h : v.toNat < 64) :
    IsBase64 (encodeChar v) ∧ encodeChar v < 0x80 ∧ encodeChar v ≠ 0x3D ∧
      digitValue (encodeChar v) = v := by
  have hall : ∀ i < 64, IsBase64 (encodeChar (UInt8.ofNat i)) ∧
      encodeChar (UInt8.ofNat i) < 0x80 ∧ encodeChar (UInt8.ofNat i) ≠ 0x3D ∧
      digitValue (encodeChar (UInt8.ofNat i)) = UInt8.ofNat i := by
    -- looking up the list of characters is faster than mapping the array for every index
    simp only [encodeChar, encodeCharacterTable, ← Array.getElem!_toList, Array.toList_map]
    decide +kernel
  have hindex := hall v.toNat h
  rwa [UInt8.ofNat_toNat] at hindex

/-- What `base64_decode` reads of the characters for a text: the characters in front of the
padding. -/
theorem readChars_encoded {input : List UInt8} {count : UInt32}
    (hcount : count.toNat = (encoded input).length) :
    readChars (encoded input) count = (encodedDigits input).map encodeChar := by
  rw [readChars, hcount, List.take_length, encoded]
  have hdigits : ∀ c ∈ (encodedDigits input).map encodeChar, decide (c ≠ 0x3D) = true := by
    intro c hc
    obtain ⟨v, hv, rfl⟩ := List.mem_map.mp hc
    exact decide_eq_true (encodeChar_spec (lt_of_mem_encodedDigits hv)).2.2.1
  rw [List.takeWhile_append_of_pos hdigits]
  have hpadding : (padding input.length).takeWhile (· ≠ 0x3D) = [] := by
    rw [padding]
    cases (3 - input.length % 3) % 3 with
    | zero => rfl
    | succ n => rfl
  rw [hpadding, List.append_nil]

/-- **Base64 round trip**: the encoding of `n` bytes has `4 * ⌈n / 3⌉` characters of the alphabet
with padding at the end, and decoding it gives the bytes back. -/
theorem base64Decode_base64Encode (signed : Bool) {input : List UInt8}
    (hlength : input.length < 2 ^ 30) {output back : Block UInt8}
    (hout : 4 * ((input.length + 2) / 3) < output.size) (hback : input.length ≤ back.size) :
    ∃ out, base64Encode input (UInt32.ofNat input.length) output = .ok out ∧
      out.2.toNat = 4 * ((input.length + 2) / 3) ∧
      (∃ digits, out.1.window 0 out.2.toNat = digits ++ padding input.length ∧
        ∀ c ∈ digits, IsBase64 c) ∧
      ∃ result, base64Decode signed (out.1.window 0 out.2.toNat) out.2 back = .ok result ∧
        result.2.toNat = input.length ∧ result.1.window 0 input.length = input := by
  have hencoded := length_encoded input
  obtain ⟨out, hencode, hcount, hwindow⟩ := @base64Encode_eq input hlength output
    (by rw [hencoded]; exact hout)
  refine ⟨out, hencode, hcount.trans hencoded, ⟨_, hwindow, ?_⟩, ?_⟩
  · intro c hc
    obtain ⟨v, hv, rfl⟩ := List.mem_map.mp hc
    exact (encodeChar_spec (lt_of_mem_encodedDigits hv)).1
  · have hread : readChars (encoded input) out.2 = (encodedDigits input).map encodeChar :=
      readChars_encoded hcount
    have hvalues : (readChars (encoded input) out.2).map digitValue = encodedDigits input := by
      rw [hread, List.map_map]
      apply (List.map_congr_left _).trans (List.map_id _)
      intro v hv
      exact (encodeChar_spec (lt_of_mem_encodedDigits hv)).2.2.2
    have hbytes : decodedBytes ((readChars (encoded input) out.2).map digitValue) = input := by
      rw [hvalues, decodedBytes_encodedDigits]
    have htable : ∀ c ∈ readChars (encoded input) out.2, InTable signed c := by
      intro c hc
      rw [hread] at hc
      obtain ⟨v, hv, rfl⟩ := List.mem_map.mp hc
      exact Or.inr (encodeChar_spec (lt_of_mem_encodedDigits hv)).2.1
    obtain ⟨result, hdecode, hresult, hcontent⟩ := @base64Decode_eq signed (encoded input) out.2
      back htable (by rw [hbytes]; exact hback)
    rw [hbytes] at hresult hcontent
    rw [hwindow]
    refine ⟨result, hdecode, hresult, ?_⟩
    rw [← hresult]
    exact hcontent

/-- The two bytes `Ma`. -/
theorem base64Decode_base64Encode_two :
    ∃ out, base64Encode [0x4D, 0x61] 2 ⟨5, fun _ => 0⟩ = .ok out ∧ out.2.toNat = 4 ∧
      (∃ digits, out.1.window 0 out.2.toNat = digits ++ [0x3D] ∧ ∀ c ∈ digits, IsBase64 c) ∧
      ∃ result, base64Decode true (out.1.window 0 out.2.toNat) out.2 ⟨4, fun _ => 0⟩ =
        .ok result ∧ result.2.toNat = 2 ∧ result.1.window 0 2 = [0x4D, 0x61] :=
  @base64Decode_base64Encode true [0x4D, 0x61] (by decide) ⟨5, fun _ => 0⟩ ⟨4, fun _ => 0⟩
    (by decide) (by decide)

/-! ## Texts from the network -/

/-- The decoded picture of `savePic`, in a new buffer of as many bytes as the text has. `junk` is
what the buffer holds. -/
def savePicDecode (signed : Bool) (base64Pic : List UInt8) (junk : Nat → UInt8) :
    Except Fault Output :=
  base64Decode signed base64Pic (UInt32.ofNat base64Pic.length) ⟨base64Pic.length, junk⟩

/-- The decoder stays inside its table and the buffer. -/
def DecodesSafely (signed : Bool) (base64Pic : List UInt8) : Prop :=
  ∀ junk, ∃ out, savePicDecode signed base64Pic junk = .ok out ∧ out.2.toNat ≤ base64Pic.length

/-- **Decoding a text from the network** is safe just when a plain `char` is unsigned or the
characters that are read, up to the first `=`, are below 128. -/
theorem decodesSafely_iff (signed : Bool) (base64Pic : List UInt8) :
    DecodesSafely signed base64Pic ↔
      signed = false ∨
        ∀ c ∈ (base64Pic.take (base64Pic.length % 2 ^ 32)).takeWhile (· ≠ 0x3D), c < 0x80 := by
  have hread : readChars base64Pic (UInt32.ofNat base64Pic.length) =
      (base64Pic.take (base64Pic.length % 2 ^ 32)).takeWhile (· ≠ 0x3D) := by
    rw [readChars, UInt32.toNat_ofNat']
  rw [← hread]
  constructor
  · intro hsafe
    obtain ⟨out, hdecode, -⟩ := hsafe (fun _ => 0)
    have htable := inTable_of_base64Decode hdecode
    cases signed with
    | false => exact Or.inl rfl
    | true => exact Or.inr (fun c hc => (htable c hc).resolve_left Bool.noConfusion)
  · intro h junk
    have htable : ∀ c ∈ readChars base64Pic (UInt32.ofNat base64Pic.length),
        InTable signed c := fun c hc => h.imp_right (fun hlow => hlow c hc)
    have hshort := length_decodedBytes_le
      ((readChars base64Pic (UInt32.ofNat base64Pic.length)).map digitValue)
    have hlength := length_readChars_le base64Pic (UInt32.ofNat base64Pic.length)
    rw [List.length_map] at hshort
    have hfits : (decodedBytes ((readChars base64Pic
        (UInt32.ofNat base64Pic.length)).map digitValue)).length ≤ base64Pic.length := by
      omega
    obtain ⟨out, hdecode, hcount, -⟩ := @base64Decode_eq signed base64Pic
      (UInt32.ofNat base64Pic.length) ⟨base64Pic.length, junk⟩ htable hfits
    exact ⟨out, hdecode, hcount.trans_le hfits⟩

/-- With a signed `char` the byte 255 is the index -1. -/
theorem savePicDecode_unsafe :
    ¬ ∀ (signed : Bool) (base64Pic : List UInt8), DecodesSafely signed base64Pic := by
  intro h
  obtain ⟨out, hdecode, -⟩ := h true [0xFF, 0x41, 0x41, 0x41] (fun _ => 0)
  have hfault : savePicDecode true [0xFF, 0x41, 0x41, 0x41] (fun _ => 0) = .error .outOfBounds :=
    rfl
  rw [hfault] at hdecode
  cases hdecode

end RVDataFusionServer
