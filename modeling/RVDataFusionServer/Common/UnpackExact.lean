import RVDataFusionServer.Common.Pkg

/-!
# `Unpack` of arbitrary bytes

`Unpack` compares the length in the header with the supplied one, but does not ask whether there is
room for the header and the checksum in it. Below 15 the body length wraps, and `assign` throws:
`unpack_exact_iff` says that this is the only way in which the return code is not exact.
-/

namespace RVDataFusionServer

open Library

/-- The length in the header of some bytes. -/
def headerLen (data : Nat → UInt8) : UInt32 :=
  (PkgHead.ofBytes ((List.range sizeofPkgHead).map data)).len

/-- `Unpack` of `len` bytes returns. It returns 0 exactly when there is room for a header and a
checksum and the length in the header is the supplied one, and -1 otherwise. -/
def UnpackExact (data : Nat → UInt8) (len : UInt32) : Prop :=
  ∀ old : Pkg, ∃ pkg, unpack ⟨len.toNat, data⟩ len old =
    .ok (if sizeofPkgHead + sizeofPkgCRC ≤ len.toNat ∧ headerLen data = len then 0 else -1, pkg)

variable {data : Nat → UInt8} {len : UInt32} {old : Pkg}

/-- The first bytes of a buffer are the header that is compared. -/
theorem window_header (data : Nat → UInt8) (size : Nat) :
    (PkgHead.ofBytes (Block.window ⟨size, data⟩ 0 sizeofPkgHead)).len = headerLen data := by
  simp only [Block.window, headerLen, Nat.zero_add]

/-- Fewer bytes than a header are refused. -/
theorem unpack_short (h : len.toNat < sizeofPkgHead) :
    unpack ⟨len.toNat, data⟩ len old = .ok (-1, old) := if_pos h

/-- Behind the first check the header is read. -/
theorem load_header (hlong : sizeofPkgHead ≤ len.toNat) :
    Block.load ⟨len.toNat, data⟩ 0 sizeofPkgHead =
      .ok (Block.window ⟨len.toNat, data⟩ 0 sizeofPkgHead) :=
  Block.load_eq ⟨len.toNat, data⟩ 0 sizeofPkgHead (by simpa using hlong)

/-- A longer package than the supplied bytes is refused. -/
theorem unpack_incomplete (hlong : sizeofPkgHead ≤ len.toNat) (h : len < headerLen data) :
    ∃ pkg, unpack ⟨len.toNat, data⟩ len old = .ok (-1, pkg) := by
  unfold unpack
  rw [if_neg (Nat.not_lt_of_le hlong)]
  simp only [load_header hlong, bind, Except.bind, window_header, if_pos h]
  exact ⟨_, rfl⟩

/-- A length in the header below 15 wraps, so that `assign` throws. -/
theorem unpack_wrapped (hlong : sizeofPkgHead ≤ len.toNat) (hle : ¬ len < headerLen data)
    (h : (headerLen data).toNat < sizeofPkgHead + sizeofPkgCRC) :
    unpack ⟨len.toNat, data⟩ len old = .error (.threw "std::length_error") := by
  have hbodyLen : stringMaxSize < ((headerLen data).toUInt64 - 13 - 2).toNat := by
    simp only [sizeofPkgHead, sizeofPkgCRC] at h
    simp only [stringMaxSize, UInt64.toNat_sub, UInt32.toNat_toUInt64, UInt64.reduceToNat]
    omega
  unfold unpack
  rw [if_neg (Nat.not_lt_of_le hlong)]
  simp only [load_header hlong, bind, Except.bind, window_header, if_neg hle, if_pos hbodyLen]

/-- A package that lies inside of the supplied bytes is accepted if it takes all of them. -/
theorem unpack_inside (hle : ¬ len < headerLen data)
    (h : sizeofPkgHead + sizeofPkgCRC ≤ (headerLen data).toNat) :
    ∃ pkg, unpack ⟨len.toNat, data⟩ len old =
      .ok (if headerLen data = len then 0 else -1, pkg) := by
  have hinside : (headerLen data).toNat ≤ len.toNat :=
    UInt32.le_iff_toNat_le.mp (UInt32.not_lt.mp hle)
  have hlong : sizeofPkgHead ≤ len.toNat := by omega
  have hbodyLen := toNat_bodyLen h
  have hfits : ¬ stringMaxSize < (headerLen data).toNat - (sizeofPkgHead + sizeofPkgCRC) := by
    have hlt := (headerLen data).toNat_lt
    unfold stringMaxSize
    omega
  have hbody := Block.load_eq ⟨len.toNat, data⟩ sizeofPkgHead
    ((headerLen data).toNat - (sizeofPkgHead + sizeofPkgCRC)) (by show _ ≤ len.toNat; omega)
  have hcrc := Block.load_eq ⟨len.toNat, data⟩
    (sizeofPkgHead + ((headerLen data).toNat - (sizeofPkgHead + sizeofPkgCRC))) sizeofPkgCRC
    (by show _ ≤ len.toNat; omega)
  have hindex : sizeofPkgHead + ((headerLen data).toNat - (sizeofPkgHead + sizeofPkgCRC)) +
      sizeofPkgCRC = (headerLen data).toNat := by omega
  unfold unpack
  rw [if_neg (Nat.not_lt_of_le hlong)]
  simp only [load_header hlong, bind, Except.bind, window_header, if_neg hle, hbodyLen,
    if_neg hfits, hbody, hcrc, hindex]
  by_cases hsame : headerLen data = len
  · rw [if_pos hsame, if_neg (not_not.mpr (congrArg UInt32.toNat hsame))]
    exact ⟨_, rfl⟩
  · rw [if_neg hsame, if_pos (mt UInt32.toNat_inj.mp hsame)]
    exact ⟨_, rfl⟩

/-- When the return code of `Unpack` is exact: unless the header lies inside of the supplied bytes
with a length that has no room for the header itself and the checksum. -/
theorem unpack_exact_iff (data : Nat → UInt8) (len : UInt32) :
    UnpackExact data len ↔ len.toNat < sizeofPkgHead ∨ len < headerLen data ∨
      sizeofPkgHead + sizeofPkgCRC ≤ (headerLen data).toNat := by
  constructor
  · intro hexact
    by_contra hnone
    rw [not_or, not_or] at hnone
    obtain ⟨hlong, hle, hshort⟩ := hnone
    obtain ⟨pkg, hok⟩ := hexact {}
    rw [unpack_wrapped (Nat.le_of_not_lt hlong) hle (Nat.lt_of_not_le hshort)] at hok
    cases hok
  · intro h old
    by_cases hlong : sizeofPkgHead ≤ len.toNat
    · by_cases hle : len < headerLen data
      · obtain ⟨pkg, hok⟩ := unpack_incomplete hlong hle
        have hne : ¬ (sizeofPkgHead + sizeofPkgCRC ≤ len.toNat ∧ headerLen data = len) := by
          rintro ⟨-, hsame⟩
          rw [hsame] at hle
          exact absurd hle (UInt32.lt_irrefl len)
        rw [if_neg hne]
        exact ⟨pkg, hok⟩
      · have hroom : sizeofPkgHead + sizeofPkgCRC ≤ (headerLen data).toNat :=
          (h.resolve_left (Nat.not_lt_of_le hlong)).resolve_left hle
        obtain ⟨pkg, hok⟩ := unpack_inside hle hroom
        have hcond : (sizeofPkgHead + sizeofPkgCRC ≤ len.toNat ∧ headerLen data = len) ↔
            headerLen data = len := by
          constructor
          · exact fun hboth => hboth.2
          · intro hsame
            exact ⟨hsame ▸ hroom, hsame⟩
        simp only [hcond]
        exact ⟨pkg, hok⟩
    · have hne : ¬ (sizeofPkgHead + sizeofPkgCRC ≤ len.toNat ∧ headerLen data = len) := by
        rintro ⟨hroom, -⟩
        omega
      rw [if_neg hne]
      exact ⟨old, unpack_short (Nat.lt_of_not_le hlong)⟩

/-- A header with the length 0 and a checksum are unpacked by a throw. -/
theorem not_unpack_exact_zero : ¬ UnpackExact (fun i => if i = 0 then startTag else 0) 15 := by
  intro hexact
  obtain ⟨pkg, hok⟩ := hexact {}
  have hthrown : unpack ⟨15, fun i => if i = 0 then startTag else 0⟩ 15 {} =
      .error (.threw "std::length_error") := by
    decide +kernel
  rw [show (15 : UInt32).toNat = 15 from rfl, hthrown] at hok
  cases hok

end RVDataFusionServer
