import RVDataFusionServer.Common.Pkg

/-!
# The package codec

`PkgWithoutCRC`, `Pack` and `Unpack` together. `unpack_accepted` says what the buffer holds when
`unpack` returns 0, and `codec_round_trip` is the statement for both directions.
-/

namespace RVDataFusionServer

open Library

/-- A header length below 15 makes the body length wrap past every string. -/
theorem stringMaxSize_lt_bodyLen {len : UInt32}
    (h : len.toNat < sizeofPkgHead + sizeofPkgCRC) :
    stringMaxSize < (len.toUInt64 - 13 - 2).toNat := by
  simp only [sizeofPkgHead, sizeofPkgCRC] at h
  simp only [stringMaxSize, UInt64.toNat_sub, UInt32.toNat_toUInt64, UInt64.reduceToNat]
  omega

/-- `Unpack` that returns 0 has read a wire image that ends where the buffer does and has the
length in its header. -/
theorem unpack_accepted {inBuf : Block UInt8} {len : UInt32} {old pkg : Pkg}
    (h : unpack inBuf len old = .ok (0, pkg)) :
    pkg.head.len = len ∧ len.toNat = sizeofPkgHead + pkg.body.length + sizeofPkgCRC ∧
      len.toNat ≤ inBuf.size ∧ inBuf.window 0 len.toNat = pkg.toBytes := by
  unfold unpack at h
  split at h
  · cases h
  obtain ⟨head, hhead, h⟩ := bind_eq_ok.mp h
  dsimp only at h
  split at h
  · cases h
  split at h
  · cases h
  next hfits =>
    obtain ⟨body, hbody, h⟩ := bind_eq_ok.mp h
    obtain ⟨crc, hcrc, h⟩ := bind_eq_ok.mp h
    split at h
    · cases h
    next hindex =>
      cases h
      -- a length that wraps is above every string, and was refused
      have hlong : sizeofPkgHead + sizeofPkgCRC ≤ (PkgHead.ofBytes head).len.toNat := by
        by_contra hshort
        exact hfits (stringMaxSize_lt_bodyLen (Nat.not_le.mp hshort))
      rw [toNat_bodyLen hlong] at hbody hcrc hindex
      obtain ⟨-, rfl⟩ := Block.of_load_eq 0 hhead
      obtain ⟨-, rfl⟩ := Block.of_load_eq _ hbody
      obtain ⟨hsize, rfl⟩ := Block.of_load_eq _ hcrc
      set headLen := (PkgHead.ofBytes (inBuf.window 0 sizeofPkgHead)).len with hheadLen
      have hlen : headLen.toNat = len.toNat := by omega
      have hcut : len.toNat = sizeofPkgHead +
          (headLen.toNat - (sizeofPkgHead + sizeofPkgCRC)) + sizeofPkgCRC := by omega
      refine ⟨UInt32.toNat_inj.mp hlen, ?_, by omega, ?_⟩
      · rw [Block.length_window]
        exact hcut
      · rw [Pkg.toBytes, Pkg.covered, PkgHead.toBytes_ofBytes (Block.length_window _ _ _),
          PkgCRC.toBytes_ofBytes (Block.length_window _ _ _), hcut, Block.window_add,
          Block.window_add, Nat.zero_add, Nat.zero_add]

/-- The checksum that is sent covers all bytes but the last two. -/
theorem Pkg.packed_crc (pkg : Pkg) :
    pkg.packed.crc =
      ⟨crc16TabCCITT (pkg.packed.toBytes.take (pkg.packed.toBytes.length - sizeofPkgCRC))⟩ := by
  have hlength : pkg.packed.toBytes.length - sizeofPkgCRC = pkg.covered.length := by
    rw [Pkg.length_toBytes, Pkg.length_covered]
    exact Nat.add_sub_cancel _ _
  have htake : pkg.packed.toBytes.take pkg.covered.length = pkg.covered :=
    List.take_left' rfl
  rw [hlength, htake]
  rfl

/-- A package whose checksum is that of its other bytes is what `Pack` makes of it. -/
theorem Pkg.packed_of_crc {pkg : Pkg} (h : crc16TabCCITT pkg.covered = pkg.crc.data) :
    pkg.packed = pkg := by
  obtain ⟨head, body, crc⟩ := pkg
  show ({ head, body, crc := ⟨crc16TabCCITT _⟩ } : Pkg) = _
  rw [h]

/-- `PkgWithoutCRC` writes the length of the package into the header. -/
theorem len_pkgWithoutCRC (cmdType : UInt8) (sn : UInt16) (deviceNO : UInt32)
    {jsonStr : List UInt8} (h : sizeofPkgHead + jsonStr.length + sizeofPkgCRC < 2 ^ 31) :
    (pkgWithoutCRC cmdType sn deviceNO jsonStr).head.len.toNat =
      sizeofPkgHead + jsonStr.length + sizeofPkgCRC := by
  show (UInt32.ofNat (sizeofPkgHead + jsonStr.length + sizeofPkgCRC)).toNat = _
  exact UInt32.toNat_ofNat_of_lt' (Nat.lt_of_lt_of_le h (by decide))

/-- Packing and unpacking: a package with the right length in its header comes back with its
checksum, and a byte string that is accepted and has the right checksum is packed again to the same
bytes. The first part is about the packages of `PkgWithoutCRC` among others. -/
theorem codec_round_trip :
    (∀ cmdType sn deviceNO (jsonStr : List UInt8),
      sizeofPkgHead + jsonStr.length + sizeofPkgCRC < 2 ^ 31 →
        (pkgWithoutCRC cmdType sn deviceNO jsonStr).body = jsonStr ∧
        (pkgWithoutCRC cmdType sn deviceNO jsonStr).head.len.toNat =
          sizeofPkgHead + jsonStr.length + sizeofPkgCRC) ∧
    (∀ (pkg : Pkg) (out : Block UInt8) (len : UInt32),
      pkg.head.len.toNat = sizeofPkgHead + pkg.body.length + sizeofPkgCRC →
      pkg.head.len.toNat ≤ len.toNat → pkg.head.len.toNat ≤ out.size →
        ∃ pkg' out', pack pkg out len = .ok (pkg.head.len, pkg', out') ∧
          ∀ inBuf old, pkg.head.len.toNat ≤ inBuf.size →
            inBuf.window 0 pkg.head.len.toNat = out'.window 0 pkg.head.len.toNat →
            unpack inBuf pkg.head.len old = .ok (0,
              { pkg with
                crc := ⟨crc16TabCCITT
                  (out'.window 0 (pkg.head.len.toNat - sizeofPkgCRC))⟩ })) ∧
    (∀ (inBuf : Block UInt8) (len : UInt32) (old pkg : Pkg) (out : Block UInt8) (room : UInt32),
      unpack inBuf len old = .ok (0, pkg) →
      PkgCRC.ofBytes (inBuf.window (len.toNat - sizeofPkgCRC) sizeofPkgCRC) =
        ⟨crc16TabCCITT (inBuf.window 0 (len.toNat - sizeofPkgCRC))⟩ →
      len.toNat ≤ room.toNat → len.toNat ≤ out.size →
        ∃ out', pack pkg out room = .ok (len, pkg, out') ∧
          out'.window 0 len.toNat = inBuf.window 0 len.toNat) := by
  refine ⟨?_, ?_, ?_⟩
  · intro cmdType sn deviceNO jsonStr h
    exact ⟨rfl, len_pkgWithoutCRC cmdType sn deviceNO h⟩
  · intro pkg out len hlen hroom hsize
    obtain ⟨out', hpack, hwindow⟩ := pack_eq pkg out len hlen hroom hsize
    refine ⟨pkg.packed, out', hpack, ?_⟩
    intro inBuf old hin hsame
    have hunpack : unpack inBuf pkg.packed.head.len old = .ok (0, pkg.packed) :=
      unpack_eq hlen hin (hsame.trans hwindow)
    have hlength : pkg.packed.toBytes.length = pkg.head.len.toNat := by
      rw [← hwindow, Block.length_window]
    have hcrc := pkg.packed_crc
    rw [hlength, ← hwindow, Block.take_window _ _ (Nat.sub_le _ _)] at hcrc
    rw [← hcrc]
    exact hunpack
  · intro inBuf len old pkg out room hunpack hcrc hroom hsize
    obtain ⟨hhead, hlen, hin, hwindow⟩ := unpack_accepted hunpack
    have hcut : len.toNat = (sizeofPkgHead + pkg.body.length) + sizeofPkgCRC := hlen
    have hbytes := hwindow
    rw [hcut, Block.window_add, Pkg.toBytes, Nat.zero_add] at hbytes
    obtain ⟨hcovered, hsum⟩ := List.append_inj hbytes (by simp)
    rw [hcut, Nat.add_sub_cancel, hcovered, hsum, PkgCRC.ofBytes_toBytes] at hcrc
    have hpacked : pkg.packed = pkg := Pkg.packed_of_crc (congrArg PkgCRC.data hcrc).symm
    obtain ⟨out', hpack, hout⟩ := pack_eq pkg out room (by rw [hhead]; exact hlen)
      (by rw [hhead]; exact hroom) (by rw [hhead]; exact hsize)
    rw [hpacked, hhead] at hpack hout
    exact ⟨out', hpack, hout.trans hwindow.symm⟩

/-- Both directions on a package with the body `{}`, with its wire image as the accepted bytes. -/
theorem codec_round_trip_body :
    let body : List UInt8 := [0x7B, 0x7D]
    (∃ pkg out, pack (pkgWithoutCRC 1 2 3 body) ⟨17, fun _ => 0⟩ 17 = .ok (17, pkg, out) ∧
      unpack ⟨17, fun i => (out.window 0 17).getD i 0⟩ 17 {} = .ok (0,
        { pkgWithoutCRC 1 2 3 body with crc := ⟨crc16TabCCITT (out.window 0 15)⟩ })) ∧
    ∃ out, pack (pkgWithoutCRC 1 2 3 body).packed ⟨17, fun _ => 0⟩ 17 =
        .ok (17, (pkgWithoutCRC 1 2 3 body).packed, out) ∧
      out.window 0 17 = (pkgWithoutCRC 1 2 3 body).packed.toBytes := by
  intro body
  obtain ⟨hlen, hpack, hback⟩ := codec_round_trip
  have hhead : (pkgWithoutCRC 1 2 3 body).head.len.toNat = 17 := (hlen 1 2 3 body (by decide)).2
  constructor
  · obtain ⟨pkg, out, hout, hunpack⟩ :=
      hpack (pkgWithoutCRC 1 2 3 body) ⟨17, fun _ => 0⟩ 17 hhead (by decide) (by decide)
    refine ⟨pkg, out, hout, ?_⟩
    exact hunpack ⟨17, fun i => (out.window 0 17).getD i 0⟩ {} (Nat.le_of_eq hhead) rfl
  · have himage : (Block.mk 17 fun i =>
        (pkgWithoutCRC 1 2 3 body).packed.toBytes.getD i 0).window 0 17 =
          (pkgWithoutCRC 1 2 3 body).packed.toBytes := by decide +kernel
    have haccept : unpack ⟨17, fun i => (pkgWithoutCRC 1 2 3 body).packed.toBytes.getD i 0⟩
        (pkgWithoutCRC 1 2 3 body).packed.head.len {} =
          .ok (0, (pkgWithoutCRC 1 2 3 body).packed) :=
      unpack_eq hhead (Nat.le_of_eq hhead) himage
    obtain ⟨out, hout, hwindow⟩ := hback _ 17 {} _ ⟨17, fun _ => 0⟩ 17 haccept
      (by decide +kernel) (by decide) (by decide)
    exact ⟨out, hout, hwindow.trans himage⟩

end RVDataFusionServer
