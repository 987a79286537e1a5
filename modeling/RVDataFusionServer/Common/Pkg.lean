import RVDataFusionServer.Common.Crc
import RVDataFusionServer.Library.Block
import RVDataFusionServer.Library.LittleEndian

/-!
# Packages and their wire format

`PkgHead`, `PkgCRC` and `Pkg` of `common.h` with `Pack` and `Unpack` of `common.cpp`. The header
is packed to 13 bytes and, on the x86-64 and aarch64 targets, little-endian. `Pkg.toBytes` is the
wire image of a package: `pack_eq` says that `pack` writes it and `unpack_eq` that `unpack` reads
it back.
-/

namespace RVDataFusionServer

open Library

/-- The start mark `$` of a package. -/
def startTag : UInt8 := 0x24

/-- `PkgHead`. The two fields without a default in the source start at 0 here. -/
structure PkgHead where
  tag : UInt8 := startTag
  version : UInt8 := 0
  cmd : UInt8 := 0xff
  sn : UInt16 := 0
  deviceNO : UInt32 := 0
  len : UInt32 := 0
  deriving DecidableEq, Repr, Inhabited

/-- `PkgCRC`. -/
structure PkgCRC where
  data : UInt16 := 0
  deriving DecidableEq, Repr, Inhabited

/-- `Pkg`. -/
structure Pkg where
  head : PkgHead := {}
  body : List UInt8 := []
  crc : PkgCRC := {}
  deriving DecidableEq, Repr, Inhabited

/-- `sizeof(PkgHead)`. -/
def sizeofPkgHead : Nat := 13

/-- `sizeof(PkgCRC)`. -/
def sizeofPkgCRC : Nat := 2

/-- The memory image of a header. -/
def PkgHead.toBytes (head : PkgHead) : List UInt8 :=
  [head.tag, head.version, head.cmd] ++ toLE 2 head.sn.toNat ++ toLE 4 head.deviceNO.toNat ++
    toLE 4 head.len.toNat

/-- The header with a given memory image. -/
def PkgHead.ofBytes (bytes : List UInt8) : PkgHead where
  tag := bytes.getD 0 0
  version := bytes.getD 1 0
  cmd := bytes.getD 2 0
  sn := UInt16.ofNat (ofLE ((bytes.drop 3).take 2))
  deviceNO := UInt32.ofNat (ofLE ((bytes.drop 5).take 4))
  len := UInt32.ofNat (ofLE ((bytes.drop 9).take 4))

/-- The memory image of a checksum. -/
def PkgCRC.toBytes (crc : PkgCRC) : List UInt8 := toLE 2 crc.data.toNat

/-- The checksum with a given memory image. -/
def PkgCRC.ofBytes (bytes : List UInt8) : PkgCRC := ⟨UInt16.ofNat (ofLE (bytes.take 2))⟩

/-- The bytes that the checksum covers: the header and the body. -/
def Pkg.covered (pkg : Pkg) : List UInt8 := pkg.head.toBytes ++ pkg.body

/-- The wire image of a package. -/
def Pkg.toBytes (pkg : Pkg) : List UInt8 := pkg.covered ++ pkg.crc.toBytes

/-- `PkgWithoutCRC`, which every message class repeats: the header for a JSON text, with the
checksum left at 0. -/
def pkgWithoutCRC (cmdType : UInt8) (sn : UInt16) (deviceNO : UInt32) (jsonStr : List UInt8) :
    Pkg where
  head :=
    { tag := startTag, version := 1, cmd := cmdType, sn, deviceNO
      len := UInt32.ofNat (sizeofPkgHead + jsonStr.length + sizeofPkgCRC) }
  body := jsonStr
  crc := ⟨0x0000⟩

/-- `Pack`: the return value, the package with its checksum, and the written buffer. Behind the
length check `index` stays below `2 ^ 32`, so that it is a natural number here. -/
def pack (pkg : Pkg) (out : Block UInt8) (len : UInt32) :
    Except Fault (UInt32 × Pkg × Block UInt8) :=
  if len.toNat < sizeofPkgHead + sizeofPkgCRC + pkg.body.length then .ok (0, pkg, out)
  else do
    let out ← out.store 0 pkg.head.toBytes
    let out ← out.store (sizeofPkgHead : Nat) pkg.body
    let index := sizeofPkgHead + pkg.body.length
    let data ← out.load 0 index
    let pkg := { pkg with crc := ⟨crc16TabCCITT data⟩ }
    let out ← out.store index pkg.crc.toBytes
    let index := index + sizeofPkgCRC
    if index ≠ pkg.head.len.toNat then pure (0, pkg, out) else pure (UInt32.ofNat index, pkg, out)

/-- `std::string::max_size()`. -/
def stringMaxSize : Nat := 2 ^ 63 - 1

/-- `Unpack`: the return value and the package. The body length is a `size_t`, which wraps for
headers whose length is below 15, and `assign` throws for a length above `max_size()`. -/
def unpack (inBuf : Block UInt8) (len : UInt32) (pkg : Pkg) : Except Fault (Int × Pkg) :=
  if len.toNat < sizeofPkgHead then .ok (-1, pkg)
  else do
    let head ← inBuf.load 0 sizeofPkgHead
    let pkg := { pkg with head := PkgHead.ofBytes head }
    if len < pkg.head.len then pure (-1, pkg)
    else
      let bodyLen := (pkg.head.len.toUInt64 - 13 - 2).toNat
      if stringMaxSize < bodyLen then .error (.threw "std::length_error")
      else do
        let body ← inBuf.load (sizeofPkgHead : Nat) bodyLen
        let pkg := { pkg with body := body }
        let index := sizeofPkgHead + bodyLen
        let crc ← inBuf.load index sizeofPkgCRC
        let pkg := { pkg with crc := PkgCRC.ofBytes crc }
        let index := index + sizeofPkgCRC
        if index ≠ len.toNat then pure (-1, pkg) else pure (0, pkg)

/-! ## The codec lemmas -/

@[simp] theorem PkgHead.length_toBytes (head : PkgHead) : head.toBytes.length = sizeofPkgHead := by
  simp [PkgHead.toBytes, sizeofPkgHead]

@[simp] theorem PkgCRC.length_toBytes (crc : PkgCRC) : crc.toBytes.length = sizeofPkgCRC := by
  simp [PkgCRC.toBytes, sizeofPkgCRC]

@[simp] theorem Pkg.length_covered (pkg : Pkg) :
    pkg.covered.length = sizeofPkgHead + pkg.body.length := by
  simp [Pkg.covered]

@[simp] theorem Pkg.length_toBytes (pkg : Pkg) :
    pkg.toBytes.length = sizeofPkgHead + pkg.body.length + sizeofPkgCRC := by
  simp [Pkg.toBytes]

/-- A header is determined by its memory image, whatever bytes follow. -/
theorem PkgHead.ofBytes_toBytes (head : PkgHead) (rest : List UInt8) :
    PkgHead.ofBytes (head.toBytes ++ rest) = head := by
  have hsn : ((head.toBytes ++ rest).drop 3).take 2 = toLE 2 head.sn.toNat := by
    simp [PkgHead.toBytes, toLE]
  have hdev : ((head.toBytes ++ rest).drop 5).take 4 = toLE 4 head.deviceNO.toNat := by
    simp [PkgHead.toBytes, toLE]
  have hlen : ((head.toBytes ++ rest).drop 9).take 4 = toLE 4 head.len.toNat := by
    simp [PkgHead.toBytes, toLE]
  simp only [PkgHead.ofBytes, hsn, hdev, hlen, uint16_ofLE_toLE, uint32_ofLE_toLE]
  simp [PkgHead.toBytes]

/-- A header is the image of the header that its bytes are read as. -/
theorem PkgHead.toBytes_ofBytes {bytes : List UInt8} (h : bytes.length = sizeofPkgHead) :
    (PkgHead.ofBytes bytes).toBytes = bytes := by
  match bytes, h with
  | [b0, b1, b2, b3, b4, b5, b6, b7, b8, b9, b10, b11, b12], _ =>
      have hsn := toLE_uint16_ofLE [b3, b4] rfl
      have hdev := toLE_uint32_ofLE [b5, b6, b7, b8] rfl
      have hlen := toLE_uint32_ofLE [b9, b10, b11, b12] rfl
      simp only [PkgHead.toBytes, PkgHead.ofBytes, List.drop_succ_cons, List.drop_zero,
        List.take_succ_cons, List.take_zero, hsn, hdev, hlen]
      rfl

/-- A header is read from its first 13 bytes. -/
theorem PkgHead.ofBytes_append {bytes : List UInt8} (h : sizeofPkgHead ≤ bytes.length)
    (rest : List UInt8) : PkgHead.ofBytes (bytes ++ rest) = PkgHead.ofBytes bytes := by
  have hcut : bytes = bytes.take sizeofPkgHead ++ bytes.drop sizeofPkgHead :=
    (List.take_append_drop _ _).symm
  have himage : (PkgHead.ofBytes (bytes.take sizeofPkgHead)).toBytes =
      bytes.take sizeofPkgHead :=
    PkgHead.toBytes_ofBytes (by simpa using h)
  rw [hcut, List.append_assoc, ← himage, PkgHead.ofBytes_toBytes, PkgHead.ofBytes_toBytes]

/-- A checksum is determined by its memory image. -/
theorem PkgCRC.ofBytes_toBytes (crc : PkgCRC) : PkgCRC.ofBytes crc.toBytes = crc := by
  have hcrc : crc.toBytes.take 2 = toLE 2 crc.data.toNat := by
    simp [PkgCRC.toBytes, toLE]
  simp only [PkgCRC.ofBytes, hcrc, uint16_ofLE_toLE]

/-- The image of a checksum read from two bytes is these two bytes. -/
theorem PkgCRC.toBytes_ofBytes {bytes : List UInt8} (h : bytes.length = sizeofPkgCRC) :
    (PkgCRC.ofBytes bytes).toBytes = bytes := by
  have htake : bytes.take 2 = bytes := List.take_of_length_le (Nat.le_of_eq h)
  rw [PkgCRC.ofBytes, PkgCRC.toBytes, htake, toLE_uint16_ofLE bytes h]

/-! ## What `Pack` produces and `Unpack` accepts -/

/-- The package as `Pack` leaves it, with its checksum. -/
def Pkg.packed (pkg : Pkg) : Pkg := { pkg with crc := ⟨crc16TabCCITT pkg.covered⟩ }

/-- `Pack` into a buffer with room writes the wire image of the package with its checksum. It
returns the length if this is the length in the header. -/
theorem pack_written (pkg : Pkg) (out : Block UInt8) (len : UInt32)
    (hroom : sizeofPkgHead + sizeofPkgCRC + pkg.body.length ≤ len.toNat)
    (hsize : sizeofPkgHead + sizeofPkgCRC + pkg.body.length ≤ out.size) :
    ∃ out', pack pkg out len =
        .ok (if sizeofPkgHead + pkg.body.length + sizeofPkgCRC = pkg.head.len.toNat then
          pkg.head.len else 0, pkg.packed, out') ∧
      out'.window 0 (sizeofPkgHead + pkg.body.length + sizeofPkgCRC) = pkg.packed.toBytes := by
  set headed := out.overwrite 0 pkg.head.toBytes with hheaded
  set bodied := headed.overwrite sizeofPkgHead pkg.body with hbodied
  set closed := bodied.overwrite (sizeofPkgHead + pkg.body.length) pkg.packed.crc.toBytes
    with hclosed
  have hhead : out.store 0 pkg.head.toBytes = .ok headed :=
    Block.store_eq _ 0 _ (by simp only [PkgHead.length_toBytes]; omega)
  have hbody : headed.store (sizeofPkgHead : Nat) pkg.body = .ok bodied :=
    Block.store_eq _ _ _ (by simp only [hheaded, Block.size_overwrite]; omega)
  -- the checksum is computed over the header and the body as they stand in the buffer
  have hcovered : bodied.window 0 (sizeofPkgHead + pkg.body.length) = pkg.covered := by
    have happend := headed.window_overwrite_append 0 sizeofPkgHead pkg.body
    have hfirst := out.window_overwrite_same 0 pkg.head.toBytes
    rw [PkgHead.length_toBytes] at hfirst
    rw [Nat.zero_add] at happend
    rw [hbodied, happend, hheaded, hfirst, Pkg.covered]
  have hload : bodied.load 0 (sizeofPkgHead + pkg.body.length) = .ok pkg.covered := by
    rw [← hcovered]
    exact Block.load_eq _ 0 _
      (by simp only [hbodied, hheaded, Block.size_overwrite]; omega)
  have hsum : bodied.store (sizeofPkgHead + pkg.body.length : Nat) pkg.packed.crc.toBytes =
      .ok closed :=
    Block.store_eq _ _ _ (by
      simp only [hbodied, hheaded, Block.size_overwrite, PkgCRC.length_toBytes]; omega)
  have hcrc : pkg.packed.crc = ⟨crc16TabCCITT pkg.covered⟩ := rfl
  rw [hcrc] at hsum
  refine ⟨closed, ?_, ?_⟩
  · unfold pack
    rw [if_neg (by omega)]
    simp only [hhead, hbody, hload, hsum, bind, Except.bind, pure, Except.pure]
    by_cases hindex : sizeofPkgHead + pkg.body.length + sizeofPkgCRC = pkg.head.len.toNat
    · rw [if_neg (not_not.mpr hindex), if_pos hindex, hindex, UInt32.ofNat_toNat]
      rfl
    · rw [if_pos hindex, if_neg hindex]
      rfl
  · have happend := bodied.window_overwrite_append 0 (sizeofPkgHead + pkg.body.length)
      pkg.packed.crc.toBytes
    rw [Nat.zero_add, PkgCRC.length_toBytes, hcovered] at happend
    rw [hclosed, happend]
    rfl

/-- `Pack` of a package whose header has the right length. -/
theorem pack_eq (pkg : Pkg) (out : Block UInt8) (len : UInt32)
    (hlen : pkg.head.len.toNat = sizeofPkgHead + pkg.body.length + sizeofPkgCRC)
    (hroom : pkg.head.len.toNat ≤ len.toNat) (hsize : pkg.head.len.toNat ≤ out.size) :
    ∃ out', pack pkg out len = .ok (pkg.head.len, pkg.packed, out') ∧
      out'.window 0 pkg.head.len.toNat = pkg.packed.toBytes := by
  obtain ⟨out', hpack, hwindow⟩ := pack_written pkg out len (by omega) (by omega)
  rw [if_pos hlen.symm] at hpack
  exact ⟨out', hpack, by rw [hlen]; exact hwindow⟩

/-- `Pack` into a buffer with room for the package does not leave it. -/
theorem pack_ok (pkg : Pkg) (out : Block UInt8) (len : UInt32)
    (hsize : sizeofPkgHead + sizeofPkgCRC + pkg.body.length ≤ out.size) :
    ∃ result, pack pkg out len = .ok result := by
  by_cases hshort : len.toNat < sizeofPkgHead + sizeofPkgCRC + pkg.body.length
  · exact ⟨_, if_pos hshort⟩
  · obtain ⟨out', hpack, -⟩ := pack_written pkg out len (Nat.le_of_not_lt hshort) hsize
    exact ⟨_, hpack⟩

/-- `Pack` that returns a length has given the package its checksum. -/
theorem crc_of_pack {source pkg : Pkg} {out out' : Block UInt8} {len ret : UInt32}
    (h : pack source out len = .ok (ret, pkg, out')) (hret : ret ≠ 0) :
    pkg.crc.data = crc16TabCCITT pkg.covered := by
  have hpack := h
  unfold pack at h
  split at h
  · cases h
    exact absurd rfl hret
  next hcheck =>
    obtain ⟨headed, hhead, h⟩ := bind_eq_ok.mp h
    obtain ⟨bodied, hbody, h⟩ := bind_eq_ok.mp h
    obtain ⟨data, -, h⟩ := bind_eq_ok.mp h
    obtain ⟨closed, hcrc, h⟩ := bind_eq_ok.mp h
    dsimp only at h
    split at h
    · cases h
      exact absurd rfl hret
    next hindex =>
      -- every store was inside the buffer, so that `pack_eq` applies
      obtain ⟨-, hheadSize⟩ := Block.bound_of_store_eq 0 hhead
      obtain ⟨-, hbodySize⟩ := Block.bound_of_store_eq _ hbody
      obtain ⟨hbound, -⟩ := Block.bound_of_store_eq _ hcrc
      rw [PkgCRC.length_toBytes] at hbound
      obtain ⟨out'', heq, -⟩ := pack_eq source out len
        (by simpa using (not_not.mp hindex).symm) (by omega) (by omega)
      rw [hpack] at heq
      cases heq
      rfl

/-- From a length of 15 on, the body length does not wrap. -/
theorem toNat_bodyLen {len : UInt32} (h : sizeofPkgHead + sizeofPkgCRC ≤ len.toNat) :
    (len.toUInt64 - 13 - 2).toNat = len.toNat - (sizeofPkgHead + sizeofPkgCRC) := by
  have hlt := len.toNat_lt
  simp only [sizeofPkgHead, sizeofPkgCRC] at h ⊢
  simp only [UInt64.toNat_sub, UInt32.toNat_toUInt64, UInt64.reduceToNat]
  omega

/-- The bytes before the checksum of a buffer that starts with a wire image whose header has the
right length. -/
theorem load_covered {pkg : Pkg} {inBuf : Block UInt8}
    (hlen : pkg.head.len.toNat = sizeofPkgHead + pkg.body.length + sizeofPkgCRC)
    (hsize : pkg.head.len.toNat ≤ inBuf.size)
    (hbytes : inBuf.window 0 pkg.head.len.toNat = pkg.toBytes) :
    inBuf.load 0 (pkg.head.len - 2).toNat = .ok pkg.covered := by
  have hless : (pkg.head.len - 2).toNat = pkg.covered.length := by
    rw [UInt32.toNat_sub_of_le, hlen, Pkg.length_covered]
    · simp [sizeofPkgCRC]
    · rw [UInt32.le_iff_toNat_le, hlen]
      simp [sizeofPkgHead]
      omega
  have hfits : pkg.covered.length ≤ pkg.head.len.toNat := by
    rw [hlen, Pkg.length_covered]; omega
  have hcut := Block.take_window inBuf 0 hfits
  rw [hbytes, Pkg.toBytes, List.take_left' rfl] at hcut
  rw [hless]
  conv_rhs => rw [hcut]
  exact Block.load_eq _ 0 _ (by omega)

/-- `Unpack` of a buffer that starts with a wire image whose header has the right length. -/
theorem unpack_eq {pkg old : Pkg} {inBuf : Block UInt8}
    (hlen : pkg.head.len.toNat = sizeofPkgHead + pkg.body.length + sizeofPkgCRC)
    (hsize : pkg.head.len.toNat ≤ inBuf.size)
    (hbytes : inBuf.window 0 pkg.head.len.toNat = pkg.toBytes) :
    unpack inBuf pkg.head.len old = .ok (0, pkg) := by
  have hcut : inBuf.window 0 pkg.head.len.toNat = inBuf.window 0 sizeofPkgHead ++
      inBuf.window sizeofPkgHead pkg.body.length ++
      inBuf.window (sizeofPkgHead + pkg.body.length) sizeofPkgCRC := by
    rw [hlen, Block.window_add, Block.window_add, Nat.zero_add, Nat.zero_add]
  rw [hbytes, Pkg.toBytes, Pkg.covered] at hcut
  obtain ⟨hcovered, hcrc⟩ := List.append_inj hcut (by simp)
  obtain ⟨hhead, hbody⟩ := List.append_inj hcovered (by simp)
  have hbodyLen : (pkg.head.len.toUInt64 - 13 - 2).toNat = pkg.body.length := by
    rw [toNat_bodyLen (by omega)]; omega
  have hloadHead : inBuf.load 0 sizeofPkgHead = .ok pkg.head.toBytes := by
    rw [hhead]; exact Block.load_eq _ 0 _ (by omega)
  have hloadBody : inBuf.load (sizeofPkgHead : Nat) pkg.body.length = .ok pkg.body := by
    conv_rhs => rw [hbody]
    exact Block.load_eq _ _ _ (by omega)
  have hloadCrc : inBuf.load (sizeofPkgHead + pkg.body.length : Nat) sizeofPkgCRC =
      .ok pkg.crc.toBytes := by
    rw [hcrc]; exact Block.load_eq _ _ _ (by omega)
  have hofBytes : PkgHead.ofBytes pkg.head.toBytes = pkg.head := by
    simpa using pkg.head.ofBytes_toBytes []
  have hfits : ¬ stringMaxSize < pkg.body.length := by
    have := pkg.head.len.toNat_lt
    unfold stringMaxSize
    omega
  unfold unpack
  rw [if_neg (by omega)]
  simp only [hloadHead, hofBytes, hbodyLen, hloadBody, hloadCrc, PkgCRC.ofBytes_toBytes,
    if_neg hfits, bind, Except.bind, pure, Except.pure]
  simp [hlen]

end RVDataFusionServer
