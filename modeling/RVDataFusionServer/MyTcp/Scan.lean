import RVDataFusionServer.Common.Pkg
import RVDataFusionServer.Library.Execution

/-!
# What a byte stream says

The purpose of the state machine of `MyTcpHandler.hpp`, without buffers: `scan` reads a stream
byte by byte, with the bytes of the unfinished package as its whole state, and emits each package
whose checksum is right. A stream is described from the sender's side by `StreamItem`s, and
`scan_stream` says that scanning it emits exactly the frames.
-/

namespace RVDataFusionServer

open Library

/-- The package with a given wire image. -/
def Pkg.ofBytes (bytes : List UInt8) : Pkg where
  head := PkgHead.ofBytes bytes
  body := (bytes.drop sizeofPkgHead).take (bytes.length - (sizeofPkgHead + sizeofPkgCRC))
  crc := PkgCRC.ofBytes (bytes.drop (bytes.length - sizeofPkgCRC))

/-- A package as a list: empty if the checksum is not that of the header and the body. -/
def Pkg.intact (pkg : Pkg) : List Pkg :=
  if crc16TabCCITT pkg.covered = pkg.crc.data then [pkg] else []

/-- The bytes are a whole package: they have the length that their header says. -/
def Complete (bytes : List UInt8) : Prop :=
  sizeofPkgHead ≤ bytes.length ∧ (PkgHead.ofBytes bytes).len.toNat = bytes.length

instance (bytes : List UInt8) : Decidable (Complete bytes) := inferInstanceAs (Decidable (_ ∧ _))

/-- Read one byte behind the bytes of an unfinished package. -/
def scan (unfinished : List UInt8) (byte : UInt8) : List UInt8 × List Pkg :=
  if unfinished = [] then (if byte = startTag then [byte] else [], [])
  else if Complete (unfinished ++ [byte]) then ([], (Pkg.ofBytes (unfinished ++ [byte])).intact)
  else (unfinished ++ [byte], [])

/-- The bytes that a stream leaves unfinished. -/
def unfinished (bytes : List UInt8) : List UInt8 := Execution.final scan [] bytes

/-- The packages that a stream contains. -/
def packages (bytes : List UInt8) : List Pkg := Execution.emitted scan [] bytes

/-- The next byte keeps the counters of the state machine in range: a header that it completes
has a length for at least a header and a checksum, and in front of the checksum the position is
an `int`. -/
def InRange (unfinished : List UInt8) (byte : UInt8) : Prop :=
  (unfinished.length + 1 = sizeofPkgHead →
    sizeofPkgHead + sizeofPkgCRC ≤ (PkgHead.ofBytes (unfinished ++ [byte])).len.toNat) ∧
  (sizeofPkgHead ≤ unfinished.length →
    unfinished.length + 1 + sizeofPkgCRC ≤ (PkgHead.ofBytes unfinished).len.toNat →
    unfinished.length + 1 < 2 ^ 31)

/-! ## The sender's side -/

/-- The tag and the length of a header are right. -/
structure Pkg.Framed (pkg : Pkg) : Prop where
  tag_eq : pkg.head.tag = startTag
  len_eq : pkg.head.len.toNat = sizeofPkgHead + pkg.body.length + sizeofPkgCRC
  len_lt : pkg.head.len.toNat < 2 ^ 31

/-- A package as it is sent: framed, and with the checksum that `Pack` gave it. -/
structure Pkg.Sent (pkg : Pkg) : Prop extends pkg.Framed where
  packed : ∃ source out len out', pack source out len = .ok (pkg.head.len, pkg, out')

/-- A package that was altered on its way: the header is that of a sent package, and the checksum
does not match any more. -/
structure Pkg.Damaged (pkg : Pkg) : Prop where
  original : ∃ sent : Pkg, sent.Sent ∧ sent.head = pkg.head ∧ sent.body.length = pkg.body.length
  crc_ne : crc16TabCCITT pkg.covered ≠ pkg.crc.data

/-- A piece of a stream. -/
inductive StreamItem where
  | frame (pkg : Pkg) (hsent : pkg.Sent)
  | garbage (bytes : List UInt8) (hgarbage : startTag ∉ bytes)
  | damaged (pkg : Pkg) (hdamaged : pkg.Damaged)

/-- The bytes of a piece. -/
def StreamItem.bytes : StreamItem → List UInt8
  | .frame pkg _ => pkg.toBytes
  | .garbage bytes _ => bytes
  | .damaged pkg _ => pkg.toBytes

/-- The packages in a piece. -/
def StreamItem.frames : StreamItem → List Pkg
  | .frame pkg _ => [pkg]
  | .garbage _ _ => []
  | .damaged _ _ => []

/-- The bytes of a stream. -/
def stream (items : List StreamItem) : List UInt8 := items.flatMap StreamItem.bytes

/-- The frames of a stream, in stream order. -/
def frames (items : List StreamItem) : List Pkg := items.flatMap StreamItem.frames

/-- A damaged package is framed. -/
theorem Pkg.Damaged.framed {pkg : Pkg} (h : pkg.Damaged) : pkg.Framed := by
  obtain ⟨sent, hsent, hhead, hbody⟩ := h.original
  refine ⟨?_, ?_, ?_⟩
  · rw [← hhead]; exact hsent.tag_eq
  · rw [← hhead, ← hbody]; exact hsent.len_eq
  · rw [← hhead]; exact hsent.len_lt

/-- A sent package has the checksum of its header and its body. -/
theorem Pkg.Sent.crc_eq {pkg : Pkg} (h : pkg.Sent) :
    crc16TabCCITT pkg.covered = pkg.crc.data := by
  obtain ⟨source, out, len, out', hpack⟩ := h.packed
  have hret : pkg.head.len ≠ 0 := by
    intro hzero
    have hlen := h.len_eq
    rw [hzero, UInt32.toNat_zero] at hlen
    simp only [sizeofPkgHead] at hlen
    omega
  exact (crc_of_pack hpack hret).symm

/-- A framed package with the right checksum is what `Pack` makes of it. -/
theorem Pkg.Framed.sent {pkg : Pkg} (h : pkg.Framed)
    (hcrc : crc16TabCCITT pkg.covered = pkg.crc.data) : pkg.Sent where
  toFramed := h
  packed := by
    have hsame : pkg.packed = pkg := by rw [Pkg.packed, hcrc]
    obtain ⟨out', hpack, -⟩ := pack_eq pkg ⟨pkg.head.len.toNat, fun _ => 0⟩ _
      h.len_eq (Nat.le_refl _) (Nat.le_refl _)
    exact ⟨pkg, _, _, out', by rw [hpack, hsame]⟩

/-! ## Wire images -/

/-- A package is determined by its wire image. -/
theorem Pkg.ofBytes_toBytes (pkg : Pkg) : Pkg.ofBytes pkg.toBytes = pkg := by
  have hhead : PkgHead.ofBytes pkg.toBytes = pkg.head := by
    rw [Pkg.toBytes, Pkg.covered, List.append_assoc, PkgHead.ofBytes_toBytes]
  have hbody : (pkg.toBytes.drop sizeofPkgHead).take pkg.body.length = pkg.body := by
    rw [Pkg.toBytes, Pkg.covered, List.append_assoc, List.drop_left' pkg.head.length_toBytes,
      List.take_left' rfl]
  have hcrc : pkg.toBytes.drop (sizeofPkgHead + pkg.body.length) = pkg.crc.toBytes := by
    rw [Pkg.toBytes, List.drop_left' pkg.length_covered]
  have hbodyLen : pkg.toBytes.length - (sizeofPkgHead + sizeofPkgCRC) = pkg.body.length := by
    rw [Pkg.length_toBytes]; omega
  have hcrcPos : pkg.toBytes.length - sizeofPkgCRC = sizeofPkgHead + pkg.body.length := by
    rw [Pkg.length_toBytes]; omega
  rw [Pkg.ofBytes, hbodyLen, hcrcPos, hhead, hbody, hcrc, PkgCRC.ofBytes_toBytes]

/-- Bytes are the wire image of the package that they are read as. -/
theorem Pkg.toBytes_ofBytes {bytes : List UInt8}
    (h : sizeofPkgHead + sizeofPkgCRC ≤ bytes.length) :
    (Pkg.ofBytes bytes).toBytes = bytes := by
  have hsplit : bytes = bytes.take sizeofPkgHead ++
      (bytes.drop sizeofPkgHead).take (bytes.length - (sizeofPkgHead + sizeofPkgCRC)) ++
      bytes.drop (bytes.length - sizeofPkgCRC) := by
    have hlast : bytes.drop (bytes.length - sizeofPkgCRC) = (bytes.drop sizeofPkgHead).drop
        (bytes.length - (sizeofPkgHead + sizeofPkgCRC)) := by
      rw [List.drop_drop]; congr 1; omega
    rw [hlast, List.append_assoc, List.take_append_drop, List.take_append_drop]
  have hhead : (PkgHead.ofBytes bytes).toBytes = bytes.take sizeofPkgHead := by
    conv_lhs => rw [← List.take_append_drop sizeofPkgHead bytes]
    rw [PkgHead.ofBytes_append (by simp; omega), PkgHead.toBytes_ofBytes (by simp; omega)]
  have hcrc : (PkgCRC.ofBytes (bytes.drop (bytes.length - sizeofPkgCRC))).toBytes =
      bytes.drop (bytes.length - sizeofPkgCRC) :=
    PkgCRC.toBytes_ofBytes (by simp; omega)
  conv_rhs => rw [hsplit]
  rw [Pkg.toBytes, Pkg.covered, Pkg.ofBytes, hhead, hcrc]

/-! ## Scanning -/

open Execution

/-- The packages of a cut stream. -/
theorem packages_append (first second : List UInt8) :
    packages (first ++ second) = packages first ++ emitted scan (unfinished first) second :=
  emitted_append _ _ _ _

/-- The header of a stream is known from byte 13 on. -/
theorem ofBytes_unfinished {unfinished : List UInt8} {byte : UInt8} (rest : List UInt8)
    (h : sizeofPkgHead ≤ (unfinished ++ [byte]).length) :
    PkgHead.ofBytes (unfinished ++ byte :: rest) = PkgHead.ofBytes (unfinished ++ [byte]) := by
  simpa using PkgHead.ofBytes_append h rest

/-- Bytes that do not complete a package are kept, and nothing is emitted. -/
theorem scan_unfinished (unfinished bytes : List UInt8) (hne : unfinished ≠ [])
    (hlen : sizeofPkgHead ≤ (unfinished ++ bytes).length →
      (unfinished ++ bytes).length < (PkgHead.ofBytes (unfinished ++ bytes)).len.toNat) :
    final scan unfinished bytes = unfinished ++ bytes ∧ emitted scan unfinished bytes = [] := by
  induction bytes generalizing unfinished with
  | nil => simp
  | cons byte rest ih =>
      have hincomplete : ¬ Complete (unfinished ++ [byte]) := by
        rintro ⟨hhead, hcomplete⟩
        have hlt := hlen (by
          simp only [List.length_append, List.length_cons, List.length_nil] at hhead ⊢; omega)
        rw [ofBytes_unfinished _ hhead] at hlt
        simp only [List.length_append, List.length_cons, List.length_nil] at hcomplete hlt
        omega
      have hstep : scan unfinished byte = (unfinished ++ [byte], []) := by
        simp [scan, hne, hincomplete]
      have hrest := ih (unfinished ++ [byte]) (by simp) (by simpa using hlen)
      simpa [hstep] using hrest

/-- Bytes that do not complete a package are in range when the header is. -/
theorem inRange_unfinished (unfinished bytes : List UInt8) (hne : unfinished ≠ [])
    (hlen : sizeofPkgHead ≤ (unfinished ++ bytes).length →
      (unfinished ++ bytes).length < (PkgHead.ofBytes (unfinished ++ bytes)).len.toNat ∧
      sizeofPkgHead + sizeofPkgCRC ≤ (PkgHead.ofBytes (unfinished ++ bytes)).len.toNat)
    (hsmall : (unfinished ++ bytes).length < 2 ^ 31) :
    Allowed scan InRange unfinished bytes := by
  induction bytes generalizing unfinished with
  | nil => trivial
  | cons byte rest ih =>
      have hstep : (scan unfinished byte).1 = unfinished ++ [byte] := by
        have hone := scan_unfinished unfinished [byte] hne
        refine (hone fun hhead => ?_).1
        have hlt := (hlen (by
          simp only [List.length_append, List.length_cons, List.length_nil] at hhead ⊢; omega)).1
        rw [ofBytes_unfinished _ hhead] at hlt
        simp only [List.length_append, List.length_cons, List.length_nil] at hlt ⊢
        omega
      refine ⟨⟨fun hhead => ?_, fun _ _ => ?_⟩, ?_⟩
      · have hhead' : sizeofPkgHead ≤ (unfinished ++ [byte]).length := by simp [← hhead]
        rw [← ofBytes_unfinished rest hhead']
        exact (hlen (by
          simp only [List.length_append, List.length_cons, List.length_nil] at hhead' ⊢; omega)).2
      · simp only [List.length_append, List.length_cons] at hsmall
        omega
      · rw [hstep]
        exact ih _ (by simp) (by simpa using hlen) (by simpa using hsmall)

/-- Bytes that complete a package end it, and it is emitted if it is intact. -/
theorem scan_complete (unfinished bytes : List UInt8) (hne : unfinished ≠ [])
    (hbytes : bytes ≠ []) (h : Complete (unfinished ++ bytes)) :
    final scan unfinished bytes = [] ∧
      emitted scan unfinished bytes = (Pkg.ofBytes (unfinished ++ bytes)).intact := by
  obtain ⟨init, last, rfl⟩ := (List.eq_nil_or_concat bytes).resolve_left hbytes
  rw [List.concat_eq_append, ← List.append_assoc] at h ⊢
  have hinit := scan_unfinished unfinished init hne (fun hle => by
    rw [← PkgHead.ofBytes_append hle [last], h.2]
    simp)
  have hlast : scan (unfinished ++ init) last =
      ([], (Pkg.ofBytes (unfinished ++ init ++ [last])).intact) := by
    simp only [scan, List.append_eq_nil_iff, hne, false_and, if_false, h, if_true]
  rw [final_append, emitted_append, hinit.1, hinit.2]
  simp [hlast]

/-- Bytes that complete a package are in range when the package is. -/
theorem inRange_complete (unfinished bytes : List UInt8) (hne : unfinished ≠ [])
    (hbytes : bytes ≠ []) (h : Complete (unfinished ++ bytes))
    (hlow : sizeofPkgHead + sizeofPkgCRC ≤ (unfinished ++ bytes).length)
    (hhigh : (unfinished ++ bytes).length < 2 ^ 31) : Allowed scan InRange unfinished bytes := by
  obtain ⟨init, last, rfl⟩ := (List.eq_nil_or_concat bytes).resolve_left hbytes
  rw [List.concat_eq_append, ← List.append_assoc] at h hlow hhigh
  have hlength : (unfinished ++ init ++ [last]).length = (unfinished ++ init).length + 1 := by
    rw [List.length_append, List.length_singleton]
  have hhead : sizeofPkgHead ≤ (unfinished ++ init).length →
      (PkgHead.ofBytes (unfinished ++ init)).len.toNat = (unfinished ++ init).length + 1 :=
    fun hle => by rw [← PkgHead.ofBytes_append hle [last], h.2, hlength]
  have hinit := inRange_unfinished unfinished init hne
    (fun hle => by rw [hhead hle]; omega) (by omega)
  have hbefore := (scan_unfinished unfinished init hne
    (fun hle => by rw [hhead hle]; omega)).1
  rw [List.concat_eq_append, allowed_append, hbefore]
  refine ⟨hinit, ⟨fun _ => ?_, fun hle hbody => ?_⟩, trivial⟩
  · rw [h.2]; exact hlow
  · rw [hhead hle] at hbody
    simp only [sizeofPkgCRC] at hbody
    omega

/-- A framed package is complete, starts with the start mark, and has more bytes than that. -/
theorem Pkg.Framed.complete {pkg : Pkg} (h : pkg.Framed) :
    Complete pkg.toBytes ∧ ∃ byte rest, pkg.toBytes = startTag :: byte :: rest := by
  have hlength : pkg.toBytes.length = pkg.head.len.toNat := by rw [Pkg.length_toBytes, h.len_eq]
  have hhead : PkgHead.ofBytes pkg.toBytes = pkg.head := congrArg Pkg.head pkg.ofBytes_toBytes
  refine ⟨⟨by rw [Pkg.length_toBytes]; omega, by rw [hhead, hlength]⟩, ?_⟩
  rw [← h.tag_eq]
  exact ⟨_, _, rfl⟩

/-- A framed package is cut out of a stream as a whole. -/
theorem scan_pkg {pkg : Pkg} (h : pkg.Framed) :
    final scan [] pkg.toBytes = [] ∧ emitted scan [] pkg.toBytes = pkg.intact ∧
      Allowed scan InRange [] pkg.toBytes := by
  have hlen := h.len_eq
  have hlt := h.len_lt
  have hlength : pkg.toBytes.length = pkg.head.len.toNat := by rw [Pkg.length_toBytes, hlen]
  obtain ⟨hcomplete, byte, rest, hbytes⟩ := h.complete
  have hfirst : scan [] startTag = ([startTag], []) := by simp [scan]
  have hcut : [startTag] ++ (byte :: rest) = pkg.toBytes := hbytes.symm
  have hscan := scan_complete [startTag] (byte :: rest) (by simp) (by simp)
    (by rw [hcut]; exact hcomplete)
  have hrange := inRange_complete [startTag] (byte :: rest) (by simp)
    (by simp) (by rw [hcut]; exact hcomplete) (by rw [hcut]; omega) (by rw [hcut]; omega)
  rw [hcut, Pkg.ofBytes_toBytes] at hscan
  rw [hbytes, final_cons, emitted_cons, allowed_cons, hfirst]
  refine ⟨hscan.1, by simpa using hscan.2, ?_, hrange⟩
  exact ⟨fun hone => absurd hone (by simp [sizeofPkgHead]), fun hone =>
    absurd hone (by simp [sizeofPkgHead])⟩

/-- Garbage without a start mark is skipped. -/
theorem scan_garbage {bytes : List UInt8} (h : startTag ∉ bytes) :
    final scan [] bytes = [] ∧ emitted scan [] bytes = [] ∧ Allowed scan InRange [] bytes := by
  induction bytes with
  | nil => simp
  | cons byte rest ih =>
      have hbyte : byte ≠ startTag := fun heq => h (by simp [heq])
      have hstep : scan [] byte = ([], []) := by simp [scan, hbyte]
      have hrest := ih fun hmem => h (List.mem_cons_of_mem _ hmem)
      refine ⟨by simp [hstep, hrest], by simp [hstep, hrest], ⟨?_, ?_⟩, by simp [hstep, hrest]⟩
      · intro hone; simp [sizeofPkgHead] at hone
      · intro hone; simp [sizeofPkgHead] at hone

/-- Scanning a stream leaves nothing unfinished and emits exactly the frames. -/
theorem scan_stream (items : List StreamItem) :
    unfinished (stream items) = [] ∧ packages (stream items) = frames items ∧
      Allowed scan InRange [] (stream items) := by
  induction items with
  | nil => exact ⟨rfl, rfl, trivial⟩
  | cons item rest ih =>
      obtain ⟨hfinal, hemitted, hrange⟩ := ih
      have hitem : final scan [] item.bytes = [] ∧ emitted scan [] item.bytes = item.frames ∧
          Allowed scan InRange [] item.bytes := by
        cases item with
        | frame pkg hsent =>
            have hintact : pkg.intact = [pkg] := by simp [Pkg.intact, hsent.crc_eq]
            have hpkg := scan_pkg hsent.toFramed
            rwa [hintact] at hpkg
        | garbage bytes hgarbage => exact scan_garbage hgarbage
        | damaged pkg hdamaged =>
            have hintact : pkg.intact = [] := by simp [Pkg.intact, hdamaged.crc_ne]
            have hpkg := scan_pkg hdamaged.framed
            rwa [hintact] at hpkg
      have hcut : stream (item :: rest) = item.bytes ++ stream rest := rfl
      rw [unfinished, packages, hcut, final_append, emitted_append, allowed_append, hitem.1]
      exact ⟨hfinal, congrArg₂ _ hitem.2.1 hemitted, hitem.2.2, hrange⟩

/-- A piece of a stream leaves nothing unfinished. -/
theorem final_item (item : StreamItem) : final scan [] item.bytes = [] := by
  have hone := (scan_stream [item]).1
  simpa [stream, unfinished] using hone

/-- A first part of a framed package is left unfinished. -/
theorem unfinished_of_pkg {pkg : Pkg} (hframed : pkg.Framed) {bytes rest : List UInt8}
    (hne : rest ≠ []) (hrest : bytes ++ rest = pkg.toBytes) : unfinished bytes = bytes := by
  cases bytes with
  | nil => rfl
  | cons byte tail =>
      obtain ⟨hcomplete, second, others, hbytes⟩ := hframed.complete
      obtain rfl : byte = startTag := by
        rw [hbytes] at hrest
        exact (List.cons.inj hrest).1
      have hquiet := (scan_unfinished [startTag] tail (by simp)
        (fun hle => by
          have hpos := List.length_pos_of_ne_nil hne
          rw [List.singleton_append] at hle ⊢
          rw [← PkgHead.ofBytes_append hle rest, hrest, hcomplete.2, ← hrest, List.length_append]
          omega)).1
      rw [unfinished, final_cons]
      simpa [scan] using hquiet

/-- What a first part of a stream leaves unfinished is a first part of a framed package. -/
theorem unfinished_of_isPrefix {bytes : List UInt8} {items : List StreamItem}
    (h : bytes <+: stream items) :
    unfinished bytes = [] ∨
      ∃ pkg : Pkg, pkg.Framed ∧ ∃ rest, rest ≠ [] ∧ unfinished bytes ++ rest = pkg.toBytes := by
  induction items generalizing bytes with
  | nil =>
      obtain rfl : bytes = [] := List.prefix_nil.mp h
      exact .inl rfl
  | cons item others ih =>
      obtain ⟨future, hfuture⟩ := h
      have hcut : stream (item :: others) = item.bytes ++ stream others := rfl
      rw [hcut, List.append_eq_append_iff] at hfuture
      rcases hfuture with ⟨rest, hitem, -⟩ | ⟨more, hmore, hothers⟩
      · by_cases hne : rest = []
        · obtain rfl : item.bytes = bytes := by simpa [hne] using hitem
          exact .inl (final_item item)
        cases item with
        | frame pkg hsent =>
            have hkept := unfinished_of_pkg hsent.toFramed hne hitem.symm
            exact .inr ⟨pkg, hsent.toFramed, rest, hne, by rw [hkept]; exact hitem.symm⟩
        | garbage garbage hgarbage =>
            have hgarbage' : startTag ∉ bytes := fun hmem => hgarbage (by
              have hitem' : garbage = bytes ++ rest := hitem
              rw [hitem']
              exact List.mem_append_left _ hmem)
            exact .inl (scan_garbage hgarbage').1
        | damaged pkg hdamaged =>
            have hkept := unfinished_of_pkg hdamaged.framed hne hitem.symm
            exact .inr ⟨pkg, hdamaged.framed, rest, hne, by rw [hkept]; exact hitem.symm⟩
      · have hmore' : unfinished bytes = unfinished more := by
          rw [hmore, unfinished, final_append, final_item, unfinished]
        rw [hmore']
        exact ih ⟨future, hothers.symm⟩

end RVDataFusionServer
