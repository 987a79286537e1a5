import RVDataFusionServer.MyTcp.Handler
import RVDataFusionServer.MyTcp.Scan

/-!
# What one round of the state machine does

`Matches` relates a handler to the bytes of the unfinished package, and `iterate_round` says that
a round takes some bytes from the ring buffer and does with them what `scan` does, as long as
`Bounded` holds: a header has a length for a header and a checksum, and `pkgBufferIndex` stays an
`int`. There is one lemma for each of the four states.
-/

namespace RVDataFusionServer

open Library Execution

namespace MyTcpHandler

/-- The package buffer holds the bytes of the unfinished package, and the counters say where its
parts end. -/
structure Receiving (h : MyTcpHandler) (unfinished : List UInt8) : Prop where
  buffer : ∃ pkgBuffer, h.pkgBuffer = some pkgBuffer ∧
    pkgBuffer.size = h.pkgHead.len.toNat ∧ pkgBuffer.window 0 unfinished.length = unfinished
  index_eq : h.pkgBufferIndex = unfinished.length
  head_le : sizeofPkgHead ≤ unfinished.length
  head_eq : PkgHead.ofBytes unfinished = h.pkgHead
  len_eq : unfinished.length + h.bodyLen.toNat + sizeofPkgCRC = h.pkgHead.len.toNat
  small : unfinished.length < 2 ^ 31

/-- The status, the package buffer and the counters fit the bytes of the unfinished package. -/
def Matches (h : MyTcpHandler) (unfinished : List UInt8) : Prop :=
  match h.status with
  | .start => unfinished = [] ∧ h.pkgBuffer = none
  | .getHead => unfinished = [startTag] ∧ h.pkgBuffer = none
  | .getBody => h.Receiving unfinished
  | .getCRC => h.Receiving unfinished ∧ h.bodyLen.toNat = 0

/-- The next round keeps the counters in range: a header that it reads has a length for a header
and a checksum, and a piece of the body that it reads ends at a position that is an `int`. -/
structure Bounded (h : MyTcpHandler) : Prop where
  head : h.status = .getHead → ∀ rb bytes, h.rb.read (sizeofPkgHead - 1) = .ok (rb, bytes) →
    bytes ≠ [] →
    sizeofPkgHead + sizeofPkgCRC ≤ (PkgHead.ofBytes (startTag :: bytes)).len.toNat
  body : h.status = .getBody → 0 < h.rb.getReadLen →
    h.pkgBufferIndex + (min h.rb.getReadLen h.bodyLen.toNat : Nat) < 2 ^ 31

/-- What a round does to `pkgs`. -/
def Pushed (before after : Queue Pkg) : Option Handed → Prop
  | none => after = before
  | some handed => handed.pending = before.q ∧ before.push handed.pkg = (after, handed.accepted)

/-- A round took the bytes `taken` from the ring buffer and did with them what `scan` does. -/
structure Round (h : MyTcpHandler) (unfinished taken held : List UInt8)
    (result : MyTcpHandler × Option Handed) : Prop where
  holds : result.1.rb.Holds held
  capacity_eq : result.1.rb.capacity = h.rb.capacity
  state : result.1.Matches (final scan unfinished taken)
  emits : emitted scan unfinished taken = result.2.toList.map Handed.pkg
  pushed : Pushed h.pkgs result.1.pkgs result.2

/-- The state machine waits for more bytes: its rounds change nothing, and the few bytes it leaves
in the ring buffer complete no package. -/
structure Waits (h : MyTcpHandler) (unfinished held : List UInt8) : Prop where
  idle : ∀ junk, h.iterate junk = .ok (h, none)
  quiet : emitted scan unfinished held = []
  inside : final scan unfinished held = [] → held = []
  short : held.length < sizeofPkgHead

variable {h : MyTcpHandler} {unfinished held : List UInt8}

/-- A round that changes nothing. -/
theorem Round.refl (hrb : h.rb.Holds held) (hmatch : h.Matches unfinished) :
    Round h unfinished [] held (h, none) :=
  ⟨hrb, rfl, hmatch, rfl, rfl⟩

/-- `Start` takes one byte and waits for the start mark. -/
theorem onStart_round {byte : UInt8} {rest : List UInt8} (hrb : h.rb.Holds (byte :: rest))
    (hstatus : h.status = .start) (hmatch : h.Matches unfinished) :
    ∃ h', h.onStart = .ok h' ∧ Round h unfinished [byte] rest (h', none) := by
  obtain ⟨rfl, hnone⟩ : unfinished = [] ∧ h.pkgBuffer = none := by
    simpa only [Matches, hstatus] using hmatch
  have hcut : h.rb.Holds ([byte] ++ rest) := hrb
  obtain ⟨rb, hread, hholds, hcap⟩ := RingBuffer.read_eq hcut
  have hlen : 1 ≤ h.rb.getReadLen := by simp [hrb.getReadLen_eq]
  refine ⟨{ h with rb := rb, status := if byte = startTag then .getHead else h.status }, ?_,
    hholds, hcap, ?_, ?_, rfl⟩
  · rw [List.length_singleton] at hread
    simp [onStart, hlen, hread, bind, Except.bind, pure, Except.pure]
  · by_cases htag : byte = startTag
    · simp [Matches, scan, htag, hnone]
    · simp [Matches, scan, htag, hnone, hstatus]
  · simp [scan]

/-- `GetHead` waits for a whole header. -/
theorem onGetHead_wait (hrb : h.rb.Holds held) (hshort : held.length < sizeofPkgHead - 1)
    (junk : Nat → UInt8) : h.onGetHead junk = .ok h := by
  have hlen : ¬ sizeofPkgHead - 1 ≤ h.rb.getReadLen := by rw [hrb.getReadLen_eq]; omega
  simp [onGetHead, hlen, pure, Except.pure]

/-- `GetHead` takes the header and allocates the package buffer. -/
theorem onGetHead_round {raw rest : List UInt8} (hrb : h.rb.Holds (raw ++ rest))
    (hraw : raw.length = sizeofPkgHead - 1) (hstatus : h.status = .getHead)
    (hmatch : h.Matches unfinished)
    (hlen : sizeofPkgHead + sizeofPkgCRC ≤ (PkgHead.ofBytes (startTag :: raw)).len.toNat)
    (junk : Nat → UInt8) :
    ∃ h', h.onGetHead junk = .ok h' ∧ Round h unfinished raw rest (h', none) := by
  obtain ⟨rfl, -⟩ : unfinished = [startTag] ∧ h.pkgBuffer = none := by
    simpa only [Matches, hstatus] using hmatch
  obtain ⟨rb, hread, hholds, hcap⟩ := RingBuffer.read_eq hrb
  rw [hraw] at hread
  have havail : sizeofPkgHead - 1 ≤ h.rb.getReadLen := by
    rw [hrb.getReadLen_eq, List.length_append]; omega
  set pkgHead := PkgHead.ofBytes (startTag :: raw) with hpkgHead
  have hwhole : (startTag :: raw).length = sizeofPkgHead := by simp [hraw, sizeofPkgHead]
  have himage : pkgHead.toBytes = startTag :: raw := PkgHead.toBytes_ofBytes hwhole
  set buffer : Block UInt8 :=
    (⟨pkgHead.len.toNat, junk⟩ : Block UInt8).overwrite 0 pkgHead.toBytes with hbuffer
  have hstore : Block.store (⟨pkgHead.len.toNat, junk⟩ : Block UInt8) 0 pkgHead.toBytes =
      .ok buffer :=
    Block.store_eq _ 0 _ (by simp only [PkgHead.length_toBytes]; omega)
  have hwindow : buffer.window 0 (startTag :: raw).length = startTag :: raw := by
    rw [← himage]
    exact Block.window_overwrite_same _ _ _
  have hscan := scan_unfinished [startTag] raw (by simp)
    (fun _ => by
      rw [List.singleton_append, ← hpkgHead, hwhole]
      simp only [sizeofPkgCRC] at hlen
      omega)
  refine ⟨{ h with
      rb := rb
      pkgHead := pkgHead
      pkgBuffer := some buffer
      pkgBufferIndex := sizeofPkgHead
      status := .getBody
      bodyLen := pkgHead.len.toUInt64 - 13 - 2 }, ?_, hholds, hcap, ?_, hscan.2, rfl⟩
  · simp only [onGetHead, havail, if_true, hread, ← hpkgHead, hstore, bind, Except.bind, pure,
      Except.pure]
  · rw [hscan.1, List.singleton_append]
    refine ⟨⟨buffer, rfl, rfl, hwindow⟩, ?_, Nat.le_of_eq hwhole.symm, rfl, ?_, ?_⟩
    · rw [hwhole]
    · rw [hwhole, toNat_bodyLen hlen]
      show _ = pkgHead.len.toNat
      omega
    · rw [hwhole]; simp [sizeofPkgHead]

/-- Appending to the bytes of a package that is received. -/
theorem window_store_unfinished {buffer : Block UInt8} {bytes : List UInt8}
    (hwindow : buffer.window 0 unfinished.length = unfinished) :
    (buffer.overwrite unfinished.length bytes).window 0 (unfinished ++ bytes).length =
      unfinished ++ bytes := by
  have happend := buffer.window_overwrite_append 0 unfinished.length bytes
  rw [Nat.zero_add, hwindow] at happend
  rw [List.length_append, happend]

/-- An `int` that did not overflow. -/
theorem wrapInt_eq {n : Nat} (h : n < 2 ^ 31) : wrapInt n = n := by
  unfold wrapInt
  rw [Int.bmod_eq_of_le] <;> omega

/-- `GetBody` takes as much of the body as there is. -/
theorem onGetBody_round {front rest : List UInt8} (hrb : h.rb.Holds (front ++ rest))
    (hfront : front.length = min (front ++ rest).length h.bodyLen.toNat)
    (hstatus : h.status = .getBody) (hrecv : h.Receiving unfinished)
    (hsmall : unfinished.length + front.length < 2 ^ 31) :
    ∃ h', h.onGetBody = .ok h' ∧ Round h unfinished front rest (h', none) ∧
      (front.length = h.bodyLen.toNat → h'.status = .getCRC) := by
  obtain ⟨⟨buffer, hbuffer, hsize, hwindow⟩, hindex, hhead, hheadEq, hlen, -⟩ := hrecv
  obtain ⟨rb, hread, hholds, hcap⟩ := RingBuffer.read_eq hrb
  have hreadLen : min h.rb.getReadLen h.bodyLen.toNat = front.length := by
    rw [hrb.getReadLen_eq, ← hfront]
  have hle : front.length ≤ h.bodyLen.toNat := hfront ▸ Nat.min_le_right _ _
  have hstore : buffer.store h.pkgBufferIndex front =
      .ok (buffer.overwrite unfinished.length front) := by
    rw [hindex]
    exact Block.store_eq _ _ _ (by omega)
  have hbodyLen : (h.bodyLen - UInt64.ofNat front.length).toNat =
      h.bodyLen.toNat - front.length := by
    have hlt := h.bodyLen.toNat_lt
    simp only [UInt64.toNat_sub, UInt64.toNat_ofNat']
    omega
  have hindex' : wrapInt (h.pkgBufferIndex + front.length) = (unfinished ++ front).length := by
    rw [hindex, List.length_append, ← Int.natCast_add, wrapInt_eq hsmall]
  have hheadEq' : PkgHead.ofBytes (unfinished ++ front) = h.pkgHead := by
    rw [PkgHead.ofBytes_append hhead, hheadEq]
  have hscan := scan_unfinished unfinished front
    (fun hnil => by rw [hnil] at hhead; simp [sizeofPkgHead] at hhead)
    (fun _ => by
      rw [hheadEq', List.length_append, ← hlen]
      simp only [sizeofPkgCRC]
      omega)
  refine ⟨{ h with
      rb := rb
      pkgBuffer := some (buffer.overwrite unfinished.length front)
      bodyLen := h.bodyLen - UInt64.ofNat front.length
      pkgBufferIndex := wrapInt (h.pkgBufferIndex + front.length)
      status := if h.bodyLen - UInt64.ofNat front.length = 0 then .getCRC else h.status },
    ?_, ⟨hholds, hcap, ?_, hscan.2, rfl⟩, fun hwhole => ?_⟩
  · simp only [onGetBody, hbuffer, hreadLen, hread, hstore, bind, Except.bind, pure, Except.pure]
  · rw [hscan.1]
    have hrecv' : Receiving { h with
        rb := rb
        pkgBuffer := some (buffer.overwrite unfinished.length front)
        bodyLen := h.bodyLen - UInt64.ofNat front.length
        pkgBufferIndex := wrapInt (h.pkgBufferIndex + front.length)
        status := if h.bodyLen - UInt64.ofNat front.length = 0 then .getCRC else h.status }
        (unfinished ++ front) := by
      refine ⟨⟨_, rfl, hsize, window_store_unfinished hwindow⟩, hindex', ?_, hheadEq', ?_, ?_⟩
      · rw [List.length_append]; omega
      · simp only [List.length_append, hbodyLen]; omega
      · rw [List.length_append]; exact hsmall
    by_cases hzero : h.bodyLen - UInt64.ofNat front.length = 0
    · simp only [Matches, hzero, if_true] at hrecv' ⊢
      exact ⟨hrecv', by simp⟩
    · simp only [Matches, hzero, if_false, hstatus] at hrecv' ⊢
      exact hrecv'
  · have hzero : h.bodyLen - UInt64.ofNat front.length = 0 := by
      apply UInt64.toNat_inj.mp
      rw [hbodyLen, hwhole, Nat.sub_self]
      rfl
    simp [hzero]

/-- `GetCRC` waits for a whole checksum. -/
theorem onGetCRC_wait (hrb : h.rb.Holds held) (hshort : held.length < sizeofPkgCRC) :
    h.onGetCRC = .ok (h, none) := by
  have hlen : ¬ sizeofPkgCRC ≤ h.rb.getReadLen := by rw [hrb.getReadLen_eq]; omega
  simp [onGetCRC, hlen, pure, Except.pure]

/-- `GetCRC` takes the checksum and hands the package to `pkgs` if it is right. -/
theorem onGetCRC_round {raw rest : List UInt8} (hrb : h.rb.Holds (raw ++ rest))
    (hraw : raw.length = sizeofPkgCRC) (hrecv : h.Receiving unfinished)
    (hbodyLen : h.bodyLen.toNat = 0) :
    ∃ result, h.onGetCRC = .ok result ∧ Round h unfinished raw rest result := by
  obtain ⟨⟨buffer, hbuffer, hsize, hwindow⟩, hindex, hhead, hheadEq, hlen, -⟩ := hrecv
  obtain ⟨rb, hread, hholds, hcap⟩ := RingBuffer.read_eq hrb
  rw [hraw] at hread
  have havail : sizeofPkgCRC ≤ h.rb.getReadLen := by
    rw [hrb.getReadLen_eq, List.length_append]; omega
  have hwhole : (unfinished ++ raw).length = h.pkgHead.len.toNat := by
    rw [List.length_append]; omega
  have hstore : buffer.store h.pkgBufferIndex raw =
      .ok (buffer.overwrite unfinished.length raw) := by
    rw [hindex]
    exact Block.store_eq _ _ _ (by omega)
  -- the buffer now holds the package that its bytes are read as
  set pkg := Pkg.ofBytes (unfinished ++ raw) with hpkg
  have himage : pkg.toBytes = unfinished ++ raw :=
    Pkg.toBytes_ofBytes (by rw [List.length_append]; omega)
  have hpkgHead : pkg.head = h.pkgHead := by
    rw [hpkg, Pkg.ofBytes, PkgHead.ofBytes_append hhead, hheadEq]
  have hwindow' : (buffer.overwrite unfinished.length raw).window 0 pkg.head.len.toNat =
      pkg.toBytes := by
    rw [hpkgHead, himage, ← hwhole, window_store_unfinished hwindow]
  have hsize' : pkg.head.len.toNat ≤ (buffer.overwrite unfinished.length raw).size := by
    rw [hpkgHead, Block.size_overwrite, hsize]
  have hpkgLen : pkg.head.len.toNat = sizeofPkgHead + pkg.body.length + sizeofPkgCRC := by
    rw [hpkgHead, ← hwhole, ← himage, Pkg.length_toBytes]
  have hunpack : unpack (buffer.overwrite unfinished.length raw) h.pkgHead.len {} =
      .ok (0, pkg) := hpkgHead ▸ unpack_eq hpkgLen hsize' hwindow'
  have hcovered : (buffer.overwrite unfinished.length raw).load 0 (h.pkgHead.len - 2).toNat =
      .ok pkg.covered := hpkgHead ▸ load_covered hpkgLen hsize' hwindow'
  have hcomplete : Complete (unfinished ++ raw) :=
    ⟨by rw [List.length_append]; omega,
      by rw [PkgHead.ofBytes_append hhead, hheadEq, hwhole]⟩
  have hscan := scan_complete unfinished raw
    (fun hnil => by rw [hnil] at hhead; simp [sizeofPkgHead] at hhead)
    (fun hnil => by rw [hnil] at hraw; simp [sizeofPkgCRC] at hraw) hcomplete
  rw [← hpkg] at hscan
  by_cases hcrc : crc16TabCCITT pkg.covered = pkg.crc.data
  · have hintact : pkg.intact = [pkg] := by simp [Pkg.intact, hcrc]
    refine ⟨({ reset { h with rb := rb } with pkgs := (h.pkgs.push pkg).1 },
      some ⟨pkg, h.pkgs.q, (h.pkgs.push pkg).2⟩), ?_, hholds, hcap, ?_, ?_, rfl, rfl⟩
    · simp only [onGetCRC, havail, if_true, hbuffer, hread, hstore, hunpack, hcovered, hcrc,
        bind, Except.bind, pure, Except.pure, ne_eq, not_true_eq_false, if_false, reset]
    · rw [hscan.1]
      exact ⟨rfl, rfl⟩
    · rw [hscan.2, hintact]
      rfl
  · have hintact : pkg.intact = [] := by simp [Pkg.intact, hcrc]
    refine ⟨(reset { h with rb := rb }, none), ?_, hholds, hcap, ?_, ?_, rfl⟩
    · simp only [onGetCRC, havail, if_true, hbuffer, hread, hstore, hunpack, hcovered, hcrc,
        bind, Except.bind, pure, Except.pure, ne_eq, not_true_eq_false, not_false_eq_true,
        if_false]
    · rw [hscan.1]
      exact ⟨rfl, rfl⟩
    · rw [hscan.2, hintact]
      rfl

/-- Without bytes to read, the state machine waits. -/
theorem waits_of_empty (hrb : h.rb.Holds []) : Waits h unfinished [] where
  idle junk := by simp [iterate, hrb.getReadLen_eq]
  quiet := rfl
  inside _ := rfl
  short := by simp [sizeofPkgHead]

/-- Bytes that do not complete a package are waited behind, if a round leaves them. -/
theorem waits_of_incomplete (hidle : ∀ junk, h.iterate junk = .ok (h, none))
    (hne : unfinished ≠ []) (hshort : held.length < sizeofPkgHead)
    (hlen : sizeofPkgHead ≤ (unfinished ++ held).length →
      (unfinished ++ held).length < (PkgHead.ofBytes (unfinished ++ held)).len.toNat) :
    Waits h unfinished held := by
  obtain ⟨hfinal, hemitted⟩ := scan_unfinished _ _ hne hlen
  refine ⟨hidle, hemitted, fun hdone => ?_, hshort⟩
  rw [hfinal] at hdone
  exact (List.append_eq_nil_iff.mp hdone).2

/-- A round takes some bytes from the front of `held` and does with them what `scan` does. If it
takes none, it goes on to the checksum or waits. -/
def Advances (h : MyTcpHandler) (unfinished held : List UInt8) (junk : Nat → UInt8) : Prop :=
  ∃ taken rest result, held = taken ++ rest ∧ h.iterate junk = .ok result ∧
    Round h unfinished taken rest result ∧
    (taken ≠ [] ∨ h.status = .getBody ∧ result.1.status = .getCRC ∨ Waits h unfinished held)

/-- A round that leaves everything waits. -/
theorem advances_of_waits (hrb : h.rb.Holds held) (hmatch : h.Matches unfinished)
    (hwaits : Waits h unfinished held) (junk : Nat → UInt8) : Advances h unfinished held junk :=
  ⟨[], held, (h, none), rfl, hwaits.idle junk, .refl hrb hmatch, .inr (.inr hwaits)⟩

/-- A round that takes as many bytes as a field of the package has. -/
theorem advances_of_field {count : Nat} (hcount : 0 < count) (hlong : count ≤ held.length)
    {junk : Nat → UInt8} {result : MyTcpHandler × Option Handed} (heq : h.iterate junk = .ok result)
    (hround : Round h unfinished (held.take count) (held.drop count) result) :
    Advances h unfinished held junk := by
  refine ⟨held.take count, held.drop count, result, (List.take_append_drop _ _).symm, heq, hround,
    .inl fun hnil => ?_⟩
  have hlength := congrArg List.length hnil
  rw [List.length_take, List.length_nil] at hlength
  omega

/-- A round in `Start` takes a byte. -/
theorem advances_start (hrb : h.rb.Holds held) (hmatch : h.Matches unfinished)
    (hempty : h.rb.getReadLen ≠ 0) (hstatus : h.status = .start) (junk : Nat → UInt8) :
    Advances h unfinished held junk := by
  have hlength : 0 < held.length := by rw [← hrb.getReadLen_eq]; omega
  obtain ⟨byte, rest, rfl⟩ := List.exists_cons_of_length_pos hlength
  obtain ⟨h', heq, hround⟩ := onStart_round hrb hstatus hmatch
  refine ⟨[byte], rest, (h', none), rfl, ?_, hround, .inl (by simp)⟩
  simp [iterate, hempty, hstatus, heq, bind, Except.bind, pure, Except.pure]

/-- A round in `GetHead` takes the rest of the header, or waits for it. -/
theorem advances_getHead (hrb : h.rb.Holds held) (hmatch : h.Matches unfinished)
    (hbounded : h.Bounded) (hempty : h.rb.getReadLen ≠ 0) (hstatus : h.status = .getHead)
    (junk : Nat → UInt8) : Advances h unfinished held junk := by
  by_cases hshort : held.length < sizeofPkgHead - 1
  · have hidle (junk : Nat → UInt8) : h.iterate junk = .ok (h, none) := by
      simp [iterate, hempty, hstatus, onGetHead_wait hrb hshort junk, bind, Except.bind, pure,
        Except.pure]
    obtain ⟨hstart, -⟩ : unfinished = [startTag] ∧ h.pkgBuffer = none := by
      simpa only [Matches, hstatus] using hmatch
    have hwaits : Waits h unfinished held :=
      waits_of_incomplete hidle (by simp [hstart]) (by omega) (fun hle => by
        rw [hstart, List.singleton_append, List.length_cons] at hle
        omega)
    exact advances_of_waits hrb hmatch hwaits junk
  · have hlong : sizeofPkgHead - 1 ≤ held.length := Nat.le_of_not_lt hshort
    have hraw : (held.take (sizeofPkgHead - 1)).length = sizeofPkgHead - 1 := by
      rw [List.length_take, Nat.min_eq_left hlong]
    rw [← List.take_append_drop (sizeofPkgHead - 1) held] at hrb
    obtain ⟨rb, hread, -, -⟩ := RingBuffer.read_eq hrb
    rw [hraw] at hread
    have hlen := hbounded.head hstatus rb _ hread
      (fun hnil => by rw [hnil] at hraw; simp [sizeofPkgHead] at hraw)
    obtain ⟨h', heq, hround⟩ := onGetHead_round hrb hraw hstatus hmatch hlen junk
    refine advances_of_field (by decide) hlong ?_ hround
    simp [iterate, hempty, hstatus, heq, bind, Except.bind, pure, Except.pure]

/-- A round in `GetBody` takes what there is of the body. -/
theorem advances_getBody (hrb : h.rb.Holds held) (hmatch : h.Matches unfinished)
    (hbounded : h.Bounded) (hempty : h.rb.getReadLen ≠ 0) (hstatus : h.status = .getBody)
    (junk : Nat → UInt8) : Advances h unfinished held junk := by
  have hlength : 0 < held.length := by rw [← hrb.getReadLen_eq]; omega
  have hrecv : h.Receiving unfinished := by simpa only [Matches, hstatus] using hmatch
  set front := held.take h.bodyLen.toNat with hfrontDef
  have hfront : front.length = min held.length h.bodyLen.toNat := by
    simp [hfrontDef, Nat.min_comm]
  have hsmall : unfinished.length + front.length < 2 ^ 31 := by
    have hbody := hbounded.body hstatus (by omega)
    rw [hrecv.index_eq, hrb.getReadLen_eq, ← hfront] at hbody
    omega
  rw [← List.take_append_drop h.bodyLen.toNat held, ← hfrontDef] at hrb hfront
  obtain ⟨h', heq, hround, hnext⟩ := onGetBody_round hrb hfront hstatus hrecv hsmall
  refine ⟨front, held.drop h.bodyLen.toNat, (h', none), (List.take_append_drop _ _).symm, ?_,
    hround, ?_⟩
  · simp [iterate, hempty, hstatus, heq, bind, Except.bind, pure, Except.pure]
  · rcases List.eq_nil_or_concat front with hnil | ⟨init, last, hconcat⟩
    · refine .inr (.inl ⟨hstatus, hnext ?_⟩)
      have hcount := congrArg List.length hnil
      rw [hfrontDef, List.length_take, List.length_nil] at hcount
      rw [hnil, List.length_nil]
      omega
    · exact .inl (by simp [hconcat])

/-- A round in `GetCRC` takes the checksum, or waits for it. -/
theorem advances_getCRC (hrb : h.rb.Holds held) (hmatch : h.Matches unfinished)
    (hempty : h.rb.getReadLen ≠ 0) (hstatus : h.status = .getCRC) (junk : Nat → UInt8) :
    Advances h unfinished held junk := by
  obtain ⟨hrecv, hbodyLen⟩ : h.Receiving unfinished ∧ h.bodyLen.toNat = 0 := by
    simpa only [Matches, hstatus] using hmatch
  by_cases hshort : held.length < sizeofPkgCRC
  · have hidle (junk : Nat → UInt8) : h.iterate junk = .ok (h, none) := by
      simp [iterate, hempty, hstatus, onGetCRC_wait hrb hshort]
    have hwaits : Waits h unfinished held :=
      waits_of_incomplete hidle
        (fun hnil => by
          have hhead := hrecv.head_le
          rw [hnil] at hhead
          simp [sizeofPkgHead] at hhead)
        (by simp only [sizeofPkgHead, sizeofPkgCRC] at hshort ⊢; omega)
        (fun _ => by
          rw [PkgHead.ofBytes_append hrecv.head_le, hrecv.head_eq, ← hrecv.len_eq,
            List.length_append]
          omega)
    exact advances_of_waits hrb hmatch hwaits junk
  · have hlong : sizeofPkgCRC ≤ held.length := Nat.le_of_not_lt hshort
    have hraw : (held.take sizeofPkgCRC).length = sizeofPkgCRC := by
      rw [List.length_take, Nat.min_eq_left hlong]
    rw [← List.take_append_drop sizeofPkgCRC held] at hrb
    obtain ⟨result, heq, hround⟩ := onGetCRC_round hrb hraw hrecv hbodyLen
    refine advances_of_field (by decide) hlong ?_ hround
    simp [iterate, hempty, hstatus, heq]

/-- One round of the state machine takes some bytes and does with them what `scan` does. If it
takes none, it goes on to the checksum or waits. -/
theorem iterate_round (hrb : h.rb.Holds held) (hmatch : h.Matches unfinished)
    (hbounded : h.Bounded) (junk : Nat → UInt8) :
    ∃ taken rest result, held = taken ++ rest ∧ h.iterate junk = .ok result ∧
      Round h unfinished taken rest result ∧
      (taken ≠ [] ∨ h.status = .getBody ∧ result.1.status = .getCRC ∨
        Waits h unfinished held) := by
  have hadvances : Advances h unfinished held junk := by
    by_cases hempty : h.rb.getReadLen = 0
    · obtain rfl : held = [] := by rwa [hrb.getReadLen_eq, List.length_eq_zero_iff] at hempty
      exact advances_of_waits hrb hmatch (waits_of_empty hrb) junk
    · cases hstatus : h.status with
      | start => exact advances_start hrb hmatch hempty hstatus junk
      | getHead => exact advances_getHead hrb hmatch hbounded hempty hstatus junk
      | getBody => exact advances_getBody hrb hmatch hbounded hempty hstatus junk
      | getCRC => exact advances_getCRC hrb hmatch hempty hstatus junk
  exact hadvances

end MyTcpHandler

end RVDataFusionServer
