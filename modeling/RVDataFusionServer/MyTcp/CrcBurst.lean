import RVDataFusionServer.Common.CrcAgreement
import RVDataFusionServer.MyTcp.Reassembly

/-!
# Short bursts of errors

The register of `Crc16TabCCITT` determines the two bytes behind a common front, and bytes behind
them cannot hide a difference. `crc16TabCCITT_detects_burst` says so, with what it means for a
package that was damaged in this way: the round with its checksum hands nothing to `pkgs`, and
neither does the run that the package arrives in. The state machine finds a package by its start
mark and cuts it off at its length, both of which the checksum covers. `burst_accepted` shows why
these two have to arrive as they were sent.
-/

namespace RVDataFusionServer

open Library Execution ShiftRegister

/-- The texts differ in at most two bytes, and these are neighbours. -/
def ShortBurst (sent damaged : List UInt8) : Prop :=
  ∃ i, ∀ j, sent[j]? ≠ damaged[j]? → j = i ∨ j = i + 1

/-- The loop of `Crc16TabCCITT` runs a shift register. -/
theorem toBitVec_foldl_crc16TabCCITTStep (data : List UInt8) (crc : UInt16) :
    (data.foldl crc16TabCCITTStep crc).toBitVec =
      (data.map UInt8.toBitVec).foldl (byteDown 0x8408) crc.toBitVec := by
  rw [List.foldl_map]
  apply Eq.symm
  apply List.foldl_hom UInt16.toBitVec
  intro crc byte
  exact (toBitVec_crc16TabReversed (crc16CalReverse 0x1021)
    crcTabCrc16Poly0x1021Ref1_eq
    crc byte).symm

/-- Two texts that differ by a short burst have different checksums. -/
theorem eq_of_crc16TabCCITT_eq {sent damaged : List UInt8}
    (hlength : sent.length = damaged.length) (hburst : ShortBurst sent damaged)
    (h : crc16TabCCITT sent = crc16TabCCITT damaged) : sent = damaged := by
  obtain ⟨i, hburst⟩ := hburst
  have hregister := congrArg UInt16.toBitVec h
  rw [crc16TabCCITT, crc16TabCCITT, toBitVec_foldl_crc16TabCCITTStep,
    toBitVec_foldl_crc16TabCCITTStep] at hregister
  have hsame : sent.map UInt8.toBitVec = damaged.map UInt8.toBitVec := by
    refine eq_of_burst (by decide) (by decide) (i := i) ?_ ?_ hregister
    · rw [List.length_map, List.length_map, hlength]
    · intro j hne
      apply hburst j
      intro heq
      rw [List.getElem?_map, List.getElem?_map, heq] at hne
      exact hne rfl
  exact List.map_injective_iff.mpr (fun _ _ => UInt8.toBitVec_inj.mp) hsame

/-- The header of the damaged bytes has the start mark and the length of the sent one. -/
def CutAlike (sent damaged : List UInt8) : Prop :=
  (PkgHead.ofBytes damaged).tag = (PkgHead.ofBytes sent).tag ∧
    (PkgHead.ofBytes damaged).len = (PkgHead.ofBytes sent).len

/-- The parts of a package that is read from the bytes of its header and its body, and those of
its checksum. -/
theorem Pkg.parts_ofBytes {covered : List UInt8} (hhead : sizeofPkgHead ≤ covered.length)
    (crc : PkgCRC) :
    (Pkg.ofBytes (covered ++ crc.toBytes)).covered = covered ∧
      (Pkg.ofBytes (covered ++ crc.toBytes)).crc = crc := by
  have himage : (Pkg.ofBytes (covered ++ crc.toBytes)).toBytes = covered ++ crc.toBytes :=
    Pkg.toBytes_ofBytes (by rw [List.length_append, PkgCRC.length_toBytes]; omega)
  obtain ⟨hcovered, hcrc⟩ := List.append_inj' himage rfl
  refine ⟨hcovered, ?_⟩
  rw [← PkgCRC.ofBytes_toBytes (Pkg.ofBytes (covered ++ crc.toBytes)).crc, hcrc,
    PkgCRC.ofBytes_toBytes]

/-- A package whose checksum is not that of the bytes in front of it is not intact. -/
theorem Pkg.intact_ofBytes_of_ne {covered : List UInt8} (hhead : sizeofPkgHead ≤ covered.length)
    {crc : PkgCRC} (hcrc : crc.data ≠ crc16TabCCITT covered) :
    (Pkg.ofBytes (covered ++ crc.toBytes)).intact = [] := by
  obtain ⟨hcovered, hdata⟩ := Pkg.parts_ofBytes hhead crc
  rw [Pkg.intact, hcovered, hdata, if_neg hcrc.symm]

/-- A package that is cut like a framed one is framed. -/
theorem Pkg.Framed.of_cutAlike {pkg : Pkg} (h : pkg.Framed) {damaged : List UInt8}
    (hlength : pkg.covered.length = damaged.length) (halike : CutAlike pkg.covered damaged) :
    (Pkg.ofBytes (damaged ++ pkg.crc.toBytes)).Framed := by
  have hcovered := pkg.length_covered
  have hhead : sizeofPkgHead ≤ damaged.length := by omega
  have hsame : PkgHead.ofBytes pkg.covered = pkg.head := PkgHead.ofBytes_toBytes _ _
  have hread : (Pkg.ofBytes (damaged ++ pkg.crc.toBytes)).head = PkgHead.ofBytes damaged :=
    PkgHead.ofBytes_append hhead _
  have hbody := congrArg List.length (Pkg.parts_ofBytes hhead pkg.crc).1
  rw [Pkg.length_covered] at hbody
  obtain ⟨htag, hlen⟩ := halike
  rw [hsame] at htag hlen
  have hlenEq := h.len_eq
  refine ⟨?_, ?_, ?_⟩
  · rw [hread, htag]; exact h.tag_eq
  · rw [hread, hlen]; omega
  · rw [hread, hlen]; exact h.len_lt

namespace MyTcpHandler

/-- Without bytes of a package the state machine waits for a start mark. -/
theorem Matches.status_of_nil {h : MyTcpHandler} (hmatch : h.Matches []) : h.status = .start := by
  rw [Matches] at hmatch
  cases hstatus : h.status with
  | start => rfl
  | getHead =>
      rw [hstatus] at hmatch
      cases hmatch.1
  | getBody =>
      rw [hstatus] at hmatch
      cases hmatch.head_le
  | getCRC =>
      rw [hstatus] at hmatch
      cases hmatch.1.head_le

/-- A package whose checksum is not that of its header and its body is dropped. -/
theorem iterate_rejects {h : MyTcpHandler} {covered rest : List UInt8} {crc : PkgCRC}
    (hstatus : h.status = .getCRC) (hmatch : h.Matches covered)
    (hrb : h.rb.Holds (crc.toBytes ++ rest)) (hcrc : crc.data ≠ crc16TabCCITT covered)
    (junk : Nat → UInt8) :
    ∃ h', h.iterate junk = .ok (h', none) ∧ h'.pkgs = h.pkgs ∧ h'.status = .start ∧
      h'.rb.Holds rest := by
  have hrecv : h.Receiving covered ∧ h.bodyLen.toNat = 0 := by
    rw [Matches, hstatus] at hmatch
    exact hmatch
  have hlen := crc.length_toBytes
  obtain ⟨⟨h', handed⟩, heq, hround⟩ := onGetCRC_round hrb hlen hrecv.1 hrecv.2
  have hne : h.rb.getReadLen ≠ 0 := by
    rw [hrb.getReadLen_eq, List.length_append, hlen]
    exact Nat.ne_of_gt (Nat.lt_of_lt_of_le (by decide) (Nat.le_add_right _ _))
  obtain ⟨-, -, hhead, hheadEq, hpkgLen, -⟩ := hrecv.1
  have hcomplete : Complete (covered ++ crc.toBytes) := by
    refine ⟨?_, ?_⟩
    · rw [List.length_append]
      omega
    · rw [PkgHead.ofBytes_append hhead, hheadEq, List.length_append, hlen]
      omega
  have hscan := scan_complete covered crc.toBytes
    (fun hnil => by rw [hnil] at hhead; simp [sizeofPkgHead] at hhead)
    (fun hnil => by rw [hnil] at hlen; simp [sizeofPkgCRC] at hlen) hcomplete
  have hnone : handed = none := by
    have hemits := hround.emits
    rw [hscan.2, Pkg.intact_ofBytes_of_ne hhead hcrc] at hemits
    cases handed with
    | none => rfl
    | some handed => cases hemits
  have hstart : h'.status = .start := by
    have hstate := hround.state
    rw [hscan.1] at hstate
    exact hstate.status_of_nil
  refine ⟨h', ?_, ?_, hstart, hround.holds⟩
  · rw [iterate, if_neg hne, hstatus]
    rw [hnone] at heq
    exact heq
  · have hpushed := hround.pushed
    rw [hnone] at hpushed
    exact hpushed

/-- Between two streams, a framed package that is not intact is skipped. -/
theorem scan_between {pkg : Pkg} (hframed : pkg.Framed) (hintact : pkg.intact = [])
    (before after : List StreamItem) :
    packages (stream before ++ pkg.toBytes ++ stream after) = frames before ++ frames after ∧
      Allowed scan InRange [] (stream before ++ pkg.toBytes ++ stream after) := by
  obtain ⟨hbefore, hpackages, hrange⟩ := scan_stream before
  obtain ⟨-, hpackages', hrange'⟩ := scan_stream after
  obtain ⟨hfinal, hemitted, hpkg⟩ := scan_pkg hframed
  have hfront : final scan [] (stream before ++ pkg.toBytes) = [] := by
    rw [final_append]
    exact (congrArg (final scan · pkg.toBytes) hbefore).trans hfinal
  refine ⟨?_, ?_⟩
  · rw [packages_append, unfinished, hfront, packages_append, hbefore, hemitted, hintact,
      List.append_nil, hpackages]
    exact congrArg _ hpackages'
  · rw [allowed_append, allowed_append, hfront]
    exact ⟨⟨hrange, by rw [show final scan [] (stream before) = [] from hbefore]; exact hpkg⟩,
      hrange'⟩

/-- **Short bursts are detected**: texts of one length that differ in one byte or in two
neighbouring ones have different checksums, so the state machine drops a package that it holds
with such a damage in front of its checksum. It does hold a package that arrives with its start
mark and its length, so that of the stream around such a package it hands over the frames, and
nothing else. -/
theorem crc16TabCCITT_detects_burst {sent damaged : List UInt8}
    (hlength : sent.length = damaged.length) (hne : sent ≠ damaged)
    (hburst : ShortBurst sent damaged) :
    crc16TabCCITT sent ≠ crc16TabCCITT damaged ∧
      (∀ (h : MyTcpHandler) (rest : List UInt8) (junk : Nat → UInt8),
        h.status = .getCRC → h.Matches damaged →
        h.rb.Holds ((PkgCRC.mk (crc16TabCCITT sent)).toBytes ++ rest) →
        ∃ h', h.iterate junk = .ok (h', none) ∧ h'.pkgs = h.pkgs ∧ h'.status = .start ∧
          h'.rb.Holds rest) ∧
      ∀ pkg : Pkg, pkg.Sent → pkg.covered = sent → CutAlike sent damaged →
        ∀ (junk : Nat → UInt8) (before after : List StreamItem) (inputs : List Input),
          received (.ok (new junk)) inputs =
            stream before ++ (damaged ++ pkg.crc.toBytes) ++ stream after →
          ∃ h, final step (.ok (new junk)) inputs = .ok h ∧
            (handedOver (.ok (new junk)) inputs).map Handed.pkg <+: frames before ++ frames after ∧
            (h.rb.getReadLen = 0 → (handedOver (.ok (new junk)) inputs).map Handed.pkg =
              frames before ++ frames after) := by
  have hcrc : crc16TabCCITT sent ≠ crc16TabCCITT damaged :=
    fun hsame => hne (eq_of_crc16TabCCITT_eq hlength hburst hsame)
  refine ⟨hcrc, ?_, ?_⟩
  · intro h rest junk hstatus hmatch hrb
    exact iterate_rejects hstatus hmatch hrb hcrc junk
  · rintro pkg hsent rfl halike junk before after inputs hreceived
    have hhead : sizeofPkgHead ≤ damaged.length := by
      rw [← hlength, Pkg.length_covered]
      exact Nat.le_add_right _ _
    have himage : (Pkg.ofBytes (damaged ++ pkg.crc.toBytes)).toBytes =
        damaged ++ pkg.crc.toBytes :=
      Pkg.toBytes_ofBytes (by rw [List.length_append, PkgCRC.length_toBytes]; omega)
    have hintact := Pkg.intact_ofBytes_of_ne hhead (hsent.crc_eq ▸ hcrc)
    obtain ⟨hpackages, hrange⟩ :=
      scan_between (hsent.toFramed.of_cutAlike hlength halike) hintact before after
    rw [himage, ← hreceived] at hpackages hrange
    obtain ⟨h, hfinal, -, hprefix, hall⟩ := run_of_inRange hrange
    rw [hpackages] at hprefix hall
    exact ⟨h, hfinal, hprefix, hall⟩

/-- Bytes that arrive in one write, and the rounds that read them. -/
def arrival (bytes : List UInt8) (rounds : Nat) : List Input :=
  .write bytes :: List.replicate rounds (.iterate fun _ => 0)

/-- `emptyObject` with a damaged `sn`. -/
def damagedObject : List UInt8 := [0x24, 1, 5, 0x13, 0x07, 0, 0, 0, 0, 17, 0, 0, 0, 0x7B, 0x7D]

theorem crc16TabCCITT_detects_burst_sn :
    ∃ h, final step (.ok (new fun _ => 0))
        (arrival (damagedObject ++ emptyObject.crc.toBytes) 4) = .ok h ∧
      (h.rb.getReadLen = 0 → (handedOver (.ok (new fun _ => 0))
        (arrival (damagedObject ++ emptyObject.crc.toBytes) 4)).map Handed.pkg = []) := by
  have hburst : ShortBurst emptyObject.covered damagedObject := by
    refine ⟨3, ?_⟩
    intro j
    obtain hj | hj := Nat.lt_or_ge j 15
    · revert j
      decide
    · rw [List.getElem?_eq_none hj, List.getElem?_eq_none hj]
      exact fun hne => absurd rfl hne
  have hdetects := crc16TabCCITT_detects_burst (by decide) (by decide) hburst
  obtain ⟨h, hfinal, -, hall⟩ := hdetects.2.2 emptyObject sent_emptyObject rfl ⟨rfl, rfl⟩
    (fun _ => 0) [] [] (arrival (damagedObject ++ emptyObject.crc.toBytes) 4) (by decide +kernel)
  exact ⟨h, hfinal, hall⟩

/-- A package with an empty body. -/
def emptyBody : Pkg := ⟨⟨0x24, 1, 2, 0, 0, 15⟩, [], ⟨16282⟩⟩

/-- A package whose body is the checksum of `emptyBody`. -/
def shortened : Pkg := ⟨⟨0x24, 1, 2, 0, 0, 17⟩, emptyBody.crc.toBytes, ⟨31506⟩⟩

/-- A package whose body is `emptyBody`. -/
def nested : Pkg := ⟨⟨0x24, 1, 2, 0, 0, 30⟩, emptyBody.toBytes, ⟨24443⟩⟩

/-- With its length damaged to 15, `shortened` is taken for `emptyBody`. With its start mark
damaged, `nested` is not seen as a package, and the one in its body is. -/
theorem burst_accepted :
    (shortened.Sent ∧
      (∃ damaged, damaged.length = shortened.covered.length ∧ ShortBurst shortened.covered damaged ∧
        damaged ≠ shortened.covered ∧
        (handedOver (.ok (new fun _ => 0))
          (arrival (damaged ++ shortened.crc.toBytes) 4)).map Handed.pkg = [emptyBody])) ∧
    (nested.Sent ∧
      (∃ damaged, damaged.length = nested.covered.length ∧ ShortBurst nested.covered damaged ∧
        damaged ≠ nested.covered ∧
        (handedOver (.ok (new fun _ => 0))
          (arrival (damaged ++ nested.crc.toBytes) 17)).map Handed.pkg = [emptyBody])) := by
  refine ⟨⟨Pkg.Framed.sent ⟨rfl, rfl, by decide⟩ (by decide +kernel), ?_⟩,
    ⟨Pkg.Framed.sent ⟨rfl, rfl, by decide⟩ (by decide +kernel), ?_⟩⟩
  · refine ⟨shortened.covered.set 9 15, rfl, ⟨9, ?_⟩, by decide, by decide +kernel⟩
    intro j hne
    exact .inl (Eq.symm (by_contra fun hj => hne (List.getElem?_set_ne hj).symm))
  · refine ⟨nested.covered.set 0 0x25, rfl, ⟨0, ?_⟩, by decide, by decide +kernel⟩
    intro j hne
    exact .inl (Eq.symm (by_contra fun hj => hne (List.getElem?_set_ne hj).symm))

end MyTcpHandler

end RVDataFusionServer
