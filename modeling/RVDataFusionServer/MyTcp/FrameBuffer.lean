import RVDataFusionServer.MyTcp.Reassembly

/-!
# Writes to the package buffer

`FrameBufferSafe` says that the state machine has not left its package buffer and that the
counters still describe it. The length in a received header is not checked, so that this depends on
the peer: `always_frameBufferSafe_iff` gives the exact condition, for every run.
-/

namespace RVDataFusionServer

open Library Execution

namespace MyTcpHandler

/-- No write has left the package buffer. It has the length in the header, `pkgBufferIndex` is
inside it, and while the body is read the index, `bodyLen` and the checksum add up to it. -/
def FrameBufferSafe : Except Fault MyTcpHandler → Prop
  | .error _ => False
  | .ok h =>
      (∀ pkgBuffer, h.pkgBuffer = some pkgBuffer →
        pkgBuffer.size = h.pkgHead.len.toNat ∧ 0 ≤ h.pkgBufferIndex ∧
          h.pkgBufferIndex ≤ h.pkgHead.len.toNat) ∧
      (h.status = .getBody →
        h.pkgBufferIndex + h.bodyLen.toNat + sizeofPkgCRC = h.pkgHead.len.toNat)

/-- The handler follows some run. -/
def Regular (state : Except Fault MyTcpHandler) : Prop :=
  ∃ h bytes handed popped, state = .ok h ∧ h.Follows bytes handed popped

/-- A regular handler is safe. -/
theorem Regular.safe {state : Except Fault MyTcpHandler} (hreg : Regular state) :
    FrameBufferSafe state := by
  obtain ⟨h, bytes, handed, popped, rfl, hf⟩ := hreg
  obtain ⟨consumed, held, -, -, hmatch, -⟩ := hf.reading
  have hreceiving : h.Receiving (unfinished consumed) →
      (∀ pkgBuffer, h.pkgBuffer = some pkgBuffer →
        pkgBuffer.size = h.pkgHead.len.toNat ∧ 0 ≤ h.pkgBufferIndex ∧
          h.pkgBufferIndex ≤ h.pkgHead.len.toNat) ∧
      h.pkgBufferIndex + h.bodyLen.toNat + sizeofPkgCRC = h.pkgHead.len.toNat := by
    rintro ⟨⟨buffer, hbuffer, hsize, -⟩, hindex, -, -, hlen, -⟩
    refine ⟨fun pkgBuffer hsome => ?_, by omega⟩
    obtain rfl : buffer = pkgBuffer := Option.some.inj (hbuffer.symm.trans hsome)
    exact ⟨hsize, by omega, by omega⟩
  cases hstatus : h.status with
  | start =>
      obtain ⟨-, hnone⟩ : _ ∧ h.pkgBuffer = none := by simpa only [Matches, hstatus] using hmatch
      exact ⟨by simp [hnone], by simp [hstatus]⟩
  | getHead =>
      obtain ⟨-, hnone⟩ : _ ∧ h.pkgBuffer = none := by simpa only [Matches, hstatus] using hmatch
      exact ⟨by simp [hnone], by simp [hstatus]⟩
  | getBody =>
      obtain ⟨hbuffer, hsum⟩ := hreceiving (by simpa only [Matches, hstatus] using hmatch)
      exact ⟨hbuffer, fun _ => hsum⟩
  | getCRC =>
      obtain ⟨hrecv, -⟩ : h.Receiving (unfinished consumed) ∧ h.bodyLen.toNat = 0 := by
        simpa only [Matches, hstatus] using hmatch
      exact ⟨(hreceiving hrecv).1, by simp [hstatus]⟩

/-- A header whose length is too small for a header and a checksum is not survived. -/
theorem unsafe_of_short_header {h : MyTcpHandler} {raw rest : List UInt8}
    (hrb : h.rb.Holds (raw ++ rest)) (hraw : raw.length = sizeofPkgHead - 1)
    (hstatus : h.status = .getHead)
    (hshort : (PkgHead.ofBytes (startTag :: raw)).len.toNat < sizeofPkgHead + sizeofPkgCRC)
    (junk : Nat → UInt8) : ¬ FrameBufferSafe (step (.ok h) (.iterate junk)).1 := by
  obtain ⟨rb, hread, -, -⟩ := RingBuffer.read_eq hrb
  rw [hraw] at hread
  have havail : sizeofPkgHead - 1 ≤ h.rb.getReadLen := by
    rw [hrb.getReadLen_eq, List.length_append]; omega
  have hnonempty : h.rb.getReadLen ≠ 0 := by simp only [sizeofPkgHead] at havail; omega
  set pkgHead := PkgHead.ofBytes (startTag :: raw) with hpkgHead
  by_cases hfits : sizeofPkgHead ≤ pkgHead.len.toNat
  · -- the header fits, but the body length wraps
    have hstore : Block.store (⟨pkgHead.len.toNat, junk⟩ : Block UInt8) 0 pkgHead.toBytes =
        .ok ((⟨pkgHead.len.toNat, junk⟩ : Block UInt8).overwrite 0 pkgHead.toBytes) :=
      Block.store_eq _ 0 _ (by simp only [PkgHead.length_toBytes]; omega)
    have hwrap : (pkgHead.len.toUInt64 - 13 - 2).toNat =
        2 ^ 64 - (sizeofPkgHead + sizeofPkgCRC - pkgHead.len.toNat) := by
      simp only [sizeofPkgHead, sizeofPkgCRC] at hfits hshort ⊢
      simp only [UInt64.toNat_sub, UInt32.toNat_toUInt64, UInt64.reduceToNat]
      omega
    rintro hsafe
    simp only [step, act, iterate, hnonempty, if_false, hstatus, onGetHead, havail, if_true, hread,
      ← hpkgHead, hstore, bind, Except.bind, pure, Except.pure, FrameBufferSafe] at hsafe
    have hsum := hsafe.2 trivial
    rw [hwrap] at hsum
    simp only [sizeofPkgHead, sizeofPkgCRC] at hsum hfits hshort
    omega
  · -- the header does not fit into the new package buffer
    have hstore : Block.store (⟨pkgHead.len.toNat, junk⟩ : Block UInt8) 0 pkgHead.toBytes =
        .error .outOfBounds :=
      Block.store_eq_error (.inr (by
        simp only [PkgHead.length_toBytes]
        omega))
    simp [step, act, iterate, hnonempty, hstatus, onGetHead, havail, hread, ← hpkgHead, hstore,
      bind, Except.bind, FrameBufferSafe]

/-- An `int` that overflowed is negative. -/
theorem wrapInt_neg {n : Nat} (hlow : 2 ^ 31 ≤ n) (hhigh : n < 2 ^ 32) : wrapInt n < 0 := by
  have hbmod : Int.bmod (n : Int) (2 ^ 32) = n - 2 ^ 32 := by
    have hsub := Int.sub_bmod_right (n : Int) (2 ^ 32)
    rw [← hsub]
    exact Int.bmod_eq_of_le (by omega) (by omega)
  rw [wrapInt, hbmod]
  omega

/-- A body that reaches a position that is not an `int` is not survived. -/
theorem unsafe_of_long_body {h : MyTcpHandler} {bytes held : List UInt8}
    (hrb : h.rb.Holds held) (hpos : 0 < held.length) (hstatus : h.status = .getBody)
    (hrecv : h.Receiving bytes)
    (hlong : 2 ^ 31 ≤ bytes.length + min held.length h.bodyLen.toNat)
    (junk : Nat → UInt8) : ¬ FrameBufferSafe (step (.ok h) (.iterate junk)).1 := by
  obtain ⟨⟨buffer, hbuffer, hsize, -⟩, hindex, -, -, hlen, -⟩ := hrecv
  set front := held.take h.bodyLen.toNat with hfrontDef
  have hfront : front.length = min held.length h.bodyLen.toNat := by
    simp [hfrontDef, Nat.min_comm]
  have hreadLen : min h.rb.getReadLen h.bodyLen.toNat = front.length := by
    rw [hrb.getReadLen_eq, hfront]
  have hnonempty : h.rb.getReadLen ≠ 0 := by rw [hrb.getReadLen_eq]; omega
  rw [← List.take_append_drop h.bodyLen.toNat held, ← hfrontDef] at hrb
  obtain ⟨rb, hread, -, -⟩ := RingBuffer.read_eq hrb
  have hstore : buffer.store h.pkgBufferIndex front =
      .ok (buffer.overwrite bytes.length front) := by
    rw [hindex]
    exact Block.store_eq _ _ _ (by omega)
  have hneg : wrapInt (h.pkgBufferIndex + front.length) < 0 := by
    have hlt := h.pkgHead.len.toNat_lt
    rw [hindex, ← Int.natCast_add]
    exact wrapInt_neg (by omega) (by omega)
  intro hsafe
  simp only [step, act, iterate, hnonempty, if_false, hstatus, onGetBody, hbuffer, hreadLen, hread,
    hstore, bind, Except.bind, pure, Except.pure, FrameBufferSafe] at hsafe
  have hinside := (hsafe.1 _ rfl).2.1
  omega

/-- A regular handler is not safe after a step that takes the counters out of range. -/
theorem Regular.unsafe_of_not_admits {state : Except Fault MyTcpHandler} {input : Input}
    (hreg : Regular state) (hbad : ¬ Admits state input) :
    ¬ FrameBufferSafe (step state input).1 := by
  obtain ⟨h, bytes, handed, popped, rfl, hf⟩ := hreg
  cases input with
  | write data => exact absurd trivial hbad
  | pop => exact absurd trivial hbad
  | iterate junk =>
      obtain ⟨consumed, held, -, hrb, hmatch, -⟩ := hf.reading
      intro hsafe
      refine hbad ⟨fun hstatus rb raw hread hne => ?_, fun hstatus hpos => ?_⟩
      · by_contra hshort
        by_cases hwait : held.length < sizeofPkgHead - 1
        · rw [RingBuffer.read_refused hrb hwait] at hread
          cases hread
          exact hne rfl
        have hcut := List.take_append_drop (sizeofPkgHead - 1) held
        have hcount : (held.take (sizeofPkgHead - 1)).length = sizeofPkgHead - 1 := by
          rw [List.length_take]; omega
        rw [← hcut] at hrb
        obtain ⟨rb', hread', -, -⟩ := RingBuffer.read_eq hrb
        rw [hcount, hread] at hread'
        obtain ⟨-, rfl⟩ := Prod.mk.inj (Except.ok.inj hread')
        exact unsafe_of_short_header hrb hcount hstatus (Nat.lt_of_not_le hshort) junk hsafe
      · by_contra hlong
        have hrecv : h.Receiving (unfinished consumed) := by
          simpa only [Matches, hstatus] using hmatch
        rw [hrb.getReadLen_eq] at hpos hlong
        rw [hrecv.index_eq] at hlong
        exact unsafe_of_long_body hrb hpos hstatus hrecv (by omega) junk hsafe

/-- The package buffer contains every write of a run if and only if the run keeps the counters in
range: every header that the state machine reads has a length of at least 15, and it reads no
piece of a body past position `2 ^ 31 - 1`. -/
theorem always_frameBufferSafe_iff (junk : Nat → UInt8) (inputs : List Input) :
    Always step FrameBufferSafe (.ok (new junk)) inputs ↔
      Allowed step Admits (.ok (new junk)) inputs := by
  refine always_iff_allowed Regular (fun _ hreg => hreg.safe) ?_
    (fun _ _ hreg hbad => hreg.unsafe_of_not_admits hbad) ⟨_, _, _, _, rfl, follows_new junk⟩ inputs
  rintro state input ⟨h, bytes, handed, popped, rfl, hf⟩ hadmits
  obtain ⟨h', event, heq, hf'⟩ := act_follows input hf hadmits
  rw [step_eq heq]
  exact ⟨h', _, _, _, rfl, hf'⟩

/-- A header with the length 0 is copied into a package buffer of no bytes. -/
theorem header_of_length_zero :
    ¬ Always step FrameBufferSafe (.ok (new fun _ => 0))
      [.write [0x24, 1, 5, 0, 0, 0, 0, 0, 0, 0, 0, 0, 0], .iterate fun _ => 0,
        .iterate fun _ => 0] := by
  intro hsafe
  have hlast := (always_iff _ _).mp hsafe 3
  have hfault : final step (.ok (new fun _ => 0))
      [.write [0x24, 1, 5, 0, 0, 0, 0, 0, 0, 0, 0, 0, 0], .iterate fun _ => 0,
        .iterate fun _ => 0] = .error .outOfBounds := rfl
  rw [List.take_of_length_le (by simp), hfault] at hlast
  exact hlast

end MyTcpHandler

end RVDataFusionServer
