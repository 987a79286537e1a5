import RVDataFusionServer.MyTcp.Client

/-!
# What a reconnect leaves behind

`FreshAfter` is what a client should do behind a reconnect: deliver every frame of the new
connection, whatever the old one left behind. `freshAfter_iff` says that the client does so only
if the old connection left no package unfinished.
-/

namespace RVDataFusionServer

open Library Execution

/-! ## Frames that an unfinished package swallows -/

/-- A package with an empty body, as it is sent. -/
def bareFrame (cmd : UInt8) : Pkg :=
  Pkg.packed { head := { version := 1, cmd := cmd, len := 15 } }

theorem sent_bareFrame (cmd : UInt8) : (bareFrame cmd).Sent :=
  Pkg.Framed.sent ⟨rfl, rfl, by simp [bareFrame, Pkg.packed]⟩ rfl

theorem length_bareFrame (cmd : UInt8) : (bareFrame cmd).toBytes.length = 15 := by
  rw [Pkg.length_toBytes]
  rfl

/-- Behind its first byte, neither of two bare frames has a start mark. -/
theorem startTag_notMem_tail {cmd : UInt8} (hcmd : cmd = 5 ∨ cmd = 6) :
    startTag ∉ (bareFrame cmd).toBytes.tail := by
  rcases hcmd with rfl | rfl
  · decide +kernel
  · decide +kernel

/-- A header whose last byte is not zero has a large length. -/
theorem large_of_last_byte {init : List UInt8} (last : UInt8) (hinit : init.length = 12)
    (hlast : last ≠ 0) : 2 ^ 24 ≤ (PkgHead.ofBytes (init ++ [last])).len.toNat := by
  have hcut : ((init ++ [last]).drop 9).take 4 = init.drop 9 ++ [last] := by
    rw [List.drop_append_of_le_length (by omega), List.take_of_length_le (by simp; omega)]
  have hpos : 1 ≤ last.toNat := Nat.one_le_iff_ne_zero.mpr fun hzero => hlast (by
    apply UInt8.toNat_inj.mp
    simpa using hzero)
  have hlow : (init.drop 9).length = 3 := by simp [hinit]
  have hlt : ofLE (init.drop 9 ++ [last]) < 2 ^ 32 := by
    have hbound := ofLE_lt (init.drop 9 ++ [last])
    simpa [hinit] using hbound
  have hvalue : (PkgHead.ofBytes (init ++ [last])).len.toNat = ofLE (init.drop 9 ++ [last]) := by
    rw [PkgHead.ofBytes, hcut, UInt32.toNat_ofNat_of_lt' hlt]
  rw [hvalue, ofLE_append, hlow]
  simp only [ofLE]
  omega

/-- The stream `items` contains a frame that is not found when it follows the bytes `lost`. -/
structure Swallowed (lost : List UInt8) (items : List StreamItem) : Prop where
  missing : ∃ pkg ∈ frames items, pkg ∉ emitted scan lost (stream items)
  inRange : Allowed scan InRange lost (stream items)
  short : (stream items).length < 2 ^ 10

/-- Inside a header, the bytes of a new connection complete it, and what follows is read as a
body. -/
theorem swallowed_by_header {lost : List UInt8} (hne : lost ≠ [])
    (hshort : lost.length < sizeofPkgHead) : ∃ items, Swallowed lost items := by
  have hshort' : lost.length < 13 := hshort
  set ones : List UInt8 := List.replicate (12 - lost.length) 1 with hones
  have hgarbage : startTag ∉ ones ++ [1] := by
    intro hmem
    rcases List.mem_append.mp hmem with hin | hlast
    · have heq := List.eq_of_mem_replicate hin
      exact absurd heq (by decide)
    · exact absurd (List.mem_singleton.mp hlast) (by decide)
  have hlength : (lost ++ ones).length = 12 := by
    rw [List.length_append, hones, List.length_replicate]
    omega
  have hlarge := large_of_last_byte 1 hlength (by decide)
  set bytes := (ones ++ [1]) ++ (bareFrame 5).toBytes with hbytes
  have htotal : (lost ++ bytes).length = 28 := by
    have hsplit : lost ++ bytes = (lost ++ ones) ++ ([1] ++ (bareFrame 5).toBytes) := by
      simp [hbytes]
    rw [hsplit, List.length_append, hlength, List.length_append, length_bareFrame]
    rfl
  have hhead : PkgHead.ofBytes (lost ++ bytes) = PkgHead.ofBytes (lost ++ ones ++ [1]) := by
    have hsplit : lost ++ bytes = (lost ++ ones ++ [1]) ++ (bareFrame 5).toBytes := by
      simp [hbytes]
    rw [hsplit, PkgHead.ofBytes_append (by rw [List.length_append, hlength]; rfl)]
  have hstream : stream [.garbage (ones ++ [1]) hgarbage, .frame (bareFrame 5) (sent_bareFrame 5)] =
      bytes := by
    simp [stream, StreamItem.bytes, hbytes]
  refine ⟨[.garbage (ones ++ [1]) hgarbage, .frame (bareFrame 5) (sent_bareFrame 5)],
    ⟨bareFrame 5, by simp [frames, StreamItem.frames], ?_⟩, ?_, ?_⟩
  · rw [hstream, (scan_unfinished _ _ hne (fun _ => by rw [htotal, hhead]; omega)).2]
    simp
  · rw [hstream]
    refine inRange_unfinished _ _ hne (fun _ => ?_) (by omega)
    rw [htotal, hhead]
    simp only [sizeofPkgHead, sizeofPkgCRC]
    omega
  · rw [List.length_append] at htotal
    rw [hstream]
    omega

/-- A stream of one bare frame. -/
def bareStream (cmd : UInt8) : List StreamItem := [.frame (bareFrame cmd) (sent_bareFrame cmd)]

theorem stream_bareStream (cmd : UInt8) : stream (bareStream cmd) = (bareFrame cmd).toBytes := by
  simp [bareStream, stream, StreamItem.bytes]

theorem mem_frames_bareStream (cmd : UInt8) : bareFrame cmd ∈ frames (bareStream cmd) := by
  simp [bareStream, frames, StreamItem.frames]

theorem length_stream_bareStream (cmd : UInt8) : (stream (bareStream cmd)).length < 2 ^ 10 := by
  rw [stream_bareStream, length_bareFrame]
  omega

section BehindHeader

variable {lost : List UInt8} {cmd : UInt8}

theorem ne_nil_of_head (hhead : sizeofPkgHead ≤ lost.length) : lost ≠ [] := fun hnil => by
  rw [hnil] at hhead
  simp [sizeofPkgHead] at hhead

/-- A package that goes on behind the frame takes the whole frame as a part of its body. -/
theorem swallowed_inside (hhead : sizeofPkgHead ≤ lost.length)
    (hlong : lost.length + 15 < (PkgHead.ofBytes lost).len.toNat)
    (hhigh : (PkgHead.ofBytes lost).len.toNat < 2 ^ 31) : Swallowed lost (bareStream cmd) := by
  have hne := ne_nil_of_head hhead
  have hlength : (lost ++ (bareFrame cmd).toBytes).length = lost.length + 15 := by
    rw [List.length_append, length_bareFrame]
  have hless : (lost ++ (bareFrame cmd).toBytes).length <
      (PkgHead.ofBytes (lost ++ (bareFrame cmd).toBytes)).len.toNat := by
    rw [hlength, PkgHead.ofBytes_append hhead]
    exact hlong
  refine ⟨⟨bareFrame cmd, mem_frames_bareStream cmd, ?_⟩, ?_, length_stream_bareStream cmd⟩
  · rw [stream_bareStream, (scan_unfinished _ _ hne fun _ => hless).2]
    simp
  · rw [stream_bareStream]
    refine inRange_unfinished _ _ hne (fun _ => ⟨hless, ?_⟩) (by omega)
    rw [PkgHead.ofBytes_append hhead]
    simp only [sizeofPkgHead, sizeofPkgCRC] at hhead ⊢
    omega

/-- A package that ends inside the frame takes its first bytes, and no start mark follows them. -/
theorem swallowed_across {left : Nat} (hcmd : cmd = 5 ∨ cmd = 6)
    (hother : (bareFrame cmd).head ≠ PkgHead.ofBytes lost) (hhead : sizeofPkgHead ≤ lost.length)
    (hpos : 0 < left) (hleft : left ≤ 15)
    (htotal : lost.length + left = (PkgHead.ofBytes lost).len.toNat)
    (hlow : sizeofPkgHead + sizeofPkgCRC ≤ (PkgHead.ofBytes lost).len.toNat)
    (hhigh : (PkgHead.ofBytes lost).len.toNat < 2 ^ 31) : Swallowed lost (bareStream cmd) := by
  have hne := ne_nil_of_head hhead
  have hlength := length_bareFrame cmd
  set front := (bareFrame cmd).toBytes.take left with hfront
  set back := (bareFrame cmd).toBytes.drop left with hback
  have hfrontLen : front.length = left := by
    rw [hfront, List.length_take]; omega
  have hfrontNe : front ≠ [] := List.ne_nil_of_length_pos (by omega)
  have hwhole : (lost ++ front).length = (PkgHead.ofBytes lost).len.toNat := by
    rw [List.length_append, hfrontLen, htotal]
  have hcomplete : Complete (lost ++ front) :=
    ⟨by rw [hwhole]; omega, by rw [PkgHead.ofBytes_append hhead, hwhole]⟩
  have hbackFree : startTag ∉ back := fun hmem => by
    refine startTag_notMem_tail hcmd ?_
    have hdrop : back = (bareFrame cmd).toBytes.tail.drop (left - 1) := by
      rw [hback, List.drop_tail]
      congr 1
      omega
    rw [hdrop] at hmem
    exact List.mem_of_mem_drop hmem
  have hfrontScan := scan_complete _ _ hne hfrontNe hcomplete
  have hbackScan := scan_garbage hbackFree
  have hsplit : (bareFrame cmd).toBytes = front ++ back := (List.take_append_drop _ _).symm
  refine ⟨⟨bareFrame cmd, mem_frames_bareStream cmd, ?_⟩, ?_, length_stream_bareStream cmd⟩
  · rw [stream_bareStream, hsplit, emitted_append, hfrontScan.1, hfrontScan.2, hbackScan.2.1,
      List.append_nil]
    intro hmem
    have heq : bareFrame cmd = Pkg.ofBytes (lost ++ front) := by
      unfold Pkg.intact at hmem
      split_ifs at hmem
      · exact List.mem_singleton.mp hmem
      · simp at hmem
    refine hother ?_
    rw [heq, ← PkgHead.ofBytes_append hhead front]
    rfl
  · rw [stream_bareStream, hsplit, allowed_append, hfrontScan.1]
    exact ⟨inRange_complete _ _ hne hfrontNe hcomplete (by omega) (by omega), hbackScan.2.2⟩

/-- Behind a header, the bytes of a new connection are read as the rest of the old package. -/
theorem swallowed_by_body {rest : List UInt8} {pkg : Pkg} (hframed : pkg.Framed)
    (hrest : rest ≠ []) (hlost : lost ++ rest = pkg.toBytes)
    (hhead : sizeofPkgHead ≤ lost.length) : ∃ items, Swallowed lost items := by
  have hofBytes : PkgHead.ofBytes lost = pkg.head := by
    rw [← PkgHead.ofBytes_append hhead rest, hlost]
    exact congrArg Pkg.head pkg.ofBytes_toBytes
  have htotal : lost.length + rest.length = pkg.head.len.toNat := by
    rw [← List.length_append, hlost, Pkg.length_toBytes, hframed.len_eq]
  have hlow : sizeofPkgHead + sizeofPkgCRC ≤ pkg.head.len.toNat := by rw [hframed.len_eq]; omega
  have hpos := List.length_pos_of_ne_nil hrest
  -- one of the two bare frames has another header than the old package
  obtain ⟨cmd, hcmd, hother⟩ : ∃ cmd : UInt8, (cmd = 5 ∨ cmd = 6) ∧
      (bareFrame cmd).head ≠ pkg.head := by
    by_cases hsame : (bareFrame 5).head = pkg.head
    · refine ⟨6, .inr rfl, fun hsame' => absurd (hsame.trans hsame'.symm) (by decide)⟩
    · exact ⟨5, .inl rfl, hsame⟩
  rw [← hofBytes] at htotal hlow hother
  have hhigh : (PkgHead.ofBytes lost).len.toNat < 2 ^ 31 := hofBytes ▸ hframed.len_lt
  refine ⟨bareStream cmd, ?_⟩
  by_cases hlong : 15 < rest.length
  · exact swallowed_inside hhead (by omega) hhigh
  · exact swallowed_across hcmd hother hhead hpos (by omega) htotal hlow hhigh

end BehindHeader

/-- Whatever a first part of a stream leaves unfinished swallows a frame. -/
theorem exists_swallowed {bytes : List UInt8} {old : List StreamItem} (hold : bytes <+: stream old)
    (hne : unfinished bytes ≠ []) : ∃ items, Swallowed (unfinished bytes) items := by
  rcases unfinished_of_isPrefix hold with hnil | ⟨pkg, hframed, rest, hrest, hlost⟩
  · exact absurd hnil hne
  · by_cases hhead : (unfinished bytes).length < sizeofPkgHead
    · exact swallowed_by_header hne hhead
    · exact swallowed_by_body hframed hrest hlost (Nat.le_of_not_lt hhead)

/-! ## Delivery behind a reconnect -/

namespace MyTcpClient

/-- After a run, the client has handed over `pkgs` and maybe more. A package that is missing from
its queue was handed over while the queue held its maximum. -/
def Delivered (junk : Nat → UInt8) (inputs : List Input) (pkgs : List Pkg) : Prop :=
  ∃ c, final step (.ok (new junk)) inputs = .ok c ∧
    pkgs <+: (handedOver (.ok (new junk)) inputs).map Handed.pkg ∧
    (∀ x ∈ handedOver (.ok (new junk)) inputs,
      x.accepted = false ↔ MyTcpHandler.pkgsMax ≤ x.pending.length) ∧
    poppedOut (.ok (new junk)) inputs ++ c.handler.pkgs.q =
      MyTcpHandler.accepted (handedOver (.ok (new junk)) inputs)

/-- Behind a reconnect, every frame that is received as a whole is delivered: the packages handed
over are those of the old connection and then the frames of the new one. The new connection may
break off anywhere, with the bytes `rest`, and the state machine may need some more rounds. -/
def FreshAfter (junk : Nat → UInt8) (before : List Input) : Prop :=
  ∀ (after : List Input) (items more : List StreamItem) (rest : List UInt8),
    (∀ input ∈ after, ∀ connected, input ≠ .reconnect connected) →
    received (.ok (new junk)) (before ++ .reconnect true :: after) =
      received (.ok (new junk)) before ++ (stream items ++ rest) →
    rest <+: stream more →
    ∃ n, ∀ junks : List (Nat → UInt8), n ≤ junks.length →
      Delivered junk (before ++ .reconnect true :: (after ++ junks.map .iterate))
        (packages (received (.ok (new junk)) before) ++ frames items)

variable {junk : Nat → UInt8} {before : List Input} {old : List StreamItem}

/-- A first part of a stream is in range. -/
theorem inRange_of_isPrefix {bytes : List UInt8} (h : bytes <+: stream old) :
    Allowed scan InRange [] bytes := by
  obtain ⟨future, hfuture⟩ := h
  have hrange := (scan_stream old).2.2
  rw [← hfuture, allowed_append] at hrange
  exact hrange.1

/-- A client behind a boundary between packages is fresh. -/
theorem freshAfter_of_whole (hold : received (.ok (new junk)) before <+: stream old)
    (hwhole : unfinished (received (.ok (new junk)) before) = []) : FreshAfter junk before := by
  intro after items more rest _ hreceived hrest
  obtain ⟨hfinal, hpackages, hrange⟩ := scan_stream items
  set bytes := received (.ok (new junk)) before ++ (stream items ++ rest) with hbytes
  have hall : Allowed scan InRange [] bytes := by
    rw [hbytes, allowed_append, ← unfinished, hwhole, allowed_append, ← unfinished, hfinal]
    exact ⟨inRange_of_isPrefix hold, hrange, inRange_of_isPrefix hrest⟩
  obtain ⟨c₁, hfinal₁, hf₁⟩ := run_follows (c := new junk)
    (before ++ .reconnect true :: after) (MyTcpHandler.follows_new junk)
    (by rw [hreceived]; exact hall)
  rw [hreceived] at hf₁
  refine ⟨2 * MyTcpHandler.bufferSize + 1, fun junks henough => ?_⟩
  obtain ⟨h', hsettle, hsettled⟩ :=
    MyTcpHandler.rounds_settle hf₁ hall (hf₁.work_le.trans henough)
  obtain ⟨hfinal₂, hhanded₂⟩ := rounds_eq hsettle
  have hcut : before ++ .reconnect true :: (after ++ junks.map .iterate) =
      (before ++ .reconnect true :: after) ++ junks.map .iterate := by simp
  rw [hcut]
  have hreceived' : received (.ok (new junk))
      ((before ++ .reconnect true :: after) ++ junks.map .iterate) = bytes := by
    rw [received_append, received_rounds, hreceived, List.append_nil]
  obtain ⟨c', hfinal', hf'⟩ := run_follows (c := new junk) _ (MyTcpHandler.follows_new junk)
    (by rw [hreceived']; exact hall)
  refine ⟨c', hfinal', ?_, hf'.refused, hf'.ledger⟩
  have hmap := hsettled.handed_eq
  rw [← hhanded₂, ← hfinal₁, List.nil_append, List.nil_append, ← handedOver_append, hbytes,
    packages_append, hwhole, emitted_append, ← packages, hpackages, ← List.append_assoc] at hmap
  rw [hmap]
  exact List.prefix_append _ _

/-- Bytes that fit are received as a whole. -/
theorem receive_all {c : MyTcpClient} {bytes : List UInt8} {handed : List Handed}
    {popped : List Pkg} (hf : c.handler.Follows bytes handed popped)
    (hopen : c.connection.isNeedReconnect = false) {data : List UInt8}
    (hsmall : data.length < 2 ^ 10) (hread : c.handler.rb.getReadLen < sizeofPkgHead) :
    ∃ c' event, c.act (.receive data) = .ok (c', event) ∧
      (Input.receive data).added event = data := by
  obtain ⟨consumed, held, -, hrb, -, -⟩ := hf.reading
  have hcap := hf.capacity_eq
  rw [hrb.getReadLen_eq] at hread
  simp only [sizeofPkgHead] at hread
  have hbuffer : MyTcpHandler.bufferSize = 4194304 := rfl
  have hroom : min c.handler.rb.getWriteLen recvBufSize = min (4194304 - held.length) 1048576 := by
    rw [RingBuffer.getWriteLen, hrb.write_len, hcap]
    rfl
  have htake : data.take (min c.handler.rb.getWriteLen recvBufSize) = data :=
    List.take_of_length_le (by omega)
  by_cases hnil : data = []
  · exact ⟨c, .quiet, by simp [act, hopen, hnil], by simp [Input.added, hnil]⟩
  obtain ⟨rb, hwrite, -, -⟩ := RingBuffer.write_eq data hrb (by omega)
  refine ⟨{ c with handler := { c.handler with rb := rb } }, .wrote data.length, ?_, ?_⟩
  · simp [act, hopen, htake, hnil, actHandler, MyTcpHandler.act, hwrite, bind, Except.bind, pure,
      Except.pure]
  · simp [Input.added]

/-- There are as many rounds as one needs. -/
theorem exists_rounds (n : Nat) : ∃ junks : List (Nat → UInt8), n ≤ junks.length :=
  ⟨List.replicate n fun _ => 0, by rw [List.length_replicate]⟩

/-- A client inside of a package is not fresh. -/
theorem not_freshAfter (hold : received (.ok (new junk)) before <+: stream old)
    (hne : unfinished (received (.ok (new junk)) before) ≠ []) : ¬ FreshAfter junk before := by
  intro hfresh
  set bytes := received (.ok (new junk)) before with hbytes
  have hrange := inRange_of_isPrefix hold
  obtain ⟨items, ⟨pkg, hpkg, hmissing⟩, hitems, hshort⟩ := exists_swallowed hold hne
  -- the client reconnects, reads what it can and then receives the stream
  obtain ⟨c₀, hfinal₀, hf₀⟩ := run_follows (c := new junk) before (MyTcpHandler.follows_new junk)
    (by rw [← hbytes]; exact hrange)
  rw [← hbytes] at hf₀
  set c₁ : MyTcpClient := { c₀ with connection := Connection.opened } with hc₁
  have hreconnect : step (.ok c₀) (.reconnect true) = (.ok c₁, .quiet) := step_eq rfl
  obtain ⟨rounds, hrounds⟩ := exists_rounds (2 * MyTcpHandler.bufferSize + 1)
  obtain ⟨h', hsettle, hsettled⟩ := MyTcpHandler.rounds_settle (h := c₁.handler) hf₀ hrange
    (hf₀.work_le.trans hrounds)
  obtain ⟨hfinal₂, -⟩ := rounds_eq hsettle
  obtain ⟨c₂, hfinal₂', hf₂⟩ := run_follows (c := c₁) (rounds.map .iterate) hf₀
    (by rw [received_rounds]; simpa using hrange)
  obtain rfl : c₂ = { c₁ with handler := h' } := Except.ok.inj (hfinal₂'.symm.trans hfinal₂)
  obtain ⟨c₃, event, hact, hadded⟩ := receive_all hf₂ rfl hshort hsettled.short
  have hreceived : received (.ok (new junk))
      (before ++ .reconnect true :: (rounds.map .iterate ++ [.receive (stream items)])) =
      bytes ++ (stream items ++ []) := by
    rw [received_append, ← hbytes, hfinal₀]
    have hsecond : received (.ok c₀)
        (.reconnect true :: (rounds.map .iterate ++ [.receive (stream items)])) =
        received (.ok c₁) (rounds.map .iterate ++ [.receive (stream items)]) := by
      simp [received, hreconnect, Input.added]
    rw [hsecond, received_append, received_rounds, hfinal₂]
    simp [received, step_eq hact, hadded]
  have hnew : ∀ input ∈ rounds.map Input.iterate ++ [.receive (stream items)],
      ∀ connected, input ≠ .reconnect connected := by
    intro input hinput connected
    rcases List.mem_append.mp hinput with hround | hreceive
    · obtain ⟨round, -, rfl⟩ := List.mem_map.mp hround
      intro heq
      cases heq
    · obtain rfl := List.mem_singleton.mp hreceive
      intro heq
      cases heq
  obtain ⟨n, hn⟩ := hfresh (rounds.map .iterate ++ [.receive (stream items)]) items [] [] hnew
    hreceived List.nil_prefix
  obtain ⟨others, hothers⟩ := exists_rounds n
  obtain ⟨c, -, hprefix, -⟩ := hn others hothers
  set inputs := before ++ .reconnect true :: (rounds.map .iterate ++ [.receive (stream items)] ++
    others.map .iterate) with hinputs
  have hreceived' : received (.ok (new junk)) inputs = bytes ++ stream items := by
    have hcut : inputs = (before ++ .reconnect true ::
        (rounds.map .iterate ++ [.receive (stream items)])) ++
        others.map .iterate := by simp [hinputs]
    rw [hcut, received_append, received_rounds, hreceived, List.append_nil, List.append_nil]
  obtain ⟨c', -, hf'⟩ := run_follows (c := new junk) inputs (MyTcpHandler.follows_new junk)
    (by
      rw [hreceived', List.nil_append, allowed_append]
      exact ⟨hrange, hitems⟩)
  rw [hreceived'] at hf'
  obtain ⟨consumed, held, hsplit, -, -, hhanded⟩ := hf'.reading
  rw [List.nil_append] at hsplit hhanded
  -- what is handed over is a first part of what `scan` finds
  have hfound : packages bytes ++ frames items <+:
      packages bytes ++ emitted scan (unfinished bytes) (stream items) := by
    refine hprefix.trans ?_
    rw [hhanded, ← packages_append, hsplit, packages_append]
    exact List.prefix_append _ _
  exact hmissing ((List.prefix_append_right_inj _).mp hfound |>.subset hpkg)

/-- Behind the reconnects of well-behaved peers, a client is fresh if and only if the bytes that it
received before leave no package unfinished. -/
theorem freshAfter_iff (hold : received (.ok (new junk)) before <+: stream old) :
    FreshAfter junk before ↔ unfinished (received (.ok (new junk)) before) = [] := by
  refine ⟨fun hfresh => ?_, freshAfter_of_whole hold⟩
  by_contra hne
  exact not_freshAfter hold hne hfresh

/-- Behind a whole `emptyObject`. -/
theorem freshAfter_emptyObject :
    FreshAfter (fun _ => 0) [.reconnect true, .receive MyTcpHandler.emptyObject.toBytes] := by
  have hbytes : received (.ok (new fun _ => 0))
      [.reconnect true, .receive MyTcpHandler.emptyObject.toBytes] =
      MyTcpHandler.emptyObject.toBytes := by decide +kernel
  have hold : received (.ok (new fun _ => 0))
      [.reconnect true, .receive MyTcpHandler.emptyObject.toBytes] <+:
      stream [.frame _ MyTcpHandler.sent_emptyObject] := by
    rw [hbytes]
    exact ⟨[], by simp [stream, StreamItem.bytes]⟩
  refine (freshAfter_iff hold).mpr ?_
  rw [hbytes]
  decide +kernel

/-- Behind the start mark of a frame: the connection breaks off, the client reconnects, and the
first frame of the new connection is read as a header. -/
theorem not_freshAfter_startTag :
    ¬ FreshAfter (fun _ => 0) [.reconnect true, .receive [startTag]] := by
  have hbytes : received (.ok (new fun _ => 0)) [.reconnect true, .receive [startTag]] =
      [startTag] := by decide +kernel
  have hold : received (.ok (new fun _ => 0)) [.reconnect true, .receive [startTag]] <+:
      stream [.frame _ MyTcpHandler.sent_emptyObject] := by
    rw [hbytes]
    exact ⟨MyTcpHandler.emptyObject.toBytes.tail, rfl⟩
  refine not_freshAfter hold ?_
  rw [hbytes]
  decide +kernel

end MyTcpClient

end RVDataFusionServer
