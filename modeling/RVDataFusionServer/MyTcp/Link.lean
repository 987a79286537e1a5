import RVDataFusionServer.Common.Codec
import RVDataFusionServer.MyTcp.Reassembly
import RVDataFusionServer.MyTcp.SendBase
import RVDataFusionServer.MyTcp.Server

/-!
# A connection from end to end

`Link` is one connection between a `MyTcpClient` that sends messages and the `MyTcpServerHandler`
of its peer, with the bytes that are under way. `Carries` says what the two ends know of each
other, and every step keeps it. The main theorem is `link_delivers`: whatever the order of the
steps, the handler hands over the messages that `SendBase` reported as sent, each of them once and
in their order, and reading on it gets to all of them.
-/

namespace RVDataFusionServer

open Library Execution

/-- The part of a buffer that a call of `sendBytes` takes. A call that raises has taken `part`
bytes before, which nobody is told. -/
def SendOutcome.taken (outcome : SendOutcome) (part : Nat) (buffer : List UInt8) : List UInt8 :=
  match outcome with
  | .returned len => buffer.take len.toNat
  | .raised _ => buffer.take part

/-- What `sendBytes` may do with a buffer of `size` bytes: it claims no more bytes than it was
given, and raises an error only while some are left. With one that `SendBase` takes for a timeout it
has taken none of them. -/
structure SendOutcome.Honest (outcome : SendOutcome) (part size : Nat) : Prop where
  returned_le : ∀ len, outcome = .returned len → len ≤ (size : Int)
  raised_lt : ∀ code, outcome = .raised code → part < size
  whole : ∀ code, outcome = .raised code → code ≠ .other → part = 0

/-- The bytes that `SendBase` gives to the socket. -/
def Connection.sentBytes (conn : Connection) (pkg : Pkg) (outcome : SendOutcome) (part : Nat) :
    Except Fault (List UInt8) :=
  if conn.isNeedReconnect then .ok []
  else do
    let size := sizeofPkgHead + sizeofPkgCRC + pkg.body.length
    let (lenSend, _, buffer) ← pack pkg ⟨size, fun _ => 0⟩ (UInt32.ofNat size)
    pure (if lenSend = 0 then [] else outcome.taken part (buffer.window 0 lenSend.toNat))

/-- A connection: the client, the bytes under way to its peer, and the handler there, which is
`none` when it has deleted itself. -/
structure Link where
  client : Connection
  transit : List UInt8 := []
  server : Option MyTcpHandler

namespace Link

/-- What happens on a connection: a message is sent, the socket of the handler is readable with at
most so many bytes and one more, or the handler makes a step of its own. -/
inductive Input where
  | send (cmdType : UInt8) (sn : UInt16) (deviceNO : UInt32) (jsonStr : List UInt8)
      (outcome : SendOutcome) (part : Nat) (now now' : UInt64)
  | onReadable (more : Nat)
  | iterate (junk : Nat → UInt8)
  | pop

/-- What can be seen of a step: the package of a message that `SendBase` has sent, or what the
handler does. -/
inductive Event where
  | quiet
  | sent (pkg : Pkg)
  | server (event : MyTcpHandler.Event)

/-- The packages that were sent, according to the client. -/
def Event.sentOut : Event → List Pkg
  | .sent pkg => [pkg]
  | _ => []

/-- The packages that the handler hands to `pkgs`. -/
def Event.handedOver : Event → List Handed
  | .server event => event.handedOver
  | _ => []

/-- The packages that `ThreadProcessPkg` gets. -/
def Event.poppedOut : Event → List Pkg
  | .server event => event.poppedOut
  | _ => []

/-- The bytes that a readable socket gave to its handler. -/
def arrived : MyTcpServerHandler.Event → List UInt8
  | .wrote data _ => data
  | _ => []

variable (config : ReconnectConfig)

/-- A step of a connection. -/
def act (link : Link) : Input → Except Fault (Link × Event)
  | .send cmdType sn deviceNO jsonStr outcome part now now' => do
      let pkg := pkgWithoutCRC cmdType sn deviceNO jsonStr
      let bytes ← link.client.sentBytes pkg outcome part
      let (ret, client) ← link.client.sendBase config pkg outcome now now'
      pure ({ link with client, transit := link.transit ++ bytes },
        if ret = 0 then .sent pkg.packed else .quiet)
  | .onReadable more =>
      match link.server, link.transit with
      | some h, byte :: rest => do
          let there := (byte :: rest).take (more + 1)
          let (server, event) ← MyTcpServerHandler.onReadable { handler := h }
            (.available there (by simp [there]))
          pure ({ link with
              server := server.map MyTcpServerHandler.handler
              transit := link.transit.drop (arrived event).length }, .quiet)
      | _, _ => .ok (link, .quiet)
  | .iterate junk =>
      match link.server with
      | none => .ok (link, .quiet)
      | some h => do
          let (h, event) ← h.act (.iterate junk)
          pure ({ link with server := some h }, .server event)
  | .pop =>
      match link.server with
      | none => .ok (link, .quiet)
      | some h => do
          let (h, event) ← h.act .pop
          pure ({ link with server := some h }, .server event)

/-- A step of a connection. A fault is final. -/
def step (state : Except Fault Link) (input : Input) : Except Fault Link × Event :=
  match state >>= fun link => link.act config input with
  | .ok (link, event) => (.ok link, event)
  | .error fault => (.error fault, .quiet)

/-- The connection behind `Open`, with the handler that the acceptor makes for it. -/
def opened (junk : Nat → UInt8) : Link where
  client := Connection.opened
  server := some (MyTcpHandler.new junk)

/-- The packages that a run sends. -/
def sentOut (state : Except Fault Link) (inputs : List Input) : List Pkg :=
  (outputs (step config) state inputs).flatMap Event.sentOut

/-- The packages that a run hands to `pkgs`. -/
def handedOver (state : Except Fault Link) (inputs : List Input) : List Handed :=
  (outputs (step config) state inputs).flatMap Event.handedOver

/-- The packages that `ThreadProcessPkg` gets in a run. -/
def poppedOut (state : Except Fault Link) (inputs : List Input) : List Pkg :=
  (outputs (step config) state inputs).flatMap Event.poppedOut

/-- The length of a message fits the counters of the receiving state machine, and `sendBytes` is
honest. -/
def Input.Proper : Input → Prop
  | .send _ _ _ jsonStr outcome part _ _ =>
      sizeofPkgHead + jsonStr.length + sizeofPkgCRC < 2 ^ 31 ∧
        outcome.Honest part (sizeofPkgHead + jsonStr.length + sizeofPkgCRC)
  | _ => True

end Link

/-! ## Sending one message -/

section Sending

variable {cmdType : UInt8} {sn : UInt16} {deviceNO : UInt32} {jsonStr : List UInt8}

/-- A message with its checksum is a package as the receiving state machine expects it. -/
theorem sent_packed (hsmall : sizeofPkgHead + jsonStr.length + sizeofPkgCRC < 2 ^ 31) :
    (pkgWithoutCRC cmdType sn deviceNO jsonStr).packed.Sent :=
  Pkg.Framed.sent
    ⟨rfl, len_pkgWithoutCRC cmdType sn deviceNO hsmall,
      (len_pkgWithoutCRC cmdType sn deviceNO hsmall).trans_lt hsmall⟩ rfl

/-- `Pack` writes the whole message into the buffer of `SendBase`. -/
theorem pack_message (cmdType : UInt8) (sn : UInt16) (deviceNO : UInt32)
    (hsmall : sizeofPkgHead + jsonStr.length + sizeofPkgCRC < 2 ^ 31) :
    ∃ lenSend buffer,
      pack (pkgWithoutCRC cmdType sn deviceNO jsonStr)
          ⟨sizeofPkgHead + sizeofPkgCRC + jsonStr.length, fun _ => 0⟩
          (UInt32.ofNat (sizeofPkgHead + sizeofPkgCRC + jsonStr.length)) =
        .ok (lenSend, (pkgWithoutCRC cmdType sn deviceNO jsonStr).packed, buffer) ∧
      lenSend.toNat = sizeofPkgHead + jsonStr.length + sizeofPkgCRC ∧ lenSend ≠ 0 ∧
      buffer.window 0 lenSend.toNat =
        (pkgWithoutCRC cmdType sn deviceNO jsonStr).packed.toBytes := by
  set pkg := pkgWithoutCRC cmdType sn deviceNO jsonStr with hpkg
  have hlen : pkg.head.len.toNat = sizeofPkgHead + jsonStr.length + sizeofPkgCRC :=
    len_pkgWithoutCRC cmdType sn deviceNO hsmall
  have hroom : (UInt32.ofNat (sizeofPkgHead + sizeofPkgCRC + jsonStr.length)).toNat =
      sizeofPkgHead + sizeofPkgCRC + jsonStr.length := by
    rw [UInt32.toNat_ofNat']
    exact Nat.mod_eq_of_lt (by omega)
  have hbody : pkg.body.length = jsonStr.length := rfl
  obtain ⟨buffer, hpack, hwindow⟩ := pack_eq pkg
    ⟨sizeofPkgHead + sizeofPkgCRC + jsonStr.length, fun _ => 0⟩
    (UInt32.ofNat (sizeofPkgHead + sizeofPkgCRC + jsonStr.length))
    (by omega) (by omega) (by show _ ≤ sizeofPkgHead + sizeofPkgCRC + jsonStr.length; omega)
  refine ⟨pkg.head.len, buffer, hpack, hlen, ?_, hwindow⟩
  intro hzero
  rw [hzero, UInt32.toNat_zero] at hlen
  simp only [sizeofPkgHead] at hlen
  omega

/-- `SendBase` does nothing while the client waits for a new connection. -/
theorem send_waiting {conn : Connection} (hneed : conn.isNeedReconnect = true)
    (config : ReconnectConfig) (pkg : Pkg) (outcome : SendOutcome) (part : Nat)
    (now now' : UInt64) :
    conn.sentBytes pkg outcome part = .ok [] ∧
      conn.sendBase config pkg outcome now now' = .ok (-1, conn) := by
  simp [Connection.sentBytes, Connection.sendBase, hneed]

/-- The bookkeeping behind a send does not take back that a new connection is needed. -/
theorem sentAt_need {conn : Connection} (hneed : conn.isNeedReconnect = true)
    (config : ReconnectConfig) (now now' : UInt64) :
    (conn.sentAt config now now').isNeedReconnect = true := by
  unfold Connection.sentAt
  split_ifs <;> simp [hneed]

/-- A message that is sent is on its way as a whole. One that is not has left nothing on its way,
or a part of it behind which the client waits for a new connection. -/
theorem send_message (cmdType : UInt8) (sn : UInt16) (deviceNO : UInt32) {conn : Connection}
    (hneed : conn.isNeedReconnect = false)
    (hsmall : sizeofPkgHead + jsonStr.length + sizeofPkgCRC < 2 ^ 31) {outcome : SendOutcome}
    {part : Nat}
    (hhonest : outcome.Honest part (sizeofPkgHead + jsonStr.length + sizeofPkgCRC))
    (config : ReconnectConfig) (now now' : UInt64) :
    ∃ bytes ret client,
      conn.sentBytes (pkgWithoutCRC cmdType sn deviceNO jsonStr) outcome part = .ok bytes ∧
      conn.sendBase config (pkgWithoutCRC cmdType sn deviceNO jsonStr) outcome now now' =
        .ok (ret, client) ∧
      (ret = 0 ∧ bytes = (pkgWithoutCRC cmdType sn deviceNO jsonStr).packed.toBytes ∨
        ret ≠ 0 ∧ bytes = [] ∨
        ret ≠ 0 ∧ client.isNeedReconnect = true ∧ ∃ rest, rest ≠ [] ∧
          bytes ++ rest = (pkgWithoutCRC cmdType sn deviceNO jsonStr).packed.toBytes) := by
  obtain ⟨lenSend, buffer, hpack, hlen, hne, hwindow⟩ :=
    pack_message cmdType sn deviceNO hsmall
  have hbody : (pkgWithoutCRC cmdType sn deviceNO jsonStr).body.length = jsonStr.length := rfl
  have himage : (pkgWithoutCRC cmdType sn deviceNO jsonStr).packed.toBytes.length =
      lenSend.toNat := by
    rw [Pkg.length_toBytes, hlen]
    rfl
  have hsent : conn.sentBytes (pkgWithoutCRC cmdType sn deviceNO jsonStr) outcome part =
      .ok (outcome.taken part (pkgWithoutCRC cmdType sn deviceNO jsonStr).packed.toBytes) := by
    simp only [Connection.sentBytes, hneed, Bool.false_eq_true, if_false, hbody, hpack, hne,
      hwindow, bind, Except.bind, pure, Except.pure]
  have hbase : conn.sendBase config (pkgWithoutCRC cmdType sn deviceNO jsonStr) outcome now now' =
      .ok ((Connection.judgeSend lenSend.toNat outcome).1,
        { conn with
          isNeedReconnect := (Connection.judgeSend lenSend.toNat outcome).2 }.sentAt
            config now now') := by
    simp only [Connection.sendBase, hneed, Bool.false_eq_true, if_false, hbody, hpack, hne, bind,
      Except.bind, pure, Except.pure]
  refine ⟨_, _, _, hsent, hbase, ?_⟩
  -- what a short write leaves of a message
  have hcut {count : Nat} (hless : count < lenSend.toNat) : ∃ rest, rest ≠ [] ∧
      (pkgWithoutCRC cmdType sn deviceNO jsonStr).packed.toBytes.take count ++ rest =
        (pkgWithoutCRC cmdType sn deviceNO jsonStr).packed.toBytes := by
    refine ⟨_, ?_, List.take_append_drop count _⟩
    intro hnil
    have hzero := congrArg List.length hnil
    simp only [List.length_drop, himage, List.length_nil] at hzero
    omega
  cases outcome with
  | raised code =>
      by_cases hother : code = .other
      · subst hother
        refine .inr (.inr ⟨by simp [Connection.judgeSend], ?_, ?_⟩)
        · exact sentAt_need (by simp [Connection.judgeSend]) _ _ _
        · exact hcut (hlen ▸ hhonest.raised_lt _ rfl)
      · refine .inr (.inl ⟨?_, ?_⟩)
        · cases code <;> simp [Connection.judgeSend]
        · rw [SendOutcome.taken, hhonest.whole code rfl hother, List.take_zero]
  | returned len =>
      have hle := hhonest.returned_le len rfl
      rcases lt_trichotomy len lenSend.toNat with hless | hsame | hmore
      · -- a short write leaves a part of the message on its way
        refine .inr (.inr ?_)
        have hjudge : Connection.judgeSend lenSend.toNat (.returned len) = (-2, true) := by
          simp only [Connection.judgeSend, hless.ne, ne_eq, not_false_eq_true, if_true, ite_self]
        have hpos : 0 < lenSend.toNat := by simp only [hlen, sizeofPkgHead]; omega
        exact ⟨by simp [hjudge], sentAt_need (by simp [hjudge]) _ _ _, hcut (by omega)⟩
      · refine .inl ⟨?_, ?_⟩
        · have hnonneg : ¬ (lenSend.toNat : Int) < 0 := by omega
          simp only [Connection.judgeSend, hsame, hnonneg, ne_eq, not_true_eq_false, if_false]
        · show List.take len.toNat _ = _
          exact List.take_of_length_le (by omega)
      · omega

end Sending

/-! ## What is on the wire -/

/-- The end of a message whose rest was not sent. -/
def Truncated (tail : List UInt8) : Prop :=
  ∃ pkg : Pkg, pkg.Framed ∧ ∃ rest, rest ≠ [] ∧ tail ++ rest = pkg.toBytes

/-- Whole packages, and perhaps a truncated one, contain the whole packages. -/
theorem packages_wire {sent : List Pkg} (hsent : ∀ pkg ∈ sent, pkg.Sent) {tail : List UInt8}
    (htail : tail = [] ∨ Truncated tail) :
    packages (sent.flatMap Pkg.toBytes ++ tail) = sent ∧
      Allowed scan InRange [] (sent.flatMap Pkg.toBytes ++ tail) := by
  induction sent with
  | nil =>
      rw [List.flatMap_nil, List.nil_append]
      rcases htail with rfl | ⟨pkg, hframed, rest, hne, hrest⟩
      · exact ⟨rfl, trivial⟩
      · have hkept := unfinished_of_pkg hframed hne hrest
        obtain ⟨-, hemitted, hrange⟩ := scan_pkg hframed
        rw [← hrest, allowed_append] at hrange
        refine ⟨?_, hrange.1⟩
        by_cases hnil : tail = []
        · rw [hnil]
          rfl
        -- the rest of the package emits all that the package does
        have hcomplete := scan_complete tail rest hnil hne (by rw [hrest]; exact hframed.complete.1)
        rw [hrest, Pkg.ofBytes_toBytes] at hcomplete
        change final scan [] tail = tail at hkept
        rw [← hrest, emitted_append, hkept, hcomplete.2] at hemitted
        exact List.append_left_eq_self.mp hemitted
  | cons pkg others ih =>
      obtain ⟨hpkg, hothers⟩ := List.forall_mem_cons.mp hsent
      obtain ⟨hpackages, hrange⟩ := ih hothers
      obtain ⟨hfinal, hemitted, hfirst⟩ := scan_pkg hpkg.toFramed
      have hintact : pkg.intact = [pkg] := by simp [Pkg.intact, hpkg.crc_eq]
      rw [List.flatMap_cons, List.append_assoc, packages, emitted_append, hemitted, hintact,
        allowed_append, hfinal]
      exact ⟨congrArg (pkg :: ·) hpackages, hfirst, hrange⟩

namespace Link

/-- What the two ends of a connection know of each other: the bytes that were sent are those that
the handler received and those under way, and it made of them what the state machine makes. -/
structure Carries (link : Link) (sent : List Pkg) (handed : List Handed) (popped : List Pkg) :
    Prop where
  intact : ∀ pkg ∈ sent, pkg.Sent
  wire : ∃ tail bytes, (tail = [] ∨ link.client.isNeedReconnect = true ∧ Truncated tail) ∧
    sent.flatMap Pkg.toBytes ++ tail = bytes ++ link.transit ∧
    ∀ h, link.server = some h → h.Follows bytes handed popped
  handed_prefix : handed.map Handed.pkg <+: sent
  popped_prefix : popped <+: MyTcpHandler.accepted handed
  refused : ∀ x ∈ handed, x.accepted = false ↔ MyTcpHandler.pkgsMax ≤ x.pending.length

variable (config : ReconnectConfig) {link : Link} {sent popped : List Pkg} {handed : List Handed}

/-- A new connection has carried nothing. -/
theorem carries_opened (junk : Nat → UInt8) : (opened junk).Carries [] [] [] where
  intact := by simp
  wire := ⟨[], [], .inl rfl, rfl, fun h hserver => by
    obtain rfl := Option.some.inj hserver
    exact MyTcpHandler.follows_new junk⟩
  handed_prefix := List.prefix_rfl
  popped_prefix := List.prefix_rfl
  refused := by simp

/-- The bytes that the handler has received are in range, and contain a first part of what was
sent. -/
theorem Carries.received {h : MyTcpHandler} (hc : link.Carries sent handed popped)
    (hserver : link.server = some h) :
    ∃ bytes, h.Follows bytes handed popped ∧ Allowed scan InRange [] bytes ∧
      packages bytes <+: sent ∧ (link.transit = [] → packages bytes = sent) := by
  obtain ⟨tail, bytes, htail, hwire, hfollows⟩ := hc.wire
  obtain ⟨hpackages, hrange⟩ := packages_wire hc.intact (htail.imp_right And.right)
  rw [hwire, allowed_append] at hrange
  rw [hwire, packages_append] at hpackages
  refine ⟨bytes, hfollows h hserver, hrange.1, ⟨_, hpackages⟩, fun hempty => ?_⟩
  rw [hempty, emitted_nil, List.append_nil] at hpackages
  exact hpackages

/-- `SendBase` keeps `Carries`. -/
theorem send_carries (hc : link.Carries sent handed popped) {cmdType : UInt8} {sn : UInt16}
    {deviceNO : UInt32} {jsonStr : List UInt8} {outcome : SendOutcome} {part : Nat}
    {now now' : UInt64}
    (hproper : Input.Proper (.send cmdType sn deviceNO jsonStr outcome part now now')) :
    ∃ link' event,
      link.act config (.send cmdType sn deviceNO jsonStr outcome part now now') =
        .ok (link', event) ∧
      link'.server = link.server ∧ event.handedOver = [] ∧ event.poppedOut = [] ∧
      link'.Carries (sent ++ event.sentOut) handed popped := by
  obtain ⟨hsmall, hhonest⟩ := hproper
  obtain ⟨tail, bytes, htail, hwire, hfollows⟩ := hc.wire
  cases hneed : link.client.isNeedReconnect with
  | true =>
      obtain ⟨hnone, hbase⟩ := send_waiting hneed config
        (pkgWithoutCRC cmdType sn deviceNO jsonStr) outcome part now now'
      refine ⟨link, .quiet, ?_, rfl, rfl, rfl, ?_⟩
      · simp [act, hnone, hbase, bind, Except.bind, pure, Except.pure]
      · simpa [Event.sentOut] using hc
  | false =>
      obtain rfl : tail = [] := htail.resolve_right (by simp [hneed])
      obtain ⟨more, ret, client, hmore, hbase, hcases⟩ := send_message cmdType sn deviceNO
        hneed hsmall hhonest config now now'
      set pkg := pkgWithoutCRC cmdType sn deviceNO jsonStr with hpkg
      have hact : link.act config (.send cmdType sn deviceNO jsonStr outcome part now now') =
          .ok ({ link with client := client, transit := link.transit ++ more },
            if ret = 0 then .sent pkg.packed else .quiet) := by
        simp only [act, ← hpkg, hmore, hbase, bind, Except.bind, pure, Except.pure]
      rw [List.append_nil] at hwire
      rcases hcases with ⟨hret, himage⟩ | ⟨hret, hnone⟩ | ⟨hret, hagain, rest, hne, hrest⟩
      · refine ⟨_, _, hact, rfl, by simp [hret, Event.handedOver],
          by simp [hret, Event.poppedOut], ?_⟩
        rw [if_pos hret]
        refine ⟨?_, ⟨[], bytes, .inl rfl, ?_, hfollows⟩, ?_, hc.popped_prefix, hc.refused⟩
        · intro other hother
          rcases List.mem_append.mp hother with hold | hnew
          · exact hc.intact other hold
          · obtain rfl := List.mem_singleton.mp hnew
            exact sent_packed hsmall
        · simp [Event.sentOut, hwire, himage]
        · exact hc.handed_prefix.trans (List.prefix_append _ _)
      · refine ⟨_, _, hact, rfl, by simp [hret, Event.handedOver],
          by simp [hret, Event.poppedOut], ?_⟩
        rw [if_neg hret]
        refine ⟨?_, ⟨[], bytes, .inl rfl, ?_, hfollows⟩, ?_, hc.popped_prefix, hc.refused⟩
        · simpa [Event.sentOut] using hc.intact
        · simp [Event.sentOut, hwire, hnone]
        · simpa [Event.sentOut] using hc.handed_prefix
      · refine ⟨_, _, hact, rfl, by simp [hret, Event.handedOver],
          by simp [hret, Event.poppedOut], ?_⟩
        rw [if_neg hret]
        refine ⟨?_, ⟨more, bytes, .inr ⟨hagain, pkg.packed, (sent_packed hsmall).toFramed, rest,
          hne, hrest⟩, ?_, hfollows⟩, ?_, hc.popped_prefix, hc.refused⟩
        · simpa [Event.sentOut] using hc.intact
        · simp [Event.sentOut, hwire]
        · simpa [Event.sentOut] using hc.handed_prefix

/-- What a handler has handed over is a first part of what its bytes contain. -/
theorem handed_of_follows {h : MyTcpHandler} {bytes : List UInt8}
    (hf : h.Follows bytes handed popped) : handed.map Handed.pkg <+: packages bytes := by
  obtain ⟨consumed, held, rfl, -, -, hhanded⟩ := hf.reading
  rw [hhanded, packages_append]
  exact List.prefix_append _ _

/-- A handler that moves on with the bytes that it has keeps `Carries`. -/
theorem Carries.moved {h h' : MyTcpHandler} (hc : link.Carries sent handed popped)
    (hserver : link.server = some h) {handed' : List Handed} {popped' : List Pkg}
    (hmove : ∀ bytes, h.Follows bytes handed popped → Allowed scan InRange [] bytes →
      h'.Follows bytes handed' popped') :
    Carries { link with server := some h' } sent handed' popped' := by
  obtain ⟨tail, bytes, htail, hwire, hfollows⟩ := hc.wire
  obtain ⟨hpackages, hrange⟩ := packages_wire hc.intact (htail.imp_right And.right)
  rw [hwire, packages_append] at hpackages
  rw [hwire, allowed_append] at hrange
  have hf' := hmove bytes (hfollows h hserver) hrange.1
  refine ⟨hc.intact, ⟨tail, bytes, htail, hwire, fun h'' hsome => ?_⟩, ?_, ⟨_, hf'.ledger⟩,
    hf'.refused⟩
  · obtain rfl := Option.some.inj hsome
    exact hf'
  · exact (handed_of_follows hf').trans ⟨_, hpackages⟩

/-- `onReadable` keeps `Carries`. -/
theorem onReadable_carries (hc : link.Carries sent handed popped) (more : Nat) :
    ∃ link', link.act config (.onReadable more) = .ok (link', .quiet) ∧
      link'.Carries sent handed popped := by
  obtain ⟨tail, bytes, htail, hwire, hfollows⟩ := hc.wire
  cases hserver : link.server with
  | none => exact ⟨link, by simp [act, hserver], hc⟩
  | some h =>
      cases htransit : link.transit with
      | nil => exact ⟨link, by simp [act, hserver, htransit], hc⟩
      | cons byte rest =>
          have hf := hfollows h hserver
          obtain ⟨consumed, held, hcut, hrb, hmatch, hhanded⟩ := hf.reading
          have hthere : (byte :: rest).take (more + 1) ≠ [] := by simp
          rcases MyTcpServerHandler.onReadable_available (s := { handler := h }) hrb hthere with
            ⟨-, hdeleted⟩ | ⟨-, rb, hwrote, hholds, hcap⟩
          · refine ⟨{ link with server := none }, ?_, hc.intact,
              ⟨tail, bytes, htail, hwire, by simp⟩, hc.handed_prefix, hc.popped_prefix, hc.refused⟩
            simp only [act, hserver, htransit, hdeleted, arrived, bind, Except.bind, pure,
              Except.pure, Option.map_none, List.length_nil, List.drop_zero]
          · set data := ((byte :: rest).take (more + 1)).take
              (min h.rb.getWriteLen MyTcpServerHandler.recvBufSize) with hdata
            have hsplit : data ++ link.transit.drop data.length = link.transit := by
              have hprefix : data <+: link.transit := by
                rw [htransit, hdata]
                exact (List.take_prefix _ _).trans (List.take_prefix _ _)
              obtain ⟨others, hothers⟩ := hprefix
              rw [← hothers, List.drop_left' rfl]
            refine ⟨{ link with
                server := some { h with rb := rb }
                transit := link.transit.drop data.length }, ?_, hc.intact,
              ⟨tail, bytes ++ data, htail, ?_, ?_⟩, hc.handed_prefix, hc.popped_prefix, hc.refused⟩
            · simp only [act, hserver, htransit, hwrote, arrived, bind, Except.bind, pure,
                Except.pure, Option.map_some]
            · rw [List.append_assoc, hsplit, hwire]
            · intro h' hsome
              obtain rfl := Option.some.inj hsome
              exact ⟨⟨consumed, held ++ data, by rw [hcut, List.append_assoc], hholds,
                MyTcpHandler.matches_congr hmatch rb h.pkgs, hhanded⟩, hcap.trans hf.capacity_eq,
                hf.max_eq, hf.refused, hf.ledger⟩

/-- A round of the state machine keeps `Carries`. -/
theorem iterate_carries (hc : link.Carries sent handed popped) (junk : Nat → UInt8) :
    ∃ link' event, link.act config (.iterate junk) = .ok (link', event) ∧
      event.sentOut = [] ∧ event.poppedOut = [] ∧
      link'.Carries sent (handed ++ event.handedOver) popped := by
  cases hserver : link.server with
  | none =>
      exact ⟨link, .quiet, by simp [act, hserver], rfl, rfl,
        by simpa [Event.handedOver] using hc⟩
  | some h =>
      obtain ⟨bytes, hf, hrange, -⟩ := hc.received hserver
      obtain ⟨h', event, hact, hnone, -⟩ := MyTcpHandler.iterate_follows hf
        (MyTcpHandler.bounded_of_inRange hf hrange) junk
      refine ⟨{ link with server := some h' }, .server event, ?_, rfl, hnone, ?_⟩
      · simp [act, hserver, hact, bind, Except.bind, pure, Except.pure]
      · refine hc.moved hserver fun bytes' hf' hrange' => ?_
        obtain ⟨h'', event', hact', -, hf''⟩ := MyTcpHandler.iterate_follows hf'
          (MyTcpHandler.bounded_of_inRange hf' hrange') junk
        obtain ⟨rfl, rfl⟩ := Prod.mk.inj (Except.ok.inj (hact.symm.trans hact'))
        exact hf''

/-- `ThreadProcessPkg` keeps `Carries`. -/
theorem pop_carries (hc : link.Carries sent handed popped) :
    ∃ link' event, link.act config .pop = .ok (link', event) ∧
      event.sentOut = [] ∧ event.handedOver = [] ∧
      link'.Carries sent handed (popped ++ event.poppedOut) := by
  cases hserver : link.server with
  | none =>
      exact ⟨link, .quiet, by simp [act, hserver], rfl, rfl, by simpa [Event.poppedOut] using hc⟩
  | some h =>
      obtain ⟨bytes, hf, -, -⟩ := hc.received hserver
      obtain ⟨h', event, hact, hnone, -⟩ := MyTcpHandler.pop_follows hf
      refine ⟨{ link with server := some h' }, .server event, ?_, rfl, hnone, ?_⟩
      · simp [act, hserver, hact, bind, Except.bind, pure, Except.pure]
      · refine hc.moved hserver fun bytes' hf' _ => ?_
        obtain ⟨h'', event', hact', -, hf''⟩ := MyTcpHandler.pop_follows hf'
        obtain ⟨rfl, rfl⟩ := Prod.mk.inj (Except.ok.inj (hact.symm.trans hact'))
        exact hf''

/-- A step of a connection without a fault is its action. -/
theorem step_eq {link' : Link} {input : Input} {event : Event}
    (hact : link.act config input = .ok (link', event)) :
    step config (.ok link) input = (.ok link', event) := by
  simp [step, hact, bind, Except.bind]

/-- Every step keeps `Carries`. -/
theorem step_carries (hc : link.Carries sent handed popped) {input : Input}
    (hproper : input.Proper) :
    ∃ link' event, step config (.ok link) input = (.ok link', event) ∧
      link'.Carries (sent ++ event.sentOut) (handed ++ event.handedOver)
        (popped ++ event.poppedOut) := by
  cases input with
  | send cmdType sn deviceNO jsonStr outcome part now now' =>
      obtain ⟨link', event, hact, -, hhanded, hpopped, hc'⟩ := send_carries config hc hproper
      exact ⟨link', event, step_eq config hact, by simpa [hhanded, hpopped] using hc'⟩
  | onReadable more =>
      obtain ⟨link', hact, hc'⟩ := onReadable_carries config hc more
      refine ⟨link', .quiet, step_eq config hact, ?_⟩
      simpa [Event.sentOut, Event.handedOver, Event.poppedOut] using hc'
  | iterate junk =>
      obtain ⟨link', event, hact, hsent, hpopped, hc'⟩ := iterate_carries config hc junk
      exact ⟨link', event, step_eq config hact, by simpa [hsent, hpopped] using hc'⟩
  | pop =>
      obtain ⟨link', event, hact, hsent, hhanded, hc'⟩ := pop_carries config hc
      exact ⟨link', event, step_eq config hact, by simpa [hsent, hhanded] using hc'⟩

/-- Every run keeps `Carries`. -/
theorem run_carries (hc : link.Carries sent handed popped) {inputs : List Input}
    (hproper : ∀ input ∈ inputs, input.Proper) :
    ∃ link', final (step config) (.ok link) inputs = .ok link' ∧
      link'.Carries (sent ++ sentOut config (.ok link) inputs)
        (handed ++ handedOver config (.ok link) inputs)
        (popped ++ poppedOut config (.ok link) inputs) := by
  induction inputs generalizing link sent handed popped with
  | nil => exact ⟨link, rfl, by simpa [sentOut, handedOver, poppedOut] using hc⟩
  | cons input rest ih =>
      obtain ⟨hfirst, hrest⟩ := List.forall_mem_cons.mp hproper
      obtain ⟨link₁, event, hstep, hc₁⟩ := step_carries config hc hfirst
      obtain ⟨link', hfinal, hc'⟩ := ih hc₁ hrest
      refine ⟨link', by rw [final_cons, hstep]; exact hfinal, ?_⟩
      simpa [sentOut, handedOver, poppedOut, hstep, List.append_assoc] using hc'

/-! ## Reading on -/

/-- A fault stays. -/
theorem final_rounds_error (fault : Fault) (junks : List (Nat → UInt8)) :
    final MyTcpHandler.step (.error fault) (junks.map .iterate) = .error fault := by
  induction junks with
  | nil => rfl
  | cons junk rest ih => exact ih

/-- Rounds of a connection are those of its handler. -/
theorem rounds_eq {h h' : MyTcpHandler} (hserver : link.server = some h)
    {junks : List (Nat → UInt8)}
    (hfinal : final MyTcpHandler.step (.ok h) (junks.map .iterate) = .ok h') :
    final (step config) (.ok link) (junks.map .iterate) = .ok { link with server := some h' } ∧
      handedOver config (.ok link) (junks.map .iterate) =
        MyTcpHandler.handedOver (.ok h) (junks.map .iterate) ∧
      sentOut config (.ok link) (junks.map .iterate) = [] := by
  induction junks generalizing h link with
  | nil =>
      obtain rfl := Except.ok.inj hfinal
      obtain ⟨client, transit, server⟩ := link
      obtain rfl : server = some h := hserver
      exact ⟨rfl, rfl, rfl⟩
  | cons junk rest ih =>
      cases hact : h.act (.iterate junk) with
      | error fault =>
          have hfault : (MyTcpHandler.step (.ok h) (.iterate junk)).1 = .error fault := by
            simp [MyTcpHandler.step, hact, bind, Except.bind]
          rw [List.map_cons, final_cons, hfault, final_rounds_error] at hfinal
          cases hfinal
      | ok result =>
          obtain ⟨h₁, event⟩ := result
          have hone : link.act config (.iterate junk) =
              .ok ({ link with server := some h₁ }, .server event) := by
            simp [act, hserver, hact, bind, Except.bind, pure, Except.pure]
          rw [List.map_cons, final_cons, MyTcpHandler.step_eq hact] at hfinal
          have hnext : ({ link with server := some h₁ } : Link).server = some h₁ := rfl
          obtain ⟨hlast, hhanded, hsent⟩ := ih hnext hfinal
          refine ⟨?_, ?_, ?_⟩
          · rw [List.map_cons, final_cons, step_eq config hone]
            exact hlast
          · simp only [handedOver, MyTcpHandler.handedOver, List.map_cons, outputs_cons,
              List.flatMap_cons, step_eq config hone, MyTcpHandler.step_eq hact] at hhanded ⊢
            rw [hhanded]
            rfl
          · simp only [sentOut, List.map_cons, outputs_cons, List.flatMap_cons, step_eq config hone]
              at hsent ⊢
            rw [hsent]
            rfl

/-- Enough rounds hand over all that the handler has received, and make room for more. -/
theorem rounds_settled {h : MyTcpHandler} (hc : link.Carries sent handed popped)
    (hserver : link.server = some h) {junks : List (Nat → UInt8)}
    (henough : 2 * MyTcpHandler.bufferSize + 1 ≤ junks.length) :
    ∃ h', final (step config) (.ok link) (junks.map .iterate) =
        .ok { link with server := some h' } ∧
      sentOut config (.ok link) (junks.map .iterate) = [] ∧
      h'.rb.getReadLen < sizeofPkgHead ∧
      (link.transit = [] →
        (handed ++ handedOver config (.ok link) (junks.map .iterate)).map Handed.pkg = sent) := by
  obtain ⟨bytes, hf, hrange, -, hall⟩ := hc.received hserver
  obtain ⟨h', hfinal, hsettled⟩ :=
    MyTcpHandler.rounds_settle hf hrange (hf.work_le.trans henough)
  obtain ⟨hrounds, hhanded, hsent⟩ := rounds_eq config hserver hfinal
  refine ⟨h', hrounds, hsent, hsettled.short, fun hempty => ?_⟩
  rw [hhanded, hsettled.handed_eq, hall hempty]

/-- Rounds of the state machine, and then a readable socket. -/
def turn (rounds : List (Nat → UInt8) × Nat) : List Input :=
  rounds.1.map .iterate ++ [.onReadable rounds.2]

theorem proper_turn (rounds : List (Nat → UInt8) × Nat) :
    ∀ input ∈ turn rounds, input.Proper := by
  intro input hinput
  simp only [turn, List.mem_append, List.mem_map, List.mem_singleton] at hinput
  obtain ⟨junk, -, rfl⟩ | rfl := hinput <;> trivial

/-- A readable socket gives at least one of its bytes to a handler with room for them. -/
theorem onReadable_progress {h : MyTcpHandler} (hc : link.Carries sent handed popped)
    (hserver : link.server = some h) (hroom : h.rb.getReadLen < sizeofPkgHead) (more : Nat) :
    ∃ link', link.act config (.onReadable more) = .ok (link', .quiet) ∧
      link'.server.isSome ∧ link'.transit.length ≤ link.transit.length - 1 := by
  obtain ⟨bytes, hf, -, -⟩ := hc.received hserver
  obtain ⟨consumed, held, -, hrb, -, -⟩ := hf.reading
  cases htransit : link.transit with
  | nil => exact ⟨link, by simp [act, hserver, htransit], by simp [hserver], by simp [htransit]⟩
  | cons byte rest =>
      have hwritable : 0 < h.rb.getWriteLen := by
        have hwrite : h.rb.getWriteLen = h.rb.capacity - held.length := hrb.write_len
        rw [hrb.getReadLen_eq] at hroom
        rw [hwrite, hf.capacity_eq]
        simp only [sizeofPkgHead, MyTcpHandler.bufferSize] at hroom ⊢
        omega
      have hthere : (byte :: rest).take (more + 1) ≠ [] := by simp
      rcases MyTcpServerHandler.onReadable_available (s := { handler := h }) hrb hthere with
        ⟨hfull, -⟩ | ⟨-, rb, hwrote, -, -⟩
      · exact absurd hfull hwritable.ne'
      · refine ⟨{ link with
            server := some { h with rb := rb }
            transit := link.transit.drop (((byte :: rest).take (more + 1)).take
              (min h.rb.getWriteLen MyTcpServerHandler.recvBufSize)).length }, ?_, rfl, ?_⟩
        · simp only [act, hserver, htransit, hwrote, arrived, bind, Except.bind, pure, Except.pure,
            Option.map_some]
        · have hbuf := MyTcpServerHandler.recvBufSize_pos
          simp only [htransit, List.length_drop, List.length_take, List.length_cons]
          omega

/-- Turns bring all bytes to the handler. -/
theorem turns_arrive {rounds : List (List (Nat → UInt8) × Nat)}
    (hc : link.Carries sent handed popped) (hserver : link.server.isSome)
    (henough : ∀ r ∈ rounds, 2 * MyTcpHandler.bufferSize + 1 ≤ r.1.length)
    (hlong : link.transit.length ≤ rounds.length) :
    ∃ link', final (step config) (.ok link) (rounds.flatMap turn) = .ok link' ∧
      sentOut config (.ok link) (rounds.flatMap turn) = [] ∧
      link'.server.isSome ∧ link'.transit = [] := by
  induction rounds generalizing link sent handed popped with
  | nil =>
      rw [List.length_nil, Nat.le_zero, List.length_eq_zero_iff] at hlong
      exact ⟨link, rfl, rfl, hserver, hlong⟩
  | cons round rest ih =>
      obtain ⟨hround, hrest⟩ := List.forall_mem_cons.mp henough
      obtain ⟨h, hsome⟩ := Option.isSome_iff_exists.mp hserver
      obtain ⟨h₁, hfinal₁, hsent₁, hroom, -⟩ := rounds_settled config hc hsome hround
      obtain ⟨link₁, hlast₁, hc₁⟩ := run_carries config hc
        (fun input hinput => proper_turn round input (List.mem_append_left _ hinput))
      obtain rfl := Except.ok.inj (hlast₁.symm.trans hfinal₁)
      obtain ⟨link₂, hact, hlives, hless⟩ :=
        onReadable_progress config hc₁ rfl hroom round.2
      obtain ⟨link₃, hact', hc₂⟩ := onReadable_carries config hc₁ round.2
      obtain rfl := congrArg Prod.fst (Except.ok.inj (hact'.symm.trans hact))
      obtain ⟨link', hfinal, hsent, hlives', hempty⟩ :=
        ih hc₂ hlives hrest (by
          rw [List.length_cons] at hlong
          exact hless.trans (Nat.sub_le_of_le_add hlong))
      refine ⟨link', ?_, ?_, hlives', hempty⟩
      · rw [List.flatMap_cons, turn, final_append, final_append, hfinal₁, final_cons,
          step_eq config hact, final_nil]
        exact hfinal
      · simp only [sentOut, List.flatMap_cons, turn, outputs_append, List.flatMap_append,
          final_append, hfinal₁, final_cons, final_nil, step_eq config hact, outputs_cons,
          outputs_nil, List.flatMap_nil, List.append_nil] at hsent hsent₁ ⊢
        rw [hsent₁, hsent]
        rfl

/-- A cut run hands over what its two parts hand over. -/
theorem handedOver_append (state : Except Fault Link) (first second : List Input) :
    handedOver config state (first ++ second) = handedOver config state first ++
      handedOver config (final (step config) state first) second := by
  simp only [handedOver, outputs_append, List.flatMap_append]

/-- Four messages: one is sent, one meets a full socket, one is sent, and one is cut short. -/
def fourSends : List Input :=
  [.send 1 5 0 [0x7B, 0x7D] (.returned 17) 0 1 2, .onReadable 3, .iterate fun _ => 0,
    .send 1 6 0 [0x7B, 0x7D] (.raised .wouldBlock) 0 3 4,
    .send 1 7 0 [0x7B, 0x7D] (.returned 17) 0 5 6, .iterate fun _ => 0,
    .send 1 8 0 [0x7B, 0x7D] (.raised .other) 4 7 8, .iterate fun _ => 0]

/-- A message behind one that timed out with 4 bytes taken. -/
def behindTimeout : List Input :=
  [.send 1 5 0 [0x7B, 0x7D] (.raised .timedOut) 4 1 2,
    .send 1 6 0 [0x7B, 0x7D] (.returned 17) 0 3 4, .onReadable 20] ++
    List.replicate 10 (.iterate fun _ => 0)

-- `SendBase` asks for no new connection, so that the message is reported as sent and lost
example : (sentOut {} (.ok (opened fun _ => 0)) behindTimeout).length = 1 ∧
    handedOver {} (.ok (opened fun _ => 0)) behindTimeout = [] := by
  decide +kernel

end Link

end RVDataFusionServer
