import RVDataFusionServer.MyTcp.Handler

/-!
# The server's end of a connection

`MyTcpServerHandler` (`MyTcpServer.hpp`) asks the socket for as many bytes as its ring buffer has
room for. With a full ring buffer it asks for none, takes the answer 0 for a closed connection and
deletes itself. `backpressure_iff` says that this is all that goes wrong.
-/

namespace RVDataFusionServer

open Library Execution

/-- What a socket has for its reader when it is readable: bytes, the end of the connection, or an
error that `receiveBytes` throws. -/
inductive Readable where
  | available (bytes : List UInt8) (hbytes : bytes ≠ [])
  | closed
  | raised

/-- `StreamSocket::receiveBytes`: at most `n` bytes, none of them for a closed connection. `none`
stands for the exception. -/
def Readable.receiveBytes (socket : Readable) (n : Nat) : Option (List UInt8) :=
  match socket with
  | .available bytes _ => some (bytes.take n)
  | .closed => some []
  | .raised => none

/-- `MyTcpServerHandler`, with the bytes that it has received and the bytes that its parser has
taken from the ring buffer. -/
structure MyTcpServerHandler where
  handler : MyTcpHandler
  received : List UInt8 := []
  consumed : List UInt8 := []

namespace MyTcpServerHandler

/-- The size of `recvBuf`. -/
def recvBufSize : Nat := 1024 * 1024

theorem recvBufSize_pos : 0 < recvBufSize := by decide

/-- The constructor. `junk` is what the new ring buffer holds. -/
def new (junk : Nat → UInt8) : MyTcpServerHandler where
  handler := MyTcpHandler.new junk

/-- What happens to a handler: its socket is readable, the state machine makes one round, or
`ThreadProcessPkg` asks for a package. -/
inductive Input where
  | onReadable (socket : Readable)
  | iterate (junk : Nat → UInt8)
  | pop

/-- What can be seen of a step: what a write was given and what it returned, or that the handler
has deleted itself after an answer of its socket. -/
inductive Event where
  | quiet
  | wrote (data : List UInt8) (count : Nat)
  | deleted (socket : Readable)

/-- `onReadable`. There is no handler left behind `delete this`. -/
def onReadable (s : MyTcpServerHandler) (socket : Readable) :
    Except Fault (Option MyTcpServerHandler × Event) :=
  let recvLen :=
    if s.handler.rb.getWriteLen < recvBufSize then s.handler.rb.getWriteLen else recvBufSize
  match socket.receiveBytes recvLen with
  | none => .ok (none, .deleted socket)
  | some data =>
      -- the answer to a request for no bytes is taken for the end of the connection
      if data.length ≤ 0 then .ok (none, .deleted socket)
      else do
        let (rb, count) ← s.handler.rb.write data
        let handler := { s.handler with rb := rb }
        pure (some { s with handler, received := s.received ++ data }, .wrote data count)

/-- A step of a handler that has not faulted. -/
def act (s : MyTcpServerHandler) : Input → Except Fault (Option MyTcpServerHandler × Event)
  | .onReadable socket => s.onReadable socket
  | .iterate junk => do
      let (h, _) ← s.handler.iterate junk
      let taken := s.handler.rb.getReadLen - h.rb.getReadLen
      pure (some { s with handler := h, consumed := s.consumed ++ s.handler.rb.queued.take taken },
        .quiet)
  | .pop =>
      match s.handler.pkgs.pop with
      | none => .ok (some s, .quiet)
      | some (_, pkgs) => .ok (some { s with handler := { s.handler with pkgs := pkgs } }, .quiet)

/-- A step of a handler. Nothing happens any more to one that has faulted or deleted itself. -/
def step (state : Except Fault (Option MyTcpServerHandler)) (input : Input) :
    Except Fault (Option MyTcpServerHandler) × Event :=
  match state with
  | .ok (some s) =>
      match s.act input with
      | .ok (state, event) => (.ok state, event)
      | .error fault => (.error fault, .quiet)
  | _ => (state, .quiet)

/-- A write stores all of its bytes, and a handler deletes itself for a closed connection or an
error only. -/
def Event.Healthy : Event → Prop
  | .quiet => True
  | .wrote data count => count = data.length
  | .deleted socket => socket = .closed ∨ socket = .raised

/-- The received bytes are those that the parser has taken and those that wait in the ring buffer,
in this order. -/
def InOrder : Except Fault (Option MyTcpServerHandler) → Prop
  | .ok (some s) => s.received = s.consumed ++ s.handler.rb.queued
  | _ => True

/-- In a run no byte is lost and no connection is dropped without a reason. -/
def Reliable (state : Except Fault (Option MyTcpServerHandler)) (inputs : List Input) : Prop :=
  (∀ event ∈ outputs step state inputs, event.Healthy) ∧ Always step InOrder state inputs

/-- When the socket has bytes, the ring buffer has room for at least one. -/
def Roomy : Except Fault (Option MyTcpServerHandler) → Input → Prop
  | .ok (some s), .onReadable (.available _ _) => 0 < s.handler.rb.getWriteLen
  | _, _ => True

end MyTcpServerHandler

/-! ## What a round takes from the ring buffer -/

namespace MyTcpHandler

variable {h h' : MyTcpHandler} {held : List UInt8}

/-- The ring buffer behind a round holds the end of what it held before. -/
def Fronted (rb : RingBuffer) (held : List UInt8) (rb' : RingBuffer) : Prop :=
  ∃ taken rest, held = taken ++ rest ∧ rb'.Holds rest ∧ rb'.capacity = rb.capacity

theorem Fronted.refl {rb : RingBuffer} (hrb : rb.Holds held) : Fronted rb held rb :=
  ⟨[], held, rfl, hrb, rfl⟩

theorem Fronted.read {rb rb' : RingBuffer} {count : Nat} {data : List UInt8}
    (hrb : rb.Holds held) (hread : rb.read count = .ok (rb', data)) : Fronted rb held rb' := by
  obtain ⟨rest, hsplit, hholds, hcap⟩ := RingBuffer.read_front hrb hread
  exact ⟨data, rest, hsplit, hholds, hcap⟩

theorem onStart_front (hrb : h.rb.Holds held) (hround : h.onStart = .ok h') :
    Fronted h.rb held h'.rb := by
  unfold onStart at hround
  split at hround
  · obtain ⟨⟨rb, bytes⟩, hread, hround⟩ := bind_eq_ok.mp hround
    cases hround
    exact Fronted.read hrb hread
  · cases hround
    exact Fronted.refl hrb

theorem onGetHead_front (hrb : h.rb.Holds held) {junk : Nat → UInt8}
    (hround : h.onGetHead junk = .ok h') : Fronted h.rb held h'.rb := by
  unfold onGetHead at hround
  split at hround
  · obtain ⟨⟨rb, bytes⟩, hread, hround⟩ := bind_eq_ok.mp hround
    obtain ⟨pkgBuffer, -, hround⟩ := bind_eq_ok.mp hround
    cases hround
    exact Fronted.read hrb hread
  · cases hround
    exact Fronted.refl hrb

theorem onGetBody_front (hrb : h.rb.Holds held) (hround : h.onGetBody = .ok h') :
    Fronted h.rb held h'.rb := by
  unfold onGetBody at hround
  split at hround
  · cases hround
  · obtain ⟨⟨rb, bytes⟩, hread, hround⟩ := bind_eq_ok.mp hround
    obtain ⟨pkgBuffer, -, hround⟩ := bind_eq_ok.mp hround
    cases hround
    exact Fronted.read hrb hread

theorem onGetCRC_front (hrb : h.rb.Holds held) {out : Option Handed}
    (hround : h.onGetCRC = .ok (h', out)) : Fronted h.rb held h'.rb := by
  unfold onGetCRC at hround
  split at hround
  · split at hround
    · cases hround
    · obtain ⟨⟨rb, bytes⟩, hread, hround⟩ := bind_eq_ok.mp hround
      obtain ⟨pkgBuffer, -, hround⟩ := bind_eq_ok.mp hround
      obtain ⟨⟨ret, pkg⟩, -, hround⟩ := bind_eq_ok.mp hround
      have hrest := Fronted.read hrb hread
      dsimp only at hround
      split at hround
      · cases hround
        exact hrest
      · obtain ⟨data, -, hround⟩ := bind_eq_ok.mp hround
        split at hround
        · cases hround
          exact hrest
        · cases hround
          exact hrest
  · cases hround
    exact Fronted.refl hrb

/-- Whatever its status, the state machine takes bytes from the front of the ring buffer. -/
theorem iterate_front (hrb : h.rb.Holds held) {junk : Nat → UInt8} {out : Option Handed}
    (hround : h.iterate junk = .ok (h', out)) : Fronted h.rb held h'.rb := by
  unfold iterate at hround
  split at hround
  · cases hround
    exact Fronted.refl hrb
  · cases hstatus : h.status with
    | start =>
        simp only [hstatus] at hround
        obtain ⟨next, hstart, hround⟩ := bind_eq_ok.mp hround
        cases hround
        exact onStart_front hrb hstart
    | getHead =>
        simp only [hstatus] at hround
        obtain ⟨next, hhead, hround⟩ := bind_eq_ok.mp hround
        cases hround
        exact onGetHead_front hrb hhead
    | getBody =>
        simp only [hstatus] at hround
        obtain ⟨next, hbody, hround⟩ := bind_eq_ok.mp hround
        cases hround
        exact onGetBody_front hrb hbody
    | getCRC =>
        simp only [hstatus] at hround
        exact onGetCRC_front hrb hround

end MyTcpHandler

namespace MyTcpServerHandler

/-! ## The effect of a step -/

/-- The ring buffer holds the end of what was received. -/
def Valid : Except Fault (Option MyTcpServerHandler) → Prop
  | .ok (some s) => ∃ held, s.handler.rb.Holds held ∧ s.received = s.consumed ++ held
  | _ => True

/-- A valid handler is in order. -/
theorem Valid.inOrder {state : Except Fault (Option MyTcpServerHandler)} (h : Valid state) :
    InOrder state := by
  match state, h with
  | .ok (some s), ⟨held, hholds, hreceived⟩ =>
      show s.received = s.consumed ++ s.handler.rb.queued
      rw [hholds.queued_eq]
      exact hreceived
  | .ok none, _ => trivial
  | .error _, _ => trivial

/-- A readable socket with bytes: with room in the ring buffer some of them are stored, without room
the handler deletes itself. -/
theorem onReadable_available {s : MyTcpServerHandler} {held : List UInt8}
    (hholds : s.handler.rb.Holds held) {bytes : List UInt8} (hbytes : bytes ≠ []) :
    (s.handler.rb.getWriteLen = 0 ∧
      s.onReadable (.available bytes hbytes) = .ok (none, .deleted (.available bytes hbytes))) ∨
    (0 < s.handler.rb.getWriteLen ∧ ∃ rb,
      s.onReadable (.available bytes hbytes) =
        .ok (some { s with
            handler := { s.handler with rb := rb }
            received := s.received ++ bytes.take (min s.handler.rb.getWriteLen recvBufSize) },
          .wrote (bytes.take (min s.handler.rb.getWriteLen recvBufSize))
            (bytes.take (min s.handler.rb.getWriteLen recvBufSize)).length) ∧
      rb.Holds (held ++ bytes.take (min s.handler.rb.getWriteLen recvBufSize)) ∧
      rb.capacity = s.handler.rb.capacity) := by
  have hmin : (if s.handler.rb.getWriteLen < recvBufSize then s.handler.rb.getWriteLen
      else recvBufSize) = min s.handler.rb.getWriteLen recvBufSize := by
    split <;> omega
  have hroom : s.handler.rb.getWriteLen = s.handler.rb.capacity - held.length :=
    hholds.write_len
  set data := bytes.take (min s.handler.rb.getWriteLen recvBufSize) with hdata
  have hlength : data.length = min (min s.handler.rb.getWriteLen recvBufSize) bytes.length := by
    rw [hdata, List.length_take]
  have hpos := List.length_pos_of_ne_nil hbytes
  have hbuf := recvBufSize_pos
  by_cases hzero : s.handler.rb.getWriteLen = 0
  · left
    refine ⟨hzero, ?_⟩
    have hempty : data.length ≤ 0 := by omega
    simp only [onReadable, hmin, Readable.receiveBytes, ← hdata, if_pos hempty]
  · right
    refine ⟨Nat.pos_of_ne_zero hzero, ?_⟩
    have hfits := hholds.fits
    obtain ⟨rb, hwrite, hholds', hcap⟩ := RingBuffer.write_eq data hholds (by omega)
    have hsome : ¬ data.length ≤ 0 := by omega
    refine ⟨rb, ?_, hholds', hcap⟩
    simp only [onReadable, hmin, Readable.receiveBytes, ← hdata, if_neg hsome, hwrite, bind,
      Except.bind, pure, Except.pure]

/-- Every step leaves a valid handler, if it leaves one. -/
theorem Valid.step {state : Except Fault (Option MyTcpServerHandler)} (h : Valid state)
    (input : Input) : Valid (step state input).1 := by
  match state, h with
  | .ok none, _ => trivial
  | .error _, _ => trivial
  | .ok (some s), ⟨held, hholds, hreceived⟩ =>
      cases hact : s.act input with
      | error fault => simp only [MyTcpServerHandler.step, hact, Valid]
      | ok result =>
          simp only [MyTcpServerHandler.step, hact]
          cases input with
          | onReadable socket =>
              cases socket with
              | closed =>
                  cases hact
                  trivial
              | raised =>
                  cases hact
                  trivial
              | available bytes hbytes =>
                  rcases onReadable_available hholds hbytes with
                    ⟨-, heq⟩ | ⟨-, rb, heq, hholds', -⟩
                  · obtain rfl := Except.ok.inj (heq.symm.trans hact)
                    trivial
                  · obtain rfl := Except.ok.inj (heq.symm.trans hact)
                    refine ⟨_, hholds', ?_⟩
                    show s.received ++ _ = s.consumed ++ (held ++ _)
                    rw [hreceived, List.append_assoc]
          | iterate junk =>
              obtain ⟨⟨h', out⟩, hround, hrest⟩ := bind_eq_ok.mp hact
              cases hrest
              obtain ⟨taken, rest, rfl, hholds', -⟩ := MyTcpHandler.iterate_front hholds hround
              refine ⟨rest, hholds', ?_⟩
              have hcount : s.handler.rb.getReadLen - h'.rb.getReadLen = taken.length := by
                rw [hholds.getReadLen_eq, hholds'.getReadLen_eq, List.length_append]
                exact Nat.add_sub_cancel _ _
              show s.received = s.consumed ++
                s.handler.rb.queued.take (s.handler.rb.getReadLen - h'.rb.getReadLen) ++ rest
              rw [hcount, hholds.queued_eq, List.take_left' rfl, hreceived, List.append_assoc]
          | pop =>
              simp only [act] at hact
              split at hact
              · cases hact
                exact ⟨held, hholds, hreceived⟩
              · cases hact
                exact ⟨held, hholds, hreceived⟩

/-- A step is healthy exactly if it does not meet waiting bytes with a full ring buffer. -/
theorem Valid.healthy_iff {state : Except Fault (Option MyTcpServerHandler)} (h : Valid state)
    (input : Input) : (MyTcpServerHandler.step state input).2.Healthy ↔ Roomy state input := by
  match state, h with
  | .ok none, _ => exact Iff.rfl
  | .error _, _ => exact Iff.rfl
  | .ok (some s), ⟨held, hholds, _⟩ =>
      cases input with
      | onReadable socket =>
          cases socket with
          | closed => exact ⟨fun _ => trivial, fun _ => .inl rfl⟩
          | raised => exact ⟨fun _ => trivial, fun _ => .inr rfl⟩
          | available bytes hbytes =>
              show _ ↔ 0 < s.handler.rb.getWriteLen
              rcases onReadable_available hholds hbytes with
                ⟨hzero, heq⟩ | ⟨hroom, rb, heq, -, -⟩
              · simp only [MyTcpServerHandler.step, act, heq]
                constructor
                · rintro (hclosed | hraised)
                  · cases hclosed
                  · cases hraised
                · intro hroom
                  exact absurd hzero (Nat.ne_of_gt hroom)
              · simp only [MyTcpServerHandler.step, act, heq]
                exact ⟨fun _ => hroom, fun _ => rfl⟩
      | iterate junk =>
          refine ⟨fun _ => trivial, fun _ => ?_⟩
          cases hround : s.handler.iterate junk with
          | error fault =>
              simp [MyTcpServerHandler.step, act, hround, bind, Except.bind, Event.Healthy]
          | ok result =>
              simp [MyTcpServerHandler.step, act, hround, bind, Except.bind, pure, Except.pure,
                Event.Healthy]
      | pop =>
          refine ⟨fun _ => trivial, fun _ => ?_⟩
          cases hpop : s.handler.pkgs.pop with
          | none => simp [MyTcpServerHandler.step, act, hpop, Event.Healthy]
          | some result => simp [MyTcpServerHandler.step, act, hpop, Event.Healthy]

/-- A new handler is valid. -/
theorem valid_new (junk : Nat → UInt8) : Valid (.ok (some (new junk))) :=
  ⟨[], RingBuffer.holds_new (by decide) junk, rfl⟩

/-- A run stores every byte that it receives, in order, and deletes the handler for a reason, if and
only if the ring buffer is never full when the socket has bytes. -/
theorem backpressure_iff (junk : Nat → UInt8) (inputs : List Input) :
    Reliable (.ok (some (new junk))) inputs ↔
      Allowed step Roomy (.ok (some (new junk))) inputs := by
  have hiff := forall_outputs_iff Valid (fun _ a hs => hs.step a)
    (fun _ a hs => hs.healthy_iff a) (valid_new junk) inputs
  have halways : Always step Valid (.ok (some (new junk))) inputs :=
    always_of_allowed (fun _ a hs (_ : True) => hs.step a) (valid_new junk)
      (allowed_of_forall _ _ fun _ _ _ => trivial)
  constructor
  · intro h
    exact hiff.mp h.1
  · intro hok
    exact ⟨hiff.mpr hok, halways.mono fun _ hs => hs.inOrder⟩

/-- Reads of 1 MiB fill the ring buffer as long as it has room for them. -/
theorem final_fill (n : Nat) {s : MyTcpServerHandler} {held bytes : List UInt8}
    (hbytes : bytes ≠ []) (hlength : bytes.length = recvBufSize)
    (hholds : s.handler.rb.Holds held) (hcap : s.handler.rb.capacity = MyTcpHandler.bufferSize)
    (hroom : held.length + n * recvBufSize ≤ MyTcpHandler.bufferSize) :
    ∃ s' held', final step (.ok (some s))
        (.replicate n (.onReadable (.available bytes hbytes))) = .ok (some s') ∧
      s'.handler.rb.Holds held' ∧ s'.handler.rb.capacity = MyTcpHandler.bufferSize ∧
      held'.length = held.length + n * recvBufSize := by
  induction n generalizing s held with
  | zero => exact ⟨s, held, rfl, hholds, hcap, by omega⟩
  | succ n ih =>
      have hbuf := recvBufSize_pos
      have hwrite : s.handler.rb.getWriteLen = MyTcpHandler.bufferSize - held.length := by
        rw [← hcap]
        exact hholds.write_len
      rw [Nat.succ_mul] at hroom
      rcases onReadable_available hholds hbytes with ⟨hzero, -⟩ | ⟨-, rb, heq, hholds', hcap'⟩
      · omega
      · set s₁ : MyTcpServerHandler := { s with
          handler := { s.handler with rb := rb }
          received := s.received ++ bytes.take (min s.handler.rb.getWriteLen recvBufSize) }
        have hstep : (step (.ok (some s)) (.onReadable (.available bytes hbytes))).1 =
            .ok (some s₁) := by
          simp only [step, act, heq]
        have hlength' : (held ++ bytes.take (min s.handler.rb.getWriteLen recvBufSize)).length =
            held.length + recvBufSize := by
          rw [List.length_append, List.length_take]
          omega
        obtain ⟨s', held', hfinal, hholds'', hcap'', hlen⟩ :=
          @ih s₁ _ hholds' (hcap'.trans hcap) (by omega)
        refine ⟨s', held', ?_, hholds'', hcap'', ?_⟩
        · rw [List.replicate_succ, final_cons, hstep]
          exact hfinal
        · rw [hlen, hlength', Nat.succ_mul]
          omega

/-- Four reads of 1 MiB without a round of the parser fill the ring buffer, and the next byte makes
the handler delete itself. -/
theorem not_reliable_full :
    ¬ Reliable (.ok (some (new fun _ => 0)))
      (List.replicate 4 (.onReadable (.available (0 :: List.replicate (recvBufSize - 1) 0)
        (List.cons_ne_nil _ _))) ++ [.onReadable (.available [0] (List.cons_ne_nil _ _))]) := by
  intro h
  have hstart : (new fun _ => 0).handler.rb.Holds [] := RingBuffer.holds_new (by decide) _
  have hnew : (new fun _ => 0).handler.rb.capacity = MyTcpHandler.bufferSize := rfl
  have hroom : ([] : List UInt8).length + 4 * recvBufSize ≤ MyTcpHandler.bufferSize := by decide
  obtain ⟨s, held, hfinal, hholds, hcap, hlen⟩ := final_fill 4
    (List.cons_ne_nil 0 (List.replicate (recvBufSize - 1) 0))
    (by rw [List.length_cons, List.length_replicate]; decide) hstart hnew hroom
  have hfull : s.handler.rb.getWriteLen = 0 := by
    rw [show s.handler.rb.getWriteLen = _ from hholds.write_len, hcap, hlen]
    decide
  have hdeleted : (step (.ok (some s)) (.onReadable (.available [0] (List.cons_ne_nil _ _)))).2 =
      .deleted (.available [0] (List.cons_ne_nil _ _)) := by
    rcases onReadable_available hholds (List.cons_ne_nil (0 : UInt8) []) with
      ⟨-, heq⟩ | ⟨hroom, -⟩
    · simp only [step, act, heq]
    · omega
  have hmem := h.1 (.deleted (.available [0] (List.cons_ne_nil _ _))) (by
    rw [outputs_append, hfinal, outputs_cons, hdeleted]
    simp)
  rcases hmem with hclosed | hraised
  · cases hclosed
  · cases hraised

end MyTcpServerHandler

end RVDataFusionServer
