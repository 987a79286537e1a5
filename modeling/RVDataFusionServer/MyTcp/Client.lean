import RVDataFusionServer.MyTcp.Reassembly
import RVDataFusionServer.MyTcp.SendBase

/-!
# The client and its reconnects

`MyTcpClient.hpp`: a handler with a connection that can be lost and made again. The handler does
not notice a reconnect: its ring buffer, its status and its package buffer stay what they were.
`freshAfter_iff` says when this does no harm.
-/

namespace RVDataFusionServer

open Library Execution

/-- `MyTcpClient`. -/
structure MyTcpClient where
  handler : MyTcpHandler
  connection : Connection := {}

namespace MyTcpClient

/-- The size of `recvBuf`. -/
def recvBufSize : Nat := 1024 * 1024

/-- The constructor. `junk` is what the new ring buffer holds. -/
def new (junk : Nat → UInt8) : MyTcpClient where
  handler := MyTcpHandler.new junk

/-- What happens to a client: the receiving thread of `Run` finds bytes or an error at the socket,
a package is sent, `Open` or `Reconnect` is called, the state machine makes one round, or
`ThreadProcessPkg` asks for a package. -/
inductive Input where
  | receive (data : List UInt8)
  | receiveFailed (code : SocketError)
  | sendBase (config : ReconnectConfig) (pkg : Pkg) (outcome : SendOutcome) (now now' : UInt64)
  | reconnect (connected : Bool)
  | iterate (junk : Nat → UInt8)
  | pop

/-- A step of the client's handler. -/
def actHandler (c : MyTcpClient) (input : MyTcpHandler.Input) :
    Except Fault (MyTcpClient × MyTcpHandler.Event) := do
  let (h, event) ← c.handler.act input
  pure ({ c with handler := h }, event)

/-- A step of a client whose handler has not faulted. Of the bytes that wait at the socket, the
receiving thread takes as many as fit into the ring buffer and `recvBuf`. -/
def act (c : MyTcpClient) : Input → Except Fault (MyTcpClient × MyTcpHandler.Event)
  | .receive data =>
      if c.connection.isNeedReconnect then .ok (c, .quiet)
      else
        let recvLen := min c.handler.rb.getWriteLen recvBufSize
        let data := data.take recvLen
        if data = [] then .ok (c, .quiet) else c.actHandler (.write data)
  | .receiveFailed code =>
      if code = .other then
        .ok ({ c with connection := { c.connection with isNeedReconnect := true } }, .quiet)
      else .ok (c, .quiet)
  | .sendBase config pkg outcome now now' => do
      let (_, connection) ← c.connection.sendBase config pkg outcome now now'
      pure ({ c with connection := connection }, .quiet)
  | .reconnect connected =>
      .ok ({ c with connection := (c.connection.connect connected).2 }, .quiet)
  | .iterate junk => c.actHandler (.iterate junk)
  | .pop => c.actHandler .pop

/-- A step of a client. A fault is final. -/
def step (state : Except Fault MyTcpClient) (input : Input) :
    Except Fault MyTcpClient × MyTcpHandler.Event :=
  match state >>= fun c => c.act input with
  | .ok (c, event) => (.ok c, event)
  | .error fault => (.error fault, .quiet)

/-- The bytes that a step adds to the ring buffer. -/
def Input.added : Input → MyTcpHandler.Event → List UInt8
  | .receive data, .wrote count => data.take count
  | _, _ => []

/-- The bytes that a run adds to the ring buffer. -/
def received (state : Except Fault MyTcpClient) (inputs : List Input) : List UInt8 :=
  (List.zipWith Input.added inputs (outputs step state inputs)).flatten

/-- The packages that a run hands to `pkgs`. -/
def handedOver (state : Except Fault MyTcpClient) (inputs : List Input) : List Handed :=
  (outputs step state inputs).flatMap MyTcpHandler.Event.handedOver

/-- The packages that a run takes from `pkgs`. -/
def poppedOut (state : Except Fault MyTcpClient) (inputs : List Input) : List Pkg :=
  (outputs step state inputs).flatMap MyTcpHandler.Event.poppedOut

variable {c : MyTcpClient} {bytes : List UInt8} {handed : List Handed} {popped : List Pkg}

/-- A step of a client that has not faulted is its action. -/
theorem step_eq {c' : MyTcpClient} {input : Input} {event : MyTcpHandler.Event}
    (heq : c.act input = .ok (c', event)) : step (.ok c) input = (.ok c', event) := by
  simp [step, heq, bind, Except.bind]

/-- A step of the handler alone keeps `Follows`. -/
theorem actHandler_follows (input : MyTcpHandler.Input)
    (hf : c.handler.Follows bytes handed popped)
    (hadmits : MyTcpHandler.Admits (.ok c.handler) input) :
    ∃ c' event, c.actHandler input = .ok (c', event) ∧
      c'.handler.Follows (bytes ++ input.added event) (handed ++ event.handedOver)
        (popped ++ event.poppedOut) := by
  obtain ⟨h', event, heq, hf'⟩ := MyTcpHandler.act_follows input hf hadmits
  exact ⟨{ c with handler := h' }, event,
    by simp [actHandler, heq, bind, Except.bind, pure, Except.pure], hf'⟩

/-- A step that leaves the handler alone keeps `Follows`. -/
theorem quiet_follows {input : Input} (connection : Connection)
    (hf : c.handler.Follows bytes handed popped)
    (heq : c.act input = .ok ({ c with connection := connection }, .quiet)) :
    ∃ c' event, c.act input = .ok (c', event) ∧
      c'.handler.Follows (bytes ++ input.added event) (handed ++ event.handedOver)
        (popped ++ event.poppedOut) := by
  refine ⟨_, _, heq, ?_⟩
  have hnone : input.added .quiet = [] := by cases input <;> rfl
  simpa [hnone, MyTcpHandler.Event.handedOver, MyTcpHandler.Event.poppedOut] using hf

/-- On bytes in range, every step of a client keeps `Follows` of its handler. -/
theorem act_follows (hf : c.handler.Follows bytes handed popped)
    (hrange : Allowed scan InRange [] bytes) (input : Input) :
    ∃ c' event, c.act input = .ok (c', event) ∧
      c'.handler.Follows (bytes ++ input.added event) (handed ++ event.handedOver)
        (popped ++ event.poppedOut) := by
  cases input with
  | receive data =>
      set recvLen := min c.handler.rb.getWriteLen recvBufSize with hrecvLen
      by_cases hneed : c.connection.isNeedReconnect = true
      · exact quiet_follows c.connection hf (by simp [act, hneed])
      by_cases hnil : data.take recvLen = []
      · exact quiet_follows c.connection hf
          (by simp only [act, ← hrecvLen, hneed, hnil, if_true]; rfl)
      obtain ⟨h', count, heq, hcount, hf'⟩ := MyTcpHandler.write_follows hf (data.take recvLen)
      refine ⟨{ c with handler := h' }, .wrote count, ?_, ?_⟩
      · simp only [act, ← hrecvLen, hneed, hnil, if_false, actHandler, heq, bind, Except.bind,
          pure, Except.pure]
        rfl
      · rw [List.length_take] at hcount
        rw [List.take_take, Nat.min_eq_left (by omega)] at hf'
        simpa [Input.added, MyTcpHandler.Event.handedOver, MyTcpHandler.Event.poppedOut] using hf'
  | receiveFailed code =>
      by_cases hcode : code = .other
      · exact quiet_follows { c.connection with isNeedReconnect := true } hf
          (by simp [act, hcode])
      · exact quiet_follows c.connection hf (by simp [act, hcode])
  | sendBase config pkg outcome now now' =>
      obtain ⟨⟨ret, connection⟩, heq⟩ := c.connection.sendBase_ok config pkg outcome now now'
      exact quiet_follows connection hf
        (by simp [act, heq, bind, Except.bind, pure, Except.pure])
  | reconnect connected =>
      exact quiet_follows (c.connection.connect connected).2 hf rfl
  | iterate junk =>
      obtain ⟨c', event, heq, hf'⟩ := actHandler_follows (.iterate junk) hf
        (MyTcpHandler.bounded_of_inRange hf hrange)
      exact ⟨c', event, heq, by simpa [Input.added, MyTcpHandler.Input.added] using hf'⟩
  | pop =>
      obtain ⟨c', event, heq, hf'⟩ := actHandler_follows .pop hf trivial
      exact ⟨c', event, heq, by simpa [Input.added, MyTcpHandler.Input.added] using hf'⟩

/-- Every run of a client whose bytes, over all its connections, are in range keeps `Follows` of
its handler. -/
theorem run_follows (inputs : List Input) (hf : c.handler.Follows bytes handed popped)
    (hrange : Allowed scan InRange [] (bytes ++ received (.ok c) inputs)) :
    ∃ c', final step (.ok c) inputs = .ok c' ∧
      c'.handler.Follows (bytes ++ received (.ok c) inputs) (handed ++ handedOver (.ok c) inputs)
        (popped ++ poppedOut (.ok c) inputs) := by
  induction inputs generalizing c bytes handed popped with
  | nil => exact ⟨c, rfl, by simpa [received, handedOver, poppedOut] using hf⟩
  | cons input rest ih =>
      obtain ⟨c₁, event, heq, hf₁⟩ :=
        act_follows hf ((allowed_append _ _ _).mp hrange).1 input
      obtain ⟨c', hfinal, hf'⟩ := ih hf₁ (by
        simpa [received, step_eq heq, List.append_assoc] using hrange)
      refine ⟨c', by rw [final_cons, step_eq heq]; exact hfinal, ?_⟩
      simpa [received, handedOver, poppedOut, step_eq heq, List.append_assoc] using hf'

/-- Rounds of the state machine do to a client what they do to its handler. -/
theorem rounds_eq {junks : List (Nat → UInt8)} {h' : MyTcpHandler}
    (hfinal : final MyTcpHandler.step (.ok c.handler) (junks.map .iterate) = .ok h') :
    final step (.ok c) (junks.map .iterate) = .ok { c with handler := h' } ∧
      handedOver (.ok c) (junks.map .iterate) =
        MyTcpHandler.handedOver (.ok c.handler) (junks.map .iterate) := by
  induction junks generalizing c with
  | nil =>
      obtain rfl : c.handler = h' := Except.ok.inj hfinal
      exact ⟨rfl, rfl⟩
  | cons junk rest ih =>
      rw [List.map_cons, final_cons] at hfinal
      cases hact : c.handler.act (.iterate junk) with
      | error fault =>
          have hstep : MyTcpHandler.step (.ok c.handler) (.iterate junk) =
              (.error fault, .quiet) := by
            simp [MyTcpHandler.step, hact, bind, Except.bind]
          have hstuck (inputs : List MyTcpHandler.Input) :
              final MyTcpHandler.step (.error fault) inputs = .error fault := by
            induction inputs with
            | nil => rfl
            | cons input rest ih => exact ih
          rw [hstep, hstuck] at hfinal
          cases hfinal
      | ok result =>
          obtain ⟨h₁, event⟩ := result
          rw [MyTcpHandler.step_eq hact] at hfinal
          have hstep : step (.ok c) (.iterate junk) = (.ok { c with handler := h₁ }, event) :=
            step_eq (by simp [act, actHandler, hact, bind, Except.bind, pure, Except.pure])
          obtain ⟨hrest, hhanded⟩ := ih (c := { c with handler := h₁ }) hfinal
          refine ⟨by rw [List.map_cons, final_cons, hstep]; exact hrest, ?_⟩
          simpa [handedOver, MyTcpHandler.handedOver, hstep, MyTcpHandler.step_eq hact]
            using hhanded

/-- Rounds of the state machine add nothing to the ring buffer. -/
theorem received_rounds (state : Except Fault MyTcpClient) (junks : List (Nat → UInt8)) :
    received state (junks.map .iterate) = [] := by
  induction junks generalizing state with
  | nil => rfl
  | cons junk rest ih =>
      have hnone (event : MyTcpHandler.Event) : (Input.iterate junk).added event = [] := by
        cases event <;> rfl
      have hrest := ih (step state (.iterate junk)).1
      simp only [received] at hrest
      simp [received, hnone, hrest]

/-- The bytes of a cut run. -/
theorem received_append (state : Except Fault MyTcpClient) (first second : List Input) :
    received state (first ++ second) =
      received state first ++ received (final step state first) second := by
  rw [received, outputs_append, List.zipWith_append (by simp), List.flatten_append]
  rfl

/-- The packages of a cut run. -/
theorem handedOver_append (state : Except Fault MyTcpClient) (first second : List Input) :
    handedOver state (first ++ second) =
      handedOver state first ++ handedOver (final step state first) second := by
  rw [handedOver, outputs_append, List.flatMap_append]
  rfl

end MyTcpClient

end RVDataFusionServer
