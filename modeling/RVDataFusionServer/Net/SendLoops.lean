import Mathlib.Data.List.Basic
import Mathlib.Tactic.Ring

/-!
# The send loops

`TlsClient::Write`, `TcpClient::Send`, `TcpServerClient::Send` and `UdpClient::Send` hand a message
to the underlying write until it has taken all of it. All four return what the last write took, one
of them does not go on after an interruption, and two of them count in an `int` what they are given
in a `uint32_t`: `send_delivers_iff` says for which outcomes of the writes a call does its work. The
text that is printed for an error is left out.
-/

namespace RVDataFusionServer

/-- The outcome of `send`, `sendto` or `SSL_write`: it takes `more + 1` bytes, or all it is given
if these are fewer, it is interrupted, it takes nothing, or it fails otherwise. -/
inductive WriteOutcome where
  | wrote (more : Nat)
  | eintr
  | eof
  | error
  deriving DecidableEq, Repr

/-- The variables of a send loop, with the bytes that the socket has taken, the outcomes so far and
the state of the send lock. -/
structure SendVars where
  nleft : Int
  nsend : Int
  ptr : Nat
  accepted : List UInt8
  seen : List WriteOutcome
  locked : Bool

/-- What a call leaves behind, with its return value. -/
structure SendResult where
  ret : Int
  accepted : List UInt8
  seen : List WriteOutcome
  locked : Bool
  deriving DecidableEq, Repr

/-- What a turn of the loop comes to: the next test of the loop, its end, or a return. -/
inductive SendTurn where
  | again (vars : SendVars)
  | leave (vars : SendVars)
  | ret (result : SendResult)

/-- The body of the loops. `TlsClient::Write` holds a `unique_lock`, and the others unlock before
they return. -/
def sendTurn (data : List UInt8) (vars : SendVars) (outcome : WriteOutcome) : SendTurn :=
  let seen := vars.seen ++ [outcome]
  match outcome with
  | .wrote more =>
      let nsend := min (more + 1) vars.nleft.toNat
      .again
        { vars with
          nleft := vars.nleft - nsend
          nsend := nsend
          ptr := vars.ptr + nsend
          accepted := vars.accepted ++ (data.drop vars.ptr).take nsend
          seen := seen }
  | .eintr => .again { vars with nsend := 0, seen := seen }
  | .eof => .leave { vars with nsend := 0, seen := seen }
  | .error => .ret ⟨-1, vars.accepted, seen, false⟩

/-- The body in `TcpServerClient::Send`, which returns from an interruption as it is. -/
def sendTurnServer (data : List UInt8) (vars : SendVars) (outcome : WriteOutcome) : SendTurn :=
  match outcome with
  | .eintr => .ret ⟨-1, vars.accepted, vars.seen ++ [.eintr], vars.locked⟩
  | outcome => sendTurn data vars outcome

/-- The end of a call: the lock is released and `nsend` returned. -/
def SendVars.finish (vars : SendVars) : SendResult := ⟨vars.nsend, vars.accepted, vars.seen, false⟩

/-- The loop, with the outcomes of its writes: `none` when they do not suffice for it to end. -/
def sendLoop (turn : SendVars → WriteOutcome → SendTurn) (vars : SendVars) :
    List WriteOutcome → Option SendResult
  | [] => if vars.nleft > 0 then none else some vars.finish
  | outcome :: rest =>
      if vars.nleft > 0 then
        match turn vars outcome with
        | .again vars => sendLoop turn vars rest
        | .leave vars => some vars.finish
        | .ret result => some result
      else some vars.finish

/-- The variables in front of the loop, behind the lock. -/
def SendVars.start (nleft : Int) : SendVars := ⟨nleft, 0, 0, [], [], true⟩

/-- The result without a socket. -/
def noSocket : SendResult := ⟨0, [], [], false⟩

/-- `TlsClient::Write`, whose length is an `int`. -/
def TlsClient.write (sock : Bool) (data : List UInt8) (outcomes : List WriteOutcome) :
    Option SendResult :=
  if sock then sendLoop (sendTurn data) (.start data.length) outcomes else some noSocket

/-- `TcpClient::Send`. The length is a `uint32_t`, and `nleft` an `int`. -/
def TcpClient.send (sock : Bool) (data : List UInt8) (outcomes : List WriteOutcome) :
    Option SendResult :=
  if sock then sendLoop (sendTurn data) (.start (Int.bmod data.length (2 ^ 32))) outcomes
  else some noSocket

/-- `TcpServerClient::Send`, whose length is an `int`. -/
def TcpServerClient.send (sock : Bool) (data : List UInt8) (outcomes : List WriteOutcome) :
    Option SendResult :=
  if sock then sendLoop (sendTurnServer data) (.start data.length) outcomes else some noSocket

/-- `UdpClient::Send`, with a `uint32_t` as well. -/
def UdpClient.send (sock : Bool) (data : List UInt8) (outcomes : List WriteOutcome) :
    Option SendResult :=
  if sock then sendLoop (sendTurn data) (.start (Int.bmod data.length (2 ^ 32))) outcomes
  else some noSocket

/-- The four functions. -/
inductive Sender where
  | tlsClient
  | tcpClient
  | tcpServerClient
  | udpClient
  deriving DecidableEq, Repr

namespace Sender

/-- A call. -/
def send : Sender → Bool → List UInt8 → List WriteOutcome → Option SendResult
  | .tlsClient => TlsClient.write
  | .tcpClient => TcpClient.send
  | .tcpServerClient => TcpServerClient.send
  | .udpClient => UdpClient.send

/-- The lengths that the parameter can have are below this. -/
def limit : Sender → Nat
  | .tlsClient => 2 ^ 31
  | .tcpClient => 2 ^ 32
  | .tcpServerClient => 2 ^ 31
  | .udpClient => 2 ^ 32

/-- The outcomes that make a difference: the others try again after an interruption. -/
def relevant (sender : Sender) (outcomes : List WriteOutcome) : List WriteOutcome :=
  if sender = .tcpServerClient then outcomes else outcomes.filter (· ≠ .eintr)

end Sender

/-- A call does its work: the socket takes the bytes in order, and all of them as long as no write
reports an end or an error, the return value is the length exactly if it takes all of them, and the
lock is free. -/
structure Delivers (sock : Bool) (data : List UInt8) (r : SendResult) : Prop where
  in_order : r.accepted <+: data
  complete : sock = true → (∀ outcome ∈ r.seen, outcome ≠ .eof ∧ outcome ≠ .error) →
    r.accepted = data
  ret_iff : r.ret = data.length ↔ r.accepted = data
  unlocked : r.locked = false

/-- How many bytes the first writes would take. -/
def written : List WriteOutcome → Nat
  | .wrote more :: rest => more + 1 + written rest
  | _ => 0

/-- The outcome behind the first writes. -/
def stop : List WriteOutcome → Option WriteOutcome
  | .wrote _ :: rest => stop rest
  | outcomes => outcomes.head?

/-- The first write takes everything. -/
def AtOnce (n : Nat) : List WriteOutcome → Prop
  | .wrote more :: _ => n ≤ more + 1
  | _ => False

/-- The writes end before everything is taken, and not by an interruption. -/
def EndsEarly (n : Nat) (outcomes : List WriteOutcome) : Prop :=
  written outcomes < n ∧ stop outcomes ≠ some .eintr

/-! ## The loop -/

/-- The body of a function's loop. -/
def Sender.turn (sender : Sender) (data : List UInt8) : SendVars → WriteOutcome → SendTurn :=
  if sender = .tcpServerClient then sendTurnServer data else sendTurn data

/-- With `m` bytes left, the socket has taken the bytes in front of them. -/
structure SendVars.Inv (data : List UInt8) (m : Nat) (vars : SendVars) : Prop where
  nleft_eq : vars.nleft = m
  ptr_add : vars.ptr + m = data.length
  accepted_eq : vars.accepted = data.take vars.ptr
  locked_eq : vars.locked = true

/-- How a call with `m` bytes left ends, by the outcomes that make a difference. -/
inductive Ended (data : List UInt8) (m : Nat) (outcomes : List WriteOutcome) (r : SendResult) :
    Prop where
  | taken (hwritten : m ≤ written outcomes) (haccepted : r.accepted = data)
      (hret : r.ret = m ↔ AtOnce m outcomes) (hle : r.ret ≤ m) (hlocked : r.locked = false)
  | stopped (hwritten : written outcomes < m) (hstop : stop outcomes ≠ some .eintr)
      (haccepted : r.accepted = data.take (data.length - m + written outcomes)) (hret : r.ret ≤ 0)
      (hseen : ∃ outcome ∈ r.seen, outcome = .eof ∨ outcome = .error)
      (hlocked : r.locked = false)
  | interrupted (hwritten : written outcomes < m) (hstop : stop outcomes = some .eintr)
      (hlocked : r.locked = true)

variable {sender : Sender} {data : List UInt8} {vars : SendVars} {m : Nat} {r : SendResult}

/-- All functions do the same with an outcome that is no interruption. -/
theorem Sender.turn_of_ne {outcome : WriteOutcome} (h : outcome ≠ .eintr) :
    sender.turn data vars outcome = sendTurn data vars outcome := by
  rw [Sender.turn]
  split
  · cases outcome with
    | eintr => exact absurd rfl h
    | wrote more => rfl
    | eof => rfl
    | error => rfl
  · rfl

theorem Sender.relevant_cons_of_ne {outcome : WriteOutcome} (h : outcome ≠ .eintr)
    (rest : List WriteOutcome) :
    sender.relevant (outcome :: rest) = outcome :: sender.relevant rest := by
  rw [Sender.relevant, Sender.relevant]
  split
  · rfl
  · exact List.filter_cons_of_pos (decide_eq_true h)

/-- A write that takes `k` bytes. -/
theorem SendVars.Inv.wrote (h : vars.Inv data m) {k : Nat} (hk : k ≤ m) (nsend : Int)
    (seen : List WriteOutcome) :
    SendVars.Inv data (m - k)
      { vars with
        nleft := vars.nleft - k
        nsend := nsend
        ptr := vars.ptr + k
        accepted := vars.accepted ++ (data.drop vars.ptr).take k
        seen := seen } where
  nleft_eq := by
    show vars.nleft - k = _
    rw [h.nleft_eq]
    omega
  ptr_add := by
    have hptr := h.ptr_add
    show vars.ptr + k + (m - k) = _
    omega
  accepted_eq := by
    show vars.accepted ++ _ = _
    rw [h.accepted_eq, List.take_add]
  locked_eq := h.locked_eq

/-- The loop without bytes left. -/
theorem sendLoop_done {turn : SendVars → WriteOutcome → SendTurn} (h : vars.nleft ≤ 0)
    (outcomes : List WriteOutcome) : sendLoop turn vars outcomes = some vars.finish := by
  cases outcomes with
  | nil => exact if_neg (by omega)
  | cons outcome rest => exact if_neg (by omega)

/-- A call ends where a write reports an end or an error. -/
theorem SendVars.Inv.stopped (h : vars.Inv data m) (hpos : 0 < m) {outcome : WriteOutcome}
    (houtcome : outcome = .eof ∨ outcome = .error) (rest : List WriteOutcome) {ret : Int}
    (hret : ret ≤ 0) :
    Ended data m (outcome :: rest) ⟨ret, vars.accepted, vars.seen ++ [outcome], false⟩ := by
  have hptr := h.ptr_add
  have hnone : written (outcome :: rest) = 0 ∧ stop (outcome :: rest) ≠ some .eintr := by
    obtain rfl | rfl := houtcome
    · exact ⟨rfl, by simp [stop]⟩
    · exact ⟨rfl, by simp [stop]⟩
  refine .stopped (by rw [hnone.1]; exact hpos) hnone.2 ?_ hret
    ⟨outcome, List.mem_append_right _ (List.mem_singleton_self _), houtcome⟩ rfl
  show vars.accepted = _
  rw [h.accepted_eq, hnone.1]
  congr 1
  omega

/-- A call ends where a write takes all that is left. -/
theorem SendVars.Inv.taken (h : vars.Inv data 0) {more : Nat} (hm : m ≤ more + 1)
    (hnsend : vars.nsend = m) (rest : List WriteOutcome) :
    Ended data m (.wrote more :: rest) vars.finish := by
  have hptr := h.ptr_add
  refine .taken ?_ ?_ (iff_of_true hnsend hm) (Int.le_of_eq hnsend) rfl
  · show m ≤ more + 1 + written rest
    omega
  · show vars.accepted = data
    rw [h.accepted_eq]
    exact List.take_of_length_le (by omega)

/-- A write that leaves something does not end a call. -/
theorem Ended.cons_wrote {more : Nat} (hlt : more + 1 < m) (hm : m ≤ data.length)
    {outcomes : List WriteOutcome} (h : Ended data (m - (more + 1)) outcomes r) :
    Ended data m (.wrote more :: outcomes) r := by
  have hwritten : written (.wrote more :: outcomes) = more + 1 + written outcomes := rfl
  cases h with
  | taken hall haccepted hret hle hlocked =>
      refine .taken (by omega) haccepted (iff_of_false ?_ ?_) (by omega) hlocked
      · omega
      · show ¬ m ≤ more + 1
        omega
  | stopped hsome hstop haccepted hret hseen hlocked =>
      refine .stopped (by omega) hstop ?_ hret hseen hlocked
      rw [haccepted, hwritten]
      congr 1
      omega
  | interrupted hsome hstop hlocked => exact .interrupted (by omega) hstop hlocked

/-- How a call ends follows from the outcomes that make a difference. -/
theorem sendLoop_ended {outcomes : List WriteOutcome} (h : vars.Inv data m) (hpos : 0 < m)
    (hloop : sendLoop (sender.turn data) vars outcomes = some r) :
    Ended data m (sender.relevant outcomes) r := by
  induction outcomes generalizing vars m with
  | nil =>
      have hleft := h.nleft_eq
      rw [sendLoop, if_pos (by omega)] at hloop
      cases hloop
  | cons outcome rest ih =>
      have hleft := h.nleft_eq
      have hptr := h.ptr_add
      rw [sendLoop, if_pos (by omega)] at hloop
      cases outcome with
      | wrote more =>
          rw [Sender.relevant_cons_of_ne WriteOutcome.noConfusion]
          rw [Sender.turn_of_ne WriteOutcome.noConfusion, sendTurn,
            show vars.nleft.toNat = m by omega] at hloop
          by_cases hall : m ≤ more + 1
          · rw [Nat.min_eq_right hall] at hloop
            have hnext := h.wrote (Nat.le_refl m) m (vars.seen ++ [.wrote more])
            rw [Nat.sub_self] at hnext
            obtain rfl := Option.some.inj
              ((sendLoop_done (Int.le_of_eq hnext.nleft_eq) rest).symm.trans hloop)
            exact hnext.taken hall rfl _
          · rw [Nat.min_eq_left (by omega)] at hloop
            have hnext := h.wrote (by omega : more + 1 ≤ m) (more + 1 : Nat)
              (vars.seen ++ [.wrote more])
            exact (ih hnext (by omega) hloop).cons_wrote (by omega) (by omega)
      | eintr =>
          by_cases hserver : sender = .tcpServerClient
          · -- the server returns with the lock
            rw [Sender.relevant, if_pos hserver]
            rw [Sender.turn, if_pos hserver] at hloop
            obtain rfl := Option.some.inj hloop
            exact .interrupted hpos rfl h.locked_eq
          · have hrelevant : sender.relevant (.eintr :: rest) = sender.relevant rest := by
              rw [Sender.relevant, Sender.relevant, if_neg hserver, if_neg hserver]
              rfl
            have hnext : SendVars.Inv data m
                { vars with nsend := 0, seen := vars.seen ++ [.eintr] } :=
              ⟨h.nleft_eq, h.ptr_add, h.accepted_eq, h.locked_eq⟩
            rw [Sender.turn, if_neg hserver] at hloop ih
            rw [hrelevant]
            exact ih hnext hpos hloop
      | eof =>
          rw [Sender.relevant_cons_of_ne WriteOutcome.noConfusion]
          rw [Sender.turn_of_ne WriteOutcome.noConfusion] at hloop
          obtain rfl := Option.some.inj hloop
          exact h.stopped hpos (Or.inl rfl) _ (Int.le_refl 0)
      | error =>
          rw [Sender.relevant_cons_of_ne WriteOutcome.noConfusion]
          rw [Sender.turn_of_ne WriteOutcome.noConfusion] at hloop
          obtain rfl := Option.some.inj hloop
          exact h.stopped hpos (Or.inr rfl) _ (by omega)

/-! ## The calls -/

/-- A loop ends after as many outcomes that are no interruptions as there are bytes left. -/
theorem sendLoop_returns {outcomes : List WriteOutcome}
    (h : vars.nleft ≤ (outcomes.filter (· ≠ .eintr)).length) :
    ∃ r, sendLoop (sender.turn data) vars outcomes = some r := by
  induction outcomes generalizing vars with
  | nil => exact ⟨_, sendLoop_done h []⟩
  | cons outcome rest ih =>
      by_cases hleft : vars.nleft ≤ 0
      · exact ⟨_, sendLoop_done hleft _⟩
      · rw [sendLoop, if_pos (by omega)]
        cases outcome with
        | wrote more =>
            rw [Sender.turn_of_ne WriteOutcome.noConfusion]
            rw [List.filter_cons_of_pos (by simp), List.length_cons] at h
            apply ih
            show vars.nleft - (min (more + 1) vars.nleft.toNat : Nat) ≤ _
            omega
        | eintr =>
            by_cases hserver : sender = .tcpServerClient
            · rw [Sender.turn, if_pos hserver]
              exact ⟨_, rfl⟩
            · rw [Sender.turn, if_neg hserver] at ih ⊢
              exact ih h
        | eof =>
            rw [Sender.turn_of_ne WriteOutcome.noConfusion]
            exact ⟨_, rfl⟩
        | error =>
            rw [Sender.turn_of_ne WriteOutcome.noConfusion]
            exact ⟨_, rfl⟩

/-- A call with a socket: the loop, with the length as an `int`. -/
theorem Sender.send_sock (sender : Sender) {data : List UInt8} (outcomes : List WriteOutcome)
    (hfits : data.length < sender.limit) :
    sender.send true data outcomes =
      sendLoop (sender.turn data) (.start (Int.bmod data.length (2 ^ 32))) outcomes := by
  have hint (h : data.length < 2 ^ 31) : Int.bmod data.length (2 ^ 32) = data.length :=
    Int.bmod_eq_of_le (by omega) (by omega)
  cases sender with
  | tlsClient =>
      rw [hint hfits]
      rfl
  | tcpClient => rfl
  | tcpServerClient =>
      rw [hint hfits]
      rfl
  | udpClient => rfl

theorem Sender.send_noSocket (sender : Sender) (data : List UInt8)
    (outcomes : List WriteOutcome) : sender.send false data outcomes = some noSocket := by
  cases sender <;> rfl

/-- A call returns after as many outcomes that are no interruptions as the message has bytes. -/
theorem Sender.send_returns (sender : Sender) (sock : Bool) {data : List UInt8}
    (hfits : data.length < sender.limit) {outcomes : List WriteOutcome}
    (h : data.length ≤ (outcomes.filter (· ≠ .eintr)).length) :
    ∃ r, sender.send sock data outcomes = some r := by
  cases sock with
  | false => exact ⟨_, sender.send_noSocket data outcomes⟩
  | true =>
      rw [sender.send_sock outcomes hfits]
      have hle : Int.bmod data.length (2 ^ 32) ≤ data.length := by
        rw [Int.bmod_def]
        omega
      have hcount : (data.length : Int) ≤ (outcomes.filter (· ≠ .eintr)).length :=
        Int.ofNat_le.mpr h
      generalize Int.bmod data.length (2 ^ 32) = nleft at hle
      exact sendLoop_returns (Int.le_trans hle hcount)

/-- Without a socket a call does nothing, and says so. -/
theorem delivers_noSocket {data : List UInt8} (hne : data ≠ []) :
    Delivers false data noSocket where
  in_order := List.nil_prefix
  complete h := by cases h
  ret_iff := by
    apply iff_of_false
    · intro h
      have hzero : (0 : Int) = data.length := h
      exact hne (List.length_eq_zero_iff.mp (by omega))
    · exact fun h => hne h.symm
  unlocked := rfl

/-- A length that an `int` cannot hold is taken for a negative one, and nothing is sent. -/
theorem not_delivers_negative {data : List UInt8} (hne : data ≠ []) {nleft : Int}
    (hnleft : nleft ≤ 0) {turn : SendVars → WriteOutcome → SendTurn}
    {outcomes : List WriteOutcome} {r : SendResult}
    (hloop : sendLoop turn (.start nleft) outcomes = some r) : ¬ Delivers true data r := by
  obtain rfl := Option.some.inj ((sendLoop_done hnleft outcomes).symm.trans hloop)
  intro h
  exact hne (h.complete rfl (fun _ hmem => absurd hmem List.not_mem_nil)).symm

/-- Whether a call that sends does its work follows from how it ends. -/
theorem Ended.delivers_iff {data : List UInt8} {outcomes : List WriteOutcome} {r : SendResult}
    (h : Ended data data.length outcomes r) :
    Delivers true data r ↔ AtOnce data.length outcomes ∨ EndsEarly data.length outcomes := by
  have hatOnce : AtOnce data.length outcomes → data.length ≤ written outcomes := by
    intro hatOnce
    cases outcomes with
    | nil => exact hatOnce.elim
    | cons outcome rest =>
        cases outcome with
        | wrote more => exact Nat.le_trans hatOnce (Nat.le_add_right _ _)
        | eintr => exact hatOnce.elim
        | eof => exact hatOnce.elim
        | error => exact hatOnce.elim
  cases h with
  | taken hwritten haccepted hret hle hlocked =>
      have hearly : ¬ EndsEarly data.length outcomes := fun h => Nat.not_lt_of_le hwritten h.1
      rw [or_iff_left hearly, ← hret]
      constructor
      · intro hdelivers
        exact hdelivers.ret_iff.mpr haccepted
      · intro hret
        exact ⟨haccepted ▸ List.prefix_rfl, fun _ _ => haccepted, iff_of_true hret haccepted,
          hlocked⟩
  | stopped hwritten hstop haccepted hret hseen hlocked =>
      rw [Nat.sub_self, Nat.zero_add] at haccepted
      have hpart : r.accepted ≠ data := by
        intro hall
        have hlength := congrArg List.length (haccepted.symm.trans hall)
        rw [List.length_take] at hlength
        omega
      refine iff_of_true ⟨?_, ?_, iff_of_false (by omega) hpart, hlocked⟩ (Or.inr ⟨hwritten, hstop⟩)
      · rw [haccepted]
        exact List.take_prefix _ _
      · intro _ hnone
        obtain ⟨outcome, hmem, heof | herror⟩ := hseen
        · exact absurd heof (hnone outcome hmem).1
        · exact absurd herror (hnone outcome hmem).2
  | interrupted hwritten hstop hlocked =>
      apply iff_of_false
      · intro hdelivers
        rw [hdelivers.unlocked] at hlocked
        cases hlocked
      · intro h
        obtain hall | hearly := h
        · exact Nat.not_lt_of_le (hatOnce hall) hwritten
        · exact hearly.2 hstop

/-- A call of one of the four functions does its work exactly if there is no socket, or if the
length is that of an `int` and the first write takes everything, or an end or an error comes before
everything is taken. In `TcpServerClient::Send` an interruption is neither. -/
theorem send_delivers_iff (sender : Sender) {data : List UInt8} (hne : data ≠ [])
    (hfits : data.length < sender.limit) {sock : Bool} {outcomes : List WriteOutcome}
    {r : SendResult} (hret : sender.send sock data outcomes = some r) :
    Delivers sock data r ↔
      sock = false ∨ data.length < 2 ^ 31 ∧
        (AtOnce data.length (sender.relevant outcomes) ∨
          EndsEarly data.length (sender.relevant outcomes)) := by
  have hpos : 0 < data.length := List.length_pos_iff.mpr hne
  cases sock with
  | false =>
      rw [Sender.send_noSocket] at hret
      obtain rfl := Option.some.inj hret
      exact iff_of_true (delivers_noSocket hne) (Or.inl rfl)
  | true =>
      rw [sender.send_sock outcomes hfits] at hret
      rw [or_iff_right Bool.noConfusion]
      by_cases hint : data.length < 2 ^ 31
      · rw [Int.bmod_eq_of_le (by omega) (by omega)] at hret
        have hstart : SendVars.Inv data data.length (.start data.length) :=
          ⟨rfl, Nat.zero_add _, rfl, rfl⟩
        rw [and_iff_right hint]
        exact (sendLoop_ended hstart hpos hret).delivers_iff
      · have hlimit : sender.limit ≤ 2 ^ 32 := by
          cases sender <;> decide
        have hnegative : Int.bmod data.length (2 ^ 32) ≤ 0 := by
          rw [Int.bmod_def]
          omega
        exact iff_of_false (not_delivers_negative hne hnegative hret) (fun h => hint h.1)

/-- Two bytes that are taken at once. -/
theorem delivers_two_bytes : Delivers true [1, 2] ⟨2, [1, 2], [.wrote 1], false⟩ :=
  (@send_delivers_iff .tcpClient [1, 2] (List.cons_ne_nil 1 [2]) (by decide) true [.wrote 1] _
    rfl).mpr (Or.inr ⟨by decide, Or.inl (Nat.le_refl 2)⟩)

/-- Two bytes that are taken one by one: the return value is 1. An interruption of
`TcpServerClient::Send` leaves the lock taken. -/
theorem not_delivers_partial :
    (∃ r, TcpClient.send true [1, 2] [.wrote 0, .wrote 0] = some r ∧ ¬ Delivers true [1, 2] r) ∧
      ∃ r, TcpServerClient.send true [1] [.eintr] = some r ∧ ¬ Delivers true [1] r := by
  refine ⟨⟨_, rfl, fun h => ?_⟩, ⟨_, rfl, fun h => Bool.noConfusion h.unlocked⟩⟩
  have hret : (1 : Int) = 2 := h.ret_iff.mpr rfl
  omega

end RVDataFusionServer
