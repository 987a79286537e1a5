import Mathlib.Tactic.Ring
import RVDataFusionServer.Library.Execution
import RVDataFusionServer.MyTcp.SendBase

/-!
# The time of the answers

A client measures how long its server takes by two times: `timeSend`, which `SendBase` and `Send`
set behind a message, and `timeRecv`, which `PkgProcessFun_CmdResponse` sets for an answer. Both
compare the two. After a pause the time of a new message is compared with an answer from before the
pause, and an answer that comes before the bookkeeping of its message is compared with an older
message. The limit is a product of two `int`s. `never_overdue_iff` says that a server that answers
in time is declared dead in these cases only, or if the product is cut to a smaller one.
-/

namespace RVDataFusionServer

open Library Execution

/-- The milliseconds of the system clock, which fit into a `long long`. -/
structure Millis where
  value : UInt64
  value_lt : value.toNat < 2 ^ 63

/-- `PkgProcessFun_CmdResponse` for an answer that can be decoded. Any other answer changes
nothing. -/
def Connection.cmdResponse (config : ReconnectConfig) (conn : Connection) (now : UInt64) :
    Connection :=
  let conn := { conn with timeRecv := now }
  if conn.Overdue config then { conn with isNeedReconnect := true } else conn

/-- A client and its server: the connection, whether a message was handed to the socket and its
times are not set yet, the times at which the unanswered messages were sent, and the time of the
last step. -/
structure Exchange where
  conn : Connection := {}
  sending : Bool := false
  pending : List Millis := []
  clock : Nat := 0

namespace Exchange

/-- What happens between a client and its server. `send` is `SendBase` or `Send` up to the call of
the socket and `record` the rest of it, which no other message can come between. `reply` is the
answer to the `k`-th unanswered message, if there are as many. -/
inductive Input where
  | connect (connected : Bool)
  | send (lenSend : Nat) (outcome : SendOutcome) (now : Millis)
  | record (now now' : Millis)
  | reply (k : Nat) (now : Millis)

/-- One step, and whether it sets `isNeedReconnect` through the comparison of the two times. -/
def step (config : ReconnectConfig) (s : Exchange) : Input → Exchange × Bool
  | .connect connected => ({ s with conn := (s.conn.connect connected).2 }, false)
  | .send lenSend outcome now =>
      if s.sending || s.conn.isNeedReconnect then (s, false)
      else
        let (ret, need) := Connection.judgeSend lenSend outcome
        ({ conn := { s.conn with isNeedReconnect := need }
           sending := true
           pending := if ret = 0 then s.pending ++ [now] else s.pending
           clock := now.value.toNat }, false)
  | .record now now' =>
      if s.sending then
        -- the first message of a connection counts as an answer
        let timeRecv := if s.conn.timeSend = 0 then now.value else s.conn.timeRecv
        ({ s with
            conn := s.conn.sentAt config now.value now'.value
            sending := false
            clock := now'.value.toNat },
          decide (Connection.Overdue config { s.conn with timeRecv, timeSend := now'.value }))
      else (s, false)
  | .reply k now =>
      ({ s with
          conn := s.conn.cmdResponse config now.value
          pending := s.pending.eraseIdx k
          clock := now.value.toNat },
        decide (Connection.Overdue config { s.conn with timeRecv := now.value }))

/-- The settings of a client that checks its times. -/
def checking (threshold : Int32) : ReconnectConfig where
  isUseThresholdReconnect := true
  thresholdReconnect := threshold

/-- The clock does not go back, and no message stays unanswered for the threshold. -/
def Timely (threshold : Int32) (s : Exchange) : Input → Prop
  | .connect _ => True
  | .send _ _ now =>
      s.clock ≤ now.value.toNat ∧
        ∀ sent ∈ s.pending, (now.value.toNat : Int) < sent.value.toNat + 1000 * threshold.toInt
  | .record now now' =>
      s.clock ≤ now.value.toNat ∧ now.value.toNat ≤ now'.value.toNat ∧
        ∀ sent ∈ s.pending, (now'.value.toNat : Int) < sent.value.toNat + 1000 * threshold.toInt
  | .reply _ now =>
      s.clock ≤ now.value.toNat ∧
        ∀ sent ∈ s.pending, (now.value.toNat : Int) < sent.value.toNat + 1000 * threshold.toInt

/-- The times of a message are set when less than the limit has passed since the last answer, and
for the first message of a connection the clock is read twice within the limit. An answer comes
behind the bookkeeping of its message, with a limit that is not shorter than the threshold, or
within the limit of an older one. -/
def Prompt (threshold : Int32) (s : Exchange) : Input → Prop
  | .connect _ => True
  | .send _ _ _ => True
  | .record now now' =>
      s.sending = true →
        if s.conn.timeSend = 0 then
          (now'.value.toNat : Int) < now.value.toNat + (checking threshold).limit
        else (now'.value.toNat : Int) < s.conn.timeRecv.toNat + (checking threshold).limit
  | .reply k now =>
      1000 * threshold.toInt ≤ (checking threshold).limit ∧
          (∃ sent, s.pending[k]? = some sent ∧ sent.value.toNat ≤ s.conn.timeSend.toNat) ∨
        (now.value.toNat : Int) < s.conn.timeSend.toNat + (checking threshold).limit

instance (threshold : Int32) (s : Exchange) : ∀ input, Decidable (s.Timely threshold input)
  | .connect _ => .isTrue trivial
  | .send _ _ _ => inferInstanceAs (Decidable (_ ∧ _))
  | .record _ _ => inferInstanceAs (Decidable (_ ∧ _ ∧ _))
  | .reply _ _ => inferInstanceAs (Decidable (_ ∧ _))

instance (threshold : Int32) (s : Exchange) : ∀ input, Decidable (s.Prompt threshold input)
  | .connect _ => .isTrue trivial
  | .send _ _ _ => .isTrue trivial
  | .record now now' =>
      inferInstanceAs (Decidable (s.sending = true →
        if s.conn.timeSend = 0 then
          (now'.value.toNat : Int) < now.value.toNat + (checking threshold).limit
        else (now'.value.toNat : Int) < s.conn.timeRecv.toNat + (checking threshold).limit))
  | .reply k _ =>
      have : Decidable (∃ sent, s.pending[k]? = some sent ∧
          sent.value.toNat ≤ s.conn.timeSend.toNat) :=
        match h : s.pending[k]? with
        | none => .isFalse (by rintro ⟨sent, heq, -⟩; cases heq)
        | some sent => decidable_of_iff (sent.value.toNat ≤ s.conn.timeSend.toNat) (by simp)
      inferInstanceAs (Decidable (_ ∧ _ ∨ _))

/-- `SendBase` of a package with the right length in its header is a `send` and its `record`. -/
theorem sendBase_eq (config : ReconnectConfig) (s : Exchange) (hidle : s.sending = false)
    (pkg : Pkg) (outcome : SendOutcome) (now now' : Millis)
    (hlen : pkg.head.len.toNat = sizeofPkgHead + pkg.body.length + sizeofPkgCRC) :
    ∃ ret, s.conn.sendBase config pkg outcome now.value now'.value =
      .ok (ret, (final (step config) s
        [.send pkg.head.len.toNat outcome now, .record now now']).conn) := by
  cases hneed : s.conn.isNeedReconnect with
  | true =>
      refine ⟨-1, ?_⟩
      simp [Connection.sendBase, step, hneed, hidle]
  | false =>
      set size := sizeofPkgHead + sizeofPkgCRC + pkg.body.length with hsize
      have hlt := pkg.head.len.toNat_lt
      have hroom : pkg.head.len.toNat ≤ (UInt32.ofNat size).toNat := by
        rw [UInt32.toNat_ofNat_of_lt' (by show size < 2 ^ 32; omega)]
        omega
      obtain ⟨out', hpack, -⟩ := pack_eq pkg ⟨size, fun _ => 0⟩ (UInt32.ofNat size) hlen hroom
        (by show _ ≤ size; omega)
      have hpos : pkg.head.len ≠ 0 := by
        intro hzero
        rw [hzero, UInt32.toNat_zero] at hlen
        simp only [sizeofPkgHead] at hlen
        omega
      refine ⟨(Connection.judgeSend pkg.head.len.toNat outcome).1, ?_⟩
      simp [Connection.sendBase, step, hneed, hidle, ← hsize, hpack, hpos, bind, Except.bind,
        pure, Except.pure]

/-- The two times are not later than the last step. -/
structure Paced (s : Exchange) : Prop where
  clock_lt : s.clock < 2 ^ 63
  timeSend_le : s.conn.timeSend.toNat ≤ s.clock
  timeRecv_le : s.conn.timeRecv.toNat ≤ s.clock

variable {s : Exchange} {threshold : Int32}

/-- The comparison of two times that fit into a `long long`. -/
theorem overdue_iff {conn : Connection} (hsend : conn.timeSend.toNat < 2 ^ 63)
    (hrecv : conn.timeRecv.toNat < 2 ^ 63) :
    conn.Overdue (checking threshold) ↔
      (checking threshold).limit ≤
        (((conn.timeRecv.toNat : Int) - conn.timeSend.toNat).natAbs : Int) := by
  unfold Connection.Overdue
  rw [toInt64_toInt_of_lt hsend, toInt64_toInt_of_lt hrecv]
  exact and_iff_right rfl

/-- The comparison leaves the two times. -/
theorem times_checked (config : ReconnectConfig) (conn : Connection) :
    (if conn.Overdue config then { conn with isNeedReconnect := true } else conn).timeSend =
        conn.timeSend ∧
      (if conn.Overdue config then { conn with isNeedReconnect := true } else conn).timeRecv =
        conn.timeRecv := by
  split <;> exact ⟨rfl, rfl⟩

/-- The times behind the bookkeeping of a message. -/
theorem times_sentAt (config : ReconnectConfig) (conn : Connection) (now now' : UInt64) :
    (conn.sentAt config now now').timeSend = now' ∧
      (conn.sentAt config now now').timeRecv =
        if conn.timeSend = 0 then now else conn.timeRecv := by
  by_cases hzero : conn.timeSend = 0
  · have htimes := times_checked config { conn with timeRecv := now, timeSend := now' }
    simpa only [Connection.sentAt, hzero, if_true] using htimes
  · have htimes := times_checked config { conn with timeSend := now' }
    simpa only [Connection.sentAt, hzero, if_false] using htimes

/-- The times behind an answer. -/
theorem times_cmdResponse (config : ReconnectConfig) (conn : Connection) (now : UInt64) :
    (conn.cmdResponse config now).timeSend = conn.timeSend ∧
      (conn.cmdResponse config now).timeRecv = now :=
  times_checked config { conn with timeRecv := now }

/-- A step of a timely run keeps the pace. -/
theorem Paced.step (h : s.Paced) (input : Input) (htimely : s.Timely threshold input) :
    (s.step (checking threshold) input).1.Paced := by
  obtain ⟨hclock, hsend, hrecv⟩ := h
  cases input with
  | connect connected =>
      cases connected with
      | false => exact ⟨hclock, hsend, hrecv⟩
      | true => exact ⟨hclock, Nat.zero_le _, Nat.zero_le _⟩
  | send lenSend outcome now =>
      obtain ⟨hnow, -⟩ := htimely
      simp only [Exchange.step]
      split
      · exact ⟨hclock, hsend, hrecv⟩
      · exact ⟨now.value_lt, hsend.trans hnow, hrecv.trans hnow⟩
  | record now now' =>
      obtain ⟨hnow, hnow', -⟩ := htimely
      simp only [Exchange.step]
      split
      · obtain ⟨hset, hkept⟩ := times_sentAt (checking threshold) s.conn now.value now'.value
        refine ⟨now'.value_lt, Nat.le_of_eq (congrArg UInt64.toNat hset), ?_⟩
        · show (s.conn.sentAt (checking threshold) now.value now'.value).timeRecv.toNat ≤
            now'.value.toNat
          rw [hkept]
          split
          · exact hnow'
          · exact hrecv.trans (hnow.trans hnow')
      · exact ⟨hclock, hsend, hrecv⟩
  | reply k now =>
      obtain ⟨hnow, -⟩ := htimely
      obtain ⟨hsame, hset⟩ := times_cmdResponse (checking threshold) s.conn now.value
      refine ⟨now.value_lt, ?_, Nat.le_of_eq (congrArg UInt64.toNat hset)⟩
      show (s.conn.cmdResponse (checking threshold) now.value).timeSend.toNat ≤ now.value.toNat
      rw [hsame]
      exact hsend.trans hnow

/-- In a timely run the comparison of a step fails exactly if the step is prompt. -/
theorem Paced.not_overdue_iff (h : s.Paced) (input : Input)
    (htimely : s.Timely threshold input) :
    (s.step (checking threshold) input).2 = false ↔ s.Prompt threshold input := by
  obtain ⟨hclock, hsend, hrecv⟩ := h
  cases input with
  | connect connected => exact ⟨fun _ => trivial, fun _ => rfl⟩
  | send lenSend outcome now =>
      refine ⟨fun _ => trivial, fun _ => ?_⟩
      simp only [Exchange.step]
      split <;> rfl
  | record now now' =>
      obtain ⟨hnow, hnow', -⟩ := htimely
      have hlt := now'.value_lt
      cases hsending : s.sending with
      | false => simp [Exchange.step, Prompt, hsending]
      | true =>
          simp only [Exchange.step, Prompt, hsending, if_true, true_imp_iff]
          rw [decide_eq_false_iff_not]
          by_cases hzero : s.conn.timeSend = 0
          · rw [if_pos hzero, if_pos hzero, overdue_iff hlt (by show now.value.toNat < _; omega)]
            show ¬ (checking threshold).limit ≤
              (((now.value.toNat : Int) - now'.value.toNat).natAbs : Int) ↔ _
            omega
          · rw [if_neg hzero, if_neg hzero,
              overdue_iff hlt (by show s.conn.timeRecv.toNat < _; omega)]
            show ¬ (checking threshold).limit ≤
              (((s.conn.timeRecv.toNat : Int) - now'.value.toNat).natAbs : Int) ↔ _
            omega
  | reply k now =>
      obtain ⟨hnow, hpending⟩ := htimely
      have hlt := now.value_lt
      simp only [Exchange.step, Prompt]
      rw [decide_eq_false_iff_not,
        overdue_iff (by show s.conn.timeSend.toNat < _; omega) hlt]
      show ¬ (checking threshold).limit ≤
        (((now.value.toNat : Int) - s.conn.timeSend.toNat).natAbs : Int) ↔ _
      constructor
      · intro hin
        right
        omega
      · rintro (⟨hlimit, sent, hsent, hle⟩ | hin)
        · -- the answered message is younger than the threshold, and the last one is not older
          have hyoung := hpending sent (List.mem_of_getElem? hsent)
          omega
        · omega

/-- In a run whose messages are all answered in time, no comparison finds the server overdue if and
only if every step is prompt. -/
theorem never_overdue_iff (threshold : Int32) (inputs : List Input)
    (htimely : Allowed (step (checking threshold)) (Timely threshold) {} inputs) :
    (∀ overdue ∈ outputs (step (checking threshold)) {} inputs, overdue = false) ↔
      Allowed (step (checking threshold)) (Prompt threshold) {} inputs := by
  have hstart : Paced {} := ⟨by decide, Nat.le_refl 0, Nat.le_refl 0⟩
  exact forall_outputs_iff_of_allowed Paced (fun _ a hs => hs.step a)
    (fun _ a hs => hs.not_overdue_iff a) hstart htimely

/-- A time of at most 49 days. -/
def millis (time : UInt32) : Millis where
  value := time.toUInt64
  value_lt := by
    have hlt := time.toNat_lt
    rw [UInt32.toNat_toUInt64]
    omega

/-- Two messages a second apart, each of them answered at once. -/
def busy : List Input :=
  [.connect true,
    .send 15 (.returned 15) (millis 1000), .record (millis 1000) (millis 1000),
    .reply 0 (millis 1100),
    .send 15 (.returned 15) (millis 2000), .record (millis 2000) (millis 2000),
    .reply 0 (millis 2100)]

/-- Without a pause between its messages the client never finds the server overdue. -/
theorem never_overdue_busy :
    Allowed (step (checking 5)) (Timely 5) {} busy ∧
      ∀ overdue ∈ outputs (step (checking 5)) {} busy, overdue = false := by
  have htimely : Allowed (step (checking 5)) (Timely 5) {} busy := by decide
  have hprompt : Allowed (step (checking 5)) (Prompt 5) {} busy := by decide
  exact ⟨htimely, (never_overdue_iff 5 busy htimely).mpr hprompt⟩

/-- Two messages with a pause of ten seconds, the first of them answered at once. -/
def paused : List Input :=
  [.connect true,
    .send 15 (.returned 15) (millis 1000), .record (millis 1000) (millis 1000),
    .reply 0 (millis 1100),
    .send 15 (.returned 15) (millis 11000), .record (millis 11000) (millis 11000)]

/-- The second message is compared with the answer to the first one as soon as it is sent. -/
theorem overdue_after_pause :
    ¬ (Allowed (step (checking 5)) (Timely 5) {} paused →
      ∀ overdue ∈ outputs (step (checking 5)) {} paused, overdue = false) := by
  decide

end Exchange

end RVDataFusionServer
