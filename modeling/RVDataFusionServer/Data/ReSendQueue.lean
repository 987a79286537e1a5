import RVDataFusionServer.LocalBussiness.ClientList
import RVDataFusionServer.Library.Execution

/-!
# The resend queue

`ReSendQueue` (`ReSendQueue.h`): messages whose send failed, and the loop that sends them again
every second. A message has a limit on its age or on its number of attempts.

The loop works on a copy of each message, so that the number of attempts that `doSend` counts is
gone in the next pass. `limited_iff` says what becomes of the limit: a message with a limit of
one attempt keeps to it, and any other message does unless that many of its sends fail.
-/

namespace RVDataFusionServer

open Library Execution

/-- `ReSendQueue::Type`. -/
inductive ResendType where
  | none
  | time
  | count
  deriving DecidableEq, Repr

/-- `ReSendQueue::Msg`, with the number of its `add`, which the source does not have and no
function reads. -/
structure Msg where
  number : Nat := 0
  pkg : Pkg
  timestampFrame : UInt64 := 0
  timestampInsert : UInt64 := 0
  timestampResend : UInt64 := 0
  countResend : UInt64 := 0
  threshold : UInt64 := 0
  type : ResendType
  name : String

/-- `ReSendQueue`, with the messages that it has accepted so far. -/
structure ReSendQueue where
  msgQueue : List Msg := []
  max : Nat := 1024 * 64
  accepted : List Msg := []

/-- A call of `SendBase` for a message, with its return value. -/
structure Attempt where
  number : Nat
  ret : Int
  deriving DecidableEq, Repr

namespace ReSendQueue

/-- The queue refuses new messages. -/
def Full (queue : ReSendQueue) : Prop := queue.max ≤ queue.msgQueue.length

instance (queue : ReSendQueue) : Decidable queue.Full := inferInstanceAs (Decidable (_ ≤ _))

/-- `ReSendQueue::add` at the time `now`, with its return value. -/
def add (queue : ReSendQueue) (msg : Msg) (now : UInt64) : ReSendQueue × Int :=
  if queue.Full then (queue, -1)
  else
    let msg := { msg with
      number := queue.accepted.length
      countResend := 0
      timestampInsert := now }
    ({ queue with msgQueue := queue.msgQueue ++ [msg], accepted := queue.accepted ++ [msg] }, 0)

/-- `ReSendQueue::doSend`: the clients, the updated message, its attempt and the return value. -/
def doSend (config : ReconnectConfig) (clientList : ClientList) (msg : Msg) (env : SendEnv) :
    Except Fault (ClientList × Msg × List Attempt × Int) := do
  let (clientList, result) ← clientList.sendTo config msg.name msg.pkg env
  match result with
  | none => pure (clientList, msg, [], -1)
  | some ret1 =>
      let msg := { msg with
        timestampResend := env.timestampStart
        countResend := msg.countResend + 1 }
      pure (clientList, msg, [⟨msg.number, ret1⟩], if ret1 ≠ 0 then -1 else 0)

/-- `ReSendQueue::judge`: the message leaves the queue. -/
def judge (msg : Msg) : Bool :=
  match msg.type with
  | .none => false
  | .time =>
      msg.threshold.toNat ≤
        (msg.timestampResend.toInt64.toInt - msg.timestampInsert.toInt64.toInt).natAbs
  | .count => msg.threshold ≤ msg.countResend

end ReSendQueue

/-- The state that the loop of `startBusiness` works on, with the attempts so far. -/
structure Resending where
  clientList : ClientList
  queue : ReSendQueue
  log : List Attempt := []

namespace Resending

/-- The body of the loop over the queue, at index `i`. `iter` starts as a copy of the message. -/
def visit (config : ReconnectConfig) (s : Resending) (i : Nat) (env : SendEnv) :
    Except Fault Resending :=
  match s.queue.msgQueue[i]? with
  | none => pure s
  | some msg => do
      let (clientList, iter, attempt, result) ← ReSendQueue.doSend config s.clientList msg env
      let erased := { s.queue with msgQueue := s.queue.msgQueue.eraseIdx i }
      let queue :=
        if result = 0 then erased else if ReSendQueue.judge iter then erased else s.queue
      pure { clientList, queue, log := s.log ++ attempt }

/-- One pass of the loop. The queue does not grow while it is locked, so that no index from its
first size on is visited. -/
def pass (config : ReconnectConfig) (s : Resending) (env : Nat → SendEnv) :
    Except Fault Resending :=
  (List.range s.queue.msgQueue.length).foldlM (fun s i => s.visit config i (env i)) s

/-- A message as `doSend` leaves it behind an attempt. -/
def attempted (msg : Msg) (env : SendEnv) : Msg :=
  { msg with timestampResend := env.timestampStart, countResend := msg.countResend + 1 }

/-- A message as `doSend` leaves it, when its send has come back with `result`. It is unchanged
when its client is away. -/
def handled (msg : Msg) (env : SendEnv) : Option Int → Msg
  | none => msg
  | some _ => attempted msg env

/-- `doSend` by the result of the send. -/
theorem doSend_eq {config : ReconnectConfig} {clientList after : ClientList} {msg : Msg}
    {env : SendEnv} {result : Option Int}
    (hsend : clientList.sendTo config msg.name msg.pkg env = .ok (after, result)) :
    ReSendQueue.doSend config clientList msg env =
      .ok (after, handled msg env result, result.toList.map fun ret => ⟨msg.number, ret⟩,
        if result = some 0 then 0 else -1) := by
  simp only [ReSendQueue.doSend, hsend, bind, Except.bind, pure, Except.pure]
  cases result with
  | none => rfl
  | some ret =>
      by_cases hret : ret = 0
      · subst hret
        rfl
      · simp [handled, attempted, hret]

/-- A visit by the result of the send: the message leaves when it is sent, or when `judge` lets it
go. -/
theorem visit_eq {config : ReconnectConfig} {s : Resending} {i : Nat} {msg : Msg}
    (hmsg : s.queue.msgQueue[i]? = some msg) {env : SendEnv} {clientList : ClientList}
    {result : Option Int}
    (hsend : s.clientList.sendTo config msg.name msg.pkg env = .ok (clientList, result)) :
    s.visit config i env = .ok
      { clientList
        queue :=
          if result = some 0 ∨ ReSendQueue.judge (handled msg env result) = true then
            { s.queue with msgQueue := s.queue.msgQueue.eraseIdx i }
          else s.queue
        log := s.log ++ result.toList.map fun ret => ⟨msg.number, ret⟩ } := by
  simp only [visit, hmsg, doSend_eq hsend, bind, Except.bind, pure, Except.pure]
  by_cases hsent : result = some 0
  · simp [hsent]
  · simp [hsent]

/-- Without a message nothing is done. -/
theorem visit_none (config : ReconnectConfig) {s : Resending} {i : Nat}
    (hnone : s.queue.msgQueue[i]? = none) (env : SendEnv) : s.visit config i env = .ok s := by
  unfold visit
  rw [hnone]
  rfl

/-- What a visit does: nothing to the queue and the attempts, or to erase the message without an
attempt, or an attempt behind which the message is erased or stays. -/
inductive Visited (s : Resending) (i : Nat) (env : SendEnv) (after : Resending) : Prop where
  | unchanged (hqueue : after.queue = s.queue) (hlog : after.log = s.log)
  | erased (msg : Msg) (hmsg : s.queue.msgQueue[i]? = some msg)
      (hjudge : ReSendQueue.judge msg = true)
      (hqueue : after.queue = { s.queue with msgQueue := s.queue.msgQueue.eraseIdx i })
      (hlog : after.log = s.log)
  | sent (msg : Msg) (ret : Int) (hmsg : s.queue.msgQueue[i]? = some msg)
      (hleft : ret = 0 ∨ ReSendQueue.judge (attempted msg env) = true)
      (hqueue : after.queue = { s.queue with msgQueue := s.queue.msgQueue.eraseIdx i })
      (hlog : after.log = s.log ++ [⟨msg.number, ret⟩])
  | failed (msg : Msg) (ret : Int) (hmsg : s.queue.msgQueue[i]? = some msg) (hret : ret ≠ 0)
      (hjudge : ReSendQueue.judge (attempted msg env) = false)
      (hqueue : after.queue = s.queue) (hlog : after.log = s.log ++ [⟨msg.number, ret⟩])

/-- A visit returns. -/
theorem visit_spec (config : ReconnectConfig) (s : Resending) (i : Nat) (env : SendEnv) :
    ∃ after, s.visit config i env = .ok after ∧ Visited s i env after := by
  cases hmsg : s.queue.msgQueue[i]? with
  | none => exact ⟨s, visit_none config hmsg env, .unchanged rfl rfl⟩
  | some msg =>
      obtain ⟨clientList, result, hsend, -⟩ :=
        s.clientList.sendTo_spec config msg.name msg.pkg env
      refine ⟨_, visit_eq hmsg hsend, ?_⟩
      cases result with
      | none =>
          by_cases hjudge : ReSendQueue.judge msg = true
          · exact .erased msg hmsg hjudge (if_pos (.inr hjudge)) (List.append_nil _)
          · exact .unchanged (if_neg (by simpa [handled] using hjudge)) (List.append_nil _)
      | some ret =>
          by_cases hleft : ret = 0 ∨ ReSendQueue.judge (attempted msg env) = true
          · exact .sent msg ret hmsg hleft (if_pos (by simpa [handled] using hleft)) rfl
          · obtain ⟨hret, hjudge⟩ := not_or.mp hleft
            exact .failed msg ret hmsg hret (Bool.eq_false_iff.mpr hjudge)
              (if_neg (by simpa [handled] using hleft)) rfl

end Resending

end RVDataFusionServer
