import RVDataFusionServer.Data.CountLimit

/-!
# Messages with a limit on their age

A message that is judged by its age leaves the queue unsent when the distance between its two
timestamps has reached its limit. `doSend` sets the second one only when it attempts a send, so
that the age of a message whose client is away is the distance between the clock at its insertion
and what its sender has left in `timestampResend`.

`keeps_time_limits_iff` says in which runs no message leaves unsent before its time: in those whose
visits are all timely. While the client is connected they are (`timely_of_connected`), and while it
is away a message that has never been sent is gone at once (`not_timely_of_away`).
-/

namespace RVDataFusionServer

open Library Execution

namespace Resending

/-- The distance between two timestamps that `judge` compares with the threshold. -/
def age (timestampResend timestampInsert : UInt64) : Nat :=
  (timestampResend.toInt64.toInt - timestampInsert.toInt64.toInt).natAbs

/-- The threshold of a message has passed since its insertion. -/
def Elapsed (msg : Msg) (now : UInt64) : Prop :=
  msg.timestampInsert.toNat + msg.threshold.toNat ≤ now.toNat

instance decidableElapsed (msg : Msg) (now : UInt64) : Decidable (Elapsed msg now) :=
  inferInstanceAs (Decidable (_ ≤ _))

/-- The message at index `i`, if a visit has taken it out of the queue and no attempt of the visit
has succeeded. -/
def removed (s after : Resending) (i : Nat) : List Msg :=
  match s.queue.msgQueue[i]? with
  | none => []
  | some msg =>
      if after.queue.msgQueue.length < s.queue.msgQueue.length ∧
          ∀ attempt ∈ after.log.drop s.log.length, attempt.ret ≠ 0 then [msg]
      else []

/-- A visit as a step, with the message that it removes unsent and the time of the visit. -/
def visitStep (config : ReconnectConfig) (s : Resending) (visit : Nat × SendEnv) :
    Resending × List (Msg × UInt64) :=
  match s.visit config visit.1 visit.2 with
  | .ok after => (after, (s.removed after visit.1).map fun msg => (msg, visit.2.timestampStart))
  | .error _ => (s, [])

/-- The visits of a pass. -/
def visits (s : Resending) (env : Nat → SendEnv) : List (Nat × SendEnv) :=
  (List.range s.queue.msgQueue.length).map fun i => (i, env i)

/-- A step with what it removes unsent. -/
def limitStep (config : ReconnectConfig) (s : Resending) (input : Input) :
    Resending × List (Msg × UInt64) :=
  ((step config s input).1,
    match input with
    | .add _ _ => []
    | .pass env => emitted (visitStep config) s (s.visits env))

/-- No message with a limit on its age leaves the queue unsent before its threshold has passed
since its insertion. -/
def KeepsTimeLimits (config : ReconnectConfig) (s : Resending) (inputs : List Input) : Prop :=
  ∀ removal ∈ emitted (limitStep config) s inputs,
    removal.1.type = .time → Elapsed removal.1 removal.2

/-- A send to the client of the message succeeds. -/
def Delivered (config : ReconnectConfig) (clientList : ClientList) (msg : Msg) (env : SendEnv) :
    Prop :=
  ∃ after, clientList.sendTo config msg.name msg.pkg env = .ok (after, some 0)

/-- A visit does not take a message too early: the message has no limit on its age, or its time is
over, or it is sent, or the distance that `judge` looks at is below the threshold. -/
def Timely (config : ReconnectConfig) (s : Resending) (visit : Nat × SendEnv) : Prop :=
  ∀ msg, s.queue.msgQueue[visit.1]? = some msg → msg.type = .time →
    Elapsed msg visit.2.timestampStart ∨
    Delivered config s.clientList msg visit.2 ∨
    (s.clientList.Connected msg.name visit.2 ∧
      age visit.2.timestampStart msg.timestampInsert < msg.threshold.toNat) ∨
    (¬ s.clientList.Connected msg.name visit.2 ∧
      age msg.timestampResend msg.timestampInsert < msg.threshold.toNat)

/-- All visits of a step are timely, each in the state that it finds. -/
def TimelyInput (config : ReconnectConfig) (s : Resending) : Input → Prop
  | .add _ _ => True
  | .pass env => Allowed (visitStep config) (Timely config) s (s.visits env)

/-- What `judge` says of a message with a limit on its age. -/
theorem judge_time {msg : Msg} (htime : msg.type = .time) :
    ReSendQueue.judge msg = true ↔
      msg.threshold.toNat ≤ age msg.timestampResend msg.timestampInsert := by
  unfold ReSendQueue.judge age
  rw [htime]
  exact decide_eq_true_iff

/-- A pass is the run of its visits. -/
theorem final_visits (config : ReconnectConfig) (s : Resending) (env : Nat → SendEnv) :
    (step config s (.pass env)).1 = final (visitStep config) s (s.visits env) := by
  have hrun (indices : List Nat) (s : Resending) :
      indices.foldlM (fun s i => s.visit config i (env i)) s =
        .ok (final (visitStep config) s (indices.map fun i => (i, env i))) := by
    induction indices generalizing s with
    | nil => rfl
    | cons i indices ih =>
        obtain ⟨after, hvisit, -⟩ := visit_spec config s i (env i)
        rw [List.foldlM_cons, hvisit, List.map_cons, final_cons]
        rw [show (visitStep config s (i, env i)).1 = after by simp only [visitStep, hvisit]]
        exact ih after
  have hpass := hrun (List.range s.queue.msgQueue.length) s
  simp only [step, pass, visits, hpass]

/-- What a visit removes: the message, when it is not sent and `judge` lets it go. -/
theorem removed_visit (config : ReconnectConfig) {s : Resending} {i : Nat} {msg : Msg}
    (hmsg : s.queue.msgQueue[i]? = some msg) {env : SendEnv} {clientList : ClientList}
    {result : Option Int}
    (hsend : s.clientList.sendTo config msg.name msg.pkg env = .ok (clientList, result)) :
    (visitStep config s (i, env)).2 =
      if result ≠ some 0 ∧ ReSendQueue.judge (handled msg env result) = true then
        [(msg, env.timestampStart)]
      else [] := by
  have hshorter : (s.queue.msgQueue.eraseIdx i).length < s.queue.msgQueue.length := by
    have hlt := (List.getElem?_eq_some_iff.mp hmsg).1
    rw [List.length_eraseIdx_of_lt hlt]
    omega
  unfold visitStep removed
  rw [visit_eq hmsg hsend, hmsg]
  by_cases hsent : result = some 0
  · simp [hsent]
  · cases ReSendQueue.judge (handled msg env result) with
    | true => simp [hsent, hshorter]
    | false => simp [hsent]

/-- When `judge` keeps a message with a limit on its age: the distance that it looks at is that of
the clock while the client is connected, and that of `timestampResend` while it is away. -/
theorem judge_handled {msg : Msg} (htime : msg.type = .time) (env : SendEnv)
    (result : Option Int) :
    ReSendQueue.judge (handled msg env result) = false ↔
      (result.isSome = true ∧
        age env.timestampStart msg.timestampInsert < msg.threshold.toNat) ∨
      (¬ result.isSome = true ∧
        age msg.timestampResend msg.timestampInsert < msg.threshold.toNat) := by
  rw [← Bool.not_eq_true]
  cases result with
  | none =>
      rw [show handled msg env none = msg from rfl, judge_time htime, not_le]
      simp
  | some ret =>
      have hjudge : ReSendQueue.judge (attempted msg env) = true ↔
          msg.threshold.toNat ≤ age env.timestampStart msg.timestampInsert :=
        @judge_time (attempted msg env) htime
      rw [show handled msg env (some ret) = attempted msg env from rfl, hjudge, not_le]
      simp

/-- The step lemma: what a visit removes has stayed for its time if and only if the visit is
timely. -/
theorem visitStep_iff (config : ReconnectConfig) (s : Resending) (visit : Nat × SendEnv) :
    (∀ removal ∈ (visitStep config s visit).2,
      removal.1.type = .time → Elapsed removal.1 removal.2) ↔ Timely config s visit := by
  obtain ⟨i, env⟩ := visit
  unfold Timely
  cases hmsg : s.queue.msgQueue[i]? with
  | none => simp [visitStep, visit_none config hmsg, removed, hmsg]
  | some msg =>
      obtain ⟨clientList, result, hsend, hconnected⟩ :=
        s.clientList.sendTo_spec config msg.name msg.pkg env
      have hdelivered : Delivered config s.clientList msg env ↔ result = some 0 := by
        unfold Delivered
        rw [hsend]
        simp
      rw [removed_visit config hmsg hsend]
      constructor
      · intro h other hother htime
        cases hother
        rw [hdelivered, ← hconnected, ← judge_handled htime env result]
        by_cases hsent : result = some 0
        · exact .inr (.inl hsent)
        · cases hjudge : ReSendQueue.judge (handled msg env result) with
          | true => exact .inl (h (msg, env.timestampStart) (by simp [hsent, hjudge]) htime)
          | false => exact .inr (.inr rfl)
      · intro h removal hremoval htime
        obtain ⟨⟨hunsent, hjudge⟩, hone⟩ := List.mem_ite_nil_right.mp hremoval
        obtain rfl := List.mem_singleton.mp hone
        have htimely := h msg rfl htime
        rw [hdelivered, ← hconnected, ← judge_handled htime env result, hjudge] at htimely
        refine htimely.resolve_right fun hstays => ?_
        rcases hstays with hsent | hkept
        · exact hunsent hsent
        · cases hkept

/-- A message whose client is connected is not removed too early, when the clock has not gone
back behind its insertion. -/
theorem timely_of_connected (config : ReconnectConfig) {s : Resending} {i : Nat} {env : SendEnv}
    (h : ∀ msg, s.queue.msgQueue[i]? = some msg → s.clientList.Connected msg.name env ∧
      msg.timestampInsert.toNat ≤ env.timestampStart.toNat)
    (hclock : env.timestampStart.toNat < 2 ^ 63) : Timely config s (i, env) := by
  intro msg hmsg htime
  obtain ⟨hconnected, hle⟩ := h msg hmsg
  have hage : age env.timestampStart msg.timestampInsert =
      env.timestampStart.toNat - msg.timestampInsert.toNat := by
    unfold age
    rw [toInt64_toInt_of_lt hclock, toInt64_toInt_of_lt (lt_of_le_of_lt hle hclock)]
    omega
  by_cases helapsed : Elapsed msg env.timestampStart
  · exact .inl helapsed
  · refine .inr (.inr (.inl ⟨hconnected, ?_⟩))
    show age env.timestampStart msg.timestampInsert < msg.threshold.toNat
    unfold Elapsed at helapsed
    omega

/-- A message whose client is away and that has never been sent is removed too early, unless its
threshold is greater than the time at which it was inserted. -/
theorem not_timely_of_away (config : ReconnectConfig) {s : Resending} {i : Nat} {env : SendEnv}
    {msg : Msg} (hmsg : s.queue.msgQueue[i]? = some msg) (htime : msg.type = .time)
    (haway : ¬ s.clientList.Connected msg.name env) (hnever : msg.timestampResend = 0)
    (hle : msg.threshold.toNat ≤ msg.timestampInsert.toNat)
    (hclock : msg.timestampInsert.toNat < 2 ^ 63) (hearly : ¬ Elapsed msg env.timestampStart) :
    ¬ Timely config s (i, env) := by
  have hage : age msg.timestampResend msg.timestampInsert = msg.timestampInsert.toNat := by
    unfold age
    rw [hnever, toInt64_toInt_of_lt hclock]
    simp
  intro h
  rcases h msg hmsg htime with helapsed | ⟨after, hsend⟩ | ⟨hconnected, -⟩ | ⟨-, hage'⟩
  · exact hearly helapsed
  · obtain ⟨_, _, hsend', hiff⟩ := s.clientList.sendTo_spec config msg.name msg.pkg env
    obtain ⟨rfl, rfl⟩ := Prod.mk.inj (Except.ok.inj (hsend.symm.trans hsend'))
    exact haway (hiff.mp rfl)
  · exact haway hconnected
  · rw [hage] at hage'
    omega

/-- The runs in which no message leaves unsent before its time: those whose visits are timely. -/
theorem keeps_time_limits_iff (config : ReconnectConfig) (s : Resending) (inputs : List Input) :
    KeepsTimeLimits config s inputs ↔
      Allowed (limitStep config) (TimelyInput config) s inputs := by
  refine forall_emitted_iff (fun _ => True) (fun _ _ _ => trivial) (fun s input _ => ?_) trivial
    inputs
  cases input with
  | add msg now =>
      constructor
      · intro _
        trivial
      · intro _ removal hremoval
        cases hremoval
  | pass env =>
      exact forall_emitted_iff (fun _ => True) (fun _ _ _ => trivial)
        (fun s visit _ => visitStep_iff config s visit) trivial (s.visits env)

/-- A message that may be sent for a minute. -/
def minute : Msg := { twice with threshold := 60000, type := .time }

/-- It is added while its client is not there, and the loop passes over it a second later. -/
def away : List Input :=
  [.add minute 1700000000000,
    .pass fun _ => { outcome := .returned 17, timestampStart := 1700000001000 }]

/-- It is removed then, 59 seconds before its time. -/
theorem not_keeps_time_limits_away :
    ¬ KeepsTimeLimits {} (start (fun _ => none) 8) away := by
  intro h
  have hremoved : emitted (limitStep {}) (start (fun _ => none) 8) away =
      [({ minute with timestampInsert := 1700000000000 }, 1700000001000)] := by
    rfl
  have helapsed := h _ (by rw [hremoved]; exact List.mem_singleton_self _) rfl
  exact absurd helapsed (by decide)

end Resending

end RVDataFusionServer
