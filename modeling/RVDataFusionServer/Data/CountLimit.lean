import Mathlib.Data.List.Nodup
import RVDataFusionServer.Data.ReSendQueue

/-!
# Messages with a limit on their attempts

Runs of the resend queue: messages are added, and the loop passes over them. `limited_iff` is
about one message with a limit of `t` attempts. Its attempts fail until one succeeds and the
message is erased; but a failed attempt erases it only if `t` is 1, as the number of attempts that
`judge` sees is never greater than 1.
-/

namespace RVDataFusionServer

open Library Execution

namespace Resending

/-- What happens to the queue. -/
inductive Input where
  | add (msg : Msg) (now : UInt64)
  | pass (env : Nat → SendEnv)

/-- One step. A pass always returns (`pass_spec`). -/
def step (config : ReconnectConfig) (s : Resending) : Input → Resending × Unit
  | .add msg now => ({ s with queue := (s.queue.add msg now).1 }, ())
  | .pass env =>
      match s.pass config env with
      | .ok after => (after, ())
      | .error _ => (s, ())

/-- The queue before the first step. -/
def start (clientList : ClientList) (max : Nat) : Resending where
  clientList
  queue := { max }

/-- The return values of the attempts of a message. -/
def rets (s : Resending) (n : Nat) : List Int :=
  s.log.filterMap fun attempt => if attempt.number = n then some attempt.ret else none

/-- The number of attempts of a message that failed. -/
def failures (s : Resending) (n : Nat) : Nat := (s.rets n).countP (· ≠ 0)

/-- The message is in the queue. -/
def Queued (s : Resending) (n : Nat) : Prop := ∃ msg ∈ s.queue.msgQueue, msg.number = n

/-- A message has had at most `t` attempts, and is gone when the `t`-th one has failed. -/
def Limited (n t : Nat) (s : Resending) : Prop :=
  (s.rets n).length ≤ t ∧
    ∀ ret, (s.rets n)[t - 1]? = some ret → ret ≠ 0 → ¬ s.Queued n

/-- How far a message with a limit of `t` attempts has come. In the queue it has only failed
attempts, and none if `t` is 1. The attempt with which it leaves is the first one if `t` is 1, and
else one that succeeds. -/
inductive Progress (n t : Nat) (s : Resending) : Prop where
  | waiting (hqueued : s.Queued n) (hfailed : ∀ ret ∈ s.rets n, ret ≠ 0)
      (hone : t = 1 → s.rets n = [])
  | gone (fails : List Int) (last : Int) (hgone : ¬ s.Queued n)
      (hrets : s.rets n = fails ++ [last]) (hfailed : ∀ ret ∈ fails, ret ≠ 0)
      (hone : t = 1 → fails = []) (hmore : t ≠ 1 → last = 0)

/-- The invariant of a run. -/
structure Counted (s : Resending) : Prop where
  stored : ∀ msg ∈ s.queue.msgQueue, s.queue.accepted[msg.number]? = some msg
  distinct : (s.queue.msgQueue.map Msg.number).Nodup
  uncounted : ∀ msg ∈ s.queue.msgQueue, msg.countResend = 0
  logged : ∀ attempt ∈ s.log, attempt.number < s.queue.accepted.length
  progress : ∀ (n : Nat) msg, s.queue.accepted[n]? = some msg → msg.type = .count →
    1 ≤ msg.threshold.toNat → Progress n msg.threshold.toNat s

/-- What a message has come to says exactly when its limit holds. -/
theorem Progress.limit_iff {n t : Nat} {s : Resending} (h : Progress n t s) (ht : 1 ≤ t) :
    Limited n t s ↔ t = 1 ∨ s.failures n < t := by
  have hall {fails : List Int} (hfailed : ∀ ret ∈ fails, ret ≠ 0) :
      fails.countP (· ≠ 0) = fails.length := by
    rw [List.countP_eq_length]
    simpa using hfailed
  unfold Limited failures
  cases h with
  | waiting hqueued hfailed hone =>
      rw [hall hfailed]
      by_cases ht1 : t = 1
      · simp [ht1, hone ht1]
      · refine ⟨fun ⟨_, hgone⟩ => .inr (not_le.mp fun hle => ?_),
          fun hlt => ⟨?_, fun ret hret => ?_⟩⟩
        · have hsome := List.getElem?_eq_getElem (l := s.rets n) (i := t - 1) (by omega)
          exact hgone _ hsome (hfailed _ (List.getElem_mem _)) hqueued
        · omega
        · have hbound := (List.getElem?_eq_some_iff.mp hret).1
          omega
  | gone fails last hgone hrets hfailed hone hmore =>
      have hcount : (s.rets n).countP (· ≠ 0) =
          fails.length + [last].countP (· ≠ 0) := by
        rw [hrets, List.countP_append, hall hfailed]
      rw [hcount, hrets]
      simp only [hgone, not_false_eq_true, implies_true, and_true, List.length_append,
        List.length_singleton]
      by_cases ht1 : t = 1
      · simp [ht1, hone ht1]
      · have hlast : [last].countP (· ≠ 0) = 0 := by simp [hmore ht1]
        rw [hlast]
        omega

/-- Attempts of other messages do not count. -/
theorem rets_append {s after : Resending} {attempt : Attempt}
    (hlog : after.log = s.log ++ [attempt]) (n : Nat) :
    after.rets n = s.rets n ++ if attempt.number = n then [attempt.ret] else [] := by
  unfold rets
  rw [hlog, List.filterMap_append]
  by_cases hn : attempt.number = n <;> simp [hn]

/-- Erasing a message takes it, and no other one, out of the queue. -/
theorem Counted.queued_erase {s after : Resending} (h : s.Counted) {i : Nat} {msg : Msg}
    (hmsg : s.queue.msgQueue[i]? = some msg)
    (hqueue : after.queue = { s.queue with msgQueue := s.queue.msgQueue.eraseIdx i }) (n : Nat) :
    after.Queued n ↔ s.Queued n ∧ n ≠ msg.number := by
  have hindex : ∀ (j : Nat) other, s.queue.msgQueue[j]? = some other →
      (other.number = msg.number ↔ j = i) := by
    intro j other hother
    have hget {k : Nat} {x : Msg} (hx : s.queue.msgQueue[k]? = some x) :
        (s.queue.msgQueue.map Msg.number)[k]? = some x.number := by
      rw [List.getElem?_map, hx]
      rfl
    refine ⟨fun heq => ?_, fun heq => ?_⟩
    · have hsame := (hget hother).trans ((congrArg some heq).trans (hget hmsg).symm)
      have hlt := (List.getElem?_eq_some_iff.mp (hget hother)).1
      exact (List.getElem?_inj hlt h.distinct).mp hsame
    · rw [heq, hmsg] at hother
      rw [Option.some.inj hother]
  unfold Queued
  rw [hqueue]
  constructor
  · rintro ⟨other, hother, rfl⟩
    obtain ⟨j, hne, hj⟩ := List.mem_eraseIdx_iff_getElem?.mp hother
    exact ⟨⟨other, List.mem_of_getElem? hj, rfl⟩, fun heq => hne ((hindex j other hj).mp heq)⟩
  · rintro ⟨⟨other, hother, rfl⟩, hne⟩
    obtain ⟨j, hj⟩ := List.mem_iff_getElem?.mp hother
    refine ⟨other, List.mem_eraseIdx_iff_getElem?.mpr ⟨j, fun heq => ?_, hj⟩, rfl⟩
    exact hne ((hindex j other hj).mpr heq)

/-- Progress is about the queue and the attempts of the message. -/
theorem Progress.congr {n t : Nat} {s after : Resending} (h : Progress n t s)
    (hqueued : after.Queued n ↔ s.Queued n) (hrets : after.rets n = s.rets n) :
    Progress n t after := by
  cases h with
  | waiting hin hfailed hone =>
      exact .waiting (hqueued.mpr hin) (by rwa [hrets]) (by rwa [hrets])
  | gone fails last hgone heq hfailed hone hmore =>
      exact .gone fails last (mt hqueued.mp hgone) (by rwa [hrets]) hfailed hone hmore

/-- A message that has just been accepted waits for its first attempt. -/
theorem Counted.add {s : Resending} (h : s.Counted) (msg : Msg) (now : UInt64) :
    Counted { s with queue := (s.queue.add msg now).1 } := by
  unfold ReSendQueue.add
  split
  · exact h
  set stored : Msg := { msg with
    number := s.queue.accepted.length
    countResend := 0
    timestampInsert := now } with hstored
  have hlt : ∀ old ∈ s.queue.msgQueue, old.number < s.queue.accepted.length := fun old hold =>
    (List.getElem?_eq_some_iff.mp (h.stored old hold)).1
  have hrets : s.rets s.queue.accepted.length = [] := by
    refine List.filterMap_eq_nil_iff.mpr fun attempt hattempt => ?_
    have hbefore := h.logged attempt hattempt
    simp [Nat.ne_of_lt hbefore]
  have hqueued : ∀ n, n ≠ s.queue.accepted.length →
      (Queued { s with queue := { s.queue with
        msgQueue := s.queue.msgQueue ++ [stored]
        accepted := s.queue.accepted ++ [stored] } } n ↔ s.Queued n) := by
    intro n hn
    simp [Queued, hstored, Ne.symm hn]
  refine ⟨fun old hold => ?_, ?_, fun old hold => ?_, fun attempt hattempt => ?_,
    fun n old hold hcount hlimit => ?_⟩
  · rcases List.mem_append.mp hold with hbefore | hnew
    · rw [List.getElem?_append_left (hlt old hbefore)]
      exact h.stored old hbefore
    · rw [List.mem_singleton.mp hnew]
      simp [hstored]
  · rw [List.map_append, List.nodup_append]
    refine ⟨h.distinct, by simp, fun a ha b hb => ?_⟩
    obtain ⟨old, hbefore, rfl⟩ := List.mem_map.mp ha
    obtain rfl : b = s.queue.accepted.length := by simpa [hstored] using hb
    exact Nat.ne_of_lt (hlt old hbefore)
  · rcases List.mem_append.mp hold with hbefore | hnew
    · exact h.uncounted old hbefore
    · rw [List.mem_singleton.mp hnew]
  · have hbefore := h.logged attempt hattempt
    simp only [List.length_append, List.length_singleton]
    omega
  · by_cases hn : n = s.queue.accepted.length
    · subst hn
      refine .waiting ⟨stored, by simp, rfl⟩ (fun ret hret => ?_) fun _ => hrets
      have hnone : ret ∈ s.rets s.queue.accepted.length := hret
      rw [hrets] at hnone
      cases hnone
    · have hbefore : s.queue.accepted[n]? = some old := by
        rw [List.getElem?_append] at hold
        split at hold
        · exact hold
        · rename_i hge
          rw [List.getElem?_singleton] at hold
          split at hold
          · omega
          · cases hold
      exact (h.progress n old hbefore hcount hlimit).congr (hqueued n hn) rfl

/-- The limit of a message that is judged after its first attempt is one attempt. -/
theorem judge_attempted {msg : Msg} (hcount : msg.type = .count) (hzero : msg.countResend = 0)
    (env : SendEnv) :
    ReSendQueue.judge (attempted msg env) = true ↔ msg.threshold.toNat ≤ 1 := by
  simp [ReSendQueue.judge, attempted, hcount, hzero, UInt64.le_iff_toNat_le]

/-- A message with a limit is not judged away before its first attempt. -/
theorem judge_unsent {msg : Msg} (hcount : msg.type = .count) (hzero : msg.countResend = 0)
    (hlimit : 1 ≤ msg.threshold.toNat) : ReSendQueue.judge msg = false := by
  simp [ReSendQueue.judge, hcount, hzero, UInt64.le_iff_toNat_le]
  omega

/-- A queue from which a message is erased still satisfies what `Counted` says of each message. -/
theorem Counted.erase {s after : Resending} (h : s.Counted) {i : Nat}
    (hqueue : after.queue = { s.queue with msgQueue := s.queue.msgQueue.eraseIdx i })
    (hlogged : ∀ attempt ∈ after.log, attempt.number < s.queue.accepted.length)
    (hprogress : ∀ (n : Nat) msg, s.queue.accepted[n]? = some msg → msg.type = .count →
      1 ≤ msg.threshold.toNat → Progress n msg.threshold.toNat after) : after.Counted := by
  have hsub : ∀ msg ∈ s.queue.msgQueue.eraseIdx i, msg ∈ s.queue.msgQueue := fun msg hmsg =>
    (List.eraseIdx_sublist _ i).subset hmsg
  refine ⟨?_, ?_, ?_, ?_, ?_⟩
  · rw [hqueue]
    exact fun msg hmsg => h.stored msg (hsub msg hmsg)
  · rw [hqueue]
    exact h.distinct.sublist ((List.eraseIdx_sublist _ i).map _)
  · rw [hqueue]
    exact fun msg hmsg => h.uncounted msg (hsub msg hmsg)
  · rwa [hqueue]
  · rwa [hqueue]

/-- A visit that leaves the queue alone keeps what `Counted` says of each message in it. -/
theorem Counted.keep {s after : Resending} (h : s.Counted) (hqueue : after.queue = s.queue)
    (hlogged : ∀ attempt ∈ after.log, attempt.number < s.queue.accepted.length)
    (hprogress : ∀ (n : Nat) msg, s.queue.accepted[n]? = some msg → msg.type = .count →
      1 ≤ msg.threshold.toNat → Progress n msg.threshold.toNat after) : after.Counted := by
  refine ⟨?_, ?_, ?_, ?_, ?_⟩
  · rw [hqueue]
    exact h.stored
  · rw [hqueue]
    exact h.distinct
  · rw [hqueue]
    exact h.uncounted
  · rwa [hqueue]
  · rwa [hqueue]

/-- A message of the queue is the one that was accepted under its number. -/
theorem Counted.accepted_eq {s : Resending} (h : s.Counted) {i n : Nat} {msg found : Msg}
    (hmsg : s.queue.msgQueue[i]? = some msg) (hfound : s.queue.accepted[n]? = some found)
    (hn : msg.number = n) : found = msg := by
  have hthis := h.stored msg (List.mem_of_getElem? hmsg)
  rw [hn, hfound] at hthis
  exact Option.some.inj hthis

/-- An attempt of a message of the queue is an attempt of an accepted message. -/
theorem Counted.logged_attempt {s after : Resending} (h : s.Counted) {i : Nat} {msg : Msg}
    {ret : Int} (hmsg : s.queue.msgQueue[i]? = some msg)
    (hlog : after.log = s.log ++ [⟨msg.number, ret⟩]) :
    ∀ attempt ∈ after.log, attempt.number < s.queue.accepted.length := by
  rw [hlog]
  intro attempt hattempt
  rcases List.mem_append.mp hattempt with hold | hnew
  · exact h.logged attempt hold
  · rw [List.mem_singleton.mp hnew]
    exact (List.getElem?_eq_some_iff.mp (h.stored msg (List.mem_of_getElem? hmsg))).1

/-- A message of the queue is still waiting: all its attempts have failed. -/
theorem Progress.of_queued {n t : Nat} {s : Resending} (h : Progress n t s)
    (hqueued : s.Queued n) : (∀ ret ∈ s.rets n, ret ≠ 0) ∧ (t = 1 → s.rets n = []) := by
  cases h with
  | waiting _ hfailed hone => exact ⟨hfailed, hone⟩
  | gone _ _ hgone => exact absurd hqueued hgone

/-- A visit keeps the invariant. -/
theorem Counted.visit {s after : Resending} (h : s.Counted) {i : Nat} {env : SendEnv}
    (hvisit : Visited s i env after) : after.Counted := by
  cases hvisit with
  | unchanged hqueue hlog =>
      refine h.keep hqueue (by rw [hlog]; exact h.logged) fun n msg hmsg hcount hlimit => ?_
      exact (h.progress n msg hmsg hcount hlimit).congr (by simp [Queued, hqueue])
        (by simp [rets, hlog])
  | erased msg hmsg hjudge hqueue hlog =>
      refine h.erase hqueue (by rw [hlog]; exact h.logged) fun n found hfound hcount hlimit => ?_
      have hne : n ≠ msg.number := by
        rintro rfl
        obtain rfl := h.accepted_eq hmsg hfound rfl
        have hzero := h.uncounted found (List.mem_of_getElem? hmsg)
        rw [judge_unsent hcount hzero hlimit] at hjudge
        cases hjudge
      refine (h.progress n found hfound hcount hlimit).congr ?_ (by simp [rets, hlog])
      simp [h.queued_erase hmsg hqueue, hne]
  | sent msg ret hmsg hleft hqueue hlog =>
      refine h.erase hqueue (h.logged_attempt hmsg hlog) fun n found hfound hcount hlimit => ?_
      have hprogress := h.progress n found hfound hcount hlimit
      have hrets := rets_append hlog n
      by_cases hn : msg.number = n
      · obtain rfl := h.accepted_eq hmsg hfound hn
        have hmem := List.mem_of_getElem? hmsg
        obtain ⟨hfailed, hone⟩ := hprogress.of_queued ⟨found, hmem, hn⟩
        refine .gone (s.rets n) ret ?_ (by simpa [hn] using hrets) hfailed hone fun hmore => ?_
        · simp [h.queued_erase hmsg hqueue, hn]
        · refine hleft.resolve_right fun hjudge => ?_
          have hle := (judge_attempted hcount (h.uncounted found hmem) env).mp hjudge
          omega
      · refine hprogress.congr ?_ (by simpa [hn] using hrets)
        simp [h.queued_erase hmsg hqueue, Ne.symm hn]
  | failed msg ret hmsg hret hjudge hqueue hlog =>
      refine h.keep hqueue (h.logged_attempt hmsg hlog) fun n found hfound hcount hlimit => ?_
      have hprogress := h.progress n found hfound hcount hlimit
      have hrets := rets_append hlog n
      have hqueued : after.Queued n ↔ s.Queued n := by simp [Queued, hqueue]
      by_cases hn : msg.number = n
      · obtain rfl := h.accepted_eq hmsg hfound hn
        have hmem := List.mem_of_getElem? hmsg
        obtain ⟨hfailed, -⟩ := hprogress.of_queued ⟨found, hmem, hn⟩
        refine .waiting (hqueued.mpr ⟨found, hmem, hn⟩) ?_ fun hone => ?_
        · rw [hrets]
          simpa [hn, or_imp, forall_and, hret] using hfailed
        · have hsure := judge_attempted hcount (h.uncounted found hmem) env
          rw [hsure.mpr (le_of_eq hone)] at hjudge
          cases hjudge
      · exact hprogress.congr hqueued (by simpa [hn] using hrets)

/-- A visit forgets no message and no attempt. -/
theorem Visited.grows {s after : Resending} {i : Nat} {env : SendEnv}
    (h : Visited s i env after) :
    after.queue.accepted = s.queue.accepted ∧ s.log <+: after.log := by
  cases h with
  | unchanged hqueue hlog => exact ⟨by rw [hqueue], by simp [hlog]⟩
  | erased msg hmsg hjudge hqueue hlog => exact ⟨by rw [hqueue], by simp [hlog]⟩
  | sent msg ret hmsg hleft hqueue hlog => exact ⟨by rw [hqueue], by simp [hlog]⟩
  | failed msg ret hmsg hret hjudge hqueue hlog => exact ⟨by rw [hqueue], by simp [hlog]⟩

/-- A pass returns, keeps the invariant and forgets nothing. -/
theorem pass_spec (config : ReconnectConfig) {s : Resending} (h : s.Counted)
    (env : Nat → SendEnv) :
    ∃ after, s.pass config env = .ok after ∧ after.Counted ∧
      after.queue.accepted = s.queue.accepted ∧ s.log <+: after.log := by
  unfold pass
  generalize s.queue.msgQueue.length = count
  induction count with
  | zero => exact ⟨s, rfl, h, rfl, List.prefix_rfl⟩
  | succ count ih =>
      obtain ⟨mid, hmid, hcounted, haccepted, hlog⟩ := ih
      obtain ⟨after, hvisit, hvisited⟩ := mid.visit_spec config count (env count)
      refine ⟨after, ?_, hcounted.visit hvisited, hvisited.grows.1.trans haccepted,
        hlog.trans hvisited.grows.2⟩
      rw [List.range_succ, List.foldlM_append, hmid]
      simp [bind, Except.bind, hvisit, pure, Except.pure]

/-- What a run keeps: the invariant, the accepted messages and the attempts. -/
structure Later (s after : Resending) : Prop where
  counted : after.Counted
  accepted : s.queue.accepted <+: after.queue.accepted
  log : s.log <+: after.log

/-- The attempts of a message are never forgotten. -/
theorem Later.rets_isPrefix {s after : Resending} (h : Later s after) (n : Nat) :
    s.rets n <+: after.rets n := h.log.filterMap _

/-- A message keeps its number. -/
theorem Later.accepted_get {s after : Resending} (h : Later s after) {n : Nat} {msg : Msg}
    (hmsg : s.queue.accepted[n]? = some msg) : after.queue.accepted[n]? = some msg := by
  obtain ⟨rest, hrest⟩ := h.accepted
  rw [← hrest, List.getElem?_append_left (List.getElem?_eq_some_iff.mp hmsg).1]
  exact hmsg

/-- Every state of a run is later than the first one. -/
theorem later_final (config : ReconnectConfig) {s : Resending} (h : s.Counted)
    (inputs : List Input) : Later s (final (step config) s inputs) := by
  refine final_invariant (fun _ _ => True) ?_ ⟨h, List.prefix_rfl, List.prefix_rfl⟩
    (allowed_of_forall _ _ fun _ _ _ => trivial)
  intro mid input hmid _
  cases input with
  | add msg now =>
      refine ⟨hmid.counted.add msg now, hmid.accepted.trans ?_, hmid.log⟩
      simp only [step, ReSendQueue.add]
      split
      · exact List.prefix_rfl
      · exact List.prefix_append _ _
  | pass env =>
      obtain ⟨after, hpass, hcounted, haccepted, hlog⟩ := pass_spec config hmid.counted env
      simp only [step, hpass]
      exact ⟨hcounted, hmid.accepted.trans (by simp [haccepted]), hmid.log.trans hlog⟩

/-- The empty queue satisfies the invariant. -/
theorem counted_start (clientList : ClientList) (max : Nat) : (start clientList max).Counted := by
  refine ⟨?_, ?_, ?_, ?_, ?_⟩ <;> simp [start]

/-- In a run, a message with a limit of `t` attempts keeps to it if and only if `t` is 1 or fewer
than `t` of its sends fail. -/
theorem limited_iff (config : ReconnectConfig) (clientList : ClientList) (max : Nat)
    (inputs : List Input) (n : Nat) (msg : Msg)
    (hmsg : (final (step config) (start clientList max) inputs).queue.accepted[n]? = some msg)
    (hcount : msg.type = .count) (hlimit : 1 ≤ msg.threshold.toNat) :
    Always (step config) (Limited n msg.threshold.toNat) (start clientList max) inputs ↔
      msg.threshold.toNat = 1 ∨
        (final (step config) (start clientList max) inputs).failures n < msg.threshold.toNat := by
  have hstart := counted_start clientList max
  have hlast := later_final config hstart inputs
  rw [always_iff]
  constructor
  · intro h
    have hfinal := h inputs.length
    rw [List.take_length] at hfinal
    exact ((hlast.counted.progress n msg hmsg hcount hlimit).limit_iff hlimit).mp hfinal
  · intro h k
    have hmid := later_final config hstart (inputs.take k)
    have hrest := later_final config hmid.counted (inputs.drop k)
    rw [← final_append, List.take_append_drop] at hrest
    set mid := final (step config) (start clientList max) (inputs.take k)
    by_cases hlt : n < mid.queue.accepted.length
    · have hsame := hrest.accepted_get (List.getElem?_eq_getElem hlt)
      rw [hmsg] at hsame
      have hmsgmid := (List.getElem?_eq_getElem hlt).trans hsame.symm
      rw [(hmid.counted.progress n msg hmsgmid hcount hlimit).limit_iff hlimit]
      refine h.imp id fun hfew => lt_of_le_of_lt ?_ hfew
      exact (hrest.rets_isPrefix n).sublist.countP_le
    · -- the message has not been added yet
      have hrets : mid.rets n = [] := by
        refine List.filterMap_eq_nil_iff.mpr fun attempt hattempt => ?_
        have hbefore := hmid.counted.logged attempt hattempt
        simp
        omega
      refine ⟨by simp [hrets], fun ret hret => ?_⟩
      rw [hrets] at hret
      cases hret

/-- A message with a limit of two attempts, as the alarm tasks queue them. -/
def twice : Msg where
  pkg := pkgWithoutCRC 0x04 1 123456789 [0x7b, 0x7d]
  threshold := 2
  type := .count
  name := "client2"

/-- Three passes while the client is connected and every send times out. -/
def timeouts : List Input :=
  let timeout : SendEnv := { outcome := .raised .timedOut }
  [.add twice 1, .pass fun _ => timeout, .pass fun _ => timeout, .pass fun _ => timeout]

/-- The only client, which is connected. -/
def onlyClient2 : ClientList := fun name =>
  if name = "client2" then some { isNeedReconnect := false } else none

/-- In the run with three timeouts the message has a limit of two attempts. -/
theorem limited_twice :
    Always (step {}) (Limited 0 2) (start onlyClient2 8) timeouts ↔
      2 = 1 ∨ (final (step {}) (start onlyClient2 8) timeouts).failures 0 < 2 :=
  limited_iff {} onlyClient2 8 timeouts 0 { twice with timestampInsert := 1 } rfl rfl (by decide)

/-- The limit does not hold there: the message is sent a third time. -/
theorem not_limited_twice :
    ¬ Always (step {}) (Limited 0 2) (start onlyClient2 8) timeouts := by
  intro h
  have hattempts := ((always_iff _ _).mp h 4).1
  exact absurd hattempts (by decide +kernel)

end Resending

end RVDataFusionServer
