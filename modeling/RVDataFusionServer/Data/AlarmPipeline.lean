import RVDataFusionServer.Data.AlarmTask
import RVDataFusionServer.Data.CountLimit

/-!
# The way of the alarms

An alarm goes from the output queue of its kind to a task, from there to the client, and into the
resend queue if that send fails. `conserved` follows all of them through a run: each kind is taken
in the order in which it was stored, under consecutive serial numbers, and a message of the resend
queue leaves it with the first send of it that succeeds, and not before.
-/

namespace RVDataFusionServer.AlarmSystem

open Library Execution

variable {Item : AlarmKind → Type} [∀ kind, Alarm (Item kind)]

/-! ## What is seen of a run -/

/-- What is seen of a step: an alarm was stored in its output queue, or a task has taken one. -/
inductive Event (Item : AlarmKind → Type) where
  | stored (kind : AlarmKind) (item : Item kind)
  | taken (kind : AlarmKind) (popped : Popped (Item kind))

/-- One step, with what is seen of it. -/
def trace (config : ReconnectConfig) (matrixNo : List UInt8) (s : AlarmSystem Item) :
    Input Item → AlarmSystem Item × Option (Event Item)
  | .pushO kind item =>
      ((step config matrixNo s (.pushO kind item)).1,
        if ((s.units kind).oQueue.push item).2 then some (.stored kind item) else none)
  | input =>
      ((step config matrixNo s input).1,
        (step config matrixNo s input).2.map fun popped => .taken popped.1 popped.2)

/-- Empty queues of capacity `cap`, and a resend queue for `max` messages. -/
def start (clientList : ClientList) (cap max : Nat) : AlarmSystem Item where
  units _ := { oQueue := ({} : Queue _).setMax cap }
  shared := ⟨clientList, { max }⟩

/-- The alarm of a kind that was stored. -/
def Event.storedItem (kind : AlarmKind) : Option (Event Item) → Option (Item kind)
  | some (.stored other item) => if h : other = kind then some (h ▸ item) else none
  | _ => none

/-- The alarm of a kind that was taken. -/
def Event.takenItem (kind : AlarmKind) : Option (Event Item) → Option (Popped (Item kind))
  | some (.taken other popped) => if h : other = kind then some (h ▸ popped) else none
  | _ => none

/-- `SendBase` has failed, and the resend queue had room. -/
def Deferred {O : Type} (popped : Popped O) : Prop :=
  (∃ ret ∈ popped.ret, ret ≠ 0) ∧ ¬ popped.before.Full

instance {O : Type} (popped : Popped O) : Decidable (Deferred popped) :=
  inferInstanceAs (Decidable (_ ∧ _))

/-- What the resend queue has to send again after a step, with the time of the alarm. -/
def Event.deferred : Option (Event Item) → Option (Pkg × UInt64)
  | some (.taken _ popped) =>
      if Deferred popped then some (popped.pkg, Alarm.timestamp popped.item) else none
  | _ => none

/-- The alarms of a kind that were stored, oldest first. -/
def storedIn (kind : AlarmKind) (es : List (Option (Event Item))) : List (Item kind) :=
  es.filterMap (Event.storedItem kind)

/-- The alarms of a kind that were taken, oldest first. -/
def takenFrom (kind : AlarmKind) (es : List (Option (Event Item))) : List (Popped (Item kind)) :=
  es.filterMap (Event.takenItem kind)

/-- The package of the alarm number `n` of its kind. -/
def stamp (kind : AlarmKind) (deviceNo : UInt32) (n : Nat) (item : Item kind) : Pkg :=
  pkgWithoutCRC kind.cmdType (UInt16.ofNat n) deviceNo (Alarm.encode item)

/-- What the resend queue works on. -/
def resending (s : AlarmSystem Item) : Resending :=
  ⟨s.shared.clientList, s.shared.reSendQueue, s.log⟩

/-- A message is in the resend queue while its sends fail, and has left it with the one that
succeeded. -/
def Settled (s : Resending) (n : Nat) : Prop :=
  (s.Queued n ∧ ∀ ret ∈ s.rets n, ret ≠ 0) ∨
    ¬ s.Queued n ∧ ∃ fails, s.rets n = fails ++ [0] ∧ ∀ ret ∈ fails, ret ≠ 0

/-- The alarms after a run with the given events. -/
structure Conserved (deviceNo : UInt32) (s : AlarmSystem Item) (es : List (Option (Event Item))) :
    Prop where
  running : s.terminated = false
  fifo : ∀ kind,
    storedIn kind es = (takenFrom kind es).map Popped.item ++ (s.units kind).oQueue.q
  numbered : ∀ kind, (takenFrom kind es).map Popped.pkg =
    ((takenFrom kind es).map Popped.item).mapIdx (stamp kind deviceNo)
  deferred : s.shared.reSendQueue.accepted.map (fun msg => (msg.pkg, msg.timestampFrame)) =
    es.filterMap Event.deferred
  ordered : s.shared.reSendQueue.msgQueue.Sublist s.shared.reSendQueue.accepted
  settled : ∀ n < s.shared.reSendQueue.accepted.length, Settled s.resending n

/-! ## The output queues -/

/-- The output queues after a run. The serial number of a kind is the number of its alarms that were
taken. -/
structure Shipped (deviceNo : UInt32) (s : AlarmSystem Item) (es : List (Option (Event Item))) :
    Prop where
  fifo : ∀ kind,
    storedIn kind es = (takenFrom kind es).map Popped.item ++ (s.units kind).oQueue.q
  numbered : ∀ kind, (takenFrom kind es).map Popped.pkg =
    ((takenFrom kind es).map Popped.item).mapIdx (stamp kind deviceNo)
  counted : ∀ kind,
    (s.units kind).sn.toUInt32.toUInt16 = UInt16.ofNat (takenFrom kind es).length

omit [∀ kind, Alarm (Item kind)] in
@[simp] theorem storedIn_append (kind : AlarmKind) (es : List (Option (Event Item)))
    (e : Option (Event Item)) :
    storedIn kind (es ++ [e]) = storedIn kind es ++ (Event.storedItem kind e).toList := by
  unfold storedIn
  rw [List.filterMap_append, List.filterMap_cons]
  cases Event.storedItem kind e <;> rfl

omit [∀ kind, Alarm (Item kind)] in
@[simp] theorem takenFrom_append (kind : AlarmKind) (es : List (Option (Event Item)))
    (e : Option (Event Item)) :
    takenFrom kind (es ++ [e]) = takenFrom kind es ++ (Event.takenItem kind e).toList := by
  unfold takenFrom
  rw [List.filterMap_append, List.filterMap_cons]
  cases Event.takenItem kind e <;> rfl

@[simp] theorem deferred_append (es : List (Option (Event Item))) (e : Option (Event Item)) :
    (es ++ [e]).filterMap Event.deferred =
      es.filterMap Event.deferred ++ (Event.deferred e).toList := by
  rw [List.filterMap_append, List.filterMap_cons]
  cases Event.deferred e <;> rfl

variable {deviceNo : UInt32} {s : AlarmSystem Item} {es : List (Option (Event Item))}

/-- A step of which nothing is seen leaves the output queues alone. -/
theorem Shipped.quiet (h : Shipped deviceNo s es) {after : AlarmSystem Item}
    (hunits : after.units = s.units) : Shipped deviceNo after (es ++ [none]) := by
  refine ⟨fun kind => ?_, fun kind => ?_, fun kind => ?_⟩
  · simpa [Event.storedItem, Event.takenItem, hunits] using h.fifo kind
  · simpa [Event.takenItem] using h.numbered kind
  · simpa [Event.takenItem, hunits] using h.counted kind

/-- An alarm that is stored is the last one of its kind. -/
theorem Shipped.push (h : Shipped deviceNo s es) (config : ReconnectConfig)
    (matrixNo : List UInt8) (kind : AlarmKind) (item : Item kind) :
    Shipped deviceNo (trace config matrixNo s (.pushO kind item)).1
      (es ++ [(trace config matrixNo s (.pushO kind item)).2]) := by
  by_cases hfull : (s.units kind).oQueue.Full
  · simp only [trace, step, Queue.push_of_full hfull, Bool.false_eq_true, if_false]
    exact h.quiet (Function.update_eq_self kind s.units)
  · simp only [trace, step, Queue.push_of_not_full hfull, if_true]
    refine ⟨fun other => ?_, fun other => ?_, fun other => ?_⟩
    · have hfifo := h.fifo other
      by_cases hkind : kind = other
      · subst hkind
        simp [Event.storedItem, Event.takenItem, hfifo]
      · simpa [Event.storedItem, Event.takenItem, hkind, Ne.symm hkind] using hfifo
    · simpa [Event.takenItem] using h.numbered other
    · have hcounted := h.counted other
      by_cases hkind : kind = other
      · subst hkind
        simpa [Event.takenItem] using hcounted
      · simpa [Event.takenItem, Ne.symm hkind] using hcounted

/-- An alarm that is taken is the oldest one of its kind, and its package has the next serial
number. -/
theorem Shipped.take (h : Shipped deviceNo s es) {kind : AlarmKind} {item : Item kind}
    {rest : Queue (Item kind)} (hpop : (s.units kind).oQueue.pop = some (item, rest))
    {after : AlarmSystem Item} {popped : Popped (Item kind)}
    (hunits : after.units =
      Function.update s.units kind { oQueue := rest, sn := (s.units kind).sn + 1 })
    (hitem : popped.item = item)
    (hpkg : popped.pkg = pkgWithoutCRC kind.cmdType (s.units kind).sn.toUInt32.toUInt16 deviceNo
      (Alarm.encode item)) :
    Shipped deviceNo after (es ++ [some (.taken kind popped)]) := by
  have hqueue : (s.units kind).oQueue.q = item :: rest.q := by
    unfold Queue.pop at hpop
    split at hpop
    · cases hpop
    · obtain ⟨rfl, rfl⟩ := Prod.mk.inj (Option.some.inj hpop)
      assumption
  refine ⟨fun other => ?_, fun other => ?_, fun other => ?_⟩
  · have hfifo := h.fifo other
    by_cases hkind : kind = other
    · subst hkind
      simp [Event.storedItem, Event.takenItem, hunits, hfifo, hqueue, hitem]
    · simpa [Event.storedItem, Event.takenItem, hunits, hkind, Ne.symm hkind] using hfifo
  · have hnumbered := h.numbered other
    by_cases hkind : kind = other
    · subst hkind
      simp [Event.takenItem, List.mapIdx_append, hnumbered, hpkg, hitem, stamp, h.counted kind]
    · simpa [Event.takenItem, hkind] using hnumbered
  · have hcounted := h.counted other
    by_cases hkind : kind = other
    · subst hkind
      have hone : (Int32.toUInt32 1).toUInt16 = 1 := rfl
      simp [Event.takenItem, hunits, hone, hcounted, UInt16.ofNat_add]
    · simpa [Event.takenItem, hunits, hkind, Ne.symm hkind] using hcounted

/-! ## The resend queue -/

/-- The resend queue after a run. All of its messages have a limit of two attempts. -/
structure Deferring (s : AlarmSystem Item) (es : List (Option (Event Item))) : Prop where
  deferred : s.shared.reSendQueue.accepted.map (fun msg => (msg.pkg, msg.timestampFrame)) =
    es.filterMap Event.deferred
  ordered : s.shared.reSendQueue.msgQueue.Sublist s.shared.reSendQueue.accepted
  limited : ∀ msg ∈ s.shared.reSendQueue.accepted, msg.type = .count ∧ msg.threshold = 2
  counted : s.resending.Counted

/-- Such a message stays until a send of it succeeds, as `judge` never sees a second attempt. -/
theorem Deferring.settled (h : Deferring s es) {n : Nat}
    (hn : n < s.shared.reSendQueue.accepted.length) : Settled s.resending n := by
  obtain ⟨hcount, htwo⟩ := h.limited _ (List.getElem_mem hn)
  have hprogress := h.counted.progress n _ (List.getElem?_eq_getElem hn) hcount
    (by rw [htwo]; decide)
  rw [htwo] at hprogress
  cases hprogress with
  | waiting hqueued hfailed => exact .inl ⟨hqueued, hfailed⟩
  | gone fails last hgone hrets hfailed _ hmore =>
      obtain rfl : last = 0 := hmore (by decide)
      exact .inr ⟨hgone, fails, hrets, hfailed⟩

/-- A visit changes the order of no messages. -/
theorem sublist_of_visited {s after : Resending} {i : Nat} {env : SendEnv}
    (h : Resending.Visited s i env after) : after.queue.msgQueue.Sublist s.queue.msgQueue := by
  cases h with
  | unchanged hqueue _ => rw [hqueue]
  | erased msg _ _ hqueue _ =>
      rw [hqueue]
      exact List.eraseIdx_sublist _ i
  | sent msg ret _ _ hqueue _ =>
      rw [hqueue]
      exact List.eraseIdx_sublist _ i
  | failed msg ret _ _ _ hqueue _ => rw [hqueue]

/-- Nor does a pass. -/
theorem sublist_of_pass (config : ReconnectConfig) {s after : Resending} {env : Nat → SendEnv}
    (h : s.pass config env = .ok after) : after.queue.msgQueue.Sublist s.queue.msgQueue := by
  unfold Resending.pass at h
  generalize s.queue.msgQueue.length = count at h
  induction count generalizing after with
  | zero =>
      obtain rfl : s = after := Except.ok.inj h
      exact List.Sublist.refl _
  | succ count ih =>
      rw [List.range_succ, List.foldlM_append] at h
      obtain ⟨mid, hmid, hlast⟩ := bind_eq_ok.mp h
      obtain ⟨next, hnext, hvisited⟩ := mid.visit_spec config count (env count)
      rw [List.foldlM_cons, hnext] at hlast
      obtain rfl : next = after := Except.ok.inj hlast
      exact (sublist_of_visited hvisited).trans (ih hmid)

/-- The invariant of the resend queue is not about the clients. -/
theorem counted_congr {s : Resending} (h : s.Counted) (after : Resending)
    (hqueue : after.queue = s.queue) (hlog : after.log = s.log) : after.Counted := by
  refine h.keep hqueue (by rw [hlog]; exact h.logged) fun n msg hmsg hcount hlimit => ?_
  exact (h.progress n msg hmsg hcount hlimit).congr (by simp [Resending.Queued, hqueue])
    (by simp [Resending.rets, hlog])

/-- A step that leaves the resend queue alone. -/
theorem Deferring.quiet {after : AlarmSystem Item} {e : Option (Event Item)}
    (h : Deferring s es) (hqueue : after.shared.reSendQueue = s.shared.reSendQueue)
    (hlog : after.log = s.log) (hnone : Event.deferred e = none) :
    Deferring after (es ++ [e]) := by
  refine ⟨?_, ?_, ?_, counted_congr h.counted _ hqueue hlog⟩
  · rw [hqueue, deferred_append, hnone, h.deferred]
    exact (List.append_nil _).symm
  · rw [hqueue]
    exact h.ordered
  · rw [hqueue]
    exact h.limited

/-- A message that is added is the last one of the queue. -/
theorem Deferring.add {after : AlarmSystem Item} {e : Option (Event Item)} {pkg : Pkg}
    {timestamp added : UInt64} (h : Deferring s es) (hroom : ¬ s.shared.reSendQueue.Full)
    (hqueue : after.shared.reSendQueue =
      (s.shared.reSendQueue.add (resendMsg pkg timestamp) added).1)
    (hlog : after.log = s.log)
    (hsome : Event.deferred e = some (pkg, timestamp)) : Deferring after (es ++ [e]) := by
  have hcounted := counted_congr (h.counted.add (resendMsg pkg timestamp) added) after.resending
    hqueue hlog
  simp only [ReSendQueue.add, if_neg hroom] at hqueue
  refine ⟨?_, ?_, ?_, hcounted⟩
  · rw [hqueue, deferred_append, hsome, List.map_append, h.deferred]
    rfl
  · rw [hqueue]
    exact h.ordered.append (List.Sublist.refl _)
  · rw [hqueue]
    intro msg hmsg
    rcases List.mem_append.mp hmsg with hold | hnew
    · exact h.limited msg hold
    · rw [List.mem_singleton.mp hnew]
      exact ⟨rfl, rfl⟩

/-- A pass takes messages out of the queue. -/
theorem Deferring.pass (h : Deferring s es) {config : ReconnectConfig} {env : Nat → SendEnv}
    {swept : Resending} (hpass : s.resending.pass config env = .ok swept)
    {after : AlarmSystem Item} (hafter : after.resending = swept) :
    Deferring after (es ++ [none]) := by
  obtain ⟨swept', hpass', hcounted, haccepted, -⟩ :=
    Resending.pass_spec config h.counted env
  obtain rfl : swept = swept' := Except.ok.inj (hpass.symm.trans hpass')
  rw [← hafter] at hcounted haccepted
  have hsublist := sublist_of_pass config hpass
  rw [← hafter] at hsublist
  have hsame : after.shared.reSendQueue.accepted = s.shared.reSendQueue.accepted := haccepted
  refine ⟨?_, ?_, ?_, hcounted⟩
  · rw [hsame, deferred_append, h.deferred]
    exact (List.append_nil _).symm
  · rw [hsame]
    exact hsublist.trans h.ordered
  · rw [hsame]
    exact h.limited

/-! ## Steps and runs -/

/-- What a task that takes an alarm does with it. -/
theorem taskO_taken {O : Type} [Alarm O] (cmdType : UInt8) (config : ReconnectConfig)
    (matrixNo : List UInt8) (hdevice : deviceNoOf matrixNo = .ok deviceNo) {unit : AlarmUnit O}
    {item : O} {rest : Queue O} (hpop : unit.oQueue.pop = some (item, rest)) (shared : Shared)
    (env : SendEnv) (added : UInt64) :
    ∃ after popped,
      RVDataFusionServer.taskO cmdType config matrixNo unit shared env added =
        .ok ({ oQueue := rest, sn := unit.sn + 1 }, after, some popped) ∧
      popped.item = item ∧
      popped.pkg = pkgWithoutCRC cmdType unit.sn.toUInt32.toUInt16 deviceNo (Alarm.encode item) ∧
      popped.before = shared.reSendQueue ∧
      after.reSendQueue =
        if Deferred popped then
          (shared.reSendQueue.add (resendMsg popped.pkg (Alarm.timestamp popped.item)) added).1
        else shared.reSendQueue := by
  obtain ⟨clientList, ret, hsend, -⟩ := shared.clientList.sendTo_spec config "client2"
    (pkgWithoutCRC cmdType unit.sn.toUInt32.toUInt16 deviceNo (Alarm.encode item)) env
  simp only [RVDataFusionServer.taskO, hpop, hdevice, hsend, bind, Except.bind, pure, Except.pure]
  refine ⟨_, _, rfl, rfl, rfl, rfl, ?_⟩
  cases ret with
  | none => simp [Deferred]
  | some ret =>
      by_cases hret : ret = 0
      · simp [Deferred, hret]
      · by_cases hfull : shared.reSendQueue.Full
        · simp [Deferred, hret, hfull, ReSendQueue.add]
        · simp [Deferred, hret, hfull]

/-- The invariant of a run. -/
structure Fits (deviceNo : UInt32) (s : AlarmSystem Item) (es : List (Option (Event Item))) :
    Prop where
  running : s.terminated = false
  shipped : Shipped deviceNo s es
  deferring : Deferring s es

/-- A task keeps the invariant. -/
theorem Fits.taskO (h : Fits deviceNo s es) (config : ReconnectConfig) {matrixNo : List UInt8}
    (hdevice : deviceNoOf matrixNo = .ok deviceNo) (kind : AlarmKind) (env : SendEnv)
    (added : UInt64) :
    Fits deviceNo (trace config matrixNo s (.taskO kind env added)).1
      (es ++ [(trace config matrixNo s (.taskO kind env added)).2]) := by
  have hrunning := h.running
  cases hpop : (s.units kind).oQueue.pop with
  | none =>
      have hstep : trace config matrixNo s (.taskO kind env added) =
          ({ s with units := Function.update s.units kind (s.units kind) }, none) := by
        simp [trace, step, taskOf_eq, hrunning, RVDataFusionServer.taskO, hpop, pure, Except.pure]
      rw [hstep]
      exact ⟨hrunning, h.shipped.quiet (Function.update_eq_self kind s.units),
        h.deferring.quiet rfl rfl rfl⟩
  | some taken =>
      obtain ⟨item, rest⟩ := taken
      obtain ⟨after, popped, htask, hitem, hpkg, hbefore, hqueue⟩ :=
        taskO_taken kind.cmdType config matrixNo hdevice hpop s.shared env added
      have hstep : trace config matrixNo s (.taskO kind env added) =
          ({ s with
              units := Function.update s.units kind { oQueue := rest, sn := (s.units kind).sn + 1 }
              shared := after }, some (.taken kind popped)) := by
        simp [trace, step, taskOf_eq, hrunning, htask]
      rw [hstep]
      refine ⟨hrunning, h.shipped.take hpop rfl hitem hpkg, ?_⟩
      by_cases hdeferred : Deferred popped
      · have hroom : ¬ s.shared.reSendQueue.Full := by
          rw [← hbefore]
          exact hdeferred.2
        rw [if_pos hdeferred] at hqueue
        exact h.deferring.add hroom hqueue rfl (if_pos hdeferred)
      · rw [if_neg hdeferred] at hqueue
        exact h.deferring.quiet hqueue rfl (if_neg hdeferred)

/-- Every step keeps the invariant. -/
theorem Fits.step (h : Fits deviceNo s es) (config : ReconnectConfig) {matrixNo : List UInt8}
    (hdevice : deviceNoOf matrixNo = .ok deviceNo) (input : Input Item) :
    Fits deviceNo (trace config matrixNo s input).1
      (es ++ [(trace config matrixNo s input).2]) := by
  cases input with
  | pushO kind item =>
      refine ⟨h.running, h.shipped.push config matrixNo kind item, h.deferring.quiet rfl rfl ?_⟩
      simp only [trace]
      split <;> rfl
  | taskO kind env added => exact h.taskO config hdevice kind env added
  | resend env =>
      obtain ⟨swept, hpass, -⟩ := Resending.pass_spec config h.deferring.counted env
      have hrunning := h.running
      have hstep : trace config matrixNo s (.resend env) =
          ({ s with shared := ⟨swept.clientList, swept.queue⟩, log := swept.log }, none) := by
        have hpass' : Resending.pass config ⟨s.shared.clientList, s.shared.reSendQueue, s.log⟩ env =
            .ok swept := hpass
        simp [trace, AlarmSystem.step, hrunning, hpass']
      rw [hstep]
      exact ⟨hrunning, h.shipped.quiet rfl, h.deferring.pass hpass rfl⟩

/-- The empty queues. -/
theorem fits_start (deviceNo : UInt32) (clientList : ClientList) (cap max : Nat) :
    Fits deviceNo (start clientList cap max : AlarmSystem Item) [] :=
  ⟨rfl, ⟨fun _ => rfl, fun _ => rfl, fun _ => rfl⟩,
    ⟨rfl, List.Sublist.refl _, nofun, Resending.counted_start clientList max⟩⟩

/-- What is seen of the steps changes nothing of a run. -/
theorem final_trace (config : ReconnectConfig) (matrixNo : List UInt8) (s : AlarmSystem Item)
    (inputs : List (Input Item)) :
    final (trace config matrixNo) s inputs = final (step config matrixNo) s inputs := by
  induction inputs generalizing s with
  | nil => rfl
  | cons input rest ih =>
      have hstep : (trace config matrixNo s input).1 = (step config matrixNo s input).1 := by
        cases input <;> rfl
      rw [final_cons, final_cons, hstep]
      exact ih _

/-- In every run from empty queues, with a matrix number whose first ten digits are a device
number: the alarms of each kind are taken in the order in which they were stored, under the serial
numbers 0, 1, 2 and so on; the resend queue gets those whose send failed while it had room; and it
keeps each of them until the first send of it that succeeds, which is the last one. -/
theorem conserved (config : ReconnectConfig) (matrixNo : List UInt8) (deviceNo : UInt32)
    (hdevice : deviceNoOf matrixNo = .ok deviceNo) (clientList : ClientList) (cap max : Nat)
    (inputs : List (Input Item)) :
    Conserved deviceNo (final (step config matrixNo) (start clientList cap max) inputs)
      (outputs (trace config matrixNo) (start clientList cap max) inputs) := by
  let fits : AlarmSystem Item → List (Input Item) → List (Option (Event Item)) → Prop :=
    fun s _ es => Fits deviceNo s es
  have hfits : fits (final (trace config matrixNo) (start clientList cap max) inputs) ([] ++ inputs)
      ([] ++ outputs (trace config matrixNo) (start clientList cap max) inputs) :=
    final_of_history (fun _ _ => True) (fun s _ es input h _ => h.step config hdevice input)
      (fits_start deviceNo clientList cap max) (allowed_of_forall _ _ fun _ _ _ => trivial)
  rw [final_trace, List.nil_append] at hfits
  exact ⟨hfits.running, hfits.shipped.fifo, hfits.shipped.numbered, hfits.deferring.deferred,
    hfits.deferring.ordered, fun n hn => hfits.deferring.settled hn⟩

/-- Two jams. The send of the first one times out, and the resend queue sends it. -/
def twoJams : List (Input fun _ => EncodedAlarm) :=
  let timeout : SendEnv := { outcome := .raised .timedOut }
  let sent : SendEnv := { outcome := .returned 17 }
  [.pushO .crossTrafficJam ⟨1000, [0x7b, 0x7d]⟩, .pushO .crossTrafficJam ⟨2000, [0x7b, 0x7d]⟩,
    .taskO .crossTrafficJam timeout 2001, .taskO .crossTrafficJam sent 2002,
    .resend fun _ => sent]

/-- All this holds of the run with the two jams. -/
theorem conserved_twoJams :
    Conserved 123456789
      (final (step {} [0x30, 0x31, 0x32, 0x33, 0x34, 0x35, 0x36, 0x37, 0x38, 0x39])
        (start Resending.onlyClient2 10 8) twoJams)
      (outputs (trace {} [0x30, 0x31, 0x32, 0x33, 0x34, 0x35, 0x36, 0x37, 0x38, 0x39])
        (start Resending.onlyClient2 10 8) twoJams) :=
  conserved {} _ 123456789 (by decide +kernel) Resending.onlyClient2 10 8 twoJams

end RVDataFusionServer.AlarmSystem
