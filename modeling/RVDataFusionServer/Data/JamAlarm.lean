import RVDataFusionServer.Data.DataUnit
import RVDataFusionServer.Library.Changes
import RVDataFusionServer.Library.Execution

/-!
# Jam alarms

`DataUnitCrossTrafficJamAlarm::specialBusiness` (`DataUnit.cpp`) reports an alarm when its status is
not the one before. The status is remembered before the alarm is pushed to the output queue, so that
a change is swallowed when the queue is full: `always_exact_iff`.
-/

namespace RVDataFusionServer

open Library Execution

/-- `CrossTrafficJamAlarm`. -/
structure CrossTrafficJamAlarm where
  oprNum : String := ""
  timestamp : Fin (2 ^ 63) := 0
  crossID : String := ""
  hardCode : String := ""
  alarmType : Int32 := 0
  alarmStatus : Int32 := 0
  alarmTime : String := ""
  imageData : String := ""
  deriving DecidableEq, Repr, Inhabited

/-- The data unit for jam alarms with the variable `alarmStatus`, and the statuses that were taken
from the lanes and those that the output queue has accepted. -/
structure JamAlarm where
  unit : DataUnit CrossTrafficJamAlarm CrossTrafficJamAlarm := {}
  alarmStatus : Int32 := -1
  drained : List Int32 := []
  accepted : List Int32 := []

namespace JamAlarm

/-- `pushO`, as `specialBusiness` calls it: the return value is logged only. -/
def pushO (s : JamAlarm) (item : CrossTrafficJamAlarm) : JamAlarm :=
  let (oQueue, pushed) := s.unit.oQueue.push item
  { s with
    unit := { s.unit with oQueue }
    accepted := if pushed then s.accepted ++ [item.alarmStatus] else s.accepted }

/-- What `specialBusiness` does with an alarm that it has taken. -/
def report (s : JamAlarm) (cur : CrossTrafficJamAlarm) : JamAlarm :=
  if s.alarmStatus = -1 then { s with alarmStatus := cur.alarmStatus }.pushO cur
  else if s.alarmStatus ≠ cur.alarmStatus then { s with alarmStatus := cur.alarmStatus }.pushO cur
  else s

/-- The first alarm of lane `index` is taken out. -/
def take (s : JamAlarm) (index : Nat) (cur : CrossTrafficJamAlarm) : JamAlarm :=
  { s with unit := s.unit.eraseBeginI index, drained := s.drained ++ [cur.alarmStatus] }

/-- A turn of the inner loop of `specialBusiness`, on lane `index`. -/
def drain (s : JamAlarm) (index : Nat) : JamAlarm :=
  match s.unit.getIOffset index 0 with
  | none => s
  | some cur => (s.take index cur).report cur

/-- `specialBusiness`, with no other thread at the data unit: the inner loop makes as many turns as
its lane holds alarms. -/
def specialBusiness (s : JamAlarm) : JamAlarm :=
  s.unit.iQueueVector.zipIdx.foldl
    (fun s (lane, index) => (fun s => s.drain index)^[lane.q.length] s) s

/-- What happens to the data unit: an alarm is pushed to a lane, the task takes one from a lane, or
the output is taken. Other threads may come between any two turns of the task. -/
inductive Input where
  | pushI (frame : CrossTrafficJamAlarm) (index : Nat)
  | drain (index : Nat)
  | popO

/-- One step. -/
def step (s : JamAlarm) : Input → JamAlarm × Unit
  | .pushI frame index => ({ s with unit := (s.unit.pushI frame index).1 }, ())
  | .drain index => (s.drain index, ())
  | .popO =>
      match s.unit.oQueue.pop with
      | none => (s, ())
      | some (_, oQueue) => ({ s with unit := { s.unit with oQueue } }, ())

/-- The data unit after its initialisation. -/
def start (c : Nat) (fs : Int32) (i_num : Nat) (cache : Int) (intervalTask : Int32) : JamAlarm where
  unit := DataUnit.init {} c fs i_num cache intervalTask

/-- The accepted statuses are the changes of the drained ones, and `alarmStatus` is the last of
them. -/
def Exact (s : JamAlarm) : Prop :=
  s.accepted = s.drained.destutter (· ≠ ·) ∧
    (s.drained ≠ [] → s.accepted.getLast? = some s.alarmStatus)

instance (s : JamAlarm) : Decidable s.Exact := inferInstanceAs (Decidable (_ ∧ _))

/-- A change of the status finds room in the output queue. -/
def ChangeFits (s : JamAlarm) : Input → Prop
  | .drain index => ∀ cur, s.unit.getIOffset index 0 = some cur →
      cur.alarmStatus ≠ s.alarmStatus → ¬ s.unit.oQueue.Full
  | .pushI _ _ => True
  | .popO => True

/-- The statuses of devices are not negative. -/
def Input.NonNegative : Input → Prop
  | .pushI frame _ => 0 ≤ frame.alarmStatus
  | .drain _ => True
  | .popO => True

instance : (input : Input) → Decidable input.NonNegative
  | .pushI frame _ => inferInstanceAs (Decidable (0 ≤ frame.alarmStatus))
  | .drain _ => .isTrue trivial
  | .popO => .isTrue trivial

/-- A pass of `specialBusiness` consists of turns of its inner loop. -/
theorem specialBusiness_eq (s : JamAlarm) :
    s.specialBusiness = final step s (s.unit.iQueueVector.zipIdx.flatMap fun (lane, index) =>
      List.replicate lane.q.length (.drain index)) := by
  have hturns : ∀ (index count : Nat) (s : JamAlarm),
      final step s (List.replicate count (.drain index)) = (fun s => s.drain index)^[count] s := by
    intro index count
    induction count with
    | zero => exact fun s => rfl
    | succ count ih =>
        intro s
        rw [List.replicate_succ, final_cons, Function.iterate_succ_apply]
        exact ih _
  have hlanes : ∀ (lanes : List (Vector CrossTrafficJamAlarm × Nat)) (s : JamAlarm),
      lanes.foldl (fun s (lane, index) => (fun s => s.drain index)^[lane.q.length] s) s =
        final step s (lanes.flatMap fun (lane, index) =>
          List.replicate lane.q.length (.drain index)) := by
    intro lanes
    induction lanes with
    | nil => exact fun s => rfl
    | cons lane rest ih =>
        intro s
        rw [List.foldl_cons, List.flatMap_cons, final_append, hturns]
        exact ih _
  exact hlanes _ s

/-- The accepted statuses are right so far, `alarmStatus` is the last drained one, and no status is
negative. -/
structure Reporting (s : JamAlarm) : Prop where
  accepted_eq : s.accepted = s.drained.destutter (· ≠ ·)
  remembered : s.drained.getLast? = if s.alarmStatus = -1 then none else some s.alarmStatus
  nonneg : ∀ lane ∈ s.unit.iQueueVector, ∀ x ∈ lane.q, 0 ≤ x.alarmStatus

variable {s : JamAlarm}

/-- A status that is not negative is not the initial one. -/
theorem ne_of_nonneg {status : Int32} (h : 0 ≤ status) : status ≠ -1 := by
  rintro rfl
  exact absurd h (by decide)

/-- The accepted statuses of a data unit that reports right are exact. -/
theorem Reporting.exact (h : s.Reporting) : s.Exact := by
  refine ⟨h.accepted_eq, fun hne => ?_⟩
  have hlast := h.remembered
  split_ifs at hlast
  · exact absurd (List.getLast?_eq_none_iff.mp hlast) hne
  · rw [h.accepted_eq, getLast?_destutter, hlast]

/-- An alarm with another status is pushed, and its status is remembered first. -/
theorem report_of_change {cur : CrossTrafficJamAlarm} (h : cur.alarmStatus ≠ s.alarmStatus) :
    s.report cur = { s with alarmStatus := cur.alarmStatus }.pushO cur := by
  unfold report
  split_ifs with hstart hsame
  · rfl
  · rfl
  · exact absurd (not_not.mp hsame).symm h

/-- An alarm with the remembered status is dropped. -/
theorem report_of_same {cur : CrossTrafficJamAlarm} (hstatus : 0 ≤ cur.alarmStatus)
    (h : cur.alarmStatus = s.alarmStatus) : s.report cur = s := by
  have hne := ne_of_nonneg hstatus
  rw [h] at hne
  unfold report
  rw [if_neg hne, if_neg (not_not.mpr h.symm)]

/-- An alarm that finds room is accepted. -/
theorem pushO_of_not_full (h : ¬ s.unit.oQueue.Full) (item : CrossTrafficJamAlarm) :
    s.pushO item = { s with
      unit := { s.unit with oQueue := (s.unit.oQueue.push item).1 }
      accepted := s.accepted ++ [item.alarmStatus] } := by
  simp [pushO, Queue.push_of_not_full h]

/-- An alarm that finds no room is lost. -/
theorem pushO_of_full (h : s.unit.oQueue.Full) (item : CrossTrafficJamAlarm) :
    s.pushO item = s := by
  simp [pushO, Queue.push_of_full h]

/-- A turn of the inner loop keeps `Reporting` if a change of the status finds room. -/
theorem Reporting.drain (h : s.Reporting) {index : Nat} (hfits : s.ChangeFits (.drain index)) :
    (s.drain index).Reporting := by
  unfold JamAlarm.drain
  cases hget : s.unit.getIOffset index 0 with
  | none => exact h
  | some cur =>
      obtain ⟨j, lane, -, hlane, hcur⟩ := DataUnit.getIOffset_eq_some hget
      have hstatus := h.nonneg lane (List.mem_of_getElem? hlane) cur (List.mem_of_getElem? hcur)
      have hnonneg : ∀ lane ∈ (s.unit.eraseBeginI index).iQueueVector, ∀ x ∈ lane.q,
          0 ≤ x.alarmStatus := by
        intro lane hmem x hx
        obtain ⟨old, hold, hxold⟩ := DataUnit.mem_of_eraseBeginI hmem hx
        exact h.nonneg old hold x hxold
      show ((s.take index cur).report cur).Reporting
      by_cases hsame : cur.alarmStatus = s.alarmStatus
      · have hlast : s.drained.getLast? = some cur.alarmStatus := by
          rw [h.remembered, ← hsame, if_neg (ne_of_nonneg hstatus)]
        rw [report_of_same hstatus
          (show cur.alarmStatus = (s.take index cur).alarmStatus from hsame)]
        refine ⟨?_, ?_, hnonneg⟩
        · show s.accepted = (s.drained ++ [cur.alarmStatus]).destutter (· ≠ ·)
          rw [destutter_concat, if_pos hlast]
          exact h.accepted_eq
        · show (s.drained ++ [cur.alarmStatus]).getLast? =
            if s.alarmStatus = -1 then none else some s.alarmStatus
          rw [List.getLast?_concat, ← hsame, if_neg (ne_of_nonneg hstatus)]
      · have hroom := hfits cur hget hsame
        have hlast : s.drained.getLast? ≠ some cur.alarmStatus := by
          rw [h.remembered]
          split_ifs
          · simp
          · exact fun heq => hsame (Option.some.inj heq).symm
        rw [report_of_change (show cur.alarmStatus ≠ (s.take index cur).alarmStatus from hsame),
          pushO_of_not_full (by simpa [take] using hroom)]
        refine ⟨?_, ?_, hnonneg⟩
        · show s.accepted ++ [cur.alarmStatus] =
            (s.drained ++ [cur.alarmStatus]).destutter (· ≠ ·)
          rw [destutter_concat, if_neg hlast, h.accepted_eq]
        · show (s.drained ++ [cur.alarmStatus]).getLast? =
            if cur.alarmStatus = -1 then none else some cur.alarmStatus
          rw [List.getLast?_concat, if_neg (ne_of_nonneg hstatus)]

/-- A change of the status that finds no room is swallowed. -/
theorem Reporting.not_exact (h : s.Reporting) {index : Nat}
    (hfull : ¬ s.ChangeFits (.drain index)) : ¬ (s.drain index).Exact := by
  unfold ChangeFits at hfull
  push Not at hfull
  obtain ⟨cur, hget, hchange, hfull⟩ := hfull
  have hdrain : s.drain index = { s.take index cur with alarmStatus := cur.alarmStatus } := by
    rw [JamAlarm.drain, hget]
    show (s.take index cur).report cur = _
    rw [report_of_change (show cur.alarmStatus ≠ (s.take index cur).alarmStatus from hchange)]
    exact pushO_of_full (by simpa [take] using hfull) cur
  rintro ⟨-, hlast⟩
  rw [hdrain] at hlast
  have hremembered : s.accepted.getLast? = some cur.alarmStatus := hlast (by simp [take])
  rw [h.accepted_eq, getLast?_destutter, h.remembered] at hremembered
  split_ifs at hremembered
  exact hchange (Option.some.inj hremembered).symm

/-- Every step of the domain that finds room keeps `Reporting`. -/
theorem Reporting.step (h : s.Reporting) {input : Input} (hdomain : input.NonNegative)
    (hfits : s.ChangeFits input) : (JamAlarm.step s input).1.Reporting := by
  cases input with
  | drain index => exact h.drain hfits
  | pushI frame index =>
      refine ⟨h.accepted_eq, h.remembered, fun lane hlane x hx => ?_⟩
      rcases DataUnit.mem_of_pushI hlane hx with rfl | ⟨old, hold, hxold⟩
      · exact hdomain
      · exact h.nonneg old hold x hxold
  | popO =>
      simp only [JamAlarm.step]
      split
      · exact h
      · exact ⟨h.accepted_eq, h.remembered, h.nonneg⟩

/-- A data unit starts without alarms. -/
theorem reporting_start (c : Nat) (fs : Int32) (i_num : Nat) (cache : Int) (intervalTask : Int32) :
    (start c fs i_num cache intervalTask).Reporting := by
  refine ⟨rfl, rfl, fun lane hlane x hx => ?_⟩
  rw [DataUnit.lane_of_setLanes_new hlane] at hx
  cases hx

/-- In every run, the accepted statuses are the changes of the drained ones, all along, if and only
if every change finds room in the output queue. -/
theorem always_exact_iff (c : Nat) (fs : Int32) (i_num : Nat) (cache : Int) (intervalTask : Int32)
    (inputs : List Input) (hdomain : ∀ input ∈ inputs, input.NonNegative) :
    Always step Exact (start c fs i_num cache intervalTask) inputs ↔
      Allowed step ChangeFits (start c fs i_num cache intervalTask) inputs := by
  have hallowed : Allowed step (fun _ (input : Input) => input.NonNegative)
      (start c fs i_num cache intervalTask) inputs :=
    allowed_of_forall _ _ fun _ input hmem => hdomain input hmem
  refine always_iff_allowed_of_domain Reporting (fun _ h => h.exact) ?_ ?_
    (reporting_start c fs i_num cache intervalTask) hallowed
  · intro s input h hinput hfits
    exact h.step hinput hfits
  · intro s input h _ hfull
    cases input with
    | drain index => exact h.not_exact hfull
    | pushI frame index => exact absurd trivial hfull
    | popO => exact absurd trivial hfull

/-- Eleven alarms of one device, each with another status than the one before. -/
def elevenChanges : List Input :=
  (List.range 11).flatMap fun n =>
    [.pushI { alarmStatus := if n % 2 = 0 then 1 else 0 } 0, .drain 0]

/-- Eleven changes are all reported exactly if there is room for all of them. -/
theorem always_exact_elevenChanges :
    Always step Exact (start 10 500 1 1 10) elevenChanges ↔
      Allowed step ChangeFits (start 10 500 1 1 10) elevenChanges :=
  always_exact_iff 10 500 1 1 10 elevenChanges (by decide +kernel)

/-- The output queue holds ten alarms, and the eleventh change is swallowed. -/
theorem not_exact_elevenChanges : ¬ Always step Exact (start 10 500 1 1 10) elevenChanges := by
  intro hexact
  have hlast := (always_iff _ _).mp hexact 22
  exact absurd hlast (by decide +kernel)

end JamAlarm

end RVDataFusionServer
