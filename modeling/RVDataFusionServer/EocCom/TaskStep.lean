import Mathlib.Data.List.Count
import Mathlib.Logic.Function.Iterate

/-!
# The tasks of the cloud

The task step of `intervalPro` (`EOCCom.cpp`): one task is taken from the list, a reboot is put back
while anything else is to be done, and every other kind is dropped. `reboots_iff` says for which
lists the steps reach the reboot.
-/

namespace RVDataFusionServer

/-- `EOCCLOUD_TASK`. -/
inductive EocCloudTask where
  | sysReboot
  | getPkRule
  | getIllegalPkRule
  | uploadLogInfo
  | autoUpgrade
  deriving DecidableEq, Repr

/-- `EOCCloudData`, with download messages of any type: the task step only asks whether there are
any. -/
structure EOCCloudData (δ : Type) where
  downloadsMsg : List δ
  task : List EocCloudTask
  deriving DecidableEq, Repr

namespace EOCCloudData

variable {δ : Type}

/-- The task step of `EOCCom::intervalPro`. There is no data left once the process has exited for
its reboot. -/
def taskStep (data : EOCCloudData δ) : Option (EOCCloudData δ) :=
  match data.task with
  | [] => some data
  | .sysReboot :: tasks =>
      if !tasks.isEmpty || !data.downloadsMsg.isEmpty || !data.downloadsMsg.isEmpty then
        some { data with task := tasks ++ [.sysReboot] }
      else none
  | _ :: tasks => some { data with task := tasks }

/-- Repeated executions of the task step, while nothing adds a task or a message. An exited process
stays so. -/
def executions (n : Nat) (data : Option (EOCCloudData δ)) : Option (EOCCloudData δ) :=
  (fun process => process.bind taskStep)^[n] data

/-- At most `n` executions of the task step reach the reboot. -/
def RebootsWithin (n : Nat) (data : EOCCloudData δ) : Prop :=
  ∃ k ≤ n, executions k (some data) = none

theorem executions_succ (n : Nat) (data : EOCCloudData δ) :
    executions (n + 1) (some data) = executions n data.taskStep :=
  Function.iterate_succ_apply _ n (some data)

/-- Executing `first + second` steps is executing `first` steps and then `second` more. -/
theorem executions_add (first second : Nat) (data : Option (EOCCloudData δ)) :
    executions (first + second) data = executions second (executions first data) := by
  rw [Nat.add_comm]
  exact Function.iterate_add_apply _ second first data

/-- The only list from which a step reaches the reboot holds the reboot and nothing else. -/
theorem taskStep_eq_none_iff {data : EOCCloudData δ} :
    data.taskStep = none ↔ data.task = [.sysReboot] ∧ data.downloadsMsg = [] := by
  unfold taskStep
  split
  · rename_i htask
    simp [htask]
  · rename_i tasks htask
    simp [htask]
  · rename_i task tasks hkind htask
    rw [htask]
    constructor
    · intro h
      cases h
    · rintro ⟨h, -⟩
      exact absurd (List.cons.inj h).1 (by simpa using hkind)

/-- A step that does not reach the reboot leaves the messages and the number of reboots. -/
theorem taskStep_some {data following : EOCCloudData δ} (h : data.taskStep = some following) :
    following.downloadsMsg = data.downloadsMsg ∧
      following.task.count .sysReboot = data.task.count .sysReboot := by
  unfold taskStep at h
  split at h
  · cases h
    exact ⟨rfl, rfl⟩
  · rename_i tasks htask
    split at h
    · cases h
      exact ⟨rfl, by simp [htask]⟩
    · cases h
  · rename_i task tasks hkind htask
    cases h
    refine ⟨rfl, ?_⟩
    rw [htask, List.count_cons_of_ne (by simpa using hkind)]

/-- Several requested reboots wait for each other: none of them is ever executed. -/
theorem executions_isSome (n : Nat) {data : EOCCloudData δ}
    (h : data.task.count .sysReboot ≠ 1) : (executions n (some data)).isSome := by
  induction n generalizing data with
  | zero => rfl
  | succ n ih =>
      rw [executions_succ]
      cases hstep : data.taskStep with
      | none =>
          obtain ⟨htask, -⟩ := taskStep_eq_none_iff.mp hstep
          rw [htask] at h
          exact absurd List.count_singleton_self h
      | some following =>
          obtain ⟨-, hcount⟩ := taskStep_some hstep
          rw [← hcount] at h
          exact ih h

/-- Tasks of the other kinds are dropped one by one. -/
theorem executions_dropped {front : List EocCloudTask} (hfront : EocCloudTask.sysReboot ∉ front)
    (downloads : List δ) (rest : List EocCloudTask) :
    executions front.length (some ⟨downloads, front ++ rest⟩) = some ⟨downloads, rest⟩ := by
  induction front with
  | nil => rfl
  | cons task front ih =>
      simp only [List.mem_cons, not_or] at hfront
      obtain ⟨hkind, htail⟩ := hfront
      have hstep : taskStep ⟨downloads, task :: (front ++ rest)⟩ =
          some ⟨downloads, front ++ rest⟩ := by
        cases task with
        | sysReboot => exact absurd rfl hkind
        | getPkRule | getIllegalPkRule | uploadLogInfo | autoUpgrade => rfl
      show executions (front.length + 1) (some ⟨downloads, task :: (front ++ rest)⟩) = _
      rw [executions_succ, hstep]
      exact ih htail

/-- A single reboot is executed once the tasks before and behind it are gone. -/
theorem reboots_of_single {front back : List EocCloudTask}
    (hfront : EocCloudTask.sysReboot ∉ front) (hback : EocCloudTask.sysReboot ∉ back) :
    RebootsWithin (2 * (front ++ .sysReboot :: back).length)
      (⟨[], front ++ .sysReboot :: back⟩ : EOCCloudData δ) := by
  cases back with
  | nil =>
      refine ⟨front.length + 1, by simp only [List.length_append, List.length_singleton]; omega, ?_⟩
      rw [executions_add, executions_dropped hfront]
      rfl
  | cons task back =>
      -- the reboot is put behind the rest of the list and waits until that is gone as well
      refine ⟨front.length + (1 + ((task :: back).length + 1)),
        by simp only [List.length_append, List.length_cons]; omega, ?_⟩
      have hrotate : executions 1 (some (⟨[], .sysReboot :: task :: back⟩ : EOCCloudData δ)) =
          some ⟨[], task :: back ++ [.sysReboot]⟩ := rfl
      rw [executions_add, executions_dropped hfront, executions_add, hrotate, executions_add,
        executions_dropped hback]
      rfl

/-- With no message pending, the steps reach the reboot in time if and only if exactly one is
requested. -/
theorem reboots_iff (tasks : List EocCloudTask) :
    RebootsWithin (2 * tasks.length) (⟨[], tasks⟩ : EOCCloudData δ) ↔
      tasks.count .sysReboot = 1 := by
  constructor
  · rintro ⟨k, -, hk⟩
    by_contra hcount
    have hsome : (executions k (some (⟨[], tasks⟩ : EOCCloudData δ))).isSome :=
      executions_isSome k hcount
    rw [hk] at hsome
    cases hsome
  · intro hcount
    have hmem : EocCloudTask.sysReboot ∈ tasks := List.count_pos_iff.mp (by omega)
    obtain ⟨front, back, rfl, hfront⟩ := List.eq_append_cons_of_mem hmem
    rw [List.count_append, List.count_cons_self, List.count_eq_zero.mpr hfront] at hcount
    exact reboots_of_single hfront (List.count_eq_zero.mp (by omega))

/-- Two accepted downloads of the configuration request two reboots, and neither is executed. -/
theorem not_reboots_two :
    ¬ RebootsWithin 4 (⟨[], [.sysReboot, .sysReboot]⟩ : EOCCloudData Unit) := by
  rintro ⟨k, -, hk⟩
  have hcount : [EocCloudTask.sysReboot, .sysReboot].count .sysReboot ≠ 1 := by decide
  have hsome : (executions k (some (⟨[], [.sysReboot, .sysReboot]⟩ : EOCCloudData Unit))).isSome :=
    executions_isSome k hcount
  rw [hk] at hsome
  cases hsome

end EOCCloudData

end RVDataFusionServer
