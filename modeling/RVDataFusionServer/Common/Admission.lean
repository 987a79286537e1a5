import Mathlib.Data.List.Perm.Basic
import RVDataFusionServer.Common.Proc

/-!
# What gets into the lanes

Whatever the connections send, and however their threads interleave, a lane holds frames of packages
that were admitted only, and each package at most once. `admission` says it for the frames of every
data unit at once: among those with any property there are at most as many as packages were received
with such a frame that pass all checks.
-/

namespace RVDataFusionServer

open Library Execution

section Counting

variable {α β : Type} {p : α → Bool}

/-- A changed element that counts only if the old one did adds nothing. -/
theorem countP_set_le {xs : List α} {k : Nat} {x y : α} (hx : xs[k]? = some x)
    (hp : p y = true → p x = true) : (xs.set k y).countP p ≤ xs.countP p := by
  obtain ⟨hk, hget⟩ := List.getElem?_eq_some_iff.mp hx
  have hone : (if p x then 1 else 0) ≤ xs.countP p := by
    split_ifs with hpx
    · exact List.countP_pos_iff.mpr ⟨x, List.mem_of_getElem? hx, hpx⟩
    · exact Nat.zero_le _
  have hset := List.countP_set (a := y) (p := p) hk
  rw [hget] at hset
  rw [hset]
  by_cases hpy : p y = true
  · rw [if_pos hpy, if_pos (hp hpy)]
    rw [if_pos (hp hpy)] at hone
    omega
  · rw [if_neg hpy]
    omega

/-- An erased element does not count any more. -/
theorem countP_eraseIdx_add {xs : List α} {k : Nat} {x : α} (hx : xs[k]? = some x) :
    (xs.eraseIdx k).countP p + (if p x then 1 else 0) = xs.countP p := by
  obtain ⟨hk, hget⟩ := List.getElem?_eq_some_iff.mp hx
  have hperm := (List.getElem_cons_eraseIdx_perm hk).countP_eq p
  rw [hget, List.countP_cons] at hperm
  exact hperm

/-- The elements of lists of which one is changed. -/
theorem countP_flatMap_set_le {f : β → List α} {xs : List β} {k n : Nat} {x y : β}
    (hx : xs[k]? = some x) (hle : (f y).countP p ≤ (f x).countP p + n) :
    ((xs.set k y).flatMap f).countP p ≤ (xs.flatMap f).countP p + n := by
  induction xs generalizing k with
  | nil => simp at hx
  | cons head rest ih =>
      cases k with
      | zero =>
          rw [List.getElem?_cons_zero, Option.some.injEq] at hx
          rw [List.set_cons_zero, List.flatMap_cons, List.flatMap_cons, List.countP_append,
            List.countP_append, hx]
          omega
      | succ k =>
          have hrest := ih (List.getElem?_cons_succ ▸ hx)
          rw [List.set_cons_succ, List.flatMap_cons, List.flatMap_cons, List.countP_append,
            List.countP_append]
          omega

end Counting

variable {I O : Type}

namespace DataUnit

/-- The frames in the lanes of a data unit. -/
def frames (unit : DataUnit I O) : List I :=
  unit.iQueueVector.flatMap Vector.q

variable {p : I → Bool}

/-- A push adds at most its frame. -/
theorem countP_pushI_le (unit : DataUnit I O) (frame : I) (index : Nat) :
    (unit.pushI frame index).1.frames.countP p ≤
      unit.frames.countP p + if p frame then 1 else 0 := by
  unfold pushI
  cases hlane : unit.iQueueVector[index]? with
  | none => exact Nat.le_add_right _ _
  | some lane =>
      refine countP_flatMap_set_le hlane ?_
      have hpush := (lane.push_sublist frame).countP_le (p := p)
      rw [List.countP_append, List.countP_singleton] at hpush
      exact hpush

/-- Taking a frame adds none. -/
theorem countP_eraseBeginI_le (unit : DataUnit I O) (index : Nat) :
    (unit.eraseBeginI index).frames.countP p ≤ unit.frames.countP p := by
  unfold eraseBeginI
  cases hlane : unit.iQueueVector[index]? with
  | none => exact Nat.le_refl _
  | some lane =>
      have htail : lane.eraseBegin.q.countP p ≤ lane.q.countP p + 0 :=
        (List.tail_sublist lane.q).countP_le
      exact countP_flatMap_set_le hlane htail

/-- An initialisation adds no frames. -/
theorem countP_setLanes_le [Inhabited I] (unit : DataUnit I O) (c iNum : Nat) :
    (unit.setLanes c iNum).frames.countP p ≤ unit.frames.countP p := by
  have hnew : (List.replicate (iNum - unit.iQueueVector.length) ({} : Vector I)).flatMap
      Vector.q = [] := by
    refine List.flatMap_eq_nil_iff.mpr fun lane hlane => ?_
    rw [List.eq_of_mem_replicate hlane]
  have hsame : (unit.setLanes c iNum).frames = (unit.iQueueVector.take iNum).flatMap Vector.q := by
    rw [frames, setLanes, List.flatMap_map, resize]
    simp only [Vector.q_setMax]
    rw [List.flatMap_append, hnew, List.append_nil]
  have hold := congrArg (fun lanes => (lanes.flatMap Vector.q).countP p)
    (List.take_append_drop iNum unit.iQueueVector)
  simp only [List.flatMap_append, List.countP_append] at hold
  rw [hsame, frames, ← hold]
  exact Nat.le_add_right _ _

end DataUnit

namespace Reception

/-- A changed data unit, among all of them. -/
theorem countP_update_le {p : I → Bool} {units : UInt8 → DataUnit I O} {changed : DataUnit I O}
    {other : UInt8} {n : Nat} (h : changed.frames.countP p ≤ (units other).frames.countP p + n)
    (cmd : UInt8) :
    ((Function.update units other changed) cmd).frames.countP p ≤
      (units cmd).frames.countP p + if other = cmd then n else 0 := by
  by_cases heq : other = cmd
  · rw [if_pos heq, ← heq, Function.update_self]
    exact h
  · rw [if_neg heq, Function.update_of_ne (Ne.symm heq)]
    exact Nat.le_refl _

variable [HardCoded I]

/-- A frame with a property that is still on its way to a lane. -/
def Coming (config : ProcConfig) (cmd : UInt8) (p : I → Bool) (w : Work I) : Bool :=
  w.cmd = cmd && p w.frame &&
    match w.stage with
    | .judgeHardCode => config.judgeHardCode (hardCode w.frame)
    | .deleteFromConns => false
    | _ => true

/-- The frames of a command with a property, in the lanes and on their way there. -/
def held (config : ProcConfig) (cmd : UInt8) (p : I → Bool) (s : Reception I O) : Nat :=
  (s.unit cmd).frames.countP p + s.work.countP (Coming config cmd p)

variable {config : ProcConfig} {cmd : UInt8} {p : I → Bool} {s : Reception I O}

/-- A frame stays the frame that it is. -/
theorem matches_of_coming {w : Work I} (h : Coming config cmd p w = true) :
    w.cmd = cmd ∧ p w.frame = true := by
  unfold Coming at h
  rw [Bool.and_eq_true, Bool.and_eq_true, decide_eq_true_eq] at h
  exact h.1

/-- Behind `judgeHardCode` a frame counts at every stage, if its peer is not thrown out. -/
theorem coming_of_judged {w : Work I} (hcmd : w.cmd = cmd) (hp : p w.frame = true)
    (hjudged : w.stage ≠ .judgeHardCode) (hkept : w.stage ≠ .deleteFromConns) :
    Coming config cmd p w = true := by
  unfold Coming
  rw [decide_eq_true hcmd, hp]
  cases hstage : w.stage with
  | judgeHardCode => exact absurd hstage hjudged
  | deleteFromConns => exact absurd hstage hkept
  | lane => rfl
  | assign i => rfl
  | update index => rfl
  | startTask index => rfl
  | pushI index => rfl

/-- A thread that goes on counts no more than before. -/
theorem countP_goto_le {k : Nat} {w : Work I} {stage : Stage} (hw : s.work[k]? = some w)
    (hstage : Coming config cmd p { w with stage } = true → Coming config cmd p w = true) :
    (s.goto k w stage).work.countP (Coming config cmd p) ≤
      s.work.countP (Coming config cmd p) :=
  countP_set_le hw hstage

/-- A thread whose handler returns does not count any more. -/
theorem countP_finish_add {k : Nat} {w : Work I} (hw : s.work[k]? = some w) :
    (s.finish k w).work.countP (Coming config cmd p) +
        (if Coming config cmd p w then 1 else 0) =
      s.work.countP (Coming config cmd p) :=
  countP_eraseIdx_add hw

/-- The lanes are empty at the start. -/
theorem held_start [Inhabited I] : held config cmd p (start config : Reception I O) = 0 := by
  have hunit : ((start config : Reception I O).unit cmd).frames = [] := by
    have hempty : ∀ c iNum, ((({} : DataUnit I O).setLanes c iNum).iQueueVector).flatMap
        Vector.q = [] := fun c iNum => List.flatMap_eq_nil_iff.mpr fun _ =>
      DataUnit.lane_of_setLanes_new
    unfold start instanceUnit
    dsimp only
    split <;> exact hempty _ _
  rw [held, hunit]
  rfl

/-- A thread that goes on behind `judgeHardCode` counts no more than before. -/
theorem countP_goto_le_of_judged {k : Nat} {w : Work I} (hw : s.work[k]? = some w)
    (hjudged : w.stage ≠ .judgeHardCode) (hkept : w.stage ≠ .deleteFromConns) (stage : Stage) :
    (s.goto k w stage).work.countP (Coming config cmd p) ≤
      s.work.countP (Coming config cmd p) :=
  countP_goto_le hw fun hcoming =>
    coming_of_judged (matches_of_coming hcoming).1 (matches_of_coming hcoming).2 hjudged hkept

/-- A handler that returns counts no more than before. -/
theorem countP_finish_le (s : Reception I O) (k : Nat) (w : Work I) :
    (s.finish k w).work.countP (Coming config cmd p) ≤ s.work.countP (Coming config cmd p) :=
  (List.eraseIdx_sublist _ _).countP_le

/-- A data unit that gains no frames adds none. -/
theorem held_update_le {other : UInt8} {changed : DataUnit I O}
    (h : changed.frames.countP p ≤ (s.unit other).frames.countP p) :
    held config cmd p { s with unit := Function.update s.unit other changed } ≤
      held config cmd p s := by
  have hunit := countP_update_le (Nat.le_add_right_of_le h (k := 0)) cmd
  rw [ite_self, Nat.add_zero] at hunit
  exact Nat.add_le_add_right hunit _

/-- A thread that pushes its frame and returns adds none: what the lane gains the thread loses. -/
theorem held_pushI_le {k : Nat} {w : Work I} (hw : s.work[k]? = some w) {index : Int}
    (hstage : w.stage = .pushI index) :
    held config cmd p { s.finish k w with
        unit := Function.update s.unit w.cmd ((s.unit w.cmd).pushI w.frame index.toNat).1 } ≤
      held config cmd p s := by
  have hcoming : Coming config cmd p w = (decide (w.cmd = cmd) && p w.frame) := by
    unfold Coming
    rw [hstage, Bool.and_true]
  have hpush := countP_update_le
    ((s.unit w.cmd).countP_pushI_le (p := p) w.frame index.toNat) cmd
  have hreturn : (s.finish k w).work.countP (Coming config cmd p) +
      (if Coming config cmd p w then 1 else 0) = s.work.countP (Coming config cmd p) :=
    countP_finish_add hw
  rw [hcoming] at hreturn
  unfold held
  dsimp only
  by_cases hcmd : w.cmd = cmd
  · rw [if_pos hcmd] at hpush
    rw [decide_eq_true hcmd, Bool.true_and] at hreturn
    omega
  · rw [if_neg hcmd] at hpush
    rw [decide_eq_false hcmd, Bool.false_and] at hreturn
    omega

/-- A handler that has found a lane adds no frames. -/
theorem held_found_le {k : Nat} {w : Work I} (hw : s.work[k]? = some w)
    (hjudged : w.stage ≠ .judgeHardCode) (hkept : w.stage ≠ .deleteFromConns)
    (process : PkgProcessFun I O) (index : Int) :
    held config cmd p (s.found k w process index).1 ≤ held config cmd p s := by
  unfold found
  split_ifs
  · exact Nat.add_le_add_left (countP_finish_le s k w) _
  · exact Nat.add_le_add_left (countP_goto_le_of_judged hw hjudged hkept _) _
  · exact Nat.add_le_add_left (countP_goto_le_of_judged hw hjudged hkept _) _

/-- A thread that goes on adds no frames. -/
theorem held_run_le [Timestamped I] {k : Nat} {w : Work I} (hw : s.work[k]? = some w)
    {process : PkgProcessFun I O} :
    held config cmd p (s.run config k w process).1 ≤ held config cmd p s := by
  have hfinish : (s.finish k w).work.countP (Coming config cmd p) ≤
      s.work.countP (Coming config cmd p) := countP_finish_le s k w
  have hgoto (hjudged : w.stage ≠ .judgeHardCode) (hkept : w.stage ≠ .deleteFromConns)
      (stage : Stage) : (s.goto k w stage).work.countP (Coming config cmd p) ≤
        s.work.countP (Coming config cmd p) := countP_goto_le_of_judged hw hjudged hkept stage
  unfold Reception.run
  cases hstage : w.stage with
  | judgeHardCode =>
      dsimp only
      split_ifs with hjudge
      · cases process.lane with
        | none => exact Nat.add_le_add_left hfinish _
        | some lane =>
            refine Nat.add_le_add_left (countP_goto_le hw fun hcoming => ?_) _
            obtain ⟨hcmd, hp⟩ := matches_of_coming hcoming
            simpa [Coming, hstage, hjudge] using ⟨hcmd, hp⟩
      · refine Nat.add_le_add_left (countP_goto_le hw fun hcoming => ?_) _
        simp [Coming] at hcoming
  | deleteFromConns =>
      dsimp only
      cases s.registry.deref w.pointer with
      | none => exact Nat.add_le_add_left hfinish _
      | some handler => exact Nat.add_le_add_left hfinish _
  | lane =>
      have hgoto := hgoto (by simp [hstage]) (by simp [hstage])
      dsimp only
      cases process.lane with
      | none => exact Nat.add_le_add_left hfinish _
      | some lane =>
          dsimp only
          cases lane (s.unit w.cmd) w.frame with
          | known index =>
              exact held_found_le hw (by simp [hstage]) (by simp [hstage]) process index
          | free i => exact Nat.add_le_add_left (hgoto _) _
  | assign i =>
      have hequal : ((s.unit w.cmd).assignUnOrder (hardCode w.frame) i).frames.countP p ≤
          (s.unit w.cmd).frames.countP p := Nat.le_refl _
      dsimp only
      generalize hnext : ({ s with
          unit := Function.update s.unit w.cmd
            ((s.unit w.cmd).assignUnOrder (hardCode w.frame) i) } : Reception I O) = next
      have hwork : next.work[k]? = some w := by
        rw [← hnext]
        exact hw
      calc held config cmd p (next.found k w process i).1
          ≤ held config cmd p next :=
            held_found_le hwork (by simp [hstage]) (by simp [hstage]) process i
        _ ≤ held config cmd p s := by
            rw [← hnext]
            exact held_update_le hequal
  | update index =>
      have hgoto := hgoto (by simp [hstage]) (by simp [hstage])
      dsimp only
      cases process.caches with
      | none => exact Nat.add_le_add_left (hgoto _) _
      | some caches => exact Nat.add_le_add_left (hgoto _) _
  | startTask index =>
      have hgoto := hgoto (by simp [hstage]) (by simp [hstage])
      dsimp only
      split_ifs
      · exact Nat.add_le_add_left (hgoto _) _
      · exact Nat.add_le_add_left (hgoto _) _
  | pushI index =>
      exact held_pushI_le hw hstage

variable [Timestamped I] [Directed I]

/-- A package is received whose frame passes the checks of its handler, and has a property. -/
def Admissible (O : Type) (config : ProcConfig) (cmd : UInt8) (p : I → Bool) : Input I → Bool
  | .receive _ received frame now =>
      received = cmd && p frame && hardCode frame ≠ "" && config.judgeHardCode (hardCode frame) &&
        (pkgProcessMap received : Option (PkgProcessFun I O)).any fun process =>
          process.judgeMode config &&
            (!process.judgesTimestamp || config.judgeTimestamp now (timestamp frame))
  | .accept _ _ => false
  | .release _ => false
  | .run _ => false
  | .init _ _ => false
  | .eraseBegin _ _ => false

/-- A package that is received adds at most its frame, and that only if it is admissible. -/
theorem held_receive_le (pointer : Nat) (received : UInt8) (frame : I) (now : Nat) :
    held config cmd p (s.receive config pointer received frame now) ≤ held config cmd p s +
      if Admissible O config cmd p (.receive pointer received frame now) then 1 else 0 := by
  unfold receive
  cases hprocess : (pkgProcessMap received : Option (PkgProcessFun I O)) with
  | none => exact Nat.le_add_right _ _
  | some process =>
      by_cases hmode : (!process.judgeMode config) = true
      · simp only [if_pos hmode]
        exact Nat.le_add_right _ _
      by_cases htime : (process.judgesTimestamp &&
          !config.judgeTimestamp now (timestamp frame)) = true
      · simp only [if_neg hmode, if_pos htime]
        exact Nat.le_add_right _ _
      by_cases hcode : hardCode frame = ""
      · simp only [if_neg hmode, if_neg htime, if_pos hcode]
        exact Nat.le_add_right _ _
      simp only [if_neg hmode, if_neg htime, if_neg hcode]
      have hnew : Coming config cmd p
            { pointer := pointer, cmd := received, frame := frame, stage := .judgeHardCode } =
          Admissible O config cmd p (.receive pointer received frame now) := by
        simp only [Bool.not_eq_true', Bool.not_eq_false, Bool.and_eq_true, not_and] at hmode htime
        have hjudged : (!process.judgesTimestamp ||
            config.judgeTimestamp now (timestamp frame)) = true := by
          cases hjudges : process.judgesTimestamp with
          | false => rfl
          | true => simpa using htime hjudges
        simp [Coming, Admissible, hprocess, hmode, hjudged, hcode]
      simp only [held, List.countP_append, List.countP_singleton, hnew]
      omega

/-- A step adds at most the frame of an admissible package. -/
theorem held_step_le [Inhabited I] (s : Reception I O) (input : Input I) :
    held config cmd p (step config s input).1 ≤ held config cmd p s +
      if Admissible O config cmd p input then 1 else 0 := by
  cases input with
  | accept pointer peerAddress => exact Nat.le_add_right _ _
  | release pointer =>
      refine le_trans ?_ (Nat.le_add_right _ _)
      unfold step
      dsimp only
      split_ifs
      · exact Nat.le_refl _
      · exact Nat.le_refl _
  | receive pointer received frame now =>
      unfold step
      by_cases hfree : ((s.registry.deref pointer).isSome && decide (s.Idle pointer)) = true
      · simp only [if_pos hfree]
        exact held_receive_le pointer received frame now
      · simp only [if_neg hfree]
        exact Nat.le_add_right _ _
  | run k =>
      refine le_trans ?_ (Nat.le_add_right _ _)
      unfold step
      dsimp only
      cases hw : s.work[k]? with
      | none => exact Nat.le_refl _
      | some w =>
          dsimp only
          cases hprocess : (pkgProcessMap w.cmd : Option (PkgProcessFun I O)) with
          | none => exact Nat.le_refl _
          | some process => exact held_run_le hw
  | init k stale =>
      refine le_trans ?_ (Nat.le_add_right _ _)
      unfold step
      dsimp only
      cases s.starting[k]? with
      | none => exact Nat.le_refl _
      | some thread =>
          dsimp only
          cases (pkgProcessMap thread.cmd : Option (PkgProcessFun I O)).bind
            PkgProcessFun.caches with
          | none => exact Nat.le_refl _
          | some caches =>
              show held config cmd p (s.callInit config k thread caches stale).1 ≤ _
              unfold callInit
              cases s.captured thread stale with
              | none => exact Nat.le_refl _
              | some captured =>
                  -- whatever data unit it is that the thread initialises
                  exact held_update_le (s := s)
                    ((s.unit captured.1).countP_setLanes_le caches config.roadNum)
  | eraseBegin other index =>
      refine le_trans ?_ (Nat.le_add_right _ _)
      exact held_update_le ((s.unit other).countP_eraseBeginI_le index)

/-- In every run of the server, for any peers, packages and order of the threads, the lanes of a
data unit hold at most as many frames with any property as packages with such frames were received
that pass the checks: every frame in a lane was admitted, and none is stored twice. -/
theorem admission [Inhabited I] (config : ProcConfig) (inputs : List (Input I)) (cmd : UInt8)
    (p : I → Bool) :
    ((final (step config) (start config : Reception I O) inputs).unit cmd).frames.countP p ≤
      inputs.countP (Admissible O config cmd p) := by
  have hrun : held config cmd p (final (step config) (start config : Reception I O) inputs) ≤
      held config cmd p (start config : Reception I O) +
        inputs.countP (Admissible O config cmd p) := measure_final_le held_step_le _ inputs
  rw [held_start, Nat.zero_add] at hrun
  exact le_trans (Nat.le_add_right _ _) hrun

end Reception

end RVDataFusionServer
