import RVDataFusionServer.Data.DataUnit
import RVDataFusionServer.Library.Execution

/-!
# One device for each lane

The handlers of `proc.cpp` assign an incoming frame to a lane by its code and push it there in a
second step. `LanePure` says that the frames in a lane come from the device that has the lane. It
can be lost when `init` clears the table of lanes; `always_lanePure_iff` says exactly when.
-/

namespace RVDataFusionServer

open Library Execution

variable {I O : Type} [HardCoded I]

/-- The frames in a lane all have the code that `unOrder` holds for the lane. -/
def DataUnit.LanePure (unit : DataUnit I O) : Prop :=
  ∀ (index : Nat) (lane : Vector I), unit.iQueueVector[index]? = some lane →
    ∀ frame ∈ lane.q, unit.unOrder[index]? = some (hardCode frame)

/-- A data unit and the frames that are assigned to a lane, but not yet pushed to it. -/
structure Intake (I O : Type) where
  unit : DataUnit I O := {}
  pending : List (I × Nat) := []

namespace Intake

/-- What happens at the input of a data unit: a handler assigns a frame, a handler pushes the
frame it has assigned, the data unit is initialised, or a task takes a frame from a lane. -/
inductive Input (I : Type) where
  | assign (frame : I)
  | push (k : Nat)
  | init (c : Nat) (fs : Int32) (i_num : Nat) (cache : Int) (intervalTask : Int32)
  | eraseBegin (index : Nat)

/-- The first half of a handler such as `PkgProcessFun_CmdTrafficFlowGather`: a frame without a
code and a frame for which there is no lane are dropped. -/
def assign (s : Intake I O) (frame : I) : Intake I O :=
  if hardCode frame = "" then s
  else
    let found := s.unit.findIndexInUnOrder (hardCode frame)
    if found.2 = -1 ∨ (found.1.numI : Int) ≤ found.2 then { s with unit := found.1 }
    else { unit := found.1, pending := s.pending ++ [(frame, found.2.toNat)] }

/-- The second half of a handler. -/
def push (s : Intake I O) (k : Nat) : Intake I O :=
  match s.pending[k]? with
  | none => s
  | some (frame, index) =>
      { unit := (s.unit.pushI frame index).1, pending := s.pending.eraseIdx k }

/-- One step at the input of a data unit. -/
def step [Inhabited I] (s : Intake I O) : Input I → Intake I O × Unit
  | .assign frame => (s.assign frame, ())
  | .push k => (s.push k, ())
  | .init c fs i_num cache intervalTask =>
      ({ s with unit := s.unit.init c fs i_num cache intervalTask }, ())
  | .eraseBegin index => ({ s with unit := s.unit.eraseBeginI index }, ())

/-- A data unit after `setCapNumI`. -/
def start [Inhabited I] (c i_num : Nat) : Intake I O where
  unit := DataUnit.setCapNumI {} c i_num

/-- The condition under which a step keeps the lanes pure. An initialisation finds the lanes that
it keeps empty, and a push to a lane finds there the code that its frame was assigned by. -/
def Keeps (s : Intake I O) : Input I → Prop
  | .init _ _ i_num _ _ =>
      ∀ (index : Nat) (lane : Vector I), index < i_num →
        s.unit.iQueueVector[index]? = some lane → lane.q = []
  | .push k =>
      ∀ (frame : I) (index : Nat) (lane : Vector I), s.pending[k]? = some (frame, index) →
        s.unit.iQueueVector[index]? = some lane → frame ∈ (lane.push frame).q →
        s.unit.unOrder[index]? = some (hardCode frame)
  | .assign _ => True
  | .eraseBegin _ => True

/-- The lanes are pure, and no frame in them or on its way to them is without a code. -/
structure Valid (s : Intake I O) : Prop where
  pure : s.unit.LanePure
  coded : ∀ (index : Nat) (lane : Vector I), s.unit.iQueueVector[index]? = some lane →
    ∀ frame ∈ lane.q, hardCode frame ≠ ""
  pending : ∀ frame index, (frame, index) ∈ s.pending → hardCode frame ≠ ""

variable {s : Intake I O}

/-- An assignment keeps the lanes pure. -/
theorem Valid.assign (h : s.Valid) (frame : I) : (s.assign frame).Valid := by
  unfold Intake.assign
  by_cases hcode : hardCode frame = ""
  · simpa only [hcode, if_true] using h
  obtain ⟨hlanes, hkept⟩ := s.unit.findIndexInUnOrder_spec (hardCode frame)
  set found := s.unit.findIndexInUnOrder (hardCode frame)
  have hpure : found.1.LanePure := fun index lane hlane x hx => by
    rw [hlanes] at hlane
    exact hkept _ _ (h.coded index lane hlane x hx) (h.pure index lane hlane x hx)
  have hcoded : ∀ (index : Nat) (lane : Vector I), found.1.iQueueVector[index]? = some lane →
      ∀ x ∈ lane.q, hardCode x ≠ "" := by
    simpa only [hlanes] using h.coded
  rw [if_neg hcode]
  dsimp only
  split_ifs
  · exact ⟨hpure, hcoded, h.pending⟩
  · refine ⟨hpure, hcoded, fun x index hmem => ?_⟩
    rcases List.mem_append.mp hmem with hold | hnew
    · exact h.pending x index hold
    · obtain ⟨rfl, -⟩ := Prod.mk.inj (List.mem_singleton.mp hnew)
      exact hcode

/-- A push keeps the lanes pure if its lane still has the code of its frame. -/
theorem Valid.push (h : s.Valid) {k : Nat} (hkeeps : s.Keeps (.push k)) : (s.push k).Valid := by
  unfold Intake.push
  cases hpending : s.pending[k]? with
  | none => exact h
  | some entry =>
      obtain ⟨frame, index⟩ := entry
      have hcode := h.pending frame index (List.mem_of_getElem? hpending)
      have hrest : ∀ x i, (x, i) ∈ s.pending.eraseIdx k → hardCode x ≠ "" := fun x i hmem =>
        h.pending x i (List.mem_of_mem_eraseIdx hmem)
      cases hlane : s.unit.iQueueVector[index]? with
      | none =>
          simp only [DataUnit.pushI, hlane]
          exact ⟨h.pure, h.coded, hrest⟩
      | some lane =>
          simp only [DataUnit.pushI, hlane]
          refine ⟨fun i l hl x hx => ?_, fun i l hl x hx => ?_, hrest⟩
          · rcases getElem?_set_cases hl with ⟨rfl, rfl⟩ | hother
            · rcases Vector.mem_push hx with hold | rfl
              · exact h.pure index lane hlane x hold
              · exact hkeeps x index lane hpending hlane hx
            · exact h.pure i l hother x hx
          · rcases getElem?_set_cases hl with ⟨rfl, rfl⟩ | hother
            · rcases Vector.mem_push hx with hold | rfl
              · exact h.coded index lane hlane x hold
              · exact hcode
            · exact h.coded i l hother x hx

/-- Taking a frame from a lane keeps the lanes pure. -/
theorem Valid.eraseBegin (h : s.Valid) (index : Nat) :
    Valid { s with unit := s.unit.eraseBeginI index } := by
  unfold DataUnit.eraseBeginI
  cases hlane : s.unit.iQueueVector[index]? with
  | none => exact h
  | some lane =>
      refine ⟨fun i l hl x hx => ?_, fun i l hl x hx => ?_, h.pending⟩
      · rcases getElem?_set_cases hl with ⟨rfl, rfl⟩ | hother
        · exact h.pure index lane hlane x (List.mem_of_mem_tail hx)
        · exact h.pure i l hother x hx
      · rcases getElem?_set_cases hl with ⟨rfl, rfl⟩ | hother
        · exact h.coded index lane hlane x (List.mem_of_mem_tail hx)
        · exact h.coded i l hother x hx

/-- An initialisation that finds the lanes empty keeps them pure. -/
theorem Valid.init [Inhabited I] (h : s.Valid) {c i_num : Nat} {fs : Int32}
    {cache : Int} {intervalTask : Int32} (hkeeps : s.Keeps (.init c fs i_num cache intervalTask)) :
    Valid { s with unit := s.unit.init c fs i_num cache intervalTask } := by
  have hempty : ∀ (index : Nat) (lane : Vector I),
      (s.unit.setLanes c i_num).iQueueVector[index]? = some lane → lane.q = [] := by
    intro index lane hlane
    obtain ⟨hlt, hnil | ⟨old, hold, hq⟩⟩ := DataUnit.lane_of_setLanes _ hlane
    · exact hnil
    · rw [← hq]
      exact hkeeps index old hlt hold
  refine ⟨fun index lane hlane x hx => ?_, fun index lane hlane x hx => ?_, h.pending⟩
  · rw [hempty index lane hlane] at hx
    simp at hx
  · rw [hempty index lane hlane] at hx
    simp at hx

/-- Every step that keeps the lanes pure keeps the invariant. -/
theorem Valid.step [Inhabited I] (h : s.Valid) {input : Input I} (hkeeps : s.Keeps input) :
    (Intake.step s input).1.Valid := by
  cases input with
  | assign frame => exact h.assign frame
  | push k => exact h.push hkeeps
  | init c fs i_num cache intervalTask => exact h.init hkeeps
  | eraseBegin index => exact h.eraseBegin index

/-- A step without the condition leaves a lane that is not pure. -/
theorem Valid.not_lanePure [Inhabited I] (h : s.Valid) {input : Input I}
    (hbad : ¬ s.Keeps input) : ¬ (Intake.step s input).1.unit.LanePure := by
  intro hpure
  cases input with
  | assign frame => exact hbad trivial
  | eraseBegin index => exact hbad trivial
  | push k =>
      refine hbad fun frame index lane hpending hlane hkept => ?_
      have hlt := (List.getElem?_eq_some_iff.mp hlane).1
      simp only [Intake.step, Intake.push, hpending, DataUnit.pushI, hlane] at hpure
      exact hpure index _ (List.getElem?_set_self hlt) frame hkept
  | init c fs i_num cache intervalTask =>
      refine hbad fun index lane hlt hlane => ?_
      by_contra hne
      obtain ⟨frame, hframe⟩ := List.exists_mem_of_ne_nil _ hne
      -- the frame stays in its lane, and the lane has no code any more
      have hafter : ((s.unit.init c fs i_num cache intervalTask).iQueueVector)[index]? =
          some (lane.setMax c) := by
        simp [DataUnit.init, DataUnit.setLanes, getElem?_resize hlt, hlane]
      have hcode := hpure index _ hafter frame hframe
      simp only [Intake.step, DataUnit.init, DataUnit.setLanes] at hcode
      rw [List.getElem?_replicate_of_lt hlt] at hcode
      exact h.coded index lane hlane frame hframe (Option.some.inj hcode).symm

/-- A data unit starts without frames. -/
theorem valid_start [Inhabited I] (c i_num : Nat) : (start (I := I) (O := O) c i_num).Valid := by
  have hempty : ∀ (index : Nat) (lane : Vector I),
      (start (I := I) (O := O) c i_num).unit.iQueueVector[index]? = some lane → lane.q = [] := by
    intro index lane hlane
    exact DataUnit.lane_of_setLanes_new (List.mem_of_getElem? hlane)
  refine ⟨fun index lane hlane x hx => ?_, fun index lane hlane x hx => ?_, by simp [start]⟩
  · rw [hempty index lane hlane] at hx
    simp at hx
  · rw [hempty index lane hlane] at hx
    simp at hx

/-- The lanes are pure in every state of a run if and only if every initialisation finds the lanes
empty and every push finds the code of its frame at its lane. -/
theorem always_lanePure_iff [Inhabited I] (c i_num : Nat) (inputs : List (Input I)) :
    Always step (fun s : Intake I O => s.unit.LanePure) (start c i_num) inputs ↔
      Allowed step Keeps (start (O := O) c i_num) inputs :=
  always_iff_allowed Valid (fun _ hvalid => hvalid.pure)
    (fun _ _ hvalid hkeeps => hvalid.step hkeeps)
    (fun _ _ hvalid hbad => hvalid.not_lanePure hbad) (valid_start c i_num) inputs

/-- A frame from one device is assigned and pushed, and then the data unit is initialised. -/
theorem init_with_queued_frame :
    ¬ Always step (fun s : Intake TrafficFlow Unit => s.unit.LanePure) (start 3 2)
      [.assign ⟨"A", 0⟩, .push 0, .init 3 100 2 3 10] := by
  intro hpure
  have hlast := (always_iff _ _).mp hpure 3
  have hcode := hlast 0 ⟨[⟨"A", 0⟩], 3, true⟩ (by decide +kernel) ⟨"A", 0⟩ (by simp)
  exact absurd hcode (by decide +kernel)

end Intake

end RVDataFusionServer
