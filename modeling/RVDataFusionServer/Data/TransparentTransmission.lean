import Mathlib.Data.List.Nodup
import RVDataFusionServer.Data.DataUnit
import RVDataFusionServer.Library.Execution

/-!
# Passing items through

`TransparentTransmission` (`DataUnit.h`) moves the items of each lane to the output queue. Reading
the first item, erasing it and handing it on are steps of their own, each under the lock of its
queue, so that producers and the consumer get in between. A `Transmission` runs them in any order.
`popped_sublist` says that the items of a lane come out in the order in which they went in.

Items are numbered in the order in which they are pushed, so that two items with the same contents
are told apart.
-/

namespace RVDataFusionServer

open Library Execution

/-- An item with the lane and the number of its push. The item that a declaration without
initialiser makes has no lane. -/
structure Sourced (I : Type) where
  lane : Option Nat := none
  number : Nat := 0
  frame : I
  deriving DecidableEq, Repr

instance {I : Type} [Inhabited I] : Inhabited (Sourced I) := ⟨{ frame := default }⟩

/-- The next step of the task: in between `runTask` calls, the test of the loop over a lane, and
`getIndex`, `eraseBegin` and `pushO` in its body. -/
inductive Control (I : Type) where
  | idle
  | test (lane : Nat)
  | getIndex (lane : Nat)
  | eraseBegin (lane : Nat) (cur : I)
  | pushO (lane : Nat) (cur : I)
  deriving DecidableEq, Repr

/-- The item that the task has in its hand. -/
def Control.inHand {I : Type} : Control I → List I
  | .eraseBegin _ cur => [cur]
  | .pushO _ cur => [cur]
  | _ => []

/-- A pass-through unit with its task, and what has happened so far: the items that were pushed to
a lane, that a push on a full lane has dropped, that were handed to `pushO` and that were popped.
`disturbed` tells whether there was a push on the full lane since `getIndex`. -/
structure Transmission (I : Type) where
  unit : DataUnit (Sourced I) (Sourced I) := {}
  control : Control (Sourced I) := .idle
  disturbed : Bool := false
  pushed : List (Sourced I) := []
  evicted : List (Sourced I) := []
  handed : List (Sourced I) := []
  popped : List (Sourced I) := []

/-- The items of a lane. A lane that does not exist has none. -/
def DataUnit.itemsOf {I O : Type} (unit : DataUnit I O) (lane : Nat) : List I :=
  (unit.iQueueVector[lane]?.map Vector.q).getD []

namespace Transmission

/-- What happens to a unit: a producer pushes, the task takes its next step, or the consumer
pops. -/
inductive Input (I : Type) where
  | pushI (frame : I) (lane : Nat)
  | task
  | popO

variable {I : Type}

/-- `pushI`, which numbers the item. -/
def pushI (s : Transmission I) (frame : I) (lane : Nat) : Transmission I :=
  let item : Sourced I := { lane := some lane, number := s.pushed.length, frame }
  match s.unit.iQueueVector[lane]? with
  | none => s
  | some queue =>
      { s with
        unit := (s.unit.pushI item lane).1
        pushed := s.pushed ++ [item]
        evicted := s.evicted ++ if queue.Full then (queue.q ++ [item]).take 1 else []
        disturbed := match s.control with
          | .eraseBegin reading _ => s.disturbed || (reading == lane && decide queue.Full)
          | _ => s.disturbed }

/-- The next step of the task, with the item that `eraseBegin` removes and the one in hand. -/
def task [Inhabited I] (s : Transmission I) :
    Transmission I × Option (Option (Sourced I) × Sourced I) :=
  match s.control with
  | .idle =>
      if s.unit.cache ≤ s.unit.longestLane.1 then
        ({ s with unit := s.unit.selectLane, control := .test 0 }, none)
      else (s, none)
  | .test lane =>
      match s.unit.iQueueVector[lane]? with
      | none => ({ s with control := .idle }, none)
      | some queue =>
          if queue.q.isEmpty then ({ s with control := .test (lane + 1) }, none)
          else ({ s with control := .getIndex lane }, none)
  | .getIndex lane =>
      -- without an item in the lane `cur` stays as its declaration made it
      let cur := (s.unit.iQueueVector[lane]?.bind fun queue => queue.getIndex 0).getD default
      ({ s with control := .eraseBegin lane cur, disturbed := false }, none)
  | .eraseBegin lane cur =>
      ({ s with unit := s.unit.eraseBeginI lane, control := .pushO lane cur },
        some ((s.unit.itemsOf lane).head?, cur))
  | .pushO lane cur =>
      ({ s with
          unit := { s.unit with oQueue := (s.unit.oQueue.push cur).1 }
          handed := s.handed ++ [cur]
          control := .test lane }, none)

/-- `popO`. -/
def popO (s : Transmission I) : Transmission I :=
  match s.unit.oQueue.pop with
  | none => s
  | some (item, oQueue) =>
      { s with unit := { s.unit with oQueue := oQueue }, popped := s.popped ++ [item] }

/-- One step of a unit. -/
def step [Inhabited I] (s : Transmission I) :
    Input I → Transmission I × Option (Option (Sourced I) × Sourced I)
  | .pushI frame lane => (s.pushI frame lane, none)
  | .task => s.task
  | .popO => (s.popO, none)

/-- A unit after `init`. -/
def start [Inhabited I] (c : Nat) (fs : Int32) (i_num : Nat) (cache : Int) (intervalTask : Int32) :
    Transmission I where
  unit := DataUnit.init {} c fs i_num cache intervalTask

/-! ## The order of the items -/

/-- The items that come from a lane. -/
def fromLane (lane : Nat) (items : List (Sourced I)) : List (Sourced I) :=
  items.filter fun item => item.lane = some lane

@[simp] theorem fromLane_nil (lane : Nat) : fromLane (I := I) lane [] = [] := rfl

@[simp] theorem fromLane_append (lane : Nat) (first second : List (Sourced I)) :
    fromLane lane (first ++ second) = fromLane lane first ++ fromLane lane second :=
  List.filter_append ..

/-- What the task leaves in a lane: it has read the first item before it erases it. -/
def rest (s : Transmission I) (lane : Nat) : List (Sourced I) :=
  match s.control with
  | .eraseBegin reading _ =>
      if reading = lane then (s.unit.itemsOf lane).tail else s.unit.itemsOf lane
  | _ => s.unit.itemsOf lane

/-- The items of a lane on their way: popped, in the output queue, in hand, and in the lane. -/
def inOrder (s : Transmission I) (lane : Nat) : List (Sourced I) :=
  fromLane lane s.popped ++ fromLane lane s.unit.oQueue.q ++ fromLane lane s.control.inHand ++
    s.rest lane

/-- The lanes hold their own items, and the items of each lane are on their way in order. -/
structure Ordered (s : Transmission I) : Prop where
  own : ∀ lane, ∀ item ∈ s.unit.itemsOf lane, item.lane = some lane
  order : ∀ lane, (s.inOrder lane).Sublist (fromLane lane s.pushed)
  numbers : ∀ item ∈ s.pushed, item.number < s.pushed.length
  nodup : s.pushed.Nodup

theorem fromLane_of_eq {lane : Nat} {item : Sourced I} (h : item.lane = some lane) :
    fromLane lane [item] = [item] := by
  simp [fromLane, h]

theorem fromLane_of_ne {lane : Nat} {item : Sourced I} (h : item.lane ≠ some lane) :
    fromLane lane [item] = [] := by
  simp [fromLane, h]

/-- Changing one lane changes its items only. -/
theorem itemsOf_set {unit : DataUnit (Sourced I) (Sourced I)} {lane : Nat}
    {queue : Vector (Sourced I)} (h : unit.iQueueVector[lane]? = some queue)
    (queue' : Vector (Sourced I)) (i : Nat) :
    DataUnit.itemsOf { unit with iQueueVector := unit.iQueueVector.set lane queue' } i =
      if lane = i then queue'.q else unit.itemsOf i := by
  have hlt := (List.getElem?_eq_some_iff.mp h).1
  by_cases hi : lane = i
  · subst hi
    simp [DataUnit.itemsOf, hlt]
  · simp [DataUnit.itemsOf, hi]

theorem itemsOf_eq {unit : DataUnit (Sourced I) (Sourced I)} {lane : Nat}
    {queue : Vector (Sourced I)} (h : unit.iQueueVector[lane]? = some queue) :
    unit.itemsOf lane = queue.q := by
  simp [DataUnit.itemsOf, h]

/-- `eraseBegin` takes the first item from its lane. -/
theorem itemsOf_eraseBeginI (unit : DataUnit (Sourced I) (Sourced I)) (lane i : Nat) :
    (unit.eraseBeginI lane).itemsOf i =
      if lane = i then (unit.itemsOf i).tail else unit.itemsOf i := by
  unfold DataUnit.eraseBeginI
  cases hqueue : unit.iQueueVector[lane]? with
  | none =>
      by_cases hi : lane = i
      · subst hi
        simp [DataUnit.itemsOf, hqueue]
      · simp [hi]
  | some queue =>
      rw [itemsOf_set hqueue]
      by_cases hi : lane = i
      · subst hi
        rw [if_pos rfl, if_pos rfl, itemsOf_eq hqueue]
        rfl
      · rw [if_neg hi, if_neg hi]

/-- `getIndex` reads the first item of its lane. -/
theorem getIndex_eq [Inhabited I] (unit : DataUnit (Sourced I) (Sourced I)) (lane : Nat) :
    (unit.iQueueVector[lane]?.bind fun queue => queue.getIndex 0) = (unit.itemsOf lane).head? := by
  cases hqueue : unit.iQueueVector[lane]? with
  | none => simp [DataUnit.itemsOf, hqueue]
  | some queue =>
      rw [itemsOf_eq hqueue]
      simp [Vector.getIndex, List.head?_eq_getElem?]

variable {s : Transmission I}

/-- A push to a lane that is not there does nothing. -/
theorem pushI_none (frame : I) {lane : Nat} (h : s.unit.iQueueVector[lane]? = none) :
    s.pushI frame lane = s := by
  simp only [pushI, h]

/-- The item of a push is recorded behind those before it. -/
theorem pushed_pushI (frame : I) {lane : Nat} {queue : Vector (Sourced I)}
    (h : s.unit.iQueueVector[lane]? = some queue) :
    (s.pushI frame lane).pushed = s.pushed ++ [⟨some lane, s.pushed.length, frame⟩] := by
  simp only [pushI, h]

/-- A push leaves the task where it is. -/
theorem control_pushI (s : Transmission I) (frame : I) (lane : Nat) :
    (s.pushI frame lane).control = s.control := by
  unfold pushI
  split <;> rfl

/-- The items of a lane behind a push. -/
theorem itemsOf_pushI (frame : I) {lane : Nat} {queue : Vector (Sourced I)}
    (h : s.unit.iQueueVector[lane]? = some queue) (i : Nat) :
    (s.pushI frame lane).unit.itemsOf i =
      if lane = i then (queue.push ⟨some lane, s.pushed.length, frame⟩).q
      else s.unit.itemsOf i := by
  simp only [pushI, DataUnit.pushI, h]
  exact itemsOf_set h _ i

/-- A push appends its item to what the task leaves in the lane, or drops items. -/
theorem rest_pushI (frame : I) {lane : Nat} {queue : Vector (Sourced I)}
    (h : s.unit.iQueueVector[lane]? = some queue) (i : Nat) :
    ((s.pushI frame lane).rest i).Sublist
      (s.rest i ++ fromLane i [⟨some lane, s.pushed.length, frame⟩]) := by
  have hcontrol := control_pushI s frame lane
  have hitems := itemsOf_pushI frame h i
  by_cases hi : lane = i
  · subst hi
    rw [if_pos rfl] at hitems
    rw [fromLane_of_eq rfl]
    unfold rest
    rw [hcontrol, hitems, itemsOf_eq h]
    split
    · split
      · exact Vector.push_tail_sublist _ _
      · exact Vector.push_sublist _ _
    · exact Vector.push_sublist _ _
  · rw [if_neg hi] at hitems
    rw [fromLane_of_ne (by simpa using hi), List.append_nil]
    unfold rest
    rw [hcontrol, hitems]

/-- A push keeps the order. -/
theorem Ordered.pushI (h : s.Ordered) (frame : I) (lane : Nat) : (s.pushI frame lane).Ordered := by
  cases hqueue : s.unit.iQueueVector[lane]? with
  | none =>
      rw [pushI_none frame hqueue]
      exact h
  | some queue =>
      have hpushed := pushed_pushI frame hqueue
      set item : Sourced I := ⟨some lane, s.pushed.length, frame⟩
      constructor
      case own =>
        intro i x hx
        rw [itemsOf_pushI frame hqueue] at hx
        split at hx
        · next hi =>
            subst hi
            rcases Vector.mem_push hx with hold | rfl
            · rw [← itemsOf_eq hqueue] at hold
              exact h.own lane x hold
            · rfl
        · exact h.own i x hx
      case order =>
        intro i
        have hpopped : (s.pushI frame lane).popped = s.popped := by
          simp only [Transmission.pushI, hqueue]
        have hout : (s.pushI frame lane).unit.oQueue = s.unit.oQueue := by
          simp only [Transmission.pushI, DataUnit.pushI, hqueue]
        unfold inOrder
        rw [hpopped, hout, control_pushI, hpushed, fromLane_append]
        refine ((List.Sublist.refl _).append (rest_pushI frame hqueue i)).trans ?_
        rw [← List.append_assoc]
        exact (h.order i).append (List.Sublist.refl _)
      case numbers =>
        intro x hx
        rw [hpushed] at hx ⊢
        rw [List.length_append]
        rcases List.mem_append.mp hx with hold | hnew
        · have hlt := h.numbers x hold
          omega
        · obtain rfl := List.mem_singleton.mp hnew
          exact Nat.lt_succ_self _
      case nodup =>
        rw [hpushed]
        refine List.nodup_append.mpr ⟨h.nodup, List.nodup_singleton _, ?_⟩
        intro x hx y hy heq
        obtain rfl := List.mem_singleton.mp hy
        have hlt := h.numbers x hx
        rw [heq] at hlt
        exact absurd hlt (Nat.lt_irrefl _)

/-- A step that leaves the pushed items and does not change what is on its way keeps the order. -/
theorem Ordered.congr {other : Transmission I} (h : s.Ordered)
    (hpushed : other.pushed = s.pushed)
    (hitems : ∀ lane, (other.unit.itemsOf lane).Sublist (s.unit.itemsOf lane))
    (horder : ∀ lane, (other.inOrder lane).Sublist (s.inOrder lane)) : other.Ordered where
  own lane item hitem := h.own lane item ((hitems lane).subset hitem)
  order lane := by
    rw [hpushed]
    exact (horder lane).trans (h.order lane)
  numbers := by
    rw [hpushed]
    exact h.numbers
  nodup := by
    rw [hpushed]
    exact h.nodup

variable [Inhabited I]

/-- Reading the first item of a lane splits the lane into the item in hand and the rest. -/
theorem inHand_append_rest (h : s.Ordered) (lane i : Nat) :
    fromLane i [((s.unit.itemsOf lane).head?).getD default] ++
        (if lane = i then (s.unit.itemsOf i).tail else s.unit.itemsOf i) =
      s.unit.itemsOf i := by
  cases hitems : s.unit.itemsOf lane with
  | nil =>
      have hdefault : fromLane i [(default : Sourced I)] = [] := fromLane_of_ne (by
        intro heq
        cases heq)
      rw [show ([] : List (Sourced I)).head?.getD default = default from rfl, hdefault]
      split
      · next hi => rw [← hi, hitems]; rfl
      · rfl
  | cons first others =>
      have hlane : first.lane = some lane := h.own lane first (by rw [hitems]; simp)
      rw [show (first :: others).head?.getD default = first from rfl]
      split
      · next hi =>
          rw [← hi, hitems, fromLane_of_eq hlane]
          rfl
      · next hi =>
          rw [fromLane_of_ne (by rw [hlane]; simpa using hi)]
          rfl

/-- What a step of the task does: with nothing in hand it moves on to a test or to a lane that has
an item, or it reads the first item of a lane, erases it, or hands it on. -/
theorem task_cases (s : Transmission I) :
    (∃ unit control, s.task = ({ s with unit, control }, none) ∧
      (∀ lane, unit.itemsOf lane = s.unit.itemsOf lane) ∧ unit.oQueue = s.unit.oQueue ∧
      s.control.inHand = [] ∧ control.inHand = [] ∧
      ∀ lane, control = .getIndex lane → s.unit.itemsOf lane ≠ []) ∨
    (∃ lane, s.control = .getIndex lane ∧
      s.task = ({ s with
        control := .eraseBegin lane ((s.unit.itemsOf lane).head?.getD default)
        disturbed := false }, none)) ∨
    (∃ lane cur, s.control = .eraseBegin lane cur ∧
      s.task = ({ s with unit := s.unit.eraseBeginI lane, control := .pushO lane cur },
        some ((s.unit.itemsOf lane).head?, cur))) ∨
    ∃ lane cur, s.control = .pushO lane cur ∧
      s.task = ({ s with
        unit := { s.unit with oQueue := (s.unit.oQueue.push cur).1 }
        handed := s.handed ++ [cur]
        control := .test lane }, none) := by
  cases hcontrol : s.control with
  | idle =>
      left
      by_cases hcache : s.unit.cache ≤ s.unit.longestLane.1
      · have hselect : s.unit.selectLane.iQueueVector = s.unit.iQueueVector ∧
            s.unit.selectLane.oQueue = s.unit.oQueue := by
          unfold DataUnit.selectLane
          split <;> exact ⟨rfl, rfl⟩
        refine ⟨s.unit.selectLane, .test 0, ?_, ?_, hselect.2, rfl, rfl, ?_⟩
        · simp only [task, hcontrol, if_pos hcache]
        · intro lane
          rw [DataUnit.itemsOf, hselect.1]
          rfl
        · intro lane heq
          cases heq
      · refine ⟨s.unit, s.control, ?_, fun _ => rfl, rfl, rfl, ?_, ?_⟩
        · simp only [task, hcontrol, if_neg hcache]
          rw [← hcontrol]
        · rw [hcontrol]
          rfl
        · intro lane heq
          rw [hcontrol] at heq
          cases heq
  | test lane =>
      left
      cases hqueue : s.unit.iQueueVector[lane]? with
      | none =>
          refine ⟨s.unit, .idle, ?_, fun _ => rfl, rfl, rfl, rfl, ?_⟩
          · simp only [task, hcontrol, hqueue]
          · intro i heq
            cases heq
      | some queue =>
          by_cases hempty : queue.q.isEmpty = true
          · refine ⟨s.unit, .test (lane + 1), ?_, fun _ => rfl, rfl, rfl, rfl, ?_⟩
            · simp only [task, hcontrol, hqueue, if_pos hempty]
            · intro i heq
              cases heq
          · refine ⟨s.unit, .getIndex lane, ?_, fun _ => rfl, rfl, rfl, rfl, ?_⟩
            · simp only [task, hcontrol, hqueue, if_neg hempty]
            · intro i heq
              cases heq
              rw [itemsOf_eq hqueue]
              simpa using hempty
  | getIndex lane =>
      refine .inr (.inl ⟨lane, rfl, ?_⟩)
      simp only [task, hcontrol, getIndex_eq]
  | eraseBegin lane cur =>
      refine .inr (.inr (.inl ⟨lane, cur, rfl, ?_⟩))
      simp only [task, hcontrol]
  | pushO lane cur =>
      refine .inr (.inr (.inr ⟨lane, cur, rfl, ?_⟩))
      simp only [task, hcontrol]

omit [Inhabited I] in
/-- With nothing in hand the whole lane is on its way. -/
theorem inOrder_of_inHand_nil (h : s.control.inHand = []) (lane : Nat) :
    s.inOrder lane =
      fromLane lane s.popped ++ fromLane lane s.unit.oQueue.q ++ s.unit.itemsOf lane := by
  unfold inOrder rest
  cases hcontrol : s.control with
  | eraseBegin reading cur =>
      rw [hcontrol] at h
      cases h
  | pushO reading cur =>
      rw [hcontrol] at h
      cases h
  | idle | test | getIndex => simp only [Control.inHand, fromLane_nil, List.append_nil]

/-- A step of the task keeps the order. -/
theorem Ordered.task (h : s.Ordered) : s.task.1.Ordered := by
  rcases s.task_cases with ⟨unit, control, htask, hitems, hout, hhand, hnext, -⟩ |
    ⟨lane, hcontrol, htask⟩ | ⟨lane, cur, hcontrol, htask⟩ | ⟨lane, cur, hcontrol, htask⟩
  · rw [htask]
    refine h.congr rfl (fun i => ?_) (fun i => ?_)
    · rw [hitems i]
    · have hmoved : ({ s with unit, control } : Transmission I).inOrder i = _ :=
        inOrder_of_inHand_nil hnext i
      rw [hmoved, inOrder_of_inHand_nil hhand i, hitems i, hout]
  · rw [htask]
    refine h.congr rfl (fun _ => List.Sublist.refl _) (fun i => ?_)
    have hempty : s.control.inHand = [] := by
      rw [hcontrol]
      rfl
    show (fromLane i s.popped ++ fromLane i s.unit.oQueue.q ++ fromLane i [_] ++
      (if lane = i then (s.unit.itemsOf i).tail else s.unit.itemsOf i)).Sublist _
    rw [List.append_assoc, inHand_append_rest h lane i, inOrder_of_inHand_nil hempty i]
  · have hitems := itemsOf_eraseBeginI s.unit lane
    have hout : (s.unit.eraseBeginI lane).oQueue = s.unit.oQueue := by
      unfold DataUnit.eraseBeginI
      split <;> rfl
    rw [htask]
    refine h.congr rfl ?_ ?_
    · intro i
      rw [hitems]
      split
      · exact List.tail_sublist _
      · exact List.Sublist.refl _
    · intro i
      simp only [inOrder, rest, hcontrol, Control.inHand, hout, hitems]
      exact List.Sublist.refl _
  · rw [htask]
    refine h.congr rfl (fun _ => List.Sublist.refl _) (fun i => ?_)
    have hpushed : (s.unit.oQueue.push cur).1.q.Sublist (s.unit.oQueue.q ++ [cur]) := by
      unfold Queue.push
      split
      · exact List.sublist_append_left _ _
      · exact List.Sublist.refl _
    simp only [inOrder, rest, hcontrol, Control.inHand, fromLane_nil, List.append_nil]
    have hout : (fromLane i (s.unit.oQueue.push cur).1.q).Sublist
        (fromLane i s.unit.oQueue.q ++ fromLane i [cur]) := by
      rw [← fromLane_append]
      exact hpushed.filter _
    refine List.Sublist.append ?_ (List.Sublist.refl _)
    rw [List.append_assoc]
    exact (List.Sublist.refl _).append hout

omit [Inhabited I] in
/-- So does a pop, which moves the first item of the output queue. -/
theorem Ordered.popO (h : s.Ordered) : s.popO.Ordered := by
  unfold Transmission.popO Queue.pop
  cases hq : s.unit.oQueue.q with
  | nil => exact h
  | cons first others =>
      refine h.congr rfl (fun _ => List.Sublist.refl _) (fun i => ?_)
      have hcut : fromLane i (first :: others) = fromLane i [first] ++ fromLane i others := by
        rw [← fromLane_append]
        rfl
      simp only [inOrder, rest, fromLane_append, hq, hcut, List.append_assoc]
      exact List.Sublist.refl _

/-- Every step keeps the order. -/
theorem Ordered.step (h : s.Ordered) (input : Input I) : (s.step input).1.Ordered := by
  cases input with
  | pushI frame lane => exact h.pushI frame lane
  | task => exact h.task
  | popO => exact h.popO

/-- A unit behind its initialisation is empty. -/
theorem itemsOf_start (c : Nat) (fs : Int32) (i_num : Nat) (cache : Int) (intervalTask : Int32)
    (lane : Nat) : (start (I := I) c fs i_num cache intervalTask).unit.itemsOf lane = [] := by
  unfold DataUnit.itemsOf
  cases hqueue : (start (I := I) c fs i_num cache intervalTask).unit.iQueueVector[lane]? with
  | none => rfl
  | some queue => exact DataUnit.lane_of_setLanes_new (List.mem_of_getElem? hqueue)

/-- So the order is kept from the start. -/
theorem ordered_start (c : Nat) (fs : Int32) (i_num : Nat) (cache : Int) (intervalTask : Int32) :
    (start (I := I) c fs i_num cache intervalTask).Ordered := by
  constructor
  case own =>
    intro lane item hitem
    rw [itemsOf_start] at hitem
    cases hitem
  case order =>
    intro lane
    show (fromLane lane [] ++ fromLane lane [] ++ fromLane lane [] ++
      (start (I := I) c fs i_num cache intervalTask).unit.itemsOf lane).Sublist _
    rw [itemsOf_start]
    exact List.nil_sublist _
  case numbers =>
    intro item hitem
    cases hitem
  case nodup => exact List.nodup_nil

/-- Of the items that were pushed to a lane, the consumer pops some, in the same order and none of
them twice, whatever the order of the steps. -/
theorem popped_sublist (c : Nat) (fs : Int32) (i_num : Nat) (cache : Int) (intervalTask : Int32)
    (inputs : List (Input I)) (lane : Nat) :
    (fromLane lane (final step (start c fs i_num cache intervalTask) inputs).popped).Sublist
        (fromLane lane (final step (start c fs i_num cache intervalTask) inputs).pushed) ∧
      (final step (start (I := I) c fs i_num cache intervalTask) inputs).pushed.Nodup := by
  have h : (final step (start c fs i_num cache intervalTask) inputs).Ordered :=
    final_invariant (fun _ _ => True) (fun s a hs _ => hs.step a)
      (ordered_start c fs i_num cache intervalTask)
      (allowed_of_forall _ _ fun _ _ _ => trivial)
  refine ⟨?_, h.nodup⟩
  refine List.Sublist.trans ?_ (h.order lane)
  unfold inOrder
  rw [List.append_assoc, List.append_assoc]
  exact List.sublist_append_left _ _

end Transmission

end RVDataFusionServer
