import Mathlib.Data.List.Nodup
import RVDataFusionServer.Data.FindOneFrame

/-!
# What a search selects

A successful `FindOneFrame` moves its reference forward and leaves in the slot of each lane the
first queued frame near the reference; a failed one changes nothing that is selected
(`findOneFrame_selects`). The rule is the same for the lane of the reference, whose slot is the
reference itself only if no frame in front of it is as near: `referenceSlot`.
-/

namespace RVDataFusionServer

open Library Execution

variable {I O : Type} [Inhabited I] [Timestamped I]

namespace DataUnit

/-- There is a slot for each lane, and the last reference is a timestamp, or 0. -/
structure Ready (unit : DataUnit I O) : Prop where
  lanes_length : unit.iQueueVector.length = unit.numI
  store_lt : unit.timestampStore < 2 ^ 63

/-- The frame that stands for a lane: the first queued frame in the window of the reference, or the
default frame if there is none. -/
def StandsFor (fsI : Int32) (curTimestamp : Nat) (queue : List I) (slot : I) : Prop :=
  (∃ older newer, queue = older ++ slot :: newer ∧ InWindow fsI curTimestamp slot ∧
    ∀ x ∈ older, ¬ InWindow fsI curTimestamp x) ∨
  ((∀ x ∈ queue, ¬ InWindow fsI curTimestamp x) ∧ slot = default)

/-- The slot of a lane stands for it. -/
theorem standsFor_firstInWindow (unit : DataUnit I O) {index curTimestamp : Nat} {lane : Vector I}
    (hlane : unit.iQueueVector[index]? = some lane) :
    StandsFor unit.fsI curTimestamp lane.q
      ((unit.firstInWindow index curTimestamp).getD default) := by
  have hfirst : unit.firstInWindow index curTimestamp =
      lane.q.find? fun refer => InWindow unit.fsI curTimestamp refer := by
    rw [firstInWindow, hlane, Option.bind_some]
  rw [hfirst]
  cases hfind : lane.q.find? fun refer => InWindow unit.fsI curTimestamp refer with
  | none =>
      refine .inr ⟨fun x hx => ?_, rfl⟩
      simpa using List.find?_eq_none.mp hfind x hx
  | some slot =>
      obtain ⟨hin, older, newer, hsplit, hbefore⟩ := List.find?_eq_some_iff_append.mp hfind
      refine .inl ⟨older, newer, hsplit, of_decide_eq_true hin, fun x hx => ?_⟩
      simpa using hbefore x hx

/-- A search that fails keeps the time of the last successful one. -/
theorem findOneFrame_curTimestamp {unit : DataUnit I O} {offset : Int}
    (hfailed : (unit.findOneFrame offset).2 ≠ 0) :
    (unit.findOneFrame offset).1.curTimestamp = unit.curTimestamp := by
  unfold findOneFrame at hfailed ⊢
  cases hrefer : unit.getIOffset unit.iMaxSizeIndex offset with
  | none => rfl
  | some refer =>
      rw [hrefer] at hfailed
      by_cases hearly : unit.TooEarly refer
      · simp only [hearly, if_true]
        split <;> rfl
      · simp [hearly] at hfailed

/-- A search keeps `Ready`. -/
theorem Ready.findOneFrame {unit : DataUnit I O} (h : unit.Ready) (offset : Int) :
    (unit.findOneFrame offset).1.Ready := by
  rcases unit.findOneFrame_cases offset with
    ⟨refer, -, -, hcall⟩ | ⟨-, -, hlanes, hnum, hstore, -, -⟩
  · have htaken := takeLanes_spec unit refer unit.iQueueVector.length
    rw [hcall]
    refine ⟨?_, ?_⟩
    · rw [htaken.lanes_eq, htaken.numI_eq]
      exact h.lanes_length
    · rw [htaken.store_eq]
      exact timestamp_lt refer
  · refine ⟨?_, ?_⟩
    · rw [hlanes, hnum]
      exact h.lanes_length
    · rw [hstore]
      exact h.store_lt

/-- A successful search moves the reference forward by at least `fs_i` and selects the frame that
stands for each lane; a failed one leaves the slots, the time and the reference alone. -/
theorem findOneFrame_selects (unit : DataUnit I O) (hready : unit.Ready)
    (hfs : 0 ≤ unit.fsI.toInt) (offset : Int) :
    let result := unit.findOneFrame offset
    (result.2 = 0 →
      result.1.curTimestamp = result.1.timestampStore ∧
        (unit.timestampStore : Int) + unit.fsI.toInt ≤ result.1.timestampStore ∧
        ∀ (i : Nat) lane, unit.iQueueVector[i]? = some lane →
          ∃ slot, result.1.oneFrame[i]? = some slot ∧
            StandsFor unit.fsI result.1.curTimestamp lane.q slot) ∧
      (result.2 ≠ 0 → result.1.oneFrame = unit.oneFrame ∧
        result.1.curTimestamp = unit.curTimestamp ∧
        result.1.timestampStore = unit.timestampStore) := by
  intro result
  rcases unit.findOneFrame_cases offset with
    ⟨refer, -, hlate, hcall⟩ | ⟨-, hret, -, -, hstore, -, hslots⟩
  · have htaken := takeLanes_spec unit refer unit.iQueueVector.length
    rw [show result = _ from hcall]
    refine ⟨fun _ => ⟨?_, ?_, fun i lane hlane => ?_⟩, fun hne => absurd rfl hne⟩
    · rw [htaken.cur_eq, htaken.store_eq]
    · rw [htaken.store_eq]
      exact store_add_le hready.store_lt hlate hfs
    · have hlt := (List.getElem?_eq_some_iff.mp hlane).1
      refine ⟨(unit.firstInWindow i (timestamp refer)).getD default, ?_, ?_⟩
      · rw [htaken.slot_eq, if_pos (hready.lanes_length ▸ hlt), if_pos hlt]
      · rw [htaken.cur_eq]
        exact unit.standsFor_firstInWindow hlane
  · exact ⟨fun hzero => absurd hzero hret,
      fun _ => ⟨hslots, findOneFrame_curTimestamp hret, hstore⟩⟩

/-- A data unit with frames at 900 and 1000 in its only lane. -/
def twoFlows : DataUnit TrafficFlow Unit where
  iQueueVector := [⟨[⟨"A", 900⟩, ⟨"A", 1000⟩], 3, true⟩]
  iMaxSizeIndex := 0
  fsI := 80
  numI := 1

/-- A search from the second frame leaves in the slot what stands for the lane. -/
theorem twoFlows_selects :
    ∃ slot, (twoFlows.findOneFrame 1).1.oneFrame[0]? = some slot ∧
      StandsFor twoFlows.fsI (twoFlows.findOneFrame 1).1.curTimestamp
        [⟨"A", 900⟩, ⟨"A", 1000⟩] slot :=
  ((findOneFrame_selects twoFlows ⟨rfl, by decide⟩ (by decide) 1).1 (by decide +kernel)).2.2 0
    ⟨[⟨"A", 900⟩, ⟨"A", 1000⟩], 3, true⟩ rfl

end DataUnit

namespace Search

/-- The frames in the lanes of a run: all were pushed, and those of one lane carry different
numbers. -/
structure Queued (fs : Int32) (s : Search I O) : Prop where
  ready : s.unit.Ready
  fsI_eq : s.unit.fsI = fs
  pushed : ∀ lane ∈ s.unit.iQueueVector, ∀ x ∈ lane.q, ∃ n < s.pushed, x.number = some n
  apart : ∀ lane ∈ s.unit.iQueueVector, (lane.q.map Numbered.number).Nodup

variable {fs : Int32} {s : Search I O}

omit [Inhabited I] [Timestamped I] in
/-- `Queued` is about the lanes and the reference only. -/
theorem Queued.congr (h : Queued fs s) {unit : DataUnit (Numbered I) O}
    (hlanes : unit.iQueueVector = s.unit.iQueueVector) (hready : unit.Ready)
    (hfs : unit.fsI = s.unit.fsI) : Queued fs { s with unit } := by
  refine ⟨hready, hfs.trans h.fsI_eq, ?_, ?_⟩
  · show ∀ lane ∈ unit.iQueueVector, _
    rw [hlanes]
    exact h.pushed
  · show ∀ lane ∈ unit.iQueueVector, _
    rw [hlanes]
    exact h.apart

/-- A frame that is pushed has a number of its own. -/
theorem Queued.push (h : Queued fs s) (frame : I) (index : Nat) :
    Queued fs (Search.step s (.push frame index)).1 := by
  simp only [Search.step, DataUnit.pushI]
  cases hlane : s.unit.iQueueVector[index]? with
  | none =>
      refine ⟨h.ready, h.fsI_eq, fun lane hmem x hx => ?_, h.apart⟩
      obtain ⟨n, hlt, hn⟩ := h.pushed lane hmem x hx
      exact ⟨n, Nat.lt_succ_of_lt hlt, hn⟩
  | some lane =>
      have hmem := List.mem_of_getElem? hlane
      refine ⟨⟨?_, h.ready.store_lt⟩, h.fsI_eq, fun other hother => ?_, fun other hother => ?_⟩
      · show (s.unit.iQueueVector.set index _).length = s.unit.numI
        rw [List.length_set]
        exact h.ready.lanes_length
      · rcases List.mem_or_eq_of_mem_set hother with hold | rfl
        · intro x hx
          obtain ⟨n, hlt, hn⟩ := h.pushed other hold x hx
          exact ⟨n, Nat.lt_succ_of_lt hlt, hn⟩
        · intro x hx
          rcases Vector.mem_push hx with hold | rfl
          · obtain ⟨n, hlt, hn⟩ := h.pushed lane hmem x hold
            exact ⟨n, Nat.lt_succ_of_lt hlt, hn⟩
          · exact ⟨s.pushed, Nat.lt_succ_self _, rfl⟩
      · rcases List.mem_or_eq_of_mem_set hother with hold | rfl
        · exact h.apart other hold
        · refine ((Vector.push_sublist lane _).map Numbered.number).nodup ?_
          rw [List.map_append, List.map_singleton, List.nodup_append]
          refine ⟨h.apart lane hmem, List.pairwise_singleton _ _, fun a ha b hb => ?_⟩
          obtain ⟨x, hx, rfl⟩ := List.mem_map.mp ha
          obtain ⟨n, hlt, hn⟩ := h.pushed lane hmem x hx
          rw [List.mem_singleton.mp hb, hn]
          exact fun heq => absurd (Option.some.inj heq) (Nat.ne_of_lt hlt)

/-- A search keeps `Queued`. -/
theorem Queued.findOneFrame (h : Queued fs s) (offset : Int) :
    Queued fs { s with unit := (s.unit.findOneFrame offset).1 } := by
  rcases s.unit.findOneFrame_cases offset with
    ⟨refer, -, -, hcall⟩ | ⟨-, -, hlanes, -, -, hfs, -⟩
  · have htaken := DataUnit.takeLanes_spec s.unit refer s.unit.iQueueVector.length
    refine h.congr ?_ (h.ready.findOneFrame offset) ?_
    · rw [hcall, htaken.lanes_eq]
    · rw [hcall, htaken.fsI_eq]
  · exact h.congr hlanes (h.ready.findOneFrame offset) hfs

omit [Inhabited I] [Timestamped I] in
/-- Choosing the reference lane keeps `Queued`. -/
theorem Queued.selectLane (h : Queued fs s) : Queued fs { s with unit := s.unit.selectLane } := by
  unfold DataUnit.selectLane
  split
  · exact h.congr rfl ⟨h.ready.lanes_length, h.ready.store_lt⟩ rfl
  · exact h

/-- A step keeps `Queued`. -/
theorem Queued.step (h : Queued fs s) (input : Input I) : Queued fs (Search.step s input).1 := by
  cases input with
  | push frame index => exact h.push frame index
  | findOneFrame offset => exact h.findOneFrame offset
  | runTask offset =>
      simp only [Search.step, DataUnit.runTask]
      split
      · exact h.selectLane.findOneFrame offset
      · exact h

omit [Timestamped I] in
/-- A data unit starts without frames. -/
theorem queued_start (c : Nat) (fs : Int32) (i_num : Nat) (cache : Int) (intervalTask : Int32) :
    Queued fs (start (I := I) (O := O) c fs i_num cache intervalTask) := by
  refine ⟨⟨?_, ?_⟩, rfl, fun lane hlane x hx => ?_, fun lane hlane => ?_⟩
  · simp [start, DataUnit.init, DataUnit.setLanes]
  · simp [start, DataUnit.init, DataUnit.setLanes]
  · rw [DataUnit.lane_of_setLanes_new hlane] at hx
    cases hx
  · rw [DataUnit.lane_of_setLanes_new hlane]
    exact List.nodup_nil

/-- Every run keeps `Queued`, and its data unit ready for a search. -/
theorem queued_run (c : Nat) (fs : Int32) (i_num : Nat) (cache : Int) (intervalTask : Int32)
    (inputs : List (Input I)) :
    Queued fs (final step (start (O := O) c fs i_num cache intervalTask) inputs) :=
  final_invariant (fun _ _ => True) (fun _ input h _ => h.step input)
    (queued_start c fs i_num cache intervalTask) (allowed_of_forall _ _ fun _ _ _ => trivial)

/-- The first element of a list that passes a test, if the one at position `k` does: it is that one
exactly if no element in front of it passes. -/
theorem find?_of_getElem? {α : Type} {xs : List α} {p : α → Bool} {k : Nat} {x : α}
    (hx : xs[k]? = some x) (hp : p x = true) (hnodup : xs.Nodup) :
    ∃ first ∈ xs.take (k + 1), xs.find? p = some first ∧
      (first = x ↔ ∀ y ∈ xs.take k, p y = false) := by
  have htake : xs.take (k + 1) = xs.take k ++ [x] := by
    rw [List.take_add_one, hx, Option.toList_some]
  have hfind : xs.find? p = ((xs.take k).find? p).or (some x) := by
    have hsplit : xs = xs.take k ++ x :: xs.drop (k + 1) := by
      rw [← List.singleton_append, ← List.append_assoc, ← htake, List.take_append_drop]
    conv_lhs => rw [hsplit]
    rw [List.find?_append, List.find?_cons_of_pos hp]
  have hfresh : x ∉ xs.take k := by
    have hfront := (List.take_sublist (k + 1) xs).nodup hnodup
    rw [htake, List.nodup_append] at hfront
    exact fun hmem => hfront.2.2 x hmem x (by simp) rfl
  rw [hfind, htake]
  cases hearlier : (xs.take k).find? p with
  | none =>
      refine ⟨x, by simp, rfl, fun _ y hy => ?_, fun _ => rfl⟩
      simpa using List.find?_eq_none.mp hearlier y hy
  | some first =>
      have hmem := List.mem_of_find?_eq_some hearlier
      refine ⟨first, by simp [hmem], rfl, fun heq => absurd (heq ▸ hmem) hfresh, fun hnone => ?_⟩
      have hpass := List.find?_some hearlier
      rw [hnone first hmem] at hpass
      cases hpass

/-- What a search from the frame at `offset` leaves in the slot of its lane: the first frame in the
window of that frame, which stands at most at `offset`. It is the frame itself exactly if none of
the frames in front of it is in the window. -/
def ReferenceSlot (fs : Int32) (unit : DataUnit (Numbered I) O) (offset : Int) : Prop :=
  ∃ (j : Nat) (lane : Vector (Numbered I)) (refer slot : Numbered I),
    unit.iMaxSizeIndex = j ∧ unit.iQueueVector[j]? = some lane ∧
      lane.q[offset.toNat]? = some refer ∧
      (unit.findOneFrame offset).1.curTimestamp = timestamp refer ∧
      (unit.findOneFrame offset).1.oneFrame[j]? = some slot ∧
      slot ∈ lane.q.take (offset.toNat + 1) ∧
      (lane.q.find? fun x => DataUnit.InWindow fs (timestamp refer) x) = some slot ∧
      (slot = refer ↔
        ∀ x ∈ lane.q.take offset.toNat, ¬ DataUnit.InWindow fs (timestamp refer) x)

/-- A successful search in lanes whose frames are told apart. -/
theorem Queued.slot_of_reference (h : Queued fs s) (hfs : 0 < fs.toInt) {offset : Int}
    (hfound : (s.unit.findOneFrame offset).2 = 0) : ReferenceSlot fs s.unit offset := by
  rcases s.unit.findOneFrame_cases offset with ⟨refer, hrefer, -, hcall⟩ | ⟨-, hret, -⟩
  · obtain ⟨j, lane, hj, hlane, hget⟩ := DataUnit.getIOffset_eq_some hrefer
    have htaken := DataUnit.takeLanes_spec s.unit refer s.unit.iQueueVector.length
    have hself : DataUnit.InWindow fs (timestamp refer) refer := by
      simpa [DataUnit.InWindow] using hfs
    obtain ⟨slot, hmem, hfirst, hiff⟩ := find?_of_getElem?
      (p := fun x => DataUnit.InWindow fs (timestamp refer) x) hget (decide_eq_true hself)
      (List.Nodup.of_map _ (h.apart lane (List.mem_of_getElem? hlane)))
    have hlt := (List.getElem?_eq_some_iff.mp hlane).1
    refine ⟨j, lane, refer, slot, hj, hlane, hget, ?_, ?_, hmem, hfirst, ?_⟩
    · rw [hcall, htaken.cur_eq]
    · rw [hcall, htaken.slot_eq, if_pos (h.ready.lanes_length ▸ hlt), if_pos hlt,
        DataUnit.firstInWindow, hlane, Option.bind_some, h.fsI_eq, hfirst, Option.getD_some]
    · simpa using hiff
  · exact absurd hfound hret

/-- In every run, whether `FindOneFrame` is called directly or by `runTask`, a successful search
leaves in the slot of its reference lane what `ReferenceSlot` says. -/
theorem referenceSlot (c : Nat) (fs : Int32) (hfs : 0 < fs.toInt) (i_num : Nat)
    (cache : Int) (intervalTask : Int32) (inputs : List (Input I)) (offset : Int) :
    let s := final step (start (O := O) c fs i_num cache intervalTask) inputs
    ((s.unit.findOneFrame offset).2 = 0 → ReferenceSlot fs s.unit offset) ∧
      ((s.unit.selectLane.findOneFrame offset).2 = 0 →
        ReferenceSlot fs s.unit.selectLane offset) := by
  intro s
  have hqueued := queued_run (O := O) c fs i_num cache intervalTask inputs
  exact ⟨hqueued.slot_of_reference hfs, hqueued.selectLane.slot_of_reference hfs⟩

/-- Frames at 900, 1000 and 1100 in one lane. -/
def threeFrames : List (Input TrafficFlow) :=
  [.push ⟨"A", 900⟩ 0, .push ⟨"A", 1000⟩ 0, .push ⟨"A", 1100⟩ 0]

/-- The slot of the reference lane behind a search from the frame at 1000. -/
theorem referenceSlot_threeFrames :
    ReferenceSlot 101
      (final step (start (O := Unit) 3 101 1 3 10) threeFrames).unit.selectLane 1 :=
  (referenceSlot 3 101 (by decide) 1 3 10 threeFrames 1).2 (by decide +kernel)

/-- For an interval of 101, this search succeeds and leaves the frame at 900 in the slot. -/
theorem referenceSlot_earlier :
    let unit := (final step (start (O := Unit) 3 101 1 3 10) threeFrames).unit.selectLane
    (unit.findOneFrame 1).2 = 0 ∧ unit.iMaxSizeIndex = 0 ∧
      unit.getIOffset 0 1 = some ⟨some 1, ⟨"A", 1000⟩⟩ ∧
      (unit.findOneFrame 1).1.curTimestamp = 1000 ∧
      (unit.findOneFrame 1).1.oneFrame[0]? = some ⟨some 0, ⟨"A", 900⟩⟩ := by
  decide +kernel

end Search

end RVDataFusionServer
