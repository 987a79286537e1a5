import RVDataFusionServer.Data.DataUnit
import RVDataFusionServer.Library.Execution

/-!
# Frames of one moment

`FindOneFrame` advances its reference by at least `fs_i` and takes from every lane the first frame
nearer to the reference than `fs_i`. The frames stay in their lanes and the windows of two calls
overlap, so that a frame can be taken twice: `usedOnce_iff` says exactly when it is not.

Frames are numbered in the order in which they are pushed, so that two frames with the same
contents are told apart.
-/

namespace RVDataFusionServer

open Library Execution

variable {I O : Type} [Inhabited I] [Timestamped I]

namespace DataUnit

omit [Inhabited I] in
/-- A reference that is late enough is later than the one before by `fs_i`. -/
theorem store_add_le {unit : DataUnit I O} {refer : I} (hstore : unit.timestampStore < 2 ^ 63)
    (hlate : ¬ unit.TooEarly refer) (hfs : 0 ≤ unit.fsI.toInt) :
    (unit.timestampStore : Int) + unit.fsI.toInt ≤ timestamp refer := by
  have hlt := unit.fsI.toInt_lt
  unfold TooEarly at hlate
  rw [Int.emod_eq_of_lt (by omega) (by omega)] at hlate
  omega

omit [Inhabited I] in
/-- What `ThreadGetDataInRange` leaves alone. -/
theorem threadGetDataInRange_frame (unit : DataUnit I O) (index curTimestamp : Nat) :
    (unit.threadGetDataInRange index curTimestamp).iQueueVector = unit.iQueueVector ∧
      (unit.threadGetDataInRange index curTimestamp).fsI = unit.fsI ∧
      (unit.threadGetDataInRange index curTimestamp).numI = unit.numI ∧
      (unit.threadGetDataInRange index curTimestamp).curTimestamp = unit.curTimestamp ∧
      (unit.threadGetDataInRange index curTimestamp).timestampStore = unit.timestampStore := by
  unfold threadGetDataInRange
  split <;> exact ⟨rfl, rfl, rfl, rfl, rfl⟩

omit [Inhabited I] in
/-- The slot of a lane gets the first frame of the lane in the window, if there is one. -/
theorem threadGetDataInRange_oneFrame (unit : DataUnit I O) (index curTimestamp i : Nat) :
    (unit.threadGetDataInRange index curTimestamp).oneFrame[i]? =
      if i = index then
        unit.oneFrame[i]?.map fun old => (unit.firstInWindow i curTimestamp).getD old
      else unit.oneFrame[i]? := by
  unfold threadGetDataInRange
  by_cases hi : i = index
  · subst hi
    cases hfound : unit.firstInWindow i curTimestamp with
    | none => simp
    | some refer =>
        simp only [if_true, Option.getD_some, List.getElem?_set_self']
        rfl
  · split
    · simp [hi]
    · simp only [hi, if_false]
      rw [List.getElem?_set_ne (fun h => hi h.symm)]

/-- What the loop over the lanes has done after `n` lanes. -/
structure Taken (unit : DataUnit I O) (curTimestamp n : Nat) (after : DataUnit I O) : Prop where
  lanes_eq : after.iQueueVector = unit.iQueueVector
  fsI_eq : after.fsI = unit.fsI
  numI_eq : after.numI = unit.numI
  cur_eq : after.curTimestamp = curTimestamp
  store_eq : after.timestampStore = curTimestamp
  slot_eq : ∀ i : Nat, after.oneFrame[i]? =
    if i < unit.numI then
      some (if i < n then (unit.firstInWindow i curTimestamp).getD default else default)
    else none

/-- The loop leaves in the slot of each lane the first frame of the lane in the window. -/
theorem takeLanes_spec (unit : DataUnit I O) (refer : I) (count : Nat) :
    Taken unit (timestamp refer) count ((unit.newReference refer).takeLanes count) := by
  induction count with
  | zero =>
      refine ⟨rfl, rfl, rfl, rfl, rfl, fun i => ?_⟩
      simp [takeLanes, newReference, List.getElem?_replicate]
  | succ count ih =>
      have hloop : (unit.newReference refer).takeLanes (count + 1) =
          ((unit.newReference refer).takeLanes count).threadGetDataInRange count
            ((unit.newReference refer).takeLanes count).curTimestamp := by
        simp [takeLanes, List.range_succ]
      rw [hloop]
      set before := (unit.newReference refer).takeLanes count
      obtain ⟨hlanes, hfs, hnum, hcur, hstore⟩ :=
        before.threadGetDataInRange_frame count before.curTimestamp
      refine ⟨hlanes.trans ih.lanes_eq, hfs.trans ih.fsI_eq, hnum.trans ih.numI_eq,
        hcur.trans ih.cur_eq, hstore.trans ih.store_eq, fun i => ?_⟩
      have hfirst : before.firstInWindow i before.curTimestamp =
          unit.firstInWindow i (timestamp refer) := by
        rw [ih.cur_eq, firstInWindow, firstInWindow, ih.lanes_eq, ih.fsI_eq]
      rw [threadGetDataInRange_oneFrame, ih.slot_eq, hfirst]
      by_cases hi : i = count
      · simp [hi]
      · have hlt : i < count + 1 ↔ i < count := by omega
        simp [hi, hlt]

/-- A call of `FindOneFrame` that finds a late enough reference returns 0 behind the loop over the
lanes. Any other call returns something else, and changes neither lanes nor slots nor reference. -/
theorem findOneFrame_cases (unit : DataUnit I O) (offset : Int) :
    (∃ refer, unit.getIOffset unit.iMaxSizeIndex offset = some refer ∧ ¬ unit.TooEarly refer ∧
      unit.findOneFrame offset =
        ((unit.newReference refer).takeLanes unit.iQueueVector.length, 0)) ∨
    (∀ refer, unit.getIOffset unit.iMaxSizeIndex offset = some refer → unit.TooEarly refer) ∧
      (unit.findOneFrame offset).2 ≠ 0 ∧
      (unit.findOneFrame offset).1.iQueueVector = unit.iQueueVector ∧
      (unit.findOneFrame offset).1.numI = unit.numI ∧
      (unit.findOneFrame offset).1.timestampStore = unit.timestampStore ∧
      (unit.findOneFrame offset).1.fsI = unit.fsI ∧
      (unit.findOneFrame offset).1.oneFrame = unit.oneFrame := by
  unfold findOneFrame
  cases hrefer : unit.getIOffset unit.iMaxSizeIndex offset with
  | none => exact .inr ⟨by simp, by simp, rfl, rfl, rfl, rfl, rfl⟩
  | some refer =>
      by_cases hearly : unit.TooEarly refer
      · have hall : ∀ r, some refer = some r → unit.TooEarly r := by
          rintro r ⟨⟩
          exact hearly
        simp only [hearly, if_true]
        split
        · exact .inr ⟨hall, by simp, rfl, rfl, rfl, rfl, rfl⟩
        · exact .inr ⟨hall, by simp, rfl, rfl, rfl, rfl, rfl⟩
      · exact .inl ⟨refer, rfl, hearly, by simp [hearly]⟩

end DataUnit

/-- A frame with the number of its push. The frames that fill empty slots have none. -/
structure Numbered (I : Type) where
  number : Option Nat := none
  frame : I
  deriving DecidableEq, Repr

instance : Inhabited (Numbered I) := ⟨{ frame := default }⟩

instance : Timestamped (Numbered I) where
  timestamp x := timestamp x.frame
  timestamp_lt x := timestamp_lt x.frame

/-- A data unit with the number of frames that were pushed to it. -/
structure Search (I O : Type) where
  unit : DataUnit (Numbered I) O := {}
  pushed : Nat := 0

namespace Search

/-- What happens to the lanes: a frame is pushed, `FindOneFrame` is called, or `runTask` calls it
once the lanes hold enough frames. -/
inductive Input (I : Type) where
  | push (frame : I) (index : Nat)
  | findOneFrame (offset : Int)
  | runTask (offset : Int)

/-- The numbers of the frames in `oneFrame`. -/
def numbers (unit : DataUnit (Numbered I) O) : List Nat := unit.oneFrame.filterMap Numbered.number

/-- What a call of `FindOneFrame` hands on: the frames in `oneFrame`, if it returns 0. -/
def taken (unit : DataUnit (Numbered I) O) (ret : Option Int) : List Nat :=
  if ret = some 0 then numbers unit else []

/-- One step, with the numbers of the frames that it takes. -/
def step (s : Search I O) : Input I → Search I O × List Nat
  | .push frame index =>
      ({ unit := (s.unit.pushI ⟨some s.pushed, frame⟩ index).1, pushed := s.pushed + 1 }, [])
  | .findOneFrame offset =>
      let result := s.unit.findOneFrame offset
      ({ s with unit := result.1 }, taken result.1 (some result.2))
  | .runTask offset =>
      let result := s.unit.runTask fun unit => unit.findOneFrame offset
      ({ s with unit := result.1 }, taken result.1 result.2)

/-- A data unit after its initialisation. -/
def start (c : Nat) (fs : Int32) (i_num : Nat) (cache : Int) (intervalTask : Int32) :
    Search I O where
  unit := DataUnit.init {} c fs i_num cache intervalTask

/-- No frame is taken by two calls. -/
def UsedOnce (calls : List (List Nat)) : Prop := calls.Pairwise List.Disjoint

/-- The condition under which a call of `FindOneFrame` takes no frame again: if its reference is
late enough, the frame that `oneFrame` still holds for a lane from the last successful call is
out of the window of the reference, or a frame in front of it in the lane is in the window. -/
def FreshCall (unit : DataUnit (Numbered I) O) (offset : Int) : Prop :=
  ∀ refer, unit.getIOffset unit.iMaxSizeIndex offset = some refer → ¬ unit.TooEarly refer →
    ∀ (index : Nat) lane older frame newer, unit.iQueueVector[index]? = some lane →
      lane.q = older ++ frame :: newer → unit.oneFrame[index]? = some frame →
        DataUnit.InWindow unit.fsI (timestamp refer) frame →
          ∃ x ∈ older, DataUnit.InWindow unit.fsI (timestamp refer) x

/-- The condition under which a step takes no frame again. -/
def Fresh (s : Search I O) : Input I → Prop
  | .push _ _ => True
  | .findOneFrame offset => FreshCall s.unit offset
  | .runTask offset => s.unit.cache ≤ s.unit.longestLane.1 → FreshCall s.unit.selectLane offset

/-- The frames in the lanes are numbered apart, and of the frames that the calls `past` have taken
only those in `oneFrame` are later than the reference, and those by less than `fs_i`. -/
structure Tracks (unit : DataUnit (Numbered I) O) (pushed : Nat) (past : List (List Nat)) :
    Prop where
  lanes_length : unit.iQueueVector.length = unit.numI
  store_lt : unit.timestampStore < 2 ^ 63
  numbered : ∀ (i : Nat) lane, unit.iQueueVector[i]? = some lane →
    ∀ x ∈ lane.q, ∃ n < pushed, x.number = some n
  distinct : ∀ (i j : Nat) lane other, unit.iQueueVector[i]? = some lane →
    unit.iQueueVector[j]? = some other → ∀ x ∈ lane.q, ∀ y ∈ other.q,
      x.number = y.number → i = j ∧ x = y
  slot : ∀ (i : Nat) x n, unit.oneFrame[i]? = some x → x.number = some n →
    (∃ call ∈ past, n ∈ call) ∧ (timestamp x : Int) < unit.timestampStore + unit.fsI.toInt
  spent : ∀ call ∈ past, ∀ n ∈ call, n < pushed ∧ 0 < unit.fsI.toInt ∧
    ∀ (i : Nat) lane, unit.iQueueVector[i]? = some lane → ∀ x ∈ lane.q, x.number = some n →
      unit.oneFrame[i]? = some x ∨ timestamp x ≤ unit.timestampStore

variable {unit : DataUnit (Numbered I) O} {pushed : Nat} {past : List (List Nat)}

omit [Inhabited I] in
/-- The condition says that the loop does not find again what `oneFrame` holds. -/
theorem freshCall_iff (unit : DataUnit (Numbered I) O) (offset : Int) :
    FreshCall unit offset ↔
      ∀ refer, unit.getIOffset unit.iMaxSizeIndex offset = some refer → ¬ unit.TooEarly refer →
        ∀ (index : Nat) frame, unit.firstInWindow index (timestamp refer) = some frame →
          unit.oneFrame[index]? ≠ some frame := by
  constructor
  · intro h refer hrefer hlate index frame hfirst hkept
    obtain ⟨lane, hlane, hfind⟩ := Option.bind_eq_some_iff.mp hfirst
    obtain ⟨hin, older, newer, hsplit, holder⟩ := List.find?_eq_some_iff_append.mp hfind
    obtain ⟨x, hx, hxin⟩ := h refer hrefer hlate index lane older frame newer hlane hsplit hkept
      (of_decide_eq_true hin)
    have hout := holder x hx
    simp [hxin] at hout
  · intro h refer hrefer hlate index lane older frame newer hlane hsplit hkept hin
    by_contra hnone
    refine h refer hrefer hlate index frame (Option.bind_eq_some_iff.mpr ⟨lane, hlane, ?_⟩) hkept
    refine List.find?_eq_some_iff_append.mpr ⟨decide_eq_true hin, older, newer, hsplit, ?_⟩
    intro x hx
    simpa using fun hxin => hnone ⟨x, hx, hxin⟩

omit [Inhabited I] in
/-- A first frame in the window is a frame of its lane, and in the window. -/
theorem mem_of_firstInWindow {index cur : Nat} {x : Numbered I}
    (h : unit.firstInWindow index cur = some x) :
    ∃ lane, unit.iQueueVector[index]? = some lane ∧ x ∈ lane.q ∧
      DataUnit.InWindow unit.fsI cur x := by
  obtain ⟨lane, hlane, hfind⟩ := Option.bind_eq_some_iff.mp h
  have hin := List.find?_some hfind
  exact ⟨lane, hlane, List.mem_of_find?_eq_some hfind, of_decide_eq_true hin⟩

omit [Inhabited I] [Timestamped I] in
/-- What `oneFrame` holds, by slots. -/
theorem mem_numbers {unit : DataUnit (Numbered I) O} {n : Nat} :
    n ∈ numbers unit ↔
      ∃ (i : Nat) (x : Numbered I), unit.oneFrame[i]? = some x ∧ x.number = some n := by
  unfold numbers
  rw [List.mem_filterMap]
  constructor
  · rintro ⟨x, hx, hn⟩
    obtain ⟨i, hi⟩ := List.mem_iff_getElem?.mp hx
    exact ⟨i, x, hi, hn⟩
  · rintro ⟨i, x, hi, hn⟩
    exact ⟨x, List.mem_of_getElem? hi, hn⟩

/-- The slots behind a successful search. -/
theorem slot_of_taken {refer : Numbered I} {after : DataUnit (Numbered I) O}
    (hlen : unit.iQueueVector.length = unit.numI)
    (htaken : DataUnit.Taken unit (timestamp refer) unit.iQueueVector.length after) {i n : Nat}
    {x : Numbered I} (hn : x.number = some n) :
    after.oneFrame[i]? = some x ↔ unit.firstInWindow i (timestamp refer) = some x := by
  rw [htaken.slot_eq, hlen]
  constructor
  · intro h
    split_ifs at h with hlt
    cases hfirst : unit.firstInWindow i (timestamp refer) with
    | none =>
        rw [hfirst, Option.getD_none] at h
        rw [← Option.some.inj h] at hn
        cases hn
    | some y => simpa [hfirst] using h
  · intro h
    obtain ⟨lane, hlane, -⟩ := mem_of_firstInWindow h
    have hlt := (List.getElem?_eq_some_iff.mp hlane).1
    rw [hlen] at hlt
    simp [hlt, h]

omit [Inhabited I] in
/-- A push keeps `Tracks`. -/
theorem Tracks.push (h : Tracks unit pushed past) (frame : I) (index : Nat) :
    Tracks (unit.pushI ⟨some pushed, frame⟩ index).1 (pushed + 1) past := by
  unfold DataUnit.pushI
  cases hlane : unit.iQueueVector[index]? with
  | none =>
      refine ⟨h.lanes_length, h.store_lt, fun i lane hl x hx => ?_, h.distinct, h.slot,
        fun call hcall n hn => ?_⟩
      · obtain ⟨n, hlt, hn⟩ := h.numbered i lane hl x hx
        exact ⟨n, by omega, hn⟩
      · obtain ⟨hlt, hpos, hspent⟩ := h.spent call hcall n hn
        exact ⟨by omega, hpos, hspent⟩
  | some lane =>
      -- a frame in a lane is the new one, in its lane, or was in the same lane before
      have hcases : ∀ (i : Nat) l, (unit.iQueueVector.set index
          (lane.push ⟨some pushed, frame⟩))[i]? = some l → ∀ x ∈ l.q,
          (i = index ∧ x = ⟨some pushed, frame⟩) ∨
            ∃ old, unit.iQueueVector[i]? = some old ∧ x ∈ old.q := by
        intro i l hl x hx
        rcases getElem?_set_cases hl with ⟨rfl, rfl⟩ | hother
        · rcases Vector.mem_push hx with hold | hnew
          · exact .inr ⟨lane, hlane, hold⟩
          · exact .inl ⟨rfl, hnew⟩
        · exact .inr ⟨l, hother, hx⟩
      have hold : ∀ (i : Nat) l, unit.iQueueVector[i]? = some l → ∀ x ∈ l.q,
          x.number ≠ some pushed := by
        intro i l hl x hx heq
        obtain ⟨n, hlt, hn⟩ := h.numbered i l hl x hx
        rw [heq] at hn
        obtain rfl := Option.some.inj hn
        exact Nat.lt_irrefl _ hlt
      refine ⟨by simpa using h.lanes_length, h.store_lt, fun i l hl x hx => ?_,
        fun i j l l' hl hl' x hx y hy heq => ?_, h.slot, fun call hcall n hn => ?_⟩
      · rcases hcases i l hl x hx with ⟨-, rfl⟩ | ⟨old, hlold, hxold⟩
        · exact ⟨pushed, by omega, rfl⟩
        · obtain ⟨n, hlt, hn⟩ := h.numbered i old hlold x hxold
          exact ⟨n, by omega, hn⟩
      · rcases hcases i l hl x hx with ⟨rfl, rfl⟩ | ⟨old, hlold, hxold⟩
        · rcases hcases j l' hl' y hy with ⟨rfl, rfl⟩ | ⟨old, hlold, hyold⟩
          · exact ⟨rfl, rfl⟩
          · exact absurd heq.symm (hold j old hlold y hyold)
        · rcases hcases j l' hl' y hy with ⟨rfl, rfl⟩ | ⟨old', hlold', hyold⟩
          · exact absurd heq (hold i old hlold x hxold)
          · exact h.distinct i j old old' hlold hlold' x hxold y hyold heq
      · obtain ⟨hlt, hpos, hspent⟩ := h.spent call hcall n hn
        refine ⟨by omega, hpos, fun i l hl x hx hnumber => ?_⟩
        rcases hcases i l hl x hx with ⟨rfl, rfl⟩ | ⟨old, hlold, hxold⟩
        · obtain rfl := Option.some.inj hnumber
          exact absurd hlt (Nat.lt_irrefl _)
        · exact hspent i old hlold x hxold hnumber

omit [Inhabited I] in
/-- `Tracks` is about the lanes, the slots and the reference only. -/
theorem Tracks.congr {other : DataUnit (Numbered I) O} (h : Tracks unit pushed past)
    (hlanes : other.iQueueVector = unit.iQueueVector) (hnum : other.numI = unit.numI)
    (hstore : other.timestampStore = unit.timestampStore) (hfs : other.fsI = unit.fsI)
    (hslots : other.oneFrame = unit.oneFrame) : Tracks other pushed past := by
  refine ⟨by rw [hlanes, hnum]; exact h.lanes_length, by rw [hstore]; exact h.store_lt, ?_, ?_, ?_,
    ?_⟩
  · rw [hlanes]; exact h.numbered
  · rw [hlanes]; exact h.distinct
  · rw [hslots, hstore, hfs]; exact h.slot
  · rw [hlanes, hslots, hstore, hfs]; exact h.spent

omit [Inhabited I] in
/-- A call that takes nothing keeps `Tracks`. -/
theorem Tracks.append_nil (h : Tracks unit pushed past) : Tracks unit pushed (past ++ [[]]) where
  lanes_length := h.lanes_length
  store_lt := h.store_lt
  numbered := h.numbered
  distinct := h.distinct
  slot i x n hx hn := by
    obtain ⟨⟨call, hcall, hmem⟩, hlt⟩ := h.slot i x n hx hn
    exact ⟨⟨call, List.mem_append_left _ hcall, hmem⟩, hlt⟩
  spent call hcall n hn := by
    rcases List.mem_append.mp hcall with hold | hnew
    · exact h.spent call hold n hn
    · rw [List.mem_singleton.mp hnew] at hn
      simp at hn

/-- A successful call keeps `Tracks`. -/
theorem Tracks.take (h : Tracks unit pushed past) {refer : Numbered I}
    {after : DataUnit (Numbered I) O} (hlate : ¬ unit.TooEarly refer)
    (htaken : DataUnit.Taken unit (timestamp refer) unit.iQueueVector.length after) :
    Tracks after pushed (past ++ [numbers after]) := by
  have hslot {i n : Nat} {x : Numbered I} (hn : x.number = some n) :=
    slot_of_taken (i := i) h.lanes_length htaken hn
  refine ⟨by rw [htaken.lanes_eq, htaken.numI_eq]; exact h.lanes_length, ?_, ?_, ?_,
    fun i x n hx hn => ?_, fun call hcall n hn => ?_⟩
  · rw [htaken.store_eq]; exact timestamp_lt refer
  · rw [htaken.lanes_eq]; exact h.numbered
  · rw [htaken.lanes_eq]; exact h.distinct
  · refine ⟨⟨numbers after, by simp, mem_numbers.mpr ⟨i, x, hx, hn⟩⟩, ?_⟩
    obtain ⟨lane, -, -, hin⟩ := mem_of_firstInWindow ((hslot hn).mp hx)
    rw [htaken.store_eq, htaken.fsI_eq]
    unfold DataUnit.InWindow at hin
    omega
  · rw [htaken.lanes_eq, htaken.store_eq, htaken.fsI_eq]
    rcases List.mem_append.mp hcall with hold | hnew
    · -- a frame that was taken before is now too old, in its slot or not
      obtain ⟨hlt, hpos, hspent⟩ := h.spent call hold n hn
      have hadvance := DataUnit.store_add_le h.store_lt hlate hpos.le
      refine ⟨hlt, hpos, fun i lane hlane x hx hnumber => .inr ?_⟩
      rcases hspent i lane hlane x hx hnumber with hkept | hearly
      · have hbefore := (h.slot i x n hkept hnumber).2
        omega
      · omega
    · rw [List.mem_singleton.mp hnew] at hn
      obtain ⟨i, x, hx, hnumber⟩ := mem_numbers.mp hn
      obtain ⟨lane, hlane, hmem, hin⟩ := mem_of_firstInWindow ((hslot hnumber).mp hx)
      obtain ⟨m, hlt, hm⟩ := h.numbered i lane hlane x hmem
      rw [hnumber] at hm
      obtain rfl := Option.some.inj hm
      unfold DataUnit.InWindow at hin
      refine ⟨hlt, by omega, fun j other hother y hy hynumber => .inl ?_⟩
      obtain ⟨rfl, rfl⟩ := h.distinct i j lane other hlane hother x hmem y hy
        (hnumber.trans hynumber.symm)
      exact hx

/-- A call that meets the condition takes no frame that was taken before. -/
theorem Tracks.disjoint (h : Tracks unit pushed past) {refer : Numbered I}
    {after : DataUnit (Numbered I) O} (hlate : ¬ unit.TooEarly refer)
    (htaken : DataUnit.Taken unit (timestamp refer) unit.iQueueVector.length after)
    (hfresh : ∀ (index : Nat) frame, unit.firstInWindow index (timestamp refer) = some frame →
      unit.oneFrame[index]? ≠ some frame) :
    ∀ call ∈ past, List.Disjoint call (numbers after) := by
  intro call hcall n hn hnew
  obtain ⟨-, hpos, hspent⟩ := h.spent call hcall n hn
  have hadvance := DataUnit.store_add_le h.store_lt hlate hpos.le
  obtain ⟨i, x, hx, hnumber⟩ := mem_numbers.mp hnew
  have hfirst := (slot_of_taken h.lanes_length htaken hnumber).mp hx
  obtain ⟨lane, hlane, hmem, hin⟩ := mem_of_firstInWindow hfirst
  rcases hspent i lane hlane x hmem hnumber with hkept | hearly
  · exact hfresh i x hfirst hkept
  · unfold DataUnit.InWindow at hin
    omega

/-- A call that does not meet the condition takes a frame that was taken before. -/
theorem Tracks.not_disjoint (h : Tracks unit pushed past) {refer frame : Numbered I} {index : Nat}
    {after : DataUnit (Numbered I) O}
    (htaken : DataUnit.Taken unit (timestamp refer) unit.iQueueVector.length after)
    (hfirst : unit.firstInWindow index (timestamp refer) = some frame)
    (hkept : unit.oneFrame[index]? = some frame) :
    ∃ call ∈ past, ¬ List.Disjoint call (numbers after) := by
  obtain ⟨lane, hlane, hmem, -⟩ := mem_of_firstInWindow hfirst
  obtain ⟨n, -, hnumber⟩ := h.numbered index lane hlane frame hmem
  obtain ⟨⟨call, hcall, hn⟩, -⟩ := h.slot index frame n hkept hnumber
  have hslot := (slot_of_taken h.lanes_length htaken hnumber).mpr hfirst
  exact ⟨call, hcall, fun hdisjoint =>
    hdisjoint hn (mem_numbers.mpr ⟨index, frame, hslot, hnumber⟩)⟩

/-- A call of `FindOneFrame` keeps `Tracks`, and it takes no frame again if and only if it meets
the condition. -/
theorem Tracks.findOneFrame (h : Tracks unit pushed past) (offset : Int) :
    Tracks (unit.findOneFrame offset).1 pushed
        (past ++ [taken (unit.findOneFrame offset).1 (some (unit.findOneFrame offset).2)]) ∧
      ((∀ call ∈ past, List.Disjoint call
          (taken (unit.findOneFrame offset).1 (some (unit.findOneFrame offset).2))) ↔
        FreshCall unit offset) := by
  rw [freshCall_iff]
  rcases unit.findOneFrame_cases offset with
    ⟨refer, hrefer, hlate, hcall⟩ | ⟨hearly, hret, hlanes, hnum, hstore, hfs, hslots⟩
  · have htaken := DataUnit.takeLanes_spec unit refer unit.iQueueVector.length
    simp only [hcall, taken, if_true]
    refine ⟨h.take hlate htaken, fun hdisjoint r hr _ index frame hfirst hkept => ?_,
      fun hfresh => h.disjoint hlate htaken (hfresh refer hrefer hlate)⟩
    obtain rfl := Option.some.inj (hrefer.symm.trans hr)
    obtain ⟨call, hpast, hshared⟩ := h.not_disjoint htaken hfirst hkept
    exact hshared (hdisjoint call hpast)
  · have hnothing : taken (unit.findOneFrame offset).1 (some (unit.findOneFrame offset).2) =
        [] := by
      simp [taken, hret]
    rw [hnothing]
    refine ⟨(h.congr hlanes hnum hstore hfs hslots).append_nil, fun _ refer hrefer hlate => ?_, ?_⟩
    · exact absurd (hearly refer hrefer) hlate
    · simp

/-- A step keeps `Tracks`, and it takes no frame again if and only if it meets the condition. -/
theorem Tracks.step {s : Search I O} (h : Tracks s.unit s.pushed past) (input : Input I) :
    Tracks (step s input).1.unit (step s input).1.pushed (past ++ [(step s input).2]) ∧
      ((∀ call ∈ past, List.Disjoint call (step s input).2) ↔ Fresh s input) := by
  cases input with
  | push frame index =>
      refine ⟨(h.push frame index).append_nil, ?_⟩
      simp [Search.step, Fresh]
  | findOneFrame offset => exact h.findOneFrame offset
  | runTask offset =>
      simp only [Search.step, Fresh, DataUnit.runTask]
      by_cases hrun : s.unit.cache ≤ s.unit.longestLane.1
      · have hselect : Tracks s.unit.selectLane s.pushed past := by
          unfold DataUnit.selectLane
          split
          · exact h.congr rfl rfl rfl rfl rfl
          · exact h
        simp only [hrun, if_true, true_imp_iff]
        exact hselect.findOneFrame offset
      · simp only [hrun, if_false, false_imp_iff]
        refine ⟨h.append_nil, ?_⟩
        simp [taken]

/-- A data unit starts without frames. -/
theorem tracks_start (c : Nat) (fs : Int32) (i_num : Nat) (cache : Int) (intervalTask : Int32) :
    Tracks (start (I := I) (O := O) c fs i_num cache intervalTask).unit 0 [] := by
  have hempty : ∀ (index : Nat) (lane : Vector (Numbered I)),
      (start (I := I) (O := O) c fs i_num cache intervalTask).unit.iQueueVector[index]? =
        some lane → lane.q = [] := by
    intro index lane hlane
    exact DataUnit.lane_of_setLanes_new (List.mem_of_getElem? hlane)
  refine ⟨?_, ?_, fun i lane hlane x hx => ?_, fun i j lane other hlane hother x hx => ?_,
    fun i x n hx hn => ?_, by simp⟩
  · simp [start, DataUnit.init, DataUnit.setLanes]
  · simp [start, DataUnit.init, DataUnit.setLanes]
  · rw [hempty i lane hlane] at hx
    simp at hx
  · rw [hempty i lane hlane] at hx
    simp at hx
  · have hfill : x = default := by
      have hmem := List.mem_of_getElem? hx
      simp only [start, DataUnit.init, DataUnit.setLanes, resize, List.take_nil,
        List.nil_append] at hmem
      exact List.eq_of_mem_replicate hmem
    rw [hfill] at hn
    cases hn

/-- Calls that take no frame again do so throughout a run if and only if the run meets the
condition. -/
theorem Tracks.run {s : Search I O} (h : Tracks s.unit s.pushed past) (hpast : UsedOnce past)
    (inputs : List (Input I)) :
    UsedOnce (past ++ outputs Search.step s inputs) ↔ Allowed Search.step Fresh s inputs := by
  induction inputs generalizing s past with
  | nil => simpa using hpast
  | cons input rest ih =>
      obtain ⟨htracks, hfresh⟩ := h.step input
      have hsplit : past ++ outputs Search.step s (input :: rest) =
          (past ++ [(Search.step s input).2]) ++
            outputs Search.step (Search.step s input).1 rest := by
        simp
      have hnow : UsedOnce (past ++ [(Search.step s input).2]) ↔ Fresh s input := by
        have hbefore : past.Pairwise List.Disjoint := hpast
        simp [← hfresh, UsedOnce, List.pairwise_append, hbefore]
      rw [hsplit, allowed_cons]
      by_cases hok : Fresh s input
      · rw [ih htracks (hnow.mpr hok)]
        simp [hok]
      · refine ⟨fun hused => ?_, fun hallowed => absurd hallowed.1 hok⟩
        exact absurd (hnow.mp (List.pairwise_append.mp hused).1) hok

/-- No frame is taken by two calls of a run if and only if every call of the run that finds a late
enough reference meets `FreshCall`. -/
theorem usedOnce_iff (c : Nat) (fs : Int32) (i_num : Nat) (cache : Int) (intervalTask : Int32)
    (inputs : List (Input I)) :
    UsedOnce (outputs step (start (O := O) c fs i_num cache intervalTask) inputs) ↔
      Allowed step Fresh (start (O := O) c fs i_num cache intervalTask) inputs := by
  have hrun := (tracks_start (I := I) (O := O) c fs i_num cache intervalTask).run
    List.Pairwise.nil inputs
  simpa using hrun

/-- Two devices, with frames every 100 ms: the frame at 1060 of the second one is near the
reference 1000 of one call and the reference 1100 of the next. -/
theorem frame_taken_twice :
    ¬ UsedOnce (outputs step (start (O := Unit) 3 100 2 3 10)
      [.push (⟨"A", 900⟩ : TrafficFlow) 0, .push ⟨"A", 1000⟩ 0, .push ⟨"B", 1060⟩ 1,
        .push ⟨"A", 1100⟩ 0, .runTask 1, .push ⟨"A", 1200⟩ 0, .runTask 1]) := by
  have hcalls : outputs step (start (O := Unit) 3 100 2 3 10)
      [.push (⟨"A", 900⟩ : TrafficFlow) 0, .push ⟨"A", 1000⟩ 0, .push ⟨"B", 1060⟩ 1,
        .push ⟨"A", 1100⟩ 0, .runTask 1, .push ⟨"A", 1200⟩ 0, .runTask 1] =
      [[], [], [], [], [1, 2], [], [3, 2]] := by
    decide +kernel
  rw [hcalls]
  simp [UsedOnce]

end Search

end RVDataFusionServer
