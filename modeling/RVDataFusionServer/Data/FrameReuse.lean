import RVDataFusionServer.Data.FindOneFrame
import RVDataFusionServer.Library.Neighbours

/-!
# How often a frame is taken

The windows of two calls of `FindOneFrame` overlap if the second call is the next one that
succeeds. Its reference is later than the first one by `fs_i` at least, and that of the call behind
it is later than all frames of the first window. So a frame is taken twice at most, by two calls
that follow each other: `used_nearby`.
-/

namespace RVDataFusionServer.Search

open Library Execution

variable {I O : Type} [Inhabited I] [Timestamped I]

/-- The frame with this number is earlier than `t`, if it is in a lane. -/
def Before (unit : DataUnit (Numbered I) O) (n : Nat) (t : Int) : Prop :=
  ∀ (i : Nat) lane, unit.iQueueVector[i]? = some lane → ∀ x ∈ lane.q, x.number = some n →
    (timestamp x : Int) < t

/-- The calls that have taken frames. The frames of the last one are in front of the next window
but one, and those of the calls before are in front of the next window. -/
structure Spaced (unit : DataUnit (Numbered I) O) (calls : List (List Nat)) : Prop where
  shares : SharesNextOnly calls
  recent : ∀ call ∈ calls, ∀ n ∈ call, Before unit n (unit.timestampStore + unit.fsI.toInt)
  earlier : ∀ call ∈ calls.dropLast, ∀ n ∈ call, Before unit n unit.timestampStore

/-- The calls of a run that have taken frames. With a positive `fs_i` these are the successful
ones, as each of them takes a frame of its reference lane. -/
def usedBy (calls : List (List Nat)) : List (List Nat) := calls.filter (· ≠ [])

variable {unit : DataUnit (Numbered I) O} {pushed : Nat} {past calls : List (List Nat)}

omit [Inhabited I] in
theorem Before.mono {n : Nat} {t t' : Int} (h : Before unit n t) (hle : t ≤ t') :
    Before unit n t' :=
  fun i lane hlane x hx hn => lt_of_lt_of_le (h i lane hlane x hx hn) hle

omit [Inhabited I] in
/-- `Spaced` is about the lanes and the reference only. -/
theorem Spaced.congr {other : DataUnit (Numbered I) O} (h : Spaced unit calls)
    (hlanes : other.iQueueVector = unit.iQueueVector)
    (hstore : other.timestampStore = unit.timestampStore) (hfs : other.fsI = unit.fsI) :
    Spaced other calls := by
  refine ⟨h.shares, ?_, ?_⟩
  · unfold Before
    rw [hlanes, hstore, hfs]
    exact h.recent
  · unfold Before
    rw [hlanes, hstore]
    exact h.earlier

omit [Inhabited I] in
/-- A frame that is pushed is none of those that were taken. -/
theorem Spaced.push (h : Spaced unit calls) (hknown : ∀ call ∈ calls, ∀ n ∈ call, n < pushed)
    (frame : I) (index : Nat) : Spaced (unit.pushI ⟨some pushed, frame⟩ index).1 calls := by
  have hbefore {call : List Nat} (hcall : call ∈ calls) {n : Nat} (hn : n ∈ call) {t : Int}
      (hold : Before unit n t) : Before (unit.pushI ⟨some pushed, frame⟩ index).1 n t := by
    intro i lane hlane x hx hnumber
    unfold DataUnit.pushI at hlane
    cases htarget : unit.iQueueVector[index]? with
    | none =>
        rw [htarget] at hlane
        exact hold i lane hlane x hx hnumber
    | some target =>
        rw [htarget] at hlane
        rcases getElem?_set_cases hlane with ⟨-, rfl⟩ | hother
        · rcases Vector.mem_push hx with hstored | rfl
          · exact hold index target htarget x hstored hnumber
          · obtain rfl : pushed = n := Option.some.inj hnumber
            exact absurd (hknown call hcall pushed hn) (Nat.lt_irrefl _)
        · exact hold i lane hother x hx hnumber
  have hsame : (unit.pushI ⟨some pushed, frame⟩ index).1.timestampStore = unit.timestampStore ∧
      (unit.pushI ⟨some pushed, frame⟩ index).1.fsI = unit.fsI := by
    unfold DataUnit.pushI
    split <;> exact ⟨rfl, rfl⟩
  refine ⟨h.shares, fun call hcall n hn => ?_, fun call hcall n hn => ?_⟩
  · rw [hsame.1, hsame.2]
    exact hbefore hcall hn (h.recent call hcall n hn)
  · rw [hsame.1]
    exact hbefore ((List.dropLast_sublist calls).subset hcall) hn (h.earlier call hcall n hn)

/-- A frame that a call takes is behind the start of its window, and in front of its end wherever
it is in a lane. -/
theorem Tracks.window (ht : Tracks unit pushed past) {refer : Numbered I}
    {after : DataUnit (Numbered I) O}
    (htaken : DataUnit.Taken unit (timestamp refer) unit.iQueueVector.length after) {n : Nat}
    (hn : n ∈ numbers after) :
    Before unit n (timestamp refer + unit.fsI.toInt) ∧
      ∃ (i : Nat) (lane : Vector (Numbered I)) (x : Numbered I),
        unit.iQueueVector[i]? = some lane ∧ x ∈ lane.q ∧ x.number = some n ∧
          (timestamp refer : Int) - unit.fsI.toInt < timestamp x := by
  obtain ⟨i, x, hx, hnumber⟩ := mem_numbers.mp hn
  obtain ⟨lane, hlane, hmem, hin⟩ :=
    mem_of_firstInWindow ((slot_of_taken ht.lanes_length htaken hnumber).mp hx)
  unfold DataUnit.InWindow at hin
  refine ⟨fun j other hother y hy hsame => ?_, i, lane, x, hlane, hmem, hnumber, by omega⟩
  obtain ⟨-, rfl⟩ := ht.distinct i j lane other hlane hother x hmem y hy
    (hnumber.trans hsame.symm)
  omega

/-- A successful call keeps `Spaced`. -/
theorem Spaced.take (h : Spaced unit calls) (ht : Tracks unit pushed past)
    (hcalls : ∀ call ∈ calls, call ∈ past) {refer : Numbered I} {after : DataUnit (Numbered I) O}
    (hlate : ¬ unit.TooEarly refer)
    (htaken : DataUnit.Taken unit (timestamp refer) unit.iQueueVector.length after) :
    Spaced after (calls ++ usedBy [numbers after]) := by
  have hlanes {n : Nat} {t : Int} (hbefore : Before unit n t) : Before after n t := by
    unfold Before
    rw [htaken.lanes_eq]
    exact hbefore
  -- what was taken before is in front of the new reference
  have hpos (call : List Nat) (hcall : call ∈ calls) (n : Nat) (hn : n ∈ call) :
      0 < unit.fsI.toInt := (ht.spent call (hcalls call hcall) n hn).2.1
  have hold (call : List Nat) (hcall : call ∈ calls) (n : Nat) (hn : n ∈ call) :
      Before after n (timestamp refer) := by
    have hadvance := DataUnit.store_add_le ht.store_lt hlate (hpos call hcall n hn).le
    exact hlanes ((h.recent call hcall n hn).mono hadvance)
  have hrecent (call : List Nat) (hcall : call ∈ calls) (n : Nat) (hn : n ∈ call) :
      Before after n (timestamp refer + unit.fsI.toInt) := by
    have hfs := hpos call hcall n hn
    exact (hold call hcall n hn).mono (by omega)
  by_cases hnone : numbers after = []
  · have hsame : calls ++ usedBy [numbers after] = calls := by simp [usedBy, hnone]
    rw [hsame]
    refine ⟨h.shares, ?_, fun call hcall n hn => ?_⟩
    · rw [htaken.store_eq, htaken.fsI_eq]
      exact hrecent
    · rw [htaken.store_eq]
      exact hold call ((List.dropLast_sublist calls).subset hcall) n hn
  · have hone : usedBy [numbers after] = [numbers after] := by simp [usedBy, hnone]
    rw [hone]
    refine ⟨h.shares.append fun call hcall n hn hnew => ?_, fun call hcall n hn => ?_, ?_⟩
    · obtain ⟨-, i, lane, x, hlane, hx, hnumber, hlow⟩ := ht.window htaken hnew
      have hearlier := h.earlier call hcall n hn i lane hlane x hx hnumber
      have hfs := hpos call ((List.dropLast_sublist calls).subset hcall) n hn
      have hadvance := DataUnit.store_add_le ht.store_lt hlate hfs.le
      omega
    · rw [htaken.store_eq, htaken.fsI_eq]
      rcases List.mem_append.mp hcall with hpast | hlast
      · exact hrecent call hpast n hn
      · rw [List.mem_singleton.mp hlast] at hn
        exact hlanes (ht.window htaken hn).1
    · rw [List.dropLast_concat, htaken.store_eq]
      exact hold

/-- A call of `FindOneFrame` keeps `Spaced`. -/
theorem Spaced.findOneFrame (h : Spaced unit calls) (ht : Tracks unit pushed past)
    (hcalls : ∀ call ∈ calls, call ∈ past) (offset : Int) :
    Spaced (unit.findOneFrame offset).1
      (calls ++
        usedBy [taken (unit.findOneFrame offset).1 (some (unit.findOneFrame offset).2)]) := by
  rcases unit.findOneFrame_cases offset with
    ⟨refer, -, hlate, hcall⟩ | ⟨-, hret, hlanes, -, hstore, hfs, -⟩
  · have htaken := DataUnit.takeLanes_spec unit refer unit.iQueueVector.length
    simp only [hcall, taken, if_true]
    exact h.take ht hcalls hlate htaken
  · have hnothing : calls ++
        usedBy [taken (unit.findOneFrame offset).1 (some (unit.findOneFrame offset).2)] =
          calls := by
      simp [taken, hret, usedBy]
    rw [hnothing]
    exact h.congr hlanes hstore hfs

/-- A step keeps `Spaced`. -/
theorem Spaced.step {s : Search I O} (h : Spaced s.unit calls) (ht : Tracks s.unit s.pushed past)
    (hcalls : ∀ call ∈ calls, call ∈ past) (input : Input I) :
    Spaced (step s input).1.unit (calls ++ usedBy [(step s input).2]) := by
  have hnothing : calls ++ usedBy [[]] = calls := List.append_nil calls
  cases input with
  | push frame index =>
      simp only [Search.step, hnothing]
      exact h.push (fun call hcall n hn => (ht.spent call (hcalls call hcall) n hn).1) frame index
  | findOneFrame offset => exact h.findOneFrame ht hcalls offset
  | runTask offset =>
      simp only [Search.step, DataUnit.runTask]
      by_cases hrun : s.unit.cache ≤ s.unit.longestLane.1
      · simp only [hrun, if_true]
        have hselect : Spaced s.unit.selectLane calls ∧ Tracks s.unit.selectLane s.pushed past := by
          unfold DataUnit.selectLane
          split
          · exact ⟨h.congr rfl rfl rfl, ht.congr rfl rfl rfl rfl rfl⟩
          · exact ⟨h, ht⟩
        exact hselect.1.findOneFrame hselect.2 hcalls offset
      · have hempty : taken s.unit none = [] := rfl
        simp only [hrun, if_false, hempty, hnothing]
        exact h

/-- The invariant of a run. -/
def Follows (s : Search I O) (es : List (List Nat)) : Prop :=
  Tracks s.unit s.pushed es ∧ Spaced s.unit (usedBy es)

/-- Every step keeps the invariant. -/
theorem Follows.step {s : Search I O} {es : List (List Nat)} (h : Follows s es)
    (input : Input I) : Follows (step s input).1 (es ++ [(step s input).2]) := by
  refine ⟨(h.1.step input).1, ?_⟩
  rw [show usedBy (es ++ [(Search.step s input).2]) = _ from List.filter_append _ _]
  exact h.2.step h.1 (fun call hcall => (List.mem_filter.mp hcall).1) input

/-- In every run, two calls that take the same frame are neighbours among the calls that take
frames. So no frame is taken by more than two calls. -/
theorem used_nearby (c : Nat) (fs : Int32) (i_num : Nat) (cache : Int) (intervalTask : Int32)
    (inputs : List (Input I)) :
    SharesNextOnly (usedBy (outputs step (start (O := O) c fs i_num cache intervalTask) inputs)) ∧
      ∀ n, (usedBy (outputs step (start (O := O) c fs i_num cache intervalTask) inputs)).countP
        (n ∈ ·) ≤ 2 := by
  let fits : Search I O → List (Input I) → List (List Nat) → Prop := fun s _ es => Follows s es
  have hstart : Follows (start (I := I) (O := O) c fs i_num cache intervalTask) [] :=
    ⟨tracks_start c fs i_num cache intervalTask, SharesNextOnly.nil, nofun, nofun⟩
  have hfits : fits (final step (start c fs i_num cache intervalTask) inputs) ([] ++ inputs)
      ([] ++ outputs step (start c fs i_num cache intervalTask) inputs) :=
    final_of_history (fun _ _ => True) (fun _ _ _ input h _ => h.step input) hstart
      (allowed_of_forall _ _ fun _ _ _ => trivial)
  have hshares := hfits.2.shares
  rw [List.nil_append] at hshares
  exact ⟨hshares, hshares.countP_le_two⟩

end RVDataFusionServer.Search
