import Mathlib.Data.List.Infix
import RVDataFusionServer.Library.Execution
import RVDataFusionServer.Library.Gaps

/-!
# The frame interval

`CacheTimestamp` (`proc.h`, `proc.cpp`) collects the timestamps of one index, starts again when
they do not increase, and sets the frame interval once when it has enough of them.
`interval_estimate` says what is stored in every state of a run, and what the interval is.
-/

namespace RVDataFusionServer

open Library Execution

/-- `CacheTimestamp`, without its lock and without `isStartTask`, which `update` does not use. -/
structure CacheTimestamp where
  dataTimestamps : List UInt64 := []
  dataIndex : Int32 := -1
  interval : UInt64 := 0
  isSetInterval : Bool := false
  deriving DecidableEq, Repr

namespace CacheTimestamp

/-- The first half of `update`: the timestamp is stored, or everything that is stored is thrown
away, the timestamp included. -/
def insert (ct : CacheTimestamp) (index : Int32) (timestamp : UInt64) : CacheTimestamp :=
  if ct.dataIndex = -1 then { ct with dataIndex := index, dataTimestamps := [timestamp] }
  else if ct.dataIndex = index then
    match ct.dataTimestamps.getLast? with
    | none => { ct with dataTimestamps := ct.dataTimestamps ++ [timestamp] }
    | some back =>
        if timestamp ≤ back then { ct with dataTimestamps := [], dataIndex := -1 }
        else { ct with dataTimestamps := ct.dataTimestamps ++ [timestamp] }
  else ct

/-- The second half of `update`: the interval is set when there are `caches` timestamps. -/
def setInterval (ct : CacheTimestamp) (caches : Int32) : CacheTimestamp :=
  if (ct.dataTimestamps.length : Int) = caches.toInt then
    let intervals := gaps ct.dataTimestamps
    let sum := intervals.foldl (· + ·) 0
    { ct with interval := sum / UInt64.ofNat intervals.length, isSetInterval := true }
  else ct

/-- `CacheTimestamp::update`. -/
def update (ct : CacheTimestamp) (index : Int32) (timestamp : UInt64) (caches : Int32) :
    CacheTimestamp :=
  if ct.isSetInterval then ct else (ct.insert index timestamp).setInterval caches

/-- The arguments of a call of `update` but for `caches`. -/
structure Call where
  index : Int32
  timestamp : UInt64
  deriving DecidableEq, Repr

/-- A call of `update`. -/
def step (caches : Int32) (ct : CacheTimestamp) (call : Call) : CacheTimestamp × Unit :=
  (ct.update call.index call.timestamp caches, ())

/-- The timestamps of the calls for one index. -/
def timestampsOf (index : Int32) (calls : List Call) : List UInt64 :=
  (calls.filter fun call => call.index = index).map Call.timestamp

/-- The stored timestamps are the last ones of their index, and they increase. -/
structure Stored (calls : List Call) (ct : CacheTimestamp) : Prop where
  suffix_of : ct.dataTimestamps <:+ timestampsOf ct.dataIndex calls
  increasing : ct.dataTimestamps.Pairwise (· < ·)

/-- The interval is the mean of the gaps of `caches` stored timestamps. -/
structure Estimated (caches : Int32) (ct : CacheTimestamp) : Prop where
  full : (ct.dataTimestamps.length : Int) = caches.toInt
  mean : ∃ first last, ct.dataTimestamps.head? = some first ∧
    ct.dataTimestamps.getLast? = some last ∧
    (ct.interval.toNat : Int) = ((last.toNat : Int) - first.toNat) / (caches.toInt - 1)
  pos : 1 ≤ ct.interval.toNat
  between : ∃ low high, (gaps (ct.dataTimestamps.map UInt64.toNat)).min? = some low ∧
    (gaps (ct.dataTimestamps.map UInt64.toNat)).max? = some high ∧
    low ≤ ct.interval.toNat ∧ ct.interval.toNat ≤ high

/-- What a run has stored: before the interval is set there is room for more. -/
structure Sampling (caches : Int32) (calls : List Call) (ct : CacheTimestamp) : Prop where
  of_index : ct.dataTimestamps <:+: timestampsOf ct.dataIndex calls
  increasing : ct.dataTimestamps.Pairwise (· < ·)
  pending : ct.isSetInterval = false →
    Stored calls ct ∧ (ct.dataTimestamps.length : Int) < caches.toInt

variable {ct : CacheTimestamp} {caches : Int32} {calls : List Call} {call : Call}

/-- A call adds its timestamp to those of its index. -/
theorem timestampsOf_append (index : Int32) (calls : List Call) (call : Call) :
    timestampsOf index (calls ++ [call]) =
      timestampsOf index calls ++ if call.index = index then [call.timestamp] else [] := by
  unfold timestampsOf
  rw [List.filter_append, List.map_append]
  by_cases h : call.index = index <;> simp [h]

/-- The first half of a call leaves the flag alone. -/
theorem insert_isSetInterval (ct : CacheTimestamp) (index : Int32) (timestamp : UInt64) :
    (ct.insert index timestamp).isSetInterval = ct.isSetInterval := by
  unfold CacheTimestamp.insert
  split
  · rfl
  · split
    · split
      · rfl
      · split <;> rfl
    · rfl

/-- A timestamp behind those of its index, and later than them, can be stored. -/
theorem Stored.push (h : Stored calls ct) (hindex : call.index = ct.dataIndex)
    (hlater : ∀ back, ct.dataTimestamps.getLast? = some back → back < call.timestamp) :
    Stored (calls ++ [call])
      { ct with dataTimestamps := ct.dataTimestamps ++ [call.timestamp] } := by
  refine ⟨?_, ?_⟩
  · rw [timestampsOf_append, if_pos hindex]
    exact List.suffix_append_self_iff.mpr h.suffix_of
  · cases hlast : ct.dataTimestamps.getLast? with
    | none =>
        rw [List.getLast?_eq_none_iff.mp hlast]
        exact List.pairwise_singleton _ _
    | some back =>
        obtain ⟨front, hfront⟩ := List.getLast?_eq_some_iff.mp hlast
        have hback := hlater back hlast
        have hsorted := h.increasing
        rw [hfront, List.pairwise_append] at hsorted
        refine List.pairwise_append.mpr ⟨h.increasing, List.pairwise_singleton _ _, ?_⟩
        intro x hx y hy
        rw [List.mem_singleton.mp hy]
        rw [hfront, List.mem_append, List.mem_singleton] at hx
        rcases hx with hx | rfl
        · exact UInt64.lt_trans (hsorted.2.2 x hx back (by simp)) hback
        · exact hback

/-- The first half of a call keeps what is stored the last timestamps of one index, and adds at
most one of them. -/
theorem Stored.insert (h : Stored calls ct) (call : Call) :
    Stored (calls ++ [call]) (ct.insert call.index call.timestamp) ∧
      (ct.insert call.index call.timestamp).dataTimestamps.length ≤
        ct.dataTimestamps.length + 1 := by
  unfold CacheTimestamp.insert
  by_cases hfree : ct.dataIndex = -1
  · rw [if_pos hfree]
    refine ⟨⟨?_, List.pairwise_singleton _ _⟩, by simp⟩
    rw [timestampsOf_append, if_pos rfl]
    exact List.suffix_append _ _
  · rw [if_neg hfree]
    by_cases hindex : ct.dataIndex = call.index
    · rw [if_pos hindex]
      cases hlast : ct.dataTimestamps.getLast? with
      | none => exact ⟨h.push hindex.symm (by simp [hlast]), by simp⟩
      | some back =>
          dsimp only
          split_ifs with hearly
          · exact ⟨⟨List.nil_suffix, List.Pairwise.nil⟩, by simp⟩
          · refine ⟨h.push hindex.symm fun other hother => ?_, by simp⟩
            rw [hlast, Option.some.injEq] at hother
            rw [← hother]
            exact UInt64.not_le.mp hearly
    · rw [if_neg hindex]
      refine ⟨⟨?_, h.increasing⟩, by simp⟩
      rw [timestampsOf_append, if_neg (fun heq => hindex heq.symm), List.append_nil]
      exact h.suffix_of

/-- The loop that adds up the gaps, as a sum of numbers. -/
theorem toNat_foldl_add (xs : List UInt64) (acc : UInt64)
    (h : acc.toNat + (xs.map UInt64.toNat).sum < 2 ^ 64) :
    (xs.foldl (· + ·) acc).toNat = acc.toNat + (xs.map UInt64.toNat).sum := by
  induction xs generalizing acc with
  | nil => simp
  | cons x xs ih =>
      rw [List.map_cons, List.sum_cons] at h ⊢
      have hadd : (acc + x).toNat = acc.toNat + x.toNat := by
        rw [UInt64.toNat_add, Nat.mod_eq_of_lt (by omega)]
      rw [List.foldl_cons, ih _ (by omega), hadd]
      omega

/-- The gaps of increasing timestamps are those of the numbers. -/
theorem map_toNat_gaps (xs : List UInt64) (h : xs.Pairwise (· < ·)) :
    (gaps xs).map UInt64.toNat = gaps (xs.map UInt64.toNat) := by
  induction xs with
  | nil => rfl
  | cons first rest ih =>
      cases rest with
      | nil => rfl
      | cons second rest =>
          obtain ⟨hfirst, hrest⟩ := List.pairwise_cons.mp h
          have hlt : first < second := hfirst second (by simp)
          have hsub := UInt64.toNat_sub_of_le second first (UInt64.le_of_lt hlt)
          rw [gaps_cons_cons, List.map_cons, ih hrest, hsub]
          rfl

/-- The mean of the gaps of increasing timestamps, computed with numbers of 64 bits. -/
theorem toNat_mean (first : UInt64) (rest : List UInt64)
    (hsorted : (first :: rest).Pairwise (· < ·)) (hlength : rest.length < 2 ^ 64) :
    ((gaps (first :: rest)).foldl (· + ·) 0 / UInt64.ofNat (gaps (first :: rest)).length).toNat =
      (gaps ((first :: rest).map UInt64.toNat)).sum / rest.length := by
  have hnumbers : ((first :: rest).map UInt64.toNat).Pairwise (· < ·) :=
    List.pairwise_map.mpr (hsorted.imp fun hlt => UInt64.lt_iff_toNat_lt.mp hlt)
  -- the gaps add up to at most the last timestamp
  have hsum := sum_gaps first.toNat (rest.map UInt64.toNat) hnumbers
  rw [List.getLastD_eq_getLast?, List.getLast?_map] at hsum
  have hlast : ((rest.getLast?.map UInt64.toNat).getD first.toNat) < 2 ^ 64 := by
    cases rest.getLast? with
    | none => exact first.toNat_lt
    | some last => exact last.toNat_lt
  have hfold := toNat_foldl_add (gaps (first :: rest)) 0 (by
    rw [map_toNat_gaps _ hsorted, List.map_cons, UInt64.toNat_zero]
    omega)
  rw [map_toNat_gaps _ hsorted, UInt64.toNat_zero, Nat.zero_add] at hfold
  have hcount : (UInt64.ofNat rest.length).toNat = rest.length :=
    UInt64.toNat_ofNat_of_lt' hlength
  rw [UInt64.toNat_div, hfold, length_gaps, List.length_cons, Nat.add_sub_cancel, hcount]

/-- Setting the interval makes it the mean of the gaps. -/
theorem Stored.estimated (h : Stored calls ct) (hcaches : 2 ≤ caches)
    (hfull : (ct.dataTimestamps.length : Int) = caches.toInt) :
    Estimated caches (ct.setInterval caches) := by
  have htwo : (2 : Int) ≤ caches.toInt := Int32.le_iff_toInt_le.mp hcaches
  have hbound := caches.toInt_lt
  obtain ⟨first, rest, hsplit⟩ :=
    List.exists_cons_of_length_pos (show 0 < ct.dataTimestamps.length by omega)
  have hcount : (rest.length : Int) = caches.toInt - 1 := by
    rw [hsplit, List.length_cons] at hfull
    omega
  have hsorted := h.increasing
  rw [hsplit] at hsorted
  have hnumbers : ((first :: rest).map UInt64.toNat).Pairwise (· < ·) :=
    List.pairwise_map.mpr (hsorted.imp fun hlt => UInt64.lt_iff_toNat_lt.mp hlt)
  have hinterval : (ct.setInterval caches).interval.toNat =
      (gaps ((first :: rest).map UInt64.toNat)).sum / rest.length := by
    rw [setInterval, if_pos hfull, hsplit]
    exact toNat_mean first rest hsorted (by omega)
  have hstored : (ct.setInterval caches).dataTimestamps = first :: rest := by
    rw [setInterval, if_pos hfull, hsplit]
  have hgaps : (gaps ((first :: rest).map UInt64.toNat)).length = rest.length := by simp
  have hne : gaps ((first :: rest).map UInt64.toNat) ≠ [] := by
    rw [← List.length_pos_iff, hgaps]
    omega
  refine ⟨by rw [hstored, ← hsplit]; exact hfull, ?_, ?_, ?_⟩
  · refine ⟨first, rest.getLast?.getD first, by rw [hstored]; rfl, by
      rw [hstored, List.getLast?_cons], ?_⟩
    have hsum := sum_gaps first.toNat (rest.map UInt64.toNat) hnumbers
    rw [List.getLastD_eq_getLast?, List.getLast?_map, Option.getD_map] at hsum
    rw [hinterval, ← hcount, List.map_cons, ← hsum]
    push_cast
    congr 1
    omega
  · rw [hinterval, ← hgaps]
    exact le_mean hne fun gap hgap => pos_of_mem_gaps _ hnumbers gap hgap
  · rw [hstored, hinterval, ← hgaps]
    exact mean_between hne

/-- A call keeps `Sampling`, and the interval that it sets is the mean of the gaps. -/
theorem Sampling.update (h : Sampling caches calls ct) (hcaches : 2 ≤ caches) (call : Call) :
    Sampling caches (calls ++ [call]) (ct.update call.index call.timestamp caches) ∧
      (ct.isSetInterval = false →
        (ct.update call.index call.timestamp caches).isSetInterval = true →
          Estimated caches (ct.update call.index call.timestamp caches)) := by
  unfold CacheTimestamp.update
  by_cases hset : ct.isSetInterval = true
  · rw [if_pos hset]
    refine ⟨⟨?_, h.increasing, by simp [hset]⟩, by simp [hset]⟩
    rw [timestampsOf_append]
    exact h.of_index.trans (List.prefix_append _ _).isInfix
  · rw [if_neg hset]
    obtain ⟨hstored, hroom⟩ := h.pending (by simpa using hset)
    obtain ⟨hinserted, hlength⟩ := hstored.insert call
    set inserted := ct.insert call.index call.timestamp with hinsert
    have hunset : inserted.isSetInterval = false := by
      rw [hinsert, insert_isSetInterval]
      simpa using hset
    by_cases hfull : (inserted.dataTimestamps.length : Int) = caches.toInt
    · have hestimated := hinserted.estimated hcaches hfull
      have hafter : inserted.setInterval caches = { inserted with
          interval := (inserted.setInterval caches).interval, isSetInterval := true } := by
        rw [setInterval, if_pos hfull]
      refine ⟨⟨?_, ?_, ?_⟩, fun _ _ => hestimated⟩
      · rw [hafter]
        exact hinserted.suffix_of.isInfix
      · rw [hafter]
        exact hinserted.increasing
      · rw [hafter]
        simp
    · rw [setInterval, if_neg hfull]
      refine ⟨⟨hinserted.suffix_of.isInfix, hinserted.increasing, fun _ => ⟨hinserted, ?_⟩⟩, ?_⟩
      · omega
      · simp [hunset]

/-- Nothing is stored at the start. -/
theorem sampling_start (hcaches : 2 ≤ caches) : Sampling caches [] {} where
  of_index := List.nil_infix
  increasing := List.Pairwise.nil
  pending _ := by
    have htwo : (2 : Int) ≤ caches.toInt := Int32.le_iff_toInt_le.mp hcaches
    exact ⟨⟨List.nil_suffix, List.Pairwise.nil⟩, by simp; omega⟩

/-- Every run keeps `Sampling`. -/
theorem Sampling.run (h : Sampling caches calls ct) (hcaches : 2 ≤ caches) (rest : List Call) :
    Sampling caches (calls ++ rest) (final (step caches) ct rest) := by
  induction rest generalizing calls ct with
  | nil => simpa using h
  | cons call rest ih =>
      have hnext := ih (h.update hcaches call).1
      rw [List.append_assoc, List.singleton_append] at hnext
      exact hnext

/-- No call changes an interval that is set. -/
theorem final_of_isSetInterval (hset : ct.isSetInterval = true) (rest : List Call) :
    final (step caches) ct rest = ct := by
  induction rest with
  | nil => rfl
  | cons call rest ih =>
      have hsame : (step caches ct call).1 = ct := by
        rw [step, CacheTimestamp.update, if_pos hset]
      rw [final_cons, hsame, ih]

/-- In every run of calls, for any indices and timestamps, the stored timestamps are consecutive
timestamps of one index and increase, the interval is the mean of their gaps when it is set, and no
later call changes it. -/
theorem interval_estimate (caches : Int32) (hcaches : 2 ≤ caches) (calls : List Call) :
    let ct := final (step caches) {} calls
    (∃ index, ct.dataTimestamps <:+: timestampsOf index calls) ∧
      ct.dataTimestamps.Pairwise (· < ·) ∧
      (∀ call : Call, ct.isSetInterval = false →
        (ct.update call.index call.timestamp caches).isSetInterval = true →
          Estimated caches (ct.update call.index call.timestamp caches)) ∧
      (ct.isSetInterval = true → ∀ later,
        (final (step caches) ct later).interval = ct.interval) := by
  have hsampling := (sampling_start hcaches).run hcaches calls
  rw [List.nil_append] at hsampling
  refine ⟨⟨_, hsampling.of_index⟩, hsampling.increasing, fun call => ?_, fun hset later => ?_⟩
  · exact (hsampling.update hcaches call).2
  · rw [final_of_isSetInterval hset]

/-- The third timestamp of index 1 sets the interval of a cache of three, whatever comes from other
indices in between. -/
theorem interval_estimate_three :
    Estimated 3 ((final (step 3) {} [⟨1, 1000⟩, ⟨1, 1080⟩, ⟨2, 5⟩]).update 1 1170 3) :=
  (interval_estimate 3 (by decide) [⟨1, 1000⟩, ⟨1, 1080⟩, ⟨2, 5⟩]).2.2.1 ⟨1, 1170⟩
    (by decide) (by decide)

example : (final (step 3) {} [⟨1, 1000⟩, ⟨1, 1080⟩, ⟨2, 5⟩, ⟨1, 1170⟩]).interval = 85 := by
  decide +kernel

end CacheTimestamp

end RVDataFusionServer
