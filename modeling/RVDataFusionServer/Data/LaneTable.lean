import RVDataFusionServer.Data.DataUnit
import RVDataFusionServer.Library.SlotTable

/-!
# The lanes of the devices

`FindIndexInUnOrder` keeps the table from lanes to device codes: it is a table of slots in which the
empty string is free. `laneCall_spec` says what a call returns after any calls since the last
initialisation: codes keep their lanes, share none, and get none only when all are taken.
-/

namespace RVDataFusionServer

open Library Execution

namespace DataUnit

variable {I O : Type}

/-- The return value of `FindIndexInUnOrder` for a slot, or for none. -/
def laneIndex : Option Nat → Int
  | some i => i
  | none => -1

/-- Different slots are different return values. -/
theorem laneIndex_inj {a b : Option Nat} : laneIndex a = laneIndex b ↔ a = b := by
  cases a <;> cases b <;> simp [laneIndex]

/-- `FindIndexInUnOrder` claims a slot of the table `unOrder` for the code. -/
theorem findIndexInUnOrder_eq (unit : DataUnit I O) (code : String) :
    unit.findIndexInUnOrder code =
      ({ unit with unOrder := (SlotTable.claim "" unit.unOrder code).1 },
        laneIndex (SlotTable.claim "" unit.unOrder code).2) := by
  unfold findIndexInUnOrder SlotTable.claim
  cases unit.unOrder.findIdx? (· = code) with
  | some i => rfl
  | none =>
      cases unit.unOrder.findIdx? (· = "") with
      | some i => rfl
      | none => rfl

/-- What a call of `FindIndexInUnOrder` returns after the calls `past`, for a data unit with `numI`
lanes. A call is a code with the index that was returned. -/
structure LaneCall (numI : Nat) (past : List (String × Int)) (code : String) (index : Int) :
    Prop where
  stable : ∀ found, (code, found) ∈ past → found ≠ -1 → index = found
  injective : ∀ other found, other ≠ code → (other, found) ∈ past → found ≠ -1 → index ≠ found
  bound : index ≠ -1 → 0 ≤ index ∧ index < numI
  none_iff : index = -1 ↔ (∀ found, (code, found) ∈ past → found = -1) ∧
    ∀ lane : Nat, lane < numI → ∃ other, other ≠ code ∧ (other, (lane : Int)) ∈ past

/-- A slot that was given is an index that was returned. -/
theorem mem_zip_map_laneIndex {codes : List String} {slots : List (Option Nat)} {code : String}
    {found : Int} :
    (code, found) ∈ codes.zip (slots.map laneIndex) ↔
      ∃ slot, laneIndex slot = found ∧ (code, slot) ∈ codes.zip slots := by
  rw [List.zip_map_right, List.mem_map]
  constructor
  · rintro ⟨⟨other, slot⟩, hmem, heq⟩
    obtain ⟨rfl, rfl⟩ := Prod.mk.inj heq
    exact ⟨slot, rfl, hmem⟩
  · rintro ⟨slot, rfl, hmem⟩
    exact ⟨(code, slot), hmem, rfl⟩

/-- After any calls since an initialisation, a call returns the lane that its code already has, or a
lane that no code has, or -1 if other codes have them all. -/
theorem laneCall_spec [Inhabited I] (unit : DataUnit I O) (c i_num : Nat) (codes : List String)
    (hcodes : ∀ code ∈ codes, code ≠ "") (code : String) (hcode : code ≠ "") :
    LaneCall i_num (codes.zip (outputs findIndexInUnOrder (unit.setLanes c i_num) codes)) code
      ((final findIndexInUnOrder (unit.setLanes c i_num) codes).findIndexInUnOrder code).2 := by
  have hstep : ∀ (s : DataUnit I O) (a : String),
      (s.findIndexInUnOrder a).1.unOrder = (SlotTable.claim "" s.unOrder a).1 ∧
        (s.findIndexInUnOrder a).2 = laneIndex (SlotTable.claim "" s.unOrder a).2 := by
    intro s a
    rw [findIndexInUnOrder_eq]
    exact ⟨rfl, rfl⟩
  obtain ⟨hfinal, houtputs⟩ :=
    final_outputs_of_projection DataUnit.unOrder laneIndex hstep (unit.setLanes c i_num) codes
  have hrecords := (SlotTable.records_replicate "" i_num).run codes hcodes
  rw [List.nil_append] at hrecords
  rw [houtputs, findIndexInUnOrder_eq, hfinal]
  show LaneCall i_num (codes.zip ((outputs (SlotTable.claim "") (List.replicate i_num "")
    codes).map laneIndex)) code (laneIndex (SlotTable.claim "" (final (SlotTable.claim "")
      (List.replicate i_num "") codes) code).2)
  set slots := outputs (SlotTable.claim "") (List.replicate i_num "") codes
  set table := final (SlotTable.claim "") (List.replicate i_num "") codes
  refine ⟨fun found hmem hfound => ?_, fun other found hne hmem hfound => ?_, fun hindex => ?_, ?_⟩
  · obtain ⟨slot, rfl, hslot⟩ := mem_zip_map_laneIndex.mp hmem
    cases slot with
    | none => exact absurd rfl hfound
    | some i => rw [hrecords.claim_of_mem hcode hslot]
  · obtain ⟨slot, rfl, hslot⟩ := mem_zip_map_laneIndex.mp hmem
    cases slot with
    | none => exact absurd rfl hfound
    | some i => exact fun heq => hrecords.claim_ne_of_mem hne hslot (laneIndex_inj.mp heq)
  · cases hslot : (SlotTable.claim "" table code).2 with
    | none =>
        rw [hslot] at hindex
        exact absurd rfl hindex
    | some i =>
        have hlt := hrecords.claim_lt hslot
        exact ⟨Int.natCast_nonneg i, Int.ofNat_lt.mpr hlt⟩
  · rw [show (-1 : Int) = laneIndex none from rfl, laneIndex_inj, hrecords.claim_eq_none_iff hcode]
    refine and_congr ⟨fun hgiven found hmem => ?_, fun hgiven i hslot => ?_⟩
      (forall₂_congr fun lane _ => exists_congr fun other => and_congr_right fun _ => ?_)
    · obtain ⟨slot, rfl, hslot⟩ := mem_zip_map_laneIndex.mp hmem
      cases slot with
      | none => rfl
      | some i => exact absurd hslot (hgiven i)
    · have hnone := hgiven _ (mem_zip_map_laneIndex.mpr ⟨some i, rfl, hslot⟩)
      cases laneIndex_inj.mp hnone
    · refine ⟨fun hslot => mem_zip_map_laneIndex.mpr ⟨some lane, rfl, hslot⟩, fun hmem => ?_⟩
      obtain ⟨slot, heq, hslot⟩ := mem_zip_map_laneIndex.mp hmem
      rw [show (lane : Int) = laneIndex (some lane) from rfl, laneIndex_inj] at heq
      rw [← heq]
      exact hslot

/-- The third of three devices finds both lanes taken. -/
theorem laneCall_third :
    LaneCall 2 ((["A", "B"] : List String).zip
      (outputs findIndexInUnOrder (({} : DataUnit TrafficFlow Unit).setLanes 3 2) ["A", "B"])) "C"
        ((final findIndexInUnOrder (({} : DataUnit TrafficFlow Unit).setLanes 3 2)
          ["A", "B"]).findIndexInUnOrder "C").2 :=
  laneCall_spec {} 3 2 ["A", "B"] (by decide) "C" (by decide)

end DataUnit

end RVDataFusionServer
