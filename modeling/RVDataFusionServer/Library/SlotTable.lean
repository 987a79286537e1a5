import RVDataFusionServer.Library.Execution

/-!
# Tables of slots

A table of slots, some of which are free. `claim` finds the slot of a key, or gives it the first
free one. `Records` says that a table is what a list of claims has left, and `Records.run` that
every run of claims keeps it. What the next claim returns is read off from it: the slot that the key
was given before (`Records.claim_of_mem`), a slot that no other key was given
(`Records.claim_ne_of_mem`), or none if other keys have them all (`Records.claim_eq_none_iff`).
-/

namespace Library.SlotTable

open Execution

variable {κ : Type*} [DecidableEq κ] {free key : κ} {table : List κ} {size i : Nat}
  {calls : List (κ × Option Nat)}

/-- The slot of a key, or else the first free slot, which the key gets. -/
def claim (free : κ) (table : List κ) (key : κ) : List κ × Option Nat :=
  match table.findIdx? (· = key) with
  | some i => (table, some i)
  | none =>
      match table.findIdx? (· = free) with
      | some i => (table.set i key, some i)
      | none => (table, none)

/-- A claim finds its key, or takes a free slot, or finds neither. -/
theorem claim_cases (free : κ) (table : List κ) (key : κ) :
    (∃ i, table[i]? = some key ∧ claim free table key = (table, some i)) ∨
      (key ∉ table ∧ ∃ i, table[i]? = some free ∧
        claim free table key = (table.set i key, some i)) ∨
      (key ∉ table ∧ free ∉ table ∧ claim free table key = (table, none)) := by
  unfold claim
  cases hkey : table.findIdx? (· = key) with
  | some i =>
      obtain ⟨hlt, heq, -⟩ := List.findIdx?_eq_some_iff_getElem.mp hkey
      refine .inl ⟨i, ?_, rfl⟩
      rw [List.getElem?_eq_getElem hlt, of_decide_eq_true heq]
  | none =>
      have habsent : key ∉ table := fun hmem => by
        simpa using List.findIdx?_eq_none_iff.mp hkey key hmem
      cases hfree : table.findIdx? (· = free) with
      | some i =>
          obtain ⟨hlt, heq, -⟩ := List.findIdx?_eq_some_iff_getElem.mp hfree
          refine .inr (.inl ⟨habsent, i, ?_, rfl⟩)
          rw [List.getElem?_eq_getElem hlt, of_decide_eq_true heq]
      | none =>
          refine .inr (.inr ⟨habsent, fun hmem => ?_, rfl⟩)
          simpa using List.findIdx?_eq_none_iff.mp hfree free hmem

/-- The table of `size` slots that a list of claims has left, each with its key and its slot: a slot
has the key that was given it, and no key has two of them. -/
structure Records (free : κ) (size : Nat) (calls : List (κ × Option Nat)) (table : List κ) :
    Prop where
  length_eq : table.length = size
  key_ne : ∀ call ∈ calls, call.1 ≠ free
  slot_iff : ∀ (i : Nat) (key : κ), key ≠ free →
    (table[i]? = some key ↔ (key, some i) ∈ calls)
  slot_inj : ∀ (i j : Nat) (key : κ), key ≠ free → table[i]? = some key →
    table[j]? = some key → i = j

omit [DecidableEq κ] in
/-- At the start all slots are free. -/
theorem records_replicate (free : κ) (size : Nat) :
    Records free size [] (List.replicate size free) := by
  have hfree : ∀ (i : Nat) (key : κ), key ≠ free →
      (List.replicate size free)[i]? ≠ some key := by
    intro i key hkey hslot
    exact hkey (List.eq_of_mem_replicate (List.mem_of_getElem? hslot))
  refine ⟨List.length_replicate, by simp, fun i key hkey => ?_, fun i j key hkey hi => ?_⟩
  · simp [hfree i key hkey]
  · exact absurd hi (hfree i key hkey)

/-- A claim keeps `Records`. -/
theorem Records.step (h : Records free size calls table) (hkey : key ≠ free) :
    Records free size (calls ++ [(key, (claim free table key).2)]) (claim free table key).1 := by
  have hkeys (result : Option Nat) : ∀ call ∈ calls ++ [(key, result)], call.1 ≠ free := by
    intro call hcall
    rcases List.mem_append.mp hcall with hold | hnew
    · exact h.key_ne call hold
    · rw [List.mem_singleton.mp hnew]
      exact hkey
  rcases claim_cases free table key with
    ⟨i, hslot, hclaim⟩ | ⟨habsent, i, hslot, hclaim⟩ | ⟨habsent, -, hclaim⟩
  · rw [hclaim]
    refine ⟨h.length_eq, hkeys _, fun j other hother => ?_, h.slot_inj⟩
    rw [h.slot_iff j other hother, List.mem_append, List.mem_singleton, Prod.mk.injEq,
      Option.some.injEq]
    refine ⟨.inl, ?_⟩
    rintro (hold | ⟨rfl, rfl⟩)
    · exact hold
    · exact (h.slot_iff _ _ hkey).mp hslot
  · rw [hclaim]
    have hlt := (List.getElem?_eq_some_iff.mp hslot).1
    have hlength : (table.set i key).length = size := by
      rw [List.length_set]
      exact h.length_eq
    -- the new slot holds the key, and the others are what they were
    have hset : ∀ (j : Nat) other, (table.set i key)[j]? = some other ↔
        (j = i ∧ other = key) ∨ (j ≠ i ∧ table[j]? = some other) := by
      intro j other
      by_cases hj : j = i
      · rw [hj, List.getElem?_set_self hlt, Option.some.injEq]
        simp [eq_comm]
      · rw [List.getElem?_set_ne (fun heq => hj heq.symm)]
        simp [hj]
    refine ⟨hlength, hkeys _, fun j other hother => ?_, fun j k other hother hj hk => ?_⟩
    · rw [hset, h.slot_iff j other hother, List.mem_append, List.mem_singleton, Prod.mk.injEq,
        Option.some.injEq]
      have htaken : (other, some j) ∈ calls → j ≠ i := by
        rintro hmem rfl
        have hheld := (h.slot_iff _ _ hother).mpr hmem
        rw [hslot, Option.some.injEq] at hheld
        exact hother hheld.symm
      constructor
      · rintro (⟨rfl, rfl⟩ | ⟨-, hold⟩)
        · exact .inr ⟨rfl, rfl⟩
        · exact .inl hold
      · rintro (hold | ⟨rfl, rfl⟩)
        · exact .inr ⟨htaken hold, hold⟩
        · exact .inl ⟨rfl, rfl⟩
    · rcases (hset j other).mp hj with ⟨rfl, rfl⟩ | ⟨-, hjold⟩
      · rcases (hset k other).mp hk with ⟨rfl, -⟩ | ⟨-, hkold⟩
        · rfl
        · exact absurd (List.mem_of_getElem? hkold) habsent
      · rcases (hset k other).mp hk with ⟨rfl, rfl⟩ | ⟨-, hkold⟩
        · exact absurd (List.mem_of_getElem? hjold) habsent
        · exact h.slot_inj j k other hother hjold hkold
  · rw [hclaim]
    refine ⟨h.length_eq, hkeys _, fun j other hother => ?_, h.slot_inj⟩
    rw [h.slot_iff j other hother]
    simp

/-- Every run of claims keeps `Records`. -/
theorem Records.run (h : Records free size calls table) (keys : List κ)
    (hkeys : ∀ key ∈ keys, key ≠ free) :
    Records free size (calls ++ keys.zip (outputs (claim free) table keys))
      (final (claim free) table keys) := by
  induction keys generalizing calls table with
  | nil => simpa using h
  | cons key rest ih =>
      have hrest := ih (h.step (hkeys key (by simp))) fun other hother =>
        hkeys other (by simp [hother])
      rw [List.append_assoc, List.singleton_append] at hrest
      exact hrest

/-- A key that was given a slot is given it again. -/
theorem Records.claim_of_mem (h : Records free size calls table) (hkey : key ≠ free)
    (hmem : (key, some i) ∈ calls) : (claim free table key).2 = some i := by
  have hheld := (h.slot_iff i key hkey).mpr hmem
  rcases claim_cases free table key with
    ⟨j, hslot, hclaim⟩ | ⟨habsent, -⟩ | ⟨habsent, -⟩
  · rw [hclaim, h.slot_inj i j key hkey hheld hslot]
  · exact absurd (List.mem_of_getElem? hheld) habsent
  · exact absurd (List.mem_of_getElem? hheld) habsent

/-- A slot that was given to another key is not given. -/
theorem Records.claim_ne_of_mem (h : Records free size calls table) {other : κ}
    (hne : other ≠ key) (hmem : (other, some i) ∈ calls) : (claim free table key).2 ≠ some i := by
  have hfree := h.key_ne _ hmem
  have hheld := (h.slot_iff i other hfree).mpr hmem
  intro hresult
  rcases claim_cases free table key with
    ⟨j, hslot, hclaim⟩ | ⟨-, j, hslot, hclaim⟩ | ⟨-, -, hclaim⟩
  · rw [hclaim, Option.some.injEq] at hresult
    rw [hresult, hheld, Option.some.injEq] at hslot
    exact hne hslot
  · rw [hclaim, Option.some.injEq] at hresult
    rw [hresult, hheld, Option.some.injEq] at hslot
    exact hfree hslot
  · rw [hclaim] at hresult
    cases hresult

/-- A slot that is given is a slot of the table. -/
theorem Records.claim_lt (h : Records free size calls table)
    (hresult : (claim free table key).2 = some i) : i < size := by
  rw [← h.length_eq]
  rcases claim_cases free table key with
    ⟨j, hslot, hclaim⟩ | ⟨-, j, hslot, hclaim⟩ | ⟨-, -, hclaim⟩
  · rw [hclaim, Option.some.injEq] at hresult
    rw [← hresult]
    exact (List.getElem?_eq_some_iff.mp hslot).1
  · rw [hclaim, Option.some.injEq] at hresult
    rw [← hresult]
    exact (List.getElem?_eq_some_iff.mp hslot).1
  · rw [hclaim] at hresult
    cases hresult

/-- No slot is given exactly if the key was given none and other keys have all of them. -/
theorem Records.claim_eq_none_iff (h : Records free size calls table) (hkey : key ≠ free) :
    (claim free table key).2 = none ↔
      (∀ i, (key, some i) ∉ calls) ∧
        ∀ i < size, ∃ other, other ≠ key ∧ (other, some i) ∈ calls := by
  constructor
  · intro hnone
    have hgiven : ∀ i, (key, some i) ∉ calls := by
      intro i hmem
      rw [h.claim_of_mem hkey hmem] at hnone
      cases hnone
    refine ⟨hgiven, fun i hi => ?_⟩
    rw [← h.length_eq] at hi
    have hslot := List.getElem?_eq_getElem hi
    have hheld : table[i] ≠ free := by
      rintro heq
      rcases claim_cases free table key with
        ⟨j, -, hclaim⟩ | ⟨-, j, -, hclaim⟩ | ⟨-, hfull, -⟩
      · rw [hclaim] at hnone
        cases hnone
      · rw [hclaim] at hnone
        cases hnone
      · exact hfull (heq ▸ List.getElem_mem hi)
    have hmem := (h.slot_iff i _ hheld).mp hslot
    exact ⟨table[i], fun heq => hgiven i (heq ▸ hmem), hmem⟩
  · rintro ⟨hgiven, htaken⟩
    rcases claim_cases free table key with
      ⟨i, hslot, -⟩ | ⟨-, i, hslot, -⟩ | ⟨-, -, hclaim⟩
    · exact absurd ((h.slot_iff i key hkey).mp hslot) (hgiven i)
    · have hi := (List.getElem?_eq_some_iff.mp hslot).1
      rw [h.length_eq] at hi
      obtain ⟨other, -, hmem⟩ := htaken i hi
      have hfree := h.key_ne _ hmem
      rw [(h.slot_iff i other hfree).mpr hmem, Option.some.injEq] at hslot
      exact absurd hslot hfree
    · rw [hclaim]

end Library.SlotTable
