import Mathlib.Data.List.MinMax

/-!
# The maxima of groups

A list is grouped by a key, and every group keeps its elements of the greatest weight, in the order
of the list. No group is lost (`exists_mem_groupMaxima`), and one element is left of each exactly if
no greatest weight is attained twice (`nodup_map_groupMaxima_iff`).
-/

namespace Library

variable {α κ ω : Type*} [DecidableEq κ] [LinearOrder ω] {key : α → κ} {weight : α → ω}
  {xs : List α}

/-- No element with the key of `x` outweighs it. -/
def IsGroupMax (key : α → κ) (weight : α → ω) (xs : List α) (x : α) : Prop :=
  ∀ y ∈ xs, key x = key y → weight y ≤ weight x

instance (x : α) : Decidable (IsGroupMax key weight xs x) :=
  inferInstanceAs (Decidable (∀ y ∈ xs, key x = key y → weight y ≤ weight x))

/-- The elements that are not outweighed. -/
def groupMaxima (key : α → κ) (weight : α → ω) (xs : List α) : List α :=
  xs.filter fun x => IsGroupMax key weight xs x

/-- Two elements with one key and one weight are outweighed by a third one with that key. -/
def TiesBroken (key : α → κ) (weight : α → ω) (xs : List α) : Prop :=
  xs.Pairwise fun x y => key x = key y → weight x = weight y →
    ∃ z ∈ xs, key z = key x ∧ weight x < weight z

@[simp] theorem mem_groupMaxima {x : α} :
    x ∈ groupMaxima key weight xs ↔ x ∈ xs ∧ IsGroupMax key weight xs x := by
  simp [groupMaxima]

/-- The elements that are left stand in their old order. -/
theorem groupMaxima_sublist : (groupMaxima key weight xs).Sublist xs := List.filter_sublist

/-- Every group keeps an element. -/
theorem exists_mem_groupMaxima {x : α} (hx : x ∈ xs) :
    ∃ y ∈ groupMaxima key weight xs, key y = key x := by
  have hmem : x ∈ xs.filter fun y => key y = key x := by simpa using hx
  have hne : xs.filter (fun y => key y = key x) ≠ [] := List.ne_nil_of_mem hmem
  obtain ⟨y, hy⟩ : ∃ y, y ∈ (xs.filter fun y => key y = key x).argmax weight := by
    cases hmax : (xs.filter fun y => key y = key x).argmax weight with
    | none => exact absurd (List.argmax_eq_none.mp hmax) hne
    | some y => exact ⟨y, rfl⟩
  obtain ⟨hyxs, hykey⟩ := List.mem_filter.mp (List.argmax_mem hy)
  have hkey : key y = key x := of_decide_eq_true hykey
  refine ⟨y, mem_groupMaxima.mpr ⟨hyxs, fun z hz hzkey => ?_⟩, hkey⟩
  exact List.le_of_mem_argmax (List.mem_filter.mpr ⟨hz, by simp [← hzkey, hkey]⟩) hy

/-- One element is left of each group exactly if all ties are broken. -/
theorem nodup_map_groupMaxima_iff :
    ((groupMaxima key weight xs).map key).Nodup ↔ TiesBroken key weight xs := by
  unfold List.Nodup groupMaxima TiesBroken
  rw [List.pairwise_map, List.pairwise_filter]
  simp only [decide_eq_true_eq]
  constructor
  · intro h
    refine h.imp_of_mem fun {x y} _ _ hsingle hkey hweight => ?_
    by_contra hnone
    have hmax : IsGroupMax key weight xs x := by
      intro z hz hzkey
      by_contra hlt
      exact hnone ⟨z, hz, hzkey.symm, not_le.mp hlt⟩
    refine hsingle hmax (fun z hz hzkey => ?_) hkey
    rw [← hweight]
    exact hmax z hz (hkey.trans hzkey)
  · intro h
    refine h.imp_of_mem fun {x y} hx hy htie hxmax hymax hkey => ?_
    have hle : weight y ≤ weight x := hxmax y hy hkey
    have hge : weight x ≤ weight y := hymax x hx hkey.symm
    obtain ⟨z, hz, hzkey, hlt⟩ := htie hkey (le_antisymm hge hle)
    exact absurd (hxmax z hz hzkey.symm) (not_le.mpr hlt)

end Library
