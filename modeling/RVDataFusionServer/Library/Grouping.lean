import Mathlib.Algebra.BigOperators.Group.List.Basic
import Mathlib.Data.List.Basic
import Mathlib.Order.Bounds.Defs
import Mathlib.Order.MinMax

/-!
# Grouping by keys

A list is grouped by lists of keys: each group has its members, and the elements whose key stands in
no group are left over. If no key stands in two groups, then the members of all groups and the
elements that are left over are the list (`ungrouped_append_members_perm`), so that no weight is
lost or counted twice (`sum_ungrouped_add_sum_members`).
-/

namespace Library

variable {α κ M : Type*} [DecidableEq κ] {key : α → κ} {groups : List (List κ)} {xs : List α}

/-- The elements whose key stands in no group. -/
def ungrouped (key : α → κ) (groups : List (List κ)) (xs : List α) : List α :=
  xs.filter fun x => key x ∉ groups.flatten

/-- The elements whose key stands in the group. -/
def members (key : α → κ) (xs : List α) (group : List κ) : List α :=
  xs.filter fun x => key x ∈ group

/-- Taking out one group after the other leaves the same elements. -/
theorem ungrouped_cons (group : List κ) :
    ungrouped key (group :: groups) xs =
      ungrouped key groups (xs.filter fun x => ¬ key x ∈ group) := by
  unfold ungrouped
  rw [List.filter_filter]
  refine List.filter_congr fun x _ => ?_
  rw [Bool.eq_iff_iff, List.flatten_cons]
  simp only [decide_eq_true_eq, Bool.and_eq_true, List.mem_append, not_or, and_comm]

/-- A group that shares no key with another one keeps its members when those of the other one are
taken out. -/
theorem members_filter_of_disjoint {group other : List κ} (h : group.Disjoint other) :
    members key (xs.filter fun x => ¬ key x ∈ group) other = members key xs other := by
  unfold members
  rw [List.filter_filter]
  refine List.filter_congr fun x _ => ?_
  by_cases hother : key x ∈ other
  · have hgroup : key x ∉ group := fun hmem => h hmem hother
    simp [hother, hgroup]
  · simp [hother]

/-- Every element is left over or a member of one group. -/
theorem ungrouped_append_members_perm (key : α → κ) (hdisjoint : groups.Pairwise List.Disjoint)
    (xs : List α) :
    (ungrouped key groups xs ++ groups.flatMap (members key xs)).Perm xs := by
  induction groups generalizing xs with
  | nil => simp [ungrouped]
  | cons group groups ih =>
      obtain ⟨hgroup, hrest⟩ := List.pairwise_cons.mp hdisjoint
      set others := xs.filter fun x => ¬ key x ∈ group with hothers
      have hmembers : groups.flatMap (members key xs) = groups.flatMap (members key others) :=
        List.flatMap_congr fun other hother =>
          (members_filter_of_disjoint (hgroup other hother)).symm
      rw [ungrouped_cons, List.flatMap_cons, hmembers, ← List.append_assoc]
      have hswap : (ungrouped key groups others ++ members key xs group).Perm
          (members key xs group ++ ungrouped key groups others) := List.perm_append_comm
      refine (hswap.append_right _).trans ?_
      rw [List.append_assoc]
      refine ((ih hrest others).append_left _).trans ?_
      simpa [members, hothers] using List.filter_append_perm (fun x => key x ∈ group) xs

/-- The weight of a list is that of the groups and of the elements that are left over. -/
theorem sum_ungrouped_add_sum_members [AddCommMonoid M] (key : α → κ) (weight : α → M)
    (hdisjoint : groups.Pairwise List.Disjoint) (xs : List α) :
    ((ungrouped key groups xs).map weight).sum +
        (groups.map fun group => ((members key xs group).map weight).sum).sum =
      (xs.map weight).sum := by
  have hperm := (ungrouped_append_members_perm key hdisjoint xs).map weight
  rw [← hperm.sum_eq, List.map_append, List.sum_append, List.map_flatMap, List.flatMap_def,
    List.sum_flatten, List.map_map]
  rfl

/-- A running maximum is the greatest of the first value and the others. -/
theorem isGreatest_foldl_max [LinearOrder M] (a : M) (xs : List M) :
    IsGreatest { x | x ∈ a :: xs } (xs.foldl max a) := by
  have hmax : (a :: xs).max? = some (xs.foldl max a) := List.max?_cons'
  obtain ⟨hmem, hle⟩ := List.max?_eq_some_iff.mp hmax
  exact ⟨hmem, fun x hx => hle x hx⟩

end Library
