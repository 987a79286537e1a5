import Mathlib.Data.List.Chain

/-!
# Erasing from a list while walking over it by index

A loop that erases the element at its index and then counts the index up steps over the element
behind the erased one. `eraseLoop_eq` gives the loop as a recursion over the list, and
`forall_skipErase_iff` when it leaves nothing behind that it should erase: no two such elements may
be adjacent. `skipErase_eq_append_iff` says when it erases one element alone.
-/

namespace Library

variable {α : Type} {bad : α → Bool}

/-- `for (..; i < items.size(); i++) if (bad(items[i])) items.erase(items.begin() + i);` -/
def eraseLoop (bad : α → Bool) (items : List α) (i : Nat) : List α :=
  if h : i < items.length then
    if bad (items.get ⟨i, h⟩) then eraseLoop bad (items.eraseIdx i) (i + 1)
    else eraseLoop bad items (i + 1)
  else items
termination_by items.length - i
decreasing_by
  · have hle := List.length_eraseIdx_le items i
    omega
  · omega

/-- What the loop leaves of a list. -/
def skipErase (bad : α → Bool) : List α → List α
  | [] => []
  | [a] => if bad a then [] else [a]
  | a :: b :: rest =>
      if bad a then b :: skipErase bad rest else a :: skipErase bad (b :: rest)

/-- A turn of the loop at an element. -/
theorem eraseLoop_turn (front : List α) (a : α) (rest : List α) :
    eraseLoop bad (front ++ a :: rest) front.length =
      if bad a then eraseLoop bad (front ++ rest) (front.length + 1)
      else eraseLoop bad (front ++ a :: rest) (front.length + 1) := by
  have hlt : front.length < (front ++ a :: rest).length := by
    rw [List.length_append, List.length_cons]
    omega
  have hget : (front ++ a :: rest).get ⟨front.length, hlt⟩ = a := by
    rw [List.get_eq_getElem, List.getElem_append_right (Nat.le_refl _)]
    simp
  have herase : (front ++ a :: rest).eraseIdx front.length = front ++ rest := by
    rw [List.eraseIdx_append_of_length_le (Nat.le_refl _), Nat.sub_self]
    rfl
  rw [eraseLoop, dif_pos hlt, hget, herase]

/-- The end of the loop. -/
theorem eraseLoop_end {items : List α} {i : Nat} (h : items.length ≤ i) :
    eraseLoop bad items i = items := by
  rw [eraseLoop, dif_neg (Nat.not_lt_of_le h)]

/-- The loop behind the elements that it has passed. -/
theorem eraseLoop_append (front items : List α) :
    eraseLoop bad (front ++ items) front.length = front ++ skipErase bad items := by
  fun_induction skipErase bad items generalizing front with
  | case1 => exact eraseLoop_end (by rw [List.append_nil])
  | case2 a ha =>
      rw [eraseLoop_turn, if_pos ha]
      exact eraseLoop_end (by rw [List.append_nil]; omega)
  | case3 a ha =>
      rw [eraseLoop_turn, if_neg ha]
      exact eraseLoop_end (by rw [List.length_append, List.length_singleton])
  | case4 a b rest ha ih =>
      -- the element behind the erased one is passed with it
      have hnext := ih (front ++ [b])
      rw [List.append_assoc, List.append_assoc, List.length_append] at hnext
      rw [eraseLoop_turn, if_pos ha]
      exact hnext
  | case5 a b rest ha ih =>
      have hnext := ih (front ++ [a])
      rw [List.append_assoc, List.append_assoc, List.length_append] at hnext
      rw [eraseLoop_turn, if_neg ha]
      exact hnext

/-- The loop over a whole list. -/
theorem eraseLoop_eq (items : List α) : eraseLoop bad items 0 = skipErase bad items :=
  eraseLoop_append [] items

/-- The loop erases only what it should. -/
theorem filter_skipErase (items : List α) :
    (skipErase bad items).filter (fun a => !bad a) = items.filter fun a => !bad a := by
  fun_induction skipErase bad items with
  | case1 => rfl
  | case2 a ha => simp [ha]
  | case3 a ha => rfl
  | case4 a b rest ha ih => simp [List.filter_cons, ha, ih]
  | case5 a b rest ha ih => simp [List.filter_cons, ha, ih]

/-- An element that stays asks nothing of its neighbour. -/
theorem isChain_cons_of_good {a : α} (ha : bad a = false) (rest : List α) :
    (a :: rest).IsChain (fun a b => bad a = false ∨ bad b = false) ↔
      rest.IsChain fun a b => bad a = false ∨ bad b = false := by
  cases rest with
  | nil => simp
  | cons b rest =>
      rw [List.isChain_cons_cons]
      exact and_iff_right (Or.inl ha)

/-- The loop leaves nothing behind exactly if no two elements to erase are adjacent. -/
theorem forall_skipErase_iff (items : List α) :
    (∀ a ∈ skipErase bad items, bad a = false) ↔
      items.IsChain fun a b => bad a = false ∨ bad b = false := by
  fun_induction skipErase bad items with
  | case1 => simp
  | case2 a ha => simp
  | case3 a ha =>
      rw [List.forall_mem_singleton]
      exact iff_of_true (Bool.eq_false_iff.mpr ha) (List.IsChain.singleton a)
  | case4 a b rest ha ih =>
      rw [List.forall_mem_cons, ih, List.isChain_cons_cons]
      have hpair : bad a = false ∨ bad b = false ↔ bad b = false :=
        or_iff_right (by rw [ha]; exact Bool.noConfusion)
      rw [hpair]
      constructor
      · intro h
        exact ⟨h.1, (isChain_cons_of_good h.1 rest).mpr h.2⟩
      · intro h
        exact ⟨h.1, (isChain_cons_of_good h.1 rest).mp h.2⟩
  | case5 a b rest ha ih =>
      have hgood := Bool.eq_false_iff.mpr ha
      rw [List.forall_mem_cons, ih, isChain_cons_of_good hgood]
      exact and_iff_right hgood

/-- What the loop leaves is what should be left, up to the order, exactly in that case. -/
theorem eraseLoop_perm_filter_iff (items : List α) :
    (eraseLoop bad items 0).Perm (items.filter fun a => !bad a) ↔
      items.IsChain fun a b => bad a = false ∨ bad b = false := by
  rw [eraseLoop_eq, ← forall_skipErase_iff, ← filter_skipErase]
  constructor
  · intro h a ha
    have hmem := h.mem_iff.mp ha
    rw [List.mem_filter, Bool.not_eq_true'] at hmem
    exact hmem.2
  · intro h
    rw [List.filter_eq_self.mpr]
    intro a ha
    rw [h a ha]
    rfl

/-- The loop passes what it should keep. -/
theorem skipErase_append_of_good {front : List α} (h : ∀ a ∈ front, bad a = false)
    (rest : List α) : skipErase bad (front ++ rest) = front ++ skipErase bad rest := by
  induction front with
  | nil => rfl
  | cons a front ih =>
      obtain ⟨ha, hfront⟩ := List.forall_mem_cons.mp h
      have hpass : ∀ items, skipErase bad (a :: items) = a :: skipErase bad items := by
        intro items
        cases items with
        | nil => simp [skipErase, ha]
        | cons b items => simp [skipErase, ha]
      rw [List.cons_append, hpass, ih hfront, List.cons_append]

/-- The loop makes no list longer. -/
theorem length_skipErase_le (items : List α) : (skipErase bad items).length ≤ items.length := by
  fun_induction skipErase bad items with
  | case1 => exact Nat.le_refl _
  | case2 a ha => exact Nat.zero_le _
  | case3 a ha => exact Nat.le_refl _
  | case4 a b rest ha ih =>
      rw [List.length_cons, List.length_cons, List.length_cons]
      omega
  | case5 a b rest ha ih =>
      rw [List.length_cons, List.length_cons]
      omega

/-- The loop leaves a list as it is exactly if there is nothing to erase in it. -/
theorem skipErase_eq_self_iff (items : List α) :
    skipErase bad items = items ↔ ∀ a ∈ items, bad a = false := by
  refine ⟨fun h => ?_, fun h => ?_⟩
  · fun_induction skipErase bad items with
    | case1 => simp
    | case2 a ha => simp at h
    | case3 a ha => simpa using ha
    | case4 a b rest ha ih =>
        have hlength : (skipErase bad rest).length ≤ rest.length := length_skipErase_le rest
        have hequal := congrArg List.length h
        rw [List.length_cons, List.length_cons, List.length_cons] at hequal
        omega
    | case5 a b rest ha ih =>
        exact List.forall_mem_cons.mpr
          ⟨Bool.eq_false_iff.mpr ha, ih (List.cons.inj h).2⟩
  · have hpass := skipErase_append_of_good h []
    rw [List.append_nil, skipErase, List.append_nil] at hpass
    exact hpass

/-- In a list without duplicates the loop erases one element alone exactly if every other one that
it should erase comes right behind it. -/
theorem skipErase_eq_append_iff {front rest : List α} {a : α} (ha : bad a = true)
    (hnodup : (front ++ a :: rest).Nodup) :
    skipErase bad (front ++ a :: rest) = front ++ rest ↔
      (∀ b ∈ front, bad b = false) ∧ ∀ b ∈ rest.tail, bad b = false := by
  induction front with
  | nil =>
      cases rest with
      | nil => simp [skipErase, ha]
      | cons b rest => simp [skipErase, ha, skipErase_eq_self_iff]
  | cons b front ih =>
      rw [List.cons_append, List.nodup_cons] at hnodup
      cases hb : bad b with
      | true =>
          -- the element behind `b` takes its place, and it is another one
          refine iff_of_false (fun h => hnodup.1 ?_) (by simp [hb])
          cases front with
          | nil =>
              rw [List.cons_append, List.nil_append, skipErase, if_pos hb] at h
              rw [(List.cons.inj h).1]
              simp
          | cons c front =>
              rw [List.cons_append, List.cons_append, skipErase, if_pos hb] at h
              rw [(List.cons.inj h).1]
              simp
      | false =>
          have hpass := skipErase_append_of_good (List.forall_mem_singleton.mpr hb)
            (front ++ a :: rest)
          rw [List.singleton_append, List.singleton_append] at hpass
          rw [List.cons_append, hpass, List.cons_append, List.cons_inj_right, ih hnodup.2,
            List.forall_mem_cons]
          exact and_congr_left fun _ => (and_iff_right hb).symm

end Library
