import Mathlib.Data.List.Infix
import Mathlib.Data.Nat.Find

/-!
# The first occurrence of a separator

`List.dropInfix?` cuts a list at the first occurrence of another one. `detach` uses it to take an
optional part with its separator off the front of a text, and `detach_attach_iff` says when this
gives back what `attach` has put together: a part that is there must not contain the separator,
even with the beginning of its own separator, and without a part the text must not contain it.
-/

namespace Library

variable {α : Type*} [BEq α] [LawfulBEq α] {l p sep rest : List α}

/-- What `List.dropInfix?` finds is the first occurrence. -/
theorem dropInfix?_eq_some_iff_first :
    l.dropInfix? sep = some (p, rest) ↔ l = p ++ sep ++ rest ∧
      ∀ p' rest', l = p' ++ sep ++ rest' → p.length ≤ p'.length := by
  rw [List.dropInfix?_eq_some_iff]
  constructor
  · rintro ⟨⟨sep', hl, hsep⟩, hfirst⟩
    rw [eq_of_beq hsep] at hl
    exact ⟨hl, fun p' rest' hl' => hfirst p' sep rest' hl' (beq_self_eq_true sep)⟩
  · rintro ⟨hl, hfirst⟩
    refine ⟨⟨sep, hl, beq_self_eq_true sep⟩, fun p' sep' rest' hl' hsep => ?_⟩
    rw [eq_of_beq hsep] at hl'
    exact hfirst p' rest' hl'

/-- There is a first occurrence where there is one at all. -/
theorem dropInfix?_eq_none_iff : l.dropInfix? sep = none ↔ ¬ sep <:+: l := by
  classical
  constructor
  · rintro hnone ⟨p, rest, hl⟩
    have hexists : ∃ n p rest, l = p ++ sep ++ rest ∧ p.length = n := ⟨_, p, rest, hl.symm, rfl⟩
    obtain ⟨first, behind, hcut, hlength⟩ := Nat.find_spec hexists
    have hsome : l.dropInfix? sep = some (first, behind) := by
      refine dropInfix?_eq_some_iff_first.mpr ⟨hcut, fun p' rest' hl' => ?_⟩
      rw [hlength]
      exact Nat.find_min' hexists ⟨p', rest', hl', rfl⟩
    rw [hnone] at hsome
    exact nomatch hsome
  · intro h
    refine Option.eq_none_iff_forall_ne_some.mpr fun ⟨p, rest⟩ hsome => h ?_
    exact ⟨p, rest, (dropInfix?_eq_some_iff_first.mp hsome).1.symm⟩

/-- A text is cut behind a part exactly if the separator does not occur earlier. -/
theorem dropInfix?_append_iff (hsep : sep ≠ []) :
    (p ++ sep ++ rest).dropInfix? sep = some (p, rest) ↔ ¬ sep <:+: p ++ sep.dropLast := by
  have hsplit : p ++ sep ++ rest = p ++ sep.dropLast ++ ([sep.getLast hsep] ++ rest) := by
    conv_lhs => rw [← List.dropLast_append_getLast hsep]
    simp only [List.append_assoc]
  have hpos := List.length_pos_of_ne_nil hsep
  have hlength : sep.dropLast.length = sep.length - 1 := List.length_dropLast
  rw [dropInfix?_eq_some_iff_first]
  constructor
  · rintro ⟨-, hfirst⟩ ⟨b, a, hba⟩
    have hle := hfirst b (a ++ ([sep.getLast hsep] ++ rest)) (by
      rw [hsplit, ← hba, List.append_assoc])
    have hsum := congrArg List.length hba
    simp only [List.length_append] at hsum
    omega
  · intro h
    refine ⟨rfl, fun p' rest' hl' => ?_⟩
    by_contra hlt
    -- an earlier occurrence ends in front of the last element of the separator
    have hfront : p ++ sep.dropLast <+: p ++ sep ++ rest := ⟨_, hsplit.symm⟩
    have hearly : p' ++ sep <+: p ++ sep.dropLast := by
      refine List.prefix_of_prefix_length_le ⟨rest', hl'.symm⟩ hfront ?_
      simp only [List.length_append]
      omega
    exact h ((List.suffix_append p' sep).isInfix.trans hearly.isInfix)

/-- An optional part and its separator, in front of a text. -/
def attach (sep : List α) (part : Option (List α)) (rest : List α) : List α :=
  match part with
  | none => rest
  | some p => p ++ sep ++ rest

/-- The part in front of the first separator, if there is one, and what is behind it. -/
def detach (sep text : List α) : Option (List α) × List α :=
  match text.dropInfix? sep with
  | none => (none, text)
  | some (p, rest) => (some p, rest)

/-- The separator is where it belongs. -/
def Clear (sep : List α) (part : Option (List α)) (rest : List α) : Prop :=
  match part with
  | none => ¬ sep <:+: rest
  | some p => ¬ sep <:+: p ++ sep.dropLast

/-- What is put together can be taken apart exactly if the separator is where it belongs. -/
theorem detach_attach_iff (hsep : sep ≠ []) (part : Option (List α)) (rest : List α) :
    detach sep (attach sep part rest) = (part, rest) ↔ Clear sep part rest := by
  cases part with
  | none =>
      rw [Clear, ← dropInfix?_eq_none_iff, detach, attach]
      cases hcut : rest.dropInfix? sep with
      | none => simp
      | some cut => simp
  | some p =>
      rw [Clear, ← dropInfix?_append_iff hsep, detach, attach]
      cases hcut : (p ++ sep ++ rest).dropInfix? sep with
      | none => simp
      | some cut => simp [Prod.ext_iff]

/-- It is enough to look at the part. -/
theorem fst_detach_attach_iff (hsep : sep ≠ []) (part : Option (List α)) (rest : List α) :
    (detach sep (attach sep part rest)).1 = part ↔ Clear sep part rest := by
  rw [← detach_attach_iff hsep]
  refine ⟨fun h => Prod.ext h ?_, fun h => by rw [h]⟩
  cases part with
  | none =>
      cases hcut : rest.dropInfix? sep with
      | none => simp [detach, attach, hcut]
      | some cut => simp [detach, attach, hcut] at h
  | some p =>
      unfold detach attach at *
      cases hcut : (p ++ sep ++ rest).dropInfix? sep with
      | none => simp only [hcut, reduceCtorEq] at h
      | some cut =>
          simp only [hcut, Option.some.injEq] at h ⊢
          have heq := (dropInfix?_eq_some_iff_first.mp hcut).1
          rw [h] at heq
          exact (List.append_cancel_left heq).symm

end Library
