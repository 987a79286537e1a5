import Mathlib.Data.List.Basic

/-!
# Texts between separators

`List.splitOn` cuts a text at every separator. A text with `n` separators has `n + 1` segments
(`length_splitOn`), and a byte behind the text closes or extends the last of them
(`splitOn_concat_self`, `splitOn_concat_of_ne`).
-/

namespace Library.Segments

variable {α : Type} [BEq α] [LawfulBEq α] {sep : α}

/-- A text without separators, and what is behind the first one. -/
theorem splitOn_cases (sep : α) (text : List α) :
    sep ∉ text ∧ text.splitOn sep = [text] ∨
      ∃ front rest, sep ∉ front ∧ text = front ++ sep :: rest ∧
        text.splitOn sep = front :: rest.splitOn sep := by
  by_cases hmem : sep ∈ text
  · obtain ⟨front, rest, rfl, hfront⟩ := List.eq_append_cons_of_mem hmem
    exact Or.inr ⟨front, rest, hfront, rfl, List.splitOn_append_cons_self_of_not_mem hfront rest⟩
  · exact Or.inl ⟨hmem, List.splitOn_eq_singleton hmem⟩

omit [LawfulBEq α] in
/-- There is one segment more than separators. -/
theorem length_splitOn (sep : α) (text : List α) :
    (text.splitOn sep).length = text.count sep + 1 := by
  induction text with
  | nil => rfl
  | cons c text ih =>
      rw [List.splitOn_cons_eq_if_modifyHead, List.count_cons]
      by_cases hc : (c == sep) = true
      · rw [if_pos hc, if_pos hc, List.length_cons, ih]
      · rw [if_neg hc, if_neg hc, List.length_modifyHead, ih, Nat.add_zero]

/-- What is in a text is a separator or in a segment. -/
theorem eq_or_mem_segment {text : List α} {c : α} (h : c ∈ text) :
    c = sep ∨ ∃ segment ∈ text.splitOn sep, c ∈ segment := by
  generalize hcount : text.count sep = n
  induction n generalizing text with
  | zero =>
      rw [List.splitOn_eq_singleton (List.count_eq_zero.mp hcount)]
      exact Or.inr ⟨text, List.mem_singleton_self text, h⟩
  | succ n ih =>
      obtain ⟨hnot, -⟩ | ⟨front, rest, hfront, rfl, hsplit⟩ := splitOn_cases sep text
      · rw [List.count_eq_zero.mpr hnot] at hcount
        cases hcount
      · rw [List.count_append, List.count_eq_zero.mpr hfront, List.count_cons_self] at hcount
        rw [hsplit]
        obtain hmem | hmem := List.mem_append.mp h
        · exact Or.inr ⟨front, List.mem_cons_self, hmem⟩
        · obtain heq | hmem := List.mem_cons.mp hmem
          · exact Or.inl heq
          · obtain heq | ⟨segment, hsegment, hmem⟩ := ih hmem (by omega)
            · exact Or.inl heq
            · exact Or.inr ⟨segment, List.mem_cons_of_mem front hsegment, hmem⟩

/-- A separator behind a text closes its last segment. -/
theorem splitOn_concat_self (text : List α) :
    (text ++ [sep]).splitOn sep = text.splitOn sep ++ [[]] :=
  List.splitOn_append_cons_self text []

/-- Anything else behind a text extends its last segment. -/
theorem splitOn_concat_of_ne {text tail : List α} {segments : List (List α)} {c : α}
    (h : text.splitOn sep = segments ++ [tail]) (hc : c ≠ sep) :
    (text ++ [c]).splitOn sep = segments ++ [tail ++ [c]] := by
  induction segments generalizing text with
  | nil =>
      obtain ⟨hnot, hsingle⟩ | ⟨front, rest, -, -, hsplit⟩ := splitOn_cases sep text
      · have htail : text = tail := List.cons.inj (hsingle.symm.trans h) |>.1
        rw [← htail]
        apply List.splitOn_eq_singleton
        rw [List.mem_append, List.mem_singleton]
        exact fun hmem => hmem.elim hnot (fun heq => hc heq.symm)
      · have hrest := List.cons.inj (hsplit.symm.trans h) |>.2
        exact absurd hrest (List.splitOn_ne_nil sep rest)
  | cons segment segments ih =>
      obtain ⟨-, hsingle⟩ | ⟨front, rest, hfront, rfl, hsplit⟩ := splitOn_cases sep text
      · have hnil := List.cons.inj (hsingle.symm.trans h) |>.2
        exact absurd hnil.symm (List.append_ne_nil_of_right_ne_nil _ (List.cons_ne_nil _ _))
      · obtain ⟨hsegment, hrest⟩ := List.cons.inj (hsplit.symm.trans h)
        rw [List.append_assoc, List.cons_append,
          List.splitOn_append_cons_self_of_not_mem hfront, ih hrest, hsegment]
        rfl

end Library.Segments
