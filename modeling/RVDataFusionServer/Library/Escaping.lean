import Mathlib.Data.List.Basic

/-!
# Escaping

A text is escaped by an escape symbol `tf` in front of each symbol of `needSet`. The escapes are
taken out from left to right, where a symbol is judged with its successor, so that the last one
stays as it is. `unescape_escape_append` gives the text back when the escape symbol is itself in
the set, and `escaped_escape` says that each symbol of the set then stands in a pair.
`unescape_append_escape_append` is about symbols that come by accident in front of an escaped text.
-/

namespace Library

variable {α : Type*} [DecidableEq α] (tf : α) (needSet : List α)

/-- The text with an escape symbol in front of each symbol of the set. -/
def escape : List α → List α
  | [] => []
  | x :: rest => if x ∈ needSet then tf :: x :: escape rest else x :: escape rest

/-- The text without the escape symbols that stand in front of a symbol of the set. -/
def unescape : List α → List α
  | [] => []
  | [x] => [x]
  | x :: y :: rest =>
      if x = tf ∧ y ∈ needSet then y :: unescape rest else x :: unescape (y :: rest)

/-- A text in which each symbol of the set belongs to a pair: it stands behind an escape symbol, or
is the escape symbol in front of one. -/
inductive Escaped : List α → Prop
  | nil : Escaped []
  | plain {x : α} {rest : List α} : x ∉ needSet → Escaped rest → Escaped (x :: rest)
  | pair {x : α} {rest : List α} : x ∈ needSet → Escaped rest → Escaped (tf :: x :: rest)

/-- An escaped symbol. -/
theorem escape_cons_of_mem {x : α} (h : x ∈ needSet) (rest : List α) :
    escape tf needSet (x :: rest) = tf :: x :: escape tf needSet rest := by
  simp [escape, h]

/-- A symbol that needs no escape. -/
theorem escape_cons_of_notMem {x : α} (h : x ∉ needSet) (rest : List α) :
    escape tf needSet (x :: rest) = x :: escape tf needSet rest := by
  simp [escape, h]

/-- A joined text is escaped part by part. -/
theorem escape_append (first second : List α) :
    escape tf needSet (first ++ second) = escape tf needSet first ++ escape tf needSet second := by
  induction first with
  | nil => rfl
  | cons x first ih =>
      by_cases hx : x ∈ needSet
      · rw [List.cons_append, escape_cons_of_mem tf needSet hx, escape_cons_of_mem tf needSet hx,
          ih]
        rfl
      · rw [List.cons_append, escape_cons_of_notMem tf needSet hx,
          escape_cons_of_notMem tf needSet hx, ih]
        rfl

/-- A text without symbols of the set is not changed. -/
theorem escape_eq_self {text : List α} (h : ∀ x ∈ text, x ∉ needSet) :
    escape tf needSet text = text := by
  induction text with
  | nil => rfl
  | cons x text ih =>
      rw [escape_cons_of_notMem tf needSet (h x List.mem_cons_self),
        ih fun y hy => h y (List.mem_cons_of_mem x hy)]

/-- In an escaped text each symbol of the set belongs to a pair. -/
theorem escaped_escape (text : List α) : Escaped tf needSet (escape tf needSet text) := by
  induction text with
  | nil => exact .nil
  | cons x text ih =>
      by_cases hx : x ∈ needSet
      · rw [escape_cons_of_mem tf needSet hx]
        exact .pair hx ih
      · rw [escape_cons_of_notMem tf needSet hx]
        exact .plain hx ih

/-- Escaping makes a text longer, if anything. -/
theorem length_le_length_escape (text : List α) :
    text.length ≤ (escape tf needSet text).length := by
  induction text with
  | nil => exact Nat.le_refl 0
  | cons x text ih =>
      by_cases hx : x ∈ needSet
      · rw [escape_cons_of_mem tf needSet hx]
        simp only [List.length_cons]
        omega
      · rw [escape_cons_of_notMem tf needSet hx]
        simp only [List.length_cons]
        omega

/-- A text of symbols of the set only becomes twice as long. -/
theorem length_escape_of_mem {text : List α} (h : ∀ x ∈ text, x ∈ needSet) :
    (escape tf needSet text).length = 2 * text.length := by
  induction text with
  | nil => rfl
  | cons x text ih =>
      have hrest := ih fun y hy => h y (List.mem_cons_of_mem x hy)
      rw [escape_cons_of_mem tf needSet (h x List.mem_cons_self)]
      simp only [List.length_cons]
      omega

/-- An escape symbol and the symbol it stands for. -/
theorem unescape_pair {y : α} (h : y ∈ needSet) (rest : List α) :
    unescape tf needSet (tf :: y :: rest) = y :: unescape tf needSet rest := by
  simp [unescape, h]

/-- A symbol that is no escape symbol. -/
theorem unescape_cons_of_ne {x : α} (h : x ≠ tf) (rest : List α) :
    unescape tf needSet (x :: rest) = x :: unescape tf needSet rest := by
  cases rest with
  | nil => rfl
  | cons y rest => simp [unescape, h]

/-- An escape symbol in front of a symbol outside of the set. -/
theorem unescape_cons_of_notMem {y : α} (h : y ∉ needSet) (x : α) (rest : List α) :
    unescape tf needSet (x :: y :: rest) = x :: unescape tf needSet (y :: rest) := by
  simp [unescape, h]

/-- Taking the escapes out of an escaped text gives the text, whatever follows it. -/
theorem unescape_escape_append (htf : tf ∈ needSet) (text rest : List α) :
    unescape tf needSet (escape tf needSet text ++ rest) =
      text ++ unescape tf needSet rest := by
  induction text with
  | nil => rfl
  | cons x text ih =>
      by_cases hx : x ∈ needSet
      · rw [escape_cons_of_mem tf needSet hx]
        show unescape tf needSet (tf :: x :: (escape tf needSet text ++ rest)) = _
        rw [unescape_pair tf needSet hx, ih]
        rfl
      · have hne : x ≠ tf := by
          rintro rfl
          exact hx htf
        rw [escape_cons_of_notMem tf needSet hx]
        show unescape tf needSet (x :: (escape tf needSet text ++ rest)) = _
        rw [unescape_cons_of_ne tf needSet hne, ih]
        rfl

/-- An escape symbol in front of an escaped text shifts the pairs by one place, up to the first
symbol of the text that is not the escape symbol. -/
theorem unescape_cons_escape_append (htf : tf ∈ needSet) {text : List α}
    (h : ∃ x ∈ text, x ≠ tf) (rest : List α) :
    unescape tf needSet (tf :: (escape tf needSet text ++ rest)) =
      tf :: (text ++ unescape tf needSet rest) := by
  induction text with
  | nil =>
      obtain ⟨x, hx, -⟩ := h
      cases hx
  | cons x text ih =>
      by_cases hx : x ∈ needSet
      · rw [escape_cons_of_mem tf needSet hx]
        show unescape tf needSet (tf :: tf :: x :: (escape tf needSet text ++ rest)) = _
        rw [unescape_pair tf needSet htf]
        by_cases hne : x = tf
        · subst hne
          have htext : ∃ y ∈ text, y ≠ x := by
            obtain ⟨y, hy, hyx⟩ := h
            obtain rfl | hy := List.mem_cons.mp hy
            · exact absurd rfl hyx
            · exact ⟨y, hy, hyx⟩
          rw [ih htext]
          rfl
        · rw [unescape_cons_of_ne tf needSet hne, unescape_escape_append tf needSet htf]
          rfl
      · have hne : x ≠ tf := by
          rintro rfl
          exact hx htf
        rw [escape_cons_of_notMem tf needSet hx]
        show unescape tf needSet (tf :: x :: (escape tf needSet text ++ rest)) = _
        rw [unescape_cons_of_notMem tf needSet hx, unescape_cons_of_ne tf needSet hne,
          unescape_escape_append tf needSet htf]
        rfl

/-- An escape symbol in front of an escaped text of escape symbols only might as well stand behind
it. -/
theorem cons_escape_append_of_eq (htf : tf ∈ needSet) {text : List α} (h : ∀ x ∈ text, x = tf)
    (rest : List α) :
    tf :: (escape tf needSet text ++ rest) = escape tf needSet text ++ tf :: rest := by
  induction text with
  | nil => rfl
  | cons x text ih =>
      obtain rfl : x = tf := h x List.mem_cons_self
      have hrest := ih fun y hy => h y (List.mem_cons_of_mem x hy)
      rw [escape_cons_of_mem x needSet htf]
      exact congrArg (fun rest => x :: x :: rest) hrest

/-- What stands in front of an escaped text does not change how it is read, unless the text consists
of escape symbols only. -/
theorem unescape_append_escape_append (htf : tf ∈ needSet) (front : List α) {text : List α}
    (h : ∃ x ∈ text, x ≠ tf) (rest : List α) :
    unescape tf needSet (front ++ (escape tf needSet text ++ rest)) =
      unescape tf needSet front ++ (text ++ unescape tf needSet rest) := by
  induction front using unescape.induct tf needSet with
  | case1 => exact unescape_escape_append tf needSet htf text rest
  | case2 x =>
      show unescape tf needSet (x :: (escape tf needSet text ++ rest)) =
        x :: (text ++ unescape tf needSet rest)
      by_cases hx : x = tf
      · rw [hx, unescape_cons_escape_append tf needSet htf h]
      · rw [unescape_cons_of_ne tf needSet hx, unescape_escape_append tf needSet htf]
  | case3 x y front hpair ih =>
      show unescape tf needSet (x :: y :: (front ++ (escape tf needSet text ++ rest))) = _
      rw [unescape, unescape, if_pos hpair, if_pos hpair, ih]
      rfl
  | case4 x y front hpair ih =>
      show unescape tf needSet (x :: y :: (front ++ (escape tf needSet text ++ rest))) = _
      rw [unescape, unescape, if_neg hpair, if_neg hpair]
      exact congrArg (x :: ·) ih

/-- Taking escapes out makes a text shorter, if anything. -/
theorem length_unescape_le (text : List α) :
    (unescape tf needSet text).length ≤ text.length := by
  induction text using unescape.induct tf needSet with
  | case1 => exact Nat.le_refl 0
  | case2 x => exact Nat.le_refl 1
  | case3 x y rest hpair ih =>
      rw [unescape, if_pos hpair]
      simp only [List.length_cons]
      omega
  | case4 x y rest hpair ih =>
      rw [unescape, if_neg hpair]
      simp only [List.length_cons] at ih ⊢
      omega

end Library
