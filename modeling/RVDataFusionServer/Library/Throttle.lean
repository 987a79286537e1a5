import Mathlib.Algebra.Order.Monoid.Defs
import Mathlib.Data.List.Chain
import RVDataFusionServer.Library.Execution

/-!
# Throttles

A throttle remembers when it last did something and does it again only after a period. `Spaced`
says this of the times, and `spaced_of_last` gives it for every run of a machine from what one step
does: a step that fires does so a period behind the remembered time and remembers its own.
-/

namespace Library

open Execution

/-- Every time is at least a period behind the one before. -/
def Spaced {τ : Type*} [Add τ] [LE τ] (period : τ) (times : List τ) : Prop :=
  times.IsChain fun a b => a + period ≤ b

/-- What is picked from a list by a narrower choice is left out of what a wider one picks. -/
theorem filterMap_sublist {α β : Type*} {narrow wide : α → Option β}
    (h : ∀ a b, narrow a = some b → wide a = some b) (xs : List α) :
    (xs.filterMap narrow).Sublist (xs.filterMap wide) := by
  induction xs with
  | nil => exact List.Sublist.slnil
  | cons x rest ih =>
      rw [List.filterMap_cons, List.filterMap_cons]
      cases hnarrow : narrow x with
      | some b =>
          rw [h x b hnarrow]
          exact ih.cons_cons b
      | none =>
          cases wide x with
          | none => exact ih
          | some b => exact ih.cons b

section Span

variable {τ : Type*} [AddCommMonoid τ] [PartialOrder τ] [IsOrderedAddMonoid τ]

/-- From the first to the last of some spaced times there is a period for each of them. -/
theorem Spaced.span_le {period first : τ} {rest : List τ} (h : Spaced period (first :: rest)) :
    first + rest.length • period ≤ rest.getLastD first := by
  induction rest generalizing first with
  | nil => simp
  | cons second rest ih =>
      obtain ⟨hfirst, hrest⟩ := List.isChain_cons_cons.mp h
      have hlast : second + rest.length • period ≤ rest.getLastD second := ih hrest
      calc first + (second :: rest).length • period
          = (first + period) + rest.length • period := by
            rw [List.length_cons, succ_nsmul', add_assoc]
        _ ≤ second + rest.length • period := add_le_add_left hfirst _
        _ ≤ (second :: rest).getLastD first := by rw [List.getLastD_cons]; exact hlast

/-- Leaving out some of the times leaves them spaced. -/
theorem Spaced.sublist {period : τ} (hperiod : 0 ≤ period) {times fewer : List τ}
    (h : Spaced period times) (hfewer : fewer.Sublist times) : Spaced period fewer := by
  have htrans : Trans (fun a b : τ => a + period ≤ b) (fun a b => a + period ≤ b)
      (fun a b => a + period ≤ b) :=
    ⟨fun {a b c} hab hbc => hab.trans ((le_add_of_nonneg_right hperiod).trans hbc)⟩
  exact List.IsChain.sublist h hfewer

end Span

variable {σ α ε τ : Type*} [Add τ] [LE τ] {step : σ → α → σ × ε}

/-- A step of a throttle: if it fires, then a period behind the remembered time, and its own time is
remembered, and if not, a remembered time stays so. A throttle that remembers none may fire at any
time. -/
def Throttles (period : τ) (last : σ → Option τ) (fired : ε → Option τ) (before : σ)
    (result : σ × ε) : Prop :=
  match fired result.2 with
  | some now => (∀ time, last before = some time → time + period ≤ now) ∧ last result.1 = some now
  | none => ∀ time, last before = some time → last result.1 = some time

/-- The throttle rule: if all allowed steps from the states of an invariant are those of a throttle,
then the times at which an allowed run fires are spaced, also from the time remembered before. -/
theorem spaced_of_last {period : τ} {last : σ → Option τ} {fired : ε → Option τ} {inv : σ → Prop}
    {ok : σ → α → Prop} (hinv : ∀ s a, inv s → ok s a → inv (step s a).1)
    (hstep : ∀ s a, inv s → ok s a → Throttles period last fired s (step s a)) {state : σ}
    {inputs : List α} (hstart : inv state) (hok : Allowed step ok state inputs) :
    Spaced period ((last state).toList ++ (outputs step state inputs).filterMap fired) := by
  induction inputs generalizing state with
  | nil =>
      cases last state with
      | none => exact List.IsChain.nil
      | some time => exact List.IsChain.singleton time
  | cons input rest ih =>
      have hone := hstep state input hstart hok.1
      have hrest := ih (hinv _ _ hstart hok.1) hok.2
      rw [outputs_cons, List.filterMap_cons]
      unfold Throttles at hone
      cases hfired : fired (step state input).2 with
      | none =>
          rw [hfired] at hone
          cases hlast : last state with
          | none =>
              rw [Option.toList_none, List.nil_append]
              exact List.IsChain.right_of_append hrest
          | some time => rwa [hone time hlast] at hrest
      | some now =>
          rw [hfired] at hone
          obtain ⟨hperiod, hnow⟩ := hone
          rw [hnow, Option.toList_some, List.singleton_append] at hrest
          cases hlast : last state with
          | none => exact hrest
          | some time => exact List.isChain_cons_cons.mpr ⟨hperiod time hlast, hrest⟩

end Library
