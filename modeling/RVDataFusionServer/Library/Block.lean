import Mathlib.Data.List.Basic
import Mathlib.Tactic.SplitIfs

/-!
# Allocated memory blocks with checked accesses

A `Block` is one allocation: its size and the contents of its cells. `load` and `store` are
checked, and an access that leaves the block is the fault `outOfBounds`. `window` reads the
contents without a check, so that the lemmas about `load` and `store` are about lists:
`load_eq` and `store_eq` give the two operations inside the block, `window_store_same` and
`window_store_before` what a store writes and what it leaves alone.
-/

namespace Library

/-- The ways in which a C++ function ends other than by returning. -/
inductive Fault where
  | outOfBounds
  | threw (exception : String)
  deriving DecidableEq, Repr

/-- A sequence of two computations returns when both do. -/
theorem bind_eq_ok {α β : Type} {first : Except Fault α} {next : α → Except Fault β}
    {result : β} : first >>= next = .ok result ↔ ∃ a, first = .ok a ∧ next a = .ok result := by
  cases first with
  | error fault => simp [bind, Except.bind]
  | ok a => simp [bind, Except.bind]

/-- One allocation of `size` cells. -/
structure Block (β : Type*) where
  size : Nat
  data : Nat → β

namespace Block

variable {β : Type*}

/-- The contents of `count` cells from `ofs` on. -/
def window (block : Block β) (ofs count : Nat) : List β :=
  (List.range count).map fun i => block.data (ofs + i)

/-- Copy `count` cells from `ofs` on out of the block. -/
def load (block : Block β) (ofs : Int) (count : Nat) : Except Fault (List β) :=
  if 0 ≤ ofs ∧ ofs + count ≤ block.size then .ok (block.window ofs.toNat count)
  else .error .outOfBounds

/-- The block with `bytes` in the cells from `ofs` on. -/
def overwrite (block : Block β) (ofs : Nat) (bytes : List β) : Block β :=
  { block with
    data := fun i => if ofs ≤ i then (bytes[i - ofs]?).getD (block.data i) else block.data i }

/-- Copy `bytes` into the block at `ofs`. -/
def store (block : Block β) (ofs : Int) (bytes : List β) : Except Fault (Block β) :=
  if 0 ≤ ofs ∧ ofs + bytes.length ≤ block.size then .ok (block.overwrite ofs.toNat bytes)
  else .error .outOfBounds

@[simp] theorem length_window (block : Block β) (ofs count : Nat) :
    (block.window ofs count).length = count := by
  simp [window]

/-- Adjacent windows join into one. -/
theorem window_add (block : Block β) (ofs first second : Nat) :
    block.window ofs (first + second) =
      block.window ofs first ++ block.window (ofs + first) second := by
  simp [window, List.range_add, Function.comp_def, Nat.add_assoc]

/-- The first cells of a window. -/
theorem take_window (block : Block β) (ofs : Nat) {count less : Nat} (h : less ≤ count) :
    (block.window ofs count).take less = block.window ofs less := by
  obtain ⟨rest, rfl⟩ := Nat.exists_eq_add_of_le h
  rw [window_add, List.take_left' (length_window _ _ _)]

/-- Two blocks with the same cells in a window have the same window. -/
theorem window_congr {block other : Block β} {ofs count : Nat}
    (h : ∀ i, ofs ≤ i → i < ofs + count → block.data i = other.data i) :
    block.window ofs count = other.window ofs count := by
  refine List.map_congr_left fun i hi => ?_
  have hlt := List.mem_range.mp hi
  exact h _ (by omega) (by omega)

@[simp] theorem size_overwrite (block : Block β) (ofs : Nat) (bytes : List β) :
    (block.overwrite ofs bytes).size = block.size := rfl

/-- The cells that are written hold what was written. -/
theorem window_overwrite_same (block : Block β) (ofs : Nat) (bytes : List β) :
    (block.overwrite ofs bytes).window ofs bytes.length = bytes := by
  refine List.ext_getElem (by simp) fun i hi _ => ?_
  have hlt : i < bytes.length := by simpa using hi
  simp [window, overwrite, hlt]

/-- The cells outside of what is written keep their contents. -/
theorem window_overwrite_other (block : Block β) (ofs : Nat) (bytes : List β) {at_ count : Nat}
    (h : at_ + count ≤ ofs ∨ ofs + bytes.length ≤ at_) :
    (block.overwrite ofs bytes).window at_ count = block.window at_ count := by
  refine window_congr fun i hlo hhi => ?_
  by_cases hle : ofs ≤ i
  · have hout : bytes.length ≤ i - ofs := by omega
    simp [overwrite, hle, List.getElem?_eq_none hout]
  · simp [overwrite, hle]

/-- A load inside the block gives the window. -/
theorem load_eq (block : Block β) (ofs count : Nat) (h : ofs + count ≤ block.size) :
    block.load ofs count = .ok (block.window ofs count) := by
  have hbound : (0 : Int) ≤ ofs ∧ (ofs : Int) + count ≤ block.size := by omega
  simp [load, hbound]

/-- A load succeeds inside the block only, and gives the window. -/
theorem of_load_eq {block : Block β} (ofs : Nat) {count : Nat} {bytes : List β}
    (h : block.load ofs count = .ok bytes) :
    ofs + count ≤ block.size ∧ bytes = block.window ofs count := by
  unfold load at h
  split at h
  · next hbound =>
      obtain rfl := Except.ok.inj h
      exact ⟨by omega, rfl⟩
  · cases h

/-- A store inside the block succeeds. -/
theorem store_eq (block : Block β) (ofs : Nat) (bytes : List β)
    (h : ofs + bytes.length ≤ block.size) :
    block.store ofs bytes = .ok (block.overwrite ofs bytes) := by
  have hbound : (0 : Int) ≤ ofs ∧ (ofs : Int) + bytes.length ≤ block.size := by omega
  simp [store, hbound]

/-- A store succeeds inside the block only. -/
theorem bound_of_store_eq {block block' : Block β} (ofs : Nat) {bytes : List β}
    (h : block.store ofs bytes = .ok block') :
    ofs + bytes.length ≤ block.size ∧ block'.size = block.size := by
  unfold store at h
  split at h
  · next hbound =>
      obtain rfl := Except.ok.inj h
      exact ⟨by omega, rfl⟩
  · cases h

/-- A store that leaves the block is a fault. -/
theorem store_eq_error {block : Block β} {ofs : Int} {bytes : List β}
    (h : ofs < 0 ∨ (block.size : Int) < ofs + bytes.length) :
    block.store ofs bytes = .error .outOfBounds := by
  have hbound : ¬ (0 ≤ ofs ∧ ofs + (bytes.length : Int) ≤ block.size) := by omega
  simp [store, hbound]

/-- Writing right behind a window extends it by what is written. -/
theorem window_overwrite_append (block : Block β) (ofs count : Nat) (bytes : List β) :
    (block.overwrite (ofs + count) bytes).window ofs (count + bytes.length) =
      block.window ofs count ++ bytes := by
  rw [window_add, window_overwrite_same, window_overwrite_other _ _ _ (.inl (Nat.le_refl _))]

end Block

end Library
