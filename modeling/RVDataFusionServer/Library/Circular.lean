import RVDataFusionServer.Library.Block

/-!
# Circular blocks

A block used as a ring: `ring start count` is the list held by the `count` cells from `start` on,
going back to cell 0 behind the last cell. `ring_load` reads a ring by at most two windows, and
`ring_overwrite` and `ring_overwrite_wrap` append to one by one write or, past the end of the
block, by two.
-/

namespace Library.Block

variable {β : Type*}

/-- The cell at distance `n` from cell 0 of a ring of `size` cells, for less than two rounds. -/
def wrap (size n : Nat) : Nat :=
  if n < size then n else n - size

/-- Less than two rounds, `wrap` is the remainder. -/
theorem wrap_eq_mod {size n : Nat} (h : n < 2 * size) : wrap size n = n % size := by
  unfold wrap
  split_ifs with hlt
  · exact (Nat.mod_eq_of_lt hlt).symm
  · rw [Nat.mod_eq_sub_mod (by omega), Nat.mod_eq_of_lt (by omega)]

/-- A wrapped cell is inside the ring. -/
theorem wrap_lt {size n : Nat} (h : n < 2 * size) : wrap size n < size := by
  unfold wrap
  split_ifs <;> omega

/-- The list in the `count` cells of the ring from `start` on. -/
def ring (block : Block β) (start count : Nat) : List β :=
  (List.range count).map fun i => block.data (wrap block.size (start + i))

@[simp] theorem length_ring (block : Block β) (start count : Nat) :
    (block.ring start count).length = count := by
  simp [ring]

/-- Two blocks of one size that agree on the cells of a ring hold the same ring. -/
theorem ring_congr {block other : Block β} {start count : Nat} (hsize : block.size = other.size)
    (h : ∀ i < count,
      block.data (wrap block.size (start + i)) = other.data (wrap block.size (start + i))) :
    block.ring start count = other.ring start count := by
  refine List.map_congr_left fun i hi => ?_
  rw [← hsize]
  exact h i (List.mem_range.mp hi)

/-- A ring is cut like a list. -/
theorem ring_add (block : Block β) (start first second : Nat) (hstart : start < block.size)
    (hcount : first + second ≤ block.size) :
    block.ring start (first + second) =
      block.ring start first ++ block.ring (wrap block.size (start + first)) second := by
  simp only [ring, List.range_add, List.map_append, List.map_map, List.append_cancel_left_eq]
  refine List.map_congr_left fun i hi => ?_
  have hlt := List.mem_range.mp hi
  have hcell : wrap block.size (start + (first + i)) =
      wrap block.size (wrap block.size (start + first) + i) := by
    unfold wrap
    split_ifs <;> omega
  simp [hcell]

/-- A ring that ends before the block does is a window. -/
theorem ring_eq_window {block : Block β} {start count : Nat} (h : start + count ≤ block.size) :
    block.ring start count = block.window start count := by
  refine List.map_congr_left fun i hi => ?_
  have hlt := List.mem_range.mp hi
  have hcell : wrap block.size (start + i) = start + i := by
    unfold wrap
    split_ifs <;> omega
  rw [hcell]

/-- A ring that goes past the end of the block is two windows. -/
theorem ring_eq_windows (block : Block β) (start count : Nat) (hstart : start < block.size)
    (hend : block.size ≤ start + count) (hcount : count ≤ block.size) :
    block.ring start count =
      block.window start (block.size - start) ++
        block.window 0 (count - (block.size - start)) := by
  have hsplit : count = (block.size - start) + (count - (block.size - start)) := by omega
  have hzero : wrap block.size (start + (block.size - start)) = 0 := by
    unfold wrap
    split_ifs <;> omega
  conv_lhs => rw [hsplit]
  rw [ring_add block _ _ _ hstart (by omega), hzero, ring_eq_window (by omega),
    ring_eq_window (by omega)]

/-- Writing a part of the block that the ring does not reach keeps the ring. -/
theorem ring_overwrite_other {block : Block β} {ofs start count : Nat} {bytes : List β}
    (h : ∀ i < count, wrap block.size (start + i) < ofs ∨
      ofs + bytes.length ≤ wrap block.size (start + i)) :
    (block.overwrite ofs bytes).ring start count = block.ring start count := by
  refine ring_congr rfl fun i hi => ?_
  have hcell : (block.overwrite ofs bytes).window (wrap block.size (start + i)) 1 =
      block.window (wrap block.size (start + i)) 1 :=
    window_overwrite_other block ofs bytes (by have := h i hi; omega)
  simpa [window] using hcell

/-- One write behind the end of a ring appends to it. -/
theorem ring_overwrite (block : Block β) (start count : Nat) (bytes : List β)
    (hstart : start < block.size) (hroom : count + bytes.length ≤ block.size)
    (hfits : wrap block.size (start + count) + bytes.length ≤ block.size) :
    (block.overwrite (wrap block.size (start + count)) bytes).ring start
      (count + bytes.length) = block.ring start count ++ bytes := by
  have hcut := ring_add (block.overwrite (wrap block.size (start + count)) bytes) _ _ _ hstart
    hroom
  simp only [size_overwrite] at hcut
  have htail : (block.overwrite (wrap block.size (start + count)) bytes).ring
      (wrap block.size (start + count)) bytes.length = bytes := by
    rw [ring_eq_window (by exact hfits), window_overwrite_same]
  rw [hcut, htail, ring_overwrite_other]
  intro i hi
  unfold wrap at hfits ⊢
  split_ifs at hfits ⊢ <;> omega

/-- Past the end of the block, two writes append to a ring: one to the end of the block and one
from cell 0 on. -/
theorem ring_overwrite_wrap (block : Block β) (start count : Nat) (first second : List β)
    (hstart : start < block.size) (hroom : count + (first ++ second).length ≤ block.size)
    (hend : wrap block.size (start + count) + first.length = block.size) :
    ((block.overwrite (wrap block.size (start + count)) first).overwrite 0 second).ring start
      (count + (first ++ second).length) = block.ring start count ++ (first ++ second) := by
  rw [List.length_append] at hroom ⊢
  have hzero : wrap block.size (start + (count + first.length)) = 0 := by
    unfold wrap at hend ⊢
    split_ifs at hend ⊢ <;> omega
  have hfirst := ring_overwrite block start count first hstart (by omega) (Nat.le_of_eq hend)
  have hsecond := ring_overwrite (block.overwrite (wrap block.size (start + count)) first) start
    (count + first.length) second hstart
    (by simp only [size_overwrite]; omega) (by simp only [size_overwrite, hzero]; omega)
  simp only [size_overwrite, hzero] at hsecond
  rw [← Nat.add_assoc, hsecond, hfirst, List.append_assoc]

end Library.Block
