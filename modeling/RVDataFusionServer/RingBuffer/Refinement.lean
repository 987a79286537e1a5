import Mathlib.Tactic.Ring
import RVDataFusionServer.Library.BoundedQueue
import RVDataFusionServer.Library.Execution
import RVDataFusionServer.RingBuffer

/-!
# The ring buffer as a bounded queue

The four operations of `RingBuffer` answer like those of a queue of its capacity, over every
sequence of operations. `refines_queue` is the statement.
-/

namespace RVDataFusionServer.RingBuffer

open Library Library.Execution

/-- One operation: `Write`, `Read`, `GetReadLen` or `GetWriteLen`. -/
def operate (rb : RingBuffer) :
    BoundedQueue.Command UInt8 → Except Fault (RingBuffer × BoundedQueue.Reply UInt8)
  | .append data => do
      let (rb, count) ← rb.write data
      pure (rb, .count count)
  | .take count => do
      let (rb, data) ← rb.read count
      pure (rb, .items data)
  | .length => pure (rb, .count rb.getReadLen)
  | .space => pure (rb, .count rb.getWriteLen)

/-- The positions and counters are `int`s: none of them is past `2 ^ 31 - 1`. -/
structure IntSized (rb : RingBuffer) : Prop where
  readPos : rb.readPos < 2 ^ 31
  writePos : rb.writePos < 2 ^ 31
  availableForRead : rb.availableForRead < 2 ^ 31
  availableForWrite : rb.availableForWrite < 2 ^ 31

/-- The ring buffer stands for the queue: it has its capacity and holds its items. -/
structure Refines {capacity : Nat} (rb : RingBuffer) (queue : BoundedQueue UInt8 capacity) :
    Prop where
  capacity_eq : rb.capacity = capacity
  holds : rb.Holds queue.items

/-- The positions and counters never exceed the capacity. -/
theorem Holds.intSized {rb : RingBuffer} {bytes : List UInt8} (h : rb.Holds bytes)
    (hint : rb.capacity < 2 ^ 31) : rb.IntSized where
  readPos := h.read_lt.trans hint
  writePos := by
    have hlt : Block.wrap rb.capacity (rb.readPos + bytes.length) < rb.capacity := by
      apply Block.wrap_lt
      have hread := h.read_lt
      have hfits := h.fits
      omega
    rw [h.write_pos]
    exact hlt.trans hint
  availableForRead := by
    rw [h.read_len]
    exact lt_of_le_of_lt h.fits hint
  availableForWrite := by
    rw [h.write_len]
    exact lt_of_le_of_lt (Nat.sub_le _ _) hint

/-- Every operation answers like the one of the queue and stands for what it leaves. -/
theorem operate_eq {capacity : Nat} (rb : RingBuffer) (queue : BoundedQueue UInt8 capacity)
    (command : BoundedQueue.Command UInt8) (h : rb.Refines queue) :
    ∃ rb', rb.operate command = .ok (rb', (queue.step command).2) ∧
      rb'.Refines (queue.step command).1 := by
  obtain ⟨hcap, hholds⟩ := h
  cases command with
  | append data =>
      by_cases hfits : queue.items.length + data.length ≤ capacity
      · obtain ⟨rb', hwrite, hholds', hcap'⟩ := write_eq data hholds (by rw [hcap]; exact hfits)
        obtain ⟨hitems, hcount⟩ := BoundedQueue.append_of_fits hfits
        refine ⟨rb', ?_, hcap'.trans hcap, ?_⟩
        · simp [operate, hwrite, BoundedQueue.step, hcount, bind, Except.bind, pure, Except.pure]
        · show rb'.Holds (queue.append data).1.items
          rw [hitems]
          exact hholds'
      · have hwrite := write_refused hholds (by rw [hcap]; exact Nat.not_le.mp hfits)
        have hsame := BoundedQueue.append_of_not_fits (Nat.not_le.mp hfits)
        refine ⟨rb, ?_, hcap, ?_⟩
        · simp [operate, hwrite, BoundedQueue.step, hsame, bind, Except.bind, pure, Except.pure]
        · show rb.Holds (queue.append data).1.items
          rw [hsame]
          exact hholds
  | take count =>
      by_cases hle : count ≤ queue.items.length
      · have hsplit : queue.items = queue.items.take count ++ queue.items.drop count :=
          (List.take_append_drop count queue.items).symm
        have hlength : (queue.items.take count).length = count := by
          rw [List.length_take]
          exact Nat.min_eq_left hle
        rw [hsplit] at hholds
        obtain ⟨rb', hread, hholds', hcap'⟩ := read_eq hholds
        rw [hlength] at hread
        obtain ⟨hitems, hdata⟩ := BoundedQueue.take_of_le hle
        refine ⟨rb', ?_, hcap'.trans hcap, ?_⟩
        · simp [operate, hread, BoundedQueue.step, hdata, bind, Except.bind, pure, Except.pure]
        · show rb'.Holds (queue.take count).1.items
          rw [hitems]
          exact hholds'
      · have hread := read_refused hholds (Nat.not_le.mp hle)
        have hsame := BoundedQueue.take_of_lt (Nat.not_le.mp hle)
        refine ⟨rb, ?_, hcap, ?_⟩
        · simp [operate, hread, BoundedQueue.step, hsame, bind, Except.bind, pure, Except.pure]
        · show rb.Holds (queue.take count).1.items
          rw [hsame]
          exact hholds
  | length =>
      refine ⟨rb, ?_, hcap, hholds⟩
      simp [operate, BoundedQueue.step, hholds.getReadLen_eq, pure, Except.pure]
  | space =>
      have hspace : rb.getWriteLen = capacity - queue.items.length := by
        have hlen := hholds.write_len
        rw [hcap] at hlen
        exact hlen
      refine ⟨rb, ?_, hcap, hholds⟩
      simp [operate, BoundedQueue.step, hspace, pure, Except.pure]

/-- Over every sequence of operations a new ring buffer answers like an empty queue of its
capacity, stays inside its block and ends up holding what is in the queue. -/
theorem refines_queue {capacity : Nat} (hcap : 0 < capacity) (hint : capacity < 2 ^ 31)
    (junk : Nat → UInt8) (commands : List (BoundedQueue.Command UInt8)) :
    ∃ rb, tryRun operate (new capacity junk) commands =
        .ok (rb, outputs BoundedQueue.step (.empty : BoundedQueue UInt8 capacity) commands) ∧
      rb.Holds (final BoundedQueue.step (.empty : BoundedQueue UInt8 capacity) commands).items ∧
      rb.IntSized := by
  have hstart : (new capacity junk).Refines (.empty : BoundedQueue UInt8 capacity) :=
    ⟨rfl, holds_new hcap junk⟩
  obtain ⟨rb, hrun, hrefines⟩ := tryRun_of_simulation operate_eq hstart commands
  have hsized : rb.IntSized := hrefines.holds.intSized (by rw [hrefines.capacity_eq]; exact hint)
  exact ⟨rb, hrun, hrefines.holds, hsized⟩

/-- Three cells: the second write wraps around and fills them, the third is refused. -/
theorem refines_queue_three :
    ∃ rb, tryRun operate (new 3 fun _ => 0)
        [.append [1, 2], .take 1, .append [3, 4], .append [5], .take 3, .take 1] =
          .ok (rb, [.count 2, .items [1], .count 2, .count 0, .items [2, 3, 4], .items []]) ∧
      rb.Holds [] ∧ rb.IntSized :=
  refines_queue (by decide) (by decide) (fun _ => 0)
    [.append [1, 2], .take 1, .append [3, 4], .append [5], .take 3, .take 1]

end RVDataFusionServer.RingBuffer
