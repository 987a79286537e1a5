import RVDataFusionServer.Library.Circular

/-!
# The ring buffer between the socket and the parsers

`RingBuffer.cpp` over a checked memory block. `Holds` says which byte queue a ring buffer holds,
and `read_eq`, `write_eq` and the two `refused` lemmas are the whole contract that the parsers
use: an operation takes or appends all its bytes, or changes nothing, and never leaves the buffer.

The counters are C `int`s between 0 and the capacity, which is at most `2 ^ 31 - 1` in every use
(the parsers create it with 4 MiB), so they are natural numbers here.
-/

namespace RVDataFusionServer

open Library

/-- `RingBuffer`: the buffer, its two positions and its two counters. -/
structure RingBuffer where
  buff : Block UInt8
  capacity : Nat
  readPos : Nat
  writePos : Nat
  availableForRead : Nat
  availableForWrite : Nat

namespace RingBuffer

/-- The constructor. `junk` is what the memory holds before the first write. -/
def new (capacity : Nat) (junk : Nat → UInt8) : RingBuffer where
  buff := ⟨capacity, junk⟩
  capacity := capacity
  readPos := 0
  writePos := 0
  availableForRead := 0
  availableForWrite := capacity - 0

/-- The end of a successful read: the new position and the new counters. -/
def taken (rb : RingBuffer) (readPos count : Nat) : RingBuffer :=
  { rb with
    readPos := readPos % rb.capacity
    availableForRead := rb.availableForRead - count
    availableForWrite := rb.capacity - (rb.availableForRead - count) }

/-- `RingBuffer::Read`: the bytes copied to `data`, none of them when the read is refused. The
number of bytes is the return value of the source. -/
def read (rb : RingBuffer) (count : Nat) : Except Fault (RingBuffer × List UInt8) :=
  if count ≤ rb.availableForRead then
    if rb.capacity < rb.readPos + count then do
      let len := rb.capacity - rb.readPos
      let first ← rb.buff.load rb.readPos len
      let second ← rb.buff.load 0 (count - len)
      pure (rb.taken (count - len) count, first ++ second)
    else do
      let bytes ← rb.buff.load rb.readPos count
      pure (rb.taken (rb.readPos + count) count, bytes)
  else pure (rb, [])

/-- The end of a successful write: the new contents, position and counters. -/
def added (rb : RingBuffer) (buff : Block UInt8) (writePos count : Nat) : RingBuffer :=
  { rb with
    buff := buff
    writePos := writePos % rb.capacity
    availableForRead := rb.availableForRead + count
    availableForWrite := rb.capacity - (rb.availableForRead + count) }

/-- `RingBuffer::Write`, with its return value. -/
def write (rb : RingBuffer) (data : List UInt8) : Except Fault (RingBuffer × Nat) :=
  if data.length ≤ rb.availableForWrite then
    if rb.capacity < rb.writePos + data.length then do
      let len := rb.capacity - rb.writePos
      let buff ← rb.buff.store rb.writePos (data.take len)
      let buff ← buff.store 0 (data.drop len)
      pure (rb.added buff (data.length - len) data.length, data.length)
    else do
      let buff ← rb.buff.store rb.writePos data
      pure (rb.added buff (rb.writePos + data.length) data.length, data.length)
  else pure (rb, 0)

/-- `RingBuffer::GetReadLen`. -/
def getReadLen (rb : RingBuffer) : Nat := rb.availableForRead

/-- `RingBuffer::GetWriteLen`. -/
def getWriteLen (rb : RingBuffer) : Nat := rb.availableForWrite

/-- The ring buffer holds the byte queue `bytes`, oldest byte first. -/
structure Holds (rb : RingBuffer) (bytes : List UInt8) : Prop where
  size_eq : rb.buff.size = rb.capacity
  read_lt : rb.readPos < rb.capacity
  fits : bytes.length ≤ rb.capacity
  write_pos : rb.writePos = Block.wrap rb.capacity (rb.readPos + bytes.length)
  read_len : rb.availableForRead = bytes.length
  write_len : rb.availableForWrite = rb.capacity - bytes.length
  contents : rb.buff.ring rb.readPos bytes.length = bytes

/-- The bytes that wait in the ring buffer, oldest byte first. -/
def queued (rb : RingBuffer) : List UInt8 := rb.buff.ring rb.readPos rb.availableForRead

/-- A new ring buffer holds no bytes. -/
theorem holds_new {capacity : Nat} (hcap : 0 < capacity) (junk : Nat → UInt8) :
    (new capacity junk).Holds [] where
  size_eq := rfl
  read_lt := hcap
  fits := Nat.zero_le _
  write_pos := by simp [new, Block.wrap, hcap]
  read_len := rfl
  write_len := rfl
  contents := rfl

variable {rb : RingBuffer} {bytes : List UInt8}

/-- The readable length is the length of the byte queue. -/
theorem Holds.getReadLen_eq (h : rb.Holds bytes) : rb.getReadLen = bytes.length := h.read_len

/-- The byte queue is what waits in the ring buffer. -/
theorem Holds.queued_eq (h : rb.Holds bytes) : rb.queued = bytes := by
  rw [queued, h.read_len]
  exact h.contents

/-- A read of more bytes than there are is refused and changes nothing. -/
theorem read_refused (h : rb.Holds bytes) {count : Nat} (hcount : bytes.length < count) :
    rb.read count = .ok (rb, []) := by
  have hlen : ¬ count ≤ rb.availableForRead := by rw [h.read_len]; omega
  simp [read, hlen, pure, Except.pure]

/-- A read of bytes that are there takes the oldest ones. -/
theorem read_eq {front rest : List UInt8} (h : rb.Holds (front ++ rest)) :
    ∃ rb', rb.read front.length = .ok (rb', front) ∧ rb'.Holds rest ∧
      rb'.capacity = rb.capacity := by
  have hfits := h.fits
  have hread := h.read_lt
  have hlen := h.read_len
  have hsize := h.size_eq
  simp only [List.length_append] at hfits hlen
  have havail : front.length ≤ rb.availableForRead := by omega
  -- the ring is the front followed by the rest
  have hcut := Block.ring_add rb.buff rb.readPos front.length rest.length
    (by rw [hsize]; exact hread) (by rw [hsize]; exact hfits)
  rw [← List.length_append, h.contents] at hcut
  obtain ⟨hfront, hrest⟩ := List.append_inj hcut (by simp)
  -- in both branches the source's new position is the next cell of the ring
  have hholds : ∀ pos, pos % rb.capacity = Block.wrap rb.capacity (rb.readPos + front.length) →
      (rb.taken pos front.length).Holds rest := by
    intro pos hpos
    have hlt : Block.wrap rb.capacity (rb.readPos + front.length) < rb.capacity :=
      Block.wrap_lt (by omega)
    refine ⟨hsize, ?_, by simp only [taken]; omega, ?_, ?_, ?_, ?_⟩
    · simpa only [taken, hpos] using hlt
    · simp only [taken, hpos, h.write_pos, List.length_append]
      unfold Block.wrap
      split_ifs <;> omega
    · simp only [taken]; omega
    · simp only [taken]; omega
    · simp only [taken, hpos]
      rw [← hsize]
      exact hrest.symm
  by_cases hwrap : rb.capacity < rb.readPos + front.length
  · have hpos : (front.length - (rb.capacity - rb.readPos)) % rb.capacity =
        Block.wrap rb.capacity (rb.readPos + front.length) := by
      rw [Nat.mod_eq_of_lt (by omega)]
      unfold Block.wrap
      split_ifs <;> omega
    have hbytes := Block.ring_eq_windows rb.buff rb.readPos front.length (by omega) (by omega)
      (by omega)
    rw [← hfront, hsize] at hbytes
    refine ⟨_, ?_, hholds _ hpos, rfl⟩
    have hfirst := Block.load_eq rb.buff rb.readPos (rb.capacity - rb.readPos) (by omega)
    have hsecond : rb.buff.load 0 (front.length - (rb.capacity - rb.readPos)) = _ :=
      Block.load_eq _ 0 _ (by omega)
    simp [read, havail, hwrap, hfirst, hsecond, ← hbytes, bind, Except.bind, pure, Except.pure]
  · have hpos : (rb.readPos + front.length) % rb.capacity =
        Block.wrap rb.capacity (rb.readPos + front.length) :=
      (Block.wrap_eq_mod (by omega)).symm
    refine ⟨_, ?_, hholds _ hpos, rfl⟩
    have hload := Block.load_eq rb.buff rb.readPos front.length (by omega)
    rw [← Block.ring_eq_window (by omega), ← hfront] at hload
    simp [read, havail, hwrap, hload, bind, Except.bind, pure, Except.pure]

/-- Whatever is asked for, a read takes bytes from the front of the queue. -/
theorem read_front (h : rb.Holds bytes) {count : Nat} {rb' : RingBuffer} {data : List UInt8}
    (hread : rb.read count = .ok (rb', data)) :
    ∃ rest, bytes = data ++ rest ∧ rb'.Holds rest ∧ rb'.capacity = rb.capacity := by
  by_cases hcount : count ≤ bytes.length
  · have hsplit : bytes = bytes.take count ++ bytes.drop count :=
      (List.take_append_drop count bytes).symm
    have hlength : (bytes.take count).length = count := by
      rw [List.length_take]
      exact Nat.min_eq_left hcount
    rw [hsplit] at h
    obtain ⟨taken, htaken, hholds, hcap⟩ := read_eq h
    rw [hlength, hread] at htaken
    cases htaken
    exact ⟨bytes.drop count, hsplit, hholds, hcap⟩
  · rw [read_refused h (Nat.not_le.mp hcount)] at hread
    cases hread
    exact ⟨bytes, rfl, h, rfl⟩

/-- A write of more bytes than fit is refused and changes nothing. -/
theorem write_refused (h : rb.Holds bytes) {data : List UInt8}
    (hdata : rb.capacity < bytes.length + data.length) : rb.write data = .ok (rb, 0) := by
  have hlen : ¬ data.length ≤ rb.availableForWrite := by
    rw [h.write_len]
    have := h.fits
    omega
  simp [write, hlen, pure, Except.pure]

/-- A write of bytes that fit appends them. -/
theorem write_eq (data : List UInt8) (h : rb.Holds bytes)
    (hdata : bytes.length + data.length ≤ rb.capacity) :
    ∃ rb', rb.write data = .ok (rb', data.length) ∧ rb'.Holds (bytes ++ data) ∧
      rb'.capacity = rb.capacity := by
  have hread := h.read_lt
  have hsize := h.size_eq
  have hwrite := h.write_pos
  have hlt : Block.wrap rb.capacity (rb.readPos + bytes.length) < rb.capacity :=
    Block.wrap_lt (by have := h.fits; omega)
  have havail : data.length ≤ rb.availableForWrite := by rw [h.write_len]; omega
  have hholds : ∀ buff pos, buff.size = rb.capacity →
      buff.ring rb.readPos (bytes.length + data.length) = bytes ++ data →
      pos % rb.capacity = Block.wrap rb.capacity (rb.readPos + (bytes.length + data.length)) →
      (rb.added buff pos data.length).Holds (bytes ++ data) := by
    intro buff pos hbuff hring hpos
    refine ⟨hbuff, hread, ?_, ?_, ?_, ?_, ?_⟩ <;> simp only [List.length_append, added]
    · omega
    · exact hpos
    · rw [h.read_len]
    · rw [h.read_len]
    · exact hring
  by_cases hwrap : rb.capacity < rb.writePos + data.length
  · set len := rb.capacity - rb.writePos with hlen
    have hend : rb.writePos + (data.take len).length = rb.capacity := by
      simp only [List.length_take]; omega
    have hring := Block.ring_overwrite_wrap rb.buff rb.readPos bytes.length (data.take len)
      (data.drop len)
      (by omega) (by simpa [hsize] using hdata) (by rw [hsize, ← hwrite]; exact hend)
    rw [hsize, ← hwrite, List.take_append_drop, h.contents] at hring
    have hpos : (data.length - len) % rb.capacity =
        Block.wrap rb.capacity (rb.readPos + (bytes.length + data.length)) := by
      rw [Nat.mod_eq_of_lt (by omega)]
      unfold Block.wrap at hwrite ⊢
      split_ifs at hwrite ⊢ <;> omega
    refine ⟨_, ?_, hholds _ _ ?_ hring hpos, rfl⟩
    · have hfirst := Block.store_eq rb.buff rb.writePos (data.take len) (by omega)
      have hsecond : (rb.buff.overwrite rb.writePos (data.take len)).store 0 (data.drop len) = _ :=
        Block.store_eq _ 0 _ (by simp only [Block.size_overwrite, List.length_drop]; omega)
      simp [write, havail, hwrap, ← hlen, hfirst, hsecond, bind, Except.bind, pure, Except.pure]
    · simpa using hsize
  · have hring := Block.ring_overwrite rb.buff rb.readPos bytes.length data (by omega) (by omega)
      (by rw [hsize, ← hwrite]; omega)
    rw [hsize, ← hwrite, h.contents] at hring
    have hpos : (rb.writePos + data.length) % rb.capacity =
        Block.wrap rb.capacity (rb.readPos + (bytes.length + data.length)) := by
      rw [← Block.wrap_eq_mod (by omega), hwrite]
      have hfits := h.fits
      unfold Block.wrap
      split_ifs <;> omega
    refine ⟨_, ?_, hholds _ _ ?_ hring hpos, rfl⟩
    · have hstore := Block.store_eq rb.buff rb.writePos data (by omega)
      simp [write, havail, hwrap, hstore, bind, Except.bind, pure, Except.pure]
    · simpa using hsize

end RingBuffer

end RVDataFusionServer
