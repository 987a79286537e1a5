import RVDataFusionServer.Library.Execution
import RVDataFusionServer.Library.Segments
import RVDataFusionServer.Queue
import RVDataFusionServer.RingBuffer

/-!
# Messages of the cloud

`EOCCom::getPkgs` reads the ring buffer byte by byte and cuts a message at every `*`. The thread
that receives writes to the ring buffer, and `proPkgs` takes messages from `pkgs`, between any two
rounds of the loop. `getPkgs_frames` says that the messages are the terminated segments of what was
received, however it was cut into writes.
-/

namespace RVDataFusionServer

open Library Segments Execution

/-- The mark behind a message. -/
def asterisk : UInt8 := 0x2A

/-- The part of `EOCCom` that `getPkgs` works on, and its local `content`. -/
structure EOCCom where
  rb : RingBuffer
  pkgs : Queue (List UInt8)
  content : List UInt8 := []

/-- One call `pkgs.push(content)` of `getPkgs`: the message, what was pending, and the return
value. -/
structure Cut where
  message : List UInt8
  pending : List (List UInt8)
  accepted : Bool
  deriving DecidableEq, Repr

namespace EOCCom

/-- The maximum that `Open` gives to `pkgs`. -/
def pkgsMax : Nat := 10

/-- A new connection: `Open`, and the start of `getPkgs`. `junk` is what the new ring buffer
holds. -/
def connected (junk : Nat → UInt8) : EOCCom where
  rb := RingBuffer.new (1024 * 1024 * 4) junk
  pkgs := Queue.setMax {} pkgsMax

/-- What happens on a connection: bytes are received, the inner loop of `getPkgs` makes a round, or
`proPkgs` asks for a message. -/
inductive Input where
  | write (data : List UInt8)
  | iterate
  | pop

/-- What can be seen of a step: the bytes that a write added, the byte that `getPkgs` read, the
message that it cut, and the message taken from `pkgs`. -/
inductive Event where
  | idle
  | wrote (data : List UInt8)
  | took (value : UInt8)
  | cut (cut : Cut)
  | popped (pkg : List UInt8)
  deriving DecidableEq, Repr

/-- A round of the inner loop of `getPkgs`. -/
def iterate (com : EOCCom) : Except Fault (EOCCom × Event) :=
  if 0 < com.rb.getReadLen then do
    let (rb, data) ← com.rb.read 1
    match data with
    | [value] =>
        if value = asterisk then
          let (pkgs, accepted) := com.pkgs.push com.content
          pure (⟨rb, pkgs, []⟩, .cut ⟨com.content, com.pkgs.q, accepted⟩)
        else pure ({ com with rb := rb, content := com.content ++ [value] }, .took value)
    | _ => pure ({ com with rb := rb }, .idle)
  else .ok (com, .idle)

/-- A step. -/
def act (com : EOCCom) : Input → Except Fault (EOCCom × Event)
  | .write data => do
      let (rb, count) ← com.rb.write data
      pure ({ com with rb := rb }, .wrote (data.take count))
  | .iterate => com.iterate
  | .pop =>
      match com.pkgs.pop with
      | none => .ok (com, .idle)
      | some (pkg, pkgs) => .ok ({ com with pkgs := pkgs }, .popped pkg)

/-- The bytes that a step received. -/
def Event.received : Event → List UInt8
  | .wrote data => data
  | _ => []

/-- The bytes that a step read from the ring buffer. -/
def Event.consumed : Event → List UInt8
  | .took value => [value]
  | .cut _ => [asterisk]
  | _ => []

/-- The message that a step cut. -/
def Event.cuts : Event → List Cut
  | .cut handed => [handed]
  | _ => []

/-- The message that a step took from `pkgs`. -/
def Event.poppedOut : Event → List (List UInt8)
  | .popped pkg => [pkg]
  | _ => []

/-- The messages that `pkgs` took, of those that were cut. -/
def accepted (cuts : List Cut) : List (List UInt8) := (cuts.filter Cut.accepted).map Cut.message

/-- What the state and the events of a run have in common. -/
structure Follows (com : EOCCom) (events : List Event) : Prop where
  reading : ∃ held, com.rb.Holds held ∧
    events.flatMap Event.received = events.flatMap Event.consumed ++ held
  splits : (events.flatMap Event.consumed).splitOn asterisk =
    (events.flatMap Event.cuts).map Cut.message ++ [com.content]
  max_eq : com.pkgs.isSetMax = true ∧ com.pkgs.max = pkgsMax
  refused : ∀ cut ∈ events.flatMap Event.cuts,
    cut.accepted = false ↔ pkgsMax ≤ cut.pending.length
  ledger : events.flatMap Event.poppedOut ++ com.pkgs.q =
    accepted (events.flatMap Event.cuts)

/-- A new connection has seen nothing. -/
theorem follows_connected (junk : Nat → UInt8) : (connected junk).Follows [] where
  reading := ⟨[], RingBuffer.holds_new (by decide) junk, rfl⟩
  splits := rfl
  max_eq := ⟨rfl, rfl⟩
  refused := fun _ h => absurd h List.not_mem_nil
  ledger := rfl

variable {com : EOCCom} {events : List Event}

/-- A step in which nothing happens. -/
theorem Follows.idle (hf : com.Follows events) : com.Follows (events ++ [.idle]) := by
  obtain ⟨⟨held, hrb, hstream⟩, hsplits, hmax, hrefused, hledger⟩ := hf
  refine ⟨⟨held, hrb, ?_⟩, ?_, hmax, ?_, ?_⟩
  · simpa [List.flatMap_append, Event.received, Event.consumed] using hstream
  · simpa [List.flatMap_append, Event.consumed, Event.cuts] using hsplits
  · simpa [List.flatMap_append, Event.cuts] using hrefused
  · simpa [List.flatMap_append, Event.cuts, Event.poppedOut] using hledger

/-- A write adds its bytes behind those received before, or nothing. -/
theorem write_follows (hf : com.Follows events) (data : List UInt8) :
    ∃ next event, com.act (.write data) = .ok (next, event) ∧
      next.Follows (events ++ [event]) := by
  obtain ⟨⟨held, hrb, hstream⟩, hsplits, hmax, hrefused, hledger⟩ := hf
  have hkeep (added : List UInt8) (rb : RingBuffer) (held' : List UInt8) (hrb' : rb.Holds held')
      (hheld : held' = held ++ added) :
      Follows { com with rb := rb } (events ++ [.wrote added]) := by
    refine ⟨⟨held', hrb', ?_⟩, ?_, hmax, ?_, ?_⟩
    · simp [List.flatMap_append, Event.received, Event.consumed, hstream, hheld]
    · simpa [List.flatMap_append, Event.consumed, Event.cuts] using hsplits
    · simpa [List.flatMap_append, Event.cuts] using hrefused
    · simpa [List.flatMap_append, Event.cuts, Event.poppedOut] using hledger
  by_cases hroom : held.length + data.length ≤ com.rb.capacity
  · obtain ⟨rb, hwrite, hholds, -⟩ := RingBuffer.write_eq data hrb hroom
    refine ⟨{ com with rb := rb }, .wrote data, ?_, hkeep data rb _ hholds rfl⟩
    rw [act, hwrite]
    show Except.ok ({ com with rb := rb }, Event.wrote (data.take data.length)) = _
    rw [List.take_length]
  · have hwrite := RingBuffer.write_refused hrb (Nat.lt_of_not_le hroom)
    refine ⟨com, .wrote [], ?_, hkeep [] com.rb held hrb (List.append_nil held).symm⟩
    rw [act, hwrite]
    rfl

/-- A pop takes the oldest pending message, if there is one. -/
theorem pop_follows (hf : com.Follows events) :
    ∃ next event, com.act .pop = .ok (next, event) ∧ next.Follows (events ++ [event]) := by
  cases hq : com.pkgs.q with
  | nil => exact ⟨com, .idle, by simp [act, Queue.pop, hq], hf.idle⟩
  | cons pkg rest =>
      obtain ⟨⟨held, hrb, hstream⟩, hsplits, hmax, hrefused, hledger⟩ := hf
      refine ⟨{ com with pkgs := { com.pkgs with q := rest } }, .popped pkg, ?_,
        ⟨held, hrb, ?_⟩, ?_, hmax, ?_, ?_⟩
      · simp [act, Queue.pop, hq]
      · simpa [List.flatMap_append, Event.received, Event.consumed] using hstream
      · simpa [List.flatMap_append, Event.consumed, Event.cuts] using hsplits
      · simpa [List.flatMap_append, Event.cuts] using hrefused
      · simpa [List.flatMap_append, Event.cuts, Event.poppedOut, hq] using hledger

/-- A round takes the oldest byte of the ring buffer. -/
theorem iterate_eq {value : UInt8} {held : List UInt8} (hrb : com.rb.Holds (value :: held)) :
    ∃ rb, rb.Holds held ∧ com.iterate =
      if value = asterisk then
        .ok (⟨rb, (com.pkgs.push com.content).1, []⟩,
          .cut ⟨com.content, com.pkgs.q, (com.pkgs.push com.content).2⟩)
      else .ok ({ com with rb := rb, content := com.content ++ [value] }, .took value) := by
  obtain ⟨rb, hread, hholds, -⟩ := @RingBuffer.read_eq com.rb [value] held hrb
  have hpos : 0 < com.rb.getReadLen := by
    rw [hrb.getReadLen_eq]
    exact Nat.succ_pos _
  refine ⟨rb, hholds, ?_⟩
  rw [iterate, if_pos hpos, show com.rb.read 1 = .ok (rb, [value]) from hread]
  by_cases hvalue : value = asterisk
  · rw [if_pos hvalue]
    exact if_pos hvalue
  · rw [if_neg hvalue]
    exact if_neg hvalue

/-- `pkgs` takes a message unless it is at its maximum. -/
theorem push_cases (hmax : com.pkgs.isSetMax = true ∧ com.pkgs.max = pkgsMax)
    (message : List UInt8) :
    ∃ taken, com.pkgs.push message =
        ({ com.pkgs with q := com.pkgs.q ++ if taken then [message] else [] }, taken) ∧
      (taken = false ↔ pkgsMax ≤ com.pkgs.q.length) := by
  have hfull : com.pkgs.Full ↔ pkgsMax ≤ com.pkgs.q.length := by
    rw [Queue.Full, hmax.1, hmax.2]
    exact and_iff_right rfl
  by_cases hroom : pkgsMax ≤ com.pkgs.q.length
  · refine ⟨false, ?_, iff_of_true rfl hroom⟩
    rw [Queue.push_of_full (hfull.mpr hroom), if_neg Bool.false_ne_true, List.append_nil]
  · refine ⟨true, ?_, iff_of_false Bool.noConfusion hroom⟩
    rw [Queue.push_of_not_full (mt hfull.mp hroom), if_pos rfl]

/-- A mark ends the message, which is handed to `pkgs`. -/
theorem cut_follows {rb : RingBuffer} {held : List UInt8}
    (hf : com.Follows events) (hrb : com.rb.Holds (asterisk :: held)) (hnext : rb.Holds held) :
    Follows ⟨rb, (com.pkgs.push com.content).1, []⟩ (events ++
      [.cut ⟨com.content, com.pkgs.q, (com.pkgs.push com.content).2⟩]) := by
  obtain ⟨⟨held', hrb', hstream⟩, hsplits, hmax, hrefused, hledger⟩ := hf
  have hheld : held' = asterisk :: held := hrb'.queued_eq.symm.trans hrb.queued_eq
  obtain ⟨taken, hpush, htaken⟩ := push_cases hmax com.content
  rw [hpush]
  refine ⟨⟨held, hnext, ?_⟩, ?_, hmax, ?_, ?_⟩
  · simp [List.flatMap_append, Event.received, Event.consumed, hstream, hheld]
  · rw [List.flatMap_append]
    show (events.flatMap Event.consumed ++ [asterisk]).splitOn asterisk = _
    rw [splitOn_concat_self, hsplits]
    simp [List.flatMap_append, Event.cuts]
  · simp only [List.flatMap_append, List.mem_append]
    intro cut hcut
    obtain hpast | hnew := hcut
    · exact hrefused cut hpast
    · obtain rfl := List.mem_singleton.mp hnew
      exact htaken
  · have hkept : accepted
          ((events ++ [Event.cut ⟨com.content, com.pkgs.q, taken⟩]).flatMap Event.cuts) =
        accepted (events.flatMap Event.cuts) ++ if taken then [com.content] else [] := by
      cases taken with
      | false => simp [List.flatMap_append, Event.cuts, accepted]
      | true => simp [List.flatMap_append, Event.cuts, accepted]
    rw [hkept, ← hledger]
    simp [List.flatMap_append, Event.poppedOut]

/-- A round reads the next byte: a mark ends the message, any other byte extends it. -/
theorem iterate_follows (hf : com.Follows events) :
    ∃ next event, com.act .iterate = .ok (next, event) ∧ next.Follows (events ++ [event]) := by
  obtain ⟨⟨held, hrb, hstream⟩, hsplits, hmax, hrefused, hledger⟩ := id hf
  cases held with
  | nil =>
      have hempty : ¬ 0 < com.rb.getReadLen := by
        rw [hrb.getReadLen_eq]
        exact Nat.lt_irrefl 0
      exact ⟨com, .idle, if_neg hempty, hf.idle⟩
  | cons value held =>
      obtain ⟨rb, hholds, heq⟩ := iterate_eq hrb
      by_cases hvalue : value = asterisk
      · rw [if_pos hvalue] at heq
        rw [hvalue] at hrb
        exact ⟨_, _, heq, cut_follows hf hrb hholds⟩
      · rw [if_neg hvalue] at heq
        refine ⟨_, _, heq, ⟨held, hholds, ?_⟩, ?_, hmax, ?_, ?_⟩
        · simpa [List.flatMap_append, Event.received, Event.consumed] using hstream
        · have hnext := splitOn_concat_of_ne hsplits hvalue
          simpa [List.flatMap_append, Event.consumed, Event.cuts] using hnext
        · simpa [List.flatMap_append, Event.cuts] using hrefused
        · simpa [List.flatMap_append, Event.cuts, Event.poppedOut] using hledger

/-- **The messages of a connection**: however the bytes are cut into writes and interleaved with
rounds, the messages are the terminated segments of what was read so far, in order, and `content`
is the unfinished one. A message is refused only when `pkgs` is at its maximum, and the others are
taken from `pkgs` or pending there. The ring buffer holds the bytes that were not read yet, and a
round takes the first of them. -/
theorem getPkgs_frames (junk : Nat → UInt8) (inputs : List Input) :
    ∃ com events, tryRun act (connected junk) inputs = .ok (com, events) ∧
      events.flatMap Event.received = events.flatMap Event.consumed ++ com.rb.queued ∧
      (events.flatMap Event.consumed).splitOn asterisk =
        (events.flatMap Event.cuts).map Cut.message ++ [com.content] ∧
      (∀ cut ∈ events.flatMap Event.cuts,
        cut.accepted = false ↔ pkgsMax ≤ cut.pending.length) ∧
      events.flatMap Event.poppedOut ++ com.pkgs.q = accepted (events.flatMap Event.cuts) ∧
      ∀ value held, com.rb.queued = value :: held →
        ∃ next event, com.act .iterate = .ok (next, event) ∧ event.consumed = [value] ∧
          next.rb.queued = held := by
  have hstep (com : EOCCom) (past : List Event) (input : Input) (hf : com.Follows past) :
      ∃ next event, com.act input = .ok (next, event) ∧ next.Follows (past ++ [event]) := by
    cases input with
    | write data => exact write_follows hf data
    | iterate => exact iterate_follows hf
    | pop => exact pop_follows hf
  obtain ⟨com, events, hrun, hf⟩ := tryRun_of_history hstep (follows_connected junk) inputs
  obtain ⟨⟨held, hrb, hstream⟩, hsplits, -, hrefused, hledger⟩ := hf
  rw [List.nil_append] at hstream hsplits hrefused hledger
  refine ⟨com, events, hrun, ?_, hsplits, hrefused, hledger, ?_⟩
  · rw [hrb.queued_eq]
    exact hstream
  · intro value rest hqueued
    rw [hrb.queued_eq] at hqueued
    rw [hqueued] at hrb
    obtain ⟨rb, hholds, heq⟩ := iterate_eq hrb
    by_cases hvalue : value = asterisk
    · rw [if_pos hvalue] at heq
      exact ⟨_, _, heq, by rw [hvalue]; rfl, hholds.queued_eq⟩
    · rw [if_neg hvalue] at heq
      exact ⟨_, _, heq, rfl, hholds.queued_eq⟩

end EOCCom

end RVDataFusionServer
