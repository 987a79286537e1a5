import RVDataFusionServer.MyTcp.StateMachine

/-!
# Packages from a stream in pieces

`Follows` relates a handler to everything that happened to it: the bytes it received, the packages
it handed to `pkgs` and the ones popped from there. `run_follows` carries it through every run
whose rounds are `Bounded`, however the bytes are cut into writes and interleaved with rounds.
The main theorem is `reassembly`: the packages handed to `pkgs` are those of the stream.
-/

namespace RVDataFusionServer

open Library Execution

namespace MyTcpHandler

/-- The bytes that a step adds to the ring buffer. A refused write adds none. -/
def Input.added : Input → Event → List UInt8
  | .write data, .wrote count => data.take count
  | _, _ => []

/-- The packages that a step hands to `pkgs`. -/
def Event.handedOver : Event → List Handed
  | .handed package => [package]
  | _ => []

/-- The packages that a step takes from `pkgs`. -/
def Event.poppedOut : Event → List Pkg
  | .popped pkg => [pkg]
  | _ => []

/-- The bytes that a run adds to the ring buffer. -/
def received (state : Except Fault MyTcpHandler) (inputs : List Input) : List UInt8 :=
  (List.zipWith Input.added inputs (outputs step state inputs)).flatten

/-- The packages that a run hands to `pkgs`. -/
def handedOver (state : Except Fault MyTcpHandler) (inputs : List Input) : List Handed :=
  (outputs step state inputs).flatMap Event.handedOver

/-- The packages that a run takes from `pkgs`. -/
def poppedOut (state : Except Fault MyTcpHandler) (inputs : List Input) : List Pkg :=
  (outputs step state inputs).flatMap Event.poppedOut

/-- The packages that `pkgs` took, of those that were handed to it. -/
def accepted (handed : List Handed) : List Pkg :=
  (handed.filter Handed.accepted).map Handed.pkg

/-- The handler has received `bytes`, handed over `handed` and given away `popped`. -/
structure Follows (h : MyTcpHandler) (bytes : List UInt8) (handed : List Handed)
    (popped : List Pkg) : Prop where
  reading : ∃ consumed held, bytes = consumed ++ held ∧ h.rb.Holds held ∧
    h.Matches (unfinished consumed) ∧ handed.map Handed.pkg = packages consumed
  capacity_eq : h.rb.capacity = bufferSize
  max_eq : h.pkgs.isSetMax = true ∧ h.pkgs.max = pkgsMax
  refused : ∀ x ∈ handed, x.accepted = false ↔ pkgsMax ≤ x.pending.length
  ledger : popped ++ h.pkgs.q = accepted handed

/-- The condition under which a step keeps the counters in range. -/
def Admits : Except Fault MyTcpHandler → Input → Prop
  | .ok h, .iterate _ => h.Bounded
  | _, _ => True

/-- A new handler has seen nothing. -/
theorem follows_new (junk : Nat → UInt8) : (new junk).Follows [] [] [] where
  reading := ⟨[], [], rfl, RingBuffer.holds_new (by decide) junk, ⟨rfl, rfl⟩, rfl⟩
  capacity_eq := rfl
  max_eq := ⟨rfl, rfl⟩
  refused := by simp
  ledger := rfl

/-- The state machine does not look at `pkgs`, and at the ring buffer only to read from it. -/
theorem matches_congr {h : MyTcpHandler} {bytes : List UInt8} (hmatch : h.Matches bytes)
    (rb : RingBuffer) (pkgs : Queue Pkg) : Matches { h with rb := rb, pkgs := pkgs } bytes := by
  cases hstatus : h.status with
  | start => simpa only [Matches, hstatus] using hmatch
  | getHead => simpa only [Matches, hstatus] using hmatch
  | getBody =>
      simp only [Matches, hstatus] at hmatch ⊢
      exact ⟨hmatch.buffer, hmatch.index_eq, hmatch.head_le, hmatch.head_eq, hmatch.len_eq,
        hmatch.small⟩
  | getCRC =>
      simp only [Matches, hstatus] at hmatch ⊢
      obtain ⟨hrecv, hzero⟩ := hmatch
      exact ⟨⟨hrecv.buffer, hrecv.index_eq, hrecv.head_le, hrecv.head_eq, hrecv.len_eq,
        hrecv.small⟩, hzero⟩

variable {h : MyTcpHandler} {bytes : List UInt8} {handed : List Handed} {popped : List Pkg}

/-- A write adds its bytes behind those received before, or nothing. -/
theorem write_follows (hf : h.Follows bytes handed popped) (data : List UInt8) :
    ∃ h' count, h.act (.write data) = .ok (h', .wrote count) ∧ count ≤ data.length ∧
      h'.Follows (bytes ++ data.take count) handed popped := by
  obtain ⟨⟨consumed, held, rfl, hrb, hmatch, hhanded⟩, hcap, hmax, hrefused, hledger⟩ := hf
  by_cases hroom : held.length + data.length ≤ h.rb.capacity
  · obtain ⟨rb, hwrite, hholds, hcap'⟩ := RingBuffer.write_eq _ hrb hroom
    refine ⟨{ h with rb := rb }, data.length, ?_, Nat.le_refl _, ?_, hcap'.trans hcap, hmax,
      hrefused, hledger⟩
    · simp [act, hwrite, bind, Except.bind, pure, Except.pure]
    · exact ⟨consumed, held ++ data, by simp, hholds, matches_congr hmatch rb h.pkgs, hhanded⟩
  · have hwrite := RingBuffer.write_refused hrb (Nat.lt_of_not_le hroom)
    refine ⟨h, 0, ?_, Nat.zero_le _, ?_, hcap, hmax, hrefused, hledger⟩
    · simp [act, hwrite, bind, Except.bind, pure, Except.pure]
    · exact ⟨consumed, held, by simp, hrb, hmatch, hhanded⟩

/-- A pop takes the oldest pending package, if there is one. -/
theorem pop_follows (hf : h.Follows bytes handed popped) :
    ∃ h' event, h.act .pop = .ok (h', event) ∧ event.handedOver = [] ∧
      h'.Follows bytes handed (popped ++ event.poppedOut) := by
  obtain ⟨⟨consumed, held, rfl, hrb, hmatch, hhanded⟩, hcap, hmax, hrefused, hledger⟩ := hf
  cases hq : h.pkgs.q with
  | nil =>
      refine ⟨h, .quiet, by simp [act, Queue.pop, hq], rfl,
        ⟨consumed, held, rfl, hrb, hmatch, hhanded⟩, hcap, hmax, hrefused, ?_⟩
      simpa [Event.poppedOut] using hledger
  | cons pkg rest =>
      refine ⟨{ h with pkgs := { h.pkgs with q := rest } }, .popped pkg,
        by simp [act, Queue.pop, hq], rfl,
        ⟨consumed, held, rfl, hrb, matches_congr hmatch _ _, hhanded⟩, hcap, hmax, hrefused, ?_⟩
      simpa [Event.poppedOut, hq] using hledger

/-- A round reads on in the stream and hands over what it finds there. -/
theorem iterate_follows (hf : h.Follows bytes handed popped) (hbounded : h.Bounded)
    (junk : Nat → UInt8) :
    ∃ h' event, h.act (.iterate junk) = .ok (h', event) ∧ event.poppedOut = [] ∧
      h'.Follows bytes (handed ++ event.handedOver) popped := by
  obtain ⟨⟨consumed, held, rfl, hrb, hmatch, hhanded⟩, hcap, ⟨hset, hmax⟩, hrefused, hledger⟩ := hf
  obtain ⟨taken, rest, ⟨h', out⟩, rfl, heq, hround, -⟩ := iterate_round hrb hmatch hbounded junk
  have hpackages : packages (consumed ++ taken) =
      handed.map Handed.pkg ++ out.toList.map Handed.pkg := by
    rw [packages, emitted_append, ← hround.emits, hhanded]
    rfl
  have hunfinished : h'.Matches (unfinished (consumed ++ taken)) := by
    rw [unfinished, final_append]
    exact hround.state
  have hpushed := hround.pushed
  cases out with
  | none =>
      have hpkgs : h'.pkgs = h.pkgs := hpushed
      refine ⟨h', .quiet,
        by simp [act, Event.ofRound, heq, bind, Except.bind, pure, Except.pure], rfl,
        ⟨consumed ++ taken, rest, (List.append_assoc _ _ _).symm, hround.holds, hunfinished, ?_⟩,
        hround.capacity_eq.trans hcap, ?_, ?_, ?_⟩
      · simpa [Event.handedOver] using hpackages.symm
      · rw [hpkgs]; exact ⟨hset, hmax⟩
      · simpa [Event.handedOver] using hrefused
      · simpa [Event.handedOver, hpkgs] using hledger
  | some x =>
      obtain ⟨hpending, hpush⟩ : x.pending = h.pkgs.q ∧ h.pkgs.push x.pkg = (h'.pkgs, x.accepted) :=
        hpushed
      have hfull : h.pkgs.Full ↔ pkgsMax ≤ x.pending.length := by
        rw [Queue.Full, hset, hmax, hpending]; simp
      have hnew : (x.accepted = false ↔ pkgsMax ≤ x.pending.length) ∧
          (h'.pkgs.isSetMax = true ∧ h'.pkgs.max = pkgsMax) ∧
          popped ++ h'.pkgs.q = accepted (handed ++ [x]) := by
        by_cases hroom : h.pkgs.Full
        · rw [Queue.push_of_full hroom] at hpush
          obtain ⟨hpkgs, hno⟩ := Prod.mk.inj hpush
          refine ⟨⟨fun _ => hfull.mp hroom, fun _ => hno.symm⟩, ?_, ?_⟩
          · rw [← hpkgs]; exact ⟨hset, hmax⟩
          · rw [← hpkgs, hledger]; simp [accepted, ← hno]
        · rw [Queue.push_of_not_full hroom] at hpush
          obtain ⟨hpkgs, hyes⟩ := Prod.mk.inj hpush
          refine ⟨⟨fun hno => absurd (hno.symm.trans hyes.symm) (by simp), fun hle =>
            absurd (hfull.mpr hle) hroom⟩, ?_, ?_⟩
          · rw [← hpkgs]; exact ⟨hset, hmax⟩
          · rw [← hpkgs, ← List.append_assoc, hledger]; simp [accepted, ← hyes]
      refine ⟨h', .handed x,
        by simp [act, Event.ofRound, heq, bind, Except.bind, pure, Except.pure], rfl,
        ⟨consumed ++ taken, rest, (List.append_assoc _ _ _).symm, hround.holds, hunfinished, ?_⟩,
        hround.capacity_eq.trans hcap, hnew.2.1, ?_, ?_⟩
      · simpa [Event.handedOver] using hpackages.symm
      · intro y hy
        rcases List.mem_append.mp hy with hold | hlast
        · exact hrefused y hold
        · obtain rfl : y = x := by simpa [Event.handedOver] using hlast
          exact hnew.1
      · exact hnew.2.2

/-- Every step that keeps the counters in range keeps `Follows`. -/
theorem act_follows (input : Input) (hf : h.Follows bytes handed popped)
    (hadmits : Admits (.ok h) input) :
    ∃ h' event, h.act input = .ok (h', event) ∧
      h'.Follows (bytes ++ input.added event) (handed ++ event.handedOver)
        (popped ++ event.poppedOut) := by
  cases input with
  | write data =>
      obtain ⟨h', count, heq, -, hf'⟩ := write_follows hf data
      exact ⟨h', .wrote count, heq,
        by simpa [Input.added, Event.handedOver, Event.poppedOut] using hf'⟩
  | iterate junk =>
      obtain ⟨h', event, heq, hpopped, hf'⟩ := iterate_follows hf hadmits junk
      exact ⟨h', event, heq, by simpa [hpopped, Input.added] using hf'⟩
  | pop =>
      obtain ⟨h', event, heq, hhanded, hf'⟩ := pop_follows hf
      exact ⟨h', event, heq, by simpa [hhanded, Input.added] using hf'⟩

/-- A step of a handler that has not faulted is its action. -/
theorem step_eq {h' : MyTcpHandler} {input : Input} {event : Event}
    (heq : h.act input = .ok (h', event)) : step (.ok h) input = (.ok h', event) := by
  simp [step, heq, bind, Except.bind]

/-- Every run whose rounds keep the counters in range keeps `Follows`. -/
theorem run_follows (hf : h.Follows bytes handed popped) {inputs : List Input}
    (hadmits : Allowed step Admits (.ok h) inputs) :
    ∃ h', final step (.ok h) inputs = .ok h' ∧
      h'.Follows (bytes ++ received (.ok h) inputs) (handed ++ handedOver (.ok h) inputs)
        (popped ++ poppedOut (.ok h) inputs) := by
  induction inputs generalizing h bytes handed popped with
  | nil => exact ⟨h, rfl, by simpa [received, handedOver, poppedOut] using hf⟩
  | cons input rest ih =>
      obtain ⟨hfirst, hrest⟩ := hadmits
      obtain ⟨h₁, event, heq, hf₁⟩ := act_follows input hf hfirst
      rw [step_eq heq] at hrest
      obtain ⟨h', hfinal, hf'⟩ := ih hf₁ hrest
      refine ⟨h', by rw [final_cons, step_eq heq]; exact hfinal, ?_⟩
      simpa [received, handedOver, poppedOut, step_eq heq, List.append_assoc] using hf'

/-- A handler is bounded in front of bytes that are in range. -/
theorem bounded_of_inRange (hf : h.Follows bytes handed popped)
    (hrange : Allowed scan InRange [] bytes) : h.Bounded := by
  obtain ⟨⟨consumed, held, rfl, hrb, hmatch, -⟩, -, -, -, -⟩ := hf
  have hheld := ((allowed_append _ _ _).mp hrange).2
  change Allowed scan InRange (unfinished consumed) held at hheld
  refine ⟨fun hstatus rb raw hread hne => ?_, fun hstatus hpos => ?_⟩
  · obtain ⟨hstart, -⟩ : unfinished consumed = [startTag] ∧ h.pkgBuffer = none := by
      simpa only [Matches, hstatus] using hmatch
    rw [hstart] at hheld
    by_cases hshort : held.length < sizeofPkgHead - 1
    · rw [RingBuffer.read_refused hrb hshort] at hread
      cases hread
      exact absurd rfl hne
    -- the header ends with the last of the twelve bytes
    obtain ⟨init, last, rest, hcut, hinit⟩ : ∃ init last rest,
        held = (init ++ [last]) ++ rest ∧ init.length = 11 := by
      simp only [sizeofPkgHead] at hshort
      have hlt : 11 < held.length := by omega
      refine ⟨held.take 11, held[11], held.drop 12, ?_, by simp; omega⟩
      rw [← List.take_succ_eq_append_getElem hlt, List.take_append_drop]
    rw [hcut] at hrb hheld
    obtain ⟨rb', hread', -, -⟩ := RingBuffer.read_eq hrb
    have hcount : (init ++ [last]).length = sizeofPkgHead - 1 := by simp [hinit, sizeofPkgHead]
    rw [hcount, hread] at hread'
    obtain ⟨-, rfl⟩ := Prod.mk.inj (Except.ok.inj hread')
    rw [List.append_assoc, allowed_append] at hheld
    have hquiet := (scan_unfinished [startTag] init (by simp)
      (fun hle => by simp [hinit, sizeofPkgHead] at hle)).1
    have hlast := hheld.2.1
    rw [hquiet] at hlast
    simpa using hlast.1 (by simp [hinit, sizeofPkgHead])
  · have hrecv : h.Receiving (unfinished consumed) := by
      simpa only [Matches, hstatus] using hmatch
    rw [hrecv.index_eq, hrb.getReadLen_eq]
    rcases List.eq_nil_or_concat (held.take h.bodyLen.toNat) with hnil | ⟨init, last, hfront⟩
    · have hzero := congrArg List.length hnil
      rw [List.length_take, List.length_nil] at hzero
      have hsmall := hrecv.small
      omega
    rw [List.concat_eq_append] at hfront
    have hlength := congrArg List.length hfront
    simp only [List.length_take, List.length_append, List.length_singleton] at hlength
    have hlen := hrecv.len_eq
    have hhead := hrecv.head_le
    have hheadEq : PkgHead.ofBytes (unfinished consumed ++ init) = h.pkgHead := by
      rw [PkgHead.ofBytes_append hhead, hrecv.head_eq]
    have hquiet := (scan_unfinished (unfinished consumed) init
      (fun hnil => by rw [hnil] at hhead; simp [sizeofPkgHead] at hhead)
      (fun _ => by rw [hheadEq, List.length_append, ← hlen]; simp only [sizeofPkgCRC]; omega)).1
    rw [← List.take_append_drop h.bodyLen.toNat held, hfront, List.append_assoc, allowed_append,
      hquiet] at hheld
    have hlast := hheld.2.1.2 (by rw [List.length_append]; omega)
      (by rw [hheadEq, List.length_append]; omega)
    rw [List.length_append] at hlast
    omega

/-- On a stream in range, every round of a run keeps the counters in range. -/
theorem admits_of_inRange (inputs : List Input) (hf : h.Follows bytes handed popped)
    (hrange : Allowed scan InRange [] (bytes ++ received (.ok h) inputs)) :
    Allowed step Admits (.ok h) inputs := by
  induction inputs generalizing h bytes handed popped with
  | nil => trivial
  | cons input rest ih =>
      have hadmits : Admits (.ok h) input := by
        cases input with
        | write data => trivial
        | iterate junk => exact bounded_of_inRange hf ((allowed_append _ _ _).mp hrange).1
        | pop => trivial
      obtain ⟨h₁, event, heq, hf₁⟩ := act_follows input hf hadmits
      refine ⟨hadmits, ?_⟩
      rw [step_eq heq]
      refine ih hf₁ ?_
      simpa [received, step_eq heq, List.append_assoc] using hrange

/-! ## Reading a whole stream -/

/-- What the state machine has still to do: the bytes that it has not read, and one step to the
checksum. -/
def work (h : MyTcpHandler) : Nat :=
  2 * h.rb.getReadLen + if h.status = .getBody then 1 else 0

/-- The handler has handed over every package in the bytes that it received, and left less than a
header in the ring buffer. If the bytes leave nothing unfinished, it has read all of them. -/
structure Settled (h : MyTcpHandler) (bytes : List UInt8) (handed : List Handed) : Prop where
  handed_eq : handed.map Handed.pkg = packages bytes
  read_all : unfinished bytes = [] → h.rb.getReadLen = 0
  short : h.rb.getReadLen < sizeofPkgHead

/-- A handler that waits is settled. -/
theorem Waits.settled {consumed held : List UInt8} (hw : Waits h (unfinished consumed) held)
    (hrb : h.rb.Holds held) (hhanded : handed.map Handed.pkg = packages consumed) :
    h.Settled (consumed ++ held) handed where
  handed_eq := by
    rw [hhanded, packages, packages, emitted_append]
    exact (List.append_right_eq_self.mpr hw.quiet).symm
  read_all hdone := by
    rw [unfinished, final_append] at hdone
    rw [hrb.getReadLen_eq, hw.inside hdone, List.length_nil]
  short := by rw [hrb.getReadLen_eq]; exact hw.short

/-- While rounds do nothing, they hand over nothing. -/
theorem rounds_idle (hidle : ∀ junk, h.iterate junk = .ok (h, none))
    (junks : List (Nat → UInt8)) :
    final step (.ok h) (junks.map .iterate) = .ok h ∧
      handedOver (.ok h) (junks.map .iterate) = [] := by
  induction junks with
  | nil => exact ⟨rfl, rfl⟩
  | cons junk rest ih =>
      have hact : h.act (.iterate junk) = .ok (h, .quiet) := by
        simp [act, Event.ofRound, hidle, bind, Except.bind, pure, Except.pure]
      refine ⟨?_, ?_⟩
      · rw [List.map_cons, final_cons, step_eq hact]
        exact ih.1
      · simpa [handedOver, step_eq hact, Event.handedOver] using ih.2

/-- A handler waits, or its next round makes progress. -/
theorem iterate_progress (hf : h.Follows bytes handed popped)
    (hrange : Allowed scan InRange [] bytes) (junk : Nat → UInt8) :
    (h.Settled bytes handed ∧ ∀ junk, h.iterate junk = .ok (h, none)) ∨
      ∃ h' event, h.act (.iterate junk) = .ok (h', event) ∧ h'.work < h.work := by
  have hbounded := bounded_of_inRange hf hrange
  obtain ⟨⟨consumed, held, rfl, hrb, hmatch, hhanded⟩, -, -, -, -⟩ := hf
  obtain ⟨taken, rest, ⟨h', out⟩, hheld, heq, hround, hprogress⟩ :=
    iterate_round hrb hmatch hbounded junk
  have hlength := congrArg List.length hheld
  rw [List.length_append] at hlength
  have hact : h.act (.iterate junk) = .ok (h', .ofRound out) := by
    simp only [act, heq, bind, Except.bind, pure, Except.pure]
  have hread : h'.rb.getReadLen = rest.length := hround.holds.getReadLen_eq
  rcases hprogress with htaken | ⟨hbody, hcrc⟩ | hwaits
  · refine .inr ⟨h', _, hact, ?_⟩
    have hpos := List.length_pos_of_ne_nil htaken
    unfold work
    rw [hrb.getReadLen_eq, hread]
    split_ifs <;> omega
  · refine .inr ⟨h', _, hact, ?_⟩
    have hcrc' : h'.status = .getCRC := hcrc
    simp only [work, hrb.getReadLen_eq, hread, hbody, hcrc', if_true, reduceCtorEq, if_false]
    omega
  · exact .inl ⟨hwaits.settled hrb hhanded, hwaits.idle⟩

/-- Enough rounds settle a handler. -/
theorem rounds_settle (hf : h.Follows bytes handed popped)
    (hrange : Allowed scan InRange [] bytes) {junks : List (Nat → UInt8)}
    (henough : h.work ≤ junks.length) :
    ∃ h', final step (.ok h) (junks.map .iterate) = .ok h' ∧
      h'.Settled bytes (handed ++ handedOver (.ok h) (junks.map .iterate)) := by
  induction junks generalizing h handed popped with
  | nil =>
      have hempty : h.rb.getReadLen = 0 := by
        rw [List.length_nil, work] at henough
        omega
      obtain ⟨⟨consumed, held, rfl, hrb, -, hhanded⟩, -, -, -, -⟩ := hf
      obtain rfl : held = [] := by rwa [hrb.getReadLen_eq, List.length_eq_zero_iff] at hempty
      refine ⟨h, rfl, ?_⟩
      simpa [handedOver] using (waits_of_empty hrb).settled hrb hhanded
  | cons junk rest ih =>
      rcases iterate_progress hf hrange junk with ⟨hsettled, hidle⟩ | ⟨h₁, event, hact, hless⟩
      · obtain ⟨hfinal, hnone⟩ := rounds_idle hidle (junk :: rest)
        exact ⟨h, hfinal, by rwa [hnone, List.append_nil]⟩
      · obtain ⟨h₂, event₂, hact₂, hf₁⟩ :=
          act_follows (.iterate junk) hf (bounded_of_inRange hf hrange)
        rw [hact] at hact₂
        obtain ⟨rfl, rfl⟩ := Prod.mk.inj (Except.ok.inj hact₂)
        have hsame : (Input.iterate junk).added event = [] := by cases event <;> rfl
        rw [hsame, List.append_nil] at hf₁
        obtain ⟨h', hfinal, hsettled⟩ :=
          ih hf₁ (by rw [List.length_cons] at henough; omega)
        refine ⟨h', by rw [List.map_cons, final_cons, step_eq hact]; exact hfinal, ?_⟩
        simpa [handedOver, step_eq hact, List.append_assoc] using hsettled

/-- What a handler has to do is bounded by the size of its ring buffer. -/
theorem Follows.work_le (hf : h.Follows bytes handed popped) : h.work ≤ 2 * bufferSize + 1 := by
  obtain ⟨consumed, held, -, hrb, -, -⟩ := hf.reading
  have hfits := hrb.fits
  rw [hf.capacity_eq] at hfits
  unfold work
  rw [hrb.getReadLen_eq]
  split_ifs <;> omega

/-- A run over bytes in range hands over a first part of their packages, and with the ring buffer
empty it has handed over all of them. -/
theorem run_of_inRange {junk : Nat → UInt8} {inputs : List Input}
    (hrange : Allowed scan InRange [] (received (.ok (new junk)) inputs)) :
    ∃ h, final step (.ok (new junk)) inputs = .ok h ∧
      h.Follows (received (.ok (new junk)) inputs) (handedOver (.ok (new junk)) inputs)
        (poppedOut (.ok (new junk)) inputs) ∧
      (handedOver (.ok (new junk)) inputs).map Handed.pkg <+:
        packages (received (.ok (new junk)) inputs) ∧
      (h.rb.getReadLen = 0 → (handedOver (.ok (new junk)) inputs).map Handed.pkg =
        packages (received (.ok (new junk)) inputs)) := by
  have hadmits := admits_of_inRange inputs (follows_new junk) hrange
  obtain ⟨h, hfinal, hf⟩ := run_follows (follows_new junk) hadmits
  rw [List.nil_append, List.nil_append, List.nil_append] at hf
  obtain ⟨consumed, held, hcut, hrb, -, hhanded⟩ := hf.reading
  have hpackages : packages (received (.ok (new junk)) inputs) =
      packages consumed ++ emitted scan (unfinished consumed) held := by
    rw [hcut, packages_append]
  refine ⟨h, hfinal, hf, ?_, ?_⟩
  · rw [hhanded, hpackages]
    exact List.prefix_append _ _
  · intro hempty
    rw [hrb.getReadLen_eq, List.length_eq_zero_iff] at hempty
    rw [hhanded, hpackages, hempty, emitted_nil, List.append_nil]

/-- The packages of a stream, however it is cut into writes and whatever happens in between. The
state machine never leaves its buffer, and what it has handed to `pkgs` is always a first part of
the frames. With the ring buffer empty it is all of them, and enough further rounds empty it.
A package that `pkgs` did not take was handed over while it held its maximum. -/
theorem reassembly (junk : Nat → UInt8) (items : List StreamItem) (inputs : List Input)
    (hstream : received (.ok (new junk)) inputs = stream items) :
    ∃ h, final step (.ok (new junk)) inputs = .ok h ∧
      (handedOver (.ok (new junk)) inputs).map Handed.pkg <+: frames items ∧
      (h.rb.getReadLen = 0 →
        (handedOver (.ok (new junk)) inputs).map Handed.pkg = frames items) ∧
      (∀ x ∈ handedOver (.ok (new junk)) inputs,
        x.accepted = false ↔ pkgsMax ≤ x.pending.length) ∧
      poppedOut (.ok (new junk)) inputs ++ h.pkgs.q =
        accepted (handedOver (.ok (new junk)) inputs) ∧
      ∀ junks : List (Nat → UInt8), 2 * bufferSize + 1 ≤ junks.length →
        ∃ h', final step (.ok (new junk)) (inputs ++ junks.map .iterate) = .ok h' ∧
          h'.rb.getReadLen = 0 := by
  obtain ⟨hwhole, hpackages, hrange⟩ := scan_stream items
  rw [← hstream] at hrange
  obtain ⟨h, hfinal, hf, hprefix, hall⟩ := run_of_inRange hrange
  rw [hstream] at hrange hf hprefix hall
  rw [hpackages] at hprefix hall
  refine ⟨h, hfinal, hprefix, hall, hf.refused, hf.ledger, fun junks henough => ?_⟩
  obtain ⟨h', hsettle, hsettled⟩ := rounds_settle hf hrange (hf.work_le.trans henough)
  exact ⟨h', by rw [final_append, hfinal]; exact hsettle, hsettled.read_all hwhole⟩

/-- A package with the body `{}`. -/
def emptyObject : Pkg := ⟨⟨0x24, 1, 5, 0, 0, 17⟩, [0x7B, 0x7D], ⟨61958⟩⟩

theorem sent_emptyObject : emptyObject.Sent :=
  Pkg.Framed.sent ⟨rfl, rfl, by decide⟩ (by decide +kernel)

/-- A stray byte and `emptyObject`, in two writes. -/
def twoWrites : List Input :=
  [.write [0x00, 0x24, 1, 5, 0], .iterate fun _ => 0, .iterate fun _ => 0, .iterate fun _ => 0,
    .write [0, 0, 0, 0, 0, 17, 0, 0, 0, 0x7B, 0x7D, 6, 242],
    .iterate fun _ => 0, .iterate fun _ => 0, .iterate fun _ => 0]

theorem reassembly_twoWrites :
    ∃ h, final step (.ok (new fun _ => 0)) twoWrites = .ok h ∧
      (h.rb.getReadLen = 0 →
        (handedOver (.ok (new fun _ => 0)) twoWrites).map Handed.pkg = [emptyObject]) := by
  obtain ⟨h, hfinal, -, hall, -⟩ := reassembly (fun _ => 0)
    [.garbage [0x00] (by decide), .frame emptyObject sent_emptyObject] twoWrites
    (by decide +kernel)
  exact ⟨h, hfinal, hall⟩

end MyTcpHandler

end RVDataFusionServer
