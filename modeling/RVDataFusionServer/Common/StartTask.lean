import RVDataFusionServer.Common.Proc

/-!
# The start of the tasks

Three of the data units are not initialised at the start. Their handlers measure the interval of
the frames, and the one that finds it set first starts a thread that initialises the data unit
with it. `start_once` says that this happens at most once for a command, however the handlers of the
connections interleave, and what the interval is: the mean of the gaps between timestamps of one
index that follow each other and increase. It takes that a started thread comes to `init` before its
handler returns; the example behind it shows what can happen otherwise.
-/

namespace RVDataFusionServer

open Library Execution

namespace Reception

variable {I O : Type}

/-- The calls of `update` for a command. -/
def callsOf (cmd : UInt8) (es : List (Option Event)) : List CacheTimestamp.Call :=
  es.filterMap fun e =>
    match e with
    | some (.updated other call) => if other = cmd then some call else none
    | _ => none

/-- The intervals by which the data unit of a command was initialised. -/
def initialisations (cmd : UInt8) (es : List (Option Event)) : List Int32 :=
  es.filterMap fun e =>
    match e with
    | some (.initialised other fs) => if other = cmd then some fs else none
    | _ => none

/-- An event that is not an update for a command adds no call. -/
theorem callsOf_append (cmd : UInt8) (es : List (Option Event)) (e : Option Event) :
    callsOf cmd (es ++ [e]) = callsOf cmd es ++ callsOf cmd [e] :=
  List.filterMap_append

/-- An event that is not an initialisation for a command adds none. -/
theorem initialisations_append (cmd : UInt8) (es : List (Option Event)) (e : Option Event) :
    initialisations cmd (es ++ [e]) = initialisations cmd es ++ initialisations cmd [e] :=
  List.filterMap_append

/-- The data unit of a command is not touched by a change of another one, nor its interval by a
change that keeps the intervals. -/
theorem fsI_update {units : UInt8 → DataUnit I O} {changed : DataUnit I O} {other : UInt8}
    (h : changed.fsI = (units other).fsI) (cmd : UInt8) :
    ((Function.update units other changed) cmd).fsI = (units cmd).fsI := by
  by_cases heq : cmd = other
  · rw [heq, Function.update_self, h]
  · rw [Function.update_of_ne heq]

/-- The threads that are started for a command. -/
def startedFor (cmd : UInt8) (s : Reception I O) : Nat :=
  s.starting.countP fun thread => thread.cmd = cmd

/-- A handler that returns changes nothing of the threads but the flag. -/
theorem startedFor_finish (cmd : UInt8) (s : Reception I O) (k : Nat) (w : Work I) :
    startedFor cmd (s.finish k w) = startedFor cmd s := by
  unfold startedFor finish
  dsimp only
  rw [List.countP_map]
  congr 1
  funext thread
  rw [Function.comp_apply]
  split_ifs <;> rfl

/-- A thread that is started is one more of its command. -/
theorem startedFor_append (cmd : UInt8) {s t : Reception I O} (thread : InitThread)
    (hstarting : t.starting = s.starting ++ [thread]) :
    startedFor cmd t = startedFor cmd s + if thread.cmd = cmd then 1 else 0 := by
  unfold startedFor
  rw [hstarting, List.countP_append, List.countP_singleton]
  simp only [decide_eq_true_eq]

/-- A thread that is done is one less of its command. -/
theorem startedFor_eraseIdx (cmd : UInt8) {s t : Reception I O} {k : Nat} {thread : InitThread}
    (hk : s.starting[k]? = some thread) (hstarting : t.starting = s.starting.eraseIdx k) :
    startedFor cmd t + (if thread.cmd = cmd then 1 else 0) = startedFor cmd s := by
  obtain ⟨hlt, hget⟩ := List.getElem?_eq_some_iff.mp hk
  unfold startedFor
  rw [hstarting, ← (List.getElem_cons_eraseIdx_perm hlt).countP_eq, hget, List.countP_cons]
  simp only [decide_eq_true_eq]

/-- A started thread that comes to `init` does so before its handler has returned. -/
def InTime (s : Reception I O) : Input I → Prop
  | .init k _ => ∀ thread ∈ s.starting[k]?, thread.returned = false
  | .accept _ _ => True
  | .release _ => True
  | .receive _ _ _ _ => True
  | .run _ => True
  | .eraseBegin _ _ => True

instance (s : Reception I O) : ∀ input, Decidable (s.InTime input)
  | .init k _ => inferInstanceAs (Decidable (∀ thread ∈ s.starting[k]?, thread.returned = false))
  | .accept _ _ => .isTrue trivial
  | .release _ => .isTrue trivial
  | .receive _ _ _ _ => .isTrue trivial
  | .run _ => .isTrue trivial
  | .eraseBegin _ _ => .isTrue trivial

/-- Then it finds what the handler has captured. -/
theorem captured_of_inTime (s : Reception I O) {thread : InitThread}
    (hreturned : thread.returned = false) (stale : Option (UInt8 × Int32)) :
    s.captured thread stale = some (thread.cmd, (s.ct thread.cmd).interval.toUInt32.toInt32) := by
  rw [captured, hreturned, if_neg Bool.false_ne_true]

variable [HardCoded I] [Directed I]

/-- What a run has measured for a command. The data unit is initialised by the one thread that is
started when the interval is set. -/
structure Measured (cmd : UInt8) (caches : Nat) (es : List (Option Event)) (s : Reception I O) :
    Prop where
  sampling : CacheTimestamp.Sampling (Int32.ofNat caches) (callsOf cmd es) (s.ct cmd)
  estimated : (s.ct cmd).isSetInterval = true →
    CacheTimestamp.Estimated (Int32.ofNat caches) (s.ct cmd)
  started : s.isStartTask cmd = true → (s.ct cmd).isSetInterval = true
  once : startedFor cmd s + (initialisations cmd es).length =
    if s.isStartTask cmd then 1 else 0
  interval : ∀ fs ∈ initialisations cmd es,
    fs = (s.ct cmd).interval.toUInt32.toInt32 ∧ (s.unit cmd).fsI = fs ∧
      (pkgProcessMap cmd : Option (PkgProcessFun I O)).bind PkgProcessFun.caches = some caches

variable {cmd : UInt8} {caches : Nat} {es : List (Option Event)} {s t : Reception I O}

/-- What a step does not look at stays measured. -/
theorem Measured.frame {e : Option Event} (h : Measured cmd caches es s)
    (hct : t.ct cmd = s.ct cmd) (hflag : t.isStartTask cmd = s.isStartTask cmd)
    (hstarting : startedFor cmd t = startedFor cmd s)
    (hfs : (t.unit cmd).fsI = (s.unit cmd).fsI) (hcalls : callsOf cmd [e] = [])
    (hinits : initialisations cmd [e] = []) : Measured cmd caches (es ++ [e]) t := by
  have hcallsOf : callsOf cmd (es ++ [e]) = callsOf cmd es := by
    rw [callsOf_append, hcalls, List.append_nil]
  have hinitialisations : initialisations cmd (es ++ [e]) = initialisations cmd es := by
    rw [initialisations_append, hinits, List.append_nil]
  refine ⟨?_, ?_, ?_, ?_, ?_⟩
  · rw [hcallsOf, hct]
    exact h.sampling
  · rw [hct]
    exact h.estimated
  · rw [hct, hflag]
    exact h.started
  · rw [hinitialisations, hstarting, hflag]
    exact h.once
  · rw [hinitialisations, hct, hfs]
    exact h.interval

/-- Nothing is started twice: a thread that was started for a command is the only one. -/
theorem Measured.initialisations_eq_nil (h : Measured cmd caches es s)
    (hpos : 0 < startedFor cmd s) : initialisations cmd es = [] ∧ s.isStartTask cmd = true := by
  have honce := h.once
  split_ifs at honce with hflag
  · exact ⟨List.length_eq_zero_iff.mp (by omega), hflag⟩
  · omega

/-- A call of `update` keeps what is measured. -/
theorem Measured.update (h : Measured cmd caches es s) (hcaches : 2 ≤ Int32.ofNat caches)
    (call : CacheTimestamp.Call) (hct : t.ct cmd =
      (s.ct cmd).update call.index call.timestamp (Int32.ofNat caches))
    (hflag : t.isStartTask = s.isStartTask) (hstarting : startedFor cmd t = startedFor cmd s)
    (hunit : t.unit = s.unit) : Measured cmd caches (es ++ [some (.updated cmd call)]) t := by
  have hcallsOf : callsOf cmd (es ++ [some (.updated cmd call)]) = callsOf cmd es ++ [call] := by
    rw [callsOf_append]
    simp [callsOf]
  have hinitialisations : initialisations cmd (es ++ [some (.updated cmd call)]) =
      initialisations cmd es := by
    rw [initialisations_append]
    simp [initialisations]
  obtain ⟨hsampling, hestimated⟩ := h.sampling.update hcaches call
  -- an interval that is set stays
  have hkept : (s.ct cmd).isSetInterval = true → t.ct cmd = s.ct cmd := fun hset => by
    rw [hct, CacheTimestamp.update, if_pos hset]
  refine ⟨?_, fun hset => ?_, fun hstarted => ?_, ?_, fun fs hfs => ?_⟩
  · rw [hcallsOf, hct]
    exact hsampling
  · cases hbefore : (s.ct cmd).isSetInterval with
    | true =>
        rw [hkept hbefore]
        exact h.estimated hbefore
    | false =>
        rw [hct] at hset ⊢
        exact hestimated hbefore hset
  · rw [hflag] at hstarted
    have hset := h.started hstarted
    rw [hkept hset]
    exact hset
  · rw [hinitialisations, hflag, hstarting]
    exact h.once
  · rw [hinitialisations] at hfs
    have hone : s.isStartTask cmd = true := by
      have honce := h.once
      have hpos := List.length_pos_of_mem hfs
      split_ifs at honce with hflagged
      · exact hflagged
      · omega
    rw [hkept (h.started hone), hunit]
    exact h.interval fs hfs

/-- The start of a thread keeps what is measured: it is the first one, and the interval is set. -/
theorem Measured.start (h : Measured cmd caches es s) (hset : (s.ct cmd).isSetInterval = true)
    (hfirst : s.isStartTask cmd = false) (hct : t.ct = s.ct)
    (hflag : t.isStartTask cmd = true) (hstarting : startedFor cmd t = startedFor cmd s + 1) :
    Measured cmd caches (es ++ [none]) t := by
  have hinitialisations : initialisations cmd (es ++ [none]) = initialisations cmd es := by
    rw [initialisations_append]
    simp [initialisations]
  have honce := h.once
  rw [hfirst, if_neg Bool.false_ne_true] at honce
  have hnone : initialisations cmd es = [] := List.length_eq_zero_iff.mp (by omega)
  refine ⟨?_, ?_, fun _ => ?_, ?_, ?_⟩
  · rw [callsOf_append, hct]
    simpa [callsOf] using h.sampling
  · rw [hct]
    exact h.estimated
  · rw [hct]
    exact hset
  · rw [hinitialisations, hflag, hstarting]
    simp only [if_true]
    omega
  · rw [hinitialisations, hnone]
    simp

/-- A thread that was started for another command, and comes to `init` in time, does not touch what
is measured. -/
theorem Measured.callInit_other [Inhabited I] (h : Measured cmd caches es s) (config : ProcConfig)
    {k : Nat} {thread : InitThread} (hk : s.starting[k]? = some thread)
    (hreturned : thread.returned = false) (hother : thread.cmd ≠ cmd) (c : Nat)
    (stale : Option (UInt8 × Int32)) :
    Measured cmd caches (es ++ [(s.callInit config k thread c stale).2])
      (s.callInit config k thread c stale).1 := by
  have herase := startedFor_eraseIdx cmd (t := { s with
    starting := s.starting.eraseIdx k }) hk rfl
  rw [if_neg hother, Nat.add_zero] at herase
  unfold Reception.callInit
  rw [captured_of_inTime s hreturned stale]
  refine h.frame rfl rfl ?_ ?_ ?_ ?_
  · exact herase
  · show ((Function.update s.unit thread.cmd _) cmd).fsI = _
    rw [Function.update_of_ne (Ne.symm hother)]
  · simp [callsOf]
  · simp [initialisations, hother]

/-- The thread that was started for the command initialises the data unit with the interval. -/
theorem Measured.callInit [Inhabited I] (h : Measured cmd caches es s) (config : ProcConfig)
    {k : Nat} {thread : InitThread} (hk : s.starting[k]? = some thread)
    (hreturned : thread.returned = false) (hcmd : thread.cmd = cmd)
    (hmeasures : (pkgProcessMap cmd :
      Option (PkgProcessFun I O)).bind PkgProcessFun.caches = some caches)
    (stale : Option (UInt8 × Int32)) :
    Measured cmd caches (es ++ [(s.callInit config k thread caches stale).2])
      (s.callInit config k thread caches stale).1 := by
  unfold Reception.callInit
  rw [captured_of_inTime s hreturned stale, hcmd]
  dsimp only
  generalize hnext : ({ s with
      unit := Function.update s.unit cmd ((s.unit cmd).init caches
        (s.ct cmd).interval.toUInt32.toInt32 config.roadNum caches 10)
      starting := s.starting.eraseIdx k } : Reception I O) = next
  have hct : next.ct = s.ct := by rw [← hnext]
  have hflags : next.isStartTask = s.isStartTask := by rw [← hnext]
  have hstarting : next.starting = s.starting.eraseIdx k := by rw [← hnext]
  have herase := startedFor_eraseIdx cmd hk hstarting
  rw [if_pos hcmd] at herase
  obtain ⟨hnone, -⟩ := h.initialisations_eq_nil (by omega)
  have hinitialisations : initialisations cmd
      (es ++ [some (.initialised cmd (s.ct cmd).interval.toUInt32.toInt32)]) =
        [(s.ct cmd).interval.toUInt32.toInt32] := by
    rw [initialisations_append, hnone]
    simp [initialisations]
  have hcount := h.once
  refine ⟨?_, ?_, ?_, ?_, fun fs hfs => ?_⟩
  · rw [callsOf_append, hct]
    simpa [callsOf] using h.sampling
  · rw [hct]
    exact h.estimated
  · rw [hct, hflags]
    exact h.started
  · rw [hnone, List.length_nil, Nat.add_zero, ← herase] at hcount
    rw [hinitialisations, hflags]
    exact hcount
  · rw [hinitialisations, List.mem_singleton] at hfs
    refine ⟨by rw [hct]; exact hfs, ?_, hmeasures⟩
    rw [← hnext]
    dsimp only
    rw [Function.update_self, hfs]
    rfl

/-- The handlers that measure the interval ask for 15 or 3 timestamps. -/
theorem caches_cases (cmd : UInt8) :
    let caches := (pkgProcessMap cmd : Option (PkgProcessFun I O)).bind PkgProcessFun.caches
    caches = none ∨ caches = some 15 ∨ caches = some 3 := by
  unfold pkgProcessMap
  dsimp only
  split <;> first
    | exact .inl rfl
    | exact .inr (.inl rfl)
    | exact .inr (.inr rfl)

/-- Nothing is measured at the start. -/
theorem measured_start [Inhabited I] (config : ProcConfig) (hcaches : 2 ≤ Int32.ofNat caches) :
    Measured cmd caches [] (start config : Reception I O) where
  sampling := CacheTimestamp.sampling_start hcaches
  estimated := nofun
  started := nofun
  once := rfl
  interval := by simp [initialisations]

/-- A handler that has found a lane keeps what is measured. -/
theorem Measured.found (h : Measured cmd caches es s) {k : Nat} {w : Work I} (hct : t.ct = s.ct)
    (hflag : t.isStartTask = s.isStartTask) (hstarting : t.starting = s.starting)
    (hfs : (t.unit cmd).fsI = (s.unit cmd).fsI) (process : PkgProcessFun I O) (index : Int) :
    Measured cmd caches (es ++ [(t.found k w process index).2]) (t.found k w process index).1 := by
  have hsame : startedFor cmd t = startedFor cmd s := by
    unfold startedFor
    rw [hstarting]
  have hgoto (stage : Stage) : Measured cmd caches (es ++ [none]) (t.goto k w stage) :=
    h.frame (congrFun hct cmd) (congrFun hflag cmd) hsame hfs rfl rfl
  unfold Reception.found
  split_ifs
  · exact h.frame (congrFun hct cmd) (congrFun hflag cmd)
      ((startedFor_finish cmd t k w).trans hsame) hfs rfl rfl
  · exact hgoto _
  · exact hgoto _

variable [Timestamped I]

/-- A thread that goes on keeps what is measured. -/
theorem Measured.run (h : Measured cmd caches es s) (hcaches : 2 ≤ Int32.ofNat caches)
    {config : ProcConfig} {k : Nat} {w : Work I} {process : PkgProcessFun I O}
    (hmeasures : w.cmd = cmd → ∀ c ∈ process.caches, c = caches) :
    Measured cmd caches (es ++ [(s.run config k w process).2])
      (s.run config k w process).1 := by
  have hquiet : ∀ {t : Reception I O}, t.ct = s.ct → t.isStartTask = s.isStartTask →
      startedFor cmd t = startedFor cmd s → (t.unit cmd).fsI = (s.unit cmd).fsI →
        Measured cmd caches (es ++ [none]) t := fun hct hflag hstarting hfs =>
    h.frame (congrFun hct cmd) (congrFun hflag cmd) hstarting hfs rfl rfl
  have hfinish : startedFor cmd (s.finish k w) = startedFor cmd s := startedFor_finish cmd s k w
  unfold Reception.run
  cases w.stage with
  | judgeHardCode =>
      dsimp only
      split_ifs
      · cases process.lane with
        | none => exact hquiet rfl rfl hfinish rfl
        | some lane => exact hquiet rfl rfl rfl rfl
      · exact hquiet rfl rfl rfl rfl
  | deleteFromConns =>
      dsimp only
      cases s.registry.deref w.pointer with
      | none => exact hquiet rfl rfl hfinish rfl
      | some handler => exact h.frame rfl rfl hfinish rfl rfl rfl
  | lane =>
      dsimp only
      cases process.lane with
      | none => exact hquiet rfl rfl hfinish rfl
      | some lane =>
          dsimp only
          cases lane (s.unit w.cmd) w.frame with
          | known index => exact h.found rfl rfl rfl rfl process index
          | free i => exact hquiet rfl rfl rfl rfl
  | assign i =>
      dsimp only
      refine h.found ?_ ?_ ?_ ?_ process i
      · rfl
      · rfl
      · rfl
      · refine fsI_update ?_ cmd
        rfl
  | update index =>
      dsimp only
      cases hprocessCaches : process.caches with
      | none => exact hquiet rfl rfl rfl rfl
      | some c =>
          by_cases hcmd : w.cmd = cmd
          · rw [hmeasures hcmd c hprocessCaches, hcmd]
            exact h.update hcaches _ (Function.update_self ..) rfl rfl rfl
          · exact h.frame (Function.update_of_ne (Ne.symm hcmd) _ _) rfl rfl rfl
              (by simp [callsOf, hcmd]) (by simp [initialisations])
  | startTask index =>
      have hadded : startedFor cmd ({ s with
            isStartTask := Function.update s.isStartTask w.cmd true
            starting := s.starting ++ [InitThread.mk w.pointer w.cmd false] }.goto k w
              (.pushI index)) = startedFor cmd s + if w.cmd = cmd then 1 else 0 :=
        startedFor_append cmd ⟨w.pointer, w.cmd, false⟩ rfl
      dsimp only
      split_ifs with hset
      · rw [Bool.and_eq_true, Bool.not_eq_true'] at hset
        by_cases hcmd : w.cmd = cmd
        · rw [if_pos hcmd] at hadded
          rw [hcmd] at hset hadded ⊢
          exact h.start hset.1 hset.2 rfl (Function.update_self ..) hadded
        · refine h.frame rfl (Function.update_of_ne (Ne.symm hcmd) _ _) ?_ rfl rfl rfl
          rw [hadded, if_neg hcmd, Nat.add_zero]
      · exact hquiet rfl rfl rfl rfl
  | pushI index =>
      refine hquiet rfl rfl hfinish (fsI_update ?_ cmd)
      unfold DataUnit.pushI
      split <;> rfl

/-- Every step keeps what is measured, if the started threads are in time. -/
theorem Measured.step [Inhabited I] (h : Measured cmd caches es s)
    (hcaches : 2 ≤ Int32.ofNat caches) (config : ProcConfig)
    (hmeasures : ∀ c ∈ (pkgProcessMap cmd : Option (PkgProcessFun I O)).bind
      PkgProcessFun.caches, c = caches) {input : Input I} (hintime : s.InTime input) :
    Measured cmd caches (es ++ [(Reception.step config s input).2])
      (Reception.step config s input).1 := by
  have hquiet : ∀ {t : Reception I O}, t.ct = s.ct → t.isStartTask = s.isStartTask →
      t.starting = s.starting → (t.unit cmd).fsI = (s.unit cmd).fsI →
        Measured cmd caches (es ++ [none]) t := fun hct hflag hstarting hfs =>
    h.frame (congrFun hct cmd) (congrFun hflag cmd) (congrArg (List.countP _) hstarting) hfs rfl
      rfl
  unfold Reception.step
  cases input with
  | accept pointer peerAddress => exact hquiet rfl rfl rfl rfl
  | release pointer =>
      dsimp only
      split_ifs
      · exact hquiet rfl rfl rfl rfl
      · exact hquiet rfl rfl rfl rfl
  | receive pointer received frame now =>
      have hreceive : ∃ work, s.receive config pointer received frame now =
          { s with work := work } := by
        unfold receive
        split
        · exact ⟨s.work, rfl⟩
        · split_ifs
          · exact ⟨s.work, rfl⟩
          · exact ⟨s.work, rfl⟩
          · exact ⟨s.work, rfl⟩
          · exact ⟨_, rfl⟩
      obtain ⟨work, hwork⟩ := hreceive
      dsimp only
      split_ifs
      · rw [hwork]
        exact hquiet rfl rfl rfl rfl
      · exact hquiet rfl rfl rfl rfl
  | run k =>
      dsimp only
      cases s.work[k]? with
      | none => exact hquiet rfl rfl rfl rfl
      | some w =>
          dsimp only
          cases hprocess : (pkgProcessMap w.cmd : Option (PkgProcessFun I O)) with
          | none => exact hquiet rfl rfl rfl rfl
          | some process =>
              refine h.run hcaches fun hcmd c hc => hmeasures c ?_
              rw [← hcmd, hprocess]
              exact hc
  | init k stale =>
      dsimp only
      cases hk : s.starting[k]? with
      | none => exact hquiet rfl rfl rfl rfl
      | some thread =>
          have hreturned : thread.returned = false := hintime thread (by rw [hk]; rfl)
          dsimp only
          cases hbind : (pkgProcessMap thread.cmd : Option (PkgProcessFun I O)).bind
            PkgProcessFun.caches with
          | none => exact hquiet rfl rfl rfl rfl
          | some c =>
              by_cases hcmd : thread.cmd = cmd
              · rw [hcmd] at hbind
                have hc : c = caches := hmeasures c (by rw [hbind]; rfl)
                rw [hc] at hbind ⊢
                exact h.callInit config hk hreturned hcmd hbind stale
              · exact h.callInit_other config hk hreturned hcmd c stale
  | eraseBegin other index =>
      refine hquiet rfl rfl rfl (fsI_update ?_ cmd)
      unfold DataUnit.eraseBeginI
      split <;> rfl

/-- In every run of the server in which the started threads come to `init` before their handlers
return, for any peers, packages and order of the threads, the data unit of a command is initialised
by a handler at most once. Then the interval of the command is set for good: it is the mean of the
gaps between as many timestamps of one index as the handler asks for, which came one after the other
and increase, and the data unit has it. -/
theorem start_once [Inhabited I] (config : ProcConfig) (inputs : List (Input I))
    (hintime : Allowed (step config) InTime (start config : Reception I O) inputs) (cmd : UInt8) :
    let s := final (step config) (start config : Reception I O) inputs
    let es := outputs (step config) (start config : Reception I O) inputs
    (initialisations cmd es).length ≤ 1 ∧
      ∀ fs ∈ initialisations cmd es, ∃ caches,
        (pkgProcessMap cmd : Option (PkgProcessFun I O)).bind PkgProcessFun.caches = some caches ∧
          (s.unit cmd).fsI = fs ∧ fs = (s.ct cmd).interval.toUInt32.toInt32 ∧
          CacheTimestamp.Estimated (Int32.ofNat caches) (s.ct cmd) ∧
          (s.ct cmd).dataTimestamps <:+:
            CacheTimestamp.timestampsOf (s.ct cmd).dataIndex (callsOf cmd es) := by
  intro s es
  -- a command whose handler measures nothing asks for any number of timestamps
  obtain ⟨caches, htwo, hmeasures⟩ : ∃ caches, 2 ≤ Int32.ofNat caches ∧
      ∀ c ∈ (pkgProcessMap cmd : Option (PkgProcessFun I O)).bind PkgProcessFun.caches,
        c = caches := by
    rcases caches_cases (I := I) (O := O) cmd with hbind | hbind | hbind
    · exact ⟨2, by decide, by simp [hbind]⟩
    · exact ⟨15, by decide, by simp [hbind]⟩
    · exact ⟨3, by decide, by simp [hbind]⟩
  have hmeasured : Measured cmd caches ([] ++ es) s := by
    let fits : Reception I O → List (Input I) → List (Option Event) → Prop :=
      fun t _ es => Measured cmd caches es t
    have hstart : fits (start config) [] [] := measured_start config htwo
    exact final_of_history InTime
      (fun t past es input h hok => h.step htwo config hmeasures hok) hstart hintime
  rw [List.nil_append] at hmeasured
  have honce := hmeasured.once
  refine ⟨?_, fun fs hfs => ?_⟩
  · split_ifs at honce
    · omega
    · omega
  · obtain ⟨hinterval, hunit, hbind⟩ := hmeasured.interval fs hfs
    have hpos := List.length_pos_of_mem hfs
    have hstarted : s.isStartTask cmd = true := by
      split_ifs at honce with hflag
      · exact hflag
      · omega
    exact ⟨caches, hbind, hunit, hinterval,
      hmeasured.estimated (hmeasured.started hstarted), hmeasured.sampling.of_index⟩

/-- A device sends three frames 40 ms apart, of which the last starts the thread: the frames of the
first two are dealt with, and that of the third up to the start. -/
def threeFrames : List (Input TrafficFlow) :=
  .accept 1 "a:1" ::
    (.receive 1 0x07 ⟨"A", 100⟩ 100 :: List.replicate 6 (.run 0)) ++
    (.receive 1 0x07 ⟨"A", 140⟩ 140 :: List.replicate 5 (.run 0)) ++
    (.receive 1 0x07 ⟨"A", 180⟩ 180 :: List.replicate 4 (.run 0))

/-- The server takes the device for one of its own. -/
def oneDevice : ProcConfig := { associatedEquips := ["A"] }

theorem start_once_threeFrames :
    let inputs := threeFrames ++ [.init 0 none, .run 0]
    let s := final (step oneDevice) (start oneDevice : Reception TrafficFlow Unit) inputs
    let es := outputs (step oneDevice) (start oneDevice : Reception TrafficFlow Unit) inputs
    initialisations 0x07 es = [40] ∧ (initialisations 0x07 es).length ≤ 1 ∧
      ∀ fs ∈ initialisations 0x07 es, ∃ caches,
        (pkgProcessMap 0x07 : Option (PkgProcessFun TrafficFlow Unit)).bind
            PkgProcessFun.caches = some caches ∧
          (s.unit 0x07).fsI = fs ∧ fs = (s.ct 0x07).interval.toUInt32.toInt32 ∧
          CacheTimestamp.Estimated (Int32.ofNat caches) (s.ct 0x07) ∧
          (s.ct 0x07).dataTimestamps <:+:
            CacheTimestamp.timestampsOf (s.ct 0x07).dataIndex (callsOf 0x07 es) :=
  ⟨by decide +kernel, start_once (I := TrafficFlow) (O := Unit) oneDevice
    (threeFrames ++ [.init 0 none, .run 0]) (by decide +kernel) 0x07⟩

/-- If the handler returns first, the thread can initialise another data unit, which has measured
nothing. -/
example :
    let es := outputs (step oneDevice) (start oneDevice : Reception TrafficFlow Unit)
      (threeFrames ++ [.run 0, .init 0 (some (0x0d, 500))])
    initialisations 0x07 es = [] ∧ initialisations 0x0d es = [500] ∧ callsOf 0x0d es = [] := by
  decide +kernel

end Reception

end RVDataFusionServer
