import Mathlib.Data.List.Nodup
import RVDataFusionServer.Common.Proc

/-!
# Throwing out a peer

A handler whose frame has a code that is not in the table shuts down the sockets of all connections
with its own peer address. As long as the addresses of the connections differ, it is its own socket
only: `dismissed_own_frame` says that the server shuts down the socket of a connection exactly if
the connection itself has sent such a frame and its handler has come to it, whatever the other
connections send.
-/

namespace RVDataFusionServer

open Library Execution

namespace Registry

variable {r : Registry} {pointer : Nat}

/-- A new handler is not where another one lives. -/
theorem deref_accept {other : Nat} {peerAddress : String} {handler : ServerHandler}
    (h : r.deref pointer = some handler) :
    (r.accept other peerAddress).deref pointer = some handler := by
  unfold accept deref at *
  rw [List.find?_append, h]
  rfl

/-- Destroying another handler leaves a handler where it is. -/
theorem deref_release {other : Nat} (hother : other ≠ pointer) :
    (r.release other).deref pointer = r.deref pointer := by
  unfold release
  cases r.deref other with
  | none => rfl
  | some handler =>
      unfold deref
      dsimp only
      rw [List.find?_filter]
      congr 1
      funext candidate
      by_cases hcandidate : candidate.pointer = pointer
      · simp [hcandidate, Ne.symm hother]
      · simp [hcandidate]

/-- Throwing out a peer shuts down the handler at a pointer if the handler has the address. -/
theorem Valid.deref_deleteFromConns (h : r.Valid) (peerAddress : String) :
    (r.deleteFromConns peerAddress).deref pointer = (r.deref pointer).map fun handler =>
      if handler.peerAddress = peerAddress then shut handler else handler := by
  rw [h.deleteFromConns_eq, deref, List.find?_map]
  have hsame : ((fun handler : ServerHandler => decide (handler.pointer = pointer)) ∘ fun handler =>
      if handler.peerAddress = peerAddress then shut handler else handler) =
      fun handler => decide (handler.pointer = pointer) := by
    funext handler
    rw [Function.comp_apply]
    split_ifs <;> rfl
  rw [hsame]
  rfl

end Registry

namespace Reception

variable {I O : Type}

/-- A peer connects from an address that no connection has, and its handler is constructed where no
other one lives. -/
def Fresh (s : Reception I O) : Input I → Prop
  | .accept pointer peerAddress => ∀ handler ∈ s.registry.live,
      handler.pointer ≠ pointer ∧ handler.peerAddress ≠ peerAddress
  | .release _ => True
  | .receive _ _ _ _ => True
  | .run _ => True
  | .init _ _ => True
  | .eraseBegin _ _ => True

instance (s : Reception I O) : ∀ input, Decidable (s.Fresh input)
  | .accept pointer peerAddress => inferInstanceAs (Decidable (∀ handler ∈ s.registry.live,
      handler.pointer ≠ pointer ∧ handler.peerAddress ≠ peerAddress))
  | .release _ => .isTrue trivial
  | .receive _ _ _ _ => .isTrue trivial
  | .run _ => .isTrue trivial
  | .init _ _ => .isTrue trivial
  | .eraseBegin _ _ => .isTrue trivial

/-- A started thread leaves the handlers and the frames at work alone. -/
theorem callInit_frame [Inhabited I] (config : ProcConfig) (s : Reception I O) (k : Nat)
    (thread : InitThread) (caches : Nat) (stale : Option (UInt8 × Int32)) :
    (s.callInit config k thread caches stale).1.registry = s.registry ∧
      (s.callInit config k thread caches stale).1.work = s.work ∧
      ∀ pointer, (s.callInit config k thread caches stale).2 ≠ some (.dismissed pointer) := by
  unfold callInit
  cases s.captured thread stale with
  | none => exact ⟨rfl, rfl, nofun⟩
  | some captured => exact ⟨rfl, rfl, nofun⟩

variable [HardCoded I]

/-- The handlers have different addresses, those that work live, and the peers that are about to be
thrown out have sent a frame with a wrong code. -/
structure Sound (config : ProcConfig) (s : Reception I O) : Prop where
  registry : s.registry.Valid
  addresses : (s.registry.live.map ServerHandler.peerAddress).Nodup
  working : ∀ w ∈ s.work, (s.registry.deref w.pointer).isSome
  refused : ∀ w ∈ s.work, w.stage = .deleteFromConns →
    config.judgeHardCode (hardCode w.frame) = false

/-- What is known of the handler at a pointer since it was constructed: its socket is shut down if
and only if the handler has thrown out its peer, and it did that for a frame that it received. -/
structure Watched (config : ProcConfig) (pointer : Nat) (peerAddress : String)
    (s : Reception I O) (past : List (Input I)) (es : List (Option Event)) : Prop where
  sound : s.Sound config
  handler : s.registry.deref pointer =
    some ⟨pointer, peerAddress, decide (some (Event.dismissed pointer) ∈ es)⟩
  received : ∀ w ∈ s.work, w.pointer = pointer → ∃ now, .receive pointer w.cmd w.frame now ∈ past
  dismissed : some (Event.dismissed pointer) ∈ es → ∃ cmd frame now,
    .receive pointer cmd frame now ∈ past ∧ config.judgeHardCode (hardCode frame) = false

/-- What a turn of a thread does to the handlers and to the frames at work. -/
inductive Turn (config : ProcConfig) (s : Reception I O) (k : Nat) (w : Work I) :
    Reception I O × Option Event → Prop
  | moves (t : Reception I O) (e : Option Event) (stage : Stage)
      (registry : t.registry = s.registry) (work : t.work = s.work.set k { w with stage })
      (refused : stage = .deleteFromConns → config.judgeHardCode (hardCode w.frame) = false)
      (quiet : ∀ pointer, e ≠ some (.dismissed pointer)) : Turn config s k w (t, e)
  | returns (t : Reception I O) (e : Option Event) (registry : t.registry = s.registry)
      (work : t.work = s.work.eraseIdx k)
      (quiet : ∀ pointer, e ≠ some (.dismissed pointer)) : Turn config s k w (t, e)
  | dismisses (t : Reception I O) (handler : ServerHandler) (stage : w.stage = .deleteFromConns)
      (found : s.registry.deref w.pointer = some handler)
      (registry : t.registry = s.registry.deleteFromConns handler.peerAddress)
      (work : t.work = s.work.eraseIdx k) : Turn config s k w (t, some (.dismissed w.pointer))

variable {config : ProcConfig} {s t : Reception I O}

/-- The constructor of a handler keeps the state sound. -/
theorem Sound.accept (h : s.Sound config) {pointer : Nat} {peerAddress : String}
    (hfresh : s.Fresh (.accept pointer peerAddress)) :
    Sound config { s with registry := s.registry.accept pointer peerAddress } := by
  have hallocates : s.registry.Allocates (.accept pointer peerAddress) := fun hmem => by
    obtain ⟨handler, hhandler, hpointer⟩ := List.mem_map.mp hmem
    exact (hfresh handler hhandler).1 hpointer
  refine ⟨h.registry.step hallocates trivial, ?_, fun w hw => ?_, h.refused⟩
  · rw [Registry.accept, List.map_append, List.nodup_append]
    refine ⟨h.addresses, List.pairwise_singleton _ _, fun address haddress other hother heq => ?_⟩
    obtain ⟨handler, hhandler, rfl⟩ := List.mem_map.mp haddress
    exact (hfresh handler hhandler).2 (heq.trans (List.mem_singleton.mp hother))
  · obtain ⟨handler, hhandler⟩ := Option.isSome_iff_exists.mp (h.working w hw)
    rw [Registry.deref_accept hhandler]
    rfl

/-- The destructor of a handler that does not work keeps the state sound: no other handler has its
address. -/
theorem Sound.release (h : s.Sound config) {pointer : Nat} (hidle : s.Idle pointer) :
    Sound config { s with registry := s.registry.release pointer } := by
  have hallocates : s.registry.Allocates (.release pointer) := trivial
  have hcloses := s.registry.closes_of_nodup h.addresses (.release pointer)
  refine ⟨h.registry.step hallocates hcloses, ?_, fun w hw => ?_, h.refused⟩
  · have hlive : (s.registry.release pointer).live.Sublist s.registry.live := by
      unfold Registry.release
      split
      · exact List.Sublist.refl _
      · exact List.filter_sublist
    exact h.addresses.sublist (hlive.map _)
  · rw [Registry.deref_release (Ne.symm (hidle w hw))]
    exact h.working w hw

/-- A step that leaves the handlers alone, and after which the frames at work are old ones or those
of a live handler whose code is still to be judged, keeps the state sound. -/
theorem Sound.frame (h : s.Sound config) (hregistry : t.registry = s.registry)
    (hwork : ∀ w ∈ t.work, w ∈ s.work ∨
      (s.registry.deref w.pointer).isSome ∧
        (w.stage = .deleteFromConns → config.judgeHardCode (hardCode w.frame) = false)) :
    t.Sound config := by
  refine ⟨by rw [hregistry]; exact h.registry, by rw [hregistry]; exact h.addresses,
    fun w hw => ?_, fun w hw => ?_⟩
  · rw [hregistry]
    rcases hwork w hw with hold | hnew
    · exact h.working w hold
    · exact hnew.1
  · rcases hwork w hw with hold | hnew
    · exact h.refused w hold
    · exact hnew.2

/-- A turn of a thread keeps the state sound. -/
theorem Sound.turn (h : s.Sound config) {k : Nat} {w : Work I} (hw : s.work[k]? = some w)
    {e : Option Event} (hturn : Turn config s k w (t, e)) : t.Sound config := by
  have hmem : w ∈ s.work := List.mem_of_getElem? hw
  cases hturn with
  | moves _ _ stage hregistry hwork hrefused _ =>
      refine h.frame hregistry fun v hv => ?_
      rw [hwork] at hv
      rcases List.mem_or_eq_of_mem_set hv with hold | rfl
      · exact .inl hold
      · exact .inr ⟨h.working w hmem, hrefused⟩
  | returns _ _ hregistry hwork _ =>
      refine h.frame hregistry fun v hv => .inl ?_
      rw [hwork] at hv
      exact List.mem_of_mem_eraseIdx hv
  | dismisses _ handler _ _ hregistry hwork =>
      have hlive : ∀ f : ServerHandler → String, (∀ other, f (Registry.shut other) = f other) →
          (s.registry.deleteFromConns handler.peerAddress).live.map f = s.registry.live.map f := by
        intro f hf
        rw [h.registry.deleteFromConns_eq, List.map_map]
        refine List.map_congr_left fun other _ => ?_
        rw [Function.comp_apply]
        split_ifs
        · exact hf other
        · rfl
      have hold : ∀ v ∈ t.work, v ∈ s.work := fun v hv => by
        rw [hwork] at hv
        exact List.mem_of_mem_eraseIdx hv
      refine ⟨?_, ?_, fun v hv => ?_, fun v hv => h.refused v (hold v hv)⟩
      · have hallocates : s.registry.Allocates (.deleteFromConns handler.peerAddress) := trivial
        rw [hregistry]
        exact h.registry.step hallocates trivial
      · rw [hregistry, hlive ServerHandler.peerAddress fun _ => rfl]
        exact h.addresses
      · rw [hregistry, h.registry.deref_deleteFromConns, Option.isSome_map]
        exact h.working v (hold v hv)

variable {pointer : Nat} {peerAddress : String} {past : List (Input I)} {es : List (Option Event)}

/-- A step that does not touch the handler, and after which its frames at work are old ones or the
one that it has just received, leaves it watched. -/
theorem Watched.frame (h : Watched config pointer peerAddress s past es) {input : Input I}
    {e : Option Event} (hsound : t.Sound config)
    (hregistry : t.registry.deref pointer = s.registry.deref pointer)
    (hwork : ∀ w ∈ t.work, w.pointer = pointer → (∃ v ∈ s.work, v.pointer = w.pointer ∧
      v.cmd = w.cmd ∧ v.frame = w.frame) ∨ ∃ now, input = .receive pointer w.cmd w.frame now)
    (hquiet : e ≠ some (.dismissed pointer)) :
    Watched config pointer peerAddress t (past ++ [input]) (es ++ [e]) := by
  have hevent : some (Event.dismissed pointer) ∈ es ++ [e] ↔
      some (Event.dismissed pointer) ∈ es := by
    rw [List.mem_append, List.mem_singleton]
    exact or_iff_left (Ne.symm hquiet)
  refine ⟨hsound, ?_, fun w hw hpointer => ?_, fun hdismissed => ?_⟩
  · rw [hregistry, h.handler]
    simp only [hevent]
  · rcases hwork w hw hpointer with ⟨v, hv, hsame, hcmd, hframe⟩ | ⟨now, hnow⟩
    · obtain ⟨now, hnow⟩ := h.received v hv (hsame.trans hpointer)
      rw [hcmd, hframe] at hnow
      exact ⟨now, List.mem_append_left _ hnow⟩
    · exact ⟨now, List.mem_append_right _ (by rw [hnow]; simp)⟩
  · obtain ⟨cmd, frame, now, hmem, hjudge⟩ := h.dismissed (hevent.mp hdismissed)
    exact ⟨cmd, frame, now, List.mem_append_left _ hmem, hjudge⟩

/-- A turn of a thread leaves a handler watched. A thread that throws out a peer shuts down the
socket of its own handler. -/
theorem Watched.turn (h : Watched config pointer peerAddress s past es) {input : Input I} {k : Nat}
    {w : Work I} (hw : s.work[k]? = some w) {e : Option Event}
    (hturn : Turn config s k w (t, e)) :
    Watched config pointer peerAddress t (past ++ [input]) (es ++ [e]) := by
  have hsound := h.sound.turn hw hturn
  have hmem : w ∈ s.work := List.mem_of_getElem? hw
  cases hturn with
  | moves _ _ stage hregistry hwork _ hquiet =>
      refine h.frame hsound (by rw [hregistry]) (fun v hv _ => .inl ?_) (hquiet pointer)
      rw [hwork] at hv
      rcases List.mem_or_eq_of_mem_set hv with hold | rfl
      · exact ⟨v, hold, rfl, rfl, rfl⟩
      · exact ⟨w, hmem, rfl, rfl, rfl⟩
  | returns _ _ hregistry hwork hquiet =>
      refine h.frame hsound (by rw [hregistry]) (fun v hv _ => .inl ?_) (hquiet pointer)
      rw [hwork] at hv
      exact ⟨v, List.mem_of_mem_eraseIdx hv, rfl, rfl, rfl⟩
  | dismisses _ handler hstage hfound hregistry hwork =>
      have hold : ∀ v ∈ t.work, v ∈ s.work := fun v hv => by
        rw [hwork] at hv
        exact List.mem_of_mem_eraseIdx hv
      have hafter : t.registry.deref pointer = (s.registry.deref pointer).map fun other =>
          if other.peerAddress = handler.peerAddress then Registry.shut other else other := by
        rw [hregistry, h.sound.registry.deref_deleteFromConns]
      by_cases hsame : w.pointer = pointer
      · rw [hsame] at hfound ⊢
        have haddress : handler.peerAddress = peerAddress := by
          rw [h.handler, Option.some.injEq] at hfound
          rw [← hfound]
        refine ⟨hsound, ?_, fun v hv hpointer => ?_, fun _ => ?_⟩
        · rw [hafter, h.handler, Option.map_some, if_pos haddress.symm]
          simp [Registry.shut]
        · obtain ⟨now, hnow⟩ := h.received v (hold v hv) hpointer
          exact ⟨now, List.mem_append_left _ hnow⟩
        · obtain ⟨now, hnow⟩ := h.received w hmem hsame
          exact ⟨w.cmd, w.frame, now, List.mem_append_left _ hnow, h.sound.refused w hmem hstage⟩
      · -- the other handler has another address
        have hother : peerAddress ≠ handler.peerAddress := fun heq => hsame ?_
        · refine h.frame hsound ?_ (fun v hv _ => .inl ⟨v, hold v hv, rfl, rfl, rfl⟩) ?_
          · rw [hafter, h.handler, Option.map_some, if_neg hother]
          · intro heq
            exact hsame (Event.dismissed.inj (Option.some.inj heq))
        · have hlive := List.mem_of_find?_eq_some hfound
          have hself := List.mem_of_find?_eq_some h.handler
          have hhandler := List.inj_on_of_nodup_map h.sound.addresses hlive hself heq.symm
          have hpointer : handler.pointer = w.pointer := by
            simpa using List.find?_some hfound
          rw [← hpointer, hhandler]

/-- Nothing lives at the start. -/
theorem sound_start [Inhabited I] (config : ProcConfig) :
    Sound config (start config : Reception I O) where
  registry := ⟨rfl, List.nodup_nil⟩
  addresses := List.nodup_nil
  working := nofun
  refused := nofun

/-- A handler that was just constructed is watched: its socket is open and its thread has received
nothing. -/
theorem Sound.watched (h : s.Sound config) (hfresh : s.Fresh (.accept pointer peerAddress)) :
    Watched config pointer peerAddress
      { s with registry := s.registry.accept pointer peerAddress } [] [] := by
  have hnone : s.registry.deref pointer = none := by
    refine List.find?_eq_none.mpr fun handler hmem heq => ?_
    exact (hfresh handler hmem).1 (of_decide_eq_true heq)
  refine ⟨h.accept hfresh, ?_, fun w hw hpointer => ?_, nofun⟩
  · unfold Registry.accept Registry.deref at *
    rw [List.find?_append, hnone]
    simp
  · have hlive := h.working w hw
    rw [hpointer, hnone] at hlive
    exact nomatch hlive

/-- The turns of a thread that has found a lane. -/
theorem Turn.found {k : Nat} {w : Work I} (hregistry : t.registry = s.registry)
    (hwork : t.work = s.work) (process : PkgProcessFun I O) (index : Int) :
    Turn config s k w (t.found k w process index) := by
  have hreturns : (t.finish k w).work = s.work.eraseIdx k := by
    rw [← hwork]
    rfl
  have hmoves (stage : Stage) :
      (t.goto k w stage).work = s.work.set k { w with stage } := by
    rw [← hwork]
    rfl
  unfold Reception.found
  split_ifs
  · exact .returns _ _ hregistry hreturns nofun
  · exact .moves _ _ (.update index) hregistry (hmoves _) nofun nofun
  · exact .moves _ _ (.pushI index) hregistry (hmoves _) nofun nofun

variable [Timestamped I]

/-- The turns of a thread. -/
theorem turn_run (s : Reception I O) (k : Nat) (w : Work I) (process : PkgProcessFun I O) :
    Turn config s k w (s.run config k w process) := by
  unfold Reception.run
  cases hstage : w.stage with
  | judgeHardCode =>
      dsimp only
      split_ifs with hjudge
      · cases process.lane with
        | none => exact .returns _ _ rfl rfl nofun
        | some lane => exact .moves _ _ .lane rfl rfl nofun nofun
      · exact .moves _ _ .deleteFromConns rfl rfl (fun _ => Bool.eq_false_iff.mpr hjudge) nofun
  | deleteFromConns =>
      dsimp only
      cases hfound : s.registry.deref w.pointer with
      | none => exact .returns _ _ rfl rfl nofun
      | some handler => exact .dismisses _ handler hstage hfound rfl rfl
  | lane =>
      dsimp only
      cases process.lane with
      | none => exact .returns _ _ rfl rfl nofun
      | some lane =>
          dsimp only
          cases lane (s.unit w.cmd) w.frame with
          | known index => exact .found rfl rfl process index
          | free i => exact .moves _ _ (.assign i) rfl rfl nofun nofun
  | assign i =>
      dsimp only
      apply Turn.found
      · rfl
      · rfl
  | update index =>
      dsimp only
      cases process.caches with
      | none => exact .moves _ _ (.startTask index) rfl rfl nofun nofun
      | some caches => exact .moves _ _ (.startTask index) rfl rfl nofun nofun
  | startTask index =>
      dsimp only
      split_ifs
      · exact .moves _ _ (.pushI index) rfl rfl nofun nofun
      · exact .moves _ _ (.pushI index) rfl rfl nofun nofun
  | pushI index => exact .returns _ _ rfl rfl nofun

variable [Directed I]

/-- A package that is received is one more frame at work at most, whose code is still to be
judged. -/
theorem receive_cases (config : ProcConfig) (s : Reception I O) (pointer : Nat) (cmd : UInt8)
    (frame : I) (now : Nat) :
    s.receive config pointer cmd frame now = s ∨
      s.receive config pointer cmd frame now =
        { s with work := s.work ++ [{ pointer, cmd, frame, stage := .judgeHardCode }] } := by
  unfold receive
  split
  · exact .inl rfl
  · split_ifs
    · exact .inl rfl
    · exact .inl rfl
    · exact .inl rfl
    · exact .inr rfl

/-- Every step keeps the state sound, if no peer connects from an address that is in use. -/
theorem Sound.step [Inhabited I] (h : s.Sound config) {input : Input I} (hfresh : s.Fresh input) :
    (Reception.step config s input).1.Sound config := by
  unfold Reception.step
  cases input with
  | accept pointer peerAddress => exact h.accept hfresh
  | release pointer =>
      dsimp only
      split_ifs with hidle
      · exact h.release hidle
      · exact h
  | receive pointer cmd frame now =>
      dsimp only
      split_ifs with hfree
      · rw [Bool.and_eq_true] at hfree
        rcases receive_cases config s pointer cmd frame now with hsame | hnew
        · rw [hsame]
          exact h
        · rw [hnew]
          refine h.frame rfl fun w hw => ?_
          rcases List.mem_append.mp hw with hold | hlast
          · exact .inl hold
          · rw [List.mem_singleton.mp hlast]
            exact .inr ⟨hfree.1, nofun⟩
      · exact h
  | run k =>
      dsimp only
      cases hw : s.work[k]? with
      | none => exact h
      | some w =>
          dsimp only
          cases (pkgProcessMap w.cmd : Option (PkgProcessFun I O)) with
          | none => exact h
          | some process => exact h.turn hw (turn_run s k w process)
  | init k stale =>
      dsimp only
      cases s.starting[k]? with
      | none => exact h
      | some thread =>
          dsimp only
          cases (pkgProcessMap thread.cmd : Option (PkgProcessFun I O)).bind
            PkgProcessFun.caches with
          | none => exact h
          | some caches =>
              obtain ⟨hregistry, hwork, -⟩ := callInit_frame config s k thread caches stale
              exact h.frame hregistry fun w hw => .inl (hwork ▸ hw)
  | eraseBegin cmd index => exact h.frame rfl fun w hw => .inl hw

/-- Every step leaves a handler watched that is not destroyed, if no peer connects from an address
that is in use. -/
theorem Watched.step [Inhabited I] (h : Watched config pointer peerAddress s past es)
    {input : Input I} (hfresh : s.Fresh input) (hstays : input ≠ .release pointer) :
    Watched config pointer peerAddress (Reception.step config s input).1 (past ++ [input])
      (es ++ [(Reception.step config s input).2]) := by
  have hsound := h.sound.step hfresh
  have hquiet : ∀ {t : Reception I O}, t.Sound config →
      t.registry.deref pointer = s.registry.deref pointer → t.work = s.work →
        Watched config pointer peerAddress t (past ++ [input]) (es ++ [none]) :=
    fun ht hregistry hwork => h.frame ht hregistry
      (fun w hw _ => .inl ⟨w, hwork ▸ hw, rfl, rfl, rfl⟩) nofun
  unfold Reception.step at hsound ⊢
  cases input with
  | accept other address =>
      exact hquiet hsound (by rw [Registry.deref_accept h.handler, h.handler]) rfl
  | release other =>
      have hother : other ≠ pointer := fun heq => hstays (by rw [heq])
      dsimp only at hsound ⊢
      split_ifs at hsound ⊢
      · exact hquiet hsound (Registry.deref_release hother) rfl
      · exact hquiet hsound rfl rfl
  | receive other cmd frame now =>
      dsimp only at hsound ⊢
      split_ifs at hsound ⊢
      · rcases receive_cases config s other cmd frame now with hsame | hnew
        · rw [hsame] at hsound ⊢
          exact hquiet hsound rfl rfl
        · rw [hnew] at hsound ⊢
          refine h.frame hsound rfl (fun w hw hpointer => ?_) nofun
          rcases List.mem_append.mp hw with hold | hlast
          · exact .inl ⟨w, hold, rfl, rfl, rfl⟩
          · rw [List.mem_singleton.mp hlast] at hpointer ⊢
            have hother : other = pointer := hpointer
            exact .inr ⟨now, by rw [hother]⟩
      · exact hquiet hsound rfl rfl
  | run k =>
      dsimp only at hsound ⊢
      cases hw : s.work[k]? with
      | none => exact hquiet h.sound rfl rfl
      | some w =>
          dsimp only
          cases (pkgProcessMap w.cmd : Option (PkgProcessFun I O)) with
          | none => exact hquiet h.sound rfl rfl
          | some process => exact h.turn hw (turn_run s k w process)
  | init k stale =>
      dsimp only at hsound ⊢
      cases s.starting[k]? with
      | none => exact hquiet h.sound rfl rfl
      | some thread =>
          dsimp only
          cases (pkgProcessMap thread.cmd : Option (PkgProcessFun I O)).bind
            PkgProcessFun.caches with
          | none => exact hquiet h.sound rfl rfl
          | some caches =>
              obtain ⟨hregistry, hwork, hevent⟩ := callInit_frame config s k thread caches stale
              exact h.frame (h.sound.frame hregistry fun w hw => .inl (hwork ▸ hw))
                (by rw [hregistry]) (fun w hw _ => .inl ⟨w, hwork ▸ hw, rfl, rfl, rfl⟩)
                (hevent pointer)
  | eraseBegin cmd index => exact hquiet hsound rfl rfl

/-- Peers connect from addresses that are not in use, the handler at a pointer is constructed for
one of them and not destroyed, and anything else happens, in any order. Then its socket was shut
down by the server if and only if its own thread did that, and only for a frame that came over this
connection, with a code that is not in the table. -/
theorem dismissed_own_frame [Inhabited I] (config : ProcConfig) (before after : List (Input I))
    (pointer : Nat) (peerAddress : String)
    (hfresh : Allowed (step config) Fresh (start config : Reception I O)
      (before ++ .accept pointer peerAddress :: after))
    (hstays : ∀ input ∈ after, input ≠ .release pointer) :
    let s := final (step config) (start config : Reception I O) before
    let accepted := (step config s (.accept pointer peerAddress)).1
    ∃ handler, (final (step config) accepted after).registry.deref pointer = some handler ∧
      (handler.isShutdown = true ↔
        some (.dismissed pointer) ∈ outputs (step config) accepted after) ∧
      (handler.isShutdown = true → ∃ cmd frame now, .receive pointer cmd frame now ∈ after ∧
        config.judgeHardCode (hardCode frame) = false) := by
  intro s accepted
  rw [allowed_append, allowed_cons] at hfresh
  obtain ⟨hbefore, haccept, hafter⟩ := hfresh
  have hsound : s.Sound config :=
    final_invariant Fresh (fun _ _ h => h.step) (sound_start config) hbefore
  have hwatched : Watched config pointer peerAddress accepted [] [] := hsound.watched haccept
  have hallowed : Allowed (step config) (fun s input => s.Fresh input ∧ input ≠ .release pointer)
      accepted after := hafter.and (allowed_of_forall _ _ fun _ => hstays)
  have hfinal := final_of_history _ (fun _ _ _ _ h hok => h.step hok.1 hok.2) hwatched hallowed
  rw [List.nil_append, List.nil_append] at hfinal
  refine ⟨_, hfinal.handler, decide_eq_true_iff, fun hshut => ?_⟩
  exact hfinal.dismissed (of_decide_eq_true hshut)

/-- The second of two peers sends a frame of a device that is not in the table. -/
theorem dismissed_own_frame_second :
    let config : ProcConfig := { associatedEquips := ["A"] }
    let accepted : Reception TrafficFlow Unit :=
      (step config (final (step config) (start config) [.accept 1 "a:1"]) (.accept 2 "b:1")).1
    let after : List (Input TrafficFlow) := [.receive 2 0x07 ⟨"B", 0⟩ 0, .run 0, .run 0]
    ∃ handler, (final (step config) accepted after).registry.deref 2 = some handler ∧
      (handler.isShutdown = true ↔
        some (.dismissed 2) ∈ outputs (step config) accepted after) ∧
      (handler.isShutdown = true → ∃ cmd frame now, .receive 2 cmd frame now ∈ after ∧
        config.judgeHardCode (hardCode frame) = false) :=
  dismissed_own_frame (I := TrafficFlow) (O := Unit) { associatedEquips := ["A"] }
    [.accept 1 "a:1"] [.receive 2 0x07 ⟨"B", 0⟩ 0, .run 0, .run 0] 2 "b:1"
    (by decide +kernel) (by simp)

end Reception

end RVDataFusionServer
