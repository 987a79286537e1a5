import RVDataFusionServer.Library.Erasing
import RVDataFusionServer.Library.Execution

/-!
# The list of connections

`conns` (`config.h`) holds a pointer to each `MyTcpServerHandler`. The constructor appends it, and
the destructor walks over the list and erases what has the peer address of the handler, its own
pointer or another one. `always_registered_iff` says when the list holds the handlers that live, and
no pointer to one that does not, and `Valid.deleteFromConns_eq` whose sockets are shut down then.
-/

namespace RVDataFusionServer

open Library Execution

/-- `MyTcpServerHandler`, as far as `conns` goes: where it lies, its peer address and whether its
socket was shut down. -/
structure ServerHandler where
  pointer : Nat
  peerAddress : String
  isShutdown : Bool := false
  deriving DecidableEq, Repr

/-- The handlers that are constructed and not destroyed, the oldest one first, and `conns`. -/
structure Registry where
  live : List ServerHandler := []
  conns : List Nat := []
  deriving DecidableEq, Repr

namespace Registry

/-- What a pointer points to: nothing if the handler is destroyed. -/
def deref (r : Registry) (pointer : Nat) : Option ServerHandler :=
  r.live.find? fun handler => handler.pointer = pointer

/-- `conn->_peerAddress == peerAddress`. -/
def hasAddress (r : Registry) (peerAddress : String) (pointer : Nat) : Bool :=
  (r.deref pointer).any fun handler => handler.peerAddress = peerAddress

/-- The constructor of `MyTcpServerHandler`. -/
def accept (r : Registry) (pointer : Nat) (peerAddress : String) : Registry where
  live := r.live ++ [{ pointer, peerAddress }]
  conns := r.conns ++ [pointer]

/-- The destructor of `MyTcpServerHandler`. -/
def release (r : Registry) (pointer : Nat) : Registry :=
  match r.deref pointer with
  | none => r
  | some handler =>
      { live := r.live.filter fun other => other.pointer ≠ pointer
        conns := eraseLoop (r.hasAddress handler.peerAddress) r.conns 0 }

/-- `conn->_socket.shutdown()`. -/
def shutdown (r : Registry) (pointer : Nat) : Registry where
  live := r.live.map fun handler =>
    if handler.pointer = pointer then { handler with isShutdown := true } else handler
  conns := r.conns

/-- `deleteFromConns`. -/
def deleteFromConns (r : Registry) (peerAddress : String) : Registry :=
  r.conns.foldl (fun r conn => if r.hasAddress peerAddress conn then r.shutdown conn else r) r

/-- What happens to `conns`: a handler is constructed at an address of the memory, one is destroyed,
or a peer is thrown out. -/
inductive Input where
  | accept (pointer : Nat) (peerAddress : String)
  | release (pointer : Nat)
  | deleteFromConns (peerAddress : String)
  deriving DecidableEq, Repr

/-- One step. -/
def step (r : Registry) : Input → Registry × Unit
  | .accept pointer peerAddress => (r.accept pointer peerAddress, ())
  | .release pointer => (r.release pointer, ())
  | .deleteFromConns peerAddress => (r.deleteFromConns peerAddress, ())

/-- `conns` holds the handlers that live, in the order of their construction. -/
def Registered (r : Registry) : Prop :=
  r.conns = r.live.map ServerHandler.pointer

/-- No handler is constructed where another one lives. -/
def Allocates (r : Registry) : Input → Prop
  | .accept pointer _ => pointer ∉ r.live.map ServerHandler.pointer
  | .release _ => True
  | .deleteFromConns _ => True

/-- The handlers with the peer address of one that is destroyed: there is none but the handler
constructed right after it. -/
def Closes (r : Registry) : Input → Prop
  | .accept _ _ => True
  | .release pointer =>
      ∀ i < r.live.length, ∀ handler ∈ r.live[i]?, handler.pointer = pointer →
        ∀ other ∈ r.live.take i ++ r.live.drop (i + 2), other.peerAddress ≠ handler.peerAddress
  | .deleteFromConns _ => True

instance (r : Registry) : ∀ input, Decidable (r.Allocates input)
  | .accept _ _ => inferInstanceAs (Decidable (¬ _))
  | .release _ => .isTrue trivial
  | .deleteFromConns _ => .isTrue trivial

instance (r : Registry) : ∀ input, Decidable (r.Closes input)
  | .accept _ _ => .isTrue trivial
  | .release pointer =>
      inferInstanceAs (Decidable (∀ i < r.live.length, ∀ handler ∈ r.live[i]?,
        handler.pointer = pointer → ∀ other ∈ r.live.take i ++ r.live.drop (i + 2),
          other.peerAddress ≠ handler.peerAddress))
  | .deleteFromConns _ => .isTrue trivial

/-- `conns` is right, and no two handlers lie at one place. -/
structure Valid (r : Registry) : Prop where
  registered : r.Registered
  nodup : (r.live.map ServerHandler.pointer).Nodup

variable {r : Registry} {pointer : Nat} {peerAddress : String}

/-- Where a handler lives, its pointer points to it. -/
theorem deref_of_mem (hnodup : (r.live.map ServerHandler.pointer).Nodup) {handler : ServerHandler}
    (hmem : handler ∈ r.live) : r.deref handler.pointer = some handler := by
  obtain ⟨front, rest, hlive⟩ := List.append_of_mem hmem
  rw [hlive, List.map_append, List.map_cons, List.nodup_append] at hnodup
  have hfront : front.find? (fun other => other.pointer = handler.pointer) = none := by
    refine List.find?_eq_none.mpr fun other hother heq => ?_
    exact hnodup.2.2 other.pointer (List.mem_map_of_mem hother) handler.pointer (by simp)
      (of_decide_eq_true heq)
  rw [deref, hlive, List.find?_append, hfront, List.find?_cons_of_pos (by simp)]
  rfl

/-- A pointer to a handler has the peer address of the handler. -/
theorem hasAddress_of_mem (hnodup : (r.live.map ServerHandler.pointer).Nodup)
    {handler : ServerHandler} (hmem : handler ∈ r.live) (peerAddress : String) :
    r.hasAddress peerAddress handler.pointer = decide (handler.peerAddress = peerAddress) := by
  rw [hasAddress, deref_of_mem hnodup hmem, Option.any_some]

/-- What is destroyed is the handler at its pointer. -/
theorem Valid.release_eq (h : r.Valid) {front rest : List ServerHandler} {handler : ServerHandler}
    (hlive : r.live = front ++ handler :: rest) :
    r.release handler.pointer =
      { live := front ++ rest
        conns := skipErase (r.hasAddress handler.peerAddress) r.conns } := by
  have hderef : r.deref handler.pointer = some handler := deref_of_mem h.nodup (by rw [hlive]; simp)
  have hnodup := h.nodup
  rw [hlive, List.map_append, List.map_cons, List.nodup_append, List.nodup_cons] at hnodup
  obtain ⟨-, ⟨hrest, -⟩, hfront⟩ := hnodup
  have hkeepFront : front.filter (fun other => other.pointer ≠ handler.pointer) = front := by
    refine List.filter_eq_self.mpr fun other hother => decide_eq_true ?_
    exact hfront other.pointer (List.mem_map_of_mem hother) handler.pointer (by simp)
  have hkeepRest : rest.filter (fun other => other.pointer ≠ handler.pointer) = rest := by
    refine List.filter_eq_self.mpr fun other hother => decide_eq_true fun heq => hrest ?_
    rw [← heq]
    exact List.mem_map_of_mem hother
  unfold release
  rw [hderef]
  dsimp only
  rw [eraseLoop_eq, hlive, List.filter_append, hkeepFront,
    List.filter_cons_of_neg (by simp), hkeepRest]

/-- Destroying a handler keeps `conns` right exactly if the other handlers with its peer address are
where the loop passes them. -/
theorem Valid.registered_release_iff (h : r.Valid) {front rest : List ServerHandler}
    {handler : ServerHandler} (hlive : r.live = front ++ handler :: rest) :
    (r.release handler.pointer).Registered ↔
      ∀ other ∈ front ++ rest.tail, other.peerAddress ≠ handler.peerAddress := by
  have hnodup := h.nodup
  rw [hlive, List.map_append, List.map_cons] at hnodup
  have haddress : ∀ other ∈ r.live, r.hasAddress handler.peerAddress other.pointer = false ↔
      other.peerAddress ≠ handler.peerAddress := fun other hother => by
    rw [hasAddress_of_mem h.nodup hother, decide_eq_false_iff_not]
  have hself : r.hasAddress handler.peerAddress handler.pointer = true := by
    rw [hasAddress_of_mem h.nodup (by rw [hlive]; simp), decide_eq_true rfl]
  rw [Registered, h.release_eq hlive, h.registered, hlive, List.map_append, List.map_cons,
    List.map_append, skipErase_eq_append_iff hself hnodup, ← List.map_tail,
    List.forall_mem_map, List.forall_mem_map, List.forall_mem_append]
  refine and_congr ?_ ?_
  · refine forall₂_congr fun other hother => haddress other ?_
    rw [hlive]
    simp [hother]
  · refine forall₂_congr fun other hother => haddress other ?_
    rw [hlive]
    simp [List.mem_of_mem_tail hother]

/-- A handler with its socket shut down. -/
def shut (handler : ServerHandler) : ServerHandler := { handler with isShutdown := true }

/-- A turn of the loop of `deleteFromConns`. -/
theorem live_shutdown_if (hnodup : (r.live.map ServerHandler.pointer).Nodup)
    (peerAddress : String) (conn : Nat) :
    (if r.hasAddress peerAddress conn then r.shutdown conn else r).live =
      r.live.map fun handler =>
        if handler.peerAddress = peerAddress ∧ handler.pointer = conn then shut handler
        else handler := by
  have haddress : ∀ handler ∈ r.live, handler.pointer = conn →
      (r.hasAddress peerAddress conn = true ↔ handler.peerAddress = peerAddress) := by
    intro handler hmem hpointer
    rw [← hpointer, hasAddress_of_mem hnodup hmem, decide_eq_true_eq]
  split_ifs with hhas
  · refine List.map_congr_left fun handler hmem => ?_
    by_cases hpointer : handler.pointer = conn
    · rw [if_pos hpointer, if_pos ⟨(haddress handler hmem hpointer).mp hhas, hpointer⟩]
      rfl
    · rw [if_neg hpointer, if_neg fun h => hpointer h.2]
  · have hsame : r.live.map (fun handler =>
        if handler.peerAddress = peerAddress ∧ handler.pointer = conn then shut handler
        else handler) = r.live.map id := by
      refine List.map_congr_left fun handler hmem => if_neg fun h => hhas ?_
      exact (haddress handler hmem h.2).mpr h.1
    rw [hsame, List.map_id]

/-- The loop of `deleteFromConns` over some of the connections. -/
theorem live_foldl_shutdown (peerAddress : String) (conns : List Nat)
    (hnodup : (r.live.map ServerHandler.pointer).Nodup) :
    let after := conns.foldl
      (fun r conn => if r.hasAddress peerAddress conn then r.shutdown conn else r) r
    after.conns = r.conns ∧
      after.live = r.live.map fun handler =>
        if handler.peerAddress = peerAddress ∧ handler.pointer ∈ conns then shut handler
        else handler := by
  induction conns generalizing r with
  | nil => simp
  | cons conn conns ih =>
      have hturn := live_shutdown_if hnodup peerAddress conn
      have hnext : ((if r.hasAddress peerAddress conn then r.shutdown conn else r).live.map
          ServerHandler.pointer).Nodup := by
        rw [hturn, List.map_map]
        have hsame : (ServerHandler.pointer ∘ fun handler =>
            if handler.peerAddress = peerAddress ∧ handler.pointer = conn then shut handler
            else handler) = ServerHandler.pointer := by
          funext handler
          rw [Function.comp_apply]
          split_ifs <;> rfl
        rw [hsame]
        exact hnodup
      obtain ⟨hconns, hlive⟩ := ih hnext
      rw [List.foldl_cons]
      refine ⟨hconns.trans ?_, hlive.trans ?_⟩
      · split_ifs <;> rfl
      · rw [hturn, List.map_map]
        refine List.map_congr_left fun handler _ => ?_
        rw [Function.comp_apply]
        by_cases hpeer : handler.peerAddress = peerAddress
        · by_cases hconn : handler.pointer = conn
          · simp [hpeer, hconn, shut]
          · simp [hpeer, hconn]
        · simp [hpeer]

/-- Throwing out a peer shuts down the sockets of the handlers with its address, and no other. -/
theorem Valid.deleteFromConns_eq (h : r.Valid) (peerAddress : String) :
    r.deleteFromConns peerAddress =
      { live := r.live.map fun handler =>
          if handler.peerAddress = peerAddress then shut handler else handler
        conns := r.conns } := by
  obtain ⟨hconns, hlive⟩ := live_foldl_shutdown peerAddress r.conns h.nodup
  have hall : r.live.map (fun handler =>
      if handler.peerAddress = peerAddress ∧ handler.pointer ∈ r.conns then shut handler
      else handler) =
      r.live.map fun handler =>
        if handler.peerAddress = peerAddress then shut handler else handler := by
    refine List.map_congr_left fun handler hmem => ?_
    have hconn : handler.pointer ∈ r.conns := by
      rw [h.registered]
      exact List.mem_map_of_mem hmem
    simp [hconn]
  exact congrArg₂ Registry.mk (hlive.trans hall) hconns

/-- Every step that closes a handler in the right place keeps `conns` right. -/
theorem Valid.step (h : r.Valid) {input : Input} (hallocates : r.Allocates input)
    (hcloses : r.Closes input) : (Registry.step r input).1.Valid := by
  cases input with
  | accept pointer peerAddress =>
      refine ⟨?_, ?_⟩
      · rw [Registered, Registry.step, accept, h.registered, List.map_append]
        rfl
      · rw [Registry.step, accept, List.map_append, List.nodup_append]
        refine ⟨h.nodup, List.pairwise_singleton _ _, fun p hp q hq heq => hallocates ?_⟩
        have hpointer : p = pointer := heq.trans (List.mem_singleton.mp hq)
        rw [← hpointer]
        exact hp
  | release pointer =>
      rw [Registry.step]
      cases hderef : r.deref pointer with
      | none =>
          rw [release, hderef]
          exact h
      | some handler =>
          have hpointer : handler.pointer = pointer := by
            simpa using List.find?_some hderef
          obtain ⟨front, rest, hlive⟩ := List.append_of_mem (List.mem_of_find?_eq_some hderef)
          have hothers := hcloses front.length (by rw [hlive]; simp) handler (by rw [hlive]; simp)
            hpointer
          have htake : r.live.take front.length ++ r.live.drop (front.length + 2) =
              front ++ rest.tail := by
            rw [hlive, List.take_left, List.drop_append]
            simp
          rw [htake] at hothers
          rw [← hpointer]
          refine ⟨(h.registered_release_iff hlive).mpr hothers, ?_⟩
          have hnodup := h.nodup
          rw [hlive, List.map_append] at hnodup
          rw [h.release_eq hlive, List.map_append]
          exact hnodup.sublist (List.Sublist.append (List.Sublist.refl _)
            (List.Sublist.map _ (List.sublist_cons_self _ _)))
  | deleteFromConns peerAddress =>
      have hsame : (r.deleteFromConns peerAddress).live.map ServerHandler.pointer =
          r.live.map ServerHandler.pointer := by
        rw [h.deleteFromConns_eq, List.map_map]
        refine List.map_congr_left fun handler _ => ?_
        rw [Function.comp_apply]
        split_ifs <;> rfl
      refine ⟨?_, ?_⟩
      · rw [Registered, Registry.step, hsame, h.deleteFromConns_eq]
        exact h.registered
      · rw [Registry.step, hsame]
        exact h.nodup

/-- A handler that is closed in a wrong place leaves `conns` wrong. -/
theorem Valid.not_registered (h : r.Valid) {input : Input} (hcloses : ¬ r.Closes input) :
    ¬ (Registry.step r input).1.Registered := by
  cases input with
  | accept pointer peerAddress => exact absurd trivial hcloses
  | deleteFromConns peerAddress => exact absurd trivial hcloses
  | release pointer =>
      intro hregistered
      refine hcloses fun i _ handler hhandler hpointer => ?_
      obtain ⟨hi, hget⟩ := List.getElem?_eq_some_iff.mp (Option.mem_def.mp hhandler)
      have hlive : r.live = r.live.take i ++ handler :: r.live.drop (i + 1) := by
        rw [← hget, ← List.drop_eq_getElem_cons hi, List.take_append_drop]
      rw [Registry.step, ← hpointer] at hregistered
      have hothers := (h.registered_release_iff hlive).mp hregistered
      rw [List.tail_drop] at hothers
      exact hothers

/-- If all addresses differ, every handler may be destroyed. -/
theorem closes_of_nodup (r : Registry) (h : (r.live.map ServerHandler.peerAddress).Nodup)
    (input : Input) : r.Closes input := by
  cases input with
  | accept pointer peerAddress => trivial
  | deleteFromConns peerAddress => trivial
  | release pointer =>
      intro i _ handler hhandler _ other hother heq
      obtain ⟨hlt, hget⟩ := List.getElem?_eq_some_iff.mp (Option.mem_def.mp hhandler)
      have hsplit : r.live = r.live.take i ++ handler :: r.live.drop (i + 1) := by
        rw [← hget, ← List.drop_eq_getElem_cons hlt, List.take_append_drop]
      rw [hsplit, List.map_append, List.map_cons, List.nodup_append, List.nodup_cons] at h
      rcases List.mem_append.mp hother with hbefore | hafter
      · exact h.2.2 _ (List.mem_map_of_mem hbefore) _ (by simp) heq
      · have hdrop : other ∈ r.live.drop (i + 1) := by
          rw [← List.tail_drop] at hafter
          exact List.mem_of_mem_tail hafter
        exact h.2.1.1 (heq ▸ List.mem_map_of_mem hdrop)

/-- In every run in which no handler is constructed where another one lives, `conns` holds the
handlers that live, and nothing else, if and only if whenever a handler is destroyed, no other one
with its peer address lives but the one that was constructed right after it. -/
theorem always_registered_iff (inputs : List Input)
    (hallocates : Allowed step Allocates {} inputs) :
    Always step Registered {} inputs ↔ Allowed step Closes {} inputs :=
  always_iff_allowed_of_domain Valid (fun _ hvalid => hvalid.registered)
    (fun _ _ hvalid hdom hok => hvalid.step hdom hok)
    (fun _ _ hvalid _ hbad => hvalid.not_registered hbad)
    ⟨(rfl : ({} : Registry).conns = []), List.nodup_nil⟩ hallocates

/-- A peer connects again from its old port before its first connection is gone, and then the first
connection is closed. With another peer in between, this would unregister both. -/
theorem always_registered_reconnect :
    Always step Registered {}
        [.accept 1 "a:1", .accept 2 "a:1", .accept 3 "b:1", .release 1] ∧
      ¬ Always step Registered {}
        [.accept 1 "a:1", .accept 3 "b:1", .accept 2 "a:1", .release 1] :=
  ⟨(always_registered_iff _ (by decide)).mpr (by decide),
    fun h => absurd ((always_registered_iff _ (by decide)).mp h) (by decide)⟩

end Registry

end RVDataFusionServer
