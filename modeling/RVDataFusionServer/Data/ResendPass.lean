import RVDataFusionServer.Data.CountLimit

/-!
# One pass over the resend queue

The loop of `startBusiness` erases the message at its index and then increases the index, so that
the message behind an erased one is not looked at in this pass. `treats_all_iff` says that a pass
treats every message if and only if none but the last one leaves the queue.
-/

namespace RVDataFusionServer

open Library

namespace Resending

/-- What becomes of a message: the clients behind `doSend`, and whether it was sent or is judged to
leave. -/
def treat (config : ReconnectConfig) (clientList : ClientList) (msg : Msg) (env : SendEnv) :
    Except Fault (ClientList × Bool) := do
  let (clientList, iter, _, result) ← ReSendQueue.doSend config clientList msg env
  pure (clientList, decide (result = 0) || ReSendQueue.judge iter)

/-- A pass with its history: the messages that `doSend` was called for, and whether they left. -/
structure Sweep where
  s : Resending
  treated : List (Msg × Bool) := []

/-- The body of the loop, with its history. -/
def Sweep.visit (config : ReconnectConfig) (env : Nat → SendEnv) (sweep : Sweep) (i : Nat) :
    Except Fault Sweep :=
  match sweep.s.queue.msgQueue[i]? with
  | none => pure sweep
  | some msg => do
      let (_, left) ← treat config sweep.s.clientList msg (env i)
      let s ← sweep.s.visit config i (env i)
      pure { s, treated := sweep.treated ++ [(msg, left)] }

/-- A pass with its history. -/
def sweep (config : ReconnectConfig) (s : Resending) (env : Nat → SendEnv) : Except Fault Sweep :=
  (List.range s.queue.msgQueue.length).foldlM (Sweep.visit config env) { s }

/-- Every message that was there is treated once, in order, and those that were neither sent nor
judged to leave stay in their order. -/
def TreatsAll (config : ReconnectConfig) (s : Resending) (env : Nat → SendEnv) : Prop :=
  ∃ result, s.sweep config env = .ok result ∧
    result.treated.map Prod.fst = s.queue.msgQueue ∧
    result.s.queue.msgQueue = (result.treated.filter fun entry => !entry.2).map Prod.fst

/-- When the messages are treated in order, from index `i` on, at most the last one is sent or
judged to leave. -/
def OnlyLastLeaves (config : ReconnectConfig) (env : Nat → SendEnv) :
    ClientList → Nat → List Msg → Prop
  | _, _, [] => True
  | clientList, i, msg :: rest =>
      ∀ after left, treat config clientList msg (env i) = .ok (after, left) →
        (left = true → rest = []) ∧ OnlyLastLeaves config env after (i + 1) rest

/-- A visit treats the message at its index. -/
theorem visit_treat (config : ReconnectConfig) {s : Resending} {i : Nat} {msg : Msg}
    (hmsg : s.queue.msgQueue[i]? = some msg) (env : SendEnv) :
    ∃ clientList left after, treat config s.clientList msg env = .ok (clientList, left) ∧
      s.visit config i env = .ok after ∧ after.clientList = clientList ∧
      after.queue.msgQueue = if left then s.queue.msgQueue.eraseIdx i else s.queue.msgQueue := by
  obtain ⟨clientList, result, hsend, -⟩ := s.clientList.sendTo_spec config msg.name msg.pkg env
  refine ⟨clientList, _, _, bind_eq_ok.mpr ⟨_, doSend_eq hsend, rfl⟩, visit_eq hmsg hsend, rfl, ?_⟩
  by_cases hsent : result = some 0
  · simp [hsent]
  · cases ReSendQueue.judge (handled msg env result) with
    | true => simp [hsent]
    | false => simp [hsent]

/-- A visit with its history, at the index of a message. -/
theorem Sweep.visit_eq (config : ReconnectConfig) (env : Nat → SendEnv) {run : Sweep} {i : Nat}
    {msg : Msg} (hmsg : run.s.queue.msgQueue[i]? = some msg) :
    ∃ clientList left after, treat config run.s.clientList msg (env i) = .ok (clientList, left) ∧
      run.s.visit config i (env i) = .ok after ∧
      run.visit config env i = .ok { s := after, treated := run.treated ++ [(msg, left)] } ∧
      after.clientList = clientList ∧
      after.queue.msgQueue =
        if left then run.s.queue.msgQueue.eraseIdx i else run.s.queue.msgQueue := by
  obtain ⟨clientList, left, after, htreat, hvisit, hclients, hqueue⟩ :=
    visit_treat config hmsg (env i)
  refine ⟨clientList, left, after, htreat, hvisit, ?_, hclients, hqueue⟩
  unfold Sweep.visit
  rw [hmsg]
  exact bind_eq_ok.mpr ⟨_, htreat, bind_eq_ok.mpr ⟨after, hvisit, rfl⟩⟩

/-- Behind the end of the queue nothing is visited. -/
theorem Sweep.visit_none (config : ReconnectConfig) (env : Nat → SendEnv) {run : Sweep} {i : Nat}
    (hnone : run.s.queue.msgQueue[i]? = none) :
    run.visit config env i = .ok run ∧ run.s.visit config i (env i) = .ok run.s := by
  constructor
  · unfold Sweep.visit
    rw [hnone]
    rfl
  · exact Resending.visit_none config hnone (env i)

/-- The history changes nothing of the pass. -/
theorem map_sweep (config : ReconnectConfig) (s : Resending) (env : Nat → SendEnv) :
    (s.sweep config env).map Sweep.s = s.pass config env := by
  have hloop (indices : List Nat) (run : Sweep) :
      (indices.foldlM (Sweep.visit config env) run).map Sweep.s =
        indices.foldlM (fun s i => s.visit config i (env i)) run.s := by
    induction indices generalizing run with
    | nil => rfl
    | cons i indices ih =>
        rw [List.foldlM_cons, List.foldlM_cons]
        cases hmsg : run.s.queue.msgQueue[i]? with
        | none =>
            obtain ⟨hsame, hvisit⟩ := Sweep.visit_none config env hmsg
            rw [hsame, hvisit]
            exact ih run
        | some msg =>
            obtain ⟨clientList, left, after, -, hvisit, hrun, -⟩ :=
              Sweep.visit_eq config env hmsg
            rw [hrun, hvisit]
            exact ih _
  exact hloop _ _

/-- From index `i` on, no more messages are treated than stand in the queue there. -/
theorem length_treated_le (config : ReconnectConfig) (env : Nat → SendEnv) (run : Sweep)
    (i count : Nat) :
    ∃ result, (List.range' i count).foldlM (Sweep.visit config env) run = .ok result ∧
      result.treated.length ≤
        run.treated.length + (run.s.queue.msgQueue.length - i) := by
  induction count generalizing run i with
  | zero => exact ⟨run, rfl, Nat.le_add_right _ _⟩
  | succ count ih =>
      rw [List.range'_succ, List.foldlM_cons]
      cases hmsg : run.s.queue.msgQueue[i]? with
      | none =>
          obtain ⟨result, hresult, hle⟩ := ih run (i + 1)
          rw [(Sweep.visit_none config env hmsg).1]
          exact ⟨result, hresult, by omega⟩
      | some msg =>
          obtain ⟨clientList, left, after, -, -, hrun, -, hqueue⟩ :=
            Sweep.visit_eq config env hmsg
          obtain ⟨result, hresult, hle⟩ :=
            ih { s := after, treated := run.treated ++ [(msg, left)] } (i + 1)
          have hlt := (List.getElem?_eq_some_iff.mp hmsg).1
          have hshorter : after.queue.msgQueue.length ≤ run.s.queue.msgQueue.length := by
            rw [hqueue]
            split
            · exact List.length_eraseIdx_le _ _
            · exact Nat.le_refl _
          rw [hrun]
          refine ⟨result, hresult, ?_⟩
          simp only [List.length_append, List.length_singleton] at hle
          omega

/-- The condition on the messages behind the first one, when the outcome of this one is known. -/
theorem onlyLastLeaves_cons {config : ReconnectConfig} {env : Nat → SendEnv}
    {clientList after : ClientList} {i : Nat} {msg : Msg} {left : Bool} (rest : List Msg)
    (htreat : treat config clientList msg (env i) = .ok (after, left)) :
    OnlyLastLeaves config env clientList i (msg :: rest) ↔
      (left = true → rest = []) ∧ OnlyLastLeaves config env after (i + 1) rest := by
  constructor
  · intro h
    exact h after left htreat
  · intro h other other_left hother
    rw [htreat] at hother
    cases hother
    exact h

/-- The messages of a history in which nothing has left. -/
theorem stayed_eq (done : List Msg) :
    (done.map fun msg => (msg, false)).map Prod.fst = done ∧
      ((done.map fun msg => (msg, false)).filter fun entry => !entry.2) =
        done.map fun msg => (msg, false) := by
  constructor
  · rw [List.map_map]
    exact List.map_id' done
  · rw [List.filter_eq_self]
    simp

/-- The rest of a pass in which no message has left so far: when one leaves that is not the last
one, the number of messages that are still looked at is too small. -/
theorem rest_iff (config : ReconnectConfig) (env : Nat → SendEnv) (rest done : List Msg)
    (run : Sweep) (hqueue : run.s.queue.msgQueue = done ++ rest)
    (htreated : run.treated = done.map fun msg => (msg, false)) :
    (∃ result, (List.range' done.length rest.length).foldlM (Sweep.visit config env) run =
        .ok result ∧
      result.treated.map Prod.fst = done ++ rest ∧
      result.s.queue.msgQueue = (result.treated.filter fun entry => !entry.2).map Prod.fst) ↔
    OnlyLastLeaves config env run.s.clientList done.length rest := by
  induction rest generalizing done run with
  | nil =>
      obtain ⟨hmap, hfilter⟩ := stayed_eq done
      constructor
      · intro _
        trivial
      · intro _
        refine ⟨run, rfl, ?_, ?_⟩
        · rw [htreated, hmap, List.append_nil]
        · rw [htreated, hfilter, hmap, hqueue, List.append_nil]
  | cons msg rest ih =>
      have hmsg : run.s.queue.msgQueue[done.length]? = some msg := by
        rw [hqueue]
        simp
      obtain ⟨clientList, left, after, htreat, -, hrun, hclients, hafter⟩ :=
        Sweep.visit_eq config env hmsg
      rw [onlyLastLeaves_cons rest htreat, List.length_cons, List.range'_succ, List.foldlM_cons,
        hrun]
      cases left with
      | false =>
          -- the message stays, and the pass goes on behind it
          have hnext := ih (done ++ [msg]) { s := after, treated := run.treated ++ [(msg, false)] }
            (by rw [hafter, hqueue]; simp) (by rw [htreated]; simp)
          rw [List.length_append, List.length_singleton, List.append_assoc, hclients] at hnext
          refine hnext.trans ?_
          simp
      | true =>
          have herased : after.queue.msgQueue = done ++ rest := by
            rw [hafter, if_pos rfl, hqueue, List.eraseIdx_append_of_length_le (Nat.le_refl _)]
            simp
          cases rest with
          | nil =>
              obtain ⟨hmap, hfilter⟩ := stayed_eq done
              constructor
              · intro _
                exact ⟨fun _ => rfl, trivial⟩
              · intro _
                refine ⟨_, rfl, ?_, ?_⟩
                · rw [List.map_append, htreated, hmap]
                  rfl
                · rw [List.filter_append, List.map_append, htreated, hfilter, hmap, herased]
                  rfl
          | cons next rest =>
              constructor
              · rintro ⟨result, hresult, hall, -⟩
                obtain ⟨other, hother, hle⟩ := length_treated_le config env
                  { s := after, treated := run.treated ++ [(msg, true)] } (done.length + 1)
                  (next :: rest).length
                have hsame : result = other := Except.ok.inj (hresult.symm.trans hother)
                have hcount := congrArg List.length hall
                subst hsame
                simp only [herased, htreated, List.length_map, List.length_append,
                  List.length_cons, List.length_nil] at hle hcount
                omega
              · rintro ⟨hlast, -⟩
                cases hlast rfl

/-- When a pass treats every message: at most the last one leaves the queue. -/
theorem treats_all_iff (config : ReconnectConfig) (s : Resending) (env : Nat → SendEnv) :
    TreatsAll config s env ↔ OnlyLastLeaves config env s.clientList 0 s.queue.msgQueue := by
  have hrest := rest_iff config env s.queue.msgQueue [] { s } rfl rfl
  rw [List.length_nil, ← List.range_eq_range', List.nil_append] at hrest
  exact hrest

/-- Two messages for the client that is connected. -/
def twoMessages : Resending where
  clientList := onlyClient2
  queue := { msgQueue := [twice, { twice with number := 1 }] }

/-- When the first one is sent, the second one is not treated. -/
theorem not_treats_all_two : ¬ TreatsAll {} twoMessages fun _ => { outcome := .returned 17 } := by
  rintro ⟨result, hresult, hall, -⟩
  have hone : (twoMessages.sweep {} fun _ => { outcome := .returned 17 }).map
      (fun result => result.treated.length) = .ok 1 := by
    decide +kernel
  rw [hresult] at hone
  have hlength : result.treated.length = 1 := Except.ok.inj hone
  have htwo := congrArg List.length hall
  rw [List.length_map, hlength] at htwo
  exact absurd htwo (by decide)

end Resending

end RVDataFusionServer
