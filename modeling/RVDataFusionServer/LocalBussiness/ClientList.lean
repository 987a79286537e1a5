import Mathlib.Logic.Function.Basic
import RVDataFusionServer.MyTcp.SendBase

/-!
# The clients and what the tasks do with one

`LocalBusiness::clientList` is a map from names to clients. The tasks that send run over it in a
loop whose body tests the name, and as a map has one entry for a name, the body runs at most once.
While a task sends, other threads receive on the client and reconnect it: what they do is an
argument.
-/

namespace RVDataFusionServer

open Library

/-- `LocalBusiness::clientList`, by the connections of the clients. -/
abbrev ClientList := String → Option Connection

/-- What happens around one send: what other threads make of the connection before
`isNeedReconnect` is tested and then before `SendBase` gets the lock, what the socket does, and
what the clock shows. -/
structure SendEnv where
  beforeTest : Connection → Connection := id
  beforeLock : Connection → Connection := id
  outcome : SendOutcome
  timestampStart : UInt64 := 0
  now : UInt64 := 0
  now' : UInt64 := 0

/-- The client as a task finds it. -/
def ClientList.found (clientList : ClientList) (name : String) (env : SendEnv) :
    Option Connection :=
  (clientList name).map env.beforeTest

/-- What the loops over `clientList` share: unless the client needs a reconnect, the package goes
to `SendBase`, whose return value comes back. -/
def ClientList.sendTo (config : ReconnectConfig) (clientList : ClientList) (name : String)
    (pkg : Pkg) (env : SendEnv) : Except Fault (ClientList × Option Int) :=
  match clientList.found name env with
  | none => pure (clientList, none)
  | some conn =>
      if conn.isNeedReconnect then pure (Function.update clientList name (some conn), none)
      else do
        let (ret, conn) ← (env.beforeLock conn).sendBase config pkg env.outcome env.now env.now'
        pure (Function.update clientList name (some conn), some ret)

/-- A client takes a send when it exists and needs no reconnect. -/
def ClientList.Connected (clientList : ClientList) (name : String) (env : SendEnv) : Prop :=
  ∃ conn, clientList.found name env = some conn ∧ conn.isNeedReconnect = false

/-- A send returns, and it has a return value if and only if the client is connected. -/
theorem ClientList.sendTo_spec (config : ReconnectConfig) (clientList : ClientList)
    (name : String) (pkg : Pkg) (env : SendEnv) :
    ∃ after result, clientList.sendTo config name pkg env = .ok (after, result) ∧
      (result.isSome ↔ clientList.Connected name env) := by
  unfold sendTo Connected
  cases hfound : clientList.found name env with
  | none => exact ⟨clientList, none, rfl, by simp⟩
  | some conn =>
      by_cases hneed : conn.isNeedReconnect = true
      · refine ⟨Function.update clientList name (some conn), none, ?_, by simp [hneed]⟩
        simp [hneed, pure, Except.pure]
      · obtain ⟨⟨ret, conn'⟩, hsend⟩ :=
          (env.beforeLock conn).sendBase_ok config pkg env.outcome env.now env.now'
        refine ⟨Function.update clientList name (some conn'), some ret, ?_, by simp [hneed]⟩
        simp [hneed, hsend, bind, Except.bind, pure, Except.pure]

end RVDataFusionServer
