import Mathlib.Tactic.Ring
import RVDataFusionServer.Common.Pkg

/-!
# Sending a package

The part of `MyTcpClient` that `SendBase` works on, and `SendBase` itself. What the socket does is
an argument: it returns a number of bytes or raises one of the errors that the client tells
apart.
-/

namespace RVDataFusionServer

open Library

/-- The error codes of the socket: the three that do not end a connection, and all others. -/
inductive SocketError where
  | timedOut
  | wouldBlock
  | again
  | other
  deriving DecidableEq, Repr

/-- The outcome of `_socket.sendBytes`. -/
inductive SendOutcome where
  | returned (len : Int)
  | raised (code : SocketError)
  deriving DecidableEq, Repr

/-- The two settings of `localConfig` that a client reads. -/
structure ReconnectConfig where
  isUseThresholdReconnect : Bool := true
  thresholdReconnect : Int32 := 5
  deriving DecidableEq, Repr

/-- The threshold in milliseconds: the product of two `int`s. -/
def ReconnectConfig.limit (config : ReconnectConfig) : Int :=
  (1000 * config.thresholdReconnect).toInt

/-- The state of a client's connection. -/
structure Connection where
  isNeedReconnect : Bool := true
  timeSend : UInt64 := 0
  timeRecv : UInt64 := 0
  deriving DecidableEq, Repr

/-- A time as the number that a comparison as `long long` makes of it. -/
theorem toInt64_toInt_of_lt {time : UInt64} (h : time.toNat < 2 ^ 63) :
    time.toInt64.toInt = time.toNat := by
  show time.toBitVec.toInt = _
  rw [BitVec.toInt_eq_toNat_of_lt]
  · rfl
  · show 2 * time.toNat < 2 ^ 64
    omega

namespace Connection

/-- The assignments with which `Open` and `Reconnect` end. -/
def opened : Connection where
  isNeedReconnect := false
  timeSend := 0
  timeRecv := 0

/-- `Open` and `Reconnect`, with their return value. A connection that cannot be made leaves the
client as it is. -/
def connect (conn : Connection) (connected : Bool) : Int × Connection :=
  if connected then (0, opened) else (-1, conn)

/-- The times of the last answer and the last message are too far apart. -/
def Overdue (config : ReconnectConfig) (conn : Connection) : Prop :=
  config.isUseThresholdReconnect = true ∧
    config.limit ≤ ((conn.timeRecv.toInt64.toInt - conn.timeSend.toInt64.toInt).natAbs : Int)

instance (config : ReconnectConfig) (conn : Connection) : Decidable (conn.Overdue config) :=
  inferInstanceAs (Decidable (_ ∧ _))

/-- The bookkeeping behind a send: the times, and their check. -/
def sentAt (config : ReconnectConfig) (conn : Connection) (now now' : UInt64) : Connection :=
  let conn := if conn.timeSend = 0 then { conn with timeRecv := now } else conn
  let conn := { conn with timeSend := now' }
  if conn.Overdue config then { conn with isNeedReconnect := true } else conn

/-- What `SendBase` makes of the outcome of a send of `lenSend` bytes: its return value, and
whether it asks for a reconnect. -/
def judgeSend (lenSend : Nat) : SendOutcome → Int × Bool
  | .returned len =>
      if len < 0 then (-2, true)
      else if len ≠ lenSend then (-2, true)
      else (0, false)
  | .raised .other => (-2, true)
  | .raised _ => (-3, false)

/-- `MyTcpClient::SendBase`, with its return value. -/
def sendBase (config : ReconnectConfig) (conn : Connection) (pkg : Pkg) (outcome : SendOutcome)
    (now now' : UInt64) : Except Fault (Int × Connection) :=
  if conn.isNeedReconnect then .ok (-1, conn)
  else do
    let size := sizeofPkgHead + sizeofPkgCRC + pkg.body.length
    let (lenSend, _, _) ← pack pkg ⟨size, fun _ => 0⟩ (UInt32.ofNat size)
    if lenSend = 0 then pure (-1, conn)
    else
      let (ret, need) := judgeSend lenSend.toNat outcome
      let conn := { conn with isNeedReconnect := need }
      pure (ret, conn.sentAt config now now')

/-- `SendBase` does not leave its buffer. -/
theorem sendBase_ok (config : ReconnectConfig) (conn : Connection) (pkg : Pkg)
    (outcome : SendOutcome) (now now' : UInt64) :
    ∃ result, sendBase config conn pkg outcome now now' = .ok result := by
  unfold sendBase
  split_ifs
  · exact ⟨_, rfl⟩
  obtain ⟨⟨lenSend, packed, buffer⟩, hpack⟩ := pack_ok pkg
    ⟨sizeofPkgHead + sizeofPkgCRC + pkg.body.length, fun _ => 0⟩
    (UInt32.ofNat (sizeofPkgHead + sizeofPkgCRC + pkg.body.length)) (Nat.le_refl _)
  simp only [hpack, bind, Except.bind, pure, Except.pure]
  split_ifs <;> exact ⟨_, rfl⟩

end Connection

end RVDataFusionServer
