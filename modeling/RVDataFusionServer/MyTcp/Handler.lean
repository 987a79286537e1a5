import RVDataFusionServer.Common.Pkg
import RVDataFusionServer.Library.Execution
import RVDataFusionServer.Queue
import RVDataFusionServer.RingBuffer

/-!
# The connection handler and its state machine

`MyTcpHandler.hpp`: received bytes go into a ring buffer, and `ThreadStateMachine` cuts them into
packages, which it pushes to `pkgs`. `iterate` is one round of its loop, with one function for
each state. `step` adds the two other threads that touch a handler: the receiving one, which
writes to the ring buffer, and `ThreadProcessPkg`, which pops from `pkgs`.

An access outside of the package buffer is the fault `outOfBounds`, and a faulted handler stays
faulted. Allocating the package buffer is taken to succeed. The log lines are left out, and with
them the packages that are only logged.
-/

namespace RVDataFusionServer

open Library

/-- `MyTcpHandler::RecvStatus`. A status outside of these four cannot be built, so that the
`default` branch of the loop has no counterpart. -/
inductive RecvStatus where
  | start
  | getHead
  | getBody
  | getCRC
  deriving DecidableEq, Repr

/-- The part of `MyTcpHandler` that the state machine works on. `pkgBuffer` is `none` where the
source has a null pointer. -/
structure MyTcpHandler where
  rb : RingBuffer
  pkgs : Queue Pkg
  status : RecvStatus := .start
  pkgHead : PkgHead := {}
  bodyLen : UInt64 := 0
  pkgBuffer : Option (Block UInt8) := none
  pkgBufferIndex : Int := 0

/-- One call `pkgs.push(pkg)` of the state machine: the package, the packages that were pending,
and the return value. -/
structure Handed where
  pkg : Pkg
  pending : List Pkg
  accepted : Bool
  deriving DecidableEq, Repr

/-- The value of a C `int` after an arithmetic operation. -/
def wrapInt (x : Int) : Int := Int.bmod x (2 ^ 32)

namespace MyTcpHandler

/-- `BUFFER_SIZE`. -/
def bufferSize : Nat := 1024 * 1024 * 4

/-- The maximum that the constructor gives to `pkgs`. -/
def pkgsMax : Nat := 30

/-- The constructor. `junk` is what the new ring buffer holds. -/
def new (junk : Nat → UInt8) : MyTcpHandler where
  rb := RingBuffer.new bufferSize junk
  pkgs := Queue.setMax {} pkgsMax

/-- The assignments that end every attempt at a package. -/
def reset (h : MyTcpHandler) : MyTcpHandler :=
  { h with bodyLen := 0, pkgBuffer := none, pkgBufferIndex := 0, status := .start }

/-- `case Start`. -/
def onStart (h : MyTcpHandler) : Except Fault MyTcpHandler :=
  if 1 ≤ h.rb.getReadLen then do
    let (rb, bytes) ← h.rb.read 1
    let start := bytes.getD 0 0
    pure { h with rb := rb, status := if start = startTag then .getHead else h.status }
  else pure h

/-- `case GetHead`. `junk` is what the new package buffer holds. -/
def onGetHead (h : MyTcpHandler) (junk : Nat → UInt8) : Except Fault MyTcpHandler :=
  if sizeofPkgHead - 1 ≤ h.rb.getReadLen then do
    let (rb, bytes) ← h.rb.read (sizeofPkgHead - 1)
    let pkgHead := PkgHead.ofBytes (startTag :: bytes)
    let pkgBuffer ← Block.store ⟨pkgHead.len.toNat, junk⟩ 0 pkgHead.toBytes
    pure
      { h with
        rb := rb
        pkgHead := pkgHead
        pkgBuffer := some pkgBuffer
        pkgBufferIndex := sizeofPkgHead
        status := .getBody
        bodyLen := pkgHead.len.toUInt64 - 13 - 2 }
  else pure h

/-- `case GetBody`, the branch that takes the body in pieces. -/
def onGetBody (h : MyTcpHandler) : Except Fault MyTcpHandler :=
  match h.pkgBuffer with
  | none => .error .outOfBounds
  | some pkgBuffer => do
    let readLen := min h.rb.getReadLen h.bodyLen.toNat
    let (rb, bytes) ← h.rb.read readLen
    let pkgBuffer ← pkgBuffer.store h.pkgBufferIndex bytes
    let bodyLen := h.bodyLen - UInt64.ofNat readLen
    pure
      { h with
        rb := rb
        pkgBuffer := some pkgBuffer
        bodyLen := bodyLen
        pkgBufferIndex := wrapInt (h.pkgBufferIndex + readLen)
        status := if bodyLen = 0 then .getCRC else h.status }

/-- `case GetCRC`, with the package that is handed to `pkgs`, if any. -/
def onGetCRC (h : MyTcpHandler) : Except Fault (MyTcpHandler × Option Handed) :=
  if sizeofPkgCRC ≤ h.rb.getReadLen then
    match h.pkgBuffer with
    | none => .error .outOfBounds
    | some pkgBuffer => do
      let (rb, bytes) ← h.rb.read sizeofPkgCRC
      let pkgBuffer ← pkgBuffer.store h.pkgBufferIndex bytes
      let h := { h with rb := rb }
      let (ret, pkg) ← unpack pkgBuffer h.pkgHead.len {}
      if ret ≠ 0 then pure (h.reset, none)
      else
        let data ← pkgBuffer.load 0 (h.pkgHead.len - 2).toNat
        if crc16TabCCITT data ≠ pkg.crc.data then pure (h.reset, none)
        else
          let (pkgs, accepted) := h.pkgs.push pkg
          pure ({ h.reset with pkgs := pkgs }, some ⟨pkg, h.pkgs.q, accepted⟩)
  else pure (h, none)

/-- One round of the loop of `ThreadStateMachine`. -/
def iterate (h : MyTcpHandler) (junk : Nat → UInt8) :
    Except Fault (MyTcpHandler × Option Handed) :=
  if h.rb.getReadLen = 0 then .ok (h, none)
  else
    match h.status with
    | .start => do pure (← h.onStart, none)
    | .getHead => do pure (← h.onGetHead junk, none)
    | .getBody => do pure (← h.onGetBody, none)
    | .getCRC => h.onGetCRC

/-- What happens to a handler: its ring buffer is written to, the state machine makes one round,
or `ThreadProcessPkg` asks for a package. -/
inductive Input where
  | write (data : List UInt8)
  | iterate (junk : Nat → UInt8)
  | pop

/-- What can be seen of a step: the return value of a write, the package handed to `pkgs` and the
package taken from it. -/
inductive Event where
  | quiet
  | wrote (count : Nat)
  | handed (handed : Handed)
  | popped (pkg : Pkg)
  deriving DecidableEq, Repr

/-- What can be seen of a round. -/
def Event.ofRound : Option Handed → Event
  | none => .quiet
  | some package => .handed package

/-- A step of a handler that has not faulted. -/
def act (h : MyTcpHandler) : Input → Except Fault (MyTcpHandler × Event)
  | .write data => do
      let (rb, count) ← h.rb.write data
      pure ({ h with rb := rb }, .wrote count)
  | .iterate junk => do
      let (h, out) ← h.iterate junk
      pure (h, .ofRound out)
  | .pop =>
      match h.pkgs.pop with
      | none => .ok (h, .quiet)
      | some (pkg, pkgs) => .ok ({ h with pkgs := pkgs }, .popped pkg)

/-- A step of a handler. A fault is final. -/
def step (state : Except Fault MyTcpHandler) (input : Input) :
    Except Fault MyTcpHandler × Event :=
  match state >>= fun h => h.act input with
  | .ok (h, event) => (.ok h, event)
  | .error fault => (.error fault, .quiet)

end MyTcpHandler

end RVDataFusionServer
