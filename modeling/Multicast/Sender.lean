import Multicast.Interfaces
import Multicast.Packet
import Multicast.Socket
import Multicast.Transport

/-!
# `Multicast.Sender` — sending to every group

The sender has one socket for each family in use and sends one packet to every group in each step,
after a pause. Each session numbers its own packets from zero on; a packet counts once it was sent.

## Contents
- **Opening.** `Sender.configure`, the options of a socket, and `Sender.start`.
- **Sending.** `Sender.sendOne`, `Sender.sendFrom` and `Sender.step`.
- **Closing.** `Sender.close`, and the stages together in `Sender.transport`.
-/

namespace Multicast

/-- The settings of a sender. -/
structure Sender where
  /-- The interface to send on, an empty name for the system's choice. -/
  interface : String := ""
  /-- How many hops a packet may take. -/
  ttl : Int := 1
  /-- The size of a payload, before it is brought into its limits. -/
  size : Int := 100
  /-- The packets to send to each group, 0 for no end. -/
  count : Int := 0
  period : Seconds
deriving Repr, DecidableEq

namespace Sender

open Act

/-! ## Opening -/

/-- Sets the hop limit of a socket, and its interface if there is one. -/
def configure (s : Sender) (index : Int) (id : SocketId) : Family → Act Unit
  | .inet => do
    setOption id .ttl4 (.number s.ttl)
    if index ≠ 0 then
      match interfaceRequest4? (zeros 4) index with
      | some request => setOption id .interface4 (.bytes request)
      | none => throw (.fieldRange true index)
  | .inet6 => do
    setOption id .hops6 (.number s.ttl)
    if index ≠ 0 then setOption id .interface6 (.number index)

/-- The sockets after one more was opened; an earlier one of the same family gives up its place. -/
def withUplink (family : Family) (id : SocketId) :
    List (Family × SocketId) → List (Family × SocketId)
  | [] => [(family, id)]
  | (f, old) :: rest =>
    if f = family then (family, id) :: rest else (f, old) :: withUplink family id rest

/-- Opens the socket of a family. One that cannot be set up is closed again. -/
def openUplink (s : Sender) (index : Int) (family : Family) : Act Unit := do
  let id ← openSocket family
  recover (s.configure index id family) Fault.isSystem fun e => do
    closeSocket id
    throw (.transport (.setup e.message))
  modify fun w => { w with uplinks := withUplink family id w.uplinks }

/-- Opens one socket for each family of the sessions. -/
def start (s : Sender) : Act Unit := do
  let index ← interfaceIndex s.interface
  (← get).table.families.forM (s.openUplink index)
  let interface := if s.interface = "" then "default interface" else s.interface
  log .info s!"Sending to {(← get).table.size} groups on {interface}, TTL {s.ttl}"

/-! ## Sending -/

/-- Sends the next packet of a session. -/
def sendOne (s : Sender) (index : Nat) (session : Session) : Act Unit := do
  match session.target with
  | none => throw .unresolved
  | some target =>
    match (← get).uplinks.lookup target.family with
    | none => throw .unknownSocket
    | some id =>
      let packet := Packet.encode session.nextSeq index (Packet.clampSize s.size)
      recover (attempt .send (.send id packet target)) Fault.isSystem fun e =>
        throw (.transport (.sending session.group e.message))
      modifySession index Session.sent

/-- Sends one packet for each session that is still open, from the given index on. -/
def sendFrom (s : Sender) (index : Nat) : List Session → Act Unit
  | [] => pure ()
  | session :: rest => do
    if session.isOpen s.count then s.sendOne index session
    s.sendFrom (index + 1) rest

/-- Pauses, then sends one packet to every group. -/
def step (s : Sender) : Act Unit := do
  submit (.pause (← measured s.period))
  await
  s.sendFrom 0 (← get).table.sessions
  finishWhenDone s.count s!"Sent {s.count} packets to every group, done"

/-! ## Closing -/

/-- Closes all sockets. -/
def close : Act Unit := do
  (← get).uplinks.forM fun (_, id) => closeSocket id
  modify ({ · with uplinks := [] })

/-- The stages of sending. -/
def transport (s : Sender) : Transport := ⟨s.start, s.step, close⟩

end Sender

end Multicast
