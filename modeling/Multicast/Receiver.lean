import Multicast.Address.Numbers
import Multicast.Interfaces
import Multicast.Packet
import Multicast.Socket
import Multicast.Transport

/-!
# `Multicast.Receiver` — receiving from every group

The receiver joins each group on a socket of its own and counts what arrives there. A session owns
its socket from the moment on that it was joined; until then, a socket that fails is closed on the
spot.

## Contents
- **Joining.** `Receiver.join`, `Receiver.openOne` and `Receiver.start`.
- **Counting.** `Receiver.account`, one datagram of a session.
- **Receiving.** `Receiver.drain` empties a socket, `Receiver.serve` all that are ready;
  `Receiver.wait` and `Receiver.step`.
- **Closing.** `Receiver.forget`, `Receiver.close`, and the stages together in `Receiver.transport`.
-/

namespace Multicast

/-- The settings of a receiver. -/
structure Receiver where
  /-- The interface to join on, an empty name for the system's choice. -/
  interface : String := ""
  /-- The datagrams to count for each group, 0 for no end. -/
  count : Int := 0
  /-- The longest wait of a step. -/
  period : Seconds
  /-- The largest datagram that is read. -/
  limit : Int := Packet.maxSize
deriving Repr, DecidableEq

namespace Receiver

open Act

/-! ## Joining -/

/-- The bytes of the local address on which an IPv4 group is received from its source. -/
def localAddress (r : Receiver) : Act Octets := do
  let text ← interfaceAddress r.interface Family.inet.number false
  match Address.readNumbers? text with
  | some address => pure address
  | none => throw (.system .notNumbers)

/-- Asks for the membership of a group. -/
def join (r : Receiver) (index : Int) (id : SocketId) (target : Endpoint)
    (origin : Option Endpoint) : Act Unit := do
  let address ←
    if target.family = .inet ∧ origin.isSome then r.localAddress else pure []
  match Membership.request? target origin index address with
  | some (name, request) => setOption id name (.bytes request)
  | none => throw (.fieldRange (target.family = .inet) index)

/-- Opens the socket of a session and joins its group. A socket that cannot be joined is closed
again. -/
def openOne (r : Receiver) (index : Int) (session : Session) : Act SocketId := do
  match session.target with
  | none => throw .unresolved
  | some target =>
    let id ← openSocket target.family
    let prepare : Act Unit := do
      setOption id .reuseAddress (.number 1)
      bindSocket id target
      r.join index id target session.origin
      call (.unblock id)
    recover prepare Fault.isSystem fun e => do
      closeSocket id
      throw (.transport (.joining session.label e.message))
    let interface := if r.interface = "" then "default interface" else r.interface
    log .info s!"Joining {session.label} on {interface}"
    pure id

/-- Hands an open socket to the session at a position, and watches it. -/
def adopt (position : Nat) (id : SocketId) : Act Unit := do
  modifySession position ({ · with socket := some id })
  modifyHost fun h => { h with watched := h.watched ++ [⟨id, position, []⟩] }

/-- Joins the groups of sessions, the first of which is at the given position. -/
def joinFrom (r : Receiver) (index : Int) (position : Nat) : List Session → Act Unit
  | [] => pure ()
  | session :: rest => do
    let id ← r.openOne index session
    adopt position id
    r.joinFrom index (position + 1) rest

/-- Joins all groups. -/
def start (r : Receiver) : Act Unit := do
  let index ← interfaceIndex r.interface
  r.joinFrom index 0 (← get).table.sessions

/-! ## Counting -/

/-- Logs what there is to remark on a datagram of a group. -/
def remark (group : String) : Session.Remark → Act Unit
  | .foreign size => log .debug s!"Unknown payload, {size} bytes from {group}"
  | .gap missing seq last =>
    log .info s!"{group}: gap of {missing} packets detected, seqno {seq} after {last}"

/-- Counts a datagram of the session at an index, and tells whether it was counted: a session that
has reached the limit ignores it. -/
def account (r : Receiver) (i : Int) (data : Octets) : Act Bool := do
  match (← get).table.get? i with
  | none => throw (.noSession i)
  | some session =>
    if session.isOpen r.count then
      let seq := (Packet.decode? data).map fun (seq, _) => (seq : Int)
      let (counted, note) := session.accept data.length seq
      modifySession i fun _ => counted
      match note with
      | some note => remark session.group note
      | none => pure ()
      pure true
    else pure false

/-! ## Receiving -/

/-- Reads and counts what has arrived on a session's socket, with at most `fuel` reads. -/
def drain (r : Receiver) (id : SocketId) (position : Nat) (group : String) : Nat → Act Unit
  | 0 => pure ()
  | fuel + 1 => do
    match ← receive id r.limit with
    | .ok data =>
      let _ ← r.account position data
      r.drain id position group fuel
    | .error e =>
      if e.wouldBlock then pure () else throw (.transport (.receiving group e.message))

/-- Empties one socket: a read for each arrival, and one that finds nothing. -/
def drainWatch (r : Receiver) (w : Watch) : Act Unit := do
  match (← get).table.get? w.session with
  | none => throw (.noSession w.session)
  | some session => r.drain w.socket w.session session.group (w.queue.length + 1)

/-- Waits for arrivals, and tells the sockets that have any. -/
def wait (r : Receiver) : Act (List Watch) :=
  recover
    (do
      attempt .select (.select (← measured r.period))
      await
      pure (← get).host.ready)
    Fault.isSystem fun e => throw (.transport (.waiting e.message))

/-- Counts all that has arrived on some sockets. -/
def serve (r : Receiver) (ready : List Watch) : Act Unit := do
  ready.forM r.drainWatch
  finishWhenDone r.count s!"Received {r.count} packets on every group, done"

/-- Waits once, then counts all that has arrived. -/
def step (r : Receiver) : Act Unit := do
  r.serve (← r.wait)

/-! ## Closing -/

/-- Stops watching a socket. -/
def unwatch (id : SocketId) : Act Unit :=
  modifyHost fun h => { h with watched := h.watched.filter (·.socket ≠ id) }

/-- Stops watching the socket of the session at an index, which has to be watched. -/
def forget (i : Int) : Act Unit := do
  let w ← get
  match w.table.get? i with
  | none => throw (.noSession i)
  | some session =>
    match session.socket.filter fun id => w.host.watched.any (·.socket = id) with
    | none => throw .unknownSocket
    | some id => unwatch id

/-- Closes the sockets of sessions, the first of which is at the given position. -/
def releaseFrom (position : Nat) : List Session → Act Unit
  | [] => pure ()
  | session :: rest => do
    match session.socket with
    | some id =>
      unwatch id
      closeSocket id
      modifySession position ({ · with socket := none })
    | none => pure ()
    releaseFrom (position + 1) rest

/-- Closes all sockets. -/
def close : Act Unit := do
  releaseFrom 0 (← get).table.sessions
  call .closeSelector

/-- The stages of receiving. -/
def transport (r : Receiver) : Transport := ⟨r.start, r.step, close⟩

end Receiver

end Multicast
