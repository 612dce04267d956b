import Multicast.World

/-!
# `Multicast.Socket` — the sockets of a run

Sockets are numbered as they are opened, from one on. Opening one takes a number only if the system
grants it, so a refused socket leaves nothing behind that would have to be closed.

## Contents
- **Opening.** `Act.openSocket`, `Act.setOption` and `Act.bindSocket`, each of which may be refused;
  `Act.closeSocket`, which is not.
- **Reading.** `Act.receive`, one datagram cut to a limit, or the system's refusal.
-/

namespace Multicast.Act

/-! ## Opening -/

/-- Opens a datagram socket of a family. -/
def openSocket (family : Family) : Act SocketId := do
  check .openSocket
  let id := (← get).host.nextSocket
  modifyHost ({ · with nextSocket := id + 1 })
  call (.openSocket id family)
  pure id

/-- Sets an option of a socket. -/
def setOption (id : SocketId) (name : OptionName) (value : OptionValue) : Act Unit :=
  attempt .setOption (.setOption id name value)

/-- Binds a socket to an endpoint. -/
def bindSocket (id : SocketId) (endpoint : Endpoint) : Act Unit :=
  attempt .bind (.bind id endpoint)

/-- Closes a socket. -/
def closeSocket (id : SocketId) : Act Unit := call (.close id)

/-! ## Reading -/

/-- Reads one datagram of at most `limit` bytes; of one that is longer, the rest is lost. -/
def receive (id : SocketId) (limit : Int) : Act (Except SystemError Octets) := do
  submit (.receive id limit)
  let (arrival, host) := (← get).host.take? id
  modifyHost fun _ => host
  match arrival with
  | some (.datagram data) => pure (.ok (front limit data))
  | some (.refusal e) => pure (.error e)
  | none => pure (.error .nothingToRead)

end Multicast.Act
