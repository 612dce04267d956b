import Multicast.Host.Range
import Multicast.Text.Percent

/-!
# `Multicast.Host` — the machine that a run finds itself on

A host is everything outside the program: the clock, the network interfaces, the terminal, the
signal handlers in force, what waits in the sockets, and what will happen during the coming waits.
Calls leave their mark in its trace, and the schedule of failures says which of them are refused.

## Contents
- **Schedule.** `Failure`, and `Event`, what can happen while the program waits.
- **Sockets.** `Arrival` and `Watch`, a socket that is watched for a session.
- **Host.** `Host`, with `record`, `check?`, `refusal?`, `log`, `logFilled` and the socket queues.
-/

namespace Multicast

/-! ## Schedule -/

/-- A refusal that is due: at the given call of its kind, counted from one, or at every call. -/
structure Failure where
  kind : CallKind
  due : Option Nat
  fault : Fault
deriving Repr, DecidableEq

namespace Failure

/-- Whether a call of a kind is refused now. -/
def strikes (kind : CallKind) (f : Failure) : Bool := f.kind = kind && f.due.all (· = 1)

/-- The refusal after a call of a kind: one call less to go. -/
def next (kind : CallKind) (f : Failure) : Failure :=
  if f.kind = kind then { f with due := f.due.map (· - 1) } else f

end Failure

/-- What can happen while the program waits. -/
inductive Event where
  | signal (s : Signal)
  /-- The terminal changes its size, and the signal for it arrives. -/
  | resize (columns lines : Int)
  | clock (seconds : Int)
  /-- A datagram arrives on the sockets that are watched for a session. -/
  | datagram (session : Int) (data : Octets)
  /-- A read from those sockets will fail. -/
  | refusal (session : Int) (error : SystemError)
  /-- The wait itself ends with a fault. -/
  | fault (f : Fault)
  | tick
  | resized
  | stop
deriving Repr, DecidableEq

/-! ## Sockets -/

/-- What a read from a socket will find. -/
inductive Arrival where
  | datagram (data : Octets)
  | refusal (error : SystemError)
deriving Repr, DecidableEq

/-- A socket that is watched for a session, and what has arrived on it. -/
structure Watch where
  socket : Nat
  session : Nat
  queue : List Arrival := []
deriving Repr, DecidableEq

/-- The socket with an arrival queued, if it is watched for the session that the arrival is for. A
session that was joined twice is watched for on two sockets, and both get it. -/
def Watch.enqueue (session : Int) (a : Arrival) (w : Watch) : Watch :=
  if (w.session : Int) = session then { w with queue := w.queue ++ [a] } else w

/-! ## Host -/

/-- The machine and its surroundings. -/
structure Host where
  /-- Seconds since the start of 1970. -/
  clock : Int := 0
  /-- How many characters or bytes there is memory for. -/
  memory : Nat := 2 ^ 30
  /-- The number of the process. -/
  process : Nat := 1
  /-- The working directory that the run starts in. -/
  directory : String := "/"
  /-- Columns and lines of the terminal, if it tells. -/
  terminal : Option (Int × Int) := none
  /-- What shell commands print. -/
  commands : List (String × String) := []
  /-- The routing table of the system, if it can be read. -/
  routes : Option String := none
  /-- Index and name of each interface. -/
  interfaces : List (Int × String) := []
  name : String := "host"
  /-- The addresses of the host's name. -/
  addresses : List String := []
  softLimit : Int := 1024
  hardLimit : Int := 1048576
  /-- The results of the coming forks, 0 when there are none left. -/
  forks : List Int := []
  /-- The descriptor that opening the null device gives. -/
  nullDescriptor : Int := 3
  handlers : Signal → Disposition := fun _ => .default
  locale : String := "C"
  user : Int := 0
  /-- Whether the system's log has its device. -/
  logDevice : Bool := true
  /-- Whether standard output is a terminal. -/
  interactive : Bool := false
  /-- Whether calls object to numbers out of their ranges, which those of a rehearsal do not. -/
  strict : Bool := true
  failures : List Failure := []
  /-- What happens while a run opens its transport. -/
  opening : List Event := []
  /-- What happens during each of the coming waits. -/
  script : List (List Event) := []
  /-- What happens during every wait after those. -/
  idle : List Event := []
  watched : List Watch := []
  /-- The number of the next socket. -/
  nextSocket : Nat := 1
  trace : Array Call := #[]
  records : Array Record := #[]
  logging : Logging := {}
  region : LogRegion := {}
  stdout : String := ""
  stderr : String := ""

namespace Host

/-- The host after a call. -/
def record (h : Host) (c : Call) : Host := { h with trace := h.trace.push c }

/-- Whether a call of a kind is refused, and the host with the schedule moved on. -/
def check? (h : Host) (kind : CallKind) : Host × Option Fault :=
  ({ h with failures := h.failures.map (Failure.next kind) },
    (h.failures.find? (Failure.strikes kind)).map (·.fault))

/-- Why a call is not made with its numbers, if it is not. -/
def objection? (h : Host) (c : Call) : Option Fault := if h.strict then c.objection? else none

/-- Why a call of a kind fails, if it does: by its numbers, or as a refusal is due. -/
def refusal? (h : Host) (kind : CallKind) (c : Call) : Option Fault :=
  (h.objection? c).or (h.check? kind).2

/-! ## Logging -/

/-- Hands a record to one destination. -/
def deliver (h : Host) (r : Record) : Sink → Host
  | .standardError => { h with stderr := h.stderr ++ r.message ++ "\n" }
  | .systemLog => h.record (.systemLog s!"mcjoin[{h.process}]: {r.message}")
  | .region => { h with region := h.region.append h.clock (.ofText r.message) }
  | .file => h.record (.logFile r)

/-- Logs a message. -/
def log (h : Host) (level : Level) (message : String) : Host :=
  let r : Record := ⟨level, message⟩
  let h := { h with records := h.records.push r }
  if h.logging.admits level then h.logging.sinks.foldl (fun h sink => h.deliver r sink) h else h

/-- Shows a message with its arguments in the log region, if records of its level go anywhere. One
that cannot be filled in, or that there is no room for, is dropped. -/
def logFilled (h : Host) (level : Level) (message : String) (args : List Text.Argument) : Host :=
  if h.logging.admits level then
    match Text.fill message args with
    | some filled =>
      if h.region.share filled ≤ h.memory then
        { h with region := h.region.append h.clock filled }
      else h
    | none => h
  else h

/-! ## Sockets -/

/-- Queues what arrives for a session on every socket that is watched for it. -/
def arrive (h : Host) (session : Int) (a : Arrival) : Host :=
  { h with watched := h.watched.map (Watch.enqueue session a) }

/-- The watched sockets on which something has arrived, in the order in which they were added. -/
def ready (h : Host) : List Watch := h.watched.filter (!·.queue.isEmpty)

/-- Takes the next arrival off a socket's queue. -/
def take? (h : Host) (id : Nat) : Option Arrival × Host :=
  match h.watched.find? (·.socket = id) with
  | some w =>
    let drop (v : Watch) : Watch := if v.socket = id then { v with queue := v.queue.tail } else v
    (w.queue.head?, { h with watched := h.watched.map drop })
  | none => (none, h)

/-- Puts a handler in force. -/
def setHandler (h : Host) (s : Signal) (d : Disposition) : Host :=
  { h with handlers := fun t => if t = s then d else h.handlers t }

end Host

end Multicast
