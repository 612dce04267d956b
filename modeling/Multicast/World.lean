import Multicast.Host
import Multicast.Options
import Multicast.Seconds
import Multicast.Table

/-!
# `Multicast.World` — the state of a run, and steps on it

A run is a sequence of steps on a `World`: the sessions, the flags that signals set, the parts that
own something of the host, and the host itself. A step that fails leaves the world as it was at the
point of failure, so that whoever cleans up after it finds what it had done until then.

## Contents
- **Parts.** `Flags`, `Signals`, `Terminal`, `Dashboard` and `Progress`, as plain data.
- **Steps.** `World` and `Act`, with the shapes of error handling: `ensuring` runs a clean-up
  whatever happens, `recover` handles some faults.
- **Calls.** `call`, `vet`, `submit`, `check`, `attempt`, `measured` and `log`.
- **Waiting.** `deliver` runs a signal's handler, `play` one event, `await` all events of a wait, and
  `attend` those that come while a transport is opened.
-/

namespace Multicast

/-! ## Parts -/

/-- What the loop and the signal handlers share. -/
structure Flags where
  /-- Cleared to end the loop. -/
  running : Bool := true
  /-- Set when the terminal was resized. -/
  resized : Bool := false
  /-- Set when the timer fired. -/
  tick : Bool := false
  /-- The interval of the timer. -/
  period : Seconds
  /-- The delay before the timer fires first. -/
  settle : Seconds := .ofNat 1
deriving Repr, DecidableEq

/-- The handlers that were in force before the loop's own, and whether the timer runs. -/
structure Signals where
  saved : List (Signal × Disposition) := []
  ticking : Bool := false
deriving Repr, DecidableEq

/-- The terminal as the program last saw it. -/
structure Terminal where
  opened : Bool := false
  width : Int := 80
  height : Int := 24
deriving Repr, DecidableEq

/-- The full screen. -/
structure Dashboard where
  /-- Whether the program receives. -/
  join : Bool := true
  interface : String := ""
  /-- Whether there is a log region. -/
  logged : Bool := false
  hostname : Option String := none
  address : Option String := none
  width : Int := 80
  height : Int := 24
  opened : Bool := false
  /-- The rows of sessions that are on the screen since it was blanked. -/
  painted : List (Nat × String) := []
  /-- How often the cursor and the terminal were controlled. -/
  ops : Nat := 0
deriving Repr, DecidableEq

/-- The plain output. -/
structure Progress where
  /-- Whether anything is written at all. -/
  visible : Bool := true
  /-- The mark written last. -/
  mark : String := ""
  emitted : Nat := 0
deriving Repr, DecidableEq

/-! ## Steps -/

/-- The state of a run. -/
structure World where
  host : Host := {}
  /-- The settings that a run starts from. -/
  options : Options := {}
  table : Table := {}
  flags : Flags
  signals : Signals := {}
  /-- The sender's sockets, one for each family in use. -/
  uplinks : List (Family × SocketId) := []
  terminal : Terminal := {}
  dashboard : Dashboard := {}
  progress : Progress := {}
  /-- The commands to a screen that only takes note of them. -/
  commands : Array Screen.Command := #[]

/-- A step of a run. -/
abbrev Act := EStateM Fault World

namespace Act

variable {α : Type}

/-- Runs a clean-up after a step, however it ends; a failure of the clean-up takes precedence. -/
def ensuring (body : Act α) (cleanup : Act Unit) : Act α := fun w =>
  match body w with
  | .ok a w =>
    match cleanup w with
    | .ok _ w => .ok a w
    | .error e w => .error e w
  | .error e w =>
    match cleanup w with
    | .ok _ w => .error e w
    | .error e w => .error e w

/-- Handles the faults of a class, from the state in which they came up. -/
def recover (body : Act α) (handles : Fault → Bool) (handler : Fault → Act α) : Act α := fun w =>
  match body w with
  | .ok a w => .ok a w
  | .error e w => if handles e then handler e w else .error e w

/-- A value, or a fault. -/
def ofExcept : Except Fault α → Act α
  | .ok a => pure a
  | .error e => throw e

/-- Changes the host. -/
def modifyHost (f : Host → Host) : Act Unit := modify fun w => { w with host := f w.host }

/-- Changes the flags. -/
def modifyFlags (f : Flags → Flags) : Act Unit := modify fun w => { w with flags := f w.flags }

/-- Changes the sessions. -/
def setTable (t : Table) : Act Unit := modify fun w => { w with table := t }

/-! ## Calls -/

/-- Leaves a call in the trace. -/
def call (c : Call) : Act Unit := modifyHost (·.record c)

/-- Fails if a call objects to its numbers. -/
def vet (c : Call) : Act Unit := do
  match (← get).host.objection? c with
  | none => pure ()
  | some fault => throw fault

/-- A call that takes numbers. -/
def submit (c : Call) : Act Unit := do
  call c
  vet c

/-- Fails if a call of this kind is refused now. -/
def check (kind : CallKind) : Act Unit := fun w =>
  match w.host.check? kind with
  | (h, none) => .ok () { w with host := h }
  | (h, some fault) => .error fault { w with host := h }

/-- A call that takes numbers and can be refused. -/
def attempt (kind : CallKind) (c : Call) : Act Unit := fun w =>
  let after : World := { w with host := ((w.host.record c).check? kind).1 }
  match w.host.refusal? kind c with
  | none => .ok () after
  | some fault => .error fault after

/-- A span of time as a number to wait for. -/
def measured : Seconds → Act Quantity
  | .span q => pure q
  | .excessive => throw .tooLarge

/-- Logs a message. -/
def log (level : Level) (message : String) : Act Unit := modifyHost (·.log level message)

/-! ## Waiting -/

/-- Runs the handler of a signal; handlers that are not the loop's own do nothing that matters
here. -/
def deliver (s : Signal) : Act Unit := do
  match (← get).host.handlers s with
  | .loop .stopLoop => modifyFlags ({ · with running := false })
  | .loop .noteResize => modifyFlags ({ · with resized := true })
  | .loop .noteTick => modifyFlags ({ · with tick := true })
  | _ => pure ()

/-- Changes the session at an index. -/
def modifySession (i : Int) (f : Session → Session) : Act Unit := do
  let t ← ofExcept ((← get).table.modify? i f)
  setTable t

/-- Lets one event happen. -/
def play : Event → Act Unit
  | .signal s => deliver s
  | .resize columns lines => do
    modifyHost ({ · with terminal := some (columns, lines) })
    deliver .resize
  | .clock seconds => modifyHost ({ · with clock := seconds })
  | .datagram session data => modifyHost (·.arrive session (.datagram data))
  | .refusal session error => modifyHost (·.arrive session (.refusal error))
  | .fault f => throw f
  | .tick => modifyFlags ({ · with tick := true })
  | .resized => modifyFlags ({ · with resized := true })
  | .stop => modifyFlags ({ · with running := false })

/-- Takes the events of the next wait off the script. -/
def nextEvents : Act (List Event) := do
  let w ← get
  match w.host.script with
  | [] => pure w.host.idle
  | events :: rest =>
    modifyHost ({ · with script := rest })
    pure events

/-- Lets everything happen that happens during one wait. -/
def await : Act Unit := do
  let events ← nextEvents
  events.forM play

/-- Lets everything happen that happens while a transport is opened. -/
def attend : Act Unit := do
  (← get).host.opening.forM play

end Act

end Multicast
