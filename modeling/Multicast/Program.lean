import Multicast.CommandLine
import Multicast.Daemon
import Multicast.Dashboard
import Multicast.Descriptors
import Multicast.Locale
import Multicast.Loop
import Multicast.Path
import Multicast.Progress
import Multicast.Receiver
import Multicast.Sender

/-!
# `Multicast.Program` — a run from its command line to its exit status

A run checks its options and groups before it touches anything, then sets up the log, finds the
interface, raises the descriptor limit and enters the main loop. Whatever ends the loop, the
terminal, the signal handlers and the locale are given back. A receiver that ends well reports what
it received.

## Contents
- **Start.** `Program.checked`, the settings and sessions of a run.
- **Log.** `Program.setUpLog`, where the records of the run go.
- **Parts.** `Program.transportOf` and `Program.openDisplay`.
- **Running.** `Program.loop`, the main loop in its surroundings; `Program.launch`, what comes in
  front of it, and `Program.runWith`, everything behind the checks.
- **Exit.** `Program.Exit` and `Program.main`.
-/

namespace Multicast.Program

open Act

/-- How a process ends: with a status, or at once as the parent of a daemon. -/
inductive Exit where
  | status (n : Nat)
  | departed
deriving Repr, DecidableEq

/-- The status of a run that failed. -/
def failure : Exit := .status 1

/-- The most groups of a run. -/
def maxGroups : Nat := 2048

/-- Writes to standard error. -/
def complain (text : String) : Act Unit := modifyHost fun h => { h with stderr := h.stderr ++ text }

/-- Logs a failure and writes it to standard error. -/
def report (message : String) : Act Unit := do
  log .error message
  complain s!"mcjoin: {message}\n"

/-! ## Start -/

/-- The sessions of a run, once its settings are known. -/
def build (s : Settings) : Act Table := do
  let (remarks, table) := Table.build s.groups s.port maxGroups
  remarks.forM (log .debug)
  Act.ofExcept table

/-- The settings of a run, with a remark on a reserved port. -/
def validate (o : Options) : Act Settings := do
  let s ← Act.ofExcept o.settings
  if s.isPrivileged (← get).host.user then log .error Settings.privilegeRemark
  pure s

/-- Whether a fault means options or groups that cannot be used. -/
def isSetup : Fault → Bool
  | .setup _ => true
  | _ => false

/-- The settings and the sessions of a run; none if its options or groups cannot be used, which is
reported. -/
def checked (o : Options) : Act (Option (Settings × Table)) :=
  recover
    (do
      let s ← validate o
      let table ← build s
      pure (some (s, table)))
    isSetup fun e => do
      report e.message
      complain CommandLine.usage
      pure none

/-! ## Log -/

/-- The destination of a run's records: the system's log for a daemon, the log region of a full
screen, or standard error. -/
def sinkOf (s : Settings) (full : Bool) : Sink :=
  if s.foreground then if full then .region else .standardError else .systemLog

/-- Sets up the log, and tells whether it feeds the log region. -/
def setUpLog (s : Settings) (full : Bool) : Act Bool :=
  match s.verbosity with
  | none => do
    modifyHost fun h => { h with logging := { h.logging with silenced := true } }
    pure false
  | some threshold => do
    let sink := sinkOf s full
    if sink = .systemLog then call (.openSystemLog (← get).host.logDevice)
    if sink = .region then modifyHost ({ · with region := {} })
    if s.logFile ≠ "" then call (.openLogFile s.logFile)
    let sinks := if s.logFile = "" then [sink] else [sink, .file]
    modifyHost fun h => { h with logging := { h.logging with threshold, sinks } }
    pure (sink = .region)

/-! ## Parts -/

/-- What moves the packets of a run. -/
def roleOf (s : Settings) (period : Seconds) : Transport :=
  if s.join then
    Receiver.transport { interface := s.interface, count := s.count, period }
  else
    Sender.transport
      { interface := s.interface, ttl := s.ttl, size := s.bytes, count := s.count, period }

/-- The transport of a run. The handlers of the loop are in force while it is opened. -/
def transportOf (s : Settings) (period : Seconds) : Transport := (roleOf s period).attending

/-- Opens the terminal for a full screen. -/
def openScreen (s : Settings) (logged : Bool) : Act Display := do
  Terminal.update fun _ => {}
  let (width, height) ← Terminal.querySize
  Terminal.start
  Dashboard.update fun _ => { join := s.join, interface := s.interface, logged, width, height }
  pure (Dashboard.display Screen.terminal)

/-- The display of a run; a daemon's shows nothing. -/
def openDisplay (s : Settings) (full logged : Bool) : Act Display := do
  if full then openScreen s logged
  else
    modify fun w => { w with progress := { visible := s.foreground } }
    pure Progress.display

/-! ## Running -/

/-- Closes the display; failing in that is only worth a remark. -/
def closeDisplay (display : Display) : Act Unit :=
  recover display.close (!·.endsProcess) fun _ => log .error "Failed restoring terminal"

/-- Whether a fault is a failure of the transport. -/
def isTransport : Fault → Bool
  | .transport _ => true
  | _ => false

/-- The main loop between opening and giving back the display and the signal handlers; tells whether
it ended without a failure of the transport. -/
def loop (s : Settings) (full logged : Bool) (period : Seconds) (fuel : Nat) : Act Bool := do
  let display ← openDisplay s full logged
  let looped : Act Bool := do
    let _ ← Loop.run (transportOf s period) display true fuel
    pure true
  let noted := recover looped isTransport fun e => do
    log .error e.message
    pure false
  Signals.during (ensuring noted (closeDisplay display))

/-- Reports what a receiver received: on standard output, or in a daemon's log. -/
def publish (s : Settings) : Act Unit := do
  (← get).table.statistics.forM fun line =>
    if s.foreground then print s!"{line}\n" else log .info line

/-- Names the interface of the default route, if the settings name none. -/
def withInterface (s : Settings) : Act Settings := do
  if s.interface ≠ "" then pure s
  else
    let interface ← defaultInterface
    log .debug s!"Using default interface {interface}"
    pure { s with interface }

/-- Whether a fault is about the descriptor limit. -/
def isResource : Fault → Bool
  | .resource _ => true
  | _ => false

/-- Raises the descriptor limit; tells whether that went well, and reports if not. -/
def raiseLimit : Act Bool :=
  recover
    (do
      let _ ← raiseDescriptorLimit maxGroups 10
      pure true)
    isResource fun e => do
      report e.message
      pure false

/-- The span of a period in milliseconds. -/
def periodOf (msec : Int) : Act Seconds :=
  match Seconds.ofMillis? msec with
  | some period => pure period
  | none => throw .tooLarge

/-- Enough steps for the loop: one for each wait of the script, and one more that the script's end
stops. -/
def stepsOf (h : Host) : Nat := h.script.length + 2

/-- Runs the loop on the sessions and reports how it ended. -/
def perform (s : Settings) (full logged : Bool) : Act Exit := do
  let period ← periodOf s.period
  modify fun w => { w with flags := { period } }
  let well ← inUserLocale (loop s full logged period (stepsOf (← get).host))
  if !well then complain "mcjoin: transport failure, see log\n"
  else if s.join then publish s
  modify fun w => { w with table := w.table.clear }
  pure (if well then .status 0 else failure)

/-- What comes between the checks and the loop: the settings with the interface that was found,
whether the screen is full and whether it has a log region. There is nothing to go on with if the
descriptor limit cannot be raised. -/
def launch (s : Settings) : Act (Option (Settings × Bool × Bool)) := do
  let h := (← get).host
  let full := s.foreground && !s.plain && h.interactive
  let file := if s.logFile = "" then "" else Path.absolute h.directory s.logFile
  let s := { s with logFile := file }
  if !s.foreground then becomeDaemon (some "/")
  let logged ← setUpLog s full
  if s.wait ≠ 0 then submit (.wait s.wait)
  let s ← withInterface s
  if ← raiseLimit then pure (some (s, full, logged)) else pure none

/-- What follows the launch: the loop with its surroundings. -/
def proceed : Option (Settings × Bool × Bool) → Act Exit
  | some (s, full, logged) => perform s full logged
  | none => pure failure

/-- Everything behind the checks. -/
def runWith (o : Options) (s : Settings) (table : Table) : Act Exit := do
  modify fun w => { w with options := o.next, table }
  proceed (← launch s)

/-! ## Exit -/

/-- Runs with options that were read. -/
def run (o : Options) : Act Exit := do
  match ← checked o with
  | none => pure failure
  | some (s, table) => runWith o s table

/-- The exit status of a run that ended with a fault. -/
def exitOf : Fault → Act Exit
  | .interrupt _ => pure (.status 130)
  | .departed => pure .departed
  | e => do
    log .error "Unhandled exception:"
    complain s!"\nError: {e.message}\n"
    pure failure

/-- What is left to do when reading the command line stopped early. -/
def halt : Halt → Act Exit
  | .help => do
    print CommandLine.help
    pure (.status 0)
  | .version => do
    print CommandLine.version
    pure (.status 0)
  | .refused e => do
    complain CommandLine.usage
    complain s!"mcjoin: error: {e.message}\n"
    pure (.status 2)

/-- A run, from its arguments to its exit. -/
def main (arguments : List String) : Act Exit := do
  match CommandLine.read (← get).options arguments with
  | .error h => halt h
  | .ok o => recover (run o) (fun _ => true) exitOf

end Multicast.Program
