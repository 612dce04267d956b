import Multicast.Host.Signal
import Multicast.Log
import Multicast.Membership
import Multicast.Quantity
import Multicast.Screen

/-!
# `Multicast.Host.Call` — calls to the system

Every call to the system is an element of a trace, so that what a run did to the world can be read
off in order. The calls that may be refused have a kind, by which failures are scheduled.

## Contents
- **Kinds.** `CallKind`, the calls that can fail, with those on the terminal in `TerminalCall`.
- **Calls.** `Call`.
-/

namespace Multicast

/-- Calls on the terminal. -/
inductive TerminalCall where
  | start
  | startColor
  | defaultColors
  | resize
  | noEcho
  | echo
  | cbreak
  | noCbreak
  | finish
  | cursor
  | keypad
  | move
  | erase
  | clearToEnd
  | refresh
  | add
deriving Repr, DecidableEq

/-- Calls that can fail. -/
inductive CallKind where
  | openSocket
  | setOption
  | bind
  | send
  | select
  | interfaceNames
  | lookup
  | readLimits
  | setLimits
  | setLocale
  | localised
  | terminal (call : TerminalCall)
deriving Repr, DecidableEq

/-- A call to the system. -/
inductive Call where
  | openSocket (id : Nat) (family : Family)
  | setOption (id : Nat) (name : OptionName) (value : OptionValue)
  | bind (id : Nat) (endpoint : Endpoint)
  /-- Makes reads return at once. -/
  | unblock (id : Nat)
  | close (id : Nat)
  | send (id : Nat) (data : Octets) (target : Endpoint)
  | receive (id : Nat) (limit : Int)
  | select (timeout : Quantity)
  | closeSelector
  /-- The sender's pause. -/
  | pause (span : Quantity)
  /-- The wait before the sockets are opened, in seconds. -/
  | wait (seconds : Int)
  | command (text : String)
  | lookup (host : String) (family : Int)
  | setLimits (soft hard : Int)
  | fork (pid : Int)
  | newSession
  | changeDirectory (path : String)
  | setMask (mask : Nat)
  | openNull
  | duplicate (descriptor target : Int)
  | closeDescriptor (descriptor : Int)
  | setHandler (signal : Signal) (handler : Disposition)
  | setTimer (first interval : Quantity)
  | terminalSize (columns lines : Int)
  /-- Asks for the locale, or sets it. -/
  | setLocale (name : Option String)
  /-- Work done in the user's locale. -/
  | localised
  | startTerminal
  | startColor
  | defaultColors
  | resizeTerminal (lines columns : Int)
  | noEcho
  | echo
  | cbreak
  | noCbreak
  | finishTerminal
  | setCursor (visible : Bool)
  | keypad
  | move (y x : Int)
  | erase
  | clearToEnd
  | refresh
  | addText (text : String) (style : Style)
  /-- Opens the system's log, on its device or over the network. -/
  | openSystemLog (device : Bool)
  | systemLog (text : String)
  | openLogFile (path : String)
  | logFile (record : Record)
  /-- A stage of a rehearsed transport or display. -/
  | stage (name : String) (flag : Option Bool)
deriving Repr, DecidableEq

end Multicast
