/-!
# `Multicast.Host.Signal` — signals and their handlers

## Contents
- `Signal`, the five signals that the loop listens to and any other, with their names.
- `Handler`, what the loop's own handlers do, and `Disposition`, the handler in force for a signal.
-/

namespace Multicast

/-- A signal. -/
inductive Signal where
  | interrupt
  | hangup
  | terminate
  | resize
  | alarm
  | other (name : String)
deriving Repr, DecidableEq

/-- The name of a signal. -/
def Signal.name : Signal → String
  | interrupt => "SIGINT"
  | hangup => "SIGHUP"
  | terminate => "SIGTERM"
  | resize => "SIGWINCH"
  | alarm => "SIGALRM"
  | other name => name

/-- The signal of a name. -/
def Signal.ofName (name : String) : Signal :=
  if name = "SIGINT" then interrupt
  else if name = "SIGHUP" then hangup
  else if name = "SIGTERM" then terminate
  else if name = "SIGWINCH" then resize
  else if name = "SIGALRM" then alarm
  else other name

/-- What a handler of the loop does. -/
inductive Handler where
  | stopLoop
  | noteResize
  | noteTick
deriving Repr, DecidableEq

/-- The handler in force for a signal: one of the loop's own, one that was there before, known by
its name, or one that was installed by other means and cannot be named. -/
inductive Disposition where
  | loop (h : Handler)
  | named (name : String)
  | unknown
deriving Repr, DecidableEq

/-- The default action of a signal. -/
def Disposition.default : Disposition := .named "SIG_DFL"

/-- The handler that is put back for one that was in force before. -/
def Disposition.restored : Disposition → Disposition
  | unknown => .default
  | d => d

end Multicast
