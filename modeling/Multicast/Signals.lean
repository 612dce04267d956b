import Multicast.World

/-!
# `Multicast.Signals` — the loop's signal handlers and its timer

While the loop runs, five signals set its flags and an interval timer ticks. What was in force
before is saved by the first installation and put back when the handlers are taken out again.

## Contents
- **Handlers.** `Signals.listened`, the signals with what their handlers do; `Signals.install` and
  `Signals.restore`.
- **Timer.** `Signals.startTimer` and `Signals.stopTimer`; `Signals.during` has all of it given back
  at the end.
- **Flags.** `Act.stop`, `Act.pollTick` and `Act.pollResized`.
-/

namespace Multicast

namespace Signals

open Act

/-! ## Handlers -/

/-- The signals that the loop listens to, in the order in which their handlers are installed. -/
def listened : List (Signal × Handler) :=
  [(.interrupt, .stopLoop), (.hangup, .stopLoop), (.terminate, .stopLoop), (.resize, .noteResize),
    (.alarm, .noteTick)]

/-- Puts a handler in force. -/
def setHandler (s : Signal) (d : Disposition) : Act Unit := do
  call (.setHandler s d)
  modifyHost (·.setHandler s d)

/-- Saves the handler in force for a signal, unless one is saved already. -/
def save (s : Signal) : Act Unit := do
  let w ← get
  let saved := w.signals.saved
  if saved.any (·.1 = s) then pure ()
  else
    let before := w.host.handlers s
    set { w with signals := { w.signals with saved := saved ++ [(s, before)] } }

/-- Installs the loop's handlers. -/
def install : Act Unit :=
  listened.forM fun (s, h) => do
    save s
    setHandler s (.loop h)

/-! ## Timer -/

/-- Notes whether the timer runs. -/
def setTicking (ticking : Bool) : Act Unit :=
  modify fun w => { w with signals := { w.signals with ticking } }

/-- Starts the timer, which fires first after the settling delay. -/
def startTimer : Act Unit := do
  let flags := (← get).flags
  let first ← measured flags.settle
  let interval ← measured flags.period
  vet (.setTimer first interval)
  call (.setTimer first interval)
  setTicking true
  log .debug s!"Timer armed, first tick in {first.fixed 1}s then every {interval.fixed 3}s"

/-- Stops the timer if it runs. -/
def stopTimer : Act Unit := do
  if (← get).signals.ticking then
    call (.setTimer (.ofNat 0) (.ofNat 0))
    setTicking false

/-- Stops the timer and puts the saved handlers back. -/
def restore : Act Unit := do
  stopTimer
  (← get).signals.saved.forM fun (s, d) => setHandler s d.restored
  modify fun w => { w with signals := { w.signals with saved := [] } }

/-- Does something while the loop's handlers are installed. -/
def during {α : Type} (body : Act α) : Act α := do
  install
  ensuring body restore

end Signals

/-! ## Flags -/

namespace Act

/-- Ends the loop. -/
def stop : Act Unit := modifyFlags ({ · with running := false })

/-- Whether the timer has fired since this was last asked. -/
def pollTick : Act Bool := do
  let fired := (← get).flags.tick
  modifyFlags ({ · with tick := false })
  pure fired

/-- Whether the terminal was resized since this was last asked. -/
def pollResized : Act Bool := do
  let resized := (← get).flags.resized
  modifyFlags ({ · with resized := false })
  pure resized

end Act

end Multicast
