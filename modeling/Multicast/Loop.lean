import Multicast.Display
import Multicast.Signals
import Multicast.Transport

/-!
# `Multicast.Loop` — the main loop

Signal handlers only set flags. The loop looks at the flags between two steps of the transport, so
all drawing and all traffic happens in one place and in a fixed order: a repaint if one is due, a
tick if the timer has fired, then one step.

## Contents
- **Iterating.** `Loop.present` and `Loop.iterate`, which counts the steps; it gives no number if
  the loop still runs after as many steps as it has fuel for.
- **Running.** `Loop.run`, from opening the transport to closing it.
-/

namespace Multicast.Loop

open Act

/-! ## Iterating -/

/-- What is shown in front of a step: a repaint if it is the first one or the terminal was resized,
and a tick if the timer has fired. -/
def present (display : Display) (first : Bool) : Act Unit := do
  let resized ← pollResized
  if first || resized then display.redraw resized
  if ← pollTick then display.tick

/-- Steps until the loop is told to end; `steps` were done before. -/
def iterate (transport : Transport) (display : Display) (steps : Nat) : Nat → Act (Option Nat)
  | 0 => pure none
  | fuel + 1 => do
    if (← get).flags.running then
      present display (steps = 0)
      transport.step
      iterate transport display (steps + 1) fuel
    else pure (some steps)

/-! ## Running -/

/-- Opens the transport, starts the timer and steps until the loop is told to end; gives the number
of steps. However it ends, the timer is stopped and the transport closed. -/
def run (transport : Transport) (display : Display) (timed : Bool) (fuel : Nat) :
    Act (Option Nat) :=
  ensuring
    (do
      transport.start
      if timed then Signals.startTimer
      let steps ← iterate transport display 0 fuel
      match steps with
      | some n => log .debug s!"Leaving main loop after {n} iterations"
      | none => pure ()
      pure steps)
    (do
      if timed then Signals.stopTimer
      transport.close)

end Multicast.Loop
