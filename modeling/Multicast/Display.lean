import Multicast.World

/-!
# `Multicast.Display` — what shows the sessions

The main loop drives a display through two stages: a repaint at the start and after the terminal was
resized, and an update for each tick, which also opens a new slot in every history. Whoever created
the display closes it.

## Contents
- `Display`.
-/

namespace Multicast

/-- The stages of showing the sessions. -/
structure Display where
  /-- Paints everything, and asks for the size first if the terminal was resized. -/
  redraw (resized : Bool) : Act Unit
  /-- Shows a tick. -/
  tick : Act Unit
  close : Act Unit

/-- Opens a new slot in every history. -/
def Act.ageAll : Act Unit := modify fun w => { w with table := w.table.age }

end Multicast
