import Multicast.Display

/-!
# `Multicast.Progress` — the plain output

Without a screen, each tick in which any session saw traffic writes one mark, of two that take
turns. A line feed ends the row of marks.

## Contents
- `Progress.advance`, one mark, and the stages of the plain output in `Progress.display`.
-/

namespace Multicast

/-- Writes to standard output. -/
def Act.print (text : String) : Act Unit :=
  modifyHost fun h => { h with stdout := h.stdout ++ text }

namespace Progress

open Act

/-- The next mark. -/
def next (p : Progress) : Progress :=
  { p with mark := if p.mark = "." then "*" else ".", emitted := p.emitted + 1 }

/-- Writes a mark. -/
def advance : Act Unit := do
  modify fun w => { w with progress := w.progress.next }
  let p := (← get).progress
  if p.visible then print p.mark

/-- Shows a tick. -/
def tick : Act Unit := do
  if (← get).table.sessions.any Session.active then advance
  ageAll

/-- Ends the row of marks, if there are any. -/
def close : Act Unit := do
  let p := (← get).progress
  if p.visible && p.emitted ≠ 0 then print "\n"

/-- The stages of the plain output. -/
def display : Display := ⟨fun _ => pure (), tick, close⟩

end Progress

end Multicast
