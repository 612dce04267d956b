import Multicast.World

/-!
# `Multicast.Transport` — what moves the packets

The main loop drives a transport through three stages: sockets are opened before the first step,
each step waits once and then sends or receives, and closing releases whatever was opened, also
after an opening that broke off.

## Contents
- `Transport`, with `Transport.attending`, and `Act.finishWhenDone`, the end of every step.
-/

namespace Multicast

/-- The stages of sending or receiving. -/
structure Transport where
  start : Act Unit
  step : Act Unit
  close : Act Unit

/-- The same stages, with signals that arrive while the sockets are opened, before the first step. -/
def Transport.attending (t : Transport) : Transport := { t with start := do t.start; Act.attend }

/-- Ends the loop once every session has reached the limit, with a remark. -/
def Act.finishWhenDone (limit : Int) (remark : String) : Act Unit := do
  if (← get).table.isComplete limit then
    log .info remark
    modifyFlags ({ · with running := false })

end Multicast
