import Multicast.Display
import Multicast.Transport
import Multicast.World

/-!
# `Multicast.Rehearsal` — stages that follow a script

A rehearsed transport and display do nothing but leave their stages in the trace and follow the cues
of each stage. They show the order in which the loop goes through the stages.

## Contents
- **Cues.** `Change`, to one field of a session, and `Cue`, with `Cue.follow`.
- **Stages.** `Rehearsal`, its `transport` and its `display`.
-/

namespace Multicast

open Act

/-! ## Cues -/

/-- A change to one field of a session. -/
inductive Change where
  | count (n : Int)
  | gaps (n : Int)
  | seq (n : Option Int)
  | spin (n : Int)
  | source (text : Option String)
  | group (text : String)
deriving Repr, DecidableEq

/-- The session after a change. -/
def Change.apply : Change → Session → Session
  | count n, s => { s with count := n }
  | gaps n, s => { s with gaps := n }
  | seq n, s => { s with seq := n }
  | spin n, s => { s with spin := n }
  | source text, s => { s with source := text }
  | group text, s => { s with group := text }

/-- What happens during a stage: something from outside, or a change to a session. -/
inductive Cue where
  | event (e : Event)
  | mark (session : Int)
  | change (session : Int) (c : Change)
deriving Repr, DecidableEq

/-- Lets a cue happen. -/
def Cue.follow : Cue → Act Unit
  | event e => play e
  | mark session => modifySession session Session.mark
  | change session c => modifySession session c.apply

/-! ## Stages -/

/-- The cues of each stage. -/
structure Rehearsal where
  onStart : List Cue := []
  /-- The cues of each step; any other one tells the loop to end. -/
  onSteps : List (List Cue) := []
  onClose : List Cue := []
  onRedraw : List Cue := []
  onTick : List Cue := []

namespace Rehearsal

/-- Leaves a stage in the trace, then follows its cues. -/
def perform (name : String) (flag : Option Bool) (cues : List Cue) : Act Unit := do
  call (.stage name flag)
  cues.forM Cue.follow

/-- The cues of a step, which is known by the steps in the trace. -/
def upcoming (r : Rehearsal) (h : Host) : List Cue :=
  r.onSteps.getD (h.trace.toList.count (.stage "step" none)) [.event .stop]

/-- A transport of stages. -/
def transport (r : Rehearsal) : Transport where
  start := perform "init" none r.onStart
  step := do perform "step" none (r.upcoming (← get).host)
  close := perform "close" none r.onClose

/-- A display of stages. -/
def display (r : Rehearsal) : Display where
  redraw resized := perform "redraw" (some resized) r.onRedraw
  tick := do
    perform "show" none r.onTick
    ageAll
  close := pure ()

end Rehearsal

end Multicast
