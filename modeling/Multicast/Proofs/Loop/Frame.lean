import Multicast.Loop
import Multicast.Proofs.Act.Frame

/-!
# `Proofs.Loop.Frame` — the stages of a run of the loop, and what they leave as it was

A run opens the transport, starts the timer, iterates and takes note of it; then it stops the timer
and closes the transport. A frame that the transport, the display, the timer and the flags keep is
kept by the whole run.

## Contents
- **Timer.** `Signals.startTimer_apply`, `Signals.startTimer_of_objection` and
  `Signals.stopTimer_apply`, `Signals.keeps_startTimer` and `Signals.keeps_stopTimer`.
- **Stages.** `body` and `disarm`, with `run_eq`; `arm` and `note`, with `body_eq`; `present_eq`.
- **Frames.** `keeps_present`, `keeps_iterate` and `keeps_run`.
-/

namespace Multicast

open Act

/-! ## Timer -/

namespace Signals

/-- Starting the timer sets it, if there is no objection to its spans, and takes note of it. -/
theorem startTimer_apply {w : World} {first interval : Quantity}
    (hsettle : w.flags.settle = .span first) (hperiod : w.flags.period = .span interval)
    (hfits : w.host.objection? (.setTimer first interval) = none) :
    startTimer w =
      log .debug s!"Timer armed, first tick in {first.fixed 1}s then every {interval.fixed 3}s"
        { w with
          host := w.host.record (.setTimer first interval)
          signals := { w.signals with ticking := true } } := by
  unfold startTimer
  rw [bind_of_ok (get_apply w), hsettle, hperiod]
  have hvetted : vet (.setTimer first interval) w = .ok () w := by rw [vet_apply, hfits]
  exact bind_of_ok hvetted

/-- A timer that objects to its spans is not set. -/
theorem startTimer_of_objection {w : World} {first interval : Quantity} {e : Fault}
    (hsettle : w.flags.settle = .span first) (hperiod : w.flags.period = .span interval)
    (hobjection : w.host.objection? (.setTimer first interval) = some e) :
    startTimer w = .error e w := by
  unfold startTimer
  rw [bind_of_ok (get_apply w), hsettle, hperiod]
  have hvetted : vet (.setTimer first interval) w = .error e w := by rw [vet_apply, hobjection]
  show (vet (.setTimer first interval) >>= fun _ => _) w = _
  exact bind_eq_error.2 (Or.inl hvetted)

/-- **Starting the timer** keeps what setting it to the spans of the flags keeps. -/
theorem keeps_startTimer {F : Frame}
    (hset : ∀ w first interval, w.flags.settle = .span first → w.flags.period = .span interval →
      F.rel w { w with host := w.host.record (.setTimer first interval) })
    (hticking : Keeps F (setTicking true)) (hlog : ∀ level message, Keeps F (log level message)) :
    Keeps F startTimer := by
  unfold startTimer
  refine keeps_get_bind fun w => ?_
  dsimp only
  cases hsettle : w.flags.settle with
  | excessive => exact F.refl w
  | span first =>
      cases hperiod : w.flags.period with
      | excessive => exact F.refl w
      | span interval =>
          refine rel_after_vet_bind (c := .setTimer first interval) ?_
          refine rel_after_bind (x := call (.setTimer first interval)) ?_ fun _ =>
            keeps_bind hticking fun _ => hlog _ _
          exact hset w first interval hsettle hperiod

/-- Stopping the timer does nothing unless it runs. -/
theorem stopTimer_apply (w : World) :
    stopTimer w = .ok () (if w.signals.ticking then
      { w with
        host := w.host.record (.setTimer (.ofNat 0) (.ofNat 0))
        signals := { w.signals with ticking := false } } else w) := by
  unfold stopTimer
  rw [bind_of_ok (get_apply w)]
  split
  · rfl
  · rfl

/-- **Stopping the timer** keeps what the call and the note of it keep. -/
theorem keeps_stopTimer {F : Frame} (hunset : Keeps F (call (.setTimer (.ofNat 0) (.ofNat 0))))
    (hticking : Keeps F (setTicking false)) : Keeps F stopTimer := by
  unfold stopTimer
  refine keeps_bind keeps_get fun w => ?_
  split
  · exact keeps_bind hunset fun _ => hticking
  · exact keeps_pure ()

end Signals

namespace Loop

/-! ## Stages -/

/-- What is cleaned up after: opening the transport, starting the timer and stepping. -/
def body (t : Transport) (d : Display) (timed : Bool) (fuel : Nat) : Act (Option Nat) := do
  t.start
  if timed then Signals.startTimer
  let steps ← iterate t d 0 fuel
  match steps with
  | some n => log .debug s!"Leaving main loop after {n} iterations"
  | none => pure ()
  pure steps

/-- Stops the timer, if the loop has one. -/
def disarm (timed : Bool) : Act Unit := do
  if timed then Signals.stopTimer

theorem run_eq (t : Transport) (d : Display) (timed : Bool) (fuel : Nat) :
    run t d timed fuel = ensuring (body t d timed fuel) (do disarm timed; t.close) := by
  cases timed <;> rfl

/-- Starts the timer, if the loop has one. -/
def arm (timed : Bool) : Act Unit := do
  if timed then Signals.startTimer

/-- Takes note of the number of steps. -/
def note (steps : Option Nat) : Act (Option Nat) := do
  match steps with
  | some n => log .debug s!"Leaving main loop after {n} iterations"
  | none => pure ()
  pure steps

theorem body_eq (t : Transport) (d : Display) (timed : Bool) (fuel : Nat) :
    body t d timed fuel = t.start >>= fun _ => arm timed >>= fun _ => iterate t d 0 fuel >>= note := by
  cases timed <;> rfl

theorem present_eq (d : Display) (first : Bool) :
    present d first = pollResized >>= fun resized =>
      (if first || resized then d.redraw resized else pure ()) >>= fun _ =>
        pollTick >>= fun fired => if fired then d.tick else pure () := by
  unfold present
  refine congrArg (pollResized >>= ·) (funext fun resized => ?_)
  dsimp only
  cases first || resized <;> rfl

/-! ## Frames -/

section

variable {F : Frame} {display : Display} {transport : Transport}

theorem keeps_present (hflags : F.Flagging) (hredraw : ∀ resized, Keeps F (display.redraw resized))
    (htick : Keeps F display.tick) (first : Bool) : Keeps F (present display first) := by
  rw [present_eq]
  refine keeps_bind (keeps_bind keeps_get fun _ => keeps_bind (fun w => hflags w _ _ _ id) fun _ =>
      keeps_pure _)
    fun resized => keeps_bind ?_ fun _ => ?_
  · split
    · exact hredraw resized
    · exact keeps_pure ()
  · refine keeps_bind (keeps_bind keeps_get fun _ => keeps_bind (fun w => hflags w _ _ _ id) fun _ =>
      keeps_pure _)
      fun fired => ?_
    split
    · exact htick
    · exact keeps_pure ()

/-- **All iterations together** keep what showing and stepping keep. -/
theorem keeps_iterate (hflags : F.Flagging) (hredraw : ∀ resized, Keeps F (display.redraw resized))
    (htick : Keeps F display.tick) (hstep : Keeps F transport.step) (steps fuel : Nat) :
    Keeps F (iterate transport display steps fuel) := by
  induction fuel generalizing steps with
  | zero => exact keeps_pure none
  | succ fuel ih =>
      unfold iterate
      refine keeps_bind keeps_get fun w => ?_
      split
      · refine keeps_bind (keeps_present hflags hredraw htick _) fun _ => ?_
        exact keeps_bind hstep fun _ => ih (steps + 1)
      · exact keeps_pure _

theorem keeps_arm (h : Keeps F Signals.startTimer) (timed : Bool) : Keeps F (arm timed) := by
  cases timed with
  | true => exact h
  | false => exact keeps_pure ()

theorem keeps_disarm (h : Keeps F Signals.stopTimer) (timed : Bool) : Keeps F (disarm timed) := by
  cases timed with
  | true => exact h
  | false => exact keeps_pure ()

theorem keeps_note (hlog : ∀ level message, Keeps F (log level message)) (steps : Option Nat) :
    Keeps F (note steps) := by
  cases steps with
  | none => exact keeps_pure none
  | some n => exact keeps_bind (hlog _ _) fun _ => keeps_pure (some n)

/-- **A whole run** keeps what its stages keep. -/
theorem keeps_run (hflags : F.Flagging) (hlog : ∀ level message, Keeps F (log level message))
    (hdrawn : ∀ resized, Keeps F (display.redraw resized)) (htick : Keeps F display.tick)
    (hstart : Keeps F transport.start) (hstep : Keeps F transport.step)
    (hclose : Keeps F transport.close) (harm : Keeps F Signals.startTimer)
    (hdisarm : Keeps F Signals.stopTimer) (timed : Bool) (fuel : Nat) :
    Keeps F (run transport display timed fuel) := by
  rw [run_eq, body_eq]
  refine keeps_ensuring ?_ (keeps_bind (keeps_disarm hdisarm timed) fun _ => hclose)
  refine keeps_bind hstart fun _ => keeps_bind (keeps_arm harm timed) fun _ => ?_
  refine keeps_bind (keeps_iterate hflags hdrawn htick hstep 0 fuel) fun steps => ?_
  exact keeps_note hlog steps

end

end Loop

end Multicast
