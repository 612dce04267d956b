import Multicast.Proofs.Receiver.Accepted

/-!
# `Proofs.Loop.Metered` — a run of the loop that takes count of what it accepts

Only the steps of the transport accept datagrams. Where they take count of these, so does the loop
that is made of them, from opening the transport to closing it; all else is done without a look at the
count.

## Contents
- **Runs.** `Loop.iterateMetered` and `Loop.runMetered`.
- **Metering.** `Loop.meters_iterate` and `Loop.meters_run`.
-/

namespace Multicast.Loop

open Act Metered

/-! ## Runs -/

/-- Steps until the loop is told to end; `steps` were done before. -/
def iterateMetered (step : Metered Unit) (display : Display) (steps : Nat) :
    Nat → Metered (Option Nat)
  | 0 => pure none
  | fuel + 1 => do
    if (← lift get).flags.running then
      lift (present display (steps = 0))
      step
      iterateMetered step display (steps + 1) fuel
    else pure (some steps)

/-- A run of the loop whose steps take count of what they accept. -/
def runMetered (t : Transport) (step : Metered Unit) (display : Display) (timed : Bool) (fuel : Nat) :
    Metered (Option Nat) :=
  Metered.ensuring
    (do
      lift t.start
      lift (arm timed)
      lift (note (← iterateMetered step display 0 fuel)))
    (lift do
      disarm timed
      t.close)

/-! ## Metering -/

variable {t : Transport} {step : Metered Unit} {display : Display}

/-- Showing something counts nothing. -/
theorem uncounted_present (hredraw : ∀ resized, Keeps (.of World.prospect) (display.redraw resized))
    (htick : Keeps (.of World.prospect) display.tick) (first : Bool) :
    Keeps .uncounted (present display first) :=
  keeps_present reading_uncounted.flags
    (fun resized => (hredraw resized).mono fun _ _ => uncounted_of_prospect)
    (htick.mono fun _ _ => uncounted_of_prospect) first

theorem meters_iterate (hstep : Meters step t.step)
    (hredraw : ∀ resized, Keeps (.of World.prospect) (display.redraw resized))
    (htick : Keeps (.of World.prospect) display.tick) (steps fuel : Nat) :
    Meters (iterateMetered step display steps fuel) (iterate t display steps fuel) := by
  induction fuel generalizing steps with
  | zero => exact meters_pure none
  | succ fuel ih =>
      unfold iterateMetered iterate
      refine meters_bind (meters_lift keeps_get) fun w => ?_
      split
      · refine meters_bind (meters_lift (uncounted_present hredraw htick _)) fun _ => ?_
        exact meters_bind hstep fun _ => ih (steps + 1)
      · exact meters_pure (some steps)

/-- **A run of the loop takes count of what its sessions gain**, if its steps do. -/
theorem meters_run (hstep : Meters step t.step) (hstart : Keeps .uncounted t.start)
    (hclose : Keeps (.of World.prospect) t.close)
    (hredraw : ∀ resized, Keeps (.of World.prospect) (display.redraw resized))
    (htick : Keeps (.of World.prospect) display.tick) (timed : Bool) (fuel : Nat) :
    Meters (runMetered t step display timed fuel) (run t display timed fuel) := by
  have hlift : ∀ {α : Type} {act : Act α}, Keeps (.of World.prospect) act → Meters (lift act) act :=
    fun h => meters_lift (h.mono fun _ _ => uncounted_of_prospect)
  obtain ⟨harm, hdisarm⟩ := prospect_timer timed
  unfold runMetered
  rw [run_eq, body_eq]
  refine meters_ensuring ?_ (hlift (keeps_bind hdisarm fun _ => hclose))
  refine meters_bind (meters_lift hstart) fun _ => meters_bind (hlift harm) fun _ => ?_
  refine meters_bind (meters_iterate hstep hredraw htick 0 fuel) fun steps => ?_
  exact hlift (keeps_note prospect_log steps)

end Multicast.Loop
