import Multicast.Proofs.Act.Ends
import Multicast.Proofs.Loop.Frame

/-!
# `Proofs.Loop.Faults` — what the loop fails with

The loop has no faults of its own. If its transport and its display bound theirs, from worlds with a
property that each of them leaves in force, a run fails with no other.

## Contents
- **Iterating.** `Loop.failsAs_present` and, by induction, `Loop.failsAs_iterate`.
- **Running.** `Loop.ends_run_of_iterate` and `Loop.ends_run_bounded`.
-/

namespace Multicast.Loop

open Act

variable {p : World → Prop} {bad : Fault → Prop} {d : Display} {t : Transport}

/-! ## Iterating -/

/-- What is shown in front of a step fails as the display does. -/
theorem failsAs_present
    (hpolls : ∀ w resized tick, p w → p { w with flags := { w.flags with resized, tick } })
    (hredraw : ∀ resized, FailsAs p bad (d.redraw resized)) (htick : FailsAs p bad d.tick)
    (first : Bool) : FailsAs p bad (present d first) := by
  rw [present_eq]
  refine failsAs_bind ?_ fun resized => failsAs_bind ?_ fun _ => failsAs_bind ?_ fun fired => ?_
  · exact fun w hw => hpolls w false w.flags.tick hw
  · split
    · exact hredraw resized
    · exact failsAs_pure ()
  · exact fun w hw => hpolls w w.flags.resized false hw
  · split
    · exact htick
    · exact failsAs_pure ()

/-- **All iterations together** fail as the display and the steps do. -/
theorem failsAs_iterate
    (hpolls : ∀ w resized tick, p w → p { w with flags := { w.flags with resized, tick } })
    (hredraw : ∀ resized, FailsAs p bad (d.redraw resized)) (htick : FailsAs p bad d.tick)
    (hstep : FailsAs p bad t.step) (steps fuel : Nat) : FailsAs p bad (iterate t d steps fuel) := by
  -- What holds in front of an iteration holds behind it, so it holds in front of the next.
  induction fuel generalizing steps with
  | zero => exact failsAs_pure none
  | succ fuel ih =>
      unfold iterate
      refine failsAs_get_bind fun w _ => ?_
      split
      · refine failsAs_bind (failsAs_present hpolls hredraw htick _) fun _ => ?_
        exact failsAs_bind hstep fun _ => ih (steps + 1)
      · exact failsAs_pure _

/-! ## Running -/

/-- **A run that opens its transport** returns what its iterations do, and fails as they do: taking
    note of them, stopping the timer and closing the transport add nothing. -/
theorem ends_run_of_iterate {w : World} {timed : Bool} {fuel : Nat} {q : Option Nat → Prop}
    (hopen : Ends (t.start >>= fun _ => arm timed) w (fun _ => p) fun e _ => bad e)
    (hiterate : ∀ w₁, p w₁ → Ends (iterate t d 0 fuel) w₁ (fun n _ => q n) fun e _ => bad e)
    (hclose : ∀ w, ∃ w', t.close w = .ok () w') :
    Ends (run t d timed fuel) w (fun n _ => q n) fun e _ => bad e := by
  have hbody : Ends (body t d timed fuel) w (fun n _ => q n) fun e _ => bad e := by
    rw [body_eq, ← bind_assoc]
    refine hopen.bind fun _ w₁ h₁ => (hiterate w₁ h₁).bind fun n w₂ hn => ?_
    cases n with
    | none => exact hn
    | some n => exact hn
  have hclean : ∀ (w₁ : World) (q : Prop), q →
      Ends (do disarm timed; t.close) w₁ (fun _ _ => q) fun e _ => bad e := by
    intro w₁ q hq
    obtain ⟨w₂, hdisarm⟩ : ∃ w₂, disarm timed w₁ = .ok () w₂ := by
      cases timed with
      | true => exact ⟨_, Signals.stopTimer_apply w₁⟩
      | false => exact ⟨w₁, rfl⟩
    obtain ⟨w₃, hclosed⟩ := hclose w₂
    refine ends_bind_of_ok hdisarm ?_
    unfold Ends
    rw [hclosed]
    exact hq
  rw [run_eq]
  refine ends_ensuring (hbody.mono ?_ ?_)
  · exact fun n w₁ hn => hclean w₁ (q n) hn
  · exact fun e w₁ he => hclean w₁ (bad e) he

/-- **A run** that opens its transport with the property in force fails as its parts do. -/
theorem ends_run_bounded {w : World} {timed : Bool}
    (hopen : Ends (t.start >>= fun _ => arm timed) w (fun _ => p) fun e _ => bad e)
    (hpolls : ∀ w resized tick, p w → p { w with flags := { w.flags with resized, tick } })
    (hredraw : ∀ resized, FailsAs p bad (d.redraw resized)) (htick : FailsAs p bad d.tick)
    (hstep : FailsAs p bad t.step) (hclose : ∀ w, ∃ w', t.close w = .ok () w') (fuel : Nat) :
    Ends (run t d timed fuel) w (fun _ _ => True) fun e _ => bad e := by
  refine ends_run_of_iterate hopen (fun w₁ h₁ => ?_) hclose
  refine (failsAs_iterate hpolls hredraw htick hstep 0 fuel w₁ h₁).mono ?_ ?_
  · exact fun _ _ _ => trivial
  · exact fun _ _ h => h.1

end Multicast.Loop
