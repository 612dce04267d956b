import Multicast.Proofs.Act.Frame

/-!
# `Proofs.Act.Tally` — which calls were made, and which refusals can come up

Most steps have no business with the calls of a given sort: what was called of it so far is the same
before and after them. A refusal that was due goes off the schedule, but may come up again.

## Contents
- **Tallies.** `Host.tally`, with what records and logging do to it.
- **Steps.** `Act.map_next`, `Act.tally_check` and `Act.tally_granted`.
-/

namespace Multicast

/-! ## Tallies -/

/-- The calls of a sort that were made, and which refusals can come up, however often. -/
def Host.tally (sort : Call → Bool) (h : Host) : List Call × List (CallKind × Fault) :=
  (h.trace.toList.filter sort, h.failures.map fun f => (f.kind, f.fault))

variable {sort : Call → Bool}

/-- A call is in the tally of its sort. -/
theorem Host.tally_record (h : Host) (c : Call) :
    (h.record c).tally sort = ((h.tally sort).1 ++ [c].filter sort, (h.tally sort).2) := by
  simp [tally, record]

/-- A call of another sort is not. -/
theorem Host.tally_record_of_not {c : Call} (hc : sort c = false) (h : Host) :
    (h.record c).tally sort = h.tally sort := by
  have hnone : [c].filter sort = [] := List.filter_cons_of_neg (by simp [hc])
  rw [tally_record, hnone]
  exact Prod.ext (List.append_nil _) rfl

/-- Handing on a record is none of the calls of a sort that has no such calls. -/
theorem Host.tally_log (hsystem : ∀ text, sort (.systemLog text) = false)
    (hfile : ∀ record, sort (.logFile record) = false) (h : Host) (level : Level) (message : String) :
    (h.log level message).tally sort = h.tally sort := by
  refine Host.log_leaves (tally sort) (fun _ _ => rfl) ?_ h level message
  intro h r sink
  cases sink with
  | standardError | region => rfl
  | systemLog => exact tally_record_of_not (hsystem _) h
  | file => exact tally_record_of_not (hfile _) h

/-! ## Steps -/

/-- Refusals that move on can come up as before. -/
theorem Act.map_next (kind : CallKind) (failures : List Failure) :
    (failures.map (Failure.next kind)).map (fun f => (f.kind, f.fault)) =
      failures.map fun f => (f.kind, f.fault) := by
  rw [List.map_map]
  refine List.map_congr_left fun f _ => ?_
  obtain ⟨hkind, hfault⟩ := next_failure kind f
  exact Prod.ext hkind hfault

/-- A check calls nothing, and takes no refusal off for good. -/
theorem Act.tally_check (kind : CallKind) (w : World) :
    ((check kind).after w).host.tally sort = w.host.tally sort := by
  rw [after_check]
  exact Prod.ext rfl (map_next kind w.host.failures)

/-- A call that was granted is in the tally like any other. -/
theorem Act.tally_granted (kind : CallKind) (c : Call) (h : Host) :
    (granted kind c h).tally sort = (h.record c).tally sort :=
  Prod.ext rfl (map_next kind h.failures)

end Multicast
