import Mathlib.Algebra.BigOperators.Group.List.Basic
import Mathlib.Algebra.Ring.Int.Defs
import Multicast.Proofs.Dashboard.Frame
import Multicast.Proofs.Loop.Frame
import Multicast.Proofs.Terminal.Frame
import Multicast.Proofs.Transport.Frame

/-!
# `Proofs.Loop.Prospect` — what the sessions have counted, and what a loop may come to

How far a loop gets depends on what happens during the coming waits and on the handlers in force, and
what it will report on what its sessions have counted. Opening, closing and drawing have to do with
none of this; it changes in the steps of the transport only.

## Contents
- **Scores.** `Table.scores`, with `Table.total_eq_sum`.
- **Prospects.** `World.prospect`, with what leaves it: `opening_prospect`, `operating_prospect`,
  `drawing_prospect`, `marking_prospect` and `prospect_timer`.
-/

namespace Multicast

open Act

/-! ## Scores -/

namespace Table

/-- The group of each session, with what the session has counted. -/
def scores (t : Table) : List (String × Int) := t.sessions.map fun s => (s.group, s.count)

/-- The total is the sum of the sessions' counts. -/
theorem total_eq_sum (t : Table) : t.total = (t.sessions.map (·.count)).sum :=
  List.sum_eq_foldl.symm

theorem sum_scores (t : Table) : (t.scores.map (·.2)).sum = t.total := by
  rw [total_eq_sum, scores, List.map_map]
  rfl

theorem map_fst_scores (t : Table) : t.scores.map (·.1) = t.sessions.map (·.group) := by
  rw [scores, List.map_map]
  rfl

end Table

/-! ## Prospects -/

/-- What sessions have counted, whether a loop is to go on, and what may happen in it. -/
structure Prospect where
  scores : List (String × Int)
  running : Bool
  handlers : Signal → Disposition
  script : List (List Event)
  idle : List Event

/-- The prospect of a world. -/
def World.prospect (w : World) : Prospect :=
  ⟨w.table.scores, w.flags.running, w.host.handlers, w.host.script, w.host.idle⟩

theorem prospect_log (level : Level) (message : String) :
    Keeps (.of World.prospect) (log level message) := by
  intro w
  have hhost := Host.log_leaves (fun h => (h.handlers, h.script, h.idle)) (fun _ _ => rfl)
    (fun _ _ sink => by cases sink <;> rfl) w.host level message
  exact congrArg (fun parts => Prospect.mk w.table.scores w.flags.running parts.1 parts.2.1 parts.2.2)
    hhost

theorem prospect_check (kind : CallKind) : Keeps (.of World.prospect) (check kind) := by
  intro w
  rw [after_check]
  rfl

/-- A change of a session that leaves its group and its count. -/
theorem prospect_modifySession (i : Int) {f : Session → Session}
    (hf : ∀ s, (f s).group = s.group ∧ (f s).count = s.count) :
    Keeps (.of World.prospect) (modifySession i f) := by
  intro w
  have hscores := map_modifySession (fun s => (s.group, s.count)) (i := i) (f := f) (w := w)
    fun s _ => Prod.ext (hf s).1 (hf s).2
  obtain ⟨sessions, hafter⟩ := after_modifySession i f w
  rw [hafter] at hscores ⊢
  exact congrArg ({ w.prospect with scores := · }) hscores

/-- A change of all sessions that leaves their groups and counts. -/
theorem prospect_map {f : Session → Session} (hf : ∀ s, (f s).group = s.group ∧ (f s).count = s.count)
    (w : World) :
    World.prospect { w with table := { w.table with sessions := w.table.sessions.map f } } =
      w.prospect := by
  have hscores : (w.table.sessions.map f).map (fun s => (s.group, s.count)) = w.table.scores := by
    rw [List.map_map]
    exact List.map_congr_left fun s _ => Prod.ext (hf s).1 (hf s).2
  exact congrArg ({ w.prospect with scores := · }) hscores

/-- **Opening and closing a transport** leaves the prospect. -/
theorem opening_prospect : (Frame.of World.prospect).Opening where
  call _ _ _ := rfl
  check := prospect_check
  log := prospect_log
  numbered _ _ := rfl
  uplinks _ _ := rfl
  watched _ _ := rfl
  socket i _ := prospect_modifySession i fun _ => ⟨rfl, rfl⟩

theorem operating_prospect : (Frame.of World.prospect).Operating where
  call _ _ _ := rfl
  check _ := prospect_check _
  log := prospect_log
  size _ _ _ := rfl

/-- **Drawing** leaves the prospect. -/
theorem drawing_prospect : (Frame.of World.prospect).Drawing .terminal where
  perform _ hc := Terminal.keeps_perform operating_prospect hc
  querySize := Terminal.keeps_querySize operating_prospect
  update _ _ _ := rfl
  region _ _ := rfl
  command _ _ := rfl
  lookup _ _ _ := rfl
  check := prospect_check .lookup
  turn := prospect_map fun s => by
    unfold Session.turn
    split <;> exact ⟨rfl, rfl⟩
  age := prospect_map fun _ => ⟨rfl, rfl⟩

theorem marking_prospect : (Frame.of World.prospect).Marking where
  progress _ _ := rfl
  stdout _ _ := rfl

/-- **Starting and stopping the timer** leaves the prospect. -/
theorem prospect_timer (timed : Bool) :
    Keeps (.of World.prospect) (Loop.arm timed) ∧ Keeps (.of World.prospect) (Loop.disarm timed) := by
  have hstart : Keeps (.of World.prospect) Signals.startTimer :=
    Signals.keeps_startTimer (fun _ _ _ _ _ => rfl) (fun _ => rfl) prospect_log
  have hstop : Keeps (.of World.prospect) Signals.stopTimer :=
    Signals.keeps_stopTimer (fun _ => rfl) fun _ => rfl
  exact ⟨Loop.keeps_arm hstart timed, Loop.keeps_disarm hstop timed⟩

end Multicast
