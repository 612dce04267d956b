import Mathlib.Data.List.GetD
import Mathlib.Logic.Function.Basic
import Multicast.Proofs.Dashboard.Strokes

/-!
# `Proofs.Dashboard.Canvas` — the characters that commands leave on the screen

Where texts are written over each other, the last one is not all that is seen: of a longer one
beneath, the rest stays. A canvas has every character in its place, each row on its own, as if no
text ran over into the next.

## Contents
- **Canvases.** `Canvas`, what commands leave in each place, and `Canvas.Spares`, commands that leave
  rows as they are.
- **Lines.** What drawing the log region leaves on its rows (`Dashboard.cells_logCommands`).
-/

namespace Multicast

open Screen (Command)

/-! ## Canvases -/

/-- The cursor, and the character in each place. A row has no end, and there are rows without
    number. -/
structure Canvas where
  column : Nat := 0
  row : Int := 0
  cells : Int → Nat → Nat := fun _ _ => ' '.toNat

namespace Canvas

/-- A row with a text at its start, and blank behind that. -/
def rowOf (ps : List Nat) (x : Nat) : Nat := ps.getD x ' '.toNat

/-- A row over which a text is written from a column on. -/
def overlay (row : Nat → Nat) (start : Nat) (ps : List Nat) (x : Nat) : Nat :=
  if start ≤ x then ps.getD (x - start) (row x) else row x

/-- A row that is blanked from a column on. -/
def cutOff (row : Nat → Nat) (start : Nat) (x : Nat) : Nat := if start ≤ x then ' '.toNat else row x

/-- What one command changes. -/
def step (c : Canvas) : Command → Canvas
  | .moveTo x y => { c with column := x.toNat, row := y }
  | .write text _ =>
    let ps := Text.points text.toList
    { c with
      column := c.column + ps.length
      cells := Function.update c.cells c.row (overlay (c.cells c.row) c.column ps) }
  | .clear => {}
  | .clearToEnd =>
    { c with cells := Function.update c.cells c.row (cutOff (c.cells c.row) c.column) }
  | _ => c

/-- What some commands leave on the screen. -/
def after (c : Canvas) (cs : List Command) : Canvas := cs.foldl step c

theorem after_append (c : Canvas) (cs ds : List Command) :
    c.after (cs ++ ds) = (c.after cs).after ds :=
  List.foldl_append

/-- A text of which the rest of its row is blanked is all there is on the row. -/
theorem cutOff_overlay (row : Nat → Nat) (ps : List Nat) :
    cutOff (overlay row 0 ps) ps.length = rowOf ps := by
  funext x
  unfold cutOff overlay rowOf
  by_cases hx : ps.length ≤ x
  · rw [if_pos hx, List.getD_eq_default _ _ hx]
  · have hlt : x < ps.length := Nat.not_le.1 hx
    rw [if_neg hx, if_pos (Nat.zero_le x), Nat.sub_zero, List.getD_eq_getElem _ _ hlt,
      List.getD_eq_getElem _ _ hlt]

/-- The commands leave all rows as they are that are not of a kind. -/
def Spares (p : Int → Prop) (cs : List Command) : Prop :=
  ∀ (c : Canvas) (y : Int), ¬p y → (c.after cs).cells y = c.cells y

variable {p q : Int → Prop} {cs ds : List Command}

theorem Spares.append (hcs : Spares p cs) (hds : Spares p ds) : Spares p (cs ++ ds) := by
  intro c y hy
  rw [after_append, hds _ y hy, hcs c y hy]

theorem Spares.mono (h : Spares p cs) (hpq : ∀ y, p y → q y) : Spares q cs :=
  fun c y hy => h c y fun hp => hy (hpq y hp)

theorem spares_stroke {y : Int} (hy : p y) (x : Int) (text : String) (style : Style) :
    Spares p [.moveTo x y, .write text style] := by
  intro c y' hy'
  apply Function.update_of_ne
  rintro rfl
  exact hy' hy

/-- Strokes leave all rows as they are but their own. -/
theorem spares_strokes {r : Int → Int → Prop} (h : Dashboard.Strokes r cs) :
    Spares (fun y => ∃ x, r x y) cs := by
  induction h with
  | nil => exact fun c y _ => rfl
  | @cons x y cs h text style _ ih => exact (spares_stroke ⟨x, h⟩ x text style).append ih

end Canvas

/-- What is on a screen that takes note of its commands. -/
def World.canvas (w : World) : Canvas := Canvas.after {} w.commands.toList

namespace Dashboard

/-! ## Lines -/

/-- A line as far as it has room. -/
def shownOf (d : Dashboard) (line : String) : List Nat :=
  (Text.points line.toList).take (max (d.width - 1) 0).toNat

/-- A line of the log region is all there is on its row. -/
theorem cells_logLine (d : Dashboard) (sessions : Nat) (line : String) (i : Nat) (c : Canvas) :
    (c.after (d.logLine sessions line i)).cells =
      Function.update c.cells (logRow sessions + i) (Canvas.rowOf (d.shownOf line)) := by
  have hpoints : Text.points (Text.take (d.width - 1).toNat line).toList = d.shownOf line := by
    unfold shownOf
    rw [Text.points_take]
    congr 1
    omega
  have hcells : (c.after (d.logLine sessions line i)).cells =
      Function.update (Function.update c.cells (logRow sessions + i)
        (Canvas.overlay (c.cells (logRow sessions + i)) 0 (d.shownOf line)))
        (logRow sessions + i)
        (Canvas.cutOff (Function.update c.cells (logRow sessions + i)
          (Canvas.overlay (c.cells (logRow sessions + i)) 0 (d.shownOf line)) (logRow sessions + i))
          (0 + (d.shownOf line).length)) := by
    -- The text is put over the row first; the cursor then stands where it ends.
    rw [← hpoints]
    rfl
  rw [hcells, Function.update_self, Function.update_idem, Nat.zero_add, Canvas.cutOff_overlay]

/-- **Lines that are drawn from a row on** are each all there is on their row, and no other row
    changes. -/
theorem cells_logLines (d : Dashboard) (sessions : Nat) (lines : List String) (k : Nat) (c : Canvas) :
    let drawn := c.after ((lines.zipIdx k).flatMap fun (line, i) => d.logLine sessions line i)
    (∀ (i : Nat) (line : String), lines[i]? = some line →
        drawn.cells (logRow sessions + (k + i : Nat)) = Canvas.rowOf (d.shownOf line)) ∧
      ∀ y, (∀ i < lines.length, y ≠ logRow sessions + (k + i : Nat)) →
        drawn.cells y = c.cells y := by
  -- What is drawn further down starts one row below, on the canvas with the first line.
  induction lines generalizing k c with
  | nil =>
      refine ⟨?_, fun y _ => rfl⟩
      intro i line hline
      cases hline
  | cons first lines ih =>
      obtain ⟨hbelow, hothers⟩ := ih (k + 1) (c.after (d.logLine sessions first k))
      dsimp only at hbelow hothers ⊢
      rw [List.zipIdx_cons, List.flatMap_cons, Canvas.after_append]
      constructor
      · intro i line hline
        cases i with
        | zero =>
            -- The lines further down are on other rows.
            obtain rfl := Option.some.inj hline
            have hfirst : ∀ j < lines.length,
                logRow sessions + (k : Int) ≠ logRow sessions + (k + 1 + j : Nat) := by
              intro j _
              omega
            rw [Nat.add_zero k, hothers _ hfirst, cells_logLine, Function.update_self]
        | succ i =>
            have hrow := hbelow i line hline
            rw [Nat.add_assoc, Nat.add_comm 1 i] at hrow
            exact hrow
      · intro y hy
        rw [hothers, cells_logLine, Function.update_of_ne]
        · exact hy 0 (Nat.zero_lt_succ _)
        · intro i hi
          have hrow := hy (i + 1) (Nat.succ_lt_succ hi)
          rw [Nat.add_comm i 1, ← Nat.add_assoc] at hrow
          exact hrow

/-- Drawing the log region puts its latest lines on its rows, and leaves the rows behind them. -/
theorem cells_logCommands (d : Dashboard) (sessions : Nat) (region : LogRegion) (c : Canvas) :
    (∀ (i : Nat) (line : String), (LogRegion.latest (d.logRows sessions) region.lines)[i]? = some line →
        (c.after (d.logCommands sessions region)).cells (logRow sessions + i) =
          Canvas.rowOf (d.shownOf line)) ∧
      ∀ i : Nat, region.lines.length ≤ i →
        (c.after (d.logCommands sessions region)).cells (logRow sessions + i) =
          c.cells (logRow sessions + i) := by
  -- As many lines are drawn as there are rows and lines for, so that none is behind the last of them.
  obtain ⟨hdrawn, hothers⟩ :=
    cells_logLines d sessions (LogRegion.latest (d.logRows sessions) region.lines) 0 c
  constructor
  · intro i line hline
    have hrow := hdrawn i line hline
    rw [Nat.zero_add] at hrow
    exact hrow
  · intro i hi
    apply hothers
    intro j hj
    rw [LogRegion.length_latest] at hj
    omega

end Dashboard

end Multicast
