import Multicast.Proofs.Dashboard.Sight

/-!
# `Proofs.Dashboard.Strokes` — texts are written where the cursor was moved to

Everything that the dashboard writes is a stroke: the cursor is moved, then one text is written. Where
the strokes of each of its parts lie follows from the layout.

## Contents
- **Strokes.** `Strokes`, with `Strokes.append`, `Strokes.mono` and `strokes_place`.
- **Parts.** `Dashboard.Inside`, the columns of the screen; where the captions, the bar and the rows of
  sessions are written (`strokes_captions`, `strokes_bar`, `strokes_paintFrom`), and what they add to
  a sight (`adds_captions`, `adds_bar`, `adds_paintFrom`).
-/

namespace Multicast.Dashboard

open Screen (Command)

/-! ## Strokes -/

/-- Texts, each of them right behind a move of the cursor to a position of a kind. -/
inductive Strokes (p : Int → Int → Prop) : List Command → Prop where
  | nil : Strokes p []
  | cons {x y : Int} {cs : List Command} (h : p x y) (text : String) (style : Style)
    (hcs : Strokes p cs) : Strokes p (.moveTo x y :: .write text style :: cs)

variable {p q : Int → Int → Prop} {cs ds : List Command}

theorem Strokes.append (hcs : Strokes p cs) (hds : Strokes p ds) : Strokes p (cs ++ ds) := by
  induction hcs with
  | nil => exact hds
  | cons h text style _ ih => exact .cons h text style ih

theorem Strokes.mono (h : Strokes p cs) (hpq : ∀ x y, p x y → q x y) : Strokes q cs := by
  induction h with
  | nil => exact .nil
  | cons h text style _ ih => exact .cons (hpq _ _ h) text style ih

/-- Strokes blank nothing, and write on the rows of their positions. -/
theorem Strokes.adds (h : Strokes p cs) : Sight.Adds (fun y => ∃ x, p x y) cs := by
  induction h with
  | nil => exact Sight.adds_nil
  | @cons x y cs h text style _ ih =>
      have hstroke : Sight.Adds (fun y => ∃ x, p x y) [.moveTo x y, .write text style] :=
        fun v => ⟨[(y, text)], rfl, by simpa using ⟨x, h⟩⟩
      exact hstroke.append ih

theorem strokes_place {x y : Int} (h : p (max x 0) y) (text : String) (style : Style) :
    Strokes p (place x y text style) :=
  .cons h text style .nil

/-! ## Parts -/

/-- A column of the screen; a screen without any has the first one nevertheless. -/
def Inside (d : Dashboard) (x : Int) : Prop := 0 ≤ x ∧ x < max d.width 1

/-- The first column is one. -/
theorem inside_zero (d : Dashboard) : d.Inside 0 := by
  unfold Inside
  omega

theorem strokes_captions (d : Dashboard) :
    Strokes (fun x y => d.Inside x ∧ (y = titleRow ∨ y = barRow)) d.captions := by
  have hcentre : ∀ length : Nat, d.Inside (max ((d.width - length) / 2) 0) := by
    intro length
    unfold Inside
    omega
  apply Strokes.append
  · exact strokes_place ⟨hcentre _, Or.inl rfl⟩ _ _
  · exact strokes_place ⟨hcentre _, Or.inr rfl⟩ _ _

theorem strokes_bar (d : Dashboard) (time : Calendar.Stamp) :
    Strokes (fun x y => d.Inside x ∧ y = barRow) (d.bar time) := by
  apply Strokes.append
  · exact strokes_place ⟨d.inside_zero, rfl⟩ _ _
  · apply strokes_place
    refine ⟨?_, rfl⟩
    unfold Inside
    omega

theorem adds_captions (d : Dashboard) :
    Sight.Adds (fun y => y = titleRow ∨ y = barRow) d.captions :=
  (strokes_captions d).adds.mono fun _ ⟨_, _, hy⟩ => hy

theorem adds_bar (d : Dashboard) (time : Calendar.Stamp) : Sight.Adds (· = barRow) (d.bar time) :=
  (strokes_bar d time).adds.mono fun _ ⟨_, _, hy⟩ => hy

/-- Painting the row of a session writes there, if it is in sight. -/
theorem strokes_paintRow (d : Dashboard) (i : Nat) (line : String) :
    Strokes (fun x y => x = 0 ∧ y = firstRow + i ∧ ¬d.hides i) (d.paintRow i line).1 := by
  unfold paintRow
  split
  · exact .nil
  · rename_i hskip
    apply strokes_place
    exact ⟨rfl, rfl, fun hhides => hskip (Or.inl (of_decide_eq_true hhides))⟩

/-- Painting rows of sessions changes what is taken to be on them, and no more of the dashboard. -/
theorem paintFrom_snd (d : Dashboard) (i : Nat) (sessions : List Session) :
    ∃ painted, (d.paintFrom i sessions).2 = { d with painted } := by
  induction sessions generalizing d i with
  | nil => exact ⟨d.painted, rfl⟩
  | cons s sessions ih =>
      have hrow : ∀ line, ∃ painted, (d.paintRow i line).2 = { d with painted } := by
        intro line
        unfold paintRow
        split
        · exact ⟨d.painted, rfl⟩
        · exact ⟨_, rfl⟩
      rw [paintFrom]
      obtain ⟨painted, hhere⟩ := hrow (s.row s.glyph d.window)
      obtain ⟨painted', hbelow⟩ := ih (d.paintRow i (s.row s.glyph d.window)).2 (i + 1)
      refine ⟨painted', hbelow.trans ?_⟩
      rw [hhere]

theorem size_paintFrom (d : Dashboard) (i : Nat) (sessions : List Session) :
    (d.paintFrom i sessions).2.width = d.width ∧ (d.paintFrom i sessions).2.height = d.height := by
  obtain ⟨painted, hpainted⟩ := paintFrom_snd d i sessions
  rw [hpainted]
  exact ⟨rfl, rfl⟩

/-- **Painting rows of sessions writes on rows of theirs that are in sight.** -/
theorem strokes_paintFrom (d : Dashboard) (i : Nat) (sessions : List Session) :
    Strokes (fun x y => x = 0 ∧ ∃ j < i + sessions.length, y = firstRow + j ∧ ¬d.hides j)
      (d.paintFrom i sessions).1 := by
  induction sessions generalizing d i with
  | nil => exact .nil
  | cons s sessions ih =>
      rw [paintFrom]
      obtain ⟨-, hheight⟩ := size_paintRow d i (s.row s.glyph d.window)
      apply Strokes.append
      · apply (strokes_paintRow d i _).mono
        rintro x y ⟨hx, hy, hsight⟩
        exact ⟨hx, i, by simp, hy, hsight⟩
      · apply (ih _ (i + 1)).mono
        rintro x y ⟨hx, j, hj, hy, hsight⟩
        refine ⟨hx, j, by simpa [Nat.add_assoc, Nat.add_comm 1] using hj, hy, ?_⟩
        rw [hides, hheight] at hsight
        exact hsight

theorem adds_paintFrom (d : Dashboard) (i : Nat) (sessions : List Session) :
    Sight.Adds (fun y => ∃ j < i + sessions.length, y = firstRow + j ∧ ¬d.hides j)
      (d.paintFrom i sessions).1 :=
  (strokes_paintFrom d i sessions).adds.mono fun _ ⟨_, _, hy⟩ => hy

end Multicast.Dashboard
