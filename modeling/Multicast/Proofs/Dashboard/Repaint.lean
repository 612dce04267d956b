import Mathlib.Data.List.Forall2
import Multicast.Proofs.Dashboard.Frame
import Multicast.Proofs.Dashboard.Strokes
import Multicast.Proofs.Session.Row

/-!
# `Proofs.Dashboard.Repaint` — painting changed rows only shows what a repaint would

After a repaint, a paint writes only the rows that differ from what was painted last. The screen
nevertheless shows every session as it is: what is taken to be on a row is the last text written
there since the screen was blanked, and no longer text lies beneath it.

## Contents
- **Rows of one session.** `Cell.Of`, kept when the row is painted (`Cell.Of.paint`) and while the
  session goes on counting (`Cell.Of.mono`).
- **Screens in step.** `Dashboard.InStep`, the invariant, and `Dashboard.Shows`, what it makes of a
  paint.
- **Stages.** `Draws`, what a stage draws, then `Painted` and `Painting` with `InStep.paint`, and
  `Blanking` with `InStep.of_blank`.
-/

namespace Multicast.Dashboard

open Act Text
open Screen (Command)

/-! ## Rows of one session -/

/-- The texts on a row are rows of the session when it had counted no more, and what is taken to be
    on top of them is. -/
structure Cell.Of (window : Nat) (s : Session) (c : Cell) : Prop where
  texts : ∀ text ∈ c.texts, ∃ s' : Session, s'.label = s.label ∧ 0 ≤ s'.count ∧
    s'.count ≤ s.count ∧ text = s'.row s'.glyph window
  cached : ∀ line, c.cached = some line → c.texts.getLast? = some line

theorem Cell.Of.mono {window : Nat} {s s' : Session} {c : Cell} (h : c.Of window s)
    (hlabel : s'.label = s.label) (hcount : s.count ≤ s'.count) : c.Of window s' where
  texts text htext := by
    obtain ⟨earlier, hearlier, hpos, hle, htext⟩ := h.texts text htext
    exact ⟨earlier, hearlier.trans hlabel.symm, hpos, Int.le_trans hle hcount, htext⟩
  cached := h.cached

/-- No text on the row is longer than what the session's row is now. -/
theorem Cell.Of.covered {window : Nat} {s : Session} {c : Cell} (h : c.Of window s) :
    ∀ text ∈ c.texts, size text ≤ size (s.row s.glyph window) := by
  intro text htext
  obtain ⟨earlier, hlabel, hpos, hle, rfl⟩ := h.texts text htext
  exact Session.size_row_mono hlabel hpos hle window

/-- **Painting a row puts the session's present row on top**, if it is in sight. -/
theorem Cell.Of.paint {window : Nat} {s : Session} {c : Cell} (h : c.Of window s)
    (hpos : 0 ≤ s.count) (hidden : Bool) :
    (c.paint hidden (s.row s.glyph window)).Of window s ∧
      (hidden = false → (c.paint hidden (s.row s.glyph window)).texts.getLast? =
        some (s.row s.glyph window)) := by
  unfold Cell.paint
  split
  · rename_i hskip
    refine ⟨h, fun hsight => h.cached _ (hskip.resolve_left ?_)⟩
    rw [hsight]
    exact Bool.false_ne_true
  · refine ⟨⟨?_, ?_⟩, fun _ => List.getLast?_concat⟩
    · intro text htext
      rcases List.mem_append.1 htext with hbefore | hnow
      · exact h.texts text hbefore
      · exact ⟨s, rfl, hpos, Int.le_refl _, List.mem_singleton.1 hnow⟩
    · intro line hline
      obtain rfl := Option.some.inj hline
      exact List.getLast?_concat

/-! ## Screens in step -/

/-- The rows that texts are written on: those of the title, the bar, the headings and the log region,
    and those of the sessions in sight. -/
def InUse (d : Dashboard) (sessions : Nat) (y : Int) : Prop :=
  y = titleRow ∨ y = barRow ∨ y = headingRow ∨ y = logHeadingRow sessions ∨ logRow sessions ≤ y ∨
    ∃ k < sessions, y = firstRow + k ∧ ¬d.hides k

/-- The rows that are in use whatever the sessions are. -/
theorem InUse.of_heading {d : Dashboard} {sessions : Nat} {y : Int}
    (h : y = titleRow ∨ y = barRow ∨ y = headingRow) : d.InUse sessions y := by
  rcases h with htitle | hbar | hheading
  · exact Or.inl htitle
  · exact Or.inr (Or.inl hbar)
  · exact Or.inr (Or.inr (Or.inl hheading))

/-- The heading of the log region and all rows behind it are in use. -/
theorem InUse.of_log {d : Dashboard} {sessions : Nat} {y : Int}
    (h : y = logHeadingRow sessions ∨ logRow sessions ≤ y) : d.InUse sessions y := by
  rcases h with hheading | hregion
  · exact Or.inr (Or.inr (Or.inr (Or.inl hheading)))
  · exact Or.inr (Or.inr (Or.inr (Or.inr (Or.inl hregion))))

/-- The rows of sessions in sight are in use. -/
theorem InUse.of_row {d : Dashboard} {sessions : Nat} {y : Int}
    (h : ∃ k < sessions, y = firstRow + k ∧ ¬d.hides k) : d.InUse sessions y :=
  Or.inr (Or.inr (Or.inr (Or.inr (Or.inr h))))

/-- Of the rows of sessions, only those in sight are used. -/
theorem InUse.not_hides {d : Dashboard} {sessions k : Nat} (h : d.InUse sessions (firstRow + k))
    (hk : k < sessions) : ¬d.hides k := by
  unfold InUse titleRow barRow headingRow logHeadingRow logRow logHeadingRow firstRow at h
  rcases h with h | h | h | h | h | ⟨j, -, hj, hhides⟩
  · omega
  · omega
  · omega
  · omega
  · omega
  · obtain rfl : k = j := by omega
    exact hhides

end Multicast.Dashboard

namespace Multicast

/-- What is to be seen on a screen that takes note of its commands. -/
def World.sight (w : World) : Sight := Sight.after {} w.commands.toList

namespace Dashboard

open Act Text
open Screen (Command)

/-- **The screen is in step with the dashboard**: texts are on rows in use only, and the rows of
    sessions hold what is taken to be there. -/
structure InStep (w : World) : Prop where
  counts : ∀ s ∈ w.table.sessions, 0 ≤ s.count
  used : ∀ t ∈ w.sight.texts, w.dashboard.InUse w.table.size t.1
  cells : ∀ (k : Nat) (s : Session), w.table.sessions[k]? = some s →
    (w.dashboard.cell w.sight k).Of w.dashboard.window s

/-- All sessions in sight are shown as they are, over nothing that is longer; nothing is written for
    those out of sight. -/
structure Shows (d : Dashboard) (sessions : List Session) (v : Sight) : Prop where
  shown : ∀ (k : Nat) (s : Session), sessions[k]? = some s → firstRow + k < d.height - 1 →
    (v.on (firstRow + k)).getLast? = some (s.row s.glyph d.window)
  covered : ∀ (k : Nat) (s : Session), sessions[k]? = some s → ∀ text ∈ v.on (firstRow + k),
    size text ≤ size (s.row s.glyph d.window)
  unseen : ∀ k < sessions.length, d.height - 1 ≤ firstRow + k → v.on (firstRow + k) = []
  used : ∀ t ∈ v.texts, d.InUse sessions.length t.1

/-- The size of a dashboard decides which rows are in sight, what they have room for, and which rows
    are in use. -/
theorem layout_congr {d d' : Dashboard} (hwidth : d'.width = d.width) (hheight : d'.height = d.height) :
    d'.window = d.window ∧ d'.hides = d.hides ∧ d'.InUse = d.InUse := by
  have hwindow : d'.window = d.window := by rw [window, window, hwidth]
  have hhides : d'.hides = d.hides := by
    funext k
    rw [hides, hides, hheight]
  refine ⟨hwindow, hhides, ?_⟩
  funext sessions y
  rw [InUse, InUse, hhides]

/-- Sessions of the same labels that have counted no less. -/
def GoneOn (ss ss' : List Session) : Prop :=
  List.Forall₂ (fun s s' => s'.label = s.label ∧ s.count ≤ s'.count) ss ss'

theorem GoneOn.refl (ss : List Session) : GoneOn ss ss :=
  List.forall₂_same.2 fun _ _ => ⟨rfl, Int.le_refl _⟩

theorem GoneOn.trans {ss ss' ss'' : List Session} (h : GoneOn ss ss') (h' : GoneOn ss' ss'') :
    GoneOn ss ss'' := by
  unfold GoneOn at h h' ⊢
  rw [List.forall₂_iff_get] at h h' ⊢
  obtain ⟨hlength, hsame⟩ := h
  obtain ⟨hlength', hsame'⟩ := h'
  refine ⟨hlength.trans hlength', ?_⟩
  intro k hk hk''
  have hk' : k < ss'.length := hlength ▸ hk
  obtain ⟨hlabel, hcount⟩ := hsame k hk hk'
  obtain ⟨hlabel', hcount'⟩ := hsame' k hk' hk''
  exact ⟨hlabel'.trans hlabel, Int.le_trans hcount hcount'⟩

/-- Sessions go on under a change that leaves the label and the count of each. -/
theorem GoneOn.of_map {f : Session → Session} (h : ∀ s, (f s).label = s.label ∧ (f s).count = s.count)
    (ss : List Session) : GoneOn ss (ss.map f) := by
  unfold GoneOn
  rw [List.forall₂_map_right_iff, List.forall₂_same]
  intro s _
  obtain ⟨hlabel, hcount⟩ := h s
  exact ⟨hlabel, Int.le_of_eq hcount.symm⟩

/-- Counts do not fall below zero. -/
theorem GoneOn.nonneg {ss ss' : List Session} (h : GoneOn ss ss')
    (hcounts : ∀ s ∈ ss, 0 ≤ s.count) : ∀ s ∈ ss', 0 ≤ s.count := by
  intro s' hs'
  obtain ⟨k, hk, rfl⟩ := List.getElem_of_mem hs'
  have hk' : k < ss.length := by rw [h.length_eq]; exact hk
  obtain ⟨-, hcount⟩ := h.get hk' hk
  exact Int.le_trans (hcounts _ (List.get_mem _ _)) hcount

/-- The screen stays in step while sessions go on counting, and nothing is drawn. -/
theorem InStep.goneOn {w w' : World} (h : InStep w) (hsight : w'.sight = w.sight)
    (hdashboard : w'.dashboard = w.dashboard)
    (hsessions : GoneOn w.table.sessions w'.table.sessions) : InStep w' := by
  have hsize : w'.table.size = w.table.size := hsessions.length_eq.symm
  refine ⟨hsessions.nonneg h.counts, ?_, ?_⟩
  · rw [hsight, hdashboard, hsize]
    exact h.used
  · intro k s' hs'
    obtain ⟨hk, rfl⟩ := List.getElem?_eq_some_iff.1 hs'
    have hk' : k < w.table.sessions.length := by rw [hsessions.length_eq]; exact hk
    obtain ⟨hlabel, hcount⟩ := hsessions.get hk' hk
    have hcell := h.cells k _ (List.getElem?_eq_getElem hk')
    rw [hsight, hdashboard]
    exact hcell.mono hlabel hcount

/-! ## Stages -/

/-- A stage draws commands, and leaves the sessions, the size and the rows that were painted. -/
structure Draws (cs : List Command) (w w' : World) : Prop where
  commands : w'.commands = w.commands ++ cs.toArray
  table : w'.table = w.table
  width : w'.dashboard.width = w.dashboard.width
  height : w'.dashboard.height = w.dashboard.height
  painted : w'.dashboard.painted = w.dashboard.painted

theorem Draws.sight {cs : List Command} {w w' : World} (h : Draws cs w w') :
    w'.sight = w.sight.after cs := by
  rw [World.sight, h.commands, World.sight, ← Sight.after_append]
  simp

theorem Draws.trans {cs ds : List Command} {w w₁ w' : World} (h : Draws cs w w₁)
    (h' : Draws ds w₁ w') : Draws (cs ++ ds) w w' where
  commands := by rw [h'.commands, h.commands]; simp
  table := h'.table.trans h.table
  width := h'.width.trans h.width
  height := h'.height.trans h.height
  painted := h'.painted.trans h.painted

/-- A screen that takes note of commands takes note of all of them. -/
theorem forM_note (cs : List Command) (w : World) :
    cs.forM Screen.note w = .ok () { w with commands := w.commands ++ cs.toArray } := by
  induction cs generalizing w with
  | nil => simp [List.forM_nil]
  | cons c cs ih =>
      have hnote : Screen.note c w = .ok () { w with commands := w.commands.push c } := rfl
      show (Screen.note c >>= fun _ => cs.forM Screen.note) w = _
      rw [bind_of_ok hnote, ih]
      simp

theorem update_apply (f : Dashboard → Dashboard) (w : World) :
    update f w = .ok () { w with dashboard := f w.dashboard } := rfl

theorem draw_apply (cs : List Command) (w : World) :
    draw .record cs w = .ok () { w with
      dashboard := { w.dashboard with ops := w.dashboard.ops + cs.countP Command.isControl }
      commands := w.commands ++ cs.toArray } := by
  unfold draw
  rw [bind_of_ok (update_apply _ w)]
  exact forM_note cs _

theorem Draws.of_draw {cs : List Command} {w w' : World} (h : draw .record cs w = .ok () w') :
    Draws cs w w' := by
  rw [draw_apply] at h
  injection h with _ h
  subst h
  exact ⟨rfl, rfl, rfl, rfl, rfl⟩

theorem Draws.of_perform {c : Command} {w w' : World}
    (h : Screen.record.perform c w = .ok () w') : Draws [c] w w' := by
  obtain rfl : { w with commands := w.commands.push c } = w' := by injection h
  exact ⟨by simp, rfl, rfl, rfl, rfl⟩

/-- The parts of the world that a dashboard works on. -/
def drawn (w : World) :=
  (w.commands, w.table, w.dashboard.width, w.dashboard.height, w.dashboard.painted)

/-- Finding out the host's name and address draws nothing. -/
theorem Draws.of_identify {w w' : World} (h : identify w = .ok () w') : Draws [] w w' := by
  have hkept : drawn (identify.after w) = drawn w :=
    keeps_identify (F := .of drawn) (fun _ _ => rfl) (fun _ _ => rfl) (fun _ _ => rfl)
      (fun _ _ _ => rfl) (keeps_check (fun _ _ => rfl) _) w
  rw [after_of_ok h] at hkept
  simp only [drawn, Prod.mk.injEq] at hkept
  obtain ⟨hcommands, htable, hwidth, hheight, hpainted⟩ := hkept
  exact ⟨by simpa using hcommands, htable, hwidth, hheight, hpainted⟩

theorem Draws.of_setDirty {dirty : Bool} {w w' : World} (h : setDirty dirty w = .ok () w') :
    Draws [] w w' := by
  unfold setDirty at h
  rw [bind_of_ok (get_apply w)] at h
  dsimp only at h
  split at h
  · injection h with _ h
    subst h
    exact ⟨by simp, rfl, rfl, rfl, rfl⟩
  · injection h with _ h
    subst h
    exact ⟨by simp, rfl, rfl, rfl, rfl⟩

/-- Drawing the log region writes on its rows only. -/
theorem Draws.of_showLog {w w' : World} (h : showLog .record w = .ok () w') :
    ∃ cs, Sight.Adds (logRow w.table.size ≤ ·) cs ∧ Draws cs w w' := by
  unfold showLog at h
  rw [bind_of_ok (get_apply w)] at h
  split at h
  · obtain ⟨_, w₁, hdirty, hdraw⟩ := bind_eq_ok.1 h
    exact ⟨_, adds_logCommands _ _ _, (Draws.of_setDirty hdirty).trans (.of_draw hdraw)⟩
  · injection h with _ h
    subst h
    exact ⟨[], Sight.adds_nil, by simp, rfl, rfl, rfl, rfl⟩

/-- What a paint has done when it comes to the log region: the bar and the rows of the sessions are
    drawn. -/
structure Painted (advance : Bool) (time : Calendar.Stamp) (w w' : World) : Prop where
  commands : w'.commands = w.commands ++
    (w.dashboard.bar time ++ (w.dashboard.paintFrom 0 w.table.sessions).1).toArray
  dashboard : ∃ ops, w'.dashboard = { (w.dashboard.paintFrom 0 w.table.sessions).2 with ops }
  table : w'.table = if advance then { w.table with sessions := w.table.sessions.map Session.turn }
    else w.table
  host : w'.host = w.host

/-- A paint draws the log region last. -/
theorem exists_painted {advance : Bool} {w w' : World} (h : paint .record advance w = .ok () w') :
    ∃ w₁ time w₂, identify w = .ok () w₁ ∧ Painted advance time w₁ w₂ ∧
      showLog .record w₂ = .ok () w' := by
  rw [paint_eq] at h
  obtain ⟨_, w₁, hidentify, hdate⟩ := bind_eq_ok.1 h
  rw [bind_of_ok (get_apply w₁)] at hdate
  obtain ⟨time, w₂, htime, hpaint⟩ := bind_eq_ok.1 hdate
  obtain ⟨-, rfl⟩ := ofExcept_eq_ok.1 htime
  dsimp only at hpaint
  rw [bind_of_ok (update_apply _ w₂)] at hpaint
  refine ⟨w₂, time, ?_⟩
  -- The spinners turn before anything is drawn, but rows are made of the sessions before that.
  cases advance with
  | true =>
      rw [if_pos rfl, bind_of_ok (setTable_apply _ _), bind_of_ok (draw_apply _ _)] at hpaint
      refine ⟨_, hidentify, ?_, hpaint⟩
      exact ⟨rfl, ⟨_, rfl⟩, rfl, rfl⟩
  | false =>
      rw [if_neg Bool.false_ne_true] at hpaint
      obtain ⟨_, w₃, hdraw, hlog⟩ := bind_eq_ok.1 hpaint
      rw [draw_apply] at hdraw
      injection hdraw with _ hdraw
      subst hdraw
      refine ⟨_, hidentify, ?_, hlog⟩
      exact ⟨rfl, ⟨_, rfl⟩, rfl, rfl⟩

/-- What a paint draws and leaves: the bar, the rows of the sessions and the log region, from a
    dashboard of the size and with the rows of the one it finds. -/
structure Painting (advance : Bool) (d : Dashboard) (bar log : List Command) (w w' : World) :
    Prop where
  width : d.width = w.dashboard.width
  height : d.height = w.dashboard.height
  painted : d.painted = w.dashboard.painted
  adds_bar : Sight.Adds (· = barRow) bar
  adds_log : Sight.Adds (logRow w.table.size ≤ ·) log
  sight : w'.sight = ((w.sight.after bar).after (d.paintFrom 0 w.table.sessions).1).after log
  width_after : w'.dashboard.width = d.width
  height_after : w'.dashboard.height = d.height
  painted_after : w'.dashboard.painted = (d.paintFrom 0 w.table.sessions).2.painted
  table : w'.table = if advance then { w.table with sessions := w.table.sessions.map Session.turn }
    else w.table

theorem paint_eq_ok {advance : Bool} {w w' : World} (h : paint .record advance w = .ok () w') :
    ∃ (d : Dashboard) (bar log : List Command), Painting advance d bar log w w' := by
  obtain ⟨w₁, time, w₂, hidentify, hpainted, hlog⟩ := exists_painted h
  have hfound := Draws.of_identify hidentify
  obtain ⟨ops, hdashboard⟩ := hpainted.dashboard
  obtain ⟨hwidth, hheight⟩ := size_paintFrom w₁.dashboard 0 w₁.table.sessions
  obtain ⟨log, hadds, hlogged⟩ := Draws.of_showLog hlog
  have hsize : w₂.table.size = w.table.size := by
    rw [hpainted.table, hfound.table.symm]
    split
    · exact List.length_map _
    · rfl
  refine ⟨w₁.dashboard, w₁.dashboard.bar time, log, hfound.width, hfound.height, hfound.painted,
    adds_bar _ _, hsize ▸ hadds, ?_, ?_, ?_, ?_, ?_⟩
  · have hsight : w₂.sight = (w₁.sight.after (w₁.dashboard.bar time)).after
        (w₁.dashboard.paintFrom 0 w₁.table.sessions).1 := by
      rw [World.sight, hpainted.commands, Array.toList_append, Sight.after_append, ← World.sight,
        Sight.after_append]
    rw [hlogged.sight, hsight, hfound.sight, hfound.table]
    rfl
  · rw [hlogged.width, hdashboard, hwidth]
  · rw [hlogged.height, hdashboard, hheight]
  · rw [hlogged.painted, hdashboard, hfound.table]
  · rw [hlogged.table, hpainted.table, hfound.table]

/-- A paint leaves the size as it is. -/
theorem size_of_paint {advance : Bool} {w w' : World} (h : paint .record advance w = .ok () w') :
    w'.dashboard.width = w.dashboard.width ∧ w'.dashboard.height = w.dashboard.height := by
  obtain ⟨d, bar, log, hpaint⟩ := paint_eq_ok h
  exact ⟨hpaint.width_after.trans hpaint.width, hpaint.height_after.trans hpaint.height⟩

/-- A paint turns no more than the spinners. -/
theorem GoneOn.of_paint {advance : Bool} {w w' : World}
    (h : Dashboard.paint .record advance w = .ok () w') :
    GoneOn w.table.sessions w'.table.sessions := by
  obtain ⟨d, bar, log, hpaint⟩ := paint_eq_ok h
  rw [hpaint.table]
  cases advance with
  | true =>
      refine .of_map (fun s => ?_) _
      unfold Session.turn
      split
      · exact ⟨rfl, rfl⟩
      · exact ⟨rfl, rfl⟩
  | false => exact .refl _

/-- A paint paints the row of each session. -/
theorem cell_of_paint {advance : Bool} {w w' : World} (h : paint .record advance w = .ok () w')
    {k : Nat} {s : Session} (hs : w.table.sessions[k]? = some s) :
    w'.dashboard.cell w'.sight k =
      (w.dashboard.cell w.sight k).paint (w.dashboard.hides k) (s.row s.glyph w.dashboard.window) := by
  obtain ⟨d, bar, log, hpaint⟩ := paint_eq_ok h
  obtain ⟨hwindow, hhides, -⟩ := layout_congr hpaint.width hpaint.height
  have hbarRow : ¬firstRow + (k : Int) = barRow := by unfold firstRow barRow; omega
  have hlogRow : ¬logRow w.table.size ≤ firstRow + (k : Int) := by
    obtain ⟨hk, -⟩ := List.getElem?_eq_some_iff.1 hs
    unfold logRow logHeadingRow Table.size
    omega
  have hbefore : d.cell (w.sight.after bar) k = w.dashboard.cell w.sight k := by
    rw [cell, cell, hpaint.adds_bar.on_eq hbarRow, hpaint.painted]
  have hrows := cell_paintFrom d (w.sight.after bar) 0 hs
  rw [Nat.zero_add, hbefore, hhides, hwindow] at hrows
  rw [← hrows, hpaint.sight, cell, cell, hpaint.adds_log.on_eq hlogRow, hpaint.painted_after]

/-- A paint writes on rows in use only. -/
theorem used_of_paint {advance : Bool} {w w' : World} (h : paint .record advance w = .ok () w')
    (hused : ∀ t ∈ w.sight.texts, w.dashboard.InUse w.table.size t.1) :
    ∀ t ∈ w'.sight.texts, w'.dashboard.InUse w.table.size t.1 := by
  obtain ⟨d, bar, log, hpaint⟩ := paint_eq_ok h
  obtain ⟨-, hhides, hInUse⟩ := layout_congr hpaint.width hpaint.height
  obtain ⟨-, -, hInUse'⟩ := layout_congr hpaint.width_after hpaint.height_after
  have hrows := adds_paintFrom d 0 w.table.sessions
  rw [hInUse', hInUse, hpaint.sight]
  refine (hpaint.adds_log.mono ?_).forall_texts ((hrows.mono ?_).forall_texts
    ((hpaint.adds_bar.mono ?_).forall_texts hused))
  · exact fun y hy => .of_log (Or.inr hy)
  · intro y hy
    rw [Nat.zero_add, hhides] at hy
    exact .of_row hy
  · exact fun y hy => .of_heading (Or.inr (Or.inl hy))

/-- **A paint shows all sessions as they are when it starts**, and leaves the screen in step. -/
theorem InStep.paint {advance : Bool} {w w' : World} (hstep : InStep w)
    (h : Dashboard.paint .record advance w = .ok () w') :
    InStep w' ∧ Shows w'.dashboard w.table.sessions w'.sight := by
  obtain ⟨hwidth, hheight⟩ := size_of_paint h
  obtain ⟨hwindow, hhides, -⟩ := layout_congr hwidth hheight
  have hused := used_of_paint h hstep.used
  have hcells : ∀ (k : Nat) (s : Session), w.table.sessions[k]? = some s →
      (w'.dashboard.cell w'.sight k).Of w'.dashboard.window s ∧
        (w'.dashboard.hides k = false →
          (w'.dashboard.cell w'.sight k).texts.getLast? = some (s.row s.glyph w'.dashboard.window)) := by
    intro k s hs
    rw [cell_of_paint h hs, hwindow, hhides]
    exact (hstep.cells k s hs).paint (hstep.counts s (List.mem_of_getElem? hs)) _
  -- The screen is in step with the sessions that were painted, and so with what becomes of them.
  have hpainted : InStep { w' with table := w.table } :=
    ⟨hstep.counts, hused, fun k s hs => (hcells k s hs).1⟩
  have hturned : GoneOn w.table.sessions w'.table.sessions := .of_paint h
  refine ⟨hpainted.goneOn rfl rfl hturned, ?_, ?_, ?_, hused⟩
  · intro k s hs hsight
    exact (hcells k s hs).2 (decide_eq_false (Int.not_le.2 hsight))
  · exact fun k s hs => (hcells k s hs).1.covered
  · intro k hk hunseen
    rw [Sight.on, List.map_eq_nil_iff, List.filter_eq_nil_iff]
    intro t ht hrow
    have hinUse := hused t ht
    rw [of_decide_eq_true hrow] at hinUse
    exact hinUse.not_hides hk (decide_eq_true hunseen)

/-- Preparing the screen draws nothing that is seen. -/
theorem prepare_eq_ok {w w' : World} (h : prepare .record w = .ok () w') :
    ∃ cs, Draws cs w w' := by
  unfold prepare at h
  rw [bind_of_ok (get_apply w)] at h
  split at h
  · injection h with _ h
    subst h
    exact ⟨[], by simp, rfl, rfl, rfl, rfl⟩
  · rw [bind_of_ok (update_apply _ w)] at h
    obtain ⟨hcommands, htable, hwidth, hheight, hpainted⟩ := Draws.of_draw h
    exact ⟨_, hcommands, htable, hwidth, hheight, hpainted⟩

/-- Drawing a heading writes one text in its row. -/
theorem Draws.of_drawHeading {row : Int} {text : Except RoomError String} {w w' : World}
    (h : drawHeading .record row text w = .ok () w') :
    ∃ heading, Draws (place 0 row heading .reverse) w w' := by
  unfold drawHeading at h
  obtain ⟨_, w₁, hmove, htext⟩ := bind_eq_ok.1 h
  obtain ⟨heading, w₂, hroom, hwrite⟩ := bind_eq_ok.1 htext
  obtain ⟨-, rfl⟩ := ofExcept_eq_ok.1 hroom
  exact ⟨heading, (Draws.of_draw hmove).trans (.of_draw hwrite)⟩

/-- The size that the terminal tells. -/
def told (w : World) : Int × Int := w.host.terminal.getD (w.terminal.width, w.terminal.height)

/-- The world with that size taken over. -/
def sized (w : World) : World :=
  { w with
    dashboard := { w.dashboard with width := (told w).1, height := (told w).2 }
    commands := w.commands.push .querySize }

theorem resize_apply (w : World) : resize .record w = .ok () (sized w) := rfl

/-- A blanked screen holds the captions and the two headings, and no row is taken to be painted. -/
structure Blanking (d : Dashboard) (heading logHeading : String) (v : Sight) (w w' : World) :
    Prop where
  blank : v.texts = []
  commands : ∃ before : List Command, w'.commands.toList = w.commands.toList ++ before ++
    .clear :: (d.captions ++ place 0 headingRow heading .reverse ++
      place 0 (logHeadingRow w.table.size) logHeading .reverse)
  sight : w'.sight = ((v.after d.captions).after (place 0 headingRow heading .reverse)).after
    (place 0 (logHeadingRow w.table.size) logHeading .reverse)
  table : w'.table = w.table
  width : w'.dashboard.width = w.dashboard.width
  height : w'.dashboard.height = w.dashboard.height
  painted : w'.dashboard.painted = []

theorem blank_eq_ok {w w' : World} (h : blank .record w = .ok () w') :
    ∃ (d : Dashboard) (heading logHeading : String) (v : Sight),
      Blanking d heading logHeading v w w' := by
  unfold blank inscribe at h
  obtain ⟨_, w₁, hprepare, h⟩ := bind_eq_ok.1 h
  rw [bind_of_ok (get_apply w₁)] at h
  obtain ⟨_, w₂, hcaptions, h⟩ := bind_eq_ok.1 h
  obtain ⟨_, w₃, hheading, h⟩ := bind_eq_ok.1 h
  obtain ⟨_, w₄, hlogHeading, h⟩ := bind_eq_ok.1 h
  rw [bind_of_ok (update_apply _ w₄)] at h
  obtain ⟨before, hprepared⟩ := prepare_eq_ok hprepare
  have hcleared := Draws.of_draw hcaptions
  obtain ⟨heading, hdrawn⟩ := Draws.of_drawHeading hheading
  obtain ⟨logHeading, hlogDrawn⟩ := Draws.of_drawHeading hlogHeading
  have hforgotten := Draws.of_setDirty h
  -- From the preparation to the second heading, nothing but commands is added.
  have hall := ((hprepared.trans hcleared).trans hdrawn).trans hlogDrawn
  refine ⟨w₁.dashboard, heading, logHeading, w₁.sight.step .clear, rfl, ⟨before, ?_⟩, ?_,
    hforgotten.table.trans hall.table, hforgotten.width.trans hall.width,
    hforgotten.height.trans hall.height, hforgotten.painted⟩
  · rw [hforgotten.commands]
    show (w₄.commands ++ _).toList = _
    rw [hall.commands, hprepared.table]
    simp
  · rw [hforgotten.sight]
    show World.sight w₄ = _
    rw [hlogDrawn.sight, hdrawn.sight, hcleared.sight, hprepared.table]
    rfl

/-- Nothing is written on the rows of sessions of a blanked screen, nor taken to be there. -/
theorem InStep.of_blank {w w' : World} (hcounts : ∀ s ∈ w.table.sessions, 0 ≤ s.count)
    (h : blank .record w = .ok () w') : InStep w' := by
  obtain ⟨d, heading, logHeading, v, hblank⟩ := blank_eq_ok h
  refine ⟨hblank.table ▸ hcounts, ?_, ?_⟩
  · rw [hblank.sight, hblank.table]
    refine (Sight.adds_place ?_).forall_texts ((Sight.adds_place ?_).forall_texts
      (((adds_captions d).mono ?_).forall_texts ?_))
    · exact .of_log (Or.inl rfl)
    · exact .of_heading (Or.inr (Or.inr rfl))
    · exact fun y hy => .of_heading (hy.imp_right Or.inl)
    · intro t ht
      rw [hblank.blank] at ht
      cases ht
  · intro k s hs
    obtain ⟨hk, -⟩ := List.getElem?_eq_some_iff.1 hs
    rw [hblank.table] at hk
    have hnone : w'.sight.on (firstRow + k) = [] := by
      have hcaptionRow : ¬(firstRow + (k : Int) = titleRow ∨ firstRow + (k : Int) = barRow) := by
        unfold firstRow titleRow barRow
        omega
      have hheadingRow : ¬firstRow + (k : Int) = headingRow := by
        unfold firstRow headingRow
        omega
      have hlogHeadingRow : ¬firstRow + (k : Int) = logHeadingRow w.table.size := by
        unfold logHeadingRow Table.size
        omega
      rw [hblank.sight, Sight.on_after_place, if_neg hlogHeadingRow, Sight.on_after_place,
        if_neg hheadingRow, (adds_captions d).on_eq hcaptionRow, Sight.on, hblank.blank]
      rfl
    rw [cell, hnone, hblank.painted]
    refine ⟨?_, ?_⟩
    · intro text htext
      cases htext
    · intro line hline
      cases hline

end Dashboard

end Multicast
