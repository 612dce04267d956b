import Multicast.Proofs.Dashboard.Repaint

/-!
# `Proofs.Dashboard.Run` — a dashboard at work

A dashboard is repainted, painted and ticked in any order, and between two of these stages sessions
go on counting, the clock moves and the terminal changes its size. Whatever the order, each paint
behind a first repaint shows all sessions as they are.

## Contents
- **Stages.** `Stage`, what a dashboard is asked for.
- **Returning.** `Drawable`, what a stage needs, and that it returns with it (`Stage.exists_run`).
- **Runs.** `Stage.Effect`, what one stage does (`Stage.effect_run`), then `Between` and `Run` with
  `Run.inStep`.
- **Result.** `every_paint_shows_all`.
-/

namespace Multicast.Dashboard

open Act
open Screen (Command)

/-! ## Stages -/

/-- What a dashboard is asked for. -/
inductive Stage where
  /-- A repaint, of a screen that was resized or not. -/
  | redraw (resized : Bool)
  /-- A paint, whose spinners turn or not. -/
  | paint (advance : Bool)
  /-- A tick, which opens a new slot in every history after its paint. -/
  | tick

namespace Stage

/-- The stage on a screen that takes note of its commands. -/
def run : Stage → Act Unit
  | redraw resized => Dashboard.redraw .record resized
  | paint advance => Dashboard.paint .record advance
  | tick => Dashboard.tick .record

/-- Whether all sessions are painted. -/
def paints : Stage → Bool
  | redraw resized => resized
  | paint _ | tick => true

/-- Whether the screen is blanked. -/
def blanks : Stage → Bool
  | redraw _ => true
  | paint _ | tick => false

/-- The size that the stage draws for: of a screen that was resized, the one that the terminal
    tells. -/
def size (w : World) : Stage → Int × Int
  | redraw true => told w
  | redraw false | paint _ | tick => (w.dashboard.width, w.dashboard.height)

end Stage

/-! ## Returning -/

/-- The clock has a date, and a refused lookup of the host's name is a failure of the system. -/
def Answers (w : World) : Prop :=
  (∃ time, Calendar.Stamp.ofClock? w.host.clock = .ok time) ∧ w.host.RefusesBySystem .lookup

/-- **Nothing is in the way of a stage**: its headings have room, and what its bar asks for is
    answered. -/
structure Drawable (stage : Stage) (w : World) : Prop where
  answers : Answers w
  fits : stage.blanks → Room.HasLine w.host.memory (stage.size w).1

theorem drawing_answers : (Frame.preserving Answers).Drawing .record where
  perform _ _ _ h := h
  querySize _ h := h
  update _ _ _ h := h
  region _ _ h := h
  command _ _ h := h
  lookup _ _ _ h := h
  check w h := by
    refine ⟨?_, refusesBySystem_check .lookup .lookup w h.2⟩
    rw [after_check]
    exact h.1
  turn _ h := h
  age _ h := h

theorem exists_identify {w : World} (h : Answers w) : ∃ w', identify w = .ok () w' := by
  have hrest : ∀ w₁ : World, Answers w₁ → ∃ w', (if w.dashboard.address.isNone then do
      let address ← interfaceAddress w.dashboard.interface 0 true
      update ({ · with address := some address }) else pure ()) w₁ = .ok () w' := by
    intro w₁ h₁
    split
    · obtain ⟨address, w₂, haddress⟩ :=
        exists_interfaceAddress w.dashboard.interface 0 true fun _ => h₁.2
      rw [bind_of_ok haddress]
      exact ⟨_, rfl⟩
    · exact ⟨w₁, rfl⟩
  unfold identify
  rw [bind_of_ok (get_apply w)]
  dsimp only
  split
  · exact hrest _ h
  · exact hrest w h

theorem exists_showLog (w : World) : ∃ w', showLog .record w = .ok () w' := by
  unfold showLog
  rw [bind_of_ok (get_apply w)]
  split
  · have hdirty : ∃ w₁, setDirty false w = .ok () w₁ := by
      unfold setDirty
      rw [bind_of_ok (get_apply w)]
      split
      · exact ⟨_, rfl⟩
      · exact ⟨_, rfl⟩
    obtain ⟨w₁, hdirty⟩ := hdirty
    rw [bind_of_ok hdirty, draw_apply]
    exact ⟨_, rfl⟩
  · exact ⟨w, rfl⟩

theorem exists_paint (advance : Bool) {w : World} (h : Answers w) :
    ∃ w', paint .record advance w = .ok () w' := by
  obtain ⟨w₁, hidentify⟩ := exists_identify h
  have hanswers : Answers w₁ := by
    have hkept := keeps_identify (F := .preserving Answers) (fun _ _ h => h) (fun _ _ h => h)
      drawing_answers.command drawing_answers.lookup drawing_answers.check w h
    rw [after_of_ok hidentify] at hkept
    exact hkept
  obtain ⟨⟨time, htime⟩, -⟩ := hanswers
  rw [paint_eq, bind_of_ok hidentify, bind_of_ok (get_apply w₁), htime]
  have hrest : ∀ rows w₂, ∃ w', (do
      draw .record (w₁.dashboard.bar time ++ rows)
      showLog .record) w₂ = .ok () w' := by
    intro rows w₂
    rw [bind_of_ok (draw_apply _ w₂)]
    exact exists_showLog _
  cases advance with
  | true => exact hrest _ _
  | false => exact hrest _ _

/-- Preparing the terminal leaves the dashboard as wide as it was, and the host as it was. -/
theorem exists_prepare (w : World) : ∃ w', prepare .record w = .ok () w' ∧
    w'.dashboard.width = w.dashboard.width ∧ w'.host = w.host := by
  unfold prepare
  rw [bind_of_ok (get_apply w)]
  split
  · exact ⟨w, rfl, rfl, rfl⟩
  · rw [bind_of_ok (update_apply _ w), draw_apply]
    exact ⟨_, rfl, rfl, rfl⟩

/-- There is room for what fills a heading up if there is room for a line of the screen. -/
theorem exists_heading {d : Dashboard} {memory : Nat} (h : Room.HasLine memory d.width)
    (left : String) (used : Int) (hused : 0 ≤ used) (right : String) :
    ∃ text, d.heading? memory left used right = .ok text := by
  obtain ⟨hwidth, hmemory, hcount⟩ := h
  have hfits : fitsSigned 64 (max (d.width - used) 1) = true := by
    rw [fitsSigned_iff]
    omega
  have hroom : Room.forText? memory (max (d.width - used) 1) =
      .ok (max (d.width - used) 1).toNat := by
    unfold Room.forText?
    rw [hfits, if_neg (by simp), if_neg (by omega)]
  unfold heading?
  rw [hroom]
  exact ⟨_, rfl⟩

theorem exists_drawHeading (row : Int) (text : String) (w : World) :
    ∃ w', drawHeading .record row (.ok text) w = .ok () w' := by
  unfold drawHeading
  rw [bind_of_ok (draw_apply _ w)]
  exact ⟨_, draw_apply _ _⟩

theorem exists_blank {w : World} (h : Room.HasLine w.host.memory w.dashboard.width) :
    ∃ w', blank .record w = .ok () w' := by
  obtain ⟨w₁, hprepare, hwidth, hhost⟩ := exists_prepare w
  rw [← hwidth, ← hhost] at h
  obtain ⟨heading, hheading⟩ := exists_heading h (Text.padRight 31 "SOURCE,GROUP" ++ "    PLOTTER")
    55 (by omega) "      PACKETS"
  obtain ⟨logHeading, hlogHeading⟩ := exists_heading h (Text.padRight 24 "TIME" ++ "  LOG")
    29 (by omega) ""
  unfold blank inscribe sessionHeading? logHeading?
  rw [bind_of_ok hprepare, bind_of_ok (get_apply w₁), bind_of_ok (draw_apply _ w₁), hheading,
    hlogHeading]
  obtain ⟨w₂, hw₂⟩ := exists_drawHeading headingRow heading { w₁ with
    dashboard := { w₁.dashboard with ops := w₁.dashboard.ops +
      (Command.clear :: w₁.dashboard.captions).countP Command.isControl }
    commands := w₁.commands ++ (Command.clear :: w₁.dashboard.captions).toArray }
  rw [bind_of_ok hw₂]
  obtain ⟨w₃, hw₃⟩ := exists_drawHeading (logHeadingRow w₁.table.size) logHeading w₂
  rw [bind_of_ok hw₃, bind_of_ok (update_apply _ w₃)]
  unfold setDirty
  rw [bind_of_ok (get_apply _)]
  split
  · exact ⟨_, rfl⟩
  · exact ⟨_, rfl⟩

namespace Stage

/-- **Each stage returns** if nothing is in its way. -/
theorem exists_run (stage : Stage) {w : World} (h : Drawable stage w) :
    ∃ w', stage.run w = .ok () w' := by
  cases stage with
  | paint advance => exact exists_paint advance h.answers
  | tick =>
      obtain ⟨w₁, hpaint⟩ := exists_paint true h.answers
      show ∃ w', Dashboard.tick .record w = .ok () w'
      unfold Dashboard.tick
      rw [bind_of_ok hpaint]
      exact ⟨_, rfl⟩
  | redraw resized =>
      show ∃ w', Dashboard.redraw .record resized w = .ok () w'
      cases resized with
      | false =>
          obtain ⟨w₁, hblank⟩ := exists_blank (h.fits rfl)
          rw [redraw_false, bind_of_ok hblank]
          exact ⟨_, rfl⟩
      | true =>
          rw [redraw_true, bind_of_ok (resize_apply w)]
          have hline : Room.HasLine (sized w).host.memory (sized w).dashboard.width := h.fits rfl
          obtain ⟨w₂, hblank⟩ := exists_blank hline
          have hanswers := keeps_blank drawing_answers (sized w) h.answers
          rw [after_of_ok hblank] at hanswers
          obtain ⟨w₃, hpaint⟩ := exists_paint false hanswers
          rw [bind_of_ok hblank, bind_of_ok hpaint]
          exact ⟨_, rfl⟩

end Stage

/-! ## Runs -/

/-- Refreshing the screen changes nothing that is on it. -/
theorem Draws.of_refresh {w w' : World} (h : Screen.record.perform .refresh w = .ok () w') :
    w'.sight = w.sight ∧ w'.table = w.table ∧ w'.dashboard = w.dashboard := by
  have hdrawn := Draws.of_perform h
  obtain rfl : { w with commands := w.commands.push .refresh } = w' := by injection h
  refine ⟨?_, rfl, rfl⟩
  rw [hdrawn.sight]
  rfl

/-- **What one stage does.** Sessions go on; the screen is in step if it was blanked or was in step
    before; and a stage that paints then shows the sessions that it found, on a screen of the size
    that it draws for. -/
structure Stage.Effect (stage : Stage) (w w' : World) : Prop where
  goneOn : GoneOn w.table.sessions w'.table.sessions
  size : (w'.dashboard.width, w'.dashboard.height) = stage.size w
  inStep : stage.blanks ∨ InStep w → InStep w'
  shows : stage.paints → stage.blanks ∨ InStep w → Shows w'.dashboard w.table.sessions w'.sight

namespace Stage

theorem effect_paint {advance : Bool} {w w' : World}
    (h : Dashboard.paint .record advance w = .ok () w') : (paint advance).Effect w w' := by
  obtain ⟨hwidth, hheight⟩ := size_of_paint h
  refine ⟨.of_paint h, Prod.ext hwidth hheight, ?_, ?_⟩
  · rintro (hblank | hstep)
    · cases hblank
    · exact (hstep.paint h).1
  · rintro - (hblank | hstep)
    · cases hblank
    · exact (hstep.paint h).2

/-- A tick opens new slots behind its paint, which what is on the screen does not show yet. -/
theorem effect_tick {w w' : World} (h : Dashboard.tick .record w = .ok () w') :
    tick.Effect w w' := by
  obtain ⟨_, w₁, hpaint, hafter⟩ := bind_eq_ok.1 h
  obtain ⟨_, w₂, hrefresh, hage⟩ := bind_eq_ok.1 hafter
  obtain ⟨hsight, htable, hdashboard⟩ := Draws.of_refresh hrefresh
  obtain rfl : { w₂ with table := w₂.table.age } = w' := by injection hage
  obtain ⟨hgone, hsize, hinStep, hshows⟩ := effect_paint hpaint
  have haged : GoneOn w₁.table.sessions (w₂.table.sessions.map Session.age) := by
    rw [htable]
    exact .of_map (f := Session.age) (fun _ => ⟨rfl, rfl⟩) _
  rw [← hdashboard] at hsize
  refine ⟨hgone.trans haged, hsize, ?_, ?_⟩
  · intro hready
    exact (hinStep hready).goneOn hsight hdashboard haged
  · intro _ hready
    have hshown := hshows rfl hready
    rw [← hdashboard, ← hsight] at hshown
    exact hshown

/-- A plain redraw paints nothing: it leaves the rows blank. -/
theorem effect_redraw {w w' : World} (hcounts : ∀ s ∈ w.table.sessions, 0 ≤ s.count)
    (h : Dashboard.redraw .record false w = .ok () w') : (redraw false).Effect w w' := by
  rw [redraw_false] at h
  obtain ⟨_, w₁, hblank, hrefresh⟩ := bind_eq_ok.1 h
  obtain ⟨_, _, _, _, hblanked⟩ := blank_eq_ok hblank
  obtain ⟨hsight, htable, hdashboard⟩ := Draws.of_refresh hrefresh
  have hgone : GoneOn w₁.table.sessions w'.table.sessions := by
    rw [htable]
    exact .refl _
  have hwidth := hblanked.width
  have hheight := hblanked.height
  rw [← hdashboard] at hwidth hheight
  refine ⟨hblanked.table ▸ hgone, Prod.ext hwidth hheight, ?_, ?_⟩
  · intro _
    exact (InStep.of_blank hcounts hblank).goneOn hsight hdashboard hgone
  · intro hpaints
    cases hpaints

/-- A resized redraw takes over the terminal's size, blanks the screen and paints at once. -/
theorem effect_resized {w w' : World} (hcounts : ∀ s ∈ w.table.sessions, 0 ≤ s.count)
    (h : Dashboard.redraw .record true w = .ok () w') : (redraw true).Effect w w' := by
  rw [redraw_true, bind_of_ok (resize_apply w)] at h
  obtain ⟨_, w₂, hblank, h⟩ := bind_eq_ok.1 h
  obtain ⟨_, w₃, hpaint, hrefresh⟩ := bind_eq_ok.1 h
  obtain ⟨_, _, _, _, hblanked⟩ := blank_eq_ok hblank
  obtain ⟨hwidth, hheight⟩ := size_of_paint hpaint
  obtain ⟨hsight, htable, hdashboard⟩ := Draws.of_refresh hrefresh
  have hcounts' : ∀ s ∈ (sized w).table.sessions, 0 ≤ s.count := hcounts
  obtain ⟨hstep, hshows⟩ := (InStep.of_blank hcounts' hblank).paint hpaint
  have hpainted : GoneOn w₂.table.sessions w₃.table.sessions := .of_paint hpaint
  have hgone : GoneOn w₃.table.sessions w'.table.sessions := by
    rw [htable]
    exact .refl _
  rw [hblanked.table] at hpainted hshows
  rw [← hdashboard] at hwidth hheight
  refine ⟨hpainted.trans hgone,
    Prod.ext (hwidth.trans hblanked.width) (hheight.trans hblanked.height), ?_, ?_⟩
  · intro _
    exact hstep.goneOn hsight hdashboard hgone
  · intro _ _
    rw [hsight, hdashboard]
    exact hshows

/-- **Every stage has its effect.** -/
theorem effect_run {stage : Stage} {w w' : World} (hcounts : ∀ s ∈ w.table.sessions, 0 ≤ s.count)
    (h : stage.run w = .ok () w') : stage.Effect w w' := by
  cases stage with
  | paint advance => exact effect_paint h
  | tick => exact effect_tick h
  | redraw resized =>
      cases resized with
      | false => exact effect_redraw hcounts h
      | true => exact effect_resized hcounts h

end Stage

/-- What may happen between two stages: sessions go on in any way, and the host, the flags and the log
    region change as they like. Only the dashboard draws. -/
structure Between (w w' : World) : Prop where
  sessions : GoneOn w.table.sessions w'.table.sessions
  dashboard : w'.dashboard = w.dashboard
  commands : w'.commands = w.commands

/-- The stages that were gone through from a world on, in their order, to the world that was reached. -/
inductive Run (w₀ : World) : List Stage → World → Prop where
  | start : Run w₀ [] w₀
  | between {stages : List Stage} {w w' : World} : Run w₀ stages w → Between w w' → Run w₀ stages w'
  | stage {stages : List Stage} {w w' : World} (stage : Stage) : Run w₀ stages w →
      stage.run w = .ok () w' → Run w₀ (stages ++ [stage]) w'

/-- If the screen is blanked by a stage or was by an earlier one, the stage blanks it or finds it in
    step. -/
theorem ready_of_blanked {stages : List Stage} {stage : Stage} {w : World}
    (hstep : (∃ s ∈ stages, s.blanks) → InStep w) (h : ∃ s ∈ stages ++ [stage], s.blanks) :
    stage.blanks ∨ InStep w := by
  obtain ⟨s, hs, hblanks⟩ := h
  rcases List.mem_append.1 hs with hearlier | hlast
  · exact Or.inr (hstep ⟨s, hearlier, hblanks⟩)
  · obtain rfl := List.mem_singleton.1 hlast
    exact Or.inl hblanks

/-- **Once it was blanked, the screen stays in step**, and counts never fall below zero. -/
theorem Run.inStep {w₀ w : World} {stages : List Stage} (h : Run w₀ stages w)
    (hcounts : ∀ s ∈ w₀.table.sessions, 0 ≤ s.count) :
    (∀ s ∈ w.table.sessions, 0 ≤ s.count) ∧ ((∃ s ∈ stages, s.blanks) → InStep w) := by
  induction h with
  | start =>
      refine ⟨hcounts, ?_⟩
      rintro ⟨s, hs, -⟩
      cases hs
  | @between stages w w' _ hbetween ih =>
      obtain ⟨hnonneg, hstep⟩ := ih
      have hsight : w'.sight = w.sight := by rw [World.sight, hbetween.commands, ← World.sight]
      refine ⟨hbetween.sessions.nonneg hnonneg, fun hblanked => ?_⟩
      exact (hstep hblanked).goneOn hsight hbetween.dashboard hbetween.sessions
  | stage stage _ hstage ih =>
      obtain ⟨hnonneg, hstep⟩ := ih
      have heffect := Stage.effect_run hnonneg hstage
      refine ⟨heffect.goneOn.nonneg hnonneg, fun hblanked => ?_⟩
      exact heffect.inStep (ready_of_blanked hstep hblanked)

/-! ## Result -/

/-- **Every paint shows all sessions.** Whatever stages were gone through, with sessions that go on
    counting and a terminal that changes its size in between, behind a repaint a stage that paints
    leaves each session in sight on its own row as it was found, over nothing longer, and nothing on
    the rows of the others. Rows of sessions lie apart from the log region and its heading. The stage
    returns if nothing is in its way. -/
theorem every_paint_shows_all {w₀ w : World} {stages : List Stage} (hrun : Run w₀ stages w)
    (hcounts : ∀ s ∈ w₀.table.sessions, 0 ≤ s.count) (stage : Stage) (hpaints : stage.paints)
    (hblanked : ∃ s ∈ stages ++ [stage], s.blanks) :
    (∀ w', stage.run w = .ok () w' → Shows w'.dashboard w.table.sessions w'.sight ∧
        (w'.dashboard.width, w'.dashboard.height) = stage.size w) ∧
      (∀ k < w.table.size, firstRow + k ≠ logHeadingRow w.table.size ∧
        firstRow + k < logRow w.table.size) ∧
      (Drawable stage w → ∃ w', stage.run w = .ok () w') := by
  obtain ⟨hnonneg, hstep⟩ := hrun.inStep hcounts
  refine ⟨?_, ?_, stage.exists_run⟩
  · intro w' h
    have heffect := Stage.effect_run hnonneg h
    exact ⟨heffect.shows hpaints (ready_of_blanked hstep hblanked), heffect.size⟩
  · intro k hk
    unfold logRow logHeadingRow
    omega

/-- One fresh session, on a terminal of 80 columns and 24 lines. -/
def fresh : World where
  flags := { period := .ofNat 1 }
  table := { sessions := [{ source := none, group := "225.1.2.3" }] }

/-- A session that sends its first packet between a repaint of the whole screen and a tick. -/
theorem first_packet_is_shown :
    ∃ w₁ w₂ w₃ : World, (Stage.redraw true).run fresh = .ok () w₁ ∧
      w₂ = { w₁ with table := { w₁.table with sessions := w₁.table.sessions.map Session.sent } } ∧
      Stage.tick.run w₂ = .ok () w₃ ∧ w₂.table.size = 1 ∧ w₃.dashboard.height = 24 ∧
      Shows w₃.dashboard w₂.table.sessions w₃.sight := by
  have hanswers : Answers fresh := ⟨⟨_, rfl⟩, fun f hf => by cases hf⟩
  have hcounts : ∀ s ∈ fresh.table.sessions, 0 ≤ s.count := by decide
  obtain ⟨w₁, hredraw⟩ := Stage.exists_run (.redraw true) ⟨hanswers, fun _ => by decide⟩
  obtain ⟨hgone, hsize, -, -⟩ := Stage.effect_run hcounts hredraw
  have hanswers₁ : Answers w₁ := by
    have hkept : Answers ((Stage.redraw true).run.after fresh) :=
      keeps_redraw drawing_answers true _ hanswers
    rw [after_of_ok hredraw] at hkept
    exact hkept
  obtain ⟨w₂, hw₂⟩ : ∃ w₂ : World, w₂ = { w₁ with
    table := { w₁.table with sessions := w₁.table.sessions.map Session.sent } } := ⟨_, rfl⟩
  have hbetween : Between w₁ w₂ := by
    subst hw₂
    refine ⟨?_, rfl, rfl⟩
    show GoneOn w₁.table.sessions (w₁.table.sessions.map Session.sent)
    unfold GoneOn
    rw [List.forall₂_map_right_iff, List.forall₂_same]
    intro s _
    exact ⟨rfl, by show s.count ≤ s.count + 1; omega⟩
  have hrun := (Run.start.stage (.redraw true) hredraw).between hbetween
  obtain ⟨hshows, -, hreturns⟩ := every_paint_shows_all hrun hcounts .tick rfl
    ⟨.redraw true, by simp, rfl⟩
  obtain ⟨w₃, htick⟩ := hreturns ⟨hw₂ ▸ hanswers₁, fun h => by cases h⟩
  obtain ⟨hshown, hsize'⟩ := hshows w₃ htick
  refine ⟨w₁, w₂, w₃, hredraw, hw₂, htick, ?_, ?_, hshown⟩
  · exact (hgone.trans hbetween.sessions).length_eq.symm
  · have hheight : w₃.dashboard.height = w₂.dashboard.height := congrArg Prod.snd hsize'
    rw [hheight, hbetween.dashboard]
    exact congrArg Prod.snd hsize

end Multicast.Dashboard
