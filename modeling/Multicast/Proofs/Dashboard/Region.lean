import Multicast.Proofs.Dashboard.Canvas
import Multicast.Proofs.Dashboard.Placement

/-!
# `Proofs.Dashboard.Region` — the log region shows the latest lines

The log region is drawn only if there is something new in it. A repaint blanks the screen and makes
all of it new; a record makes it new as well. While nothing is new, each row of the region shows the
line that belongs there and nothing else, however lines have moved up under it and whatever was
longer before.

## Contents
- **Settling.** `Dashboard.Settled`, the invariant, and `Frame.settling`, the steps that keep it
  (`settling_showLog`, `settling_paint`); `settles_blank`, that blanking the screen sets it up.
- **Requests.** What a request does to the region (`Request.settles`), and when there is nothing new
  in it (`Request.clean_of_shows`).
- **Records.** `LogRegion.written`, the lines of a message, and what taking it in does
  (`Settled.noting`).
- **Runs.** `Recording` with `Recording.recorded`, and `log_region_is_never_stale`.
-/

namespace Multicast

open Act
open Screen (Command)

namespace Dashboard

/-! ## Settling -/

/-- Each of the latest lines that there are rows for is all there is on its row. -/
def ShowsLatest (w : World) : Prop :=
  ∀ (i : Nat) (line : String),
    (LogRegion.latest (w.dashboard.logRows w.table.size) w.host.region.lines)[i]? = some line →
      w.canvas.cells (logRow w.table.size + i) = Canvas.rowOf (w.dashboard.shownOf line)

/-- The rows behind the lines of the log region are blank. -/
def BlankBehind (w : World) : Prop :=
  ∀ i < w.dashboard.logRows w.table.size, w.host.region.lines.length ≤ i →
    w.canvas.cells (logRow w.table.size + i) = Canvas.rowOf []

/-- **The log region is settled**: nothing is behind its lines, and if there is nothing new in it,
    these are shown. -/
structure Settled (w : World) : Prop where
  blank : BlankBehind w
  shown : w.host.region.dirty = false → ShowsLatest w

/-- A step apart from the log region: it changes neither the region nor the rows that it is shown on. -/
structure Apart (w w' : World) : Prop where
  extent : w'.extent = w.extent
  logged : w'.dashboard.logged = w.dashboard.logged
  region : w'.host.region = w.host.region
  cells : ∀ y, logRow w.table.size ≤ y → w'.canvas.cells y = w.canvas.cells y

variable {w w' : World}

/-- Drawing above the log region is a step apart from it. -/
theorem apart_draw {cs : List Command} (h : Canvas.Spares (· < logRow w.table.size) cs) :
    Apart w ((draw .record cs).after w) := by
  rw [after_of_ok (draw_apply cs w)]
  refine ⟨rfl, rfl, rfl, fun y hy => ?_⟩
  unfold World.canvas
  rw [Array.toList_append, Canvas.after_append]
  exact h _ y (Int.not_lt.2 hy)

/-- What a step does to the log region: its lines are what they were, and if it was settled, it is. -/
structure Settles (w w' : World) : Prop where
  logged : w'.dashboard.logged = w.dashboard.logged
  size : w'.table.size = w.table.size
  limit : w'.host.region.limit = w.host.region.limit
  lines : w'.host.region.lines = w.host.region.lines
  settled : Settled w → Settled w'

theorem Settles.trans {u v w : World} (h : Settles u v) (h' : Settles v w) : Settles u w where
  logged := h'.logged.trans h.logged
  size := h'.size.trans h.size
  limit := h'.limit.trans h.limit
  lines := h'.lines.trans h.lines
  settled := h'.settled ∘ h.settled

/-- The extent decides where lines are shown and how much of them. -/
theorem layout_of_extent (h : w'.extent = w.extent) : w'.table.size = w.table.size ∧
    w'.dashboard.logRows = w.dashboard.logRows ∧ w'.dashboard.shownOf = w.dashboard.shownOf := by
  unfold World.extent at h
  injection h with hwidth hheight hsize
  refine ⟨hsize, ?_, ?_⟩
  · funext sessions
    rw [logRows, logRows, hheight]
  · funext line
    rw [shownOf, shownOf, hwidth]

/-- Beside the region, what is in it stays settled. -/
theorem Apart.settles (h : Apart w w') : Settles w w' := by
  obtain ⟨hsize, hrows, hshown⟩ := layout_of_extent h.extent
  -- Both halves of the invariant look at rows of the region only.
  have hrow : ∀ i : Nat, w'.canvas.cells (logRow w.table.size + i) =
      w.canvas.cells (logRow w.table.size + i) := by
    intro i
    apply h.cells
    omega
  refine ⟨h.logged, hsize, congrArg _ h.region, congrArg _ h.region, fun hsettled => ⟨?_, ?_⟩⟩
  · intro i
    rw [hrows, hsize, h.region, hrow i]
    exact hsettled.blank i
  · intro hclean i line
    rw [h.region] at hclean
    rw [hrows, hsize, h.region, hshown, hrow i]
    exact hsettled.shown hclean i line

end Dashboard

open Dashboard

/-- A log region that is settled stays so, and keeps its lines. -/
def Frame.settling : Frame where
  rel := Settles
  refl _ := ⟨rfl, rfl, rfl, rfl, id⟩
  trans := Settles.trans

namespace Dashboard

variable {w w' : World}

/-- A step that draws nothing, and leaves the extent and the region, settles it. -/
theorem settling_of_eq (hextent : w'.extent = w.extent)
    (hlogged : w'.dashboard.logged = w.dashboard.logged)
    (hregion : w'.host.region = w.host.region) (hcommands : w'.commands = w.commands) :
    Frame.settling.rel w w' := by
  apply Apart.settles
  refine ⟨hextent, hlogged, hregion, fun y _ => ?_⟩
  rw [World.canvas, hcommands, ← World.canvas]

theorem settling_identify : Keeps .settling identify :=
  keeps_identify (fun _ _ => settling_of_eq rfl rfl rfl rfl)
    (fun _ _ => settling_of_eq rfl rfl rfl rfl) (fun _ _ => settling_of_eq rfl rfl rfl rfl)
    (fun _ _ _ => settling_of_eq rfl rfl rfl rfl)
    (keeps_check (fun _ _ => settling_of_eq rfl rfl rfl rfl) _)

/-- Drawing the log region leaves nothing new in it. -/
theorem showLog_apply (w : World) :
    showLog .record w = .ok () (if w.dashboard.logged && w.host.region.dirty then { w with
      host := { w.host with region := { w.host.region with dirty := false } }
      dashboard := { w.dashboard with ops := w.dashboard.ops +
        (w.dashboard.logCommands w.table.size w.host.region).countP Command.isControl }
      commands := w.commands ++
        (w.dashboard.logCommands w.table.size w.host.region).toArray } else w) := by
  unfold showLog
  rw [bind_of_ok (get_apply w)]
  split
  · rename_i hnew
    obtain ⟨hlogged, -⟩ := Bool.and_eq_true_iff.1 hnew
    have hdirty : setDirty false w = .ok () { w with
        host := { w.host with region := { w.host.region with dirty := false } } } := by
      unfold setDirty
      rw [bind_of_ok (get_apply w), if_pos hlogged]
      rfl
    rw [bind_of_ok hdirty, draw_apply]
  · rfl

/-- **Drawing the log region keeps it settled.** -/
theorem settling_showLog : Keeps .settling (showLog .record) := by
  intro w
  rw [after_of_ok (showLog_apply w)]
  split
  · refine ⟨rfl, rfl, rfl, rfl, fun hsettled => ?_⟩
    obtain ⟨hdrawn, hothers⟩ :=
      cells_logCommands w.dashboard w.table.size w.host.region w.canvas
    have hcanvas : ∀ host dashboard, World.canvas { w with
        host, dashboard, commands := w.commands ++
          (w.dashboard.logCommands w.table.size w.host.region).toArray } =
        w.canvas.after (w.dashboard.logCommands w.table.size w.host.region) := by
      intro host dashboard
      unfold World.canvas
      rw [Array.toList_append, Canvas.after_append]
    refine ⟨?_, fun _ => ?_⟩
    · intro i hi hlength
      rw [hcanvas]
      exact (hothers i hlength).trans (hsettled.blank i hi hlength)
    · intro i line hline
      rw [hcanvas]
      exact hdrawn i line hline
  · exact Frame.settling.refl w

/-- What a paint draws besides the log region is above it. -/
theorem spares_bar_append_rows (w : World) (time : Calendar.Stamp) :
    Canvas.Spares (· < logRow w.table.size)
      (w.dashboard.bar time ++ (w.dashboard.paintFrom 0 w.table.sessions).1) := by
  apply Canvas.Spares.append
  · apply (Canvas.spares_strokes (strokes_bar w.dashboard time)).mono
    rintro y ⟨-, -, rfl⟩
    unfold barRow logRow logHeadingRow firstRow
    omega
  · apply (Canvas.spares_strokes (strokes_paintFrom w.dashboard 0 w.table.sessions)).mono
    rintro y ⟨-, -, j, hj, rfl, -⟩
    unfold logRow logHeadingRow Table.size
    omega

/-- **A paint keeps the log region settled**, whether or not it comes to its end. -/
theorem settling_paint (advance : Bool) : Keeps .settling (paint .record advance) := by
  refine keeps_paint_of advance settling_identify ?_
    (fun w => settling_of_eq (extent_turn w) rfl rfl rfl) ?_
  · intro w
    obtain ⟨painted, hpainted⟩ := paintFrom_snd w.dashboard 0 w.table.sessions
    exact settling_of_eq (extent_paintFrom w) (by rw [hpainted]) rfl rfl
  · intro w time w₁ hbefore
    have hdraw : Apart w₁ ((draw .record (w.dashboard.bar time ++
        (w.dashboard.paintFrom 0 w.table.sessions).1)).after w₁) := by
      apply apart_draw
      rw [hbefore.size]
      exact spares_bar_append_rows w time
    exact Frame.settling.trans hbefore (rel_after_bind hdraw.settles fun _ => settling_showLog)

theorem settling_refresh : Keeps .settling (Screen.record.perform .refresh) := by
  intro w
  apply Apart.settles
  refine ⟨rfl, rfl, rfl, fun y _ => ?_⟩
  have hcommands : ((Screen.record.perform .refresh).after w).commands.toList =
      w.commands.toList ++ [.refresh] := Array.toList_push
  unfold World.canvas
  rw [hcommands, Canvas.after_append]
  rfl

theorem settling_ageAll : Keeps .settling ageAll :=
  fun w => settling_of_eq (extent_age w) rfl rfl rfl

/-- What stands above the log region is drawn on a screen that is blank. -/
theorem Blanking.cells {d : Dashboard} {heading logHeading : String} {v : Sight}
    (h : Blanking d heading logHeading v w w') {y : Int} (hy : logRow w.table.size ≤ y) :
    w'.canvas.cells y = Canvas.rowOf [] := by
  obtain ⟨before, hcommands⟩ := h.commands
  have hcaptions : Canvas.Spares (· < logRow w.table.size) d.captions := by
    apply (Canvas.spares_strokes (strokes_captions d)).mono
    rintro y ⟨-, -, hrow⟩
    unfold titleRow barRow at hrow
    unfold logRow logHeadingRow firstRow
    omega
  have hheading : Canvas.Spares (· < logRow w.table.size) (place 0 headingRow heading .reverse) := by
    apply Canvas.spares_stroke
    unfold headingRow logRow logHeadingRow firstRow
    omega
  have hlogHeading : Canvas.Spares (· < logRow w.table.size)
      (place 0 (logHeadingRow w.table.size) logHeading .reverse) := by
    apply Canvas.spares_stroke
    unfold logRow
    omega
  have hall := (hcaptions.append hheading).append hlogHeading
  unfold World.canvas
  rw [hcommands, Canvas.after_append]
  exact hall _ y (Int.not_lt.2 hy)

/-- The log region of a world, and whether the dashboard shows it. -/
def register (w : World) : Bool × LogRegion := (w.dashboard.logged, w.host.region)

theorem register_draw (cs : List Command) : Keeps (.of register) (draw .record cs) := by
  intro w
  rw [after_of_ok (draw_apply cs w)]
  rfl

theorem register_drawHeading (row : Int) (text : Except RoomError String) :
    Keeps (.of register) (drawHeading .record row text) := by
  unfold drawHeading
  refine keeps_bind (register_draw _) fun _ => ?_
  cases text with
  | error e => exact keeps_throw _
  | ok text => exact register_draw _

theorem register_prepare : Keeps (.of register) (prepare .record) := by
  unfold prepare
  refine keeps_bind keeps_get fun w => ?_
  split
  · exact keeps_pure ()
  · exact keeps_bind (fun _ => rfl) fun _ => register_draw _

/-- Blanking the screen makes all of the log region new. -/
theorem region_of_blank (h : blank .record w = .ok () w') (hlogged : w.dashboard.logged) :
    w'.dashboard.logged ∧ w'.host.region = { w.host.region with dirty := true } := by
  unfold blank inscribe at h
  obtain ⟨_, w₁, hprepare, h⟩ := bind_eq_ok.1 h
  rw [bind_of_ok (get_apply w₁)] at h
  obtain ⟨_, w₂, hcaptions, h⟩ := bind_eq_ok.1 h
  obtain ⟨_, w₃, hheading, h⟩ := bind_eq_ok.1 h
  obtain ⟨_, w₄, hlogHeading, h⟩ := bind_eq_ok.1 h
  rw [bind_of_ok (update_apply _ w₄)] at h
  have hregister : register w₄ = register w :=
    calc register w₄ = register w₃ := rel_of_ok (register_drawHeading _ _) hlogHeading
      _ = register w₂ := rel_of_ok (register_drawHeading _ _) hheading
      _ = register w₁ := rel_of_ok (register_draw _) hcaptions
      _ = register w := rel_of_ok register_prepare hprepare
  obtain ⟨hlogged₄, hregion⟩ := Prod.mk.inj hregister
  rw [← hlogged₄] at hlogged
  -- Up to here the region is as it was; that it is new is noted last.
  unfold setDirty at h
  rw [bind_of_ok (get_apply _), if_pos hlogged] at h
  injection h with _ h
  subst h
  refine ⟨hlogged, ?_⟩
  rw [← hregion]

/-- **Blanking the screen settles the log region**: all of it is new, and none of it is shown. -/
theorem settles_blank (h : blank .record w = .ok () w') (hlogged : w.dashboard.logged) :
    Settles w w' ∧ Settled w' := by
  obtain ⟨d, heading, logHeading, v, hblank⟩ := blank_eq_ok h
  obtain ⟨hlogged', hregion⟩ := region_of_blank h hlogged
  have hsettled : Settled w' := by
    constructor
    · intro i _ _
      rw [hblank.table]
      apply hblank.cells
      omega
    · intro hclean
      rw [hregion] at hclean
      cases hclean
  refine ⟨⟨?_, congrArg _ hblank.table, ?_, ?_, fun _ => hsettled⟩, hsettled⟩
  · rw [hlogged, hlogged']
  · rw [hregion]
  · rw [hregion]

/-! ## Requests -/

namespace Request

/-- Whether the log region is drawn. -/
def shows : Request → Bool
  | stage s => s.paints
  | showLog => true

/-- The world in which a request draws: a screen that was resized has the size that the terminal
    tells. -/
def facing (w : World) : Request → World
  | stage (.redraw true) => sized w
  | stage (.redraw false) | stage (.paint _) | stage .tick | showLog => w

/-- A screen that is to be blanked has room for its headings. -/
def HasRoom (r : Request) (w : World) : Prop :=
  r.blanks → ∃ w', blank .record (r.facing w) = .ok () w'

/-- Nothing is in the way of a request. -/
def Drawable (w : World) : Request → Prop
  | stage s => Dashboard.Drawable s w
  | showLog => True

/-- **Each request returns** if nothing is in its way. -/
theorem exists_run (r : Request) (h : r.Drawable w) : ∃ w', r.run w = .ok () w' := by
  cases r with
  | stage s => exact s.exists_run h
  | showLog => exact exists_showLog w

/-- What nothing is in the way of has room. -/
theorem Drawable.hasRoom {r : Request} (h : r.Drawable w) : r.HasRoom w := by
  rcases r with (⟨_ | _⟩ | advance | _) | _
  · exact fun _ => exists_blank (h.fits rfl)
  · exact fun _ => exists_blank (h.fits rfl)
  · exact fun hblanks => by cases hblanks
  · exact fun hblanks => by cases hblanks
  · exact fun hblanks => by cases hblanks

/-- **A request keeps the lines of the log region**, and keeps the region settled, however it ends.
    Behind a redraw the region is settled. -/
theorem settles (r : Request) (hlogged : w.dashboard.logged) (hroom : r.HasRoom w) :
    Settles w (r.run.after w) ∧ (r.blanks → Settled (r.run.after w)) := by
  cases r with
  | showLog => exact ⟨settling_showLog w, fun h => by cases h⟩
  | stage s =>
      cases s with
      | paint advance => exact ⟨settling_paint advance w, fun h => by cases h⟩
      | tick =>
          have htick : Keeps .settling (Dashboard.tick .record) :=
            keeps_bind (settling_paint true) fun _ =>
              keeps_bind settling_refresh fun _ => settling_ageAll
          exact ⟨htick w, fun h => by cases h⟩
      | redraw resized =>
          cases resized with
          | false =>
              obtain ⟨w₁, hblank⟩ : ∃ w₁, blank .record w = .ok () w₁ := hroom rfl
              have hafter : (stage (.redraw false)).run.after w =
                  (Screen.record.perform .refresh).after w₁ := by
                show (Dashboard.redraw .record false).after w = _
                rw [redraw_false, after_bind_of_ok hblank]
              obtain ⟨hsettles, hsettled⟩ := settles_blank hblank hlogged
              have hrefresh := settling_refresh w₁
              rw [hafter]
              exact ⟨hsettles.trans hrefresh, fun _ => hrefresh.settled hsettled⟩
          | true =>
              obtain ⟨w₁, hblank⟩ : ∃ w₁, blank .record (sized w) = .ok () w₁ := hroom rfl
              have hafter : (stage (.redraw true)).run.after w = Act.after (do
                  paint .record false
                  Screen.record.perform .refresh) w₁ := by
                show (Dashboard.redraw .record true).after w = _
                rw [redraw_true, after_bind_of_ok (resize_apply w), after_bind_of_ok hblank]
              have hrest : Keeps .settling (do
                  paint .record false
                  Screen.record.perform .refresh) :=
                keeps_bind (settling_paint false) fun _ => settling_refresh
              obtain ⟨hsettles, hsettled⟩ := settles_blank hblank hlogged
              have hall := hsettles.trans (hrest w₁)
              have hsettled' := (hrest w₁).settled hsettled
              rw [hafter]
              -- The size that is taken over changes nothing of what is kept.
              exact ⟨⟨hall.logged, hall.size, hall.limit, hall.lines, fun _ => hsettled'⟩,
                fun _ => hsettled'⟩

end Request

/-- When the log region was drawn, there is nothing new in it. -/
theorem clean_of_showLog (h : showLog .record w = .ok () w') (hlogged : w.dashboard.logged) :
    w'.host.region.dirty = false := by
  rw [showLog_apply] at h
  injection h with _ h
  subst h
  split
  · rfl
  · rename_i hold
    rw [hlogged, Bool.true_and] at hold
    exact Bool.eq_false_iff.2 hold

/-- A paint draws the log region last. -/
theorem clean_of_paint {advance : Bool} (h : paint .record advance w = .ok () w')
    (hlogged : w.dashboard.logged) : w'.host.region.dirty = false := by
  obtain ⟨w₁, time, w₂, hidentify, hpainted, hlog⟩ := exists_painted h
  obtain ⟨ops, hdashboard⟩ := hpainted.dashboard
  obtain ⟨painted, hrows⟩ := paintFrom_snd w₁.dashboard 0 w₁.table.sessions
  apply clean_of_showLog hlog
  rw [hdashboard, hrows]
  exact (rel_of_ok settling_identify hidentify).logged.trans hlogged

/-- **Behind a request that draws the log region, there is nothing new in it.** -/
theorem Request.clean_of_shows {r : Request} (h : r.run w = .ok () w') (hshows : r.shows)
    (hlogged : w.dashboard.logged) : w'.host.region.dirty = false := by
  have hrefreshed : ∀ {u v : World}, Screen.record.perform .refresh u = .ok () v →
      v.host.region = u.host.region := by
    intro u v hrefresh
    injection hrefresh with _ hrefresh
    subst hrefresh
    rfl
  rcases r with (⟨_ | _⟩ | advance | _) | _
  · cases hshows
  · have hredraw : Dashboard.redraw .record true w = .ok () w' := h
    rw [redraw_true, bind_of_ok (resize_apply w)] at hredraw
    obtain ⟨_, w₁, hblank, hredraw⟩ := bind_eq_ok.1 hredraw
    obtain ⟨_, w₂, hpaint, hrefresh⟩ := bind_eq_ok.1 hredraw
    obtain ⟨hlogged', -⟩ := region_of_blank hblank hlogged
    rw [hrefreshed hrefresh]
    exact clean_of_paint hpaint hlogged'
  · exact clean_of_paint h hlogged
  · obtain ⟨_, w₁, hpaint, h⟩ := bind_eq_ok.1 h
    obtain ⟨_, w₂, hrefresh, hage⟩ := bind_eq_ok.1 h
    obtain rfl : { w₂ with table := w₂.table.age } = w' := by injection hage
    show w₂.host.region.dirty = false
    rw [hrefreshed hrefresh]
    exact clean_of_paint hpaint hlogged
  · exact clean_of_showLog h hlogged

end Dashboard

/-! ## Records -/

namespace LogRegion

/-- The lines that a message is shown as; without a date there are none. -/
def written (clock : Int) (message : Text.Runs) : List String :=
  match Calendar.Stamp.ofClock? clock with
  | .ok time => (linesOf time message).map Text.Runs.text
  | .error _ => []

/-- **A message adds its lines**, and the oldest give way. -/
theorem append_of_lines {r : LogRegion} {all : List String} (h : r.lines = latest r.limit all)
    (clock : Int) (message : Text.Runs) :
    (r.append clock message).limit = r.limit ∧
      (r.append clock message).lines = latest r.limit (all ++ written clock message) := by
  unfold append written
  cases Calendar.Stamp.ofClock? clock with
  | error e =>
      refine ⟨rfl, ?_⟩
      rw [List.append_nil]
      exact h
  | ok time =>
      refine ⟨rfl, ?_⟩
      show latest r.limit (r.lines ++ _) = _
      rw [h, map_latest, latest_append_latest, latest_latest_append]

/-- What takes in a message is new, or as it was. -/
theorem append_eq_or_dirty (r : LogRegion) (clock : Int) (message : Text.Runs) :
    r.append clock message = r ∨ (r.append clock message).dirty := by
  unfold append
  cases Calendar.Stamp.ofClock? clock with
  | error e => exact Or.inl rfl
  | ok time => exact Or.inr rfl

end LogRegion

/-- The world after a message for the log region. -/
def World.noting (w : World) (message : Text.Runs) : World :=
  { w with host := { w.host with region := w.host.region.append w.host.clock message } }

namespace Dashboard

variable {w w' : World}

/-- **A message leaves the log region settled**: it has no fewer lines than before. -/
theorem Settled.noting (h : Settled w) {all : List String}
    (hlines : w.host.region.lines = LogRegion.latest w.host.region.limit all)
    (message : Text.Runs) : Settled (w.noting message) := by
  obtain ⟨-, hnoted⟩ := LogRegion.append_of_lines hlines w.host.clock message
  have hgrows : w.host.region.lines.length ≤ (w.noting message).host.region.lines.length := by
    show _ ≤ (w.host.region.append w.host.clock message).lines.length
    rw [hnoted, hlines, LogRegion.length_latest, LogRegion.length_latest, List.length_append]
    omega
  constructor
  · -- Fewer rows are behind the lines than before.
    intro i hi hlength
    exact h.blank i hi (Nat.le_trans hgrows hlength)
  · intro hclean
    rcases w.host.region.append_eq_or_dirty w.host.clock message with hsame | hdirty
    · have hnothing : w.noting message = w := by
        unfold World.noting
        rw [hsame]
      rw [hnothing] at hclean ⊢
      exact h.shown hclean
    · have hnew : (w.noting message).host.region.dirty := hdirty
      rw [hclean] at hnew
      cases hnew

/-! ## Runs -/

/-- Messages, each with the time at which it was made, and requests, in any order and however these
    end; `blanked` says whether the screen was. In between, the dashboard and the log region are left
    alone, and no session comes or goes; all else changes as it likes. -/
inductive Recording (w₀ : World) : List (Int × Text.Runs) → Bool → World → Prop
  | start : Recording w₀ [] false w₀
  | message {messages : List (Int × Text.Runs)} {blanked : Bool} {w : World}
    (h : Recording w₀ messages blanked w) (message : Text.Runs) :
    Recording w₀ (messages ++ [(w.host.clock, message)]) blanked (w.noting message)
  | between {messages : List (Int × Text.Runs)} {blanked : Bool} {w w' : World}
    (h : Recording w₀ messages blanked w) (hsize : w'.table.size = w.table.size)
    (hdashboard : w'.dashboard = w.dashboard) (hregion : w'.host.region = w.host.region)
    (hcommands : w'.commands = w.commands) : Recording w₀ messages blanked w'
  | request {messages : List (Int × Text.Runs)} {blanked : Bool} {w : World}
    (h : Recording w₀ messages blanked w) (r : Request) (hroom : r.HasRoom w) :
    Recording w₀ messages (blanked || r.blanks) (r.run.after w)

/-- The lines of messages, in their order. -/
def linesOf (messages : List (Int × Text.Runs)) : List String :=
  messages.flatMap fun (clock, message) => LogRegion.written clock message

theorem linesOf_concat (messages : List (Int × Text.Runs)) (clock : Int) (message : Text.Runs) :
    linesOf (messages ++ [(clock, message)]) = linesOf messages ++ LogRegion.written clock message := by
  simp [linesOf]

/-- A record that is admitted is a message, if records go to the log region only. -/
theorem Recording.log {w₀ : World} {messages : List (Int × Text.Runs)} {blanked : Bool}
    (h : Recording w₀ messages blanked w) {level : Level} (hadmits : w.host.logging.admits level)
    (hsinks : w.host.logging.sinks = [.region]) (message : String) :
    Recording w₀ (messages ++ [(w.host.clock, .ofText message)]) blanked
      ((Act.log level message).after w) := by
  rw [after_of_ok (log_apply level message w)]
  apply (h.message (.ofText message)).between
  · rfl
  · rfl
  · unfold Host.log
    rw [if_pos hadmits, hsinks]
    rfl
  · rfl

/-- What a run keeps: the latest lines of all messages, in a region that is settled once the screen
    was blanked. -/
structure Recorded (w₀ : World) (messages : List (Int × Text.Runs)) (blanked : Bool) (w : World) :
    Prop where
  logged : w.dashboard.logged
  size : w.table.size = w₀.table.size
  limit : w.host.region.limit = w₀.host.region.limit
  lines : w.host.region.lines = LogRegion.latest w₀.host.region.limit (linesOf messages)
  settled : blanked → Settled w

theorem Recording.recorded {w₀ : World} {messages : List (Int × Text.Runs)} {blanked : Bool}
    (h : Recording w₀ messages blanked w) (hlogged : w₀.dashboard.logged)
    (hempty : w₀.host.region.lines = []) : Recorded w₀ messages blanked w := by
  -- Only a message changes the lines, and only drawing and blanking change the rows they are on.
  induction h with
  | start =>
      refine ⟨hlogged, rfl, rfl, ?_, fun hblanked => by cases hblanked⟩
      rw [hempty, linesOf, List.flatMap_nil, LogRegion.latest, List.drop_nil]
  | @message messages blanked w _ message ih =>
      have hlines := ih.lines
      rw [← ih.limit] at hlines
      obtain ⟨hlimit, hnoted⟩ := LogRegion.append_of_lines hlines w.host.clock message
      refine ⟨ih.logged, ih.size, hlimit.trans ih.limit, ?_, ?_⟩
      · rw [linesOf_concat, ← ih.limit]
        exact hnoted
      · intro hblanked
        exact (ih.settled hblanked).noting hlines message
  | @between messages blanked w w' _ hsize hdashboard hregion hcommands ih =>
      have hextent : w'.extent = w.extent := by
        unfold World.extent
        rw [hsize, hdashboard]
      have hleft : Settles w w' := settling_of_eq hextent (by rw [hdashboard]) hregion hcommands
      refine ⟨?_, hsize.trans ih.size, ?_, ?_, fun hblanked => hleft.settled (ih.settled hblanked)⟩
      · rw [hdashboard]
        exact ih.logged
      · rw [hregion]
        exact ih.limit
      · rw [hregion]
        exact ih.lines
  | @request messages blanked w _ r hroom ih =>
      obtain ⟨hsettles, hblanks⟩ := r.settles ih.logged hroom
      refine ⟨hsettles.logged.trans ih.logged, hsettles.size.trans ih.size,
        hsettles.limit.trans ih.limit, hsettles.lines.trans ih.lines, ?_⟩
      intro hblanked
      rcases Bool.or_eq_true_iff.1 hblanked with hearlier | hnow
      · exact hsettles.settled (ih.settled hearlier)
      · exact hblanks hnow

/-- **The log region is never stale.** Whatever messages come and whatever is asked for, in whatever
    order, the region keeps the latest lines of all messages. Once the screen was blanked, it shows
    the latest of them that there are rows for whenever there is nothing new in it, each cut to the
    width and nothing else on its row, and the rows behind are blank. There is nothing new behind each
    request that draws the region, and a request returns if nothing is in its way. -/
theorem log_region_is_never_stale {w₀ w : World} {messages : List (Int × Text.Runs)} {blanked : Bool}
    (h : Recording w₀ messages blanked w) (hlogged : w₀.dashboard.logged)
    (hempty : w₀.host.region.lines = []) :
    w.table.size = w₀.table.size ∧ w.host.region.limit = w₀.host.region.limit ∧
      w.host.region.lines = LogRegion.latest w₀.host.region.limit (linesOf messages) ∧
      (blanked → w.host.region.dirty = false → ShowsLatest w ∧ BlankBehind w) ∧
      (∀ (r : Request) (w' : World), r.run w = .ok () w' → r.shows → w'.host.region.dirty = false) ∧
      ∀ r : Request, r.Drawable w → ∃ w', r.run w = .ok () w' := by
  have hrecorded := h.recorded hlogged hempty
  refine ⟨hrecorded.size, hrecorded.limit, hrecorded.lines, ?_, ?_, ?_⟩
  · intro hblanked hclean
    have hsettled := hrecorded.settled hblanked
    exact ⟨hsettled.shown hclean, hsettled.blank⟩
  · intro r w' hrun hshows
    exact Request.clean_of_shows hrun hshows hrecorded.logged
  · intro r hdrawable
    exact r.exists_run hdrawable

/-- One session on a terminal of 80 columns and 24 lines, whose records go to the log region. -/
def attended : World := { fresh with
  dashboard := { logged := true }
  host := { logging := { threshold := .info, sinks := [.region] } } }

/-- A record that is made before the whole screen is drawn is on the first row of the region. -/
theorem joining_is_shown : ∃ w₁ w₂ : World,
    (Act.log .info "Joining *,225.1.2.3").after attended = w₁ ∧
      (Request.stage (.redraw true)).run w₁ = .ok () w₂ ∧ BlankBehind w₂ ∧
      w₂.canvas.cells 7 =
        Canvas.rowOf (Text.points "Thu Jan 01 00:00:00 1970  Joining *,225.1.2.3".toList) := by
  have hlog : Recording attended [(0, .ofText "Joining *,225.1.2.3")] false
      ((Act.log .info "Joining *,225.1.2.3").after attended) :=
    Recording.start.log rfl rfl _
  obtain ⟨-, -, -, -, hclean, hreturns⟩ := log_region_is_never_stale hlog rfl rfl
  have hdrawable : (Request.stage (.redraw true)).Drawable
      ((Act.log .info "Joining *,225.1.2.3").after attended) :=
    ⟨⟨⟨_, rfl⟩, fun f hf => by cases hf⟩, fun _ => by decide⟩
  obtain ⟨w₂, hredraw⟩ := hreturns _ hdrawable
  have hdrawn := hlog.request (.stage (.redraw true)) hdrawable.hasRoom
  rw [after_of_ok hredraw] at hdrawn
  obtain ⟨hsessions, -, hlines, hshows, -, -⟩ := log_region_is_never_stale hdrawn rfl rfl
  obtain ⟨hlatest, hblank⟩ := hshows rfl (hclean _ _ hredraw rfl)
  refine ⟨_, w₂, rfl, hredraw, hblank, ?_⟩
  have heffect : (Stage.redraw true).Effect ((Act.log .info "Joining *,225.1.2.3").after attended) w₂ :=
    Stage.effect_run (by decide) hredraw
  have hsize : (w₂.dashboard.width, w₂.dashboard.height) = (80, 24) := heffect.size
  obtain ⟨hwidth, hheight⟩ := Prod.mk.inj hsize
  have hline : (LogRegion.latest (w₂.dashboard.logRows w₂.table.size) w₂.host.region.lines)[0]? =
      some "Thu Jan 01 00:00:00 1970  Joining *,225.1.2.3" := by
    rw [logRows, hheight, hsessions, hlines]
    decide +kernel
  have hrow := hlatest 0 _ hline
  rw [hsessions, shownOf, hwidth] at hrow
  exact hrow

end Dashboard

end Multicast
