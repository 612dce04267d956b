import Multicast.Proofs.Dashboard.Run

/-!
# `Proofs.Dashboard.Placement` — where on the screen texts are written

A move of the cursor to a position off the screen is passed over, so that a text that is written next
lands wherever the cursor was. Each part of the dashboard keeps to the screen but one: the heading of
the log region is written below the sessions, however many there are.

## Contents
- **Placing.** `Placed`, that every text is written right behind a move, and to where.
- **Extents.** `Extent`, and the frame `Frame.placing` of steps that write on positions of a kind.
- **Requests.** `Request`, what a dashboard can be asked for, and what a request writes
  (`Request.placed_run`, `Request.heading_is_written`).
- **Runs.** `Drawing` and `Requests`; `only_one_heading_leaves_the_screen`, and a screen that it leaves
  (`crowded_heading_leaves_the_screen`).
-/

namespace Multicast

open Act
open Screen (Command)

namespace Dashboard

/-! ## Placing -/

/-- Every text is written right behind a move of the cursor, to a position of a kind. -/
def Placed (p : Int → Int → Prop) (cs : List Command) : Prop :=
  ∀ front text style back, cs = front ++ .write text style :: back →
    ∃ before x y, front = before ++ [.moveTo x y] ∧ p x y

variable {p q : Int → Int → Prop} {cs ds : List Command}

theorem placed_of_none (h : ∀ text style, .write text style ∉ cs) : Placed p cs := by
  rintro front text style back rfl
  exact absurd (by simp) (h text style)

theorem Placed.mono (h : Placed p cs) (hpq : ∀ x y, p x y → q x y) : Placed q cs := by
  intro front text style back hcs
  obtain ⟨before, x, y, hfront, hp⟩ := h front text style back hcs
  exact ⟨before, x, y, hfront, hpq x y hp⟩

theorem Placed.append (hcs : Placed p cs) (hds : Placed p ds) : Placed p (cs ++ ds) := by
  intro front text style back hsplit
  rcases List.append_eq_append_iff.1 hsplit with ⟨front', rfl, hback⟩ | ⟨back', rfl, hback⟩
  · obtain ⟨before, x, y, rfl, hp⟩ := hds front' text style back hback
    exact ⟨cs ++ before, x, y, (List.append_assoc _ _ _).symm, hp⟩
  · cases back' with
    | nil =>
        -- The text is the first of the second list.
        obtain ⟨before, x, y, hbefore, hp⟩ := hds [] text style back (by simpa using hback.symm)
        simp at hbefore
    | cons c back' =>
        obtain ⟨rfl, -⟩ := List.cons.inj hback
        exact hcs front text style back' rfl

theorem placed_flatMap {α : Type} {f : α → List Command} {as : List α}
    (h : ∀ a ∈ as, Placed p (f a)) : Placed p (as.flatMap f) := by
  induction as with
  | nil => exact placed_of_none (by simp)
  | cons a as ih =>
      rw [List.flatMap_cons]
      apply (h a List.mem_cons_self).append
      exact ih fun b hb => h b (List.mem_cons_of_mem a hb)

/-- Strokes are placed where they are. -/
theorem Strokes.placed (h : Strokes p cs) : Placed p cs := by
  induction h with
  | nil => exact placed_of_none (by simp)
  | @cons x y cs h text style _ ih =>
      have hstroke : Placed p [.moveTo x y, .write text style] := by
        intro front text' style' back hsplit
        refine ⟨[], x, y, ?_, h⟩
        cases front with
        | nil => cases hsplit
        | cons c front =>
            obtain ⟨rfl, hrest⟩ := List.cons.inj hsplit
            cases front with
            | nil => rfl
            | cons d front => simp at hrest
      exact hstroke.append ih

/-- The lines of the log region are written on its rows in sight. -/
theorem placed_logCommands (d : Dashboard) (sessions : Nat) (region : LogRegion) :
    Placed (fun x y => x = 0 ∧ logRow sessions ≤ y ∧ y < d.height - 1)
      (d.logCommands sessions region) := by
  apply placed_flatMap
  rintro ⟨line, i⟩ hline
  have hi : i < d.logRows sessions := by
    have hlength := List.snd_lt_of_mem_zipIdx hline
    rw [Nat.add_zero, LogRegion.length_latest] at hlength
    omega
  apply Placed.append
  · apply Strokes.placed
    apply strokes_place
    unfold logRows at hi
    refine ⟨rfl, ?_, ?_⟩
    · omega
    · omega
  · exact placed_of_none (by simp)

end Dashboard

/-! ## Extents -/

open Dashboard

/-- How much there is to draw, and on how large a screen. -/
structure Extent where
  width : Int
  height : Int
  sessions : Nat

/-- The extent of a dashboard in its world. -/
def World.extent (w : World) : Extent := ⟨w.dashboard.width, w.dashboard.height, w.table.size⟩

namespace Extent

/-- A position of the screen. -/
def Shows (e : Extent) (x y : Int) : Prop := (0 ≤ x ∧ x < e.width) ∧ 0 ≤ y ∧ y < e.height

/-- The screen has a column, and rows for all that stands above the sessions. -/
def Roomy (e : Extent) : Prop := 1 ≤ e.width ∧ 5 ≤ e.height

/-- A position of the screen, if that is roomy. -/
def Near (e : Extent) (x y : Int) : Prop := e.Roomy → e.Shows x y

/-- Where the heading of the log region starts, or a position of the screen, if that is roomy. -/
def NearOrHeading (e : Extent) (x y : Int) : Prop :=
  e.Roomy → e.Shows x y ∨ x = 0 ∧ y = logHeadingRow e.sessions

/-- The headings of a screen. -/
theorem near_heading (e : Extent) : e.Near 0 headingRow := by
  rintro ⟨hwidth, hheight⟩
  unfold Shows headingRow
  omega

end Extent

/-- Texts are written on positions of a kind, which is that of the extent. -/
def Frame.placing (p : Extent → Int → Int → Prop) : Frame where
  rel w w' := w'.extent = w.extent ∧
    ∃ cs, w'.commands.toList = w.commands.toList ++ cs ∧ Placed (p w.extent) cs
  refl w := ⟨rfl, [], (List.append_nil _).symm, placed_of_none (by simp)⟩
  trans := by
    rintro u v w ⟨hextent, cs, hcs, hplaced⟩ ⟨hextent', ds, hds, hplaced'⟩
    refine ⟨hextent'.trans hextent, cs ++ ds, ?_, ?_⟩
    · rw [hds, hcs, List.append_assoc]
    · rw [hextent] at hplaced'
      exact hplaced.append hplaced'

namespace Dashboard

variable {p : Extent → Int → Int → Prop} {w w' : World}

/-- A step that draws nothing and leaves the extent writes nowhere else. -/
theorem placing_of_eq (hextent : w'.extent = w.extent) (hcommands : w'.commands = w.commands) :
    (Frame.placing p).rel w w' :=
  ⟨hextent, [], by rw [hcommands, List.append_nil], placed_of_none (by simp)⟩

/-- What is written on positions of a kind is on positions of any kind that has them. -/
theorem placing_mono {q : Extent → Int → Int → Prop} {act : Act Unit}
    (h : Keeps (.placing p) act) (hpq : ∀ e x y, p e x y → q e x y) : Keeps (.placing q) act := by
  intro w
  obtain ⟨hextent, cs, hcs, hplaced⟩ := h w
  exact ⟨hextent, cs, hcs, hplaced.mono fun x y => hpq _ x y⟩

theorem placing_draw {cs : List Command} (h : Placed (p w.extent) cs) :
    (Frame.placing p).rel w ((draw .record cs).after w) := by
  rw [after_of_ok (draw_apply cs w)]
  exact ⟨rfl, cs, by simp, h⟩

/-- What comes next has the extent of what came first. -/
theorem placing_bind {x : Act Unit} {f : Unit → Act Unit} (hx : (Frame.placing p).rel w (x.after w))
    (hf : ∀ w₁ : World, w₁.extent = w.extent → (Frame.placing p).rel w₁ ((f ()).after w₁)) :
    (Frame.placing p).rel w ((x >>= f).after w) := by
  cases hresult : x w with
  | ok u w₁ =>
      rw [after_of_ok hresult] at hx
      rw [after_bind_of_ok hresult]
      exact (Frame.placing p).trans hx (hf w₁ hx.1)
  | error e w₁ =>
      rw [after_of_error hresult] at hx
      rw [after_bind_of_error hresult]
      exact hx

theorem placing_identify : Keeps (.placing p) identify :=
  keeps_identify (fun _ _ => placing_of_eq rfl rfl) (fun _ _ => placing_of_eq rfl rfl)
    (fun _ _ => placing_of_eq rfl rfl) (fun _ _ _ => placing_of_eq rfl rfl)
    (keeps_check (fun _ _ => placing_of_eq rfl rfl) _)

theorem placing_setDirty (dirty : Bool) : Keeps (.placing p) (setDirty dirty) := by
  unfold setDirty
  refine keeps_bind keeps_get fun w => ?_
  split
  · exact fun w' => placing_of_eq rfl rfl
  · exact keeps_pure ()

/-- The log region is drawn on the screen. -/
theorem placing_showLog : Keeps (.placing Extent.Near) (showLog .record) := by
  unfold showLog
  refine keeps_get_bind fun w => ?_
  split
  · refine placing_bind (placing_setDirty false w) fun w₁ hextent => placing_draw ?_
    rw [hextent]
    apply (placed_logCommands w.dashboard w.table.size w.host.region).mono
    rintro x y ⟨rfl, hrow, hheight⟩ ⟨hwidth, -⟩
    have hlog : (0 : Int) ≤ logRow w.table.size := by
      unfold logRow logHeadingRow firstRow
      omega
    refine ⟨⟨Int.le_refl _, ?_⟩, ?_, ?_⟩
    · exact hwidth
    · omega
    · show y < w.dashboard.height
      omega
  · exact (Frame.placing _).refl w

/-- What a paint draws above the log region is on the screen. -/
theorem placed_bar_append_rows (w : World) (time : Calendar.Stamp) : Placed w.extent.Near
    (w.dashboard.bar time ++ (w.dashboard.paintFrom 0 w.table.sessions).1) := by
  apply Placed.append
  · apply (strokes_bar w.dashboard time).placed.mono
    rintro x y ⟨hinside, rfl⟩ ⟨hwidth, hheight⟩
    unfold Inside at hinside
    unfold Extent.Shows barRow World.extent
    unfold World.extent at hwidth hheight
    dsimp only at *
    omega
  · apply (strokes_paintFrom w.dashboard 0 w.table.sessions).placed.mono
    rintro x y ⟨rfl, j, -, rfl, hsight⟩ ⟨hwidth, -⟩
    have hrow : firstRow + (j : Int) < w.dashboard.height - 1 :=
      Int.not_le.1 fun hhides => hsight (decide_eq_true hhides)
    unfold Extent.Shows
    unfold World.extent at hwidth ⊢
    unfold firstRow at hrow ⊢
    dsimp only at *
    omega

/-- Painting rows of sessions leaves the extent. -/
theorem extent_paintFrom (w : World) : World.extent { w with
    dashboard := (w.dashboard.paintFrom 0 w.table.sessions).2 } = w.extent := by
  obtain ⟨hwidth, hheight⟩ := size_paintFrom w.dashboard 0 w.table.sessions
  unfold World.extent
  rw [hwidth, hheight]

/-- Turning the spinners leaves the extent. -/
theorem extent_turn (w : World) : World.extent { w with
    table := { w.table with sessions := w.table.sessions.map Session.turn } } = w.extent := by
  unfold World.extent Table.size
  rw [List.length_map]

/-- **A paint keeps to the screen**, whether or not it comes to its end. -/
theorem placing_paint (advance : Bool) : Keeps (.placing Extent.Near) (paint .record advance) := by
  refine keeps_paint_of advance placing_identify (fun w => placing_of_eq (extent_paintFrom w) rfl)
    (fun w => placing_of_eq (extent_turn w) rfl) ?_
  intro w time w₁ hbefore
  refine (Frame.placing _).trans hbefore (placing_bind (placing_draw ?_) fun w₂ _ => placing_showLog w₂)
  rw [hbefore.1]
  exact placed_bar_append_rows w time

/-- Preparing the screen writes nothing. -/
theorem placing_prepare : Keeps (.placing p) (prepare .record) := by
  unfold prepare
  refine keeps_get_bind fun w => ?_
  split
  · exact (Frame.placing p).refl w
  · refine placing_bind (placing_of_eq rfl rfl) fun w₁ _ => placing_draw ?_
    exact placed_of_none (by simp)

/-- A heading is written where its row starts, if there is room for it. -/
theorem placing_drawHeading {row : Int} (h : p w.extent 0 row) (text : Except RoomError String) :
    (Frame.placing p).rel w ((drawHeading .record row text).after w) := by
  cases text with
  | error e =>
      have hfails : ∃ w' : World, drawHeading .record row (.error e) w = .error (.room e) w' ∧
          w'.extent = w.extent ∧ w'.commands = w.commands ++ #[.moveTo 0 row] := by
        unfold drawHeading
        rw [bind_of_ok (draw_apply _ w)]
        exact ⟨_, rfl, rfl, rfl⟩
      obtain ⟨w', hfails, hextent, hcommands⟩ := hfails
      rw [after_of_error hfails]
      exact ⟨hextent, [.moveTo 0 row], by simp [hcommands], placed_of_none (by simp)⟩
  | ok text =>
      have hreturns : ∃ w' : World, drawHeading .record row (.ok text) w = .ok () w' ∧
          w'.extent = w.extent ∧
          w'.commands = w.commands ++ #[.moveTo 0 row] ++ #[.write text .reverse] := by
        unfold drawHeading
        rw [bind_of_ok (draw_apply _ w)]
        exact ⟨_, draw_apply _ _, rfl, rfl⟩
      obtain ⟨w', hreturns, hextent, hcommands⟩ := hreturns
      rw [after_of_ok hreturns]
      exact ⟨hextent, [.moveTo 0 row, .write text .reverse], by simp [hcommands],
        (Strokes.cons h _ _ .nil).placed⟩

theorem placing_refresh : Keeps (.placing p) (Screen.record.perform .refresh) :=
  fun w => ⟨rfl, [.refresh], Array.toList_push, placed_of_none (by simp)⟩

/-- Opening new slots leaves the extent. -/
theorem extent_age (w : World) : World.extent { w with table := w.table.age } = w.extent := by
  unfold World.extent Table.size Table.age
  rw [List.length_map]

theorem placing_ageAll : Keeps (.placing p) ageAll :=
  fun w => placing_of_eq (extent_age w) rfl

/-- **Blanking the screen keeps to it**, but for the heading of the log region. -/
theorem placing_blank : Keeps (.placing Extent.NearOrHeading) (blank .record) := by
  unfold blank
  refine keeps_bind placing_prepare fun _ => ?_
  unfold inscribe
  refine keeps_get_bind fun w => ?_
  have hcaptions : Placed w.extent.NearOrHeading (.clear :: w.dashboard.captions) := by
    have hclear : Placed w.extent.NearOrHeading [.clear] := placed_of_none (by simp)
    apply hclear.append
    apply (strokes_captions w.dashboard).placed.mono
    rintro x y ⟨hinside, hrow⟩ ⟨hwidth, hheight⟩
    left
    unfold Inside at hinside
    unfold Extent.Shows World.extent
    unfold World.extent at hwidth hheight
    unfold titleRow barRow at hrow
    dsimp only at *
    omega
  refine placing_bind (placing_draw hcaptions) fun w₁ h₁ => ?_
  refine placing_bind (placing_drawHeading ?_ _) fun w₂ h₂ => ?_
  · exact fun hroomy => Or.inl (w₁.extent.near_heading hroomy)
  refine placing_bind (placing_drawHeading ?_ _) fun w₃ _ => ?_
  · intro _
    rw [h₂, h₁]
    exact Or.inr ⟨rfl, rfl⟩
  exact placing_bind (placing_of_eq rfl rfl) fun w₄ _ => placing_setDirty true w₄

/-! ## Requests -/

/-- What a dashboard can be asked for: a stage, or the log region alone. -/
inductive Request where
  | stage (s : Stage)
  | showLog

namespace Request

/-- The request on a screen that takes note of its commands. -/
def run : Request → Act Unit
  | stage s => s.run
  | showLog => Dashboard.showLog .record

/-- Whether the screen is blanked. -/
def blanks : Request → Bool
  | stage s => s.blanks
  | showLog => false

/-- The size that the request draws for. -/
def size (w : World) : Request → Int × Int
  | stage s => s.size w
  | showLog => (w.dashboard.width, w.dashboard.height)

/-- How much a request draws, and for how large a screen. -/
def extent (w : World) (r : Request) : Extent := ⟨(r.size w).1, (r.size w).2, w.table.size⟩

/-- Where a request writes. -/
def Writes (r : Request) (e : Extent) (x y : Int) : Prop :=
  e.Roomy → e.Shows x y ∨ r.blanks ∧ x = 0 ∧ y = logHeadingRow e.sessions

/-- **A request adds commands, and writes where it may**, however it ends. -/
theorem placed_run (r : Request) (w : World) :
    ∃ cs, (r.run.after w).commands.toList = w.commands.toList ++ cs ∧
      Placed (r.Writes (r.extent w)) cs := by
  have hnear : ∀ {act : Act Unit}, Keeps (.placing Extent.Near) act → ∀ r : Request, ∃ cs,
      (act.after w).commands.toList = w.commands.toList ++ cs ∧ Placed (r.Writes w.extent) cs := by
    intro act hkeeps r
    obtain ⟨-, cs, hcs, hplaced⟩ := hkeeps w
    exact ⟨cs, hcs, hplaced.mono fun _ _ h hroomy => Or.inl (h hroomy)⟩
  have hheading : ∀ resized {e x y}, e.NearOrHeading x y →
      (stage (.redraw resized)).Writes e x y :=
    fun _ _ _ _ h hroomy => (h hroomy).imp_right fun hrow => ⟨rfl, hrow⟩
  cases r with
  | showLog => exact hnear placing_showLog showLog
  | stage s =>
      cases s with
      | paint advance => exact hnear (placing_paint advance) (stage (.paint advance))
      | tick =>
          have htick : Keeps (.placing Extent.Near) (Dashboard.tick .record) :=
            keeps_bind (placing_paint true) fun _ => keeps_bind placing_refresh fun _ => placing_ageAll
          exact hnear htick (stage .tick)
      | redraw resized =>
          cases resized with
          | false =>
              have hredraw : Keeps (.placing Extent.NearOrHeading) (Dashboard.redraw .record false) := by
                rw [redraw_false]
                exact keeps_bind placing_blank fun _ => placing_refresh
              obtain ⟨-, cs, hcs, hplaced⟩ := hredraw w
              exact ⟨cs, hcs, hplaced.mono fun _ _ => hheading false⟩
          | true =>
              -- The size is taken over before anything is drawn.
              have hredraw : Keeps (.placing Extent.NearOrHeading) (do
                  blank .record
                  paint .record false
                  Screen.record.perform .refresh) := by
                refine keeps_bind placing_blank fun _ => keeps_bind ?_ fun _ => placing_refresh
                exact placing_mono (placing_paint false) fun _ _ _ h hroomy => Or.inl (h hroomy)
              obtain ⟨-, cs, hcs, hplaced⟩ := hredraw (sized w)
              refine ⟨.querySize :: cs, ?_, ?_⟩
              · show ((Dashboard.redraw .record true).after w).commands.toList = _
                rw [redraw_true, after_bind_of_ok (resize_apply w), hcs]
                show (w.commands.push .querySize).toList ++ cs = _
                simp
              · have hquery : Placed ((stage (.redraw true)).Writes (sized w).extent) [.querySize] :=
                  placed_of_none (by simp)
                exact hquery.append (hplaced.mono fun _ _ => hheading true)

/-- **The heading of the log region is written by every redraw**, if there is room for a line of the
    screen. -/
theorem heading_is_written {resized : Bool} {w : World}
    (h : Room.HasLine w.host.memory ((stage (.redraw resized)).size w).1) : ∃ front text back,
      ((stage (.redraw resized)).run.after w).commands.toList = w.commands.toList ++
        (front ++ [.moveTo 0 (logHeadingRow w.table.size)] ++ .write text .reverse :: back) := by
  have hblanked : ∀ (w₁ : World) {rest : Act Unit},
      Room.HasLine w₁.host.memory w₁.dashboard.width → Keeps (.placing Extent.Near) rest →
      ∃ front text back,
        ((blank .record >>= fun _ => rest).after w₁).commands.toList = w₁.commands.toList ++
          (front ++ [.moveTo 0 (logHeadingRow w₁.table.size)] ++ .write text .reverse :: back) := by
    intro w₁ rest hline hrest
    obtain ⟨w₂, hblank⟩ := exists_blank hline
    obtain ⟨d, heading, logHeading, v, hblanking⟩ := blank_eq_ok hblank
    obtain ⟨before, hcommands⟩ := hblanking.commands
    obtain ⟨-, cs, hcs, -⟩ := hrest w₂
    refine ⟨before ++ .clear :: (d.captions ++ place 0 headingRow heading .reverse), logHeading, cs, ?_⟩
    rw [after_bind_of_ok hblank, hcs, hcommands]
    simp [place]
  show ∃ front text back, ((Dashboard.redraw .record resized).after w).commands.toList = _
  cases resized with
  | false =>
      rw [redraw_false]
      exact hblanked w h placing_refresh
  | true =>
      rw [redraw_true, after_bind_of_ok (resize_apply w)]
      have hrest : Keeps (.placing Extent.Near) (do
          paint .record false
          Screen.record.perform .refresh) :=
        keeps_bind (placing_paint false) fun _ => placing_refresh
      obtain ⟨front, text, back, hcommands⟩ := hblanked (sized w) h hrest
      refine ⟨.querySize :: front, text, back, ?_⟩
      rw [hcommands]
      show (w.commands.push .querySize).toList ++ _ = _
      simp
      rfl

end Request

/-! ## Runs -/

/-- What a request drew, for how large a screen, and on a machine with how much memory. -/
structure Drawing where
  request : Request
  extent : Extent
  memory : Nat
  commands : List Command

/-- Requests in any order, however they end, each of a dashboard whose size is the terminal's. In between,
    the dashboard draws nothing; sessions, the log and all else change as they like. -/
inductive Requests (w₀ : World) : List Drawing → World → Prop
  | start : Requests w₀ [] w₀
  | between {drawings : List Drawing} {w w' : World} (h : Requests w₀ drawings w)
    (hdashboard : w'.dashboard = w.dashboard) (hcommands : w'.commands = w.commands) :
    Requests w₀ drawings w'
  | request {drawings : List Drawing} {w : World} (h : Requests w₀ drawings w) (r : Request)
    (hsize : r.size w = told w) :
    Requests w₀ (drawings ++ [⟨r, ⟨(told w).1, (told w).2, w.table.size⟩, w.host.memory,
      (r.run.after w).commands.toList.drop w.commands.toList.length⟩]) (r.run.after w)

/-- What is drawn stays on the screen, but for the heading of the log region: on a screen that is
    blanked, that does exactly if there is a row for it. -/
structure Drawing.Kept (d : Drawing) : Prop where
  placed : Placed (fun x y => d.extent.Shows x y ∨
    d.request.blanks ∧ x = 0 ∧ y = logHeadingRow d.extent.sessions) d.commands
  heading : Room.HasLine d.memory d.extent.width → (Placed d.extent.Shows d.commands ↔
    (d.request.blanks → logHeadingRow d.extent.sessions < d.extent.height))

/-- A heading is written off the screen if there is no row for it. -/
theorem not_placed_of_heading {e : Extent} {row : Int} (hrow : e.height ≤ row)
    (front : List Command) (text : String) (back : List Command) :
    ¬Placed e.Shows (front ++ [.moveTo 0 row] ++ .write text .reverse :: back) := by
  intro hplaced
  obtain ⟨before, x, y, hbefore, -, -, hheight⟩ := hplaced _ text .reverse back rfl
  obtain ⟨-, hlast⟩ := List.append_inj' hbefore rfl
  injection hlast with hmove
  injection hmove with _ hy
  omega

/-- **One request** stays on the screen, but for that heading. -/
theorem Request.kept (r : Request) {w : World} (hsize : r.size w = told w) {cs : List Command}
    (hcs : (r.run.after w).commands.toList = w.commands.toList ++ cs)
    (hroomy : (r.extent w).Roomy) : Drawing.Kept ⟨r, r.extent w, w.host.memory, cs⟩ := by
  obtain ⟨cs', hcs', hplaced⟩ := r.placed_run w
  obtain rfl : cs = cs' := List.append_cancel_left (hcs.symm.trans hcs')
  have hwrites : Placed (fun x y => (r.extent w).Shows x y ∨
      r.blanks ∧ x = 0 ∧ y = logHeadingRow w.table.size) cs :=
    hplaced.mono fun x y h => h hroomy
  refine ⟨hwrites, fun hline => ⟨?_, ?_⟩⟩
  · intro hshows hblanks
    by_contra hrow
    obtain ⟨resized, rfl⟩ : ∃ resized, r = .stage (.redraw resized) := by
      rcases r with (⟨resized⟩ | advance | _) | _
      · exact ⟨resized, rfl⟩
      · cases hblanks
      · cases hblanks
      · cases hblanks
    obtain ⟨front, text, back, hcommands⟩ := heading_is_written hline
    obtain rfl := List.append_cancel_left (hcs.symm.trans hcommands)
    exact not_placed_of_heading (Int.not_lt.1 hrow) front text back hshows
  · intro hrow
    apply hwrites.mono
    rintro x y (hshows | ⟨hblanks, rfl, rfl⟩)
    · exact hshows
    · have hheight := hrow hblanks
      have hwidth := hroomy.1
      unfold Extent.Shows
      refine ⟨⟨Int.le_refl _, ?_⟩, ?_, hheight⟩
      · show 0 < (r.size w).1
        exact hwidth
      · unfold logHeadingRow firstRow
        omega

/-- **Texts stay on the screen**, whatever is asked for in whatever order: each of them is written right
    behind a move of the cursor, to a position of the screen. There is one exception. The heading of
    the log region is written below the screen whenever this is blanked and the sessions leave no
    row. -/
theorem only_one_heading_leaves_the_screen {w₀ w : World} {drawings : List Drawing}
    (h : Requests w₀ drawings w) :
    w.commands.toList = w₀.commands.toList ++ drawings.flatMap (·.commands) ∧
      ∀ d ∈ drawings, d.extent.Roomy → d.Kept := by
  induction h with
  | start => exact ⟨(List.append_nil _).symm, fun d hd => by cases hd⟩
  | between _ _ hcommands ih =>
      rw [hcommands]
      exact ih
  | @request drawings w _ r hsize ih =>
      obtain ⟨hall, hkept⟩ := ih
      obtain ⟨cs, hcs, -⟩ := r.placed_run w
      have hdrop : (r.run.after w).commands.toList.drop w.commands.toList.length = cs := by
        rw [hcs, List.drop_left]
      rw [hdrop]
      constructor
      · rw [List.flatMap_append, ← List.append_assoc, ← hall, hcs]
        simp
      · intro d hd hroomy
        rcases List.mem_append.1 hd with hd | hd
        · exact hkept d hd hroomy
        · obtain rfl := List.mem_singleton.1 hd
          rw [← hsize] at hroomy ⊢
          exact r.kept hsize hcs hroomy

/-- On a usual terminal, one session leaves a row for the heading. -/
theorem one_session_leaves_a_row : ∃ drawing,
    Requests fresh [drawing] ((Request.stage (.redraw false)).run.after fresh) ∧
    drawing.extent = ⟨80, 24, 1⟩ ∧ Placed drawing.extent.Shows drawing.commands := by
  have hstart : Requests fresh [] fresh := .start
  have hrequests := hstart.request (.stage (.redraw false)) rfl
  obtain ⟨-, hkept⟩ := only_one_heading_leaves_the_screen hrequests
  have hroomy : Extent.Roomy ⟨80, 24, 1⟩ := by
    unfold Extent.Roomy
    decide
  obtain ⟨-, hheading⟩ := hkept _ (List.mem_singleton_self _) hroomy
  refine ⟨_, hrequests, rfl, (hheading (by decide)).2 ?_⟩
  intro _
  decide

/-- A usual terminal with twenty sessions. -/
def crowded : World where
  flags := { period := .ofNat 1 }
  table := { sessions := List.replicate 20 { source := none, group := "225.1.2.3" } }

/-- **Twenty sessions leave no row for the heading** on a usual terminal: it is written off the screen
    nevertheless. -/
theorem crowded_heading_leaves_the_screen : crowded.commands = #[] ∧
    crowded.extent = ⟨80, 24, 20⟩ ∧ told crowded = (80, 24) ∧
      ¬Placed crowded.extent.Shows
        ((Request.stage (.redraw false)).run.after crowded).commands.toList := by
  refine ⟨rfl, rfl, rfl, ?_⟩
  have hline : Room.HasLine crowded.host.memory ((Request.stage (.redraw false)).size crowded).1 := by
    decide
  obtain ⟨front, text, back, hcommands⟩ := Request.heading_is_written hline
  have hnone : crowded.commands.toList = [] := rfl
  rw [hnone, List.nil_append] at hcommands
  rw [hcommands]
  apply not_placed_of_heading
  decide

end Dashboard

end Multicast
