import Multicast.Dashboard
import Multicast.Progress
import Multicast.Proofs.Act.Frame
import Multicast.Proofs.Dashboard.Sight

/-!
# `Proofs.Dashboard.Frame` — what drawing leaves as it was

A stage of the full screen is made of commands to the screen, changes to the dashboard and to the log
region, and a few calls to find out the host's address. A frame that each of these keeps is kept by
all stages, on any screen.

## Contents
- **Basic steps.** `Frame.Drawing`, the steps that the stages are made of.
- **Stages.** `Dashboard.keeps_identify`, `keeps_paint` and `keeps_blank`, then `keeps_redraw`,
  `keeps_tick` and `keeps_close`.
- **Plain output.** `Frame.Marking`, with `Progress.keeps_tick` and `Progress.keeps_close`.
-/

namespace Multicast

open Act

/-! ## Basic steps -/

/-- A frame is kept by the steps that drawing on a screen is made of. While it is drawn on, the screen
    is not given back, and a dashboard that was opened stays open. -/
structure Frame.Drawing (F : Frame) (screen : Screen) : Prop where
  perform : ∀ c, c ≠ .cooked → Keeps F (screen.perform c)
  querySize : Keeps F screen.querySize
  update : ∀ (f : Dashboard → Dashboard) w, (w.dashboard.opened → (f w.dashboard).opened) →
    F.rel w ((Dashboard.update f).after w)
  region : ∀ w region, F.rel w { w with host := { w.host with region } }
  command : ∀ text, Keeps F (call (.command text))
  lookup : ∀ host family, Keeps F (call (.lookup host family))
  check : Keeps F (check .lookup)
  turn : ∀ w, F.rel w { w with
    table := { w.table with sessions := w.table.sessions.map Session.turn } }
  age : Keeps F ageAll

namespace Dashboard

variable {F : Frame} {screen : Screen}

/-! ## Stages -/

/-- Finding out the host's name and address changes these on the dashboard only. -/
theorem keeps_identify (hname : ∀ name, Keeps F (update ({ · with hostname := name })))
    (haddress : ∀ address, Keeps F (update ({ · with address })))
    (hcommand : ∀ text, Keeps F (call (.command text)))
    (hlookup : ∀ host family, Keeps F (call (.lookup host family)))
    (hcheck : Keeps F (check .lookup)) : Keeps F identify := by
  unfold identify
  refine keeps_bind keeps_get fun w => ?_
  dsimp only
  have hrest : Keeps F (if w.dashboard.address.isNone then do
      let address ← interfaceAddress w.dashboard.interface 0 true
      update ({ · with address := some address }) else pure ()) := by
    split
    · exact keeps_bind (keeps_interfaceAddress hcommand hlookup hcheck _ _ _) fun address =>
        haddress (some address)
    · exact keeps_pure ()
  split
  · exact keeps_bind keeps_get fun w' => keeps_bind (hname _) fun _ => hrest
  · exact hrest

/-- Commands that do not give the screen back are drawn. -/
theorem keeps_draw (h : F.Drawing screen) {cs : List Screen.Command} (hcs : .cooked ∉ cs) :
    Keeps F (draw screen cs) := by
  unfold draw
  refine keeps_bind (fun w => h.update _ w id) fun _ => keeps_forM fun c hc => h.perform c ?_
  rintro rfl
  exact hcs hc

theorem cooked_notMem_captions (d : Dashboard) : .cooked ∉ d.captions := by
  simp [captions, centre, place]

theorem cooked_notMem_bar (d : Dashboard) (time : Calendar.Stamp) : .cooked ∉ d.bar time := by
  simp [bar, place]

theorem cooked_notMem_logCommands (d : Dashboard) (sessions : Nat) (region : LogRegion) :
    .cooked ∉ d.logCommands sessions region := by
  simp [logCommands, logLine, place]

/-- No row of a session gives the screen back, and what is drawn opens and closes nothing. -/
theorem paintFrom_keeps (d : Dashboard) (i : Nat) (sessions : List Session) :
    .cooked ∉ (d.paintFrom i sessions).1 ∧ (d.paintFrom i sessions).2.opened = d.opened := by
  induction sessions generalizing d i with
  | nil => exact ⟨List.not_mem_nil, rfl⟩
  | cons s rest ih =>
      have hrow : ∀ line, .cooked ∉ (d.paintRow i line).1 ∧
          (d.paintRow i line).2.opened = d.opened := by
        intro line
        unfold paintRow
        split
        · exact ⟨List.not_mem_nil, rfl⟩
        · exact ⟨by simp [place], rfl⟩
      unfold paintFrom
      obtain ⟨hhere, hopened⟩ := hrow (s.row s.glyph d.window)
      obtain ⟨hbelow, hopened'⟩ := ih (d.paintRow i (s.row s.glyph d.window)).2 (i + 1)
      refine ⟨?_, hopened'.trans hopened⟩
      intro hmem
      rcases List.mem_append.1 hmem with hmem | hmem
      · exact hhere hmem
      · exact hbelow hmem

theorem keeps_setDirty (h : F.Drawing screen) (dirty : Bool) : Keeps F (setDirty dirty) := by
  unfold setDirty
  refine keeps_bind keeps_get fun w => ?_
  split
  · exact fun w' => h.region w' _
  · exact keeps_pure ()

theorem keeps_showLog (h : F.Drawing screen) : Keeps F (showLog screen) := by
  unfold showLog
  refine keeps_bind keeps_get fun w => ?_
  split
  · exact keeps_bind (keeps_setDirty h false) fun _ => keeps_draw h (cooked_notMem_logCommands _ _ _)
  · exact keeps_pure ()

/-- A paint writes the rows of the sessions as they are when the bar gets its date. -/
theorem paint_eq (screen : Screen) (advance : Bool) : paint screen advance = (do
    identify
    let w ← get
    let time ← Act.ofExcept ((Calendar.Stamp.ofClock? w.host.clock).mapError .date)
    update fun _ => (w.dashboard.paintFrom 0 w.table.sessions).2
    if advance then
      setTable { w.table with sessions := w.table.sessions.map Session.turn }
    draw screen (w.dashboard.bar time ++ (w.dashboard.paintFrom 0 w.table.sessions).1)
    showLog screen) := by
  unfold paint
  simp only [paintFrom?_eq]
  rfl

/-- A paint keeps what its steps keep; the last of them draw what was there when the bar got its
    date. -/
theorem keeps_paint_of (advance : Bool) (hidentify : Keeps F identify)
    (hpainted : ∀ w : World, F.rel w { w with
      dashboard := (w.dashboard.paintFrom 0 w.table.sessions).2 })
    (hturn : ∀ w : World, F.rel w { w with
      table := { w.table with sessions := w.table.sessions.map Session.turn } })
    (hdraw : ∀ (w : World) (time : Calendar.Stamp) (w₁ : World), F.rel w w₁ → F.rel w (Act.after (do
      draw screen (w.dashboard.bar time ++ (w.dashboard.paintFrom 0 w.table.sessions).1)
      showLog screen) w₁)) : Keeps F (paint screen advance) := by
  rw [paint_eq]
  refine keeps_bind hidentify fun _ => keeps_get_bind fun w => ?_
  cases Calendar.Stamp.ofClock? w.host.clock with
  | error e => exact F.refl w
  | ok time =>
      cases advance with
      | true => exact hdraw w time _ (F.trans (hpainted w) (hturn _))
      | false => exact hdraw w time _ (hpainted w)

theorem keeps_paint (h : F.Drawing screen) (advance : Bool) : Keeps F (paint screen advance) := by
  have hidentify : Keeps F identify :=
    keeps_identify (fun _ w => h.update _ w id) (fun _ w => h.update _ w id) h.command h.lookup h.check
  refine keeps_paint_of advance hidentify ?_ h.turn ?_
  · intro w
    obtain ⟨-, hopened⟩ := paintFrom_keeps w.dashboard 0 w.table.sessions
    exact h.update (fun _ => (w.dashboard.paintFrom 0 w.table.sessions).2) w hopened.trans
  · intro w time w₁ hbefore
    obtain ⟨hrows, -⟩ := paintFrom_keeps w.dashboard 0 w.table.sessions
    refine F.trans hbefore (keeps_bind (keeps_draw h ?_) (fun _ => keeps_showLog h) w₁)
    intro hmem
    rcases List.mem_append.1 hmem with hmem | hmem
    · exact cooked_notMem_bar _ _ hmem
    · exact hrows hmem

theorem keeps_resize (h : F.Drawing screen) : Keeps F (resize screen) := by
  unfold resize
  exact keeps_bind h.querySize fun size w => h.update _ w id

theorem keeps_prepare (h : F.Drawing screen) : Keeps F (prepare screen) := by
  unfold prepare
  refine keeps_bind keeps_get fun w => ?_
  split
  · exact keeps_pure ()
  · exact keeps_bind (fun w' => h.update _ w' fun _ => rfl) fun _ => keeps_draw h (by simp)

theorem keeps_drawHeading (h : F.Drawing screen) (row : Int) (text : Except RoomError String) :
    Keeps F (drawHeading screen row text) := by
  unfold drawHeading
  refine keeps_bind (keeps_draw h (by simp)) fun _ => ?_
  cases text with
  | error e => exact keeps_throw _
  | ok text => exact keeps_draw h (by simp)

theorem redraw_false (screen : Screen) :
    redraw screen false = (do
      blank screen
      screen.perform .refresh) := by
  unfold redraw
  simp only [Bool.false_eq_true, if_false]

theorem redraw_true (screen : Screen) :
    redraw screen true = (do
      resize screen
      blank screen
      paint screen false
      screen.perform .refresh) := by
  unfold redraw
  simp only [if_true]

theorem keeps_inscribe (h : F.Drawing screen) : Keeps F (inscribe screen) := by
  unfold inscribe
  refine keeps_bind keeps_get fun w => ?_
  have hfirst : Screen.Command.cooked ∉ .clear :: w.dashboard.captions := by
    intro hmem
    rcases List.mem_cons.1 hmem with hmem | hmem
    · cases hmem
    · exact cooked_notMem_captions _ hmem
  refine keeps_bind (keeps_draw h hfirst) fun _ => keeps_bind (keeps_drawHeading h _ _) fun _ => ?_
  refine keeps_bind (keeps_drawHeading h _ _) fun _ => ?_
  exact keeps_bind (fun w' => h.update _ w' id) fun _ => keeps_setDirty h true

theorem keeps_blank (h : F.Drawing screen) : Keeps F (blank screen) := by
  unfold blank
  exact keeps_bind (keeps_prepare h) fun _ => keeps_inscribe h

/-- **A repaint** keeps what drawing keeps. -/
theorem keeps_redraw (h : F.Drawing screen) (resized : Bool) : Keeps F (redraw screen resized) := by
  cases resized with
  | false =>
      rw [redraw_false]
      exact keeps_bind (keeps_blank h) fun _ => h.perform .refresh nofun
  | true =>
      rw [redraw_true]
      refine keeps_bind (keeps_resize h) fun _ => keeps_bind (keeps_blank h) fun _ => ?_
      exact keeps_bind (keeps_paint h false) fun _ => h.perform .refresh nofun

/-- **A tick** keeps what drawing keeps. -/
theorem keeps_tick (h : F.Drawing screen) : Keeps F (tick screen) := by
  unfold tick
  exact keeps_bind (keeps_paint h true) fun _ => keeps_bind (h.perform .refresh nofun) fun _ => h.age

/-- **Leaving the screen** keeps what drawing and giving the screen back keep; its size is not asked
    for. -/
theorem keeps_close (hperform : ∀ c, c ≠ .querySize → Keeps F (screen.perform c))
    (hupdate : ∀ f, Keeps F (update f)) : Keeps F (close screen) := by
  unfold close draw
  refine keeps_bind keeps_get fun w => ?_
  split
  · refine keeps_bind (keeps_bind (hupdate _) fun _ => ?_) fun _ => hupdate _
    refine keeps_forM fun c hc => hperform c ?_
    rintro rfl
    simp at hc
  · exact keeps_pure ()

end Dashboard

/-! ## Plain output -/

/-- A frame is kept by the steps that the plain output is made of. -/
structure Frame.Marking (F : Frame) : Prop where
  progress : ∀ w progress, F.rel w { w with progress }
  stdout : ∀ w stdout, F.rel w { w with host := { w.host with stdout } }

namespace Progress

variable {F : Frame}

/-- **A tick of the plain output** writes a mark at most, and opens new slots. -/
theorem keeps_tick (h : F.Marking) (hage : Keeps F ageAll) : Keeps F tick := by
  have hadvance : Keeps F advance := by
    unfold advance
    refine keeps_bind (fun w => h.progress w _) fun _ => keeps_bind keeps_get fun w => ?_
    dsimp only
    split
    · exact fun w' => h.stdout w' _
    · exact keeps_pure ()
  unfold tick
  refine keeps_bind keeps_get fun w => ?_
  split
  · exact keeps_bind hadvance fun _ => hage
  · exact hage

theorem keeps_close (h : F.Marking) : Keeps F close := by
  unfold close
  refine keeps_bind keeps_get fun w => ?_
  dsimp only
  split
  · exact fun w' => h.stdout w' _
  · exact keeps_pure ()

end Progress

end Multicast
