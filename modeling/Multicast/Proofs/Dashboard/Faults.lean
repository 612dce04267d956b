import Multicast.Program
import Multicast.Proofs.Transport.Footing

/-!
# `Proofs.Dashboard.Faults` — what showing the sessions fails with

Drawing fails as the calls on the terminal and the lookup of the host's name do, and for two reasons
of its own: the clock may have no date for the bar, and a screen may be too wide for its headings. On
a terminal that grants every call, these two are all. Leaving the screen cannot fail then, and neither
can the plain output.

## Contents
- **Terminal.** `Terminal.Granting`, what the commands to the terminal rely on, with
  `Granting.querySize` and `Granting.perform`.
- **Full screen.** `Dashboard.Granting` and `Dashboard.Showing`, what its stages rely on, with
  `Granting.close`, `Showing.paint` and `Showing.redraw`.
- **Spared.** `Fault.Undrawable`, then `Dashboard.failsAs_redraw`, `Dashboard.failsAs_tick` and
  `Dashboard.failsAs_close` on a terminal that grants every call.
- **Plain output.** `Progress.failsAs_advance`, `Progress.failsAs_tick` and `Progress.close_apply`.
-/

namespace Multicast

open Act

variable {p : World → Prop} {bad : Fault → Prop} {fits : Int → Prop}

/-! ## Terminal -/

namespace Terminal

/-- From worlds with a property, what commands to the terminal are made of fails only with faults of
    one kind and leaves the property in force; the terminal is never told a width that does not
    fit. -/
structure Granting (p : World → Prop) (bad : Fault → Prop) (fits : Int → Prop) : Prop where
  call : ∀ c, c.onSockets = false → FailsAs p bad (call c)
  check : ∀ kind, FailsAs p bad (check (.terminal kind))
  log : ∀ level message, FailsAs p bad (log level message)
  opened : ∀ w opened, p w → p { w with terminal := { w.terminal with opened } }
  sized : ∀ w width height, p w → fits width →
    p { w with terminal := { w.terminal with width, height } }
  told : ∀ w, p w → fits (w.host.terminal.getD (w.terminal.width, w.terminal.height)).1

namespace Granting

theorem operate (h : Granting p bad fits) (kind : TerminalCall) {c : Call}
    (hc : c.isTerminal = true) : FailsAs p bad (operate kind c) := by
  have hcall : c.onSockets = false := by
    cases c <;> first | rfl | cases hc
  unfold Terminal.operate
  rw [attempt_eq_check (Call.objection?_of_isTerminal hc)]
  exact failsAs_bind (h.call c hcall) fun _ => h.check kind

theorem tolerant {body : Act Unit} (h : FailsAs p bad body) : FailsAs p bad (tolerant body) :=
  failsAs_recover h (fun _ _ => failsAs_pure ()) fun _ he _ => he

theorem whenOpen {body : Act Unit} (h : FailsAs p bad body) : FailsAs p bad (whenOpen body) := by
  unfold Terminal.whenOpen
  refine failsAs_get_bind fun w₁ _ => ?_
  split
  · exact h
  · exact failsAs_pure ()

/-- Opening the terminal fails as its calls do. -/
theorem start (h : Granting p bad fits) : FailsAs p bad start := by
  unfold Terminal.start
  refine failsAs_get_bind fun w₁ _ => ?_
  split
  · exact failsAs_pure ()
  · refine failsAs_bind (h.operate _ rfl) fun _ => ?_
    refine failsAs_bind (fun w hw => h.opened w true hw) fun _ => ?_
    refine failsAs_bind (h.operate _ rfl) fun _ => tolerant ?_
    exact failsAs_bind (h.operate _ rfl) fun _ => h.operate _ rfl

/-- Asking for the terminal's size fails as its calls do, and gives a width that fits. -/
theorem querySize (h : Granting p bad fits) {w : World} (hw : p w) :
    Ends querySize w (fun size w' => fits size.1 ∧ p w') fun e w' => bad e ∧ p w' := by
  have htold := h.told w hw
  unfold Terminal.querySize
  refine ends_get_bind ?_
  refine ends_bind_of_ok (call_apply _ w) (ends_get_bind ?_)
  have hcalled : p { w with
      host := w.host.record (.terminalSize w.terminal.width w.terminal.height) } := h.call _ rfl w hw
  dsimp only [Host.record]
  cases hsize : w.host.terminal.getD (w.terminal.width, w.terminal.height) with
  | mk columns lines =>
      rw [hsize] at htold
      have hresize : FailsAs p bad (recover (Terminal.operate .resize (.resizeTerminal lines columns))
          Fault.isScreen fun _ => Act.log .debug s!"Failed resizing screen to {columns}x{lines}") :=
        failsAs_recover (h.operate _ rfl) (fun _ _ => h.log _ _) fun _ he _ => he
      have hsized := h.sized _ columns lines hcalled htold
      dsimp only
      by_cases hopened : w.terminal.opened = true
      · rw [if_pos hopened]
        refine (hresize _ hsized).bind fun _ w₁ h₁ => ?_
        exact ⟨htold, h₁⟩
      · rw [if_neg hopened]
        exact ⟨htold, hsized⟩

/-- **A command to the terminal** fails as the calls on it do. -/
theorem perform (h : Granting p bad fits) (c : Screen.Command) : FailsAs p bad (perform c) := by
  cases c with
  | raw =>
      apply whenOpen
      exact failsAs_bind (h.operate _ rfl) fun _ => h.operate _ rfl
  | cooked =>
      apply whenOpen
      refine failsAs_bind (h.operate _ rfl) fun _ => failsAs_bind (h.operate _ rfl) fun _ => ?_
      exact failsAs_bind (h.operate _ rfl) fun _ w hw => h.opened w false hw
  | hideCursor | showCursor => exact tolerant (h.operate _ rfl)
  | clear | clearToEnd | refresh => exact whenOpen (h.operate _ rfl)
  | querySize =>
      intro w hw
      exact (h.querySize hw).bind fun _ w₁ h₁ => h₁.2
  | moveTo | write => exact whenOpen (tolerant (h.operate _ rfl))

end Granting

end Terminal

/-! ## Full screen -/

namespace Dashboard

variable {screen : Screen}

/-- From worlds with a property, commands to the screen fail only with faults of one kind and leave the
    property in force, which holds of all dashboards whose width fits. -/
structure Granting (p : World → Prop) (bad : Fault → Prop) (fits : Int → Prop) (screen : Screen) :
    Prop where
  perform : ∀ c, FailsAs p bad (screen.perform c)
  width : ∀ w, p w → fits w.dashboard.width
  dashboard : ∀ w dashboard, p w → fits dashboard.width → p { w with dashboard }

/-- So does all else that the stages of the full screen are made of, and the bar and the headings have
    what they need, or fail with faults of that kind. -/
structure Showing (p : World → Prop) (bad : Fault → Prop) (fits : Int → Prop) (screen : Screen) :
    Prop extends Granting p bad fits screen where
  querySize : ∀ w, p w →
    Ends screen.querySize w (fun size w' => fits size.1 ∧ p w') fun e w' => bad e ∧ p w'
  region : ∀ w region, p w → p { w with host := { w.host with region } }
  turn : ∀ w, p w → p { w with
    table := { w.table with sessions := w.table.sessions.map Session.turn } }
  address : ∀ interface, FailsAs p bad (interfaceAddress interface 0 true)
  date : ∀ w d, p w → Calendar.Stamp.ofClock? w.host.clock = .error d → bad (.date d)
  room : ∀ w (d : Dashboard) left used right e, p w → fits d.width → 0 ≤ used →
    d.heading? w.host.memory left used right = .error e → bad (.room e)

namespace Granting

theorem update (h : Granting p bad fits screen) {f : Dashboard → Dashboard}
    (hf : ∀ d, (f d).width = d.width) : FailsAs p bad (update f) := by
  intro w hw
  refine h.dashboard w _ hw ?_
  rw [hf]
  exact h.width w hw

theorem draw (h : Granting p bad fits screen) (cs : List Screen.Command) :
    FailsAs p bad (draw screen cs) := by
  unfold Dashboard.draw
  exact failsAs_bind (h.update fun _ => rfl) fun _ => failsAs_forM fun c _ => h.perform c

/-- Leaving the screen fails as its commands do. -/
theorem close (h : Granting p bad fits screen) : FailsAs p bad (close screen) := by
  unfold Dashboard.close
  refine failsAs_get_bind fun w₁ _ => ?_
  split
  · exact failsAs_bind (h.draw _) fun _ => h.update fun _ => rfl
  · exact failsAs_pure ()

end Granting

/-- Rows are painted on a dashboard without changing its width. -/
theorem width_paintFrom (d : Dashboard) (i : Nat) (sessions : List Session) :
    (d.paintFrom i sessions).2.width = d.width := by
  have hrow : ∀ (d : Dashboard) i line, (d.paintRow i line).2.width = d.width := by
    intro d i line
    unfold paintRow
    split
    · rfl
    · rfl
  induction sessions generalizing d i with
  | nil => rfl
  | cons s rest ih =>
      unfold paintFrom
      exact (ih _ _).trans (hrow d i _)

namespace Showing

theorem setDirty (h : Showing p bad fits screen) (dirty : Bool) : FailsAs p bad (setDirty dirty) := by
  unfold Dashboard.setDirty
  refine failsAs_get_bind fun w₁ _ => ?_
  split
  · exact fun w hw => h.region w _ hw
  · exact failsAs_pure ()

/-- Finding out the host's name and address fails as asking for an address does. -/
theorem identify (h : Showing p bad fits screen) : FailsAs p bad identify := by
  have hrest : ∀ d : Dashboard, FailsAs p bad
      (if d.address.isNone then do
        let address ← interfaceAddress d.interface 0 true
        Dashboard.update ({ · with address := some address }) else pure ()) := by
    intro d
    split
    · exact failsAs_bind (h.address _) fun _ => h.update fun _ => rfl
    · exact failsAs_pure ()
  unfold Dashboard.identify
  refine failsAs_get_bind fun w₁ _ => ?_
  dsimp only
  split
  · exact failsAs_get_bind fun w₂ _ => failsAs_bind (h.update fun _ => rfl) fun _ => hrest _
  · exact hrest _

theorem showLog (h : Showing p bad fits screen) : FailsAs p bad (showLog screen) := by
  unfold Dashboard.showLog
  refine failsAs_get_bind fun w₁ _ => ?_
  split
  · exact failsAs_bind (h.setDirty false) fun _ => h.draw _
  · exact failsAs_pure ()

/-- **Painting** fails for want of a date, or as the screen does. -/
theorem paint (h : Showing p bad fits screen) (advance : Bool) :
    FailsAs p bad (paint screen advance) := by
  rw [paint_eq]
  refine failsAs_bind h.identify fun _ w hw => ends_get_bind ?_
  cases hdate : Calendar.Stamp.ofClock? w.host.clock with
  | error d => exact ⟨h.date w d hw hdate, hw⟩
  | ok time =>
      have hrest : FailsAs p bad (do
          Dashboard.draw screen (w.dashboard.bar time ++
            (w.dashboard.paintFrom 0 w.table.sessions).1)
          Dashboard.showLog screen) :=
        failsAs_bind (h.draw _) fun _ => h.showLog
      -- The sessions that turn are those that were read, as only the dashboard changed since.
      have hpainted := h.dashboard w (w.dashboard.paintFrom 0 w.table.sessions).2 hw (by
        rw [width_paintFrom]
        exact h.width w hw)
      cases advance with
      | true => exact hrest _ (h.turn _ hpainted)
      | false => exact hrest _ hpainted

theorem drawHeading (h : Showing p bad fits screen) (row : Int) {text : Except RoomError String}
    (htext : ∀ e, text = .error e → bad (.room e)) : FailsAs p bad (drawHeading screen row text) := by
  unfold Dashboard.drawHeading
  refine failsAs_bind (h.draw _) fun _ => ?_
  cases text with
  | error e => exact failsAs_throw (htext e rfl)
  | ok text => exact h.draw _

theorem blank (h : Showing p bad fits screen) : FailsAs p bad (blank screen) := by
  have hprepare : FailsAs p bad (prepare screen) := by
    unfold prepare
    refine failsAs_get_bind fun w₁ _ => ?_
    split
    · exact failsAs_pure ()
    · exact failsAs_bind (h.update fun _ => rfl) fun _ => h.draw _
  unfold Dashboard.blank inscribe
  refine failsAs_bind hprepare fun _ => failsAs_get_bind fun w hw => ?_
  have hsessions : ∀ e, w.dashboard.sessionHeading? w.host.memory = .error e → bad (.room e) :=
    fun e => h.room w _ _ _ _ e hw (h.width w hw) (by omega)
  have hlog : ∀ e, w.dashboard.logHeading? w.host.memory = .error e → bad (.room e) :=
    fun e => h.room w _ _ _ _ e hw (h.width w hw) (by omega)
  refine failsAs_bind (h.draw _) fun _ => failsAs_bind (h.drawHeading _ hsessions) fun _ => ?_
  refine failsAs_bind (h.drawHeading _ hlog) fun _ => ?_
  exact failsAs_bind (h.update fun _ => rfl) fun _ => h.setDirty true

/-- A new size is taken over from the screen. -/
theorem resize (h : Showing p bad fits screen) : FailsAs p bad (resize screen) := by
  intro w hw
  unfold Dashboard.resize
  refine (h.querySize w hw).bind fun size w₁ h₁ => ?_
  exact h.dashboard w₁ _ h₁.2 h₁.1

/-- **A repaint** fails for want of a date or of room, or as the screen does. -/
theorem redraw (h : Showing p bad fits screen) (resized : Bool) :
    FailsAs p bad (redraw screen resized) := by
  cases resized with
  | false =>
      rw [redraw_false]
      exact failsAs_bind h.blank fun _ => h.perform .refresh
  | true =>
      rw [redraw_true]
      refine failsAs_bind h.resize fun _ => failsAs_bind h.blank fun _ => ?_
      exact failsAs_bind (h.paint false) fun _ => h.perform .refresh

end Showing

end Dashboard

/-! ## Spared -/

section

variable {w : World}

namespace Terminal

/-- A terminal whose calls are spared grants them. -/
theorem granting_of_spared (h : w.footing.Spared) :
    Granting (fun w' => w.footing.Upheld w'.footing) bad fun _ => True where
  call c _ := failsAs_call c
  check kind := by
    refine failsAs_of_upheld (upheld_check _) fun w₁ h₁ e w' herror => ?_
    -- A refusal of a call on the terminal is none of a call on sockets.
    obtain ⟨f, hf, hkind, -⟩ := refused_of_check herror
    have hspared := h.grounded h₁.toGrounded (f.kind, f.fault) (List.mem_map_of_mem hf)
    rw [hkind] at hspared
    cases hspared
  log := failsAs_log
  opened _ _ h := h
  sized _ _ _ h _ := h
  told _ _ := trivial

theorem failsAs_update (f : Terminal → Terminal) : Upholds w bad (update f) :=
  fun _ h => h

/-- Opening the terminal does not fail. -/
theorem failsAs_start (h : w.footing.Spared) : Upholds w bad start := (granting_of_spared h).start

/-- Asking for the terminal's size does not fail. -/
theorem failsAs_querySize (h : w.footing.Spared) : Upholds w bad querySize := fun _ h₁ =>
  ((granting_of_spared h).querySize h₁).mono (fun _ _ h => h.2) fun _ _ h => h

end Terminal

/-- The clock has no date, or the screen has no room. -/
def Fault.Undrawable (e : Fault) : Prop := (∃ d, e = .date d) ∨ ∃ r, e = .room r

namespace Dashboard

theorem failsAs_update (f : Dashboard → Dashboard) : Upholds w bad (update f) :=
  fun _ h => h

theorem granting_of_spared (h : w.footing.Spared) :
    Granting (fun w' => w.footing.Upheld w'.footing) bad (fun _ => True) .terminal where
  perform := (Terminal.granting_of_spared h).perform
  width _ _ := trivial
  dashboard _ _ h _ := h

/-- On a terminal whose calls are spared, nothing but the date and the headings can be in the way. -/
theorem showing_of_spared (h : w.footing.Spared) :
    Showing (fun w' => w.footing.Upheld w'.footing) Fault.Undrawable (fun _ => True) .terminal where
  toGranting := granting_of_spared h
  querySize _ := (Terminal.granting_of_spared h).querySize
  region _ _ h := h
  turn w₁ h₁ := h₁.trans (drawing_upheld.turn w₁)
  address interface := by
    refine failsAs_of_upheld_of_returns (keeps_interfaceAddress (fun _ => upheld_call _)
      (fun _ _ => upheld_call _) (upheld_check .lookup) _ _ _) fun w₁ h₁ => ?_
    refine exists_interfaceAddress interface 0 true fun _ f hf hkind => ?_
    -- A lookup is spared.
    have hspared : f.kind.onSockets = true :=
      h.grounded h₁.toGrounded (f.kind, f.fault) (List.mem_map_of_mem hf)
    rw [hkind] at hspared
    cases hspared
  date _ d _ _ := Or.inl ⟨d, rfl⟩
  room _ _ _ _ _ e _ _ _ _ := Or.inr ⟨e, rfl⟩

/-- **A repaint fails only for want of a date or of room.** -/
theorem failsAs_redraw (h : w.footing.Spared) (resized : Bool) :
    Upholds w Fault.Undrawable (redraw .terminal resized) :=
  (showing_of_spared h).redraw resized

/-- **So does a tick.** -/
theorem failsAs_tick (h : w.footing.Spared) : Upholds w Fault.Undrawable (tick .terminal) := by
  unfold tick
  refine failsAs_bind ((showing_of_spared h).paint true) fun _ => ?_
  refine failsAs_bind ((showing_of_spared h).perform .refresh) fun _ => ?_
  exact failsAs_ageAll

/-- Leaving the screen does not fail. -/
theorem failsAs_close (h : w.footing.Spared) : Upholds w bad (close .terminal) :=
  (granting_of_spared h).close

end Dashboard

end

/-! ## Plain output -/

namespace Progress

/-- Writing a mark does not fail. -/
theorem failsAs_advance (hprogress : ∀ w progress, p w → p { w with progress })
    (hstdout : ∀ w stdout, p w → p { w with host := { w.host with stdout } }) :
    FailsAs p bad advance := by
  unfold advance
  refine failsAs_bind (fun w hw => hprogress w _ hw) fun _ => failsAs_get_bind fun w₁ _ => ?_
  dsimp only
  split
  · exact fun w hw => hstdout w _ hw
  · exact failsAs_pure ()

/-- A tick of the plain output does not fail. -/
theorem failsAs_tick {w : World} : Upholds w bad tick := by
  have hadvance : Upholds w bad advance := failsAs_advance (fun _ _ h => h) fun _ _ h => h
  unfold tick
  refine failsAs_get_bind fun w₁ _ => ?_
  split
  · exact failsAs_bind hadvance fun _ => failsAs_ageAll
  · exact failsAs_ageAll

/-- Leaving the plain output ends the row of marks. -/
theorem close_apply (w : World) :
    close w = .ok () (if w.progress.visible && w.progress.emitted ≠ 0 then
      { w with host := { w.host with stdout := w.host.stdout ++ "\n" } } else w) := by
  unfold close
  rw [bind_of_ok (get_apply w)]
  dsimp only
  split
  · rfl
  · rfl

end Progress

end Multicast
