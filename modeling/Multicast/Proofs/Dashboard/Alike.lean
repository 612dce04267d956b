import Multicast.Proofs.Dashboard.Faults
import Multicast.Proofs.Dashboard.Run
import Multicast.Proofs.Transport.Alongside

/-!
# `Proofs.Dashboard.Alike` — showing the sessions alongside another run

Whatever the full screen draws, looks up or logs, its run stays alongside the other, as long as nothing
makes it fail: it reads the sessions and turns their spinners. So does the plain output. A repaint of
the one is nothing to the other, and a tick of both opens a new slot in every history once.

## Contents
- **Alone.** What one run does for itself: `alone_modifyHost`, `alone_check` and
  `alone_interfaceAddress`.
- **Screens.** `Terminal.granting_alone`, then `Dashboard.showing_of_screen` for the terminal and for
  the screen that takes note of its commands.
- **Stages.** `Dashboard.alike_redraw` and `Dashboard.alike_tick`.
-/

namespace Multicast

open Act

variable {w w' : World} {bad : Fault → Prop}

/-! ## Alone -/

namespace Act

/-- A change to the host that is no part of sending and receiving, nor of showing. -/
theorem alone_modifyHost {f : Host → Host} (hdealings : ∀ h, (f h).dealings = h.dealings)
    (hsetting : ∀ h, (f h).setting = h.setting) : FailsAs (Alongside · w') bad (modifyHost f) := by
  intro w h
  refine h.withHost ((hdealings w.host).trans h.dealings) ?_ ?_
  · rw [hsetting]
    exact h.calm.setting
  · exact congrArg Setting.memory (hsetting w.host)

theorem alone_call {c : Call} (hc : c.onSockets = false) : FailsAs (Alongside · w') bad (call c) :=
  alone_modifyHost (dealings_record_of_not hc) fun _ => rfl

theorem alone_log (level : Level) (message : String) :
    FailsAs (Alongside · w') bad (log level message) :=
  alone_modifyHost (fun h => (log_leaves_dealings h level message).1)
    fun h => (log_leaves_dealings h level message).2

/-- A call that is not on sockets moves on no refusal of one that is. -/
theorem alongside_check {kind : CallKind} (hkind : kind.onSockets = false) (h : Alongside w w') :
    Alongside ((check kind).after w) w' := by
  have hmoved : ∀ f ∈ w.host.failures.filter (·.kind.onSockets), f.next kind = f := by
    intro f hf
    refine if_neg fun hsame => ?_
    have honsockets := (List.mem_filter.1 hf).2
    rw [hsame, hkind] at honsockets
    cases honsockets
  rw [after_check]
  refine h.withHost ?_ ?_ rfl
  · rw [dealings_next, ← h.dealings]
    have hrefusals : w.host.dealings.refusals.map (Failure.next kind) = w.host.dealings.refusals :=
      (List.map_congr_left hmoved).trans (List.map_id' _)
    rw [hrefusals]
  · rw [setting_next]
    exact h.calm.setting

/-- A call on the terminal goes through. -/
theorem alone_check (kind : TerminalCall) : FailsAs (Alongside · w') bad (check (.terminal kind)) := by
  refine failsAs_of_keeps (fun w h => alongside_check rfl h) fun w h e w₁ herror => ?_
  obtain ⟨f, hf, hkind, -⟩ := refused_of_check herror
  exact absurd hkind (h.calm.setting.granted (f.kind, f.fault) (List.mem_map_of_mem hf) kind)

/-- The address for the bar is found, as the host's name is looked up or the system does not know it. -/
theorem alone_interfaceAddress (interface : String) :
    FailsAs (Alongside · w') bad (interfaceAddress interface 0 true) := by
  have hcall : ∀ c : Call, c.onSockets = false → Keeps (.preserving (Alongside · w')) (call c) :=
    fun c hc w h => h.withHost ((dealings_record_of_not hc w.host).trans h.dealings) h.calm.setting rfl
  refine failsAs_of_returns ?_ fun w h => ?_
  · refine keeps_interfaceAddress (fun _ => hcall _ rfl) (fun _ _ => hcall _ rfl) ?_ _ _ _
    exact fun w h => alongside_check rfl h
  · refine exists_interfaceAddress interface 0 true fun _ f hf hkind => ?_
    exact h.calm.setting.lookups (f.kind, f.fault) (List.mem_map_of_mem hf) hkind

end Act

/-! ## Screens -/

namespace Alongside

/-- What there is room for is the same for both worlds. -/
theorem memory (h : Alongside w w') : w.host.memory = w'.host.memory :=
  congrArg Dealings.memory h.dealings

/-- What the terminal is known as has nothing to do with the other run. -/
theorem withTerminal {terminal : Terminal} (h : Alongside w w')
    (hfits : Room.HasLine w'.host.memory terminal.width) :
    Alongside { w with terminal } w' :=
  { h with calm := ⟨h.calm.setting, h.memory ▸ hfits, h.calm.dashboard⟩ }

theorem withDashboard {dashboard : Dashboard} (h : Alongside w w')
    (hfits : Room.HasLine w'.host.memory dashboard.width) : Alongside { w with dashboard } w' :=
  { h with calm := ⟨h.calm.setting, h.calm.terminal, h.memory ▸ hfits⟩ }

/-- There is room for the width that the terminal tells, or was known to have. -/
theorem told (h : Alongside w w') :
    Room.HasLine w'.host.memory (w.host.terminal.getD (w.terminal.width, w.terminal.height)).1 := by
  rw [← h.memory]
  cases hsize : w.host.terminal with
  | none => exact h.calm.terminal
  | some size => exact h.calm.setting.fits size hsize

end Alongside

/-- The terminal grants all calls, and is never told a width that there is no room for. -/
theorem Terminal.granting_alone :
    Granting (Alongside · w') (fun _ => False) (Room.HasLine w'.host.memory) where
  call _ := alone_call
  check := alone_check
  log := alone_log
  opened _ _ h := h.withTerminal (h.memory ▸ h.calm.terminal)
  sized _ _ _ h hfits := h.withTerminal hfits
  told _ h := h.told

namespace Dashboard

/-- **Nothing is in the way of showing**, on a screen whose commands cannot fail. -/
theorem showing_alone {screen : Screen}
    (hperform : ∀ c, FailsAs (Alongside · w') (fun _ => False) (screen.perform c))
    (hsize : ∀ w, Alongside w w' → Ends screen.querySize w
      (fun size w₁ => Room.HasLine w'.host.memory size.1 ∧ Alongside w₁ w')
      fun _ w₁ => False ∧ Alongside w₁ w') :
    Showing (Alongside · w') (fun _ => False) (Room.HasLine w'.host.memory) screen where
  perform := hperform
  width _ h := h.memory ▸ h.calm.dashboard
  dashboard _ _ h hfits := h.withDashboard hfits
  querySize := hsize
  region _ _ h := h.withHost h.dealings h.calm.setting rfl
  turn w h := by
    have hturn : ∀ s : Session, s.turn.still = s.still := by
      intro s
      unfold Session.turn
      split
      · rfl
      · rfl
    have htable : ({ w.table with sessions := w.table.sessions.map Session.turn } : Table).still =
        w.table.still := by
      unfold Table.still
      simp only [List.map_map, Function.comp_def, hturn]
    exact h.withTable (htable.trans h.table)
  address := alone_interfaceAddress
  date w d h hdate := by
    obtain ⟨time, htime⟩ := h.calm.setting.dated
    have hsame := hdate.symm.trans htime
    cases hsame
  room w d left used right e h hfits hused herror := by
    rw [← h.memory] at hfits
    obtain ⟨text, htext⟩ := exists_heading hfits left used hused right
    rw [htext] at herror
    cases herror

/-- The two screens that there are: the terminal, and the one that takes note of its commands. -/
theorem showing_of_screen {screen : Screen} (hscreen : screen = .terminal ∨ screen = .record) :
    Showing (Alongside · w') (fun _ => False) (Room.HasLine w'.host.memory) screen := by
  rcases hscreen with rfl | rfl
  · exact showing_alone Terminal.granting_alone.perform fun w h => Terminal.granting_alone.querySize h
  · have hnote : ∀ (c : Screen.Command) (w : World), Alongside w w' →
        Alongside { w with commands := w.commands.push c } w' := fun _ _ h =>
      { h with calm := { h.calm with } }
    exact showing_alone (fun c w h => hnote c w h) fun w h => ⟨h.told, hnote .querySize w h⟩

/-! ## Stages -/

variable {screen : Screen}

/-- **A repaint is nothing to the other run.** -/
theorem alike_redraw (hscreen : screen = .terminal ∨ screen = .record) (resized : Bool) :
    Alike Alongside (redraw screen resized) (pure ()) :=
  alike_of_alone (fun _ => (showing_of_screen hscreen).redraw resized) fun _ => failsAs_pure ()

/-- **A tick opens a new slot in every history, once in either run.** -/
theorem alike_tick (hscreen : screen = .terminal ∨ screen = .record) :
    Alike Alongside (tick screen) Progress.tick := by
  have hshown : ∀ v, FailsAs (Alongside · v) (fun _ => False)
      (do paint screen true; screen.perform .refresh) := fun v =>
    failsAs_bind ((showing_of_screen hscreen).paint true) fun _ =>
      (showing_of_screen hscreen).perform .refresh
  have hmarked : ∀ w, FailsAs (Alongside w ·) (fun _ => False) (do
      if (← get).table.sessions.any Session.active then Progress.advance) := by
    intro w
    refine failsAs_get_bind fun v _ => ?_
    split
    · exact Progress.failsAs_advance (fun _ _ h => { h with }) fun _ _ h => { h with }
    · exact failsAs_pure ()
  have haged : Blind ageAll := by
    intro w w' h
    have hage : ∀ t : Table, t.age.still = t.still.age := by
      intro t
      unfold Table.age Table.still
      simp only [List.map_map]
      rfl
    refine ⟨rfl, h.withTable ?_⟩
    rw [hage, hage, h.table]
  have hplain : Progress.tick = (do
      if (← get).table.sessions.any Session.active then Progress.advance) >>= fun _ => ageAll := by
    unfold Progress.tick
    rw [bind_assoc]
    refine congrArg (get >>= ·) (funext fun w => ?_)
    split
    · rfl
    · rfl
  have hfull : tick screen =
      (do paint screen true; screen.perform .refresh) >>= fun _ => ageAll := by
    unfold tick
    rw [bind_assoc]
  -- What is shown is each run's own; the histories of both grow older together.
  rw [hplain, hfull]
  exact alike_bind (alike_of_alone hshown hmarked) fun _ => haged

end Dashboard

end Multicast
