import Multicast.Proofs.Loop.Schedule
import Multicast.Proofs.Program.Start
import Multicast.Proofs.Program.Surroundings
import Multicast.Proofs.Terminal.Curtain

/-!
# `Proofs.Program.Restore` — what a run that opens the terminal does to it

The full screen opens the terminal before the transport opens its sockets, and draws for the first
time when these are open, the timer is set and nothing has told the loop to end. From then on the
terminal is given back however the run ends. A run that ends before anything was drawn leaves the
terminal open.

## Contents
- **Signals.** The handlers are put back backstage, and so is the timer but for the calls that set
  it.
- **Opening.** `ends_attend`: what happens while the transport is opened sets flags.
- **Drawing.** `Dashboard.opened_redraw`: a repaint opens the dashboard.
- **Loop.** `Loop.Cued`, with `Loop.opened_iterate`, since the first iteration draws; `Loop.Played`,
  and `Loop.ends_run_played` for the main loop of a full screen.
- **Surroundings.** `Handled`, `Program.ends_loop`, and all that comes before and after it.
- **Run.** `Program.run_restores_terminal`.
-/

namespace Multicast

open Act

variable {w : World} {before : List Call}

/-! ## Signals -/

/-- The scene after the timer was set. -/
theorem World.scene_setTimer (first interval : Quantity) (ticking : Bool) (w : World) :
    World.scene { w with
      host := w.host.record (.setTimer first interval)
      signals := { w.signals with ticking } } =
      { w.scene.after [.setTimer first interval] with ticking } := by
  unfold scene
  dsimp only
  rw [Host.stage_record rfl]
  rfl

namespace Signals

/-- **The timer** is started by a call that sets it, or it is left alone. -/
theorem ends_startTimer {first interval : Quantity} (hsettle : w.flags.settle = .span first)
    (hperiod : w.flags.period = .span interval) :
    Ends startTimer w
      (fun _ w' => w'.scene = { w.scene.after [.setTimer first interval] with ticking := true })
      fun _ w' => w' = w := by
  unfold Ends
  cases hobjection : w.host.objection? (.setTimer first interval) with
  | none =>
      rw [startTimer_apply hsettle hperiod hobjection]
      exact (backstage_log .debug _ _).trans (World.scene_setTimer first interval true w)
  | some e => rw [startTimer_of_objection hsettle hperiod hobjection]

theorem onStage_startTimer : Keeps .onStage startTimer := by
  refine keeps_startTimer (fun w _ _ _ _ => ?_) (fun _ => .silent rfl id rfl rfl) fun _ _ =>
    (backstage_log _ _).onStage
  exact onStage_call (by rintro ⟨⟩) (by rintro ⟨⟩) w

/-- A timer that does not run is not stopped. -/
theorem stopTimer_of_not_ticking (h : w.signals.ticking = false) : stopTimer w = .ok () w := by
  rw [stopTimer_apply, if_neg]
  rw [h]
  exact Bool.false_ne_true

/-- However that is, it does not run any more afterwards. -/
theorem exists_stopTimer (w : World) :
    ∃ w', stopTimer w = .ok () w' ∧ w.scene.Drawn w'.scene ∧ w'.scene.ticking = false := by
  refine ⟨_, stopTimer_apply w, ?_⟩
  by_cases hticking : w.signals.ticking
  · rw [if_pos hticking, World.scene_setTimer]
    exact ⟨⟨rfl, id, rfl, [_], rfl, by simp, by simp⟩, rfl⟩
  · rw [if_neg hticking]
    exact ⟨.refl _, Bool.eq_false_iff.2 hticking⟩

theorem onStage_stopTimer : Keeps .onStage stopTimer := by
  intro w
  obtain ⟨w', hstop, hdrawn, -⟩ := exists_stopTimer w
  rw [after_of_ok hstop]
  exact hdrawn

/-- What is left to do once the timer does not run. -/
theorem unheard_putBack : Keeps (.of fun w => w.scene.unheard) (do
    (← get).signals.saved.forM fun (s, d) => setHandler s d.restored
    modify fun w => { w with signals := { w.signals with saved := [] } }) := by
  refine keeps_bind keeps_get fun w => keeps_bind ?_ fun _ _ => rfl
  exact keeps_forM fun p _ => unheard_setHandler _ _

/-- Putting the handlers back has nothing to do with the screen, nor with a timer that does not
    run. -/
theorem ends_restore (h : w.scene.ticking = false) :
    Ends restore w (fun _ w' => w'.scene.calls = w.scene.calls)
      fun _ w' => w'.scene.calls = w.scene.calls := by
  refine ends_bind_of_ok (stopTimer_of_not_ticking h) ?_
  exact (ends_of_frame unheard_putBack w).mono (fun _ _ => congrArg Scene.calls)
    fun _ _ => congrArg Scene.calls

theorem onStage_restore : Keeps .onStage restore :=
  keeps_bind onStage_stopTimer fun _ => onStage_of_unheard unheard_putBack

end Signals

/-! ## Opening -/

/-- **What happens while the transport is opened** sets flags; the loop runs unless it was told to
    end. -/
theorem ends_attend (h : w.view.Listens) :
    Ends attend w
      (fun _ w' => w'.scene.unflagged = w.scene.unflagged ∧
        w'.flags.running = (w.flags.running && !w.scene.opening.any Event.endsLoop))
      fun _ w' => w'.scene.unflagged = w.scene.unflagged := by
  have hsame := ends_of_frame waiting_unflagged.attend w
  unfold Ends at hsame ⊢
  cases hattend : attend w with
  | ok u w' =>
      rw [hattend] at hsame
      exact ⟨hsame, running_attend h hattend⟩
  | error e w' =>
      rw [hattend] at hsame
      exact hsame

/-! ## Drawing -/

namespace Dashboard

/-- A dashboard that is open stays open while it is drawn. -/
theorem opened_of_onStage {α : Type} {act : Act α} (h : Keeps .onStage act) :
    Keeps (.preserving fun w => w.dashboard.opened = true) act :=
  h.mono fun _ _ hdrawn hopened => hdrawn.opened hopened

/-- Blanking the screen opens the dashboard, even if it breaks off later. -/
theorem opened_blank (w : World) :
    Ends (blank .terminal) w (fun _ w' => w'.dashboard.opened = true)
      fun _ w' => w'.dashboard.opened = true := by
  have hprepare : Ends (prepare .terminal) w (fun _ w' => w'.dashboard.opened = true)
      fun _ w' => w'.dashboard.opened = true := by
    unfold prepare
    refine ends_get_bind ?_
    by_cases hopened : w.dashboard.opened
    · rw [if_pos hopened]
      exact hopened
    · rw [if_neg hopened]
      refine ends_bind (?_ : Ends _ _ _ _)
      exact ends_of_keeps (opened_of_onStage (keeps_draw drawing_onStage (by simp))) rfl
  refine hprepare.bind fun _ w₁ h₁ => ?_
  exact ends_of_keeps (opened_of_onStage (keeps_inscribe drawing_onStage)) h₁

/-- **A repaint opens the dashboard** on a terminal that refuses nothing, even if it breaks off
    later. -/
theorem opened_redraw (h : w.scene.Smooth) (resized : Bool) :
    Ends (redraw .terminal resized) w (fun _ w' => w'.dashboard.opened = true)
      fun _ w' => w'.dashboard.opened = true := by
  have hrefresh : Keeps .onStage (Screen.terminal.perform .refresh) :=
    drawing_onStage.perform .refresh nofun
  cases resized with
  | false =>
      rw [redraw_false]
      exact (opened_blank w).bind fun _ _ h₁ => ends_of_keeps (opened_of_onStage hrefresh) h₁
  | true =>
      obtain ⟨size, w₁, hsize⟩ := Terminal.exists_querySize_of_smooth h
      have hresize : resize .terminal w = .ok () { w₁ with
          dashboard := { w₁.dashboard with width := size.1, height := size.2 } } := by
        unfold resize
        exact bind_of_ok hsize
      rw [redraw_true]
      refine ends_bind_of_ok hresize ((opened_blank _).bind fun _ _ h₂ => ends_of_keeps ?_ h₂)
      exact opened_of_onStage (keeps_bind (keeps_paint drawing_onStage false) fun _ => hrefresh)

end Dashboard

/-! ## Loop -/

namespace Loop

/-- A terminal that was opened by the calls since some point, with a loop ahead that listens and is
    told to run. -/
structure Cued (before : List Call) (s : Scene) : Prop where
  smooth : s.Smooth
  terminal : s.terminal = true
  opened : s.opened = false
  ticking : s.ticking = false
  running : s.flags.running = true
  listens : View.Listens ⟨s.flags, s.handlers, s.ticking, s.calls⟩
  settle : ∃ first, s.flags.settle = .span first
  period : ∃ interval, s.flags.period = .span interval
  calls : s.calls = before ++ Terminal.openingCalls

/-- Once the timer is set, whatever opens the dashboard shows it. -/
theorem Cued.shown {s s' : Scene} (h : Cued before s) (first interval : Quantity)
    (hdrawn : Scene.Drawn { s.after [.setTimer first interval] with ticking := true } s')
    (hopened : s'.opened = true) : Shown before s' := by
  let set : Scene := { s.after [.setTimer first interval] with ticking := true, opened := true }
  have hset : Shown before set := by
    refine ⟨h.smooth, h.terminal, rfl,
      [.keypad, .startColor, .defaultColors, .setTimer first interval], ?_, by simp, by simp,
      first, interval, by simp⟩
    show s.calls ++ _ = _
    rw [h.calls, List.append_assoc]
    rfl
  exact hset.drawn ⟨hdrawn.terminal, fun _ => hopened, hdrawn.refusals, hdrawn.calls⟩

variable {t : Transport}

/-- Iterating on the terminal is drawing. -/
theorem onStage_iterate (hstep : Keeps .onStage t.step) (steps fuel : Nat) :
    Keeps .onStage (iterate t (Dashboard.display .terminal) steps fuel) :=
  keeps_iterate stepping_onStage.flags (Dashboard.keeps_redraw drawing_onStage)
    (Dashboard.keeps_tick drawing_onStage) hstep steps fuel

/-- **The first iteration draws**, whatever comes of it. -/
theorem opened_iterate (hstep : Keeps .onStage t.step) (h : w.scene.Smooth)
    (hrunning : w.flags.running = true) (fuel : Nat) :
    Ends (iterate t (Dashboard.display .terminal) 0 (fuel + 1)) w
      (fun _ w' => w'.dashboard.opened = true) fun _ w' => w'.dashboard.opened = true := by
  have htick : Keeps .onStage (pollTick >>= fun fired =>
      if fired then (Dashboard.display .terminal).tick else pure ()) := by
    refine keeps_bind (keeps_bind keeps_get fun _ => ?_) fun fired => ?_
    · exact keeps_bind (onStage_modifyFlags _) fun _ => keeps_pure _
    · split
      · exact Dashboard.keeps_tick drawing_onStage
      · exact keeps_pure ()
  let polled : World := { w with flags := { w.flags with resized := false } }
  have hpoll : pollResized w = .ok w.flags.resized polled := rfl
  have hpolled : polled.scene.Smooth := h
  unfold iterate
  refine ends_get_bind ?_
  rw [if_pos hrunning, present_eq, bind_assoc]
  refine ends_bind_of_ok hpoll ?_
  rw [bind_assoc]
  refine (Dashboard.opened_redraw hpolled w.flags.resized).bind fun _ w₁ h₁ => ?_
  refine ends_of_keeps (Dashboard.opened_of_onStage ?_) h₁
  exact keeps_bind htick fun _ => keeps_bind hstep fun _ => onStage_iterate hstep _ fuel

/-- A loop that does not run any more does nothing. -/
theorem iterate_of_not_running (hrunning : w.flags.running = false) (fuel : Nat) :
    iterate t (Dashboard.display .terminal) 0 (fuel + 1) w = .ok (some 0) w := by
  unfold iterate
  rw [bind_of_ok (get_apply w), hrunning]
  rfl

/-- The terminal was opened by the calls since some point, and nothing was drawn on it. The timer was
    set only if the loop was told to end before its first step. -/
structure Unshown (early : Bool) (before : List Call) (s : Scene) : Prop where
  opened : s.opened = false
  ticking : s.ticking = true → early = true
  calls : ∃ calls, s.calls = before ++ (Terminal.openingCalls ++ calls) ∧
    .finishTerminal ∉ calls ∧ (Armed calls → early = true)

/-- What is cleaned up after: nothing was drawn, or the screen is shown. -/
def Played (early : Bool) (before : List Call) (s : Scene) : Prop :=
  Unshown early before s ∨ early = false ∧ Shown before s

/-- Nothing was drawn on a terminal that was only opened. -/
theorem Cued.unshown {s s' : Scene} (h : Cued before s) (hsame : s'.unflagged = s.unflagged)
    (early : Bool) : Unshown early before s' := by
  have hticking : s'.ticking = s.ticking := congrArg (·.ticking) hsame
  have hcalls : s'.calls = s.calls := congrArg (·.calls) hsame
  refine ⟨(congrArg (·.opened) hsame).trans h.opened, ?_, [], ?_, List.not_mem_nil, ?_⟩
  · rw [hticking, h.ticking]
    exact fun hticks => absurd hticks Bool.false_ne_true
  · rw [hcalls, h.calls, List.append_nil]
  · rintro ⟨first, interval, harmed⟩
    cases harmed

/-- Stopping the timer draws nothing. -/
theorem Unshown.exists_stopTimer {early : Bool} (h : Unshown early before w.scene) :
    ∃ w', Signals.stopTimer w = .ok () w' ∧ Unshown early before w'.scene ∧
      w'.scene.ticking = false := by
  refine ⟨_, Signals.stopTimer_apply w, ?_⟩
  by_cases hticking : w.signals.ticking
  · have hearly := h.ticking hticking
    obtain ⟨calls, hcalls, hfinish, -⟩ := h.calls
    rw [if_pos hticking, World.scene_setTimer]
    refine ⟨⟨h.opened, nofun, calls ++ [.setTimer (.ofNat 0) (.ofNat 0)], ?_, ?_, fun _ => hearly⟩, rfl⟩
    · show w.scene.calls ++ _ = _
      rw [hcalls, List.append_assoc, List.append_assoc]
    · simp [hfinish]
  · rw [if_neg hticking]
    exact ⟨h, Bool.eq_false_iff.2 hticking⟩

/-- **Starting the timer and iterating** on a terminal on which nothing was drawn yet. The screen is
    shown if the timer can be set and the loop runs. -/
theorem ends_armed (hstep : Keeps .onStage t.step) {s : Scene} (h : Cued before s)
    (hsame : w.scene.unflagged = s.unflagged) {early : Bool} (hrunning : w.flags.running = !early)
    (fuel : Nat) :
    Ends (arm true >>= fun _ => iterate t (Dashboard.display .terminal) 0 (fuel + 1) >>= note) w
      (fun _ w' => Played early before w'.scene) fun _ w' => Played early before w'.scene := by
  obtain ⟨first, hsettle⟩ := h.settle
  obtain ⟨interval, hperiod⟩ := h.period
  have hsettle₁ : w.flags.settle = .span first :=
    (congrArg (·.flags.settle) hsame).trans hsettle
  have hperiod₁ : w.flags.period = .span interval :=
    (congrArg (·.flags.period) hsame).trans hperiod
  refine ends_bind ((Signals.ends_startTimer hsettle₁ hperiod₁).mono ?_ ?_)
  · intro _ w₂ hscene₂
    have hnote : ∀ steps, Backstage (note steps) := fun steps => keeps_note backstage_log steps
    have hflags₂ : w₂.flags = w.flags := congrArg (·.flags) hscene₂
    cases early with
    | true =>
        rw [← hflags₂] at hrunning
        refine ends_bind_of_ok (iterate_of_not_running hrunning fuel) ?_
        have hunshown : Unshown true before w₂.scene := by
          obtain ⟨calls, hcalls, hfinish, -⟩ := (h.unshown hsame true).calls
          rw [hscene₂]
          refine ⟨(h.unshown hsame true).opened, fun _ => rfl, calls ++ [.setTimer first interval], ?_,
            ?_, fun _ => rfl⟩
          · show w.scene.calls ++ _ = _
            rw [hcalls, List.append_assoc, List.append_assoc]
          · simp [hfinish]
        have hkept : ∀ w' : World, w'.scene = w₂.scene → Played true before w'.scene := by
          intro w' hscene
          rw [hscene]
          exact Or.inl hunshown
        exact (ends_of_frame (hnote _) w₂).mono (fun _ => hkept) fun _ => hkept
    | false =>
        -- The iterations draw on the screen, and the first of them opens the dashboard.
        have hrest : Keeps .onStage
            (iterate t (Dashboard.display .terminal) 0 (fuel + 1) >>= note) :=
          keeps_bind (onStage_iterate hstep 0 _) fun steps => (hnote steps).onStage
        have hsmooth₂ : w₂.scene.Smooth := by
          refine h.smooth.of_refusals ?_
          rw [hscene₂]
          exact congrArg (·.refusals) hsame
        have hopened : Ends (iterate t (Dashboard.display .terminal) 0 (fuel + 1) >>= note) w₂
            (fun _ w' => w'.dashboard.opened = true) fun _ w' => w'.dashboard.opened = true := by
          refine (opened_iterate hstep hsmooth₂ ?_ fuel).bind fun steps w₃ h₃ => ?_
          · rw [hflags₂]
            exact hrunning
          · exact ends_of_keeps (Dashboard.opened_of_onStage (hnote steps).onStage) h₃
        have hshown : ∀ w' : World, w₂.scene.Drawn w'.scene ∧ w'.dashboard.opened = true →
            Played false before w'.scene := by
          rintro w' ⟨hdrawn, hopen⟩
          rw [hscene₂] at hdrawn
          refine Or.inr ⟨rfl, h.shown first interval ⟨?_, ?_, ?_, ?_⟩ hopen⟩
          · exact hdrawn.terminal.trans (congrArg (·.terminal) hsame)
          · exact fun _ => hopen
          · exact hdrawn.refusals.trans (congrArg (·.refusals) hsame)
          · obtain ⟨calls, hcalls, hrest⟩ := hdrawn.calls
            refine ⟨calls, hcalls.trans ?_, hrest⟩
            show (w.scene.calls ++ _) ++ _ = (s.calls ++ _) ++ _
            rw [show w.scene.calls = s.calls from congrArg (·.calls) hsame]
        exact ((ends_of_frame hrest w₂).and hopened).mono (fun _ => hshown) fun _ => hshown
  · rintro _ _ rfl
    exact Or.inl (h.unshown hsame early)

/-- **Opening the transport, starting the timer and iterating** shows the screen, if the transport
    can be opened, the timer set, and nothing tells the loop to end meanwhile. -/
theorem ends_played {start : Act Unit} (hstart : Backstage start)
    (hattends : t.start = start >>= fun _ => attend) (hstep : Keeps .onStage t.step)
    (h : Cued before w.scene) (fuel : Nat) :
    Ends (body t (Dashboard.display .terminal) true (fuel + 1)) w
      (fun _ w' => Played (w.scene.opening.any Event.endsLoop) before w'.scene)
      fun _ w' => Played (w.scene.opening.any Event.endsLoop) before w'.scene := by
  rw [body_eq, hattends, bind_assoc]
  refine ends_bind ((ends_of_frame hstart w).mono ?_ fun _ w₁ hscene => ?_)
  · intro _ w₁ hscene
    rw [show w.scene = w₁.scene from hscene.symm] at h ⊢
    refine ends_bind ((ends_attend ⟨h.listens.listened, h.listens.others⟩).mono ?_ ?_)
    · rintro _ w₂ ⟨hsame, hrunning⟩
      refine ends_armed hstep h hsame ?_ fuel
      rw [hrunning, show w₁.flags.running = true from h.running, Bool.true_and]
    · exact fun _ w₂ hsame => Or.inl (h.unshown hsame _)
  · exact Or.inl (h.unshown (congrArg Scene.unflagged hscene) _)

/-- **The main loop of a full screen** leaves nothing drawn or shows the screen. In both cases the
    timer does not run any more. -/
theorem ends_run_played {start : Act Unit} (hstart : Backstage start)
    (hattends : t.start = start >>= fun _ => attend) (hstep : Keeps .onStage t.step)
    (hclose : Backstage t.close) (h : Cued before w.scene) (fuel : Nat) :
    Ends (run t (Dashboard.display .terminal) true (fuel + 1)) w
      (fun _ w' => Played (w.scene.opening.any Event.endsLoop) before w'.scene ∧
        w'.scene.ticking = false)
      fun _ w' => Played (w.scene.opening.any Event.endsLoop) before w'.scene ∧
        w'.scene.ticking = false := by
  generalize hearly : w.scene.opening.any Event.endsLoop = early
  have hclosed : ∀ w₂ : World, Played early before w₂.scene ∧ w₂.scene.ticking = false →
      Ends t.close w₂ (fun _ w' => Played early before w'.scene ∧ w'.scene.ticking = false)
        fun _ w' => Played early before w'.scene ∧ w'.scene.ticking = false := by
    intro w₂ h₂
    have hkept : ∀ w' : World, w'.scene = w₂.scene →
        Played early before w'.scene ∧ w'.scene.ticking = false := by
      intro w' hscene
      rw [hscene]
      exact h₂
    exact (ends_of_frame hclose w₂).mono (fun _ => hkept) fun _ => hkept
  have hclean : ∀ w₁ : World, Played early before w₁.scene →
      Ends (do disarm true; t.close) w₁
        (fun _ w' => Played early before w'.scene ∧ w'.scene.ticking = false)
        fun _ w' => Played early before w'.scene ∧ w'.scene.ticking = false := by
    intro w₁ hplayed
    rcases hplayed with hunshown | ⟨hlate, hshown⟩
    · obtain ⟨w₂, hstop, hunshown₂, hoff⟩ := hunshown.exists_stopTimer
      exact ends_bind_of_ok hstop (hclosed w₂ ⟨Or.inl hunshown₂, hoff⟩)
    · obtain ⟨w₂, hstop, hdrawn, hoff⟩ := Signals.exists_stopTimer w₁
      exact ends_bind_of_ok hstop (hclosed w₂ ⟨Or.inr ⟨hlate, hshown.drawn hdrawn⟩, hoff⟩)
  rw [run_eq]
  have hplayed := ends_played hstart hattends hstep h fuel
  rw [hearly] at hplayed
  exact ends_ensuring (hplayed.mono (fun _ => hclean) fun _ => hclean)

end Loop

/-! ## Surroundings -/

/-- **What becomes of a terminal that was opened**: it is restored if and only if the timer was set
    and nothing told the loop to end before. -/
def Handled (early : Bool) (calls : List Call) : Prop :=
  .startTerminal ∈ calls → (Restored calls ↔ Armed calls ∧ early = false)

/-- The calls since some point handle the terminal so. -/
def HandledSince (early : Bool) (before : List Call) (s : Scene) : Prop :=
  ∃ calls, s.calls = before ++ calls ∧ Handled early calls

section

variable {early : Bool}

theorem HandledSince.of_drawn {s s' : Scene} (h : s.Drawn s') : HandledSince early s.calls s' := by
  obtain ⟨calls, hcalls, hstart, -⟩ := h.calls
  exact ⟨calls, hcalls, fun hmem => absurd hmem hstart⟩

theorem HandledSince.of_eq {s s' : Scene} (h : s' = s) : HandledSince early s.calls s' := by
  rw [h]
  exact .of_drawn (.refl s)

/-- A terminal on which nothing was drawn is not restored. -/
theorem HandledSince.of_unshown {s : Scene} (h : Loop.Unshown early before s) :
    HandledSince early before s := by
  obtain ⟨calls, hcalls, hfinish, harmed⟩ := h.calls
  refine ⟨Terminal.openingCalls ++ calls, hcalls, fun _ => ⟨?_, ?_⟩⟩
  · rintro ⟨between, hbetween, -⟩
    have hmem : Call.finishTerminal ∈ (Terminal.openingCalls ++ calls).filter Call.isTerminal := by
      rw [hbetween]
      simp
    rcases List.mem_append.1 (List.mem_filter.1 hmem).1 with hmem | hmem
    · simp [Terminal.openingCalls] at hmem
    · exact absurd hmem hfinish
  · rintro ⟨⟨first, interval, hset⟩, hlate⟩
    rcases List.mem_append.1 hset with hset | hset
    · simp [Terminal.openingCalls] at hset
    · rw [harmed ⟨first, interval, hset⟩] at hlate
      cases hlate

theorem HandledSince.of_givenBack {s : Scene} (h : GivenBack before s) (hlate : early = false) :
    HandledSince early before s := by
  obtain ⟨calls, hcalls, harmed, hrestored⟩ := h
  exact ⟨calls, hcalls, fun _ => ⟨fun _ => ⟨harmed, hlate⟩, fun _ => hrestored⟩⟩

end

/-- What is done backstage in front of a step leaves it the scene. -/
theorem ends_after_backstage {α β : Type} {x : Act α} {f : α → Act β} {p : Scene → Prop}
    (hx : Backstage x) (hp : p w.scene) (hf : ∀ a w', w'.scene = w.scene →
      Ends (f a) w' (fun _ w'' => p w''.scene) fun _ w'' => p w''.scene) :
    Ends (x >>= f) w (fun _ w' => p w'.scene) fun _ w' => p w'.scene := by
  refine ends_bind ((ends_of_frame hx w).mono (fun a w₁ hscene => hf a w₁ hscene) ?_)
  intro _ w₁ hscene
  show p w₁.scene
  rw [show w₁.scene = w.scene from hscene]
  exact hp

/-- What is done backstage behind a step leaves what it came to. -/
theorem ends_before_backstage {α β : Type} {x : Act α} {f : α → Act β} {p : Scene → Prop}
    (hx : Ends x w (fun _ w' => p w'.scene) fun _ w' => p w'.scene) (hf : ∀ a, Backstage (f a)) :
    Ends (x >>= f) w (fun _ w' => p w'.scene) fun _ w' => p w'.scene := by
  refine hx.bind fun a w₁ h₁ => ?_
  refine ends_of_keeps (p := fun w' => p w'.scene) ((hf a).mono fun _ w' hscene h => ?_) h₁
  show p w'.scene
  rw [show w'.scene = _ from hscene]
  exact h

/-- What surrounds the loop is backstage. -/
theorem launching_scene : (Frame.of World.scene).Launching where
  call c hc := backstage_call (by cases c <;> first | rfl | cases hc)
  check := backstage_check
  log := backstage_log
  process _ _ _ := rfl
  logging _ _ _ := rfl
  streams _ _ _ := rfl

namespace Program

/-- **Opening the screen and installing the handlers** cues the loop. -/
theorem exists_cued (s : Settings) (logged : Bool) (hsmooth : w.scene.Smooth)
    (hticking : w.scene.ticking = false)
    (hothers : ∀ name h, w.scene.handlers (.other name) ≠ .loop h)
    (hflags : ∃ interval, w.flags = { period := .span interval }) :
    ∃ w₁ w₂, openScreen s logged w = .ok (Dashboard.display .terminal) w₁ ∧
      Signals.install w₁ = .ok () w₂ ∧ Loop.Cued w.scene.calls w₂.scene ∧
      w₂.scene.opening = w.scene.opening := by
  obtain ⟨w₁, hopen, hscene⟩ := exists_openScreen hsmooth s logged
  have hothers₁ : ∀ name h, w₁.host.handlers (.other name) ≠ .loop h := by
    show ∀ name h, w₁.scene.handlers (.other name) ≠ .loop h
    rw [hscene]
    exact hothers
  obtain ⟨w₂, hinstall, hlistens⟩ := Signals.listens_install hothers₁
  have hunheard : w₂.scene.unheard = w₁.scene.unheard :=
    rel_of_ok Signals.unheard_install hinstall
  obtain ⟨interval, hflags⟩ := hflags
  have hflags₂ : w₂.scene.flags = w.flags := by
    rw [show w₂.scene.flags = w₁.scene.flags from congrArg (·.flags) hunheard, hscene]
    rfl
  rw [hscene] at hunheard
  refine ⟨w₁, w₂, hopen, hinstall, ⟨hsmooth.of_refusals (congrArg (·.refusals) hunheard),
    congrArg (·.terminal) hunheard, congrArg (·.opened) hunheard,
    (congrArg (·.ticking) hunheard).trans hticking, ?_, ⟨hlistens.listened, hlistens.others⟩,
    ⟨.ofNat 1, ?_⟩, ⟨interval, ?_⟩, congrArg (·.calls) hunheard⟩, congrArg (·.opening) hunheard⟩
  · rw [hflags₂, hflags]
  · rw [hflags₂, hflags]
    rfl
  · rw [hflags₂, hflags]

section

variable {early : Bool}

/-- Taking note of a failure is backstage. -/
theorem ends_noted_played {t : Transport} {fuel : Nat}
    (hrun : Ends (Loop.run t (Dashboard.display .terminal) true fuel) w
      (fun _ w' => Loop.Played early before w'.scene ∧ w'.scene.ticking = false)
      fun _ w' => Loop.Played early before w'.scene ∧ w'.scene.ticking = false) :
    Ends (recover (do
          let _ ← Loop.run t (Dashboard.display .terminal) true fuel
          pure true) isTransport fun e => do
        log .error e.message
        pure false) w
      (fun _ w' => Loop.Played early before w'.scene ∧ w'.scene.ticking = false)
      fun _ w' => Loop.Played early before w'.scene ∧ w'.scene.ticking = false := by
  refine ends_recover (ends_bind (hrun.mono (fun _ _ h => h) ?_))
  intro e w₁ h₁
  split
  · have hsame : World.scene { w₁ with host := w₁.host.log .error e.message } = w₁.scene :=
      backstage_log .error e.message w₁
    show Loop.Played early before (World.scene { w₁ with
      host := w₁.host.log .error e.message }) ∧ _
    rw [hsame]
    exact h₁
  · exact h₁

/-- **Closing the display** leaves a terminal on which nothing was drawn, and gives the screen
    back. -/
theorem ends_closeDisplay_played (hplayed : Loop.Played early before w.scene)
    (hoff : w.scene.ticking = false) :
    Ends (closeDisplay (Dashboard.display .terminal)) w
      (fun _ w' => HandledSince early before w'.scene ∧ w'.scene.ticking = false)
      fun _ w' => HandledSince early before w'.scene ∧ w'.scene.ticking = false := by
  unfold Ends
  rcases hplayed with hunshown | ⟨hlate, hshown⟩
  · rw [closeDisplay_of_unopened hunshown.opened]
    exact ⟨.of_unshown hunshown, hoff⟩
  · obtain ⟨w₁, hclosed, hgiven, hoff₁⟩ := exists_closeDisplay hshown
    rw [hclosed]
    exact ⟨.of_givenBack hgiven hlate, hoff₁.trans hoff⟩

/-- Putting the handlers back leaves it at that. -/
theorem ends_restore_handled (h : HandledSince early before w.scene)
    (hoff : w.scene.ticking = false) :
    Ends Signals.restore w (fun _ w' => HandledSince early before w'.scene)
      fun _ w' => HandledSince early before w'.scene := by
  obtain ⟨calls, hcalls, hhandled⟩ := h
  have hkept : ∀ w' : World, w'.scene.calls = w.scene.calls → HandledSince early before w'.scene :=
    fun w' hsame => ⟨calls, hsame.trans hcalls, hhandled⟩
  exact (Signals.ends_restore hoff).mono (fun _ => hkept) fun _ => hkept

end

/-- **The main loop of a full screen in its surroundings** handles the terminal. -/
theorem ends_loop (s : Settings) (logged : Bool) (period : Seconds) (fuel : Nat)
    (hsmooth : w.scene.Smooth) (hticking : w.scene.ticking = false)
    (hothers : ∀ name h, w.scene.handlers (.other name) ≠ .loop h)
    (hflags : ∃ interval, w.flags = { period := .span interval }) :
    Ends (loop s true logged period (fuel + 1)) w
      (fun _ w' => HandledSince (w.scene.opening.any Event.endsLoop) w.scene.calls w'.scene)
      fun _ w' => HandledSince (w.scene.opening.any Event.endsLoop) w.scene.calls w'.scene := by
  obtain ⟨hstart, hclose⟩ := keeps_role opening_scene s period
  have hstep := keeps_transport_step stepping_onStage s period
  obtain ⟨w₁, w₂, hopen, hinstall, hcued, hopening⟩ :=
    exists_cued s logged hsmooth hticking hothers hflags
  have hrun := Loop.ends_run_played hstart (t := transportOf s period) rfl hstep hclose hcued fuel
  rw [hopening] at hrun
  -- What was opened is closed from the inside out: the display first, then the handlers.
  have hdisplayed := fun w₃ (h : Loop.Played (w.scene.opening.any Event.endsLoop) w.scene.calls
      (World.scene w₃) ∧ w₃.scene.ticking = false) => ends_closeDisplay_played h.1 h.2
  have hrestored := fun w₃ (h : HandledSince (w.scene.opening.any Event.endsLoop) w.scene.calls
      (World.scene w₃) ∧ w₃.scene.ticking = false) => ends_restore_handled h.1 h.2
  show Ends (openScreen s logged >>= fun display => Signals.during _) w _ _
  refine ends_bind_of_ok hopen (ends_bind_of_ok hinstall ?_)
  refine ends_ensuring (Ends.mono ?_ (fun _ => hrestored) fun _ => hrestored)
  exact ends_ensuring ((ends_noted_played hrun).mono (fun _ => hdisplayed) fun _ => hdisplayed)

/-- Without a full screen, the main loop in its surroundings neither opens the terminal nor gives it
    back. -/
theorem onStage_loop (s : Settings) (logged : Bool) (period : Seconds) (fuel : Nat) :
    Keeps .onStage (loop s false logged period fuel) := by
  obtain ⟨hstart, hclose⟩ := keeps_role opening_scene s period
  have hstep := keeps_transport_step stepping_onStage s period
  have hopen : Keeps .onStage (transportOf s period).start :=
    keeps_bind (Backstage.onStage hstart) fun _ => stepping_onStage.attend
  have hlog : ∀ level message, Keeps .onStage (log level message) := fun level message =>
    (backstage_log level message).onStage
  have hrun : Keeps .onStage (Loop.run (transportOf s period) Progress.display true fuel) :=
    Loop.keeps_run stepping_onStage.flags hlog (fun _ => keeps_pure ())
      (Progress.keeps_tick marking_onStage onStage_ageAll) hopen hstep
      (Backstage.onStage hclose) Signals.onStage_startTimer Signals.onStage_stopTimer true fuel
  unfold loop openDisplay
  rw [if_neg Bool.false_ne_true, bind_assoc]
  refine keeps_bind (fun _ => .refl _) fun _ => ?_
  rw [pure_bind]
  refine keeps_bind (onStage_of_unheard Signals.unheard_install) fun _ => ?_
  refine keeps_ensuring (keeps_ensuring ?_ ?_) Signals.onStage_restore
  · refine keeps_recover (keeps_bind hrun fun _ => keeps_pure true) fun e => ?_
    exact keeps_bind (hlog _ _) fun _ => keeps_pure false
  · exact keeps_recover (Progress.keeps_close marking_onStage) fun _ => hlog _ _

/-- Working in the user's locale handles the terminal as the work does. -/
theorem ends_inUserLocale {α : Type} {body : Act α} {p : Scene → Prop} (hp : p w.scene)
    (hbody : ∀ w', w'.scene = w.scene →
      Ends body w' (fun _ w'' => p w''.scene) fun _ w'' => p w''.scene) :
    Ends (inUserLocale body) w (fun _ w' => p w'.scene) fun _ w' => p w'.scene := by
  unfold inUserLocale
  refine ends_after_backstage (keeps_setLocale launching_scene none) hp fun _ w₁ h₁ => ?_
  refine ends_get_bind ?_
  have hrestored : ∀ w₂ : World, p w₂.scene →
      Ends (restoreLocale w₁.host.locale) w₂ (fun _ w' => p w'.scene) fun _ w' => p w'.scene := by
    intro w₂ h₂
    have hkept : ∀ w' : World, w'.scene = w₂.scene → p w'.scene := by
      intro w' hscene
      rw [hscene]
      exact h₂
    have hends := ends_of_frame (keeps_restoreLocale launching_scene w₁.host.locale) w₂
    exact hends.mono (fun _ => hkept) fun _ => hkept
  refine ends_ensuring (Ends.mono ?_ (fun _ => hrestored) fun _ => hrestored)
  rw [← h₁] at hp
  refine ends_after_backstage (keeps_setLocale launching_scene _) hp fun _ w₂ h₂ => ?_
  exact hbody w₂ (h₂.trans h₁)

/-- **Running the loop and reporting how it ended** handles the terminal. -/
theorem ends_perform (s : Settings) (full logged : Bool) (hsmooth : w.scene.Smooth)
    (hticking : w.scene.ticking = false)
    (hothers : ∀ name h, w.scene.handlers (.other name) ≠ .loop h) :
    Ends (perform s full logged) w
      (fun _ w' => HandledSince (w.scene.opening.any Event.endsLoop) w.scene.calls w'.scene)
      fun _ w' => HandledSince (w.scene.opening.any Event.endsLoop) w.scene.calls w'.scene := by
  generalize hearly : w.scene.opening.any Event.endsLoop = early
  cases hperiod : Seconds.ofMillis? s.period with
  | none =>
      unfold Ends
      rw [perform_of_no_span hperiod]
      exact .of_eq rfl
  | some period =>
      obtain ⟨interval, rfl⟩ := exists_span hperiod
      let w₁ : World := { w with flags := { period := .span interval } }
      have hworked : Ends (inUserLocale (loop s full logged (.span interval) (stepsOf w₁.host))) w₁
          (fun _ w' => HandledSince early w.scene.calls w'.scene)
          fun _ w' => HandledSince early w.scene.calls w'.scene := by
        refine ends_inUserLocale (p := HandledSince early w.scene.calls) (.of_drawn ?_)
          fun w₂ h₂ => ?_
        · exact .silent rfl id rfl rfl
        · have hbefore : w₂.scene.calls = w.scene.calls := congrArg (·.calls) h₂
          have hopening : w₂.scene.opening = w.scene.opening := congrArg (·.opening) h₂
          have hhandlers : w₂.scene.handlers = w.scene.handlers := congrArg (·.handlers) h₂
          rw [← hbefore]
          cases full with
          | true =>
              rw [← hopening] at hearly
              rw [← hhandlers] at hothers
              have hlooped := ends_loop s logged (.span interval) (w₁.host.script.length + 1)
                (hsmooth.of_refusals (congrArg (·.refusals) h₂))
                ((congrArg (·.ticking) h₂).trans hticking) hothers
                ⟨interval, congrArg (·.flags) h₂⟩
              rw [hearly] at hlooped
              exact hlooped
          | false =>
              refine (ends_of_frame (onStage_loop s logged _ _) w₂).mono ?_ ?_
              · exact fun _ w' hdrawn => .of_drawn hdrawn
              · exact fun _ w' hdrawn => .of_drawn hdrawn
      unfold Ends
      rw [perform_of_span hperiod]
      exact ends_before_backstage (p := HandledSince early w.scene.calls) hworked
        (keeps_conclude launching_scene (fun _ => rfl) s)

/-- **Everything behind the checks** handles the terminal. -/
theorem ends_runWith (o : Options) (s : Settings) (table : Table) (hsmooth : w.scene.Smooth)
    (hticking : w.scene.ticking = false)
    (hothers : ∀ name h, w.scene.handlers (.other name) ≠ .loop h) :
    Ends (runWith o s table) w
      (fun _ w' => HandledSince (w.scene.opening.any Event.endsLoop) w.scene.calls w'.scene)
      fun _ w' => HandledSince (w.scene.opening.any Event.endsLoop) w.scene.calls w'.scene := by
  unfold runWith
  refine ends_bind_of_ok (modify_apply _ w) ?_
  -- What comes in front of the loop is backstage, so that the loop starts from the same scene.
  refine ends_after_backstage
    (p := HandledSince (w.scene.opening.any Event.endsLoop) w.scene.calls)
    (keeps_launch launching_scene (backstage_call rfl)) (.of_eq rfl) fun launched w₁ h₁ => ?_
  have hscene : w₁.scene = w.scene := h₁
  cases launched with
  | none =>
      show HandledSince _ _ w₁.scene
      exact .of_eq hscene
  | some launched =>
      obtain ⟨s', full, logged⟩ := launched
      rw [← hscene] at hsmooth hticking hothers ⊢
      exact ends_perform s' full logged hsmooth hticking hothers

/-! ## Run -/

/-- Logging leaves the scene as it is. -/
theorem scene_of_onlyLogged {w w' : World} (h : OnlyLogged w w') : w'.scene = w.scene := by
  obtain ⟨calls, htrace, hlogged⟩ := h.calls
  have hnone : calls.filter Call.isStaged = [] := by
    rw [List.filter_eq_nil_iff]
    intro c hc
    have hlogs := hlogged c hc
    cases c <;> first | exact Bool.false_ne_true | cases hlogs
  have hcalls : (w'.host.tally Call.isStaged).1 = (w.host.tally Call.isStaged).1 := by
    show w'.host.trace.toList.filter Call.isStaged = _
    rw [htrace, List.filter_append, hnone, List.append_nil]
    rfl
  have hscene : { w'.scene with calls := [] } = { w.scene with calls := [] } :=
    congrArg (fun u : World => { u.scene with calls := [] }) h.unlogged
  show { w'.scene with calls := (w'.host.tally Call.isStaged).1 } = w.scene
  rw [hcalls]
  exact congrArg (fun s : Scene => { s with calls := w.scene.calls }) hscene

/-- Checking options and groups has nothing to do with the screen. -/
theorem backstage_checked (o : Options) : Backstage (checked o) :=
  (keeps_checked o).mono fun _ _ => scene_of_onlyLogged

/-- **A run that opens the terminal gives it back if and only if it came to set the timer and nothing
    had told it to end before that**, while its transport was opened. This is so whatever the
    options, and whatever happens while the transport is opened, while the run waits, fails in a step
    or is told to end, as long as no call on the terminal is refused: then the terminal is opened
    once, given back once behind that, and not touched any more. A run whose transport cannot be
    opened, or that is told to end meanwhile, leaves the terminal open. -/
theorem run_restores_terminal (o : Options) (hworks : w.host.TerminalWorks)
    (hticking : w.signals.ticking = false)
    (hothers : ∀ name h, w.host.handlers (.other name) ≠ .loop h) :
    ∃ calls, ((run o).after w).host.trace.toList.filter Call.isStaged =
        w.host.trace.toList.filter Call.isStaged ++ calls ∧
      (.startTerminal ∈ calls →
        (Restored calls ↔ Armed calls ∧ w.host.opening.any Event.endsLoop = false)) := by
  have hends : Ends (run o) w
      (fun _ w' => HandledSince (w.scene.opening.any Event.endsLoop) w.scene.calls w'.scene)
      fun _ w' => HandledSince (w.scene.opening.any Event.endsLoop) w.scene.calls w'.scene := by
    have hsmooth := World.smooth_iff.2 hworks
    unfold run
    refine ends_after_backstage
      (p := HandledSince (w.scene.opening.any Event.endsLoop) w.scene.calls)
      (backstage_checked o) (.of_eq rfl) fun result w₁ h₁ => ?_
    cases result with
    | none =>
        show HandledSince _ _ w₁.scene
        exact .of_eq h₁
    | some start =>
        obtain ⟨s, table⟩ := start
        rw [← h₁] at hsmooth ⊢
        refine ends_runWith o s table hsmooth ?_ ?_
        · rw [h₁]
          exact hticking
        · rw [h₁]
          exact hothers
  exact hends.after

/-- A world with a terminal and some refusals ahead, in which a run is told to end when it first
    waits. -/
def onTerminal (failures : List Failure) : World where
  flags := { period := .ofNat 1 }
  host := { interactive := true, idle := [.signal .terminate], failures }

/-- A run on one group that is told to end gives the terminal back. -/
theorem ended_run_restores_terminal :
    (onTerminal []).host.TerminalWorks ∧ (onTerminal []).signals.ticking = false ∧
      (∀ name h, (onTerminal []).host.handlers (.other name) ≠ .loop h) ∧
      ∃ calls, ((run { groups := ["225.1.2.3"] }).after (onTerminal [])).host.trace.toList.filter
          Call.isStaged = calls ∧ .startTerminal ∈ calls ∧ Restored calls := by
  have hworks : (onTerminal []).host.TerminalWorks := by
    intro f hf
    cases hf
  have hothers : ∀ name h, (onTerminal []).host.handlers (.other name) ≠ .loop h := nofun
  refine ⟨hworks, rfl, hothers, ?_⟩
  obtain ⟨calls, hcalls, hhandled⟩ :=
    run_restores_terminal (w := onTerminal []) { groups := ["225.1.2.3"] } hworks rfl hothers
  have hall : ((run { groups := ["225.1.2.3"] }).after (onTerminal [])).host.trace.toList.filter
      Call.isStaged = calls := hcalls
  have hstart : .startTerminal ∈ calls := by
    rw [← hall]
    decide +kernel
  have harmed : Armed calls := by
    refine ⟨.ofNat 1, .finite ⟨false, 7205759403792794, 56⟩, ?_⟩
    rw [← hall]
    decide +kernel
  exact ⟨calls, hall, hstart, (hhandled hstart).2 ⟨harmed, rfl⟩⟩

/-- A run that is told to end while its socket is opened ends well and sets the timer, but draws nothing
    and leaves the terminal open. -/
example :
    let w : World := { onTerminal [] with
      host := { (onTerminal []).host with opening := [.signal .terminate] } }
    let calls := ((run { groups := ["225.1.2.3"] }).after w).host.trace.toList
    (run { groups := ["225.1.2.3"] }).outcome w = .ok (.status 0) ∧
      calls.filter Call.isTerminal = [.startTerminal, .keypad, .startColor, .defaultColors] ∧
      calls.any (fun c => c matches .setTimer _ _) := by
  decide +kernel

/-- The system refuses the first port. -/
def refusedPort : Failure := ⟨.bind, some 1, .system ⟨some 98, "Address already in use"⟩⟩

/-- A run whose only socket cannot be bound opens the terminal, ends with status 1, and does not
    give the terminal back: the loop ends before anything was drawn. -/
theorem refused_run_leaves_terminal_open :
    (onTerminal [refusedPort]).host.TerminalWorks ∧
      CommandLine.read (onTerminal [refusedPort]).options ["225.1.2.3"] =
        .ok { groups := ["225.1.2.3"] } ∧
      (run { groups := ["225.1.2.3"] }).outcome (onTerminal [refusedPort]) = .ok (.status 1) ∧
      ((run { groups := ["225.1.2.3"] }).after (onTerminal [refusedPort])).host.trace.toList.filter
        Call.isStaged = [.startTerminal, .keypad, .startColor, .defaultColors] := by
  refine ⟨?_, by decide +kernel, by decide +kernel, by decide +kernel⟩
  intro f hf kind
  rw [List.mem_singleton.1 hf]
  exact nofun

end Program

end Multicast
