import Multicast.Loop
import Multicast.Proofs.Act.Ends

/-!
# `Proofs.Loop.Schedule` — what happens while the loop's stages run

The loop learns of a stage of its transport by three things only: the flags that were set meanwhile,
by the handlers of the signals that arrived or by the transport itself, and whether the stage failed.
A moment is all of that for one stage. To tell what the loop calls, its transport and its display are
made to leave a mark for each stage.

## Contents
- **Moments.** `Moment`, with `Moment.ends`, whether the loop goes on after it.
- **Views.** `View`, what the loop and its observer see of a world, `Moment.on` and `View.Listens`;
  `flags_on` says what the flags of a moment are.
- **Stages.** `Shows`, a stage that shows a moment; `shows_await`, for waiting.
- **Marks.** `Transport.noted` and `Display.noted`, with `Display.Quiet`.
- **Handlers.** `Signals.listens_install`.
- **Opening.** `Event.endsLoop`, and `running_attend` for what happens while a transport is opened.
-/

namespace Multicast

open Act

/-! ## Moments -/

/-- A signal that ends the loop. -/
def Signal.terminates : Signal → Bool
  | .interrupt | .hangup | .terminate => true
  | .resize | .alarm | .other _ => false

/-- What happens during one stage, as far as the loop can tell. -/
structure Moment where
  /-- The signals that arrive. -/
  signals : List Signal := []
  /-- Whether the transport ends the loop. -/
  stopped : Bool := false
  /-- The fault that the stage ends with, if it does not return. -/
  fault : Option Fault := none

namespace Moment

/-- The loop is told to end. -/
def stops (m : Moment) : Bool := m.stopped || m.signals.any Signal.terminates

/-- The terminal is resized. -/
def resizes (m : Moment) : Bool := m.signals.any (· = .resize)

/-- The timer fires. -/
def ticks (m : Moment) : Bool := m.signals.any (· = .alarm)

/-- The loop does not go on after this. -/
def ends (m : Moment) : Bool := m.stops || m.fault.isSome

/-- The flags after a moment. -/
def flags (m : Moment) (f : Flags) : Flags :=
  { f with
    running := f.running && !m.stops
    resized := f.resized || m.resizes
    tick := f.tick || m.ticks }

/-- The moment as events of a wait. -/
def events (m : Moment) : List Event :=
  m.signals.map .signal ++ (if m.stopped then [.stop] else []) ++ m.fault.toList.map .fault

end Moment

/-! ## Views -/

/-- The marks of stages, and the calls that set the timer. -/
def Call.isMark : Call → Bool
  | .stage _ _ | .setTimer _ _ => true
  | _ => false

/-- What the loop and its observer see of a world. -/
structure View where
  flags : Flags
  handlers : Signal → Disposition
  ticking : Bool
  /-- The marks left so far. -/
  calls : List Call

/-- The view of a world. -/
def World.view (w : World) : View where
  flags := w.flags
  handlers := w.host.handlers
  ticking := w.signals.ticking
  calls := w.host.trace.toList.filter Call.isMark

/-- The view after one more mark. -/
def View.mark (v : View) (c : Call) : View := { v with calls := v.calls ++ [c] }

/-- What the handler in force does to the flags. -/
def Disposition.on (d : Disposition) (f : Flags) : Flags :=
  match d with
  | .loop .stopLoop => { f with running := false }
  | .loop .noteResize => { f with resized := true }
  | .loop .noteTick => { f with tick := true }
  | _ => f

/-- The view after a moment: the handlers in force are run for the signals. -/
def Moment.on (m : Moment) (v : View) : View :=
  let flags := m.signals.foldl (fun f s => (v.handlers s).on f) v.flags
  { v with flags := if m.stopped then { flags with running := false } else flags }

/-- The loop's handlers are in force for the signals that it listens to, and for no others. -/
structure View.Listens (v : View) : Prop where
  listened : ∀ p ∈ Signals.listened, v.handlers p.1 = .loop p.2
  others : ∀ name h, v.handlers (.other name) ≠ .loop h

namespace View.Listens

variable {v : View}

/-- What a signal does while the loop listens. -/
theorem on_handlers (h : v.Listens) (s : Signal) (f : Flags) :
    (v.handlers s).on f = Moment.flags { signals := [s] } f := by
  have hlistened : ∀ s handler, (s, handler) ∈ Signals.listened → v.handlers s = .loop handler :=
    fun s handler hmem => h.listened (s, handler) hmem
  cases s with
  | interrupt | hangup | terminate =>
      rw [hlistened _ .stopLoop (by decide)]
      simp [Disposition.on, Moment.flags, Moment.stops, Moment.resizes, Moment.ticks,
        Signal.terminates]
  | resize =>
      rw [hlistened _ .noteResize (by decide)]
      simp [Disposition.on, Moment.flags, Moment.stops, Moment.resizes, Moment.ticks,
        Signal.terminates]
  | alarm =>
      rw [hlistened _ .noteTick (by decide)]
      simp [Disposition.on, Moment.flags, Moment.stops, Moment.resizes, Moment.ticks,
        Signal.terminates]
  | other name =>
      have hother := h.others name
      cases hd : v.handlers (.other name) with
      | loop handler => exact absurd hd (hother handler)
      | named text | unknown =>
          simp [Disposition.on, Moment.flags, Moment.stops, Moment.resizes, Moment.ticks,
            Signal.terminates]

/-- **The flags tell what arrived**: whether any signal told the loop to end, whether the terminal was
    resized, and whether the timer fired, however often. -/
theorem flags_on (h : v.Listens) (m : Moment) : (m.on v).flags = m.flags v.flags := by
  have hsignals : ∀ (signals : List Signal) (f : Flags),
      signals.foldl (fun f s => (v.handlers s).on f) f = Moment.flags { signals } f := by
    intro signals
    induction signals with
    | nil => intro f; simp [Moment.flags, Moment.stops, Moment.resizes, Moment.ticks]
    | cons s signals ih =>
        intro f
        rw [List.foldl_cons, ih, h.on_handlers]
        simp [Moment.flags, Moment.stops, Moment.resizes, Moment.ticks, Bool.and_assoc, Bool.or_assoc]
  unfold Moment.on
  dsimp only
  rw [hsignals]
  by_cases hstopped : m.stopped
  · simp [hstopped, Moment.flags, Moment.stops, Moment.resizes, Moment.ticks]
  · simp [hstopped, Moment.flags, Moment.stops, Moment.resizes, Moment.ticks]

theorem on (h : v.Listens) (m : Moment) : (m.on v).Listens := ⟨h.listened, h.others⟩

theorem mark (h : v.Listens) (c : Call) : (v.mark c).Listens := ⟨h.listened, h.others⟩

end View.Listens

/-! ## Stages -/

/-- The stage ends as the moment says, and does nothing else that the loop or its observer see. -/
structure Shows (act : Act Unit) (w : World) (m : Moment) : Prop where
  fault : fault? act w = m.fault
  view : (act.after w).view = m.on w.view

/-- A step that always returns and leaves the view shows that nothing happens. -/
theorem shows_nothing {act : Act Unit} {w w' : World} (h : act w = .ok () w')
    (hview : w'.view = w.view) : Shows act w {} := by
  refine ⟨fault?_eq_none_iff.2 ⟨(), w', h⟩, ?_⟩
  rw [after_of_ok h, hview]
  rfl

/-- A stage that shows a moment ends in one of two ways. -/
theorem Shows.ends {act : Act Unit} {w : World} {m : Moment} (h : Shows act w m) :
    Ends act w (fun _ w' => m.fault = none ∧ w' = act.after w ∧ w'.view = m.on w.view)
      fun e w' => m.fault = some e ∧ w' = act.after w ∧ w'.view = m.on w.view := by
  obtain ⟨hfault, hview⟩ := h
  unfold Ends
  cases hresult : act w with
  | ok u w' =>
      rw [after_of_ok hresult] at hview ⊢
      rw [fault?_eq_none_iff.2 ⟨u, w', hresult⟩] at hfault
      exact ⟨hfault.symm, rfl, hview⟩
  | error e w' =>
      rw [after_of_error hresult] at hview ⊢
      rw [fault?_eq_some_iff.2 ⟨w', hresult⟩] at hfault
      exact ⟨hfault.symm, rfl, hview⟩

/-- Running a signal's handler. -/
theorem deliver_apply (s : Signal) (w : World) :
    deliver s w = .ok () { w with flags := (w.host.handlers s).on w.flags } := by
  unfold deliver
  rw [bind_of_ok (get_apply w)]
  unfold Disposition.on
  cases w.host.handlers s with
  | loop handler => cases handler <;> rfl
  | named name => rfl
  | unknown => rfl

/-- Playing the events of a moment shows it. -/
theorem shows_events (m : Moment) (w : World) : Shows (m.events.forM play) w m := by
  have hsignals : ∀ (signals : List Signal) (rest : List Event) (w : World),
      (signals.map Event.signal ++ rest).forM play w = rest.forM play { w with
        flags := signals.foldl (fun f s => (w.host.handlers s).on f) w.flags } := by
    intro signals rest
    induction signals with
    | nil => exact fun w => rfl
    | cons s signals ih =>
        intro w
        show (deliver s >>= fun _ => (signals.map Event.signal ++ rest).forM play) w = _
        rw [bind_of_ok (deliver_apply s w), ih]
        rfl
  have hplayed := hsignals m.signals ((if m.stopped then [Event.stop] else []) ++
    m.fault.toList.map Event.fault) w
  rw [← List.append_assoc] at hplayed
  -- What is left to play is at most a stop and then a fault.
  constructor
  · unfold fault? Moment.events
    rw [hplayed]
    cases m.stopped <;> cases m.fault <;> rfl
  · unfold Act.after Moment.events Moment.on
    rw [hplayed]
    cases m.stopped <;> cases m.fault <;> rfl

/-- **Every moment can happen while a transport waits.** -/
theorem shows_await {m : Moment} {rest : List (List Event)} {w : World}
    (hscript : w.host.script = m.events :: rest) : Shows await w m := by
  let w₁ : World := { w with host := { w.host with script := rest } }
  have hnext : nextEvents w = .ok m.events w₁ := by
    unfold nextEvents
    rw [bind_of_ok (get_apply w), hscript]
    rfl
  have hawait : await w = m.events.forM play w₁ := by
    unfold await
    rw [bind_of_ok hnext]
  obtain ⟨hfault, hview⟩ := shows_events m w₁
  constructor
  · unfold fault? at hfault ⊢
    rw [hawait]
    exact hfault
  · unfold Act.after at hview ⊢
    rw [hawait]
    exact hview

/-! ## Marks -/

/-- The transport with a mark left in front of each stage. -/
def Transport.noted (t : Transport) : Transport where
  start := do
    call (.stage "init" none)
    t.start
  step := do
    call (.stage "step" none)
    t.step
  close := do
    call (.stage "close" none)
    t.close

/-- The display with a mark left in front of each stage that the loop drives. -/
def Display.noted (d : Display) : Display where
  redraw resized := do
    call (.stage "redraw" (some resized))
    d.redraw resized
  tick := do
    call (.stage "show" none)
    d.tick
  close := d.close

/-- What the display shows does not fail, and is nothing to the loop. -/
structure Display.Quiet (d : Display) : Prop where
  redraw : ∀ resized w, Shows (d.redraw resized) w {}
  tick : ∀ w, Shows d.tick w {}

/-- The world with one more call in its trace. -/
def World.mark (w : World) (c : Call) : World := { w with host := w.host.record c }

/-- A mark in the trace shows in the view. -/
theorem World.view_mark {c : Call} (hc : c.isMark = true) (w : World) :
    (w.mark c).view = w.view.mark c := by
  simp [World.view, World.mark, View.mark, Host.record, hc]

/-- Logging leaves the view. -/
theorem World.view_log (level : Level) (message : String) (w : World) :
    World.view { w with host := w.host.log level message } = w.view := by
  have hpart : ∀ h : Host, ((h.log level message).handlers,
      (h.log level message).trace.toList.filter Call.isMark) =
        (h.handlers, h.trace.toList.filter Call.isMark) := by
    refine fun h => Host.log_leaves (fun h => (h.handlers, h.trace.toList.filter Call.isMark))
      (fun _ _ => rfl) ?_ h level message
    intro h r sink
    cases sink with
    | standardError | region => rfl
    | systemLog | file => simp [Host.deliver, Host.record, Call.isMark]
  obtain ⟨hhandlers, hcalls⟩ := Prod.mk.inj (hpart w.host)
  unfold World.view
  rw [hhandlers, hcalls]

/-! ## Handlers -/

namespace Signals

/-- Saving the handler in force for a signal, unless one is saved already, and putting one of the
    loop's in its place. -/
theorem saveAndSet_apply (s : Signal) (handler : Handler) (w : World) :
    (do
      save s
      setHandler s (.loop handler)) w = .ok () { w with
        host := (w.host.record (.setHandler s (.loop handler))).setHandler s (.loop handler)
        signals := { w.signals with
          saved := w.signals.saved ++
            if w.signals.saved.any (·.1 = s) then [] else [(s, w.host.handlers s)] } } := by
  unfold save
  rw [bind_assoc, bind_of_ok (get_apply w)]
  dsimp only
  split
  · rw [List.append_nil]
    rfl
  · rfl

/-- Installing handlers, no two of them for one signal, leaves the handlers of all other signals. -/
theorem forM_saveAndSet (ps : List (Signal × Handler)) (hps : (ps.map (·.1)).Nodup) (w : World) :
    ∃ w', (ps.forM fun (s, handler) => do
      save s
      setHandler s (.loop handler)) w = .ok () w' ∧
        (∀ p ∈ ps, w'.host.handlers p.1 = .loop p.2) ∧
        ∀ s, s ∉ ps.map (·.1) → w'.host.handlers s = w.host.handlers s := by
  induction ps generalizing w with
  | nil => exact ⟨w, rfl, by simp, fun _ _ => rfl⟩
  | cons p ps ih =>
      rw [List.map_cons, List.nodup_cons] at hps
      obtain ⟨hnew, hrest⟩ := hps
      obtain ⟨w₂, hall, hin, hout⟩ := ih hrest _
      refine ⟨w₂, (bind_of_ok (saveAndSet_apply p.1 p.2 w)).trans hall, ?_, ?_⟩
      · intro q hq
        rcases List.mem_cons.1 hq with rfl | hq
        · rw [hout q.1 hnew]
          exact if_pos rfl
        · exact hin q hq
      · intro s hs
        rw [List.map_cons, List.mem_cons, not_or] at hs
        obtain ⟨hne, hs⟩ := hs
        rw [hout s hs]
        exact if_neg hne

/-- **The loop listens once its handlers were installed.** -/
theorem listens_install {w : World} (hothers : ∀ name h, w.host.handlers (.other name) ≠ .loop h) :
    ∃ w', install w = .ok () w' ∧ w'.view.Listens := by
  obtain ⟨w', hinstall, hin, hout⟩ := forM_saveAndSet listened (by decide) w
  refine ⟨w', hinstall, hin, fun name h => ?_⟩
  show w'.host.handlers (.other name) ≠ .loop h
  rw [hout (.other name) (by simp [listened])]
  exact hothers name h

end Signals

/-! ## Opening -/

/-- The event tells the loop to end. -/
def Event.endsLoop : Event → Bool
  | .signal s => s.terminates
  | .stop => true
  | _ => false

/-- **An event of a loop that listens** ends it, or leaves it running as it was. -/
theorem running_play {e : Event} {w w' : World} {u : Unit} (h : w.view.Listens)
    (hplay : play e w = .ok u w') :
    w'.flags.running = (w.flags.running && !e.endsLoop) ∧ w'.view.Listens := by
  have hdelivered : ∀ (s : Signal) (w₁ : World), w₁.view.Listens → deliver s w₁ = .ok u w' →
      w'.flags.running = (w₁.flags.running && !s.terminates) ∧ w'.view.Listens := by
    intro s w₁ h₁ hdeliver
    rw [deliver_apply] at hdeliver
    cases hdeliver
    refine ⟨?_, h₁.listened, h₁.others⟩
    show ((w₁.host.handlers s).on w₁.flags).running = _
    rw [show (w₁.host.handlers s).on w₁.flags = _ from h₁.on_handlers s w₁.flags]
    simp [Moment.flags, Moment.stops]
  cases e with
  | signal s => exact hdelivered s w h hplay
  | resize columns lines =>
      have hlistens : View.Listens (World.view { w with
          host := { w.host with terminal := some (columns, lines) } }) := ⟨h.listened, h.others⟩
      obtain ⟨hrunning, hw'⟩ := hdelivered .resize _ hlistens hplay
      exact ⟨hrunning, hw'⟩
  | fault f => cases hplay
  | clock | datagram | refusal | tick | resized =>
      cases hplay
      exact ⟨(Bool.and_true _).symm, h.listened, h.others⟩
  | stop =>
      cases hplay
      exact ⟨(Bool.and_false _).symm, h.listened, h.others⟩

/-- **A loop runs after its transport was opened** unless something told it to end meanwhile. -/
theorem running_attend {w w' : World} {u : Unit} (h : w.view.Listens)
    (hattend : attend w = .ok u w') :
    w'.flags.running = (w.flags.running && !w.host.opening.any Event.endsLoop) := by
  have hplayed : w.host.opening.forM play w = .ok u w' := hattend
  clear hattend
  generalize w.host.opening = events at hplayed
  -- The events are played in the worlds that those in front of them leave.
  induction events generalizing w with
  | nil =>
      cases hplayed
      exact (Bool.and_true _).symm
  | cons e events ih =>
      obtain ⟨_, w₁, hplay, hrest⟩ :=
        bind_eq_ok.1 (hplayed : (play e >>= fun _ => events.forM play) w = .ok u w')
      obtain ⟨hrunning, hlistens⟩ := running_play h hplay
      rw [ih hlistens hrest, hrunning, List.any_cons, Bool.not_or, Bool.and_assoc]

end Multicast
