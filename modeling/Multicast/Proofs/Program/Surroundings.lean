import Multicast.Proofs.Dashboard.Frame
import Multicast.Proofs.Loop.Frame
import Multicast.Proofs.Program.Frame
import Multicast.Proofs.Terminal.Frame

/-!
# `Proofs.Program.Surroundings` — entering and leaving what the loop runs in

The loop runs in the user's locale, with the display open and the signal handlers installed, and all
of it is given back behind it. None of this has to do with the sessions or with the sockets: it is
made of a few basic steps, and a frame that these keep is kept from the settings to the loop and from
the loop to the report.

## Contents
- **Basic steps.** `Frame.Surrounding`, which the opening and closing of the display and the handlers
  are made of.
- **Display and handlers.** `Signals.keeps_install` and `Signals.keeps_restore`; `keeps_openDisplay`,
  `keeps_closeDisplay` and `keeps_display`, with `IsDisplay`, the displays of a run
  (`gives_openDisplay`).
- **Loop.** `keeps_inUserLocale` and `keeps_loop`.
- **Launch.** `keeps_launch` and `gives_launch`, for what is done between the checks and the loop.
-/

namespace Multicast

open Act

/-! ## Basic steps -/

/-- The calls that open a screen and give it back, and those that set handlers. -/
def Call.isStaging : Call → Bool
  | .startTerminal | .keypad | .startColor | .defaultColors | .finishTerminal | .setHandler _ _ => true
  | _ => false

/-- A frame is kept by the steps that the display and the signal handlers are opened and given back
    with. -/
structure Frame.Surrounding (F : Frame) : Prop where
  launching : F.Launching
  operating : F.Operating
  call : ∀ c, c.isStaging = true → Keeps F (call c)
  unset : Keeps F (Act.call (.setTimer (.ofNat 0) (.ofNat 0)))
  terminal : ∀ w terminal, F.rel w { w with terminal }
  dashboard : ∀ w dashboard, F.rel w { w with dashboard }
  progress : ∀ w progress, F.rel w { w with progress }
  signals : ∀ w signals, F.rel w { w with signals }
  handlers : ∀ w handlers, F.rel w { w with host := { w.host with handlers } }

variable {F : Frame}

/-! ## Display and handlers -/

namespace Signals

theorem keeps_setHandler (h : F.Surrounding) (s : Signal) (d : Disposition) :
    Keeps F (setHandler s d) :=
  keeps_bind (h.call _ rfl) fun _ w => h.handlers w _

/-- **Installing the handlers.** -/
theorem keeps_install (h : F.Surrounding) : Keeps F install := by
  refine keeps_forM fun p _ => keeps_bind ?_ fun _ => keeps_setHandler h _ _
  unfold save
  refine keeps_get_bind fun w => ?_
  dsimp only
  split
  · exact F.refl w
  · exact h.signals w _

/-- **Putting the handlers back.** -/
theorem keeps_restore (h : F.Surrounding) : Keeps F restore := by
  unfold restore
  refine keeps_bind (keeps_stopTimer h.unset fun w => h.signals w _) fun _ => ?_
  refine keeps_bind keeps_get fun w => ?_
  exact keeps_bind (keeps_forM fun p _ => keeps_setHandler h _ _) fun _ w' => h.signals w' _

end Signals

namespace Terminal

theorem keeps_start (h : F.Surrounding) : Keeps F start := by
  have hoperate : ∀ kind {c : Call}, c.isStaging = true → Keeps F (operate kind c) :=
    fun kind _ hc => keeps_attempt (h.call _ hc) (h.operating.check kind)
  unfold start
  refine keeps_bind keeps_get fun w => ?_
  split
  · exact keeps_pure ()
  · refine keeps_bind (hoperate _ rfl) fun _ => keeps_bind (fun w' => h.terminal w' _) fun _ => ?_
    refine keeps_bind (hoperate _ rfl) fun _ => keeps_tolerant ?_
    exact keeps_bind (hoperate _ rfl) fun _ => hoperate _ rfl

end Terminal

namespace Program

/-- The displays of a run. -/
def IsDisplay (display : Display) : Prop :=
  display = Dashboard.display .terminal ∨ display = Progress.display

/-- **Opening the display.** -/
theorem keeps_openDisplay (h : F.Surrounding) (s : Settings) (full logged : Bool) :
    Keeps F (openDisplay s full logged) := by
  unfold openDisplay openScreen
  split
  · refine keeps_bind (fun w => h.terminal w _) fun _ => ?_
    refine keeps_bind (Terminal.keeps_querySize h.operating) fun size => ?_
    refine keeps_bind (Terminal.keeps_start h) fun _ => ?_
    exact keeps_bind (fun w => h.dashboard w _) fun _ => keeps_pure _
  · exact keeps_bind (fun w => h.progress w _) fun _ => keeps_pure _

/-- The display that a run opens is the full screen or the plain output. -/
theorem gives_openDisplay (s : Settings) (full logged : Bool) :
    Gives IsDisplay (openDisplay s full logged) := by
  unfold openDisplay openScreen
  split
  · refine gives_bind fun _ => gives_bind fun size => gives_bind fun _ => gives_bind fun _ => ?_
    exact gives_pure (Or.inl rfl)
  · exact gives_bind fun _ => gives_pure (Or.inr rfl)

/-- **Giving the display back.** -/
theorem keeps_closeDisplay (h : F.Surrounding) {display : Display} (hdisplay : IsDisplay display) :
    Keeps F (closeDisplay display) := by
  refine keeps_recover ?_ fun _ => h.launching.log _ _
  rcases hdisplay with rfl | rfl
  · refine Dashboard.keeps_close (fun c hsize => ?_) fun f w => h.dashboard w _
    by_cases hc : c = .cooked
    · rw [hc]
      exact Terminal.keeps_cooked h.operating.toCalling (h.call _ rfl) fun w => h.terminal w _
    · exact Terminal.keeps_perform_of_ne h.operating.toCalling hc hsize
  · exact Progress.keeps_close ⟨h.progress, fun w stdout => h.launching.streams w stdout w.host.stderr⟩

/-- **What a display shows** keeps what drawing on the terminal and the plain output keep. -/
theorem keeps_display {display : Display} (hdisplay : IsDisplay display)
    (hdraw : F.Drawing .terminal) (hmark : F.Marking) :
    (∀ resized, Keeps F (display.redraw resized)) ∧ Keeps F display.tick := by
  rcases hdisplay with rfl | rfl
  · exact ⟨Dashboard.keeps_redraw hdraw, Dashboard.keeps_tick hdraw⟩
  · exact ⟨fun _ => keeps_pure (), Progress.keeps_tick hmark hdraw.age⟩

/-! ## Loop -/

theorem keeps_inUserLocale (h : F.Surrounding) {α : Type} {body : Act α} (hbody : Keeps F body) :
    Keeps F (inUserLocale body) := by
  refine keeps_bind (keeps_setLocale h.launching _) fun _ => keeps_bind keeps_get fun w => ?_
  exact keeps_ensuring (keeps_bind (keeps_setLocale h.launching _) fun _ => hbody)
    (keeps_restoreLocale h.launching _)

/-- **The main loop in its surroundings** keeps what these and a run of it keep. -/
theorem keeps_loop (h : F.Surrounding) {s : Settings} {period : Seconds} {fuel : Nat}
    (hrun : ∀ display, IsDisplay display →
      Keeps F (Loop.run (transportOf s period) display true fuel)) (full logged : Bool) :
    Keeps F (loop s full logged period fuel) := by
  refine keeps_bind_of_gives (keeps_openDisplay h s full logged) (gives_openDisplay s full logged)
    fun display hdisplay => ?_
  refine keeps_bind (Signals.keeps_install h) fun _ => keeps_ensuring ?_ (Signals.keeps_restore h)
  refine keeps_ensuring (keeps_recover ?_ fun e => ?_) (keeps_closeDisplay h hdisplay)
  · exact keeps_bind (hrun display hdisplay) fun _ => keeps_pure true
  · exact keeps_bind (h.launching.log _ _) fun _ => keeps_pure false

/-! ## Launch -/

/-- **All that is done before the loop** keeps what its steps and the wait keep. -/
theorem keeps_launch (h : F.Launching) {s : Settings} (hwait : Keeps F (call (.wait s.wait))) :
    Keeps F (launch s) := by
  have hrest : ∀ (full logged : Bool) (s : Settings), Keeps F (do
      let s ← withInterface s
      if ← raiseLimit then pure (some (s, full, logged)) else pure none) := fun full logged s =>
    keeps_bind (keeps_withInterface h s) fun s' => keeps_bind (keeps_raiseLimit h) fun raised =>
      keeps_ite (keeps_pure _) (keeps_pure _)
  have hlogged : ∀ (full : Bool) (s' : Settings), s'.wait = s.wait → Keeps F (do
      let logged ← setUpLog s' full
      if s'.wait ≠ 0 then submit (.wait s'.wait)
      let s ← withInterface s'
      if ← raiseLimit then pure (some (s, full, logged)) else pure none) := by
    intro full s' hsame
    refine keeps_bind (keeps_setUpLog h s' full) fun logged => ?_
    dsimp only
    split
    · rw [hsame]
      exact keeps_bind (keeps_submit hwait) fun _ => hrest full logged s'
    · exact hrest full logged s'
  unfold launch
  refine keeps_bind keeps_get fun w => ?_
  dsimp only
  split
  · exact keeps_bind (keeps_becomeDaemon h _) fun _ => hlogged _ _ rfl
  · exact hlogged _ _ rfl

/-- Settings that are the same but for the names of the interface and of the log file. -/
def Renamed (s s' : Settings) : Prop := ∃ interface logFile, s' = { s with interface, logFile }

/-- The loop is run with the settings that were checked, but for names. -/
theorem gives_launch (s : Settings) :
    Gives (fun r => ∀ s' full logged, r = some (s', full, logged) → Renamed s s') (launch s) := by
  have hnamed : ∀ s' : Settings, Renamed s s' → Gives (Renamed s) (withInterface s') := by
    rintro _ ⟨interface, logFile, rfl⟩
    unfold withInterface
    split
    · exact gives_pure ⟨interface, logFile, rfl⟩
    · exact gives_bind fun found => gives_bind fun _ => gives_pure ⟨found, logFile, rfl⟩
  have hrest : ∀ (full logged : Bool) (s' : Settings), Renamed s s' →
      Gives (fun r => ∀ s' full logged, r = some (s', full, logged) → Renamed s s') (do
        let s ← withInterface s'
        if ← raiseLimit then pure (some (s, full, logged)) else pure none) := by
    intro full logged s' hs'
    refine (hnamed s' hs').bind fun s'' hs'' => gives_bind fun raised => ?_
    split
    · refine gives_pure fun t _ _ hsome => ?_
      obtain rfl : s'' = t := congrArg Prod.fst (Option.some.inj hsome)
      exact hs''
    · exact gives_pure fun _ _ _ hnone => absurd hnone.symm (Option.some_ne_none _)
  have hlogged : ∀ (full : Bool) (s' : Settings), Renamed s s' →
      Gives (fun r => ∀ s' full logged, r = some (s', full, logged) → Renamed s s') (do
        let logged ← setUpLog s' full
        if s'.wait ≠ 0 then submit (.wait s'.wait)
        let s ← withInterface s'
        if ← raiseLimit then pure (some (s, full, logged)) else pure none) := by
    intro full s' hs'
    refine gives_bind fun logged => ?_
    dsimp only
    split
    · exact gives_bind fun _ => hrest full logged s' hs'
    · exact hrest full logged s' hs'
  unfold launch
  refine gives_bind fun w => ?_
  dsimp only
  split
  · exact gives_bind fun _ => hlogged _ _ ⟨_, _, rfl⟩
  · exact hlogged _ _ ⟨_, _, rfl⟩

end Program

end Multicast
