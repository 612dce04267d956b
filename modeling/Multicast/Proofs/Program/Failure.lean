import Multicast.Proofs.Dashboard.Faults
import Multicast.Proofs.Loop.Faults
import Multicast.Proofs.Program.Domain
import Multicast.Proofs.Program.Surroundings
import Multicast.Proofs.Quantity.Order
import Multicast.Proofs.Terminal.Curtain
import Multicast.Proofs.Transport.Faults

/-!
# `Proofs.Program.Failure` — how a run reports a failure of its transport

The main loop runs in the user's locale, on an open display and with its own signal handlers. If the
transport fails, all of these are given back, and the run ends with status 1, one record of what
failed and one line on standard error. A socket that the system refuses is the exception, and so is a
period that cannot be waited for: these end the run with the system's own fault.

## Contents
- **Around the loop.** `Program.enter`, `Program.noted` and `Program.leave`, with
  `inUserLocale_loop_apply` and `exists_of_inUserLocale_loop`.
- **Entering.** `Program.ends_enter`.
- **Leaving.** `World.Quiet` and `Program.exists_leave`.
- **Running.** `Program.Objects`, a call that does not take the period, with `Program.not_objects` and
  `Program.exists_objection_of_long`; `Program.ends_run_bounded` and `Program.exists_conclude`.
- **Failing.** `Reported`, how a run ends with its loop (`Program.perform_of_run_ok` and its
  siblings), then `Program.exists_run_reported` and `Program.transport_failures_are_reported`.
- **From the options on.** `Program.startable_of_launch`, and `Program.ends_run_of_launch` for a run
  that gets as far as its loop.
-/

namespace Multicast

open Act

variable {w : World}

/-! ## Around the loop -/

/-- What is on record and was written. -/
def World.output (w : World) : Array Record × String × String :=
  (w.host.records, w.host.stdout, w.host.stderr)

/-- Nothing is reported between two worlds, but a row of marks may be ended. -/
structure World.Quiet (w w' : World) : Prop where
  records : w'.host.records = w.host.records
  stderr : w'.host.stderr = w.host.stderr
  stdout : w'.host.stdout = w.host.stdout ∨ w'.host.stdout = w.host.stdout ++ "\n"

theorem World.Quiet.of_output {w' : World} (h : w'.output = w.output) : w.Quiet w' := by
  obtain ⟨hrecords, hstdout, hstderr⟩ : w'.host.records = w.host.records ∧
      w'.host.stdout = w.host.stdout ∧ w'.host.stderr = w.host.stderr := by
    simpa [output] using h
  exact ⟨hrecords, hstderr, Or.inl hstdout⟩

/-- What comes behind and writes nothing changes nothing in that. -/
theorem World.Quiet.of_output_of {w' w'' : World} (h : w.Quiet w') (houtput : w''.output = w'.output) :
    w.Quiet w'' := by
  obtain ⟨hrecords, hstdout, hstderr⟩ : w''.host.records = w'.host.records ∧
      w''.host.stdout = w'.host.stdout ∧ w''.host.stderr = w'.host.stderr := by
    simpa [output] using houtput
  refine ⟨hrecords.trans h.records, hstderr.trans h.stderr, ?_⟩
  rw [hstdout]
  exact h.stdout

namespace Program

/-- Opens what the main loop runs in: the user's locale, the display and the signal handlers. -/
def enter (s : Settings) (full logged : Bool) : Act Display := do
  setLocale none
  setLocale (some "")
  let display ← openDisplay s full logged
  Signals.install
  pure display

/-- The main loop, with a record if the transport fails. -/
def noted (t : Transport) (display : Display) (fuel : Nat) : Act Bool :=
  recover
    (do
      let _ ← Loop.run t display true fuel
      pure true)
    isTransport fun e => do
      log .error e.message
      pure false

/-- Gives back the display, the signal handlers and the locale. -/
def leave (display : Display) (locale : String) : Act Unit := do
  closeDisplay display
  Signals.restore
  restoreLocale locale

/-- **The main loop in its surroundings** is entering them, the loop with its record, and leaving
    them, as long as entering and leaving return. -/
theorem inUserLocale_loop_apply {s : Settings} {full logged : Bool} {period : Seconds} {fuel : Nat}
    {display : Display} {w₁ w₂ : World} (henter : enter s full logged w = .ok display w₁)
    (hleave : leave display w.host.locale ((noted (transportOf s period) display fuel).after w₁) =
      .ok () w₂) :
    inUserLocale (loop s full logged period fuel) w =
      inWorld (noted (transportOf s period) display fuel w₁) w₂ := by
  obtain ⟨_, wa, hasked, henter⟩ := bind_eq_ok.1 henter
  obtain ⟨_, wb, hset, henter⟩ := bind_eq_ok.1 henter
  obtain ⟨d, wc, hopened, henter⟩ := bind_eq_ok.1 henter
  obtain ⟨_, wd, hinstalled, henter⟩ := bind_eq_ok.1 henter
  obtain ⟨rfl, rfl⟩ : d = display ∧ wd = w₁ := by
    injection henter with hd hw
    exact ⟨hd, hw⟩
  obtain ⟨_, we, hclosed, hleave⟩ := bind_eq_ok.1 hleave
  obtain ⟨_, wf, hrestored, hleave⟩ := bind_eq_ok.1 hleave
  -- Asking for the locale leaves it as it is.
  have hlocale : wa.host.locale = w.host.locale := by
    obtain ⟨-, rfl⟩ := attempt_eq_ok_iff.1 hasked
    rfl
  have hshown := ensuring_of_clean hclosed
  have hhandled : ensuring (ensuring (noted (transportOf s period) d fuel) (closeDisplay d))
      Signals.restore wd = inWorld (noted (transportOf s period) d fuel wd) wf := by
    rw [← after_of_inWorld hshown] at hrestored
    rw [ensuring_of_clean hrestored, hshown, inWorld_inWorld]
  have hlooped : loop s full logged period fuel wb =
      inWorld (noted (transportOf s period) d fuel wd) wf := by
    unfold loop Signals.during
    rw [bind_of_ok hopened, bind_of_ok hinstalled]
    exact hhandled
  have hbody : (do setLocale (some ""); loop s full logged period fuel) wa =
      inWorld (noted (transportOf s period) d fuel wd) wf := by
    rw [bind_of_ok hset]
    exact hlooped
  unfold inUserLocale
  rw [bind_of_ok hasked, bind_of_ok (get_apply wa)]
  show ensuring _ (restoreLocale wa.host.locale) wa = _
  rw [← after_of_inWorld hbody] at hleave
  rw [hlocale, ensuring_of_clean hleave, hbody, inWorld_inWorld]

/-- **If the main loop returns from its surroundings**, these were entered and left, and what the loop
    told is what was returned. -/
theorem exists_of_inUserLocale_loop {s : Settings} {full logged : Bool} {period : Seconds}
    {fuel : Nat} {well : Bool} {w' : World}
    (h : inUserLocale (loop s full logged period fuel) w = .ok well w') :
    ∃ display w₁ w₂, enter s full logged w = .ok display w₁ ∧
      noted (transportOf s period) display fuel w₁ = .ok well w₂ ∧
      leave display w.host.locale w₂ = .ok () w' := by
  unfold inUserLocale at h
  obtain ⟨_, wa, hasked, h⟩ := bind_eq_ok.1 h
  rw [bind_of_ok (get_apply wa)] at h
  obtain ⟨we, h, hlocale⟩ := ensuring_eq_ok.1 h
  obtain ⟨_, wb, hset, h⟩ := bind_eq_ok.1 h
  unfold loop Signals.during at h
  obtain ⟨display, wc, hopened, h⟩ := bind_eq_ok.1 h
  obtain ⟨_, w₁, hinstalled, h⟩ := bind_eq_ok.1 h
  obtain ⟨wd, h, hrestored⟩ := ensuring_eq_ok.1 h
  obtain ⟨w₂, hnoted, hclosed⟩ := ensuring_eq_ok.1 h
  have hsame : wa.host.locale = w.host.locale := by
    obtain ⟨-, rfl⟩ := attempt_eq_ok_iff.1 hasked
    rfl
  refine ⟨display, w₁, w₂, ?_, hnoted, ?_⟩
  · unfold enter
    rw [bind_of_ok hasked, bind_of_ok hset, bind_of_ok hopened, bind_of_ok hinstalled]
    rfl
  · unfold leave
    rw [bind_of_ok hclosed, bind_of_ok hrestored, ← hsame]
    exact hlocale

/-- What the loop fails with goes to the record, if it is the transport that failed. -/
theorem noted_of_run_error {t : Transport} {display : Display} {w₁ w₂ : World} {e : Fault} {fuel : Nat}
    (hrun : Loop.run t display true fuel w₁ = .error e w₂) :
    noted t display fuel w₁ =
      if isTransport e then (do log .error e.message; pure false : Act Bool) w₂ else .error e w₂ := by
  have hfailed : (do
      let _ ← Loop.run t display true fuel
      pure true) w₁ = .error e w₂ := bind_eq_error.2 (Or.inl hrun)
  exact recover_of_error hfailed isTransport _

/-! ## Entering -/

/-- Installing the handlers does not fail. -/
theorem failsAs_install {bad : Fault → Prop} : Upholds w bad Signals.install := by
  have hset : ∀ s d, Upholds w bad (Signals.setHandler s d) := by
    intro s d
    refine failsAs_of_upheld_of_returns ?_ fun _ _ => ⟨_, _, rfl⟩
    exact keeps_bind (upheld_call _) fun _ => upheld_modifyHost fun _ => rfl
  unfold Signals.install
  refine failsAs_forM fun p _ => failsAs_bind ?_ fun _ => hset _ _
  unfold Signals.save
  refine failsAs_get_bind fun w₁ h₁ => ?_
  dsimp only
  split
  · exact failsAs_pure ()
  · exact fun _ _ => h₁

/-- A terminal that is spared refuses nothing. -/
theorem smooth_of_spared (h : w.footing.Spared) : w.scene.Smooth := by
  rintro ⟨kind, fault⟩ hp call rfl
  cases h _ hp

/-- Opening the display of a run does not fail. -/
theorem ends_openDisplay (h : w.footing.Spared) (s : Settings) (full logged : Bool) :
    Ends (openDisplay s full logged) w
      (fun display w' => IsDisplay display ∧ w.footing.Upheld w'.footing ∧ w'.flags = w.flags)
      fun _ _ => False := by
  unfold openDisplay
  cases full with
  | false => exact ⟨Or.inr rfl, .refl _, rfl⟩
  | true =>
      have hupheld : Upholds w (fun _ => False) (openScreen s logged) := by
        unfold openScreen
        refine failsAs_bind (Terminal.failsAs_update _) fun _ => ?_
        refine failsAs_bind (Terminal.failsAs_querySize h) fun _ => ?_
        refine failsAs_bind (Terminal.failsAs_start h) fun _ => ?_
        exact failsAs_bind (Dashboard.failsAs_update _) fun _ => failsAs_pure _
      have hends := hupheld w (.refl _)
      obtain ⟨w', hopen, hscene⟩ := exists_openScreen (smooth_of_spared h) s logged
      unfold Ends at hends ⊢
      rw [hopen] at hends
      rw [if_pos rfl, hopen]
      exact ⟨Or.inl rfl, hends, congrArg Scene.flags hscene⟩

/-- Setting the locale does not fail. -/
theorem ends_setLocale (h : w.footing.Spared) (name : Option String) :
    Ends (setLocale name) w (fun _ w' => w.footing.Upheld w'.footing ∧ w'.flags = w.flags)
      fun _ _ => False := by
  have hscene : Backstage (setLocale name) := backstage_attempt rfl
  have hgranted : Upholds w (fun _ => False) (setLocale name) := failsAs_granted h rfl rfl
  refine ((hgranted w (.refl _)).and (ends_of_frame hscene w)).mono ?_ ?_
  · exact fun _ w' h' => ⟨h'.1, congrArg Scene.flags h'.2⟩
  · exact fun _ _ h' => h'.1.1

/-- **Entering the surroundings of the loop** does not fail, and leaves the transport what it starts
    from. -/
theorem ends_enter (h : w.footing.Spared) (s : Settings) (full logged : Bool) :
    Ends (enter s full logged) w
      (fun display w' => IsDisplay display ∧ w.footing.Upheld w'.footing ∧ w'.flags = w.flags)
      fun _ _ => False := by
  unfold enter
  refine (ends_setLocale h none).bind ?_
  rintro _ w₁ ⟨h₁, hflags₁⟩
  refine (ends_setLocale (h.grounded h₁.toGrounded) _).bind ?_
  rintro _ w₂ ⟨h₂, hflags₂⟩
  have hspared := h.grounded (h₁.trans h₂).toGrounded
  refine (ends_openDisplay hspared s full logged).bind ?_
  rintro display w₃ ⟨hdisplay, h₃, hflags₃⟩
  refine ends_bind (((failsAs_install w₃ (.refl _)).and
    (ends_of_frame Signals.unheard_install w₃)).mono ?_ fun _ _ h => h.1.1)
  rintro _ w₄ ⟨h₄, hscene₄⟩
  have hflags₄ : w₄.flags = w₃.flags := congrArg Scene.flags hscene₄
  refine ⟨hdisplay, ((h₁.trans h₂).trans h₃).trans h₄, ?_⟩
  rw [hflags₄, hflags₃, hflags₂, hflags₁]

/-! ## Leaving -/

theorem calling_output : (Frame.of World.output).Calling where
  call _ _ _ := rfl
  check kind w := by
    rw [after_check]
    rfl

/-- Closing the display of a run does not fail, and reports nothing. -/
theorem ends_closeDisplay {display : Display} (hdisplay : IsDisplay display) (h : w.footing.Spared) :
    Ends (closeDisplay display) w (fun _ w' => w.footing.Upheld w'.footing ∧ w.Quiet w')
      fun _ _ => False := by
  have hclosed : Ends display.close w (fun _ w' => w.footing.Upheld w'.footing ∧ w.Quiet w')
      fun _ _ => False := by
    rcases hdisplay with rfl | rfl
    · have hsilent : Keeps (.of World.output) (Dashboard.close .terminal) := by
        refine Dashboard.keeps_close (fun c hsize => ?_) fun _ _ => rfl
        by_cases hcooked : c = .cooked
        · rw [hcooked]
          exact Terminal.keeps_cooked calling_output (fun _ => rfl) fun _ => rfl
        · exact Terminal.keeps_perform_of_ne calling_output hcooked hsize
      have hcloses : Upholds w (fun _ => False) (Dashboard.close .terminal) :=
        Dashboard.failsAs_close h
      refine ((hcloses w (.refl _)).and (ends_of_frame hsilent w)).mono ?_ ?_
      · exact fun _ w' h' => ⟨h'.1, .of_output h'.2⟩
      · exact fun _ _ h' => h'.1.1
    · show Ends Progress.close w _ _
      unfold Ends
      rw [Progress.close_apply]
      dsimp only
      split
      · exact ⟨.refl _, rfl, rfl, Or.inr rfl⟩
      · exact ⟨.refl _, rfl, rfl, Or.inl rfl⟩
  exact ends_recover (hclosed.mono (fun _ _ h' => h') fun _ _ h' => h'.elim)

/-- Putting the signal handlers back does not fail, and reports nothing. -/
theorem ends_restore_quiet :
    Ends Signals.restore w (fun _ w' => w.footing.Upheld w'.footing ∧ w'.output = w.output)
      fun _ _ => False := by
  have hstop : FailsAs (fun w' => w.footing.Upheld w'.footing ∧ w'.output = w.output) (fun _ => False)
      Signals.stopTimer := by
    intro w₁ h₁
    unfold Ends
    rw [Signals.stopTimer_apply]
    dsimp only
    split
    · exact h₁
    · exact h₁
  have hset : ∀ s d, FailsAs (fun w' => w.footing.Upheld w'.footing ∧ w'.output = w.output)
      (fun _ => False) (Signals.setHandler s d) := fun s d _ h₁ => h₁
  have hrestores : FailsAs (fun w' => w.footing.Upheld w'.footing ∧ w'.output = w.output)
      (fun _ => False) Signals.restore := by
    unfold Signals.restore
    refine failsAs_bind hstop fun _ => failsAs_get_bind fun w₁ _ => ?_
    exact failsAs_bind (failsAs_forM fun p _ => hset _ _) fun _ => fun _ h₂ => h₂
  exact (hrestores w ⟨.refl _, rfl⟩).mono (fun _ _ h => h) fun _ _ h => h.1

/-- Putting the locale back does not fail, and reports nothing. -/
theorem ends_restoreLocale (h : w.footing.Spared) (locale : String) :
    Ends (restoreLocale locale) w (fun _ w' => w'.output = w.output) fun _ _ => False := by
  have hsilent : Keeps (.of World.output) (setLocale (some locale)) :=
    keeps_attempt (fun _ => rfl) fun w => by rw [after_check]; rfl
  refine ends_recover (((ends_setLocale h _).and (ends_of_frame hsilent w)).mono ?_ ?_)
  · exact fun _ _ h' => h'.2
  · exact fun _ _ h' => h'.1.elim

/-- **Leaving the surroundings of the loop** does not fail, and reports nothing. -/
theorem exists_leave {display : Display} (hdisplay : IsDisplay display) (h : w.footing.Spared)
    (locale : String) : ∃ w', leave display locale w = .ok () w' ∧ w.Quiet w' := by
  have hends : Ends (leave display locale) w (fun _ w' => w.Quiet w') fun _ _ => False := by
    unfold leave
    refine (ends_closeDisplay hdisplay h).bind ?_
    rintro _ w₁ ⟨h₁, hquiet⟩
    refine ends_restore_quiet.bind ?_
    rintro _ w₂ ⟨h₂, houtput₂⟩
    have hspared := h.grounded (h₁.trans h₂).toGrounded
    refine (ends_restoreLocale hspared locale).mono ?_ fun _ _ h => h
    exact fun _ w₃ houtput₃ => (hquiet.of_output_of houtput₂).of_output_of houtput₃
  obtain ⟨_, w', hleave, hquiet⟩ := hends.exists_ok
  exact ⟨w', hleave, hquiet⟩

/-! ## Running -/

/-- A run of the loop changes nothing but the sockets of what it stands on. -/
theorem grounded_run {display : Display} (hdisplay : IsDisplay display) (s : Settings)
    (period : Seconds) (fuel : Nat) :
    Keeps .grounded (Loop.run (transportOf s period) display true fuel) := by
  have hattend : Keeps .grounded attend := grounded_of_upheld stepping_upheld.attend
  obtain ⟨hstart, hclose⟩ := keeps_transport opening_grounded hattend s period
  have hstep := grounded_of_upheld (keeps_transport_step stepping_upheld s period)
  have hshown := keeps_display hdisplay drawing_upheld marking_upheld
  exact Loop.keeps_run (fun w _ _ _ _ => Footing.Grounded.refl w.footing)
    (fun level message => grounded_of_upheld (upheld_log level message))
    (fun resized => grounded_of_upheld (hshown.1 resized)) (grounded_of_upheld hshown.2) hstart hstep
    hclose (grounded_of_upheld Signals.upheld_startTimer) (grounded_of_upheld Signals.upheld_stopTimer)
    true fuel

/-- The call that a step of the transport waits with. -/
def waitCall (s : Settings) (pause : Quantity) : Call := if s.join then .select pause else .pause pause

/-- A call of the main loop objects to the period: the one that a step waits with, or the timer. -/
def Objects (s : Settings) (pause : Quantity) (e : Fault) : Prop :=
  (waitCall s pause).objection? = some e ∨ (Call.setTimer (.ofNat 1) pause).objection? = some e

/-- No call objects to a period below `2 ^ 31` milliseconds. -/
theorem not_objects {s : Settings} {pause : Quantity}
    (hperiod : Seconds.ofMillis? s.period = some (.span pause)) (hlow : 0 ≤ s.period)
    (hhigh : s.period < 2 ^ 31) (e : Fault) : ¬Objects s pause e := by
  obtain ⟨hselect, hpause, htimer⟩ := Seconds.calls_take_period hlow hhigh hperiod
  rintro (hwait | hset)
  · have hnone : (waitCall s pause).objection? = none := by
      unfold waitCall
      split
      · exact hselect
      · exact hpause
    rw [hnone] at hwait
    cases hwait
  · rw [htimer] at hset
    cases hset

/-- A receiver cannot wait for any other period. -/
theorem exists_objection_of_long {s : Settings} {pause : Quantity}
    (hperiod : Seconds.ofMillis? s.period = some (.span pause)) (hjoin : s.join = true)
    (hlong : 2 ^ 31 ≤ s.period) : ∃ e, (waitCall s pause).objection? = some e := by
  have hselect : ¬(Call.select pause).objection? = none := by
    rw [Seconds.select_takes_period_iff (le_trans (by decide) hlong) hperiod]
    exact Int.not_lt.2 hlong
  unfold waitCall
  rw [hjoin, if_pos rfl]
  exact Option.ne_none_iff_exists'.1 hselect

/-- **The transport of a run fails to start** only as the transport, or for want of a socket. -/
theorem ends_start_firm {s : Settings} (h : Startable s.join w)
    (hhops : s.join = false → fitsSigned 32 s.ttl = true) (period : Seconds) :
    Ends (transportOf s period).start w (fun _ w' => w'.footing.Firm s.join)
      fun e _ => w.footing.Admits e := by
  have hrole : Ends (roleOf s period).start w (fun _ w' => w'.footing.Firm s.join)
      fun e _ => w.footing.Admits e := by
    unfold roleOf
    cases hjoin : s.join with
    | true =>
        rw [hjoin] at h
        exact Receiver.ends_start_firm _ h
    | false =>
        rw [hjoin] at h
        exact Sender.ends_start_firm (hhops hjoin) h
  refine hrole.bind fun _ w₁ hfirm => ?_
  refine (failsAs_attend hfirm.toSound w₁ (.refl _)).mono ?_ fun _ _ h => h.1.elim
  exact fun _ w' h' => hfirm.upheld h'

/-- **Its steps fail** only as the transport, or by the period. -/
theorem ends_step_firm {s : Settings} (h : w.footing.Firm s.join) (pause : Quantity) :
    Ends (transportOf s (.span pause)).step w (fun _ w' => w.footing.Upheld w'.footing)
      fun e w' => (e.OfTransport ∨ (waitCall s pause).objection? = some e) ∧
        w.footing.Upheld w'.footing := by
  show Ends (roleOf s (.span pause)).step w _ _
  have hlimit : (0 : Int) ≤ Packet.maxSize ∧ Packet.maxSize < (2 ^ 63 : Int) := by decide
  unfold roleOf waitCall
  cases hjoin : s.join with
  | true =>
      rw [hjoin] at h
      exact Receiver.ends_step_firm hlimit rfl h
  | false =>
      rw [hjoin] at h
      exact Sender.failsAs_step rfl h w (.refl _)

/-- A step whose wait is out of range fails with just that. -/
theorem outcome_step_of_objection {s : Settings} {pause : Quantity} {e : Fault}
    (hstrict : w.host.strict = true) (h : (waitCall s pause).objection? = some e) :
    e.OfRange ∧ (transportOf s (.span pause)).step.outcome w = .error e := by
  have hobjection : ∀ c : Call, c.objection? = some e → w.host.objection? c = some e := by
    intro c hc
    unfold Host.objection?
    rw [hstrict, if_pos rfl, hc]
  show _ ∧ (roleOf s (.span pause)).step.outcome w = _
  unfold roleOf
  unfold waitCall at h
  cases hjoin : s.join with
  | true =>
      rw [hjoin, if_pos rfl] at h
      exact ⟨Call.ofRange_of_select h,
        outcome_of_error (Receiver.step_of_objection rfl (hobjection _ h))⟩
  | false =>
      rw [hjoin, if_neg Bool.false_ne_true] at h
      exact ⟨Call.ofRange_of_pause h,
        outcome_of_error (Sender.step_of_objection rfl (hobjection _ h))⟩

theorem exists_close_transport (s : Settings) (period : Seconds) (w : World) :
    ∃ w', (transportOf s period).close w = .ok () w' := by
  show ∃ w', (roleOf s period).close w = .ok () w'
  unfold roleOf
  split
  · exact Receiver.exists_close w
  · exact Sender.exists_close w

/-- What upholds the footing keeps the transport open, and what is spared is still spared. -/
theorem failsAs_firm {α : Type} {act : Act α} {join : Bool} {bad bad' : Fault → Prop}
    (hbad : ∀ e, bad' e → bad e) (hact : ∀ w₁ : World, w₁.footing.Firm join → w₁.footing.Spared →
      Ends act w₁ (fun _ w' => w₁.footing.Upheld w'.footing)
        fun e w' => bad' e ∧ w₁.footing.Upheld w'.footing) :
    FailsAs (fun w' => w'.footing.Firm join ∧ w'.footing.Spared) bad act := by
  rintro w₁ ⟨hfirm, hspared⟩
  refine (hact w₁ hfirm hspared).mono ?_ ?_
  · exact fun _ w' h' => ⟨hfirm.upheld h', hspared.grounded h'.toGrounded⟩
  · exact fun e w' h' => ⟨hbad e h'.1, hfirm.upheld h'.2, hspared.grounded h'.2.toGrounded⟩

/-- Opening the transport and starting the timer fails as the former does, or by the period. -/
theorem ends_open_firm {s : Settings} {pause : Quantity} (h : Startable s.join w)
    (hhops : s.join = false → fitsSigned 32 s.ttl = true) (hspared : w.footing.Spared)
    (hflags : w.flags = { period := .span pause }) :
    Ends ((transportOf s (.span pause)).start >>= fun _ => Loop.arm true) w
      (fun _ w' => w'.footing.Firm s.join ∧ w'.footing.Spared)
      fun e _ => w.footing.Admits e ∨ Objects s pause e := by
  have hattend : Keeps .grounded attend := grounded_of_upheld stepping_upheld.attend
  have hground := (keeps_transport opening_grounded hattend s (.span pause)).1
  have hunflagged : Keeps (.of fun w => w.scene.unflagged) (transportOf s (.span pause)).start :=
    keeps_bind ((keeps_role opening_scene s (.span pause)).1.mono
      fun _ _ hscene => congrArg Scene.unflagged hscene) fun _ => waiting_unflagged.attend
  refine ends_bind ((((ends_start_firm h hhops (.span pause)).and (ends_of_frame hground w)).and
    (ends_of_frame hunflagged w)).mono ?_ fun _ _ h => Or.inl h.1.1)
  rintro _ w₁ ⟨⟨hfirm, h₁⟩, hscene₁⟩
  -- The handlers have not touched the spans of the timer.
  have hflags₁ : w₁.flags.settle = .span (.ofNat 1) ∧ w₁.flags.period = .span pause := by
    have hspans := congrArg (fun scene => (scene.flags.settle, scene.flags.period)) hscene₁
    have hbefore : (w.flags.settle, w.flags.period) = (.span (.ofNat 1), .span pause) := by
      rw [hflags]
      rfl
    exact Prod.mk.inj (hspans.trans hbefore)
  have hkept := Signals.upheld_startTimer w₁
  show Ends Signals.startTimer w₁ _ _
  unfold Ends
  cases hobjection : w₁.host.objection? (.setTimer (.ofNat 1) pause) with
  | none =>
      have harmed := (Signals.startTimer_apply hflags₁.1 hflags₁.2 hobjection).trans (log_apply _ _ _)
      rw [after_of_ok harmed] at hkept
      rw [harmed]
      exact ⟨hfirm.upheld hkept, (hspared.grounded h₁).grounded hkept.toGrounded⟩
  | some e =>
      rw [Signals.startTimer_of_objection hflags₁.1 hflags₁.2 hobjection]
      exact Or.inr (Or.inr (objection_of_host hobjection))

/-- **The main loop of a run fails** as its transport does, for want of a socket, by the period, or
    because there is no date or no room to draw. -/
theorem ends_run_bounded {display : Display} (hdisplay : IsDisplay display) {s : Settings}
    {pause : Quantity} (h : Startable s.join w) (hhops : s.join = false → fitsSigned 32 s.ttl = true)
    (hspared : w.footing.Spared) (hflags : w.flags = { period := .span pause }) (fuel : Nat) :
    Ends (Loop.run (transportOf s (.span pause)) display true fuel) w (fun _ _ => True)
      fun e _ => (w.footing.Admits e ∨ Objects s pause e) ∨ e.Undrawable := by
  have hshown : (∀ resized (w₁ : World), w₁.footing.Spared →
        Upholds w₁ Fault.Undrawable (display.redraw resized)) ∧
      ∀ w₁ : World, w₁.footing.Spared → Upholds w₁ Fault.Undrawable display.tick := by
    rcases hdisplay with rfl | rfl
    · exact ⟨fun resized w₁ h₁ => Dashboard.failsAs_redraw h₁ resized,
        fun w₁ h₁ => Dashboard.failsAs_tick h₁⟩
    · exact ⟨fun _ _ _ => failsAs_pure (), fun _ _ => Progress.failsAs_tick⟩
  have hopened : Ends ((transportOf s (.span pause)).start >>= fun _ => Loop.arm true) w
      (fun _ w' => w'.footing.Firm s.join ∧ w'.footing.Spared)
      fun e _ => (w.footing.Admits e ∨ Objects s pause e) ∨ e.Undrawable :=
    (ends_open_firm h hhops hspared hflags).mono (fun _ _ h => h) fun _ _ hfailed => Or.inl hfailed
  refine Loop.ends_run_bounded hopened (fun _ _ _ h => h) ?_ ?_ ?_ (exists_close_transport s _) fuel
  · intro resized
    exact failsAs_firm (fun _ h => Or.inr h) fun w₁ _ h₁ => hshown.1 resized w₁ h₁ w₁ (.refl _)
  · exact failsAs_firm (fun _ h => Or.inr h) fun w₁ _ h₁ => hshown.2 w₁ h₁ w₁ (.refl _)
  · refine failsAs_firm (fun _ hfailed => Or.inl ?_) fun w₁ h₁ _ => ends_step_firm h₁ pause
    exact hfailed.imp (fun h => Or.inl h) fun h => Or.inl h

/-- A run whose loop ended well ends with status 0. -/
theorem exists_conclude (s : Settings) (w : World) :
    ∃ w', conclude s true w = .ok (.status 0) w' := by
  have hpublish : FailsAs (fun _ => True) (fun _ => False) (publish s) := by
    unfold publish
    refine failsAs_get_bind fun w _ => failsAs_forM fun line _ => ?_
    split
    · exact fun _ _ => trivial
    · exact fun _ _ => trivial
  unfold conclude
  rw [Bool.not_true, if_neg Bool.false_ne_true]
  by_cases hjoin : s.join = true
  · rw [if_pos hjoin]
    have hpublished : Ends (publish s) w (fun _ _ => True) fun _ _ => False :=
      (hpublish w trivial).mono (fun _ _ h => h) fun _ _ h => h.1
    obtain ⟨_, w₁, hpublished, -⟩ := hpublished.exists_ok
    rw [bind_of_ok hpublished]
    exact ⟨_, rfl⟩
  · rw [if_neg hjoin]
    exact ⟨_, rfl⟩

/-- What is left of a run once its loop has ended. -/
theorem perform_of_noted {s : Settings} {full logged : Bool} {period : Seconds} {display : Display}
    {w₁ w₂ : World} {r : EStateM.Result Fault World Bool}
    (hperiod : Seconds.ofMillis? s.period = some period)
    (henter : enter s full logged { w with flags := { period } } = .ok display w₁)
    (hnoted : noted (transportOf s period) display (stepsOf w.host) w₁ = inWorld r w₂)
    (hdisplay : IsDisplay display) (hspared : w₂.footing.Spared) :
    ∃ w₃, w₂.Quiet w₃ ∧
      (∀ well w', r = .ok well w' → perform s full logged w = conclude s well w₃) ∧
      ∀ e w', r = .error e w' → perform s full logged w = .error e w₃ := by
  obtain ⟨w₃, hleave, hquiet⟩ := exists_leave hdisplay hspared w.host.locale
  have hlooped := inUserLocale_loop_apply henter (by rw [after_of_inWorld hnoted]; exact hleave)
  rw [hnoted, inWorld_inWorld] at hlooped
  have hperformed := perform_of_span hperiod full logged w
  rw [bind_apply, hlooped] at hperformed
  refine ⟨w₃, hquiet, ?_, ?_⟩
  · rintro well w' rfl
    exact hperformed
  · rintro e w' rfl
    exact hperformed

/-! ## Failing -/

/-- **A failure of the transport is reported** by one record and one line on standard error; nothing
    is written to standard output but the end of a row of marks. -/
structure Reported (t : TransportError) (w w' : World) : Prop where
  records : w'.host.records = w.host.records.push ⟨.error, t.message⟩
  stderr : w'.host.stderr =
    (w.host.log .error t.message).stderr ++ "mcjoin: transport failure, see log\n"
  stdout : w'.host.stdout = w.host.stdout ∨ w'.host.stdout = w.host.stdout ++ "\n"

/-- Logging writes nothing to standard output. -/
theorem stdout_log (h : Host) (level : Level) (message : String) :
    (h.log level message).stdout = h.stdout :=
  Host.log_leaves (·.stdout) (fun _ _ => rfl) (fun _ _ sink => by cases sink <;> rfl) h level message

theorem reported_of_quiet {t : TransportError} {w' : World}
    (h : World.Quiet { w with host := w.host.log .error t.message } w') (s : Settings) :
    ∃ w'', conclude s false w' = .ok failure w'' ∧ Reported t w w'' := by
  refine ⟨_, rfl, ?_, ?_, ?_⟩
  · exact h.records.trans (w.host.records_log .error t.message)
  · exact congrArg (· ++ "mcjoin: transport failure, see log\n") h.stderr
  · have hstdout := h.stdout
    dsimp only at hstdout
    rw [stdout_log] at hstdout
    exact hstdout

section

variable {s : Settings} {full logged : Bool} {period : Seconds} {display : Display} {w₁ w₂ : World}

/-- A run whose loop ends well ends with status 0. -/
theorem perform_of_run_ok {steps : Option Nat} (hperiod : Seconds.ofMillis? s.period = some period)
    (henter : enter s full logged { w with flags := { period } } = .ok display w₁)
    (hdisplay : IsDisplay display) (hspared : w₂.footing.Spared)
    (hrun : Loop.run (transportOf s period) display true (stepsOf w.host) w₁ = .ok steps w₂) :
    ∃ w', perform s full logged w = .ok (.status 0) w' := by
  have hnoted : noted (transportOf s period) display (stepsOf w.host) w₁ = .ok true w₂ :=
    recover_of_ok (by rw [bind_of_ok hrun]; rfl) _ _
  obtain ⟨w₃, -, hwell, -⟩ :=
    perform_of_noted (r := .ok true w₂) hperiod henter hnoted hdisplay hspared
  rw [hwell true w₂ rfl]
  exact exists_conclude s w₃

/-- A run whose loop fails as the transport reports that, and ends with status 1. -/
theorem perform_of_run_transport {t : TransportError}
    (hperiod : Seconds.ofMillis? s.period = some period)
    (henter : enter s full logged { w with flags := { period } } = .ok display w₁)
    (hdisplay : IsDisplay display) (hspared : w₂.footing.Spared)
    (hrun : Loop.run (transportOf s period) display true (stepsOf w.host) w₁ =
      .error (.transport t) w₂) :
    ∃ w', perform s full logged w = .ok failure w' ∧ Reported t w₂ w' := by
  have htransport : isTransport (.transport t) = true := rfl
  have hnoted := noted_of_run_error hrun
  rw [if_pos htransport] at hnoted
  obtain ⟨w₃, hquiet, hfail, -⟩ := perform_of_noted (r := .ok false w₂) hperiod henter hnoted hdisplay
    (hspared.grounded (upheld_log .error t.message w₂).toGrounded)
  obtain ⟨w', hconclude, hreported⟩ := reported_of_quiet hquiet s
  exact ⟨w', (hfail false w₂ rfl).trans hconclude, hreported⟩

/-- Anything else that the loop fails with goes through. -/
theorem perform_of_run_error {e : Fault} (hperiod : Seconds.ofMillis? s.period = some period)
    (henter : enter s full logged { w with flags := { period } } = .ok display w₁)
    (hdisplay : IsDisplay display) (hspared : w₂.footing.Spared) (htransport : ¬ e.OfTransport)
    (hrun : Loop.run (transportOf s period) display true (stepsOf w.host) w₁ = .error e w₂) :
    ∃ w', perform s full logged w = .error e w' := by
  have hother : ¬ isTransport e = true := by
    cases e with
    | transport t => exact absurd ⟨t, rfl⟩ htransport
    | _ => exact Bool.false_ne_true
  have hnoted := noted_of_run_error hrun
  rw [if_neg hother] at hnoted
  obtain ⟨w₃, -, -, hescapes⟩ :=
    perform_of_noted (r := .error e w₂) hperiod henter hnoted hdisplay hspared
  exact ⟨w₃, hescapes e w₂ rfl⟩

end

/-- **If nothing else is refused to a run**, its status is 0 if its loop ends well; a failure of the
    transport is reported with status 1, and only a refused socket goes through, a period out of
    range, or that there is no date or no room to draw. -/
theorem exists_run_reported {s : Settings} {pause : Quantity} (full logged : Bool)
    (hperiod : Seconds.ofMillis? s.period = some (.span pause)) (h : Startable s.join w)
    (hhops : s.join = false → fitsSigned 32 s.ttl = true) (hspared : w.footing.Spared) :
    ∃ display w₁, enter s full logged { w with flags := { period := .span pause } } = .ok display w₁ ∧
      Startable s.join w₁ ∧
      Ends (Loop.run (transportOf s (.span pause)) display true (stepsOf w.host)) w₁
        (fun _ _ => ∃ w', perform s full logged w = .ok (.status 0) w')
        fun e w₂ =>
          (∃ t w', e = .transport t ∧ perform s full logged w = .ok failure w' ∧ Reported t w₂ w') ∨
          ((.openSocket, e) ∈ w.footing.refusals ∨ Objects s pause e ∨ e.Undrawable) ∧
            ∃ w', perform s full logged w = .error e w' := by
  let w₀ : World := { w with flags := { period := .span pause } }
  have hspared₀ : w₀.footing.Spared := hspared
  obtain ⟨display, w₁, henter, hdisplay, h₁, hflags⟩ := (ends_enter hspared₀ s full logged).exists_ok
  have hspared₁ := hspared₀.grounded h₁.toGrounded
  have hready : Startable s.join w₁ := Startable.upheld (w := w) h h₁
  refine ⟨display, w₁, henter, hready, ?_⟩
  have hbounded := ends_run_bounded hdisplay hready hhops hspared₁ hflags (stepsOf w.host)
  have hspared₂ := hspared₁.grounded (grounded_run hdisplay s (.span pause) (stepsOf w.host) w₁)
  unfold Ends at hbounded ⊢
  cases hrun : Loop.run (transportOf s (.span pause)) display true (stepsOf w.host) w₁ with
  | ok steps w₂ =>
      rw [after_of_ok hrun] at hspared₂
      exact perform_of_run_ok hperiod henter hdisplay hspared₂ hrun
  | error e w₂ =>
      rw [after_of_error hrun] at hspared₂
      rw [hrun] at hbounded
      by_cases htransport : e.OfTransport
      · left
        obtain ⟨t, rfl⟩ := htransport
        obtain ⟨w', hperform, hreported⟩ :=
          perform_of_run_transport hperiod henter hdisplay hspared₂ hrun
        exact ⟨t, w', rfl, hperform, hreported⟩
      · right
        refine ⟨?_, perform_of_run_error hperiod henter hdisplay hspared₂ htransport hrun⟩
        have hsame : w₁.footing.refusals = w.footing.refusals := h₁.refusals
        rw [← hsame]
        rcases hbounded with (hadmits | hobjects) | hundrawable
        · exact Or.inl (hadmits.resolve_left htransport)
        · exact Or.inr (Or.inl hobjects)
        · exact Or.inr (Or.inr hundrawable)

/-- **Whatever the system refuses to a transport is a failure of the transport**, but for the
    sockets themselves and a period that is out of range. With resolved sessions, ports, hop limits
    and interface indexes that fit, and any refusals by the system, a sender or receiver either
    starts, or fails as the transport or with the refusal of a socket. Once it is open, its steps fail
    as the transport only, as long as the call that they wait with takes the period; if it does not,
    they fail with just what it says. Every period below `2 ^ 31` milliseconds is taken, also by the
    timer, and a receiver takes no other. If nothing else is refused to a run, it reports a failure of the transport and ends with
    status 1. Only a refused socket goes through to the caller, a period that the wait or the timer
    does not take, or that there is no date or no room to draw. -/
theorem transport_failures_are_reported (s : Settings) (full logged : Bool) {pause : Quantity}
    (hperiod : Seconds.ofMillis? s.period = some (.span pause)) (h : Startable s.join w)
    (hhops : s.join = false → fitsSigned 32 s.ttl = true) :
    Ends (transportOf s (.span pause)).start w (fun _ w' => w'.footing.Firm s.join)
        (fun e _ => w.footing.Admits e) ∧
      (∀ w' : World, w'.footing.Firm s.join →
        Ends (transportOf s (.span pause)).step w' (fun _ w'' => w''.footing.Firm s.join)
          fun e w'' => (e.OfTransport ∨ (waitCall s pause).objection? = some e) ∧
            w''.footing.Firm s.join) ∧
      (∀ (w' : World) e, w'.host.strict = true → (waitCall s pause).objection? = some e →
        e.OfRange ∧ (transportOf s (.span pause)).step.outcome w' = .error e) ∧
      (0 ≤ s.period → s.period < 2 ^ 31 → ∀ e, ¬Objects s pause e) ∧
      (s.join = true → 2 ^ 31 ≤ s.period → ∃ e, (waitCall s pause).objection? = some e) ∧
      (w.footing.Spared → ∃ display w₁,
        enter s full logged { w with flags := { period := .span pause } } = .ok display w₁ ∧
        Startable s.join w₁ ∧
        Ends (Loop.run (transportOf s (.span pause)) display true (stepsOf w.host)) w₁
          (fun _ _ => ∃ w', perform s full logged w = .ok (.status 0) w')
          fun e w₂ =>
            (∃ t w', e = .transport t ∧ perform s full logged w = .ok failure w' ∧ Reported t w₂ w') ∨
            ((.openSocket, e) ∈ w.footing.refusals ∨ Objects s pause e ∨ e.Undrawable) ∧
              ∃ w', perform s full logged w = .error e w') := by
  refine ⟨ends_start_firm h hhops _, fun w' hfirm => ?_,
    fun w' e hstrict hobjection => outcome_step_of_objection hstrict hobjection,
    not_objects hperiod, exists_objection_of_long hperiod, exists_run_reported full logged hperiod h hhops⟩
  refine (ends_step_firm hfirm pause).mono ?_ ?_
  · exact fun _ w'' h'' => hfirm.upheld h''
  · exact fun _ w'' h'' => ⟨h''.1, hfirm.upheld h''.2⟩

/-- The settings of a run on one group. -/
def onGroup (join : Bool) : Settings where
  bytes := 100
  count := 0
  foreground := true
  period := 100
  interface := ""
  join
  verbosity := some .info
  logFile := ""
  plain := true
  port := 1234
  ttl := 1
  wait := 0
  groups := ["225.1.2.3"]

/-- A world with that group where the system refuses all calls of a kind, and in which a run is told
    to end when it first waits. -/
def awaiting (kind : CallKind) (e : SystemError) : World where
  flags := { period := .ofNat 1 }
  table := {
    sessions := [{ source := none, group := "225.1.2.3", target := some ⟨.v4 0xe1010203, 1234⟩ }]
    need4 := 1 }
  host := { idle := [.signal .terminate], failures := [⟨kind, none, .system e⟩] }

theorem startable_awaiting (join : Bool) (kind : CallKind) (e : SystemError) :
    Startable join (awaiting kind e) := by
  refine ⟨⟨?_, nofun, ?_⟩, ?_, ?_, ?_, rfl⟩
  · intro p hp _
    rw [List.mem_singleton.1 hp]
    rfl
  · intro events hevents e he
    rw [List.mem_singleton.1 hevents] at he
    rw [List.mem_singleton.1 he]
    trivial
  · intro s hs
    rw [List.mem_singleton.1 hs]
    exact ⟨_, rfl, List.mem_singleton.2 rfl⟩
  · show Table.HasPorts { sessions := [_], need4 := 1 }
    decide
  · intro p hp
    cases hp

/-- The system refuses a port that is in use. -/
def portInUse : SystemError := ⟨some 98, "Address already in use"⟩

/-- A receiver that cannot bind its port reports that, and its run ends with status 1. -/
theorem port_in_use_is_reported :
    Seconds.ofMillis? (onGroup true).period =
        some (.span (.finite ⟨false, 7205759403792794, 56⟩)) ∧
      Startable true (awaiting .bind portInUse) ∧
      ∃ t w₂ w', perform (onGroup true) false false (awaiting .bind portInUse) = .ok failure w' ∧
        Reported t w₂ w' := by
  have hperiod : Seconds.ofMillis? (onGroup true).period =
      some (.span (.finite ⟨false, 7205759403792794, 56⟩)) := by decide +kernel
  have hready := startable_awaiting true .bind portInUse
  refine ⟨hperiod, hready, ?_⟩
  obtain ⟨-, -, -, -, -, hrun⟩ :=
    transport_failures_are_reported (onGroup true) false false hperiod hready nofun
  have hspared : (awaiting .bind portInUse).footing.Spared := by
    intro p hp
    rw [List.mem_singleton.1 hp]
    rfl
  obtain ⟨display, w₁, -, -, hends⟩ := hrun hspared
  have hstatus : (perform (onGroup true) false false).outcome (awaiting .bind portInUse) =
      .ok failure := by decide +kernel
  unfold Act.outcome at hstatus
  unfold Ends at hends
  split at hends
  · obtain ⟨w', hwell⟩ := hends
    rw [hwell] at hstatus
    cases hstatus
  · rcases hends with ⟨t, w', -, hfailed, hreported⟩ | ⟨-, w', hescaped⟩
    · exact ⟨t, _, w', hfailed, hreported⟩
    · rw [hescaped] at hstatus
      cases hstatus

/-- A period of three million seconds passes the checks, but a receiver cannot wait that long; a sender
    can pause for it. -/
example :
    (run { period := some 3000000000, groups := ["225.1.2.3"] }).outcome soonEnded =
        .error (.outOfRange "timeout is too large") ∧
      (run { period := some 3000000000, join := false, groups := ["225.1.2.3"] }).outcome soonEnded =
        .ok (.status 0) := by
  decide +kernel

/-- The system has no descriptors left for a socket. -/
def tooManyFiles : SystemError := ⟨some 24, "Too many open files"⟩

/-- **A refused socket is no failure of the transport.** Either role passes on what the system says,
    and it ends the run in place of a status. -/
theorem refused_sockets_escape :
    (Startable true (awaiting .openSocket tooManyFiles) ∧
      Startable false (awaiting .openSocket tooManyFiles)) ∧
    isTransport (.system tooManyFiles) = false ∧
    (transportOf (onGroup true) (.ofNat 1)).start.outcome (awaiting .openSocket tooManyFiles) =
      .error (.system tooManyFiles) ∧
    (transportOf (onGroup false) (.ofNat 1)).start.outcome (awaiting .openSocket tooManyFiles) =
      .error (.system tooManyFiles) ∧
    (perform (onGroup true) false false).outcome (awaiting .openSocket tooManyFiles) =
      .error (.system tooManyFiles) ∧
    (run { groups := ["225.1.2.3"] }).outcome (awaiting .openSocket tooManyFiles) =
      .error (.system tooManyFiles) := by
  refine ⟨⟨startable_awaiting true _ _, startable_awaiting false _ _⟩, rfl, ?_, ?_, ?_, ?_⟩
  · decide +kernel
  · decide +kernel
  · decide +kernel
  · decide +kernel

/-! ## From the options on -/

/-- What is done before the loop upholds the footing. -/
theorem launching_upheld : Frame.upheld.Launching where
  call c _ := upheld_call c
  check := upheld_check
  log := upheld_log
  process _ _ _ := .refl _
  logging _ _ _ := .refl _
  streams _ _ _ := .refl _

section

variable {o : Options} {s₀ s : Settings} {full logged : Bool} {table : Table} {wc w₀ : World}
  (hchecked : checked o w = .ok (some (s₀, table)) wc)
  (hlaunched : launch s₀ { wc with options := o.next, table } = .ok (some (s, full, logged)) w₀)
include hchecked hlaunched

/-- Behind checks and launch, a run is no more than its loop and the report. -/
theorem run_of_launch : run o w = perform s full logged w₀ := by
  rw [run, bind_of_ok hchecked]
  dsimp only
  rw [runWith, bind_of_ok (modify_apply _ _), bind_of_ok hlaunched, proceed]

/-- Until then, the footing is that of the host and of the sessions that were built. -/
theorem upheld_of_launch : (World.footing { w with table }).Upheld w₀.footing := by
  have hchecks := keeps_checked o w
  have hlaunch := keeps_launch launching_upheld (upheld_call (.wait s₀.wait))
    { wc with options := o.next, table }
  rw [after_of_ok hchecked] at hchecks
  rw [after_of_ok hlaunched] at hlaunch
  have hunlogged : World.footing { wc.unlogged with table } = World.footing { w.unlogged with table } :=
    congrArg (fun u => World.footing { u with table }) hchecks.unlogged
  have hsame : World.footing { wc with options := o.next, table } = World.footing { w with table } :=
    hunlogged
  rw [← hsame]
  exact hlaunch

/-- **Options that pass the checks give a transport that can be opened**: the groups of its sessions
    are resolved, on a port that there is, and the hop limit is in range. -/
theorem startable_of_launch (hsound : w.footing.Sound s.join) (hindexes : w.host.IndexesFit)
    (hunwatched : w.host.watched = []) :
    Startable s.join w₀ ∧ fitsSigned 32 s.ttl = true := by
  obtain ⟨hsettings, hbuild⟩ := gives_checked o hchecked s₀ table rfl
  obtain ⟨interface, logFile, rfl⟩ := gives_launch s₀ hlaunched s full logged rfl
  obtain ⟨-, hport, httl⟩ := Options.inRange_of_settings hsettings
  have hbuilt : Startable s₀.join { w with table } := by
    refine ⟨⟨hsound.refusals, hsound.opening, hsound.waits⟩, Table.resolved_of_build hbuild,
      Table.hasPorts_of_build hbuild ?_, hindexes, hunwatched⟩
    rw [fitsUnsigned_iff]
    omega
  refine ⟨hbuilt.upheld (upheld_of_launch hchecked hlaunched), ?_⟩
  rw [fitsSigned_iff]
  dsimp only
  omega

/-- **A run that gets as far as its loop** ends with status 0, or reports the failure of its transport
    and ends with status 1, if calls of the transport are refused by the system and no others are.
    Only what the system says of a socket goes through, a period out of range, or that there is no
    date or no room to draw. -/
theorem ends_run_of_launch {pause : Quantity}
    (hperiod : Seconds.ofMillis? s.period = some (.span pause)) (hsound : w.footing.Sound s.join)
    (hspared : w.footing.Spared) (hindexes : w.host.IndexesFit) (hunwatched : w.host.watched = []) :
    Ends (run o) w
      (fun exit w' => exit = .status 0 ∨ exit = failure ∧ ∃ t w₂, Reported t w₂ w')
      fun e _ => (.openSocket, e) ∈ w.footing.refusals ∨ Objects s pause e ∨ e.Undrawable := by
  have hupheld := upheld_of_launch hchecked hlaunched
  obtain ⟨hready, hhops⟩ := startable_of_launch hchecked hlaunched hsound hindexes hunwatched
  have hspared₀ : w₀.footing.Spared :=
    Footing.Spared.grounded (f := World.footing { w with table }) hspared hupheld.toGrounded
  have hrefusals : w₀.footing.refusals = w.footing.refusals := hupheld.refusals
  obtain ⟨display, w₁, -, -, hends⟩ :=
    exists_run_reported full logged hperiod hready (fun _ => hhops) hspared₀
  rw [hrefusals] at hends
  unfold Ends at hends ⊢
  rw [run_of_launch hchecked hlaunched]
  split at hends
  · obtain ⟨w', hperform⟩ := hends
    rw [hperform]
    exact Or.inl rfl
  · rcases hends with ⟨t, w', -, hperform, hreported⟩ | ⟨hescapes, w', hperform⟩
    · rw [hperform]
      exact Or.inr ⟨rfl, t, _, hreported⟩
    · rw [hperform]
      exact hescapes

end

end Program

end Multicast
