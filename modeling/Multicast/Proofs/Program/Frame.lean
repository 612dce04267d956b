import Multicast.Program
import Multicast.Proofs.Transport.Frame

/-!
# `Proofs.Program.Frame` — what surrounds the loop, and what it leaves as it was

A run becomes a daemon, sets up its log, finds its interface and raises the descriptor limit before
it enters the main loop, and reports how that ended. Next to the calls to the system, little of the
world changes in all this.

## Contents
- **Basic steps.** `Frame.Launching`, the steps that the surroundings of the loop are made of.
- **Before.** `keeps_becomeDaemon`, `keeps_setUpLog`, `keeps_withInterface` and `keeps_raiseLimit`.
- **Around.** `keeps_setLocale` and `keeps_restoreLocale`; `keeps_transport` for the transport.
- **Behind.** `conclude`, with `perform_eq`, `perform_of_span` and `keeps_conclude`.
-/

namespace Multicast

open Act

/-! ## Basic steps -/

/-- The calls that are made around the main loop, but for the wait that the settings ask for. -/
def Call.isLaunching : Call → Bool
  | .fork _ | .newSession | .changeDirectory _ | .setMask _ | .openNull | .duplicate _ _
  | .closeDescriptor _ | .openSystemLog _ | .openLogFile _ | .command _ | .setLimits _ _
  | .setLocale _ => true
  | _ => false

/-- A frame is kept by the steps that surround the main loop. -/
structure Frame.Launching (F : Frame) : Prop where
  call : ∀ c, c.isLaunching = true → Keeps F (call c)
  check : ∀ kind, Keeps F (check kind)
  log : ∀ level message, Keeps F (log level message)
  process : ∀ w forks softLimit, F.rel w { w with host := { w.host with forks, softLimit } }
  logging : ∀ w logging region, F.rel w { w with host := { w.host with logging, region } }
  streams : ∀ w stdout stderr, F.rel w { w with host := { w.host with stdout, stderr } }

namespace Program

variable {F : Frame}

/-! ## Before -/

theorem keeps_becomeDaemon (h : F.Launching) (directory : Option String) :
    Keeps F (becomeDaemon directory) := by
  have hfork : Keeps F fork := by
    unfold fork
    refine keeps_bind keeps_get fun w => keeps_bind (fun w' => h.process w' _ _) fun _ => ?_
    refine keeps_bind (h.call _ rfl) fun _ => ?_
    split
    · exact keeps_throw _
    · exact keeps_pure ()
  have hrest : Keeps F (do
      call (.setMask 0)
      call .openNull
      let null := (← get).host.nullDescriptor
      [0, 1, 2].forM fun stream => call (.duplicate null stream)
      if 2 < null then call (.closeDescriptor null)) := by
    refine keeps_bind (h.call _ rfl) fun _ => keeps_bind (h.call _ rfl) fun _ => ?_
    refine keeps_bind keeps_get fun w => keeps_bind (keeps_forM fun _ _ => h.call _ rfl) fun _ => ?_
    split
    · exact h.call _ rfl
    · exact keeps_pure ()
  unfold becomeDaemon
  refine keeps_bind hfork fun _ => keeps_bind (h.call _ rfl) fun _ => keeps_bind hfork fun _ => ?_
  cases directory with
  | none => exact hrest
  | some path =>
      dsimp only
      split
      · exact keeps_bind (h.call _ rfl) fun _ => hrest
      · exact hrest

theorem keeps_setUpLog (h : F.Launching) (s : Settings) (full : Bool) : Keeps F (setUpLog s full) := by
  unfold setUpLog
  cases s.verbosity with
  | none => exact keeps_bind (fun w => h.logging w _ _) fun _ => keeps_pure false
  | some threshold =>
      -- What comes behind each of the three choices is the same whether it is taken or not.
      dsimp only
      refine keeps_ite (keeps_bind keeps_get fun _ => keeps_bind (h.call _ rfl) fun _ => ?_) ?_
      all_goals refine keeps_ite (keeps_bind (fun w => h.logging w _ _) fun _ => ?_) ?_
      all_goals refine keeps_ite (keeps_bind (h.call _ rfl) fun _ => ?_) ?_
      all_goals exact keeps_bind (fun w => h.logging w _ w.host.region) fun _ => keeps_pure _

theorem keeps_withInterface (h : F.Launching) (s : Settings) : Keeps F (withInterface s) := by
  have hnames : Keeps F interfaceNames := by
    refine keeps_recover (keeps_bind (h.check _) fun _ => ?_) fun _ => keeps_pure []
    exact keeps_bind keeps_get fun w => keeps_pure _
  have hdefault : Keeps F defaultInterface := by
    unfold defaultInterface output
    refine keeps_bind (keeps_bind (h.call _ rfl) fun _ => keeps_bind keeps_get fun _ =>
      keeps_pure _) fun listing => ?_
    split
    · exact keeps_pure _
    · refine keeps_bind keeps_get fun w => ?_
      split
      · exact keeps_pure _
      · exact keeps_bind hnames fun _ => keeps_pure _
  unfold withInterface
  split
  · exact keeps_pure s
  · refine keeps_bind hdefault fun interface => ?_
    exact keeps_bind (h.log _ _) fun _ => keeps_pure _

theorem keeps_complain (h : F.Launching) (text : String) : Keeps F (complain text) :=
  fun w => h.streams w w.host.stdout _

theorem keeps_report (h : F.Launching) (message : String) : Keeps F (report message) :=
  keeps_bind (h.log _ _) fun _ => keeps_complain h _

theorem keeps_raiseLimit (h : F.Launching) : Keeps F raiseLimit := by
  have hraise : Keeps F (raiseDescriptorLimit maxGroups 10) := by
    unfold raiseDescriptorLimit
    refine keeps_bind (keeps_recover (h.check _) fun _ => keeps_throw _) fun _ => ?_
    refine keeps_bind keeps_get fun w => keeps_bind (h.log _ _) fun _ => ?_
    dsimp only
    split
    · exact keeps_pure _
    · split
      · refine keeps_bind ?_ fun _ => keeps_throw _
        cases (Text.writeInteger (maxGroups + 10)).mapError Fault.numeral with
        | ok text => exact keeps_pure text
        | error e => exact keeps_throw e
      · refine keeps_bind (keeps_recover (keeps_attempt (h.call _ rfl) (h.check _)) fun _ =>
          keeps_throw _) fun _ => ?_
        refine keeps_bind (fun w => h.process w w.host.forks _) fun _ => ?_
        exact keeps_bind (h.log _ _) fun _ => keeps_pure _
  refine keeps_recover (keeps_bind hraise fun _ => keeps_pure true) fun e => ?_
  exact keeps_bind (keeps_report h _) fun _ => keeps_pure false

/-! ## Around -/

theorem keeps_setLocale (h : F.Launching) (name : Option String) : Keeps F (setLocale name) :=
  keeps_attempt (h.call _ rfl) (h.check _)

theorem keeps_restoreLocale (h : F.Launching) (name : String) : Keeps F (restoreLocale name) :=
  keeps_recover (keeps_setLocale h _) fun _ => h.log _ _

/-- What moves the packets of a run is a sender or a receiver. -/
theorem keeps_role (hopening : F.Opening) (s : Settings) (period : Seconds) :
    Keeps F (roleOf s period).start ∧ Keeps F (roleOf s period).close := by
  unfold roleOf
  split
  · exact ⟨Receiver.keeps_start hopening _, Receiver.keeps_close hopening.toClosing⟩
  · exact ⟨Sender.keeps_start _ (fun _ _ => hopening.call _ rfl) hopening.toPreparing
      hopening.uplinks, Sender.keeps_close hopening.toClosing⟩

/-- Its transport opens that, and attends to what happens meanwhile. -/
theorem keeps_transport (hopening : F.Opening) (hattend : Keeps F attend) (s : Settings)
    (period : Seconds) :
    Keeps F (transportOf s period).start ∧ Keeps F (transportOf s period).close := by
  obtain ⟨hstart, hclose⟩ := keeps_role hopening s period
  exact ⟨keeps_bind hstart fun _ => hattend, hclose⟩

theorem keeps_transport_step (hstepping : F.Stepping) (s : Settings) (period : Seconds) :
    Keeps F (transportOf s period).step := by
  show Keeps F (roleOf s period).step
  unfold roleOf
  split
  · exact Receiver.keeps_step hstepping _
  · exact Sender.keeps_step hstepping _

/-! ## Behind -/

/-- A period in milliseconds is a span, if it is a number at all. -/
theorem exists_span {msec : Int} {period : Seconds} (h : Seconds.ofMillis? msec = some period) :
    ∃ interval, period = .span interval := by
  simp only [Seconds.ofMillis?, Option.bind_eq_bind, Option.bind_eq_some_iff] at h
  obtain ⟨whole, -, x, -, hspan⟩ := h
  exact ⟨.finite x, (Option.some.inj hspan).symm⟩

/-- What is done once the loop has ended, well or not. -/
def conclude (s : Settings) (well : Bool) : Act Exit := do
  if !well then complain "mcjoin: transport failure, see log\n"
  else if s.join then publish s
  modify fun w => { w with table := w.table.clear }
  pure (if well then .status 0 else failure)

theorem perform_eq (s : Settings) (full logged : Bool) :
    perform s full logged = periodOf s.period >>= fun period =>
      modify (fun w => { w with flags := { period } }) >>= fun _ => get >>= fun w =>
        inUserLocale (loop s full logged period (stepsOf w.host)) >>= conclude s := rfl

/-- With a period that is a span, a run is its loop and what is done behind it. -/
theorem perform_of_span {s : Settings} {period : Seconds}
    (hperiod : Seconds.ofMillis? s.period = some period) (full logged : Bool) (w : World) :
    perform s full logged w =
      (inUserLocale (loop s full logged period (stepsOf w.host)) >>= conclude s)
        { w with flags := { period } } := by
  have hspan : periodOf s.period w = .ok period w := by
    unfold periodOf
    rw [hperiod]
    rfl
  rw [perform_eq, bind_of_ok hspan, bind_of_ok (modify_apply _ w), bind_of_ok (get_apply _)]

/-- Without one, there is no loop. -/
theorem perform_of_no_span {s : Settings} (hperiod : Seconds.ofMillis? s.period = none)
    (full logged : Bool) (w : World) : perform s full logged w = .error .tooLarge w := by
  unfold perform periodOf
  rw [hperiod]
  rfl

theorem keeps_conclude (h : F.Launching)
    (hcleared : ∀ w, F.rel w { w with table := w.table.clear }) (s : Settings) (well : Bool) :
    Keeps F (conclude s well) := by
  have hrest : ∀ exit : Exit, Keeps F (do
      modify fun w => { w with table := w.table.clear }
      pure exit) := fun exit =>
    keeps_bind hcleared fun _ => keeps_pure exit
  have hpublish : Keeps F (publish s) := by
    unfold publish
    refine keeps_bind keeps_get fun w => keeps_forM fun line _ => ?_
    split
    · exact fun w => h.streams w _ w.host.stderr
    · exact h.log _ _
  cases well with
  | false => exact keeps_bind (keeps_complain h _) fun _ => hrest failure
  | true =>
      unfold conclude
      dsimp only
      rw [Bool.not_true, if_neg Bool.false_ne_true]
      split
      · exact keeps_bind hpublish fun _ => hrest (.status 0)
      · exact hrest (.status 0)

end Program

end Multicast
