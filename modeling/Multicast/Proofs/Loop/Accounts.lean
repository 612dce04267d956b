import Multicast.Proofs.Dashboard.Alike
import Multicast.Proofs.Loop.Frame
import Multicast.Proofs.Transport.Blind

/-!
# `Proofs.Loop.Accounts` — what is shown changes no account

The loop runs once with the full screen and once with the plain output, alongside each other. What is
shown in front of a step leaves the runs alongside each other, and so does the step; iteration by
iteration they stay so, whatever happens in the waits and however they end. Both return after the same
number of steps or fail with the same fault, and count the same for every session.

## Contents
- **Timer.** `Signals.blind_startTimer` and `Signals.blind_stopTimer`.
- **Iterating.** `Loop.alike_present` and, by induction, `Loop.alike_iterate`.
- **Running.** `Loop.alike_run`.
- **Result.** `Session.SameAccount`, with `Alongside.accounts` and `Alongside.statistics`, then
  `Loop.showing_changes_no_account`.
-/

namespace Multicast

open Act

/-! ## Timer -/

namespace Signals

theorem blind_setTicking (ticking : Bool) : Blind (setTicking ticking) := by
  intro w w' h
  have hsignals : { w.signals with ticking } = { w'.signals with ticking } := by rw [h.signals]
  exact ⟨rfl, { h with signals := hsignals, calm := { h.calm with } }⟩

/-- The timer is started in both runs or in neither, as its spans are the same. -/
theorem blind_startTimer : Blind startTimer := by
  intro w w' h
  unfold startTimer
  refine endAlike_get_bind ?_
  rw [h.flags]
  refine alike_bind (blind_measured _) (fun first => ?_) w w' h
  refine alike_bind (blind_measured _) fun interval => alike_bind (blind_vet _) fun _ => ?_
  refine alike_bind (blind_call _) fun _ => ?_
  exact alike_bind (blind_setTicking true) fun _ => blind_log _ _

theorem blind_stopTimer : Blind stopTimer := by
  intro w w' h
  unfold stopTimer
  refine endAlike_get_bind ?_
  rw [h.signals]
  split
  · exact alike_bind (blind_call _) (fun _ => blind_setTicking false) w w' h
  · exact ⟨rfl, h⟩

end Signals

namespace Loop

/-- Two displays of which either stage is alike. -/
structure Agreeing (d d' : Display) : Prop where
  redraw : ∀ resized, Alike Alongside (d.redraw resized) (d'.redraw resized)
  tick : Alike Alongside d.tick d'.tick

/-- A transport whose stages are blind to what is shown. -/
structure Unseeing (t : Transport) : Prop where
  start : Blind t.start
  step : Blind t.step
  close : Blind t.close

theorem unseeing_sender (s : Sender) : Unseeing s.transport :=
  ⟨s.blind_start, s.blind_step, Sender.blind_close⟩

theorem unseeing_receiver (r : Receiver) : Unseeing r.transport :=
  ⟨r.blind_start, r.blind_step, Receiver.blind_close⟩

/-- Signals that arrive while the sockets are opened set the same flags. -/
theorem Unseeing.attending {t : Transport} (h : Unseeing t) : Unseeing t.attending :=
  ⟨alike_bind h.start fun _ => blind_attend, h.step, h.close⟩

/-- The full screen and the plain output agree. -/
theorem agreeing_displays {screen : Screen} (hscreen : screen = .terminal ∨ screen = .record) :
    Agreeing (Dashboard.display screen) Progress.display :=
  ⟨Dashboard.alike_redraw hscreen, Dashboard.alike_tick hscreen⟩

section

variable {d d' : Display} {t : Transport}

/-! ## Iterating -/

/-- What is shown in front of a step is due in both runs or in neither. -/
theorem alike_present (hd : Agreeing d d') (first : Bool) :
    Alike Alongside (present d first) (present d' first) := by
  have hpolled : ∀ (f : Flags → Flags) (flag : Flags → Bool), Blind
      (do
        let fired := flag (← get).flags
        modifyFlags f
        pure fired) := by
    intro f flag w w' h
    refine endAlike_get_bind ?_
    rw [h.flags]
    exact alike_bind (blind_modifyFlags f) (fun _ => alike_pure _) w w' h
  rw [present_eq, present_eq]
  refine alike_bind (hpolled ({ · with resized := false }) Flags.resized) fun resized => ?_
  refine alike_bind ?_ fun _ => ?_
  · split
    · exact hd.redraw resized
    · exact alike_pure ()
  · refine alike_bind (hpolled ({ · with tick := false }) Flags.tick) fun fired => ?_
    split
    · exact hd.tick
    · exact alike_pure ()

/-- **All iterations together.** -/
theorem alike_iterate (hd : Agreeing d d') (ht : Unseeing t) (steps fuel : Nat) :
    Alike Alongside (iterate t d steps fuel) (iterate t d' steps fuel) := by
  -- The runs are alongside each other in front of every iteration, so either both go on or none does.
  induction fuel generalizing steps with
  | zero => exact alike_pure none
  | succ fuel ih =>
      intro w w' h
      unfold iterate
      refine endAlike_get_bind ?_
      rw [h.flags]
      split
      · refine alike_bind (alike_present hd _) (fun _ => ?_) w w' h
        exact alike_bind ht.step fun _ => ih (steps + 1)
      · exact ⟨rfl, h⟩

/-! ## Running -/

theorem blind_note (steps : Option Nat) : Blind (note steps) := by
  cases steps with
  | none => exact alike_pure none
  | some n => exact alike_bind (blind_log _ _) fun _ => alike_pure (some n)

/-- **A whole run**, from opening the transport to closing it. -/
theorem alike_run (hd : Agreeing d d') (ht : Unseeing t) (timed : Bool) (fuel : Nat) :
    Alike Alongside (run t d timed fuel) (run t d' timed fuel) := by
  have harm : Blind (arm timed) := by
    cases timed with
    | true => exact Signals.blind_startTimer
    | false => exact alike_pure ()
  have hdisarm : Blind (disarm timed) := by
    cases timed with
    | true => exact Signals.blind_stopTimer
    | false => exact alike_pure ()
  rw [run_eq, run_eq, body_eq, body_eq]
  refine alike_ensuring ?_ (alike_bind hdisarm fun _ => ht.close)
  refine alike_bind ht.start fun _ => alike_bind harm fun _ => ?_
  exact alike_bind (alike_iterate hd ht 0 fuel) blind_note

end

end Loop

/-! ## Result -/

/-- Source and group, both endpoints, the history, all counts and the socket are the same: only the
    spinners may differ. -/
def Session.SameAccount (s s' : Session) : Prop := s' = { s with spin := s'.spin }

namespace Alongside

variable {w w' : World}

/-- Alongside each other, the worlds have the same account of every session. -/
theorem accounts (h : Alongside w w') :
    List.Forall₂ Session.SameAccount w.table.sessions w'.table.sessions := by
  have hsame : ∀ s s' : Session, s.still = s'.still → s.SameAccount s' := by
    intro s s' hstill
    have hspun : ({ s.still with spin := s'.spin } : Session) = { s'.still with spin := s'.spin } := by
      rw [hstill]
    exact hspun.symm
  have hsessions : List.Forall₂ (fun s s' : Session => s.still = s'.still)
      w.table.sessions w'.table.sessions := by
    have heq := List.forall₂_eq_eq_eq ▸ h.sessions
    rw [List.forall₂_map_left_iff, List.forall₂_map_right_iff] at heq
    exact heq
  exact hsessions.imp hsame

/-- The final reports are the same. -/
theorem statistics (h : Alongside w w') : w.table.statistics = w'.table.statistics := by
  have hstill : ∀ t : Table, t.still.statistics = t.statistics := by
    intro t
    unfold Table.statistics Table.total Table.still
    simp only [List.map_map]
    rfl
  rw [← hstill, h.table, hstill]

end Alongside

namespace Loop

/-- **What is shown changes no account.** A run with the full screen and one with the plain output,
    of the same sender or receiver and with the same events, refusals and signals to come, in the
    waits and while the sockets are opened, return after the same number of steps, or fail with the
    same fault; they make the same calls on sockets, and leave every session with the same account.
    Nothing is assumed of what the displays show or where records go, as long as nothing makes the
    full screen fail. -/
theorem showing_changes_no_account {role t : Transport}
    (hrole : (∃ s : Sender, role = s.transport) ∨ ∃ r : Receiver, role = r.transport)
    (ht : t = role ∨ t = role.attending) {screen : Screen}
    (hscreen : screen = .terminal ∨ screen = .record) {w w' : World} (h : Alongside w w')
    (timed : Bool) (fuel : Nat) :
    let full := run t (Dashboard.display screen) timed fuel
    let plain := run t Progress.display timed fuel
    full.outcome w = plain.outcome w' ∧
      (full.after w).host.dealings.calls = (plain.after w').host.dealings.calls ∧
      List.Forall₂ Session.SameAccount (full.after w).table.sessions (plain.after w').table.sessions ∧
      (full.after w).table.statistics = (plain.after w').table.statistics := by
  have hunseeing : Unseeing role := by
    rcases hrole with ⟨s, rfl⟩ | ⟨r, rfl⟩
    · exact unseeing_sender s
    · exact unseeing_receiver r
  have hunseeing : Unseeing t := by
    rcases ht with rfl | rfl
    · exact hunseeing
    · exact hunseeing.attending
  obtain ⟨houtcome, halongside⟩ :=
    alike_run (agreeing_displays hscreen) hunseeing timed fuel w w' h
  have hcalls := congrArg Dealings.calls halongside.dealings
  exact ⟨houtcome, hcalls, halongside.accounts, halongside.statistics⟩

/-- A receiver on a terminal: a datagram of its group arrives while the timer fires and the terminal
    changes its size, and the next read is refused. -/
def resizedAndRefused : World where
  flags := { period := .ofNat 1 }
  table.sessions := [{ source := none, group := "225.1.2.3", target := some ⟨.v4 0xe1010203, 1234⟩ }]
  host := {
    handlers := fun s => match s with
      | .resize => .loop .noteResize
      | .alarm => .loop .noteTick
      | _ => .default
    script := [[.datagram 0 [1, 2, 3], .signal .alarm, .resize 132 50],
      [.refusal 0 ⟨some 5, "Input/output error"⟩]] }

/-- The same without a screen, where all is logged. -/
def refusedWithoutScreen : World :=
  { resizedAndRefused with
    host := { resizedAndRefused.host with logging := { threshold := .debug } } }

/-- The refused read ends the run on the terminal as it ends the one without. -/
theorem refusal_ends_both_runs :
    let full := run (Receiver.transport { period := .ofNat 1 }) (Dashboard.display .terminal) true 5
    Alongside resizedAndRefused refusedWithoutScreen ∧
      full.outcome resizedAndRefused =
        .error (.transport (.receiving "225.1.2.3" "[Errno 5] Input/output error")) ∧
      (full.after resizedAndRefused).table.statistics =
        ["Group 225.1.2.3 received 1 packets, gaps: 0", "\nReceived total: 1 packets"] := by
  have halongside : Alongside resizedAndRefused refusedWithoutScreen := by
    refine ⟨rfl, rfl, rfl, rfl, rfl, ⟨⟨?_, ?_, ⟨_, rfl⟩, ?_, ?_⟩, by decide, by decide⟩⟩
    · exact fun p hp => by cases hp
    · exact fun p hp => by cases hp
    · exact fun size hsize => by cases hsize
    · have hcalm : ∀ events ∈ [] :: [] :: resizedAndRefused.host.script, ∀ e ∈ events,
          e.Calm resizedAndRefused.host.memory := by
        simp [resizedAndRefused, Event.Calm, Room.HasLine]
      exact hcalm
  obtain ⟨houtcome, -, -, hstatistics⟩ := showing_changes_no_account
    (Or.inr ⟨{ period := .ofNat 1 }, rfl⟩) (Or.inl rfl) (Or.inl rfl) halongside true 5
  refine ⟨halongside, houtcome.trans ?_, hstatistics.trans ?_⟩
  · decide +kernel
  · decide +kernel

end Loop

end Multicast
