import Multicast.Proofs.Dashboard.Faults
import Multicast.Proofs.Loop.Faults
import Multicast.Proofs.Loop.Schedule
import Multicast.Proofs.Loop.Termination
import Multicast.Proofs.Sender.Numbering
import Multicast.Proofs.Transport.Faults

/-!
# `Proofs.Sender.Rounds` — how many rounds a loop of sending makes

In a round of the main loop every session sends one packet, so that they all have the same count.
The round in which they reach the limit is the last one: a session is closed once it has reached the
limit, and the loop is told to end once all of them have.

## Contents
- **Displays.** `Display.LooksOn`, with `Progress.looksOn` and `Dashboard.looksOn`.
- **Waiting.** `Event.Stops` and `World.Going`; a loop that no event tells to end goes on
  (`going_await`), and `Sender.running_step`.
- **Rounds.** `Sender.Rounds`, kept by what is shown and carried on by a step (`Rounds.step`), then
  `Sender.ends_iterate` and `Sender.ends_run`.
-/

namespace Multicast

open Act

variable {w w' : World}

/-! ## Displays -/

/-- The display looks on: it leaves the prospect of the loop and the footing of its transport, and
    fails with faults of one kind only. -/
structure Display.LooksOn (d : Display) (w : World) (bad : Fault → Prop) : Prop where
  redraw : ∀ resized, Upholds w bad (d.redraw resized)
  tick : Upholds w bad d.tick
  prospect : ∀ resized, Keeps (.of World.prospect) (d.redraw resized)
  prospect_tick : Keeps (.of World.prospect) d.tick

/-- The plain output does not fail at all. -/
theorem Progress.looksOn (w : World) (bad : Fault → Prop) : Progress.display.LooksOn w bad where
  redraw _ := failsAs_pure ()
  tick := Progress.failsAs_tick
  prospect _ := keeps_pure ()
  prospect_tick := Progress.keeps_tick marking_prospect (prospect_map fun _ => ⟨rfl, rfl⟩)

/-- The full screen fails for want of a date or of room, if no call on the terminal is refused. -/
theorem Dashboard.looksOn (h : w.footing.Spared) :
    (Dashboard.display .terminal).LooksOn w Fault.Undrawable where
  redraw := Dashboard.failsAs_redraw h
  tick := Dashboard.failsAs_tick h
  prospect := Dashboard.keeps_redraw drawing_prospect
  prospect_tick := Dashboard.keeps_tick drawing_prospect

/-! ## Waiting -/

/-- The event tells the loop to end, with these handlers in force. -/
def Event.Stops (handlers : Signal → Disposition) : Event → Prop
  | .stop => True
  | .signal s => handlers s = .loop .stopLoop
  | .resize _ _ => handlers .resize = .loop .stopLoop
  | _ => False

/-- The loop goes on, with these handlers in force. -/
def World.Going (handlers : Signal → Disposition) (w : World) : Prop :=
  w.host.handlers = handlers ∧ w.flags.running = true

section

variable {handlers : Signal → Disposition}

/-- Only the handler that ends the loop does so. -/
theorem going_deliver {s : Signal} (hs : handlers s ≠ .loop .stopLoop) :
    Keeps (.preserving (World.Going handlers)) (deliver s) := by
  rintro w ⟨hhandlers, hrunning⟩
  rw [after_of_ok (deliver_apply s w), hhandlers]
  refine ⟨hhandlers, ?_⟩
  cases hd : handlers s with
  | loop handler =>
      cases handler with
      | stopLoop => exact absurd hd hs
      | noteResize | noteTick => exact hrunning
  | named name => exact hrunning
  | unknown => exact hrunning

theorem going_play {e : Event} (he : ¬e.Stops handlers) :
    Keeps (.preserving (World.Going handlers)) (play e) := by
  cases e with
  | signal s => exact going_deliver he
  | resize columns lines => exact keeps_bind (fun _ hw => hw) fun _ => going_deliver he
  | stop => exact absurd trivial he
  | clock | datagram | refusal | fault | tick | resized => exact fun _ hw => hw

/-- **A wait in which no event tells the loop to end** leaves it going. -/
theorem going_await (hscript : w.host.Expects fun e => ¬e.Stops handlers) (h : w.Going handlers) :
    (await.after w).Going handlers :=
  rel_after_await (F := .preserving (World.Going handlers)) hscript (fun _ hw => hw)
    (fun _ he => going_play he) h

end

namespace Sender

variable {s : Sender}

/-- **A step tells the loop to end if the sessions have reached the limit**, and only then. -/
theorem running_step {handlers : Signal → Disposition}
    (hscript : w.host.Expects fun e => ¬e.Stops handlers) (hgoing : w.Going handlers)
    (h : s.step w = .ok () w') : w'.flags.running = !w'.table.isComplete s.count := by
  rw [step_eq] at h
  obtain ⟨_, w₁, hpause, h⟩ := bind_eq_ok.1 h
  obtain ⟨_, w₂, hsend, hfinish⟩ := bind_eq_ok.1 h
  have hgoing₁ : w₁.Going handlers := by
    rw [← after_of_ok hpause]
    rcases s.after_paused w with hafter | ⟨span, hafter | hafter⟩
    · rw [hafter]
      exact hgoing
    · rw [hafter]
      exact hgoing
    · rw [hafter]
      exact going_await hscript hgoing
  obtain ⟨host, hw₂, -⟩ :=
    sendFrom_eq_ok [] [] (List.append_nil _).symm (hsend : s.sendFrom 0 w₁.table.sessions w₁ = _)
  have hrunning₂ : w₂.flags.running = true := by
    rw [hw₂]
    exact hgoing₁.2
  obtain ⟨-, rfl⟩ := EStateM.Result.ok.inj ((finishWhenDone_apply _ _ w₂).symm.trans hfinish)
  split
  case isTrue hcomplete =>
    show false = !w₂.table.isComplete s.count
    rw [hcomplete]
    rfl
  case isFalse hopen => rw [hrunning₂, Bool.eq_false_iff.2 hopen]; rfl

/-! ## Rounds -/

/-- What is ready to send stays so on its footing. -/
theorem Ready.upheld (h : s.Ready w) (hw : w.footing.Upheld w'.footing) : s.Ready w' where
  sockets := by
    intro session hsession
    have hmem : session.target ∈ w.footing.targets := by
      rw [← hw.targets]
      exact List.mem_map_of_mem hsession
    obtain ⟨session₀, hsession₀, hsame⟩ := List.mem_map.1 hmem
    rw [← hsame, show w'.uplinks = w.uplinks from hw.uplinks]
    exact h.sockets session₀ hsession₀
  ports := hasPorts_of_grounded h.ports hw.toGrounded
  period := h.period
  granted := granted_of_grounded h.granted hw.toGrounded
  quiet := h.quiet.grounded hw.toGrounded

/-- **Between two rounds** of a loop that opened its transport in a world, every session has sent a
    packet for each round, and the loop goes on while that is less than the limit. -/
structure Rounds (s : Sender) (w₁ : World) (n : Nat) (w : World) : Prop where
  footing : w₁.footing.Upheld w.footing
  handlers : w.host.handlers = w₁.host.handlers
  counts : ∀ session ∈ w.table.sessions, session.count = n
  running : w.flags.running = decide ((n : Int) < s.count)

namespace Rounds

variable {w₁ : World} {n : Nat} {bad : Fault → Prop}

/-- What looks on leaves the rounds as they are. -/
theorem of_prospect (h : s.Rounds w₁ n w) (hfooting : w₁.footing.Upheld w'.footing)
    (hprospect : w'.prospect = w.prospect) : s.Rounds w₁ n w' where
  footing := hfooting
  handlers := (congrArg Prospect.handlers hprospect).trans h.handlers
  counts := by
    intro session hsession
    have hmem : (session.group, session.count) ∈ w.table.scores := by
      rw [← show w'.table.scores = w.table.scores from congrArg Prospect.scores hprospect]
      exact List.mem_map_of_mem hsession
    obtain ⟨session₀, hsession₀, hsame⟩ := List.mem_map.1 hmem
    rw [← (Prod.mk.inj hsame).2]
    exact h.counts session₀ hsession₀
  running := (congrArg Prospect.running hprospect).trans h.running

theorem failsAs_of_looking {act : Act Unit} (hupholds : Upholds w₁ bad act)
    (hprospect : Keeps (.of World.prospect) act) : FailsAs (s.Rounds w₁ n) bad act := by
  intro w h
  refine ((hupholds w h.footing).and (ends_of_frame hprospect w)).mono ?_ ?_
  · exact fun _ w' h' => h.of_prospect h'.1 h'.2
  · exact fun e w' h' => ⟨h'.1.1, h.of_prospect h'.1.2 h'.2⟩

/-- **A round more**: each session sends one packet, unless the limit is reached. -/
theorem step (hready : s.Ready w₁) (hsessions : w₁.table.sessions ≠ [])
    (hgoes : w₁.host.Expects fun e => ¬e.Stops w₁.host.handlers) (hn : (n : Int) < s.count)
    (h : s.Rounds w₁ n w) : ∃ w', s.step w = .ok () w' ∧ s.Rounds w₁ (n + 1) w' := by
  have hready' := hready.upheld h.footing
  obtain ⟨w', hstep, -⟩ := hready'.exists_step
  obtain ⟨htable, -, -⟩ := step_eq_ok hstep
  have hfooting := h.footing.trans (rel_of_ok (keeps_step stepping_upheld s) hstep)
  have hnears := rel_of_ok (keeps_step stepping_nearing s) hstep
  have hcounts : ∀ session ∈ w'.table.sessions, session.count = (n + 1 : Nat) := by
    rw [htable]
    intro session hsession
    obtain ⟨session, hmem, rfl⟩ := List.mem_map.1 hsession
    have hcount := h.counts session hmem
    have hopen : session.isOpen s.count := by simp [Session.isOpen, hcount, hn]
    rw [served, if_pos hopen]
    simp [Session.sent, hcount]
  have hgoing : w.Going w₁.host.handlers := ⟨h.handlers, by rw [h.running]; simpa using hn⟩
  have hrunning := running_step (hgoes.grounded h.footing.toGrounded) hgoing hstep
  refine ⟨w', hstep, hfooting, hnears.handlers.trans h.handlers, hcounts, ?_⟩
  obtain ⟨session, hsession⟩ : ∃ session, session ∈ w'.table.sessions := by
    refine List.exists_mem_of_ne_nil _ fun hnil => hsessions ?_
    have htargets : w'.table.sessions.map Session.target = w₁.table.sessions.map Session.target :=
      hfooting.targets
    rw [hnil] at htargets
    exact List.map_eq_nil_iff.1 htargets.symm
  -- All sessions have the same count, and there is one, so that they reach the limit together.
  have hcomplete : w'.table.isComplete s.count = true ↔ s.count ≤ (n + 1 : Nat) := by
    have hlimit : s.count ≠ 0 := by omega
    simp only [Table.isComplete, Bool.and_eq_true, decide_eq_true_eq, List.all_eq_true]
    constructor
    · intro hall
      rw [← hcounts session hsession]
      exact hall.2 session hsession
    · intro hle
      refine ⟨hlimit, fun session' hsession' => ?_⟩
      rw [hcounts session' hsession']
      exact hle
  rw [hrunning]
  by_cases hle : s.count ≤ (n + 1 : Nat)
  · rw [hcomplete.2 hle, decide_eq_false (by omega)]
    rfl
  · rw [Bool.eq_false_iff.2 fun htrue => hle (hcomplete.1 htrue), decide_eq_true (by omega)]
    rfl

end Rounds

section

variable {w₀ w₁ : World} {d : Display} {bad : Fault → Prop} (hready : s.Ready w₁)
  (hsessions : w₁.table.sessions ≠ [])
  (hgoes : w₁.host.Expects fun e => ¬e.Stops w₁.host.handlers) (hlooks : d.LooksOn w₁ bad)
include hready hsessions hgoes hlooks

/-- **The rounds that are left** are made, up to the limit. -/
theorem ends_iterate {n fuel : Nat} (hn : n ≤ s.count.toNat) (hfuel : s.count.toNat < n + fuel)
    (h : s.Rounds w₁ n w) : Ends (Loop.iterate s.transport d n fuel) w
      (fun steps _ => steps = some s.count.toNat) fun e _ => bad e := by
  induction fuel generalizing n w with
  | zero => exact absurd (Nat.lt_of_lt_of_le hfuel hn) (Nat.lt_irrefl _)
  | succ fuel ih =>
      unfold Loop.iterate
      refine ends_get_bind ?_
      -- With the limit reached, the loop was told to end by the step before.
      by_cases hlast : n = s.count.toNat
      · have hnot : ¬(n : Int) < s.count := by omega
        have hover : ¬w.flags.running = true := by rw [h.running]; simpa using hnot
        rw [if_neg hover, hlast]
        rfl
      · have hlt : (n : Int) < s.count := by omega
        have hrunning : w.flags.running = true := by rw [h.running]; simpa using hlt
        rw [if_pos hrunning]
        have hshown : FailsAs (s.Rounds w₁ n) bad (Loop.present d (n = 0)) :=
          Loop.failsAs_present (fun _ _ _ h => ⟨h.footing, h.handlers, h.counts, h.running⟩)
            (fun _ => Rounds.failsAs_of_looking (hlooks.redraw _) (hlooks.prospect _))
            (Rounds.failsAs_of_looking hlooks.tick hlooks.prospect_tick) _
        refine ((hshown w h).mono (fun _ _ h => h) fun _ _ h => h.1).bind fun _ w₂ h₂ => ?_
        obtain ⟨w₃, hstep, h₃⟩ := h₂.step hready hsessions hgoes hlt
        exact ends_bind_of_ok hstep (ih (by omega) (by omega) h₃)

/-- **A loop of sending** makes as many rounds as the limit says, unless its display fails. -/
theorem ends_run {timed : Bool} {fuel : Nat} (hstart : s.start w₀ = .ok () w₁)
    (hfresh : ∀ session ∈ w₁.table.sessions, session.count = 0) (hlimit : 0 < s.count)
    (hrunning : w₁.flags.running = true)
    (htimed : timed → ∃ settle period, w₁.flags.settle = .span settle ∧
      w₁.flags.period = .span period ∧ (Call.setTimer settle period).objection? = none)
    (hfuel : s.count.toNat < fuel) :
    Ends (Loop.run s.transport d timed fuel) w₀ (fun steps _ => steps = some s.count.toNat)
      fun e _ => bad e := by
  have hopened : s.Rounds w₁ 0 w₁ := ⟨.refl _, rfl, hfresh, by simpa [hlimit] using hrunning⟩
  have harmed : ∃ w₂, Loop.arm timed w₁ = .ok () w₂ := by
    cases timed with
    | false => exact ⟨w₁, rfl⟩
    | true =>
        obtain ⟨settle, period, hsettle, hperiod, hfits⟩ := htimed rfl
        exact ⟨_, (Signals.startTimer_apply hsettle hperiod (Host.objection?_eq_none hfits _)).trans
          (log_apply _ _ _)⟩
  obtain ⟨w₂, harm⟩ := harmed
  have hready₂ : s.Rounds w₁ 0 w₂ := by
    refine hopened.of_prospect (rel_of_ok (Loop.keeps_arm Signals.upheld_startTimer timed) harm) ?_
    exact rel_of_ok (prospect_timer timed).1 harm
  refine Loop.ends_run_of_iterate (p := s.Rounds w₁ 0) ?_ (fun w h => ?_) (fun w => exists_close w)
  · refine ends_bind_of_ok hstart ?_
    unfold Ends
    rw [harm]
    exact hready₂
  · exact ends_iterate hready hsessions hgoes hlooks (Nat.zero_le _) (by omega) h

end

end Sender

end Multicast
