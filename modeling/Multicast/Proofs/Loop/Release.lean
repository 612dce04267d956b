import Multicast.Proofs.Loop.Display
import Multicast.Proofs.Loop.Frame
import Multicast.Proofs.Receiver.Sockets
import Multicast.Proofs.Sender.Uplinks

/-!
# `Proofs.Loop.Release` — nothing is left behind

However the loop ends — told to, by a failure of its transport, in the middle of opening sockets, or
by whatever comes up while it waits or draws — the sockets that it opened are closed, each once, and
the timer is off.

## Contents
- **Timer.** `ends_startTimer` and `ends_stopTimer`.
- **Loop.** `ends_cleanup`, `ends_iterate`, `ends_body` and `ends_run`.
- **Result.** `Settled`, `Loop.Released`, and `run_releases_all`.
-/

namespace Multicast

open Act

variable {before : List Call} {holders : List (Option SocketId) → List (Family × SocketId) → Prop}
  {w : World}

/-! ## Timer -/

/-- Setting the timer and taking note of it returns. -/
theorem ends_setTimer (ticking : Bool) (first interval : Quantity) {fails : Fault → World → Prop} :
    Ends (do
        call (.setTimer first interval)
        Signals.setTicking ticking) w
      (fun _ w' => w'.resources =
        { w.resources with ticking, calls := w.resources.calls ++ [.setTimer first interval] })
      fails := by
  show World.resources { w with
    host := w.host.record (.setTimer first interval)
    signals := { w.signals with ticking } } = _
  unfold World.resources
  rw [Host.books_record]
  rfl

/-- The timer runs once it was started. A start that fails has not come so far. -/
theorem ends_startTimer (h : Kept before holders false w.resources) :
    Ends Signals.startTimer w (fun _ w' => Kept before holders true w'.resources)
      fun _ w' => Kept before holders false w'.resources := by
  have hmeasured : ∀ (span : Seconds) (w₁ : World), w₁.resources = w.resources →
      Ends (measured span) w₁ (fun _ w' => w'.resources = w.resources)
        fun _ w' => w'.resources = w.resources := by
    intro span w₁ h₁
    rw [← h₁]
    exact ends_of_aside (keeps_measured span)
  have hkept : ∀ w₁ : World, w₁.resources = w.resources → Kept before holders false w₁.resources := by
    intro w₁ h₁
    rw [h₁]
    exact h
  unfold Signals.startTimer
  refine ends_get_bind (ends_bind ((hmeasured _ w rfl).mono ?_ fun _ w' h => hkept w' h))
  intro first w₁ h₁
  refine ends_bind ((hmeasured _ w₁ h₁).mono ?_ fun _ w' h => hkept w' h)
  intro interval w₂ h₂
  have hvetted : Ends (vet (.setTimer first interval)) w₂ (fun _ w' => w'.resources = w.resources)
      fun _ w' => w'.resources = w.resources := by
    rw [← h₂]
    exact ends_of_aside (keeps_vet _)
  refine ends_bind (hvetted.mono ?_ fun _ w' h => hkept w' h)
  intro _ w₃ h₃
  obtain ⟨howned, hholders, -⟩ := hkept w₃ h₃
  have hset : Ends (do
      call (.setTimer first interval)
      Signals.setTicking true) w₃ (fun _ w' => Kept before holders true w'.resources)
        fun _ _ => False := by
    refine (ends_setTimer true first interval).mono ?_ fun _ _ h => h
    intro _ w₄ h₄
    rw [h₄]
    exact ⟨howned.timer true fun h => (by cases h), hholders, rfl⟩
  -- From here on nothing fails any more.
  rw [← bind_assoc]
  refine ends_bind (hset.mono ?_ fun _ _ h => h.elim)
  intro _ w₄ h₄
  refine (ends_log _ _).mono ?_ fun _ _ h => h
  intro _ w' h'
  rw [h']
  exact h₄

/-- The timer is off once it was stopped, whether it ran or not. -/
theorem ends_stopTimer {ticking : Bool} (h : Kept before holders ticking w.resources)
    {fails : Fault → World → Prop} :
    Ends Signals.stopTimer w (fun _ w' => Kept before holders false w'.resources) fails := by
  obtain ⟨howned, hholders, hticking⟩ := h
  unfold Signals.stopTimer
  refine ends_get_bind ?_
  cases hruns : w.signals.ticking with
  | true =>
      rw [if_pos rfl]
      refine (ends_setTimer false _ _).mono ?_ fun _ _ h => h
      intro _ w' h'
      rw [h']
      exact ⟨howned.timer false fun _ => rfl, hholders, rfl⟩
  | false => exact ⟨howned, hholders, hruns⟩

/-! ## Loop -/

namespace Loop

/-- What the clean-up starts from: every socket has a holder, and the timer does not run if it was not
    asked for. -/
def Cleanable (before : List Call)
    (holders : List (Option SocketId) → List (Family × SocketId) → Prop) (timed : Bool)
    (r : Resources) : Prop :=
  ∃ ticking, Kept before holders ticking r ∧ (timed = false → ticking = false)

/-- What the clean-up leaves: every socket is closed, and the timer is off. -/
structure Swept (before : List Call) (r : Resources) : Prop where
  unused : r.Unused
  owned : Owned before [] r
  ticking : r.ticking = false

variable {t : Transport} {display : Display}

theorem ends_cleanup (ht : t.Tidy holders) {timed : Bool}
    (h : Cleanable before holders timed w.resources) :
    Ends (do
        if timed then Signals.stopTimer
        t.close) w (fun _ w' => Swept before w'.resources) fun _ _ => False := by
  have hclose : ∀ w₁ : World, Kept before holders false w₁.resources →
      Ends t.close w₁ (fun _ w' => Swept before w'.resources) fun _ _ => False := by
    intro w₁ hkept
    refine (ht.close hkept).mono ?_ fun _ _ h => h
    rintro _ w' ⟨hunused, howned, hticking⟩
    exact ⟨hunused, howned, hticking⟩
  obtain ⟨ticking, hkept, huntimed⟩ := h
  cases timed with
  | true => exact (ends_stopTimer hkept).bind fun _ _ h => hclose _ h
  | false =>
      obtain rfl := huntimed rfl
      exact hclose w hkept

/-- Iterating, and taking note of it, leaves what there is to clean up after. -/
theorem ends_iterate (ht : t.Tidy holders) (hdisplay : display.Aside) {timed : Bool} (fuel : Nat)
    (h : Cleanable before holders timed w.resources) :
    Ends (do
        let steps ← iterate t display 0 fuel
        match steps with
        | some n => log .debug s!"Leaving main loop after {n} iterations"
        | none => pure ()
        pure steps) w
      (fun _ w' => Cleanable before holders timed w'.resources)
      fun _ w' => Cleanable before holders timed w'.resources := by
  have haside : Aside (do
      let steps ← iterate t display 0 fuel
      match steps with
      | some n => log .debug s!"Leaving main loop after {n} iterations"
      | none => pure ()
      pure steps) := by
    refine keeps_bind (keeps_iterate (fun _ _ _ _ _ => rfl) hdisplay.redraw hdisplay.tick
      ht.step 0 fuel) fun steps => ?_
    cases steps with
    | none => exact keeps_pure none
    | some n => exact keeps_bind (aside_log _ _) fun _ => keeps_pure (some n)
  refine (ends_of_aside haside).mono ?_ ?_
  · intro _ w' h'
    rw [h']
    exact h
  · intro _ w' h'
    rw [h']
    exact h

/-- The part of the loop that is cleaned up after can break off anywhere. -/
theorem ends_body (ht : t.Tidy holders) (hdisplay : display.Aside) (timed : Bool) (fuel : Nat)
    (hready : Ready w) (hunused : w.resources.Unused) (howned : Owned before [] w.resources)
    (hticking : w.resources.ticking = false) :
    Ends (do
        t.start
        if timed then Signals.startTimer
        let steps ← iterate t display 0 fuel
        match steps with
        | some n => log .debug s!"Leaving main loop after {n} iterations"
        | none => pure ()
        pure steps) w
      (fun _ w' => Cleanable before holders timed w'.resources)
      fun _ w' => Cleanable before holders timed w'.resources := by
  have hstart := ht.start hready hunused howned
  rw [hticking] at hstart
  refine ends_bind (hstart.mono ?_ fun _ _ h => ⟨false, h, fun _ => rfl⟩)
  intro _ w₁ h₁
  cases timed with
  | false => exact ends_iterate ht hdisplay fuel ⟨false, h₁, fun _ => rfl⟩
  | true =>
      -- A timer that could not be started is not armed; one that was, is to be stopped.
      refine ends_bind ((ends_startTimer h₁).mono ?_ ?_)
      · intro _ w₂ h₂
        refine ends_iterate ht hdisplay fuel ⟨true, h₂, ?_⟩
        intro huntimed
        cases huntimed
      · exact fun _ w₂ h₂ => ⟨false, h₂, fun _ => rfl⟩

/-- **A loop with a tidy transport** leaves nothing behind: its clean-up finds every socket with a
    holder, and takes it from there. -/
theorem ends_run (ht : t.Tidy holders) (hdisplay : display.Aside) (timed : Bool) (fuel : Nat)
    (hready : Ready w) (hunused : w.resources.Unused) (howned : Owned before [] w.resources)
    (hticking : w.resources.ticking = false) :
    Ends (run t display timed fuel) w (fun _ w' => Swept before w'.resources)
      fun _ w' => Swept before w'.resources := by
  unfold run
  refine ends_ensuring ((ends_body ht hdisplay timed fuel hready hunused howned hticking).mono ?_ ?_)
  · exact fun _ w₁ h₁ => (ends_cleanup ht h₁).mono (fun _ _ h => h) fun _ _ h => h.elim
  · exact fun _ w₁ h₁ => (ends_cleanup ht h₁).mono (fun _ _ h => h) fun _ _ h => h.elim

/-! ## Result -/

/-- **Everything is given back.** No two sockets have one number, each that was opened was closed
    exactly once and not before, and the timer was stopped if it was ever started. -/
structure Settled (calls : List Call) : Prop where
  fresh : (openedBy calls).Nodup
  once : ∀ id ∈ openedBy calls, (closedBy calls).count id = 1
  ordered : ∀ n, closedBy (calls.take n) ⊆ openedBy (calls.take n)
  unarmed : Unarmed calls

/-- What was taken in between was given back, and nobody holds anything. -/
structure Released (w w' : World) : Prop where
  settled : ∃ calls, w'.host.trace.toList.filter Call.isAccounted =
    w.host.trace.toList.filter Call.isAccounted ++ calls ∧ Settled calls
  sessions : ∀ s ∈ w'.table.sessions, s.socket = none
  uplinks : w'.uplinks = []
  ticking : w'.signals.ticking = false

theorem Swept.released {w w' : World} (h : Swept w.resources.calls w'.resources) :
    Released w w' := by
  obtain ⟨hunused, ⟨calls, hcalls, hledger, -, hunarmed⟩, hticking⟩ := h
  rw [hunused.held] at hledger
  have hperm : (openedBy calls).Perm (closedBy calls) := by
    simpa using hledger.balanced
  refine ⟨⟨calls, hcalls, hledger.fresh, ?_, hledger.ordered, hunarmed hticking⟩, ?_, hunused.2,
    hticking⟩
  · intro id hid
    rw [← hperm.count_eq, hledger.fresh.count, if_pos hid]
  · intro s hs
    exact hunused.1 s.socket (List.mem_map_of_mem hs)

/-- **The loop gives everything back.** Sender or receiver, with any display that does not interfere,
    with or without a timer, and with any refusals by the system, events and faults while waiting, and
    any events while the sockets are opened: wherever the loop ends, every socket that it opened was
    closed once, no session and no uplink holds one, and the timer is off. Ports have 16 bits, and the
    sender's hop limit is a number of 32 bits; other numbers are refused before the system sees
    them. -/
theorem run_releases_all (role : Sender ⊕ Receiver) {t : Transport}
    (ht : t = role.elim Sender.transport Receiver.transport ∨
      t = (role.elim Sender.transport Receiver.transport).attending)
    {display : Display} (hdisplay : display.Aside) (timed : Bool) (fuel : Nat) {w : World}
    (hports : w.table.HasPorts) (hhops : ∀ s, role = .inl s → fitsSigned 32 s.ttl = true)
    (hindexes : w.host.IndexesFit) (hoptions : w.host.RefusesBySystem .setOption)
    (hbinds : w.host.RefusesBySystem .bind)
    (hsessions : ∀ s ∈ w.table.sessions, s.socket = none) (huplinks : w.uplinks = [])
    (hticking : w.signals.ticking = false) :
    Released w ((run t display timed fuel).after w) := by
  have hready : Ready w :=
    ⟨hindexes, hports, World.refusesBySystem_iff.2 hoptions, World.refusesBySystem_iff.2 hbinds⟩
  have hunused : w.resources.Unused := ⟨List.forall_mem_map.2 hsessions, huplinks⟩
  have howned : Owned w.resources.calls [] w.resources := .start hunused
  have hreleased : ∀ {holders}, t.Tidy holders → Released w ((run t display timed fuel).after w) :=
    fun htidy => (ends_run htidy hdisplay timed fuel hready hunused howned hticking).after.released
  cases role with
  | inl s =>
      have htidy := s.tidy (hhops s rfl)
      rcases ht with rfl | rfl
      · exact hreleased htidy
      · exact hreleased htidy.attending
  | inr r =>
      rcases ht with rfl | rfl
      · exact hreleased r.tidy
      · exact hreleased r.tidy.attending

/-- Two groups on an interface, the second of which cannot be bound to its port. -/
def refused : World where
  flags := { period := .ofNat 1 }
  table := { sessions := [
    { source := none, group := "225.1.2.3", target := some ⟨.v4 0xe1010203, 1234⟩ },
    { source := none, group := "225.1.2.4", target := some ⟨.v4 0xe1010204, 1234⟩ }] }
  host := {
    interfaces := [(3, "eth0")]
    failures := [⟨.bind, some 2, .system ⟨some 98, "Address already in use"⟩⟩] }

/-- A start that breaks off at its second group closes both sockets. -/
theorem refused_is_released :
    let w' := (run (Receiver.transport { interface := "eth0", period := .ofNat 1 })
      (Dashboard.display .terminal) true 5).after refused
    Released refused w' ∧ openedBy w'.host.trace.toList = [1, 2] ∧
      closedBy w'.host.trace.toList = [2, 1] := by
  refine ⟨run_releases_all (.inr _) (Or.inl rfl) Dashboard.aside_terminal true 5 ?_ ?_ ?_ ?_ ?_ ?_
    rfl rfl, ?_, ?_⟩
  · decide
  · exact fun s h => (by cases h)
  · unfold Host.IndexesFit
    decide
  · unfold Host.RefusesBySystem
    decide
  · unfold Host.RefusesBySystem
    decide
  · decide
  · decide +kernel
  · decide +kernel

end Loop

end Multicast
