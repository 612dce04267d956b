import Multicast.Proofs.Loop.Prospect

/-!
# `Proofs.Loop.Termination` — the loop comes to an end

Each wait takes its events off the script, and behind the script every wait brings the same ones. With
a signal among those that the loop listens to, the loop ends one step behind the script at the latest.
A run that returns therefore tells how many steps it took: it has never run out of them.

## Contents
- **Nearing.** `World.Bounded`, `World.ahead`, the steps ahead of a loop; `World.Nears` and
  `World.Nearer`, with what comes of both.
- **Steps.** `Frame.nearing` and `Act.Advances`, one lemma for each way of composing steps.
- **Waiting.** `Act.advances_await`, then `Sender.advances_step` and `Receiver.advances_step`.
- **Loop.** `Loop.exists_of_iterate` and `Loop.exists_of_run`.
-/

namespace Multicast

open Act

/-! ## Nearing -/

namespace World

variable {u v w : World}

/-- Behind the script, every wait ends the loop. -/
structure Bounded (w : World) : Prop where
  handler : w.host.handlers .terminate = .loop .stopLoop
  idle : .signal .terminate ∈ w.host.idle

/-- The most steps that are ahead of a loop: one for each wait of the script, and one behind it. -/
def ahead (w : World) : Nat := if w.flags.running then w.host.script.length + 1 else 0

/-- A loop gets no further away from its end. -/
structure Nears (w w' : World) : Prop where
  handlers : w'.host.handlers = w.host.handlers
  idle : w'.host.idle = w.host.idle
  script : w'.host.script.length ≤ w.host.script.length
  running : w'.flags.running = true → w.flags.running = true

/-- A loop gets nearer to its end, or has ended. -/
structure Nearer (w w' : World) : Prop extends w.Nears w' where
  shorter : w'.flags.running = true → w'.host.script.length < w.host.script.length

theorem Nears.refl (w : World) : w.Nears w := ⟨rfl, rfl, le_rfl, id⟩

theorem Nears.trans (h : u.Nears v) (h' : v.Nears w) : u.Nears w where
  handlers := h'.handlers.trans h.handlers
  idle := h'.idle.trans h.idle
  script := h'.script.trans h.script
  running hw := h.running (h'.running hw)

theorem Nears.bounded (h : v.Nears w) (hv : v.Bounded) : w.Bounded := by
  refine ⟨?_, ?_⟩
  · rw [h.handlers]
    exact hv.handler
  · rw [h.idle]
    exact hv.idle

theorem Nears.trans_nearer (h : u.Nears v) (h' : v.Nearer w) : u.Nearer w where
  toNears := h.trans h'.toNears
  shorter hw := (h'.shorter hw).trans_le h.script

theorem Nearer.trans_nears (h : u.Nearer v) (h' : v.Nears w) : u.Nearer w where
  toNears := h.toNears.trans h'
  shorter hw := h'.script.trans_lt (h.shorter (h'.running hw))

/-- What brings a running loop nearer to its end leaves it fewer steps. -/
theorem Nearer.ahead_lt (h : v.Nearer w) (hrunning : v.flags.running = true) : w.ahead < v.ahead := by
  unfold ahead
  rw [if_pos hrunning]
  split
  · next hw => exact Nat.succ_lt_succ (h.shorter hw)
  · exact Nat.succ_pos _

/-- What leaves the prospect of a loop brings it no further from its end. -/
theorem nears_of_prospect (h : (Frame.of World.prospect).rel v w) : v.Nears w where
  handlers := congrArg Prospect.handlers h
  idle := congrArg Prospect.idle h
  script := (congrArg (fun p => p.script.length) h).le
  running hw := (congrArg Prospect.running h).symm.trans hw

end World

/-! ## Steps -/

/-- Getting no further away from the end. -/
def Frame.nearing : Frame := ⟨World.Nears, .refl, .trans⟩

theorem stepping_nearing : Frame.nearing.Stepping where
  call _ _ _ := World.nears_of_prospect rfl
  check kind w := World.nears_of_prospect (prospect_check kind w)
  log level message w := World.nears_of_prospect (prospect_log level message w)
  flags _ _ _ _ hrunning := ⟨rfl, rfl, le_rfl, hrunning⟩
  script _ _ _ hscript := ⟨rfl, rfl, by rw [hscript]; exact Nat.le_succ _, id⟩
  terminal _ _ := World.nears_of_prospect rfl
  clock _ _ := World.nears_of_prospect rfl
  watched _ _ _ := World.nears_of_prospect rfl
  session i f w _ := by
    obtain ⟨sessions, hafter⟩ := after_modifySession i f w
    rw [hafter]
    exact ⟨rfl, rfl, le_rfl, id⟩

namespace Act

variable {α β : Type} {w w' : World}

/-- Where every wait behind the script ends the loop, the step brings it nearer to its end if it
    returns. -/
def Advances (act : Act α) : Prop := ∀ ⦃w a w'⦄, w.Bounded → act w = .ok a w' → w.Nearer w'

theorem advances_bind {x : Act α} {f : α → Act β} (hx : Keeps .nearing x) (hf : ∀ a, Advances (f a)) :
    Advances (x >>= f) := by
  intro w b w' hw hb
  obtain ⟨a, w₁, ha, hb⟩ := bind_eq_ok.1 hb
  have hnears := rel_of_ok hx ha
  exact hnears.trans_nearer (hf a (hnears.bounded hw) hb)

theorem Advances.bind {x : Act α} {f : α → Act β} (hx : Advances x) (hf : ∀ a, Keeps .nearing (f a)) :
    Advances (x >>= f) := by
  intro w b w' hw hb
  obtain ⟨a, w₁, ha, hb⟩ := bind_eq_ok.1 hb
  exact (hx hw ha).trans_nears (rel_of_ok (hf a) hb)

theorem Advances.recover_throw {x : Act α} (hx : Advances x) (handles : Fault → Bool)
    (fault : Fault → Fault) : Advances (recover x handles fun e => throw (fault e)) :=
  fun _ _ _ hw ha => hx hw (recover_throw_eq_ok.1 ha)

/-! ## Waiting -/

/-- A signal that ends the loop does so, whatever else happens in the same wait. -/
theorem running_of_forM_play {events : List Event} (hsignal : .signal .terminate ∈ events)
    (hhandler : w.host.handlers .terminate = .loop .stopLoop) (hplay : events.forM play w = .ok () w') :
    w'.flags.running = false := by
  induction events generalizing w with
  | nil => cases hsignal
  | cons e events ih =>
      obtain ⟨_, w₁, hfirst, hrest⟩ :=
        bind_eq_ok.1 (hplay : (play e >>= fun _ => events.forM play) w = .ok () w')
      rcases List.mem_cons.1 hsignal with rfl | hlater
      · have hstopped : play (.signal .terminate) w =
            .ok () { w with flags := { w.flags with running := false } } := by
          show deliver .terminate w = _
          unfold deliver
          rw [bind_of_ok (get_apply w), hhandler]
          rfl
        rw [hstopped] at hfirst
        cases hfirst
        -- The other events of the wait do not let the loop run again.
        have hnears := rel_of_ok (keeps_forM fun e _ => stepping_nearing.toWaiting.play e) hrest
        exact Bool.eq_false_iff.2 fun hruns => Bool.false_ne_true (hnears.running hruns)
      · have hnears := rel_of_ok (stepping_nearing.toWaiting.play e) hfirst
        exact ih hlater (hnears.handlers ▸ hhandler) hrest

/-- **A wait** takes its events off the script, or ends the loop. -/
theorem advances_await : Advances await := by
  intro w _ w' hw hawait
  unfold await at hawait
  obtain ⟨events, w₁, hnext, hplay⟩ := bind_eq_ok.1 hawait
  have hplayed : w₁.Nears w' :=
    rel_of_ok (keeps_forM fun e _ => stepping_nearing.toWaiting.play e) hplay
  unfold nextEvents at hnext
  rw [bind_of_ok (get_apply w)] at hnext
  cases hscript : w.host.script with
  | nil =>
      rw [hscript] at hnext
      cases hnext
      have hstopped := running_of_forM_play hw.idle hw.handler hplay
      exact ⟨hplayed, fun hruns => absurd (hstopped.symm.trans hruns) Bool.false_ne_true⟩
  | cons events' rest =>
      rw [hscript] at hnext
      cases hnext
      have htaken : w.Nears { w with host := { w.host with script := rest } } :=
        stepping_nearing.script w _ rest hscript
      refine ⟨htaken.trans hplayed, fun _ => hplayed.script.trans_lt ?_⟩
      rw [hscript]
      exact Nat.lt_succ_self _

end Act

/-- A step of sending pauses once. -/
theorem Sender.advances_step (s : Sender) : Advances s.step := by
  have hcall : ∀ q, Keeps .nearing (submit (.pause q)) := fun q =>
    keeps_submit (stepping_nearing.call _ rfl)
  unfold step
  refine advances_bind (keeps_measured _) fun q => advances_bind (hcall q) fun _ => ?_
  refine advances_await.bind fun _ => keeps_bind keeps_get fun w => ?_
  refine keeps_bind (keeps_sendFrom stepping_nearing.toWaiting s 0 ?_) fun _ => ?_
  · exact fun _ _ _ _ _ _ _ => stepping_nearing.call _ rfl
  · exact keeps_finishWhenDone stepping_nearing.toReading _ _

/-- A step of receiving waits once. -/
theorem Receiver.advances_step (r : Receiver) : Advances r.step := by
  have hattempt : ∀ q, Keeps .nearing (attempt .select (.select q)) := fun q =>
    keeps_attempt (stepping_nearing.call _ rfl) (stepping_nearing.check _)
  have hwait : Advances r.wait := by
    refine Advances.recover_throw ?_ Fault.isSystem fun e => .transport (.waiting e.message)
    refine advances_bind (keeps_measured _) fun q => advances_bind (hattempt q) fun _ => ?_
    exact advances_await.bind fun _ => keeps_bind keeps_get fun w => keeps_pure _
  exact hwait.bind fun ready => keeps_serve stepping_nearing.toWaiting r ready

/-! ## Loop -/

namespace Loop

variable {t : Transport} {display : Display} {w w' : World} {n : Option Nat} {fuel : Nat}

/-- **Iterating** has come to its end when it returns, with as many steps to spare as are ahead. -/
theorem exists_of_iterate (hpresent : ∀ first, Keeps .nearing (present display first))
    (hstep : Advances t.step) {steps : Nat} (hw : w.Bounded) (hfuel : w.ahead < fuel)
    (hiterate : iterate t display steps fuel w = .ok n w') : ∃ k, n = some k := by
  induction fuel generalizing steps w with
  | zero => exact absurd hfuel (Nat.not_lt_zero _)
  | succ fuel ih =>
      unfold iterate at hiterate
      rw [bind_of_ok (get_apply w)] at hiterate
      by_cases hrunning : w.flags.running = true
      · rw [if_pos hrunning] at hiterate
        obtain ⟨_, w₁, hpresented, hiterate⟩ := bind_eq_ok.1 hiterate
        obtain ⟨_, w₂, hstepped, hiterate⟩ := bind_eq_ok.1 hiterate
        have hnears := rel_of_ok (hpresent _) hpresented
        have hnearer := hnears.trans_nearer (hstep (hnears.bounded hw) hstepped)
        have hless := hnearer.ahead_lt hrunning
        exact ih (hnearer.bounded hw) (by omega) hiterate
      · rw [if_neg hrunning] at hiterate
        cases hiterate
        exact ⟨steps, rfl⟩

/-- **A run that returns tells its number of steps**, if it is given one for each wait of the script,
    one more behind that, and one to see that it is over. -/
theorem exists_of_run (hstart : Keeps .nearing t.start) (hstep : Advances t.step)
    (hredraw : ∀ resized, Keeps (.of World.prospect) (display.redraw resized))
    (htick : Keeps (.of World.prospect) display.tick) {timed : Bool} (hw : w.Bounded)
    (hfuel : w.host.script.length + 2 ≤ fuel) (hrun : run t display timed fuel w = .ok n w') :
    ∃ k, n = some k := by
  have hnearing : ∀ {α : Type} {act : Act α}, Keeps (.of World.prospect) act → Keeps .nearing act :=
    fun h => h.mono fun _ _ => World.nears_of_prospect
  have hpresent : ∀ first, Keeps .nearing (present display first) :=
    keeps_present stepping_nearing.flags (fun resized => hnearing (hredraw resized)) (hnearing htick)
  rw [run_eq] at hrun
  obtain ⟨_, hbody, -⟩ := ensuring_eq_ok.1 hrun
  rw [body_eq] at hbody
  obtain ⟨_, w₁, hstarted, hbody⟩ := bind_eq_ok.1 hbody
  obtain ⟨_, w₂, harmed, hbody⟩ := bind_eq_ok.1 hbody
  obtain ⟨m, w₃, hiterate, hnote⟩ := bind_eq_ok.1 hbody
  have hnears := (rel_of_ok hstart hstarted).trans
    (rel_of_ok (hnearing (prospect_timer timed).1) harmed)
  have hahead : w₂.ahead ≤ w₂.host.script.length + 1 := by
    unfold World.ahead
    split
    · exact le_rfl
    · exact Nat.zero_le _
  have hscript := hnears.script
  obtain ⟨k, rfl⟩ := exists_of_iterate hpresent hstep (hnears.bounded hw) (by omega) hiterate
  cases hnote
  exact ⟨k, rfl⟩

end Loop

end Multicast
