import Multicast.Proofs.Loop.Frame
import Multicast.Proofs.Loop.Ledger
import Multicast.Proofs.Loop.Schedule
import Multicast.Proofs.Quantity.Positive

/-!
# `Proofs.Signals.Restoring` — handlers and the timer are given back

The loop's handlers may be installed and taken out again, and its timer started and stopped, any number
of times and in any order. What was in force before the first installation is kept until the handlers
are taken out, and put back then; the note of whether the timer runs is right at every moment.

## Contents
- **Timer.** `World.timings`, with `World.TimerRuns` against `Unarmed`.
- **Reach.** `World.regard` for a signal, which only the signals that are listened to lose
  (`Signals.regard_install`, `Signals.regard_restore`).
- **Steps.** What `Signals.install`, `Signals.startTimer` and `Signals.restore` leave
  (`exists_forM_saveAndSet`, `startTimer_cases`, `exists_restore`).
- **Runs.** `Signals.Request` and `Signals.Run`; `Signals.Kept`, which every request keeps, and
  `Signals.handlers_and_timer_are_given_back`.
-/

namespace Multicast

open Act

/-! ## Timer -/

/-- What the timer was set to so far, in the order of the calls. -/
def World.timings (w : World) : List (Quantity × Quantity) :=
  w.host.trace.toList.filterMap Call.timer?

/-- The timer runs: the last time, it was set to go off, and to go on going off. -/
def World.TimerRuns (w : World) : Prop :=
  ∃ span ∈ w.timings.getLast?, span.1.Positive ∧ span.2.Positive

/-- A timer that runs is not off. -/
theorem World.TimerRuns.not_unarmed {w : World} (h : w.TimerRuns) :
    ¬Unarmed w.host.trace.toList := by
  intro hunarmed
  obtain ⟨span, hspan, hpositive, -⟩ := h
  rw [hunarmed span hspan] at hpositive
  exact absurd hpositive.2 (by decide)

/-- A call is among the timings if it sets the timer. -/
theorem World.timings_record (w : World) (c : Call) :
    World.timings { w with host := w.host.record c } = w.timings ++ [c].filterMap Call.timer? := by
  unfold timings Host.record
  rw [Array.toList_push, List.filterMap_append]

/-- Logging sets no timer. -/
theorem World.timings_log (w : World) (level : Level) (message : String) :
    World.timings { w with host := w.host.log level message } = w.timings := by
  refine Host.log_leaves (fun h => h.trace.toList.filterMap Call.timer?) (fun _ _ => rfl) ?_ _ _ _
  intro h r sink
  cases sink with
  | standardError | region => rfl
  | systemLog | file => simp [Host.deliver, Host.record, Call.timer?]

/-! ## Reach -/

/-- The call sets the handler of a signal. -/
def Call.sets (s : Signal) : Call → Bool
  | .setHandler t _ => t = s
  | _ => false

/-- What there is to a signal: the handler in force, and the calls that set it. -/
def World.regard (s : Signal) (w : World) : Disposition × List Call :=
  (w.host.handlers s, w.host.trace.toList.filter (Call.sets s))

namespace Signals

/-- The signals that the loop listens to. -/
def heard : List Signal := listened.map (·.1)

variable {w : World} {s : Signal}

theorem regard_call {c : Call} (hc : c.sets s = false) : Keeps (.of (World.regard s)) (call c) := by
  intro w
  show (w.host.handlers s, (w.host.trace.push c).toList.filter (Call.sets s)) = _
  rw [Array.toList_push, List.filter_append, List.filter_cons_of_neg (by simp [hc])]
  simp [World.regard]

theorem regard_log (level : Level) (message : String) :
    Keeps (.of (World.regard s)) (log level message) := by
  intro w
  refine Host.log_leaves (fun h => (h.handlers s, h.trace.toList.filter (Call.sets s)))
    (fun _ _ => rfl) ?_ _ _ _
  intro h r sink
  cases sink with
  | standardError | region => rfl
  | systemLog | file => simp [Host.deliver, Host.record, Call.sets]

/-- Setting the handler of one signal is nothing to another. -/
theorem regard_setHandler {t : Signal} (h : s ≠ t) (d : Disposition) :
    Keeps (.of (World.regard s)) (setHandler t d) := by
  refine keeps_bind (regard_call (decide_eq_false (Ne.symm h))) fun _ w => ?_
  show (if s = t then d else w.host.handlers s, _) = _
  rw [if_neg h]
  rfl

/-- Installing the handlers is nothing to the signals that are not listened to. -/
theorem regard_install (h : s ∉ heard) : Keeps (.of (World.regard s)) install := by
  refine keeps_forM fun p hp => keeps_bind ?_ fun _ => regard_setHandler ?_ _
  · unfold save
    refine keeps_get_bind fun w => ?_
    dsimp only
    split
    · rfl
    · rfl
  · rintro rfl
    exact h (List.mem_map_of_mem hp)

theorem regard_startTimer : Keeps (.of (World.regard s)) startTimer :=
  keeps_startTimer (fun w _ _ _ _ => regard_call rfl w) (fun _ => rfl) regard_log

theorem regard_stopTimer : Keeps (.of (World.regard s)) stopTimer :=
  keeps_stopTimer (regard_call rfl) fun _ => rfl

/-- Puts saved handlers back and forgets them. -/
def putBack (saved : List (Signal × Disposition)) : Act Unit := do
  saved.forM fun (s, d) => setHandler s d.restored
  modify fun w => { w with signals := { w.signals with saved := [] } }

/-- The handlers that are put back are those that are saved when the timer is stopped. -/
theorem restore_apply (w : World) : restore w = (stopTimer >>= fun _ => putBack w.signals.saved) w := by
  unfold restore
  rw [bind_of_ok (stopTimer_apply w), bind_of_ok (stopTimer_apply w)]
  split
  · rfl
  · rfl

/-- Putting the saved handlers back is nothing to a signal without one. -/
theorem regard_restore (h : s ∉ w.signals.saved.map (·.1)) :
    (restore.after w).regard s = w.regard s := by
  have hback : Keeps (.of (World.regard s)) (putBack w.signals.saved) := by
    refine keeps_bind (keeps_forM fun p hp => regard_setHandler ?_ _) fun _ _ => rfl
    rintro rfl
    exact h (List.mem_map_of_mem hp)
  have hafter : restore.after w = (stopTimer >>= fun _ => putBack w.signals.saved).after w := by
    unfold after
    rw [restore_apply]
  rw [hafter]
  exact keeps_bind regard_stopTimer (fun _ => hback) w

/-! ## Steps -/

/-- **Installing saves the handler in force for each signal that none is saved for.** -/
theorem exists_forM_saveAndSet (ps : List (Signal × Handler)) (hps : (ps.map (·.1)).Nodup)
    (w : World) :
    ∃ w', (ps.forM fun (s, handler) => do
      save s
      setHandler s (.loop handler)) w = .ok () w' ∧
        w'.flags = w.flags ∧ w'.timings = w.timings ∧
        w'.signals = { w.signals with
          saved := w.signals.saved ++ (ps.filter fun p => !w.signals.saved.any (·.1 = p.1)).map
            fun p => (p.1, w.host.handlers p.1) } := by
  induction ps generalizing w with
  | nil => exact ⟨w, rfl, rfl, rfl, by simp⟩
  | cons p ps ih =>
      rw [List.map_cons, List.nodup_cons] at hps
      obtain ⟨hnew, hrest⟩ := hps
      obtain ⟨w', hall, hflags, htimings, hsignals⟩ := ih hrest _
      refine ⟨w', (bind_of_ok (saveAndSet_apply p.1 p.2 w)).trans hall, hflags, ?_, ?_⟩
      · rw [htimings]
        exact (World.timings_record w _).trans (List.append_nil _)
      · -- The signals that are left are none for which anything was saved or set just now.
        have hothers : ∀ q ∈ ps, q.1 ≠ p.1 := by
          rintro q hq heq
          exact hnew (heq ▸ List.mem_map_of_mem hq)
        have hleft : ∀ q ∈ ps, ((if w.signals.saved.any (·.1 = p.1) then []
            else [(p.1, w.host.handlers p.1)]).any (·.1 = q.1)) = false := by
          intro q hq
          split
          · rfl
          · simp [(hothers q hq).symm]
        rw [hsignals]
        dsimp only
        congr 1
        rw [List.append_assoc, List.filter_cons]
        congr 1
        rw [List.filter_congr fun q hq => by rw [List.any_append, hleft q hq, Bool.or_false]]
        have hhandlers : (ps.filter fun q => !w.signals.saved.any (·.1 = q.1)).map (fun q =>
              (q.1, ((w.host.record (.setHandler p.1 (.loop p.2))).setHandler p.1 (.loop p.2)).handlers
                q.1)) =
            (ps.filter fun q => !w.signals.saved.any (·.1 = q.1)).map fun q =>
              (q.1, w.host.handlers q.1) := by
          refine List.map_congr_left fun q hq => ?_
          exact congrArg (q.1, ·) (if_neg (hothers q (List.mem_of_mem_filter hq)))
        rw [hhandlers]
        by_cases hany : w.signals.saved.any (·.1 = p.1)
        · simp [hany]
        · simp [hany]

/-- **Each saved handler is put back**, or the default action for one that cannot be named. -/
theorem exists_forM_setHandler (saved : List (Signal × Disposition)) (h : (saved.map (·.1)).Nodup)
    (w : World) :
    ∃ w', (saved.forM fun (s, d) => setHandler s d.restored) w = .ok () w' ∧
      w'.flags = w.flags ∧ w'.signals = w.signals ∧ w'.timings = w.timings ∧
      (∀ p ∈ saved, w'.host.handlers p.1 = p.2.restored) ∧
      ∀ s ∉ saved.map (·.1), w'.host.handlers s = w.host.handlers s := by
  induction saved generalizing w with
  | nil => exact ⟨w, rfl, rfl, rfl, rfl, by simp, fun _ _ => rfl⟩
  | cons p saved ih =>
      rw [List.map_cons, List.nodup_cons] at h
      obtain ⟨hnew, hrest⟩ := h
      let w₁ : World := { w with
        host := (w.host.record (.setHandler p.1 p.2.restored)).setHandler p.1 p.2.restored }
      have hset : setHandler p.1 p.2.restored w = .ok () w₁ := rfl
      obtain ⟨w', hall, hflags, hsignals, htimings, hin, hout⟩ := ih hrest w₁
      refine ⟨w', (bind_of_ok hset).trans hall, hflags, hsignals, ?_, ?_, ?_⟩
      · rw [htimings]
        exact (World.timings_record w _).trans (List.append_nil _)
      · intro q hq
        rcases List.mem_cons.1 hq with rfl | hq
        · rw [hout q.1 hnew]
          exact if_pos rfl
        · exact hin q hq
      · intro s hs
        rw [List.map_cons, List.mem_cons, not_or] at hs
        rw [hout s hs.2]
        exact if_neg hs.1

theorem timings_stopTimer (w : World) :
    (stopTimer.after w).timings =
      w.timings ++ if w.signals.ticking then [(.ofNat 0, .ofNat 0)] else [] := by
  rw [after_of_ok (stopTimer_apply w)]
  split
  · exact World.timings_record w _
  · exact (List.append_nil _).symm

/-- **Taking the handlers out** stops the timer, puts the saved handlers back and forgets them. -/
theorem exists_restore (h : (w.signals.saved.map (·.1)).Nodup) :
    ∃ w', restore w = .ok () w' ∧ w'.flags = w.flags ∧ w'.signals = {} ∧
      (w'.timings = w.timings ++ if w.signals.ticking then [(.ofNat 0, .ofNat 0)] else []) ∧
      ∀ p ∈ w.signals.saved, w'.host.handlers p.1 = p.2.restored := by
  have hstopped : (stopTimer.after w).flags = w.flags ∧
      (stopTimer.after w).signals = { w.signals with ticking := false } := by
    rw [after_of_ok (stopTimer_apply w)]
    split
    · exact ⟨rfl, rfl⟩
    · rename_i hticking
      rw [← Bool.eq_false_iff.2 hticking]
      exact ⟨rfl, rfl⟩
  obtain ⟨w₂, hback, hflags, hsignals, htimings, hhandlers, -⟩ :=
    exists_forM_setHandler w.signals.saved h (stopTimer.after w)
  refine ⟨{ w₂ with signals := { w₂.signals with saved := [] } }, ?_, ?_, ?_, ?_, hhandlers⟩
  · rw [restore_apply, bind_of_ok (stopTimer_apply w)]
    rw [after_of_ok (stopTimer_apply w)] at hback
    exact bind_of_ok hback
  · exact hflags.trans hstopped.1
  · rw [hsignals, hstopped.2]
  · exact htimings.trans (timings_stopTimer w)

/-- With nothing saved and the timer stopped, there is nothing to give back. -/
theorem restore_of_nothing (h : w.signals = {}) : restore w = .ok () w := by
  have hsaved : w.signals.saved = [] := congrArg (·.saved) h
  have hticking : w.signals.ticking = false := congrArg (·.ticking) h
  have hsame : { w with signals := { w.signals with saved := [] } } = w := by rw [← hsaved]
  rw [restore_apply, bind_of_ok (stopTimer_apply w), hticking, hsaved]
  exact congrArg (EStateM.Result.ok ()) hsame

/-- **Starting the timer** sets it to the spans of the flags and takes note of it, or fails and leaves
    everything as it was. -/
theorem startTimer_cases (w : World) :
    startTimer.after w = w ∨ ∃ first interval,
      w.flags.settle = .span first ∧ w.flags.period = .span interval ∧
        (startTimer.after w).flags = w.flags ∧
        (startTimer.after w).signals = { w.signals with ticking := true } ∧
        (startTimer.after w).timings = w.timings ++ [(first, interval)] := by
  cases hsettle : w.flags.settle with
  | excessive =>
      refine Or.inl ?_
      unfold after startTimer
      rw [bind_of_ok (get_apply w), hsettle]
      rfl
  | span first =>
      cases hperiod : w.flags.period with
      | excessive =>
          refine Or.inl ?_
          unfold after startTimer
          rw [bind_of_ok (get_apply w), hsettle, hperiod]
          rfl
      | span interval =>
          cases hobjection : w.host.objection? (.setTimer first interval) with
          | some e =>
              exact Or.inl (after_of_error (startTimer_of_objection hsettle hperiod hobjection))
          | none =>
              refine Or.inr ⟨first, interval, rfl, rfl, ?_⟩
              have hstart := startTimer_apply hsettle hperiod hobjection
              rw [log_apply] at hstart
              rw [after_of_ok hstart]
              refine ⟨rfl, rfl, ?_⟩
              exact (World.timings_log _ _ _).trans (World.timings_record w _)

/-! ## Runs -/

/-- What can be asked for. -/
inductive Request where
  | install
  | startTimer
  | stopTimer
  | restore
deriving Repr, DecidableEq

/-- What a request does. -/
def Request.run : Request → Act Unit
  | install => Signals.install
  | startTimer => Signals.startTimer
  | stopTimer => Signals.stopTimer
  | restore => Signals.restore

/-- The handlers that were in force before the first installation since they were last put back, once
    a request is carried out. -/
def Request.before (w : World) (before : Option (Signal → Disposition)) :
    Request → Option (Signal → Disposition)
  | install => some (before.getD w.host.handlers)
  | startTimer | stopTimer => before
  | restore => none

/-- The spans of the timer are above zero, if they can be waited for. -/
structure Lasting (f : Flags) : Prop where
  settle : ∀ span, f.settle = .span span → span.Positive
  period : ∀ span, f.period = .span span → span.Positive

/-- Requests in any order, however they end. In between, nobody else saves handlers or sets the
    timer. -/
inductive Run (w₀ : World) : Option (Signal → Disposition) → World → Prop
  | start : Run w₀ none w₀
  | request {before : Option (Signal → Disposition)} {w : World} (h : Run w₀ before w) (r : Request) :
    Run w₀ (r.before w before) (r.run.after w)
  | meanwhile {before : Option (Signal → Disposition)} {w w' : World} (h : Run w₀ before w)
    (hsignals : w'.signals = w.signals) (htimings : w'.timings = w.timings)
    (hspans : Lasting w'.flags) : Run w₀ before w'

/-- What is saved of the handlers that were in force before, if there are any. -/
def savedOf : Option (Signal → Disposition) → List (Signal × Disposition)
  | none => []
  | some handlers => listened.map fun p => (p.1, handlers p.1)

/-- **What every request keeps**: the handlers of before are saved, and the note of the timer is
    right. -/
structure Kept (before : Option (Signal → Disposition)) (w : World) : Prop where
  saved : w.signals.saved = savedOf before
  runs : w.signals.ticking = true → w.TimerRuns
  rests : w.signals.ticking = false → Unarmed w.host.trace.toList
  spans : Lasting w.flags

namespace Kept

variable {before : Option (Signal → Disposition)}

/-- No signal is saved twice, and none that is not listened to. -/
theorem keys (h : Kept before w) :
    (w.signals.saved.map (·.1)).Nodup ∧ w.signals.saved.map (·.1) ⊆ heard := by
  rw [h.saved]
  cases before with
  | none => exact ⟨List.nodup_nil, List.nil_subset _⟩
  | some handlers =>
      have hkeys : (savedOf (some handlers)).map (·.1) = heard := by
        rw [savedOf, List.map_map]
        rfl
      rw [hkeys]
      exact ⟨by decide, List.Subset.refl _⟩

/-- What is saved may change, as long as the timer is not set. -/
theorem of_saved {before' : Option (Signal → Disposition)} {w' : World} (h : Kept before w)
    (hsaved : w'.signals.saved = savedOf before') (hticking : w'.signals.ticking = w.signals.ticking)
    (htimings : w'.timings = w.timings) (hspans : Lasting w'.flags) : Kept before' w' := by
  refine ⟨hsaved, ?_, ?_, hspans⟩
  · intro hruns
    rw [hticking] at hruns
    obtain ⟨span, hspan, hpositive⟩ := h.runs hruns
    exact ⟨span, by rwa [htimings], hpositive⟩
  · intro hrests span hspan
    rw [hticking] at hrests
    apply h.rests hrests span
    rwa [← World.timings, ← htimings]

/-- A first installation saves what was in force, a further one saves nothing. -/
theorem install (h : Kept before w) :
    Kept (some (before.getD w.host.handlers)) (Signals.install.after w) := by
  obtain ⟨w', hinstall, hflags, htimings, hsignals⟩ := exists_forM_saveAndSet listened (by decide) w
  have hafter : Signals.install.after w = w' := after_of_ok hinstall
  rw [hafter]
  have hspans : Lasting w'.flags := by
    rw [hflags]
    exact h.spans
  apply h.of_saved ?_ (by rw [hsignals]) htimings hspans
  rw [hsignals, h.saved]
  cases before with
  | none => simp [savedOf]
  | some handlers =>
      have hnone : (listened.filter fun p => !(savedOf (some handlers)).any (·.1 = p.1)) = [] := by
        rw [List.filter_eq_nil_iff]
        intro p hp
        have hany : (savedOf (some handlers)).any (·.1 = p.1) :=
          List.any_eq_true.2 ⟨_, List.mem_map_of_mem hp, by simp⟩
        simp [hany]
      rw [hnone]
      exact List.append_nil _

theorem startTimer (h : Kept before w) : Kept before (Signals.startTimer.after w) := by
  rcases startTimer_cases w with hsame | ⟨first, interval, hsettle, hperiod, hflags, hsignals, htimings⟩
  · rw [hsame]
    exact h
  · refine ⟨?_, ?_, ?_, hflags ▸ h.spans⟩
    · rw [hsignals]
      exact h.saved
    · intro _
      refine ⟨(first, interval), ?_, h.spans.settle first hsettle, h.spans.period interval hperiod⟩
      rw [htimings, List.getLast?_concat]
      rfl
    · rw [hsignals]
      intro hrests
      cases hrests

theorem stopTimer (h : Kept before w) : Kept before (Signals.stopTimer.after w) := by
  by_cases hticking : w.signals.ticking
  · have htimings := timings_stopTimer w
    have hstop := after_of_ok (stopTimer_apply w)
    rw [if_pos hticking] at hstop htimings
    refine ⟨?_, ?_, ?_, ?_⟩
    · rw [hstop]
      exact h.saved
    · rw [hstop]
      intro hruns
      cases hruns
    · intro _ span hspan
      rw [← World.timings, htimings, List.getLast?_concat] at hspan
      exact (Option.some.inj hspan).symm
    · rw [hstop]
      exact h.spans
  · have hstop := after_of_ok (stopTimer_apply w)
    rw [if_neg hticking] at hstop
    rw [hstop]
    exact h

/-- Once the handlers are taken out, nothing is saved, the timer is off, and each saved handler is in
    force again. -/
theorem restore (h : Kept before w) :
    ∃ w', Signals.restore w = .ok () w' ∧ w'.signals = {} ∧ Kept none w' ∧
      ∀ handlers ∈ before, ∀ s ∈ heard, w'.host.handlers s = (handlers s).restored := by
  obtain ⟨w', hrestore, hflags, hsignals, htimings, hhandlers⟩ := exists_restore h.keys.1
  refine ⟨w', hrestore, hsignals, ⟨?_, ?_, ?_, ?_⟩, ?_⟩
  · rw [hsignals]
    rfl
  · rw [hsignals]
    intro hruns
    cases hruns
  · intro _ span hspan
    rw [← World.timings, htimings] at hspan
    by_cases hticking : w.signals.ticking
    · rw [if_pos hticking, List.getLast?_concat] at hspan
      exact (Option.some.inj hspan).symm
    · rw [if_neg hticking, List.append_nil] at hspan
      exact h.rests (Bool.eq_false_iff.2 hticking) span hspan
  · rw [hflags]
    exact h.spans
  · rintro handlers hbefore s hs
    obtain ⟨p, hp, rfl⟩ := List.mem_map.1 hs
    obtain rfl := Option.mem_def.1 hbefore
    apply hhandlers (p.1, handlers p.1)
    rw [h.saved]
    exact List.mem_map_of_mem hp

/-- **Every request keeps it.** -/
theorem request (h : Kept before w) (r : Request) : Kept (r.before w before) (r.run.after w) := by
  cases r with
  | install => exact h.install
  | startTimer => exact h.startTimer
  | stopTimer => exact h.stopTimer
  | restore =>
      obtain ⟨w', hrestore, -, hkept, -⟩ := h.restore
      have hafter : Signals.restore.after w = w' := after_of_ok hrestore
      exact hafter ▸ hkept

end Kept

/-- A run keeps it, from where nothing is saved and the timer is off. -/
theorem Run.kept {w₀ : World} {before : Option (Signal → Disposition)} (h : Run w₀ before w)
    (hstart : Kept none w₀) : Kept before w := by
  induction h with
  | start => exact hstart
  | request _ r ih => exact ih.request r
  | meanwhile _ hsignals htimings hspans ih =>
      exact ih.of_saved (hsignals ▸ ih.saved) (congrArg (·.ticking) hsignals) htimings hspans

/-- No request reaches a signal that is not listened to. -/
theorem Kept.regard_request {before : Option (Signal → Disposition)} (h : Kept before w)
    (hs : s ∉ heard) (r : Request) : (r.run.after w).regard s = w.regard s := by
  cases r with
  | install => exact regard_install hs w
  | startTimer => exact regard_startTimer w
  | stopTimer => exact regard_stopTimer w
  | restore =>
      apply regard_restore
      intro hmem
      exact hs (h.keys.2 hmem)

/-- **Handlers and the timer are given back**, after any requests in any order: what is saved are the
    handlers of before the first installation; taking them out puts each of them back, stops the timer,
    and does nothing the second time; other signals are let alone; and the timer runs exactly if it is
    noted to. -/
theorem handlers_and_timer_are_given_back {w₀ : World} {before : Option (Signal → Disposition)}
    (hstart : w₀.signals = {}) (htimer : Unarmed w₀.host.trace.toList) (hspans : Lasting w₀.flags)
    (h : Run w₀ before w) :
    w.signals.saved = savedOf before ∧
      (w.signals.ticking = true ↔ w.TimerRuns) ∧
      (w.signals.ticking = false ↔ Unarmed w.host.trace.toList) ∧
      (∃ w', restore w = .ok () w' ∧ Unarmed w'.host.trace.toList ∧ restore w' = .ok () w' ∧
        ∀ handlers ∈ before, ∀ s ∈ heard, w'.host.handlers s = (handlers s).restored) ∧
      ∀ (r : Request), ∀ s ∉ heard, (r.run.after w).regard s = w.regard s := by
  have hkept₀ : Kept none w₀ := by
    refine ⟨by rw [hstart]; rfl, ?_, fun _ => htimer, hspans⟩
    rw [hstart]
    intro hruns
    cases hruns
  have hkept := h.kept hkept₀
  refine ⟨hkept.saved, ⟨hkept.runs, ?_⟩, ⟨hkept.rests, ?_⟩, ?_, fun r s hs => hkept.regard_request hs r⟩
  · intro hruns
    by_contra hticking
    exact hruns.not_unarmed (hkept.rests (Bool.eq_false_iff.2 hticking))
  · intro hunarmed
    by_contra hticking
    exact (hkept.runs (eq_true_of_ne_false hticking)).not_unarmed hunarmed
  · obtain ⟨w', hrestore, hsignals, hkept', hhandlers⟩ := hkept.restore
    refine ⟨w', hrestore, hkept'.rests (by rw [hsignals]), ?_, hhandlers⟩
    exact restore_of_nothing hsignals

/-- A host on which one handler is known by its name and one cannot be named. -/
def handled : World where
  host := {
    handlers := fun
      | .interrupt => .named "default_int_handler"
      | .hangup => .unknown
      | _ => .default }
  flags := { period := .ofNat 1 }

/-- A second installation saves nothing, so that the handlers of before the first are given back. -/
theorem handlers_of_before_are_given_back :
    ∃ w w', Run handled (some handled.host.handlers) w ∧ w.TimerRuns ∧
      w.host.handlers .interrupt = .loop .stopLoop ∧ restore w = .ok () w' ∧
      w'.host.handlers .interrupt = .named "default_int_handler" ∧
      w'.host.handlers .hangup = .default ∧ Unarmed w'.host.trace.toList := by
  have hrun : Run handled (some handled.host.handlers)
      (startTimer.after (install.after (install.after handled))) :=
    ((Run.start.request .install).request .install).request .startTimer
  have hspans : Lasting handled.flags := by
    constructor
    · rintro span ⟨⟩
      exact ⟨rfl, by decide⟩
    · rintro span ⟨⟩
      exact ⟨rfl, by decide⟩
  obtain ⟨-, hruns, -, ⟨w', hrestore, hunarmed, -, hhandlers⟩, -⟩ :=
    handlers_and_timer_are_given_back rfl (fun _ hspan => by cases hspan) hspans hrun
  have hticking : (startTimer.after (install.after (install.after handled))).signals.ticking = true := by
    decide +kernel
  refine ⟨_, w', hrun, hruns.1 hticking, by decide +kernel, hrestore, ?_, ?_, hunarmed⟩
  · exact hhandlers _ rfl .interrupt (by decide)
  · exact hhandlers _ rfl .hangup (by decide)

end Signals

end Multicast
