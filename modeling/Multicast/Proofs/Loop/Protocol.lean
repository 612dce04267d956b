import Multicast.Proofs.Loop.Frame
import Multicast.Proofs.Loop.Schedule

/-!
# `Proofs.Loop.Protocol` — what the main loop calls, and when

Whatever arrives while the transport waits, the loop goes through its stages in one order: it opens
the transport, starts the timer, and then, round after round, repaints if that is due, shows a tick if
the timer has fired, and steps. It ends behind the first step in which it was told to, or which
failed; then it stops the timer and closes the transport. No resize and no tick is lost on the way,
and none is served twice.

## Contents
- **Calls.** `shown`, `rounds` and `begun`, what is called for a schedule, and `verdict`, what comes
  out of it.
- **Schedules.** `Steps` and `Unfolds`, a run that unfolds as a schedule says.
- **Rounds.** `ends_present` and `went_iterate`.
- **Runs.** `ends_arm`, with `objection` for a timer that is not started; `came_body` and
  `run_follows_protocol`.
- **Scripts.** `unfolds_of_script`: every schedule can be had.
-/

namespace Multicast.Loop

open Act

/-! ## Calls -/

/-- What is shown in front of a step. -/
def shown (first resized ticked : Bool) : List Call :=
  (if first || resized then [.stage "redraw" (some resized)] else []) ++
    if ticked then [.stage "show" none] else []

/-- The calls of a number of steps. What is shown in front of each depends on the one before. -/
def rounds (first resized ticked : Bool) : List Moment → List Call
  | [] => []
  | m :: ms => shown first resized ticked ++ .stage "step" none :: rounds false m.resizes m.ticks ms

/-- The steps that are begun: all up to the first one that the loop does not go on after, or none if
    it was told to end before. -/
def begun (running : Bool) (steps : List Moment) : List Moment :=
  if running then steps.take (steps.findIdx Moment.ends + 1) else []

/-- What the steps begun come to, `done` of them having been done before: the fault of the last one,
    or their number. There is no number if `fuel` steps are all that can be done, and all were. -/
def verdict (done fuel : Nat) (begun : List Moment) : Except Fault (Option Nat) :=
  match begun.getLast?.bind Moment.fault with
  | some e => .error e
  | none => .ok (if begun.length < fuel then some (done + begun.length) else none)

theorem begun_cons (m : Moment) (ms : List Moment) :
    begun true (m :: ms) = m :: begun (!m.ends) ms := by
  unfold begun
  rw [List.findIdx_cons]
  cases hends : m.ends with
  | true => simp
  | false => simp

theorem verdict_of_fault {m : Moment} {e : Fault} (h : m.fault = some e) (done fuel : Nat) :
    verdict done fuel [m] = .error e := by
  simp [verdict, h]

theorem verdict_cons {m : Moment} (h : m.fault = none) (done fuel : Nat) (rest : List Moment) :
    verdict done (fuel + 1) (m :: rest) = verdict (done + 1) fuel rest := by
  have hlast : (m :: rest).getLast?.bind Moment.fault = rest.getLast?.bind Moment.fault := by
    cases rest with
    | nil => exact h
    | cons next rest => rw [List.getLast?_cons_cons]
  unfold verdict
  rw [hlast, List.length_cons]
  simp only [Nat.add_lt_add_iff_right, Nat.add_assoc, Nat.add_comm 1]

/-! ## Schedules -/

variable {t : Transport} {d : Display} {w : World}

/-- From a check on, the steps show the moments of a schedule, one after the other, as far as the loop
    gets. -/
def Steps (t : Transport) (d : Display) : Bool → List Moment → World → Prop
  | _, [], _ => True
  | first, m :: ms, w => w.flags.running →
    let u := ((present d.noted first).after w).mark (.stage "step" none)
    Shows t.step u m ∧ (m.fault = none → Steps t d false ms (t.step.after u))

/-- **A run unfolds as a schedule says**: its opening, its steps and its closing show these moments,
    each in the world that the run has come to by then. -/
structure Unfolds (t : Transport) (d : Display) (timed : Bool) (w : World) (opening : Moment)
    (steps : List Moment) (closing : Moment) : Prop where
  opens : Shows t.start (w.mark (.stage "init" none)) opening
  goes : opening.fault = none →
    Steps t d true steps ((arm timed).after (t.start.after (w.mark (.stage "init" none))))
  closes : Shows t.close (((disarm timed).after
    ((body t.noted d.noted timed steps.length).after w)).mark (.stage "close" none)) closing

/-! ## Rounds -/

/-- The view behind a check: what had come up was shown, and the flags are down. -/
def checked (first : Bool) (v : View) : View :=
  { v with
    flags := { v.flags with resized := false, tick := false }
    calls := v.calls ++ shown first v.flags.resized v.flags.tick }

/-- A noted stage that is nothing to the loop leaves its mark, if it is due. -/
theorem ends_noted {act : Act Unit} {c : Call} (hc : c.isMark = true) (h : ∀ w, Shows act w {})
    (due : Bool) {fails : Fault → World → Prop} :
    Ends (if due then (do call c; act) else pure ()) w
      (fun _ w' => w'.view = { w.view with calls := w.view.calls ++ if due then [c] else [] })
      fails := by
  cases due with
  | false =>
      show w.view = { w.view with calls := w.view.calls ++ [] }
      rw [List.append_nil]
  | true =>
      show Ends act (w.mark c) _ _
      refine (h (w.mark c)).ends.mono ?_ ?_
      · rintro _ w' ⟨-, -, hview⟩
        rw [hview, World.view_mark hc]
        rfl
      · rintro e w' ⟨hfault, -⟩
        cases hfault

/-- **A check** serves the resizes and the ticks that have come up, each kind once. -/
theorem ends_present (hd : d.Quiet) (first : Bool) {fails : Fault → World → Prop} :
    Ends (present d.noted first) w (fun _ w' => w'.view = checked first w.view) fails := by
  rw [present_eq]
  -- Looking at a flag takes it down, so that what comes up from then on is left for the next check.
  let w₁ : World := { w with flags := { w.flags with resized := false } }
  show Ends (_ >>= _) w₁ _ _
  refine (ends_noted rfl (hd.redraw w.flags.resized) (first || w.flags.resized)).bind ?_
  intro _ w₂ h₂
  let w₃ : World := { w₂ with flags := { w₂.flags with tick := false } }
  show Ends (if w₂.flags.tick then d.noted.tick else pure ()) w₃ _ _
  refine (ends_noted rfl hd.tick w₂.flags.tick).mono ?_ fun _ _ h => h
  intro _ w' h'
  have hticked : w₂.flags.tick = w.flags.tick := congrArg (fun v : View => v.flags.tick) h₂
  have hcleared : w₃.view = { w₂.view with flags := { w₂.view.flags with tick := false } } := rfl
  rw [h', hcleared, h₂, hticked]
  unfold checked shown
  rw [← List.append_assoc]
  rfl

/-- What the steps of a schedule do to the view: all that came up in front of a step that was begun is
    shown there, and what is left at the end came up during the last one. -/
structure Went (first : Bool) (steps : List Moment) (v v' : View) : Prop where
  calls : v'.calls = v.calls ++
    rounds first v.flags.resized v.flags.tick (begun v.flags.running steps)
  left : (v'.flags.resized, v'.flags.tick) = match (begun v.flags.running steps).getLast? with
    | some last => (last.resizes, last.ticks)
    | none => (v.flags.resized, v.flags.tick)
  ticking : v'.ticking = v.ticking
  listens : v'.Listens

/-- Steps that are not begun leave everything. -/
theorem Went.of_not_begun {first : Bool} {steps : List Moment} {v : View} (hlistens : v.Listens)
    (h : begun v.flags.running steps = []) : Went first steps v v := by
  refine ⟨?_, ?_, rfl, hlistens⟩
  · rw [h, rounds, List.append_nil]
  · rw [h]
    rfl

/-- The view behind a step, with all that came up during it. -/
def stepped (first : Bool) (m : Moment) (v : View) : View :=
  m.on ((checked first v).mark (.stage "step" none))

section

variable {first : Bool} {m : Moment} {ms : List Moment} {v v' : View}

theorem listens_stepped (h : v.Listens) : (stepped first m v).Listens := ⟨h.listened, h.others⟩

/-- What is up behind a step came up during it. -/
theorem flags_stepped (h : v.Listens) : (stepped first m v).flags =
    { v.flags with running := v.flags.running && !m.stops, resized := m.resizes, tick := m.ticks } := by
  have hchecked : ((checked first v).mark (.stage "step" none)).Listens := ⟨h.listened, h.others⟩
  unfold stepped
  rw [hchecked.flags_on]
  rfl

theorem calls_stepped : (stepped first m v).calls =
    v.calls ++ (shown first v.flags.resized v.flags.tick ++ [.stage "step" none]) :=
  List.append_assoc _ _ _

/-- A step that fails is the last one. -/
theorem Went.of_fault {e : Fault} (hlistens : v.Listens) (hrunning : v.flags.running = true)
    (hfault : m.fault = some e) : begun v.flags.running (m :: ms) = [m] ∧
      Went first (m :: ms) v (stepped first m v) := by
  have hends : m.ends = true := by simp [Moment.ends, hfault]
  have hbegun : begun v.flags.running (m :: ms) = [m] := by
    rw [hrunning, begun_cons, hends]
    rfl
  refine ⟨hbegun, ?_, ?_, rfl, listens_stepped hlistens⟩
  · rw [hbegun, calls_stepped]
    rfl
  · rw [hbegun, flags_stepped hlistens]
    rfl

/-- A step that does not fail comes in front of those that go on from it. -/
theorem Went.cons (hlistens : v.Listens) (hrunning : v.flags.running = true)
    (hfault : m.fault = none) (h : Went false ms (stepped first m v) v') :
    begun v.flags.running (m :: ms) = m :: begun (stepped first m v).flags.running ms ∧
      Went first (m :: ms) v v' := by
  have hends : m.ends = m.stops := by simp [Moment.ends, hfault]
  have hbegun : begun v.flags.running (m :: ms) =
      m :: begun (stepped first m v).flags.running ms := by
    rw [flags_stepped hlistens, hrunning, begun_cons, hends]
    rfl
  obtain ⟨hcalls, hleft, hticking, hlistens'⟩ := h
  refine ⟨hbegun, ?_, ?_, hticking, hlistens'⟩
  · rw [hcalls, hbegun, calls_stepped, flags_stepped hlistens, rounds]
    simp only [List.append_assoc, List.singleton_append]
  · rw [hbegun, hleft]
    -- Either more steps follow, or this was the last one and nothing has come up since.
    cases begun (stepped first m v).flags.running ms with
    | nil => rw [flags_stepped hlistens]; rfl
    | cons next rest =>
        rw [List.getLast?_cons_cons, List.getLast?_eq_some_getLast (List.cons_ne_nil next rest)]

end

/-- **The rounds of a schedule.** -/
theorem went_iterate (hd : d.Quiet) {steps : List Moment} {k : Nat} (hlistens : w.view.Listens)
    (hsteps : Steps t d (k = 0) steps w) :
    Ends (iterate t.noted d.noted k steps.length) w
      (fun n w' => Went (k = 0) steps w.view w'.view ∧
        verdict k steps.length (begun w.flags.running steps) = .ok n)
      fun e w' => Went (k = 0) steps w.view w'.view ∧
        verdict k steps.length (begun w.flags.running steps) = .error e := by
  induction steps generalizing w k with
  | nil =>
      have hnone : begun w.flags.running [] = [] := by unfold begun; split <;> rfl
      refine ⟨.of_not_begun hlistens hnone, ?_⟩
      rw [hnone]
      rfl
  | cons m ms ih =>
      rw [List.length_cons, iterate]
      refine ends_get_bind ?_
      by_cases hrunning : w.flags.running = true
      · rw [if_pos hrunning]
        obtain ⟨hshows, hrest⟩ := hsteps hrunning
        obtain ⟨_, w₁, hpresent, hview⟩ := (ends_present hd (k = 0)).exists_ok
        rw [after_of_ok hpresent] at hshows hrest
        have hstepped : ∀ w₂ : World, w₂.view = m.on (w₁.mark (.stage "step" none)).view →
            w₂.view = stepped (k = 0) m w.view := by
          intro w₂ h₂
          rw [h₂, World.view_mark rfl, hview]
          rfl
        unfold Ends
        rw [bind_of_ok hpresent]
        show Ends (t.noted.step >>= fun _ => _) w₁ _ _
        refine ends_bind (hshows.ends.mono ?_ ?_)
        · rintro _ w₂ ⟨hfault, hafter, hstep⟩
          have hview₂ := hstepped w₂ hstep
          have hlistens₂ : w₂.view.Listens := by
            rw [hview₂]
            exact listens_stepped hlistens
          have hlater : decide (k + 1 = 0) = false := by simp
          have hsteps₂ : Steps t d (k + 1 = 0) ms w₂ := by
            rw [hlater, hafter]
            exact hrest hfault
          have hgone : ∀ w' : World, Went (k + 1 = 0) ms w₂.view w'.view →
              begun w.flags.running (m :: ms) = m :: begun w₂.flags.running ms ∧
                Went (k = 0) (m :: ms) w.view w'.view := by
            intro w' hwent
            have hrunning₂ : w₂.flags.running = (stepped (k = 0) m w.view).flags.running :=
              congrArg (fun v : View => v.flags.running) hview₂
            rw [hlater, hview₂] at hwent
            rw [hrunning₂]
            exact hwent.cons hlistens hrunning hfault
          refine (ih hlistens₂ hsteps₂).mono ?_ ?_
          · rintro n w' ⟨hwent, hverdict⟩
            obtain ⟨hbegun, hwent⟩ := hgone w' hwent
            refine ⟨hwent, ?_⟩
            rw [hbegun, verdict_cons hfault]
            exact hverdict
          · rintro e w' ⟨hwent, hverdict⟩
            obtain ⟨hbegun, hwent⟩ := hgone w' hwent
            refine ⟨hwent, ?_⟩
            rw [hbegun, verdict_cons hfault]
            exact hverdict
        · rintro e w₂ ⟨hfault, rfl, hstep⟩
          obtain ⟨hbegun, hwent⟩ := Went.of_fault hlistens hrunning hfault
          rw [hstepped _ hstep]
          refine ⟨hwent, ?_⟩
          show verdict k (ms.length + 1) (begun w.view.flags.running (m :: ms)) = _
          rw [hbegun]
          exact verdict_of_fault hfault _ _
      · rw [if_neg hrunning]
        have hnone : begun w.flags.running (m :: ms) = [] := if_neg hrunning
        refine ⟨.of_not_begun hlistens hnone, ?_⟩
        rw [hnone]
        rfl

/-! ## Runs -/

/-- The view behind a start of the timer. -/
def armed (timed : Bool) (first interval : Quantity) (v : View) : View :=
  if timed then { v.mark (.setTimer first interval) with ticking := true } else v

/-- The view behind a stop of the timer. -/
def disarmed (v : View) : View :=
  if v.ticking then { v.mark (.setTimer (.ofNat 0) (.ofNat 0)) with ticking := false } else v

theorem flags_armed (timed : Bool) (first interval : Quantity) (v : View) :
    (armed timed first interval v).flags = v.flags := by
  unfold armed
  split <;> rfl

theorem calls_armed (timed : Bool) (first interval : Quantity) (v : View) :
    (armed timed first interval v).calls =
      v.calls ++ if timed then [.setTimer first interval] else [] := by
  cases timed with
  | true => rfl
  | false => exact (List.append_nil _).symm

theorem listens_armed {timed : Bool} {first interval : Quantity} {v : View} (h : v.Listens) :
    (armed timed first interval v).Listens := by
  unfold armed
  split
  · exact ⟨h.listened, h.others⟩
  · exact h

/-- Why the timer is not started, if it is not: what its call says of the spans. -/
def unset (timed : Bool) (first interval : Quantity) (h : Host) : Option Fault :=
  if timed then h.objection? (.setTimer first interval) else none

/-- **Starting the timer** sets it, or fails before anything has come of it. -/
theorem ends_arm (timed : Bool) {first interval : Quantity} (hsettle : w.flags.settle = .span first)
    (hperiod : w.flags.period = .span interval) :
    Ends (arm timed) w
      (fun _ w' => unset timed first interval w.host = none ∧
        w'.view = armed timed first interval w.view)
      fun e w' => unset timed first interval w.host = some e ∧ w' = w := by
  cases timed with
  | false => exact ⟨rfl, rfl⟩
  | true =>
      show Ends Signals.startTimer w _ _
      unfold Ends
      cases hobjection : w.host.objection? (.setTimer first interval) with
      | none =>
          let w₁ := w.mark (.setTimer first interval)
          let w₂ : World := { w₁ with signals := { w₁.signals with ticking := true } }
          rw [(Signals.startTimer_apply hsettle hperiod hobjection).trans (log_apply _ _ w₂)]
          refine ⟨hobjection, ?_⟩
          rw [World.view_log]
          show { w₁.view with ticking := true } = _
          rw [World.view_mark rfl]
          rfl
      | some e =>
          rw [Signals.startTimer_of_objection hsettle hperiod hobjection]
          exact ⟨hobjection, rfl⟩

theorem listens_disarmed {v : View} (h : v.Listens) : (disarmed v).Listens := by
  unfold disarmed
  split
  · exact ⟨h.listened, h.others⟩
  · exact h

theorem calls_disarmed (v : View) : (disarmed v).calls =
    v.calls ++ if v.ticking then [.setTimer (.ofNat 0) (.ofNat 0)] else [] := by
  unfold disarmed
  split
  · rfl
  · exact (List.append_nil _).symm

theorem flags_disarmed (v : View) : (disarmed v).flags = v.flags := by
  unfold disarmed
  split <;> rfl

/-- Behind a stop, the timer does not run. -/
theorem ticking_disarmed (v : View) : (disarmed v).ticking = false := by
  unfold disarmed
  split
  · rfl
  · rename_i hoff
    exact Bool.eq_false_iff.2 hoff

theorem exists_disarm (timed : Bool) (huntimed : timed = false → w.signals.ticking = false) :
    ∃ w', disarm timed w = .ok () w' ∧ w'.view = disarmed w.view := by
  have hoff : w.signals.ticking = false → disarmed w.view = w.view := by
    intro hticking
    exact if_neg (Bool.eq_false_iff.1 hticking)
  cases timed with
  | false => exact ⟨w, rfl, (hoff (huntimed rfl)).symm⟩
  | true =>
      refine ⟨_, Signals.stopTimer_apply w, ?_⟩
      cases hticking : w.signals.ticking with
      | false =>
          rw [if_neg Bool.false_ne_true]
          exact (hoff hticking).symm
      | true =>
          let w₁ := w.mark (.setTimer (.ofNat 0) (.ofNat 0))
          rw [if_pos rfl]
          show { w₁.view with ticking := false } = _
          rw [World.view_mark rfl]
          exact (if_pos hticking).symm

/-- The view behind the opening of the transport. -/
def opened (opening : Moment) (v : View) : View := opening.on (v.mark (.stage "init" none))

/-- What opening, starting the timer and stepping come to, if the timer may object. -/
def Came (timed : Bool) (first interval : Quantity) (opening : Moment) (objection : Option Fault)
    (steps : List Moment) (v : View) (result : Except Fault (Option Nat)) (w' : World) : Prop :=
  match opening.fault.or objection with
  | some e => result = .error e ∧ w'.view = opened opening v
  | none =>
    result = verdict 0 steps.length (begun (opened opening v).flags.running steps) ∧
      Went true steps (armed timed first interval (opened opening v)) w'.view

theorem exists_note (n : Option Nat) (w : World) :
    ∃ w', note n w = .ok n w' ∧ w'.view = w.view := by
  cases n with
  | none => exact ⟨w, rfl, rfl⟩
  | some n => exact ⟨_, rfl, World.view_log _ _ w⟩

section

variable {first interval : Quantity} {opening closing : Moment} {steps : List Moment} {timed : Bool}

/-- Why the timer of a run is not started, if it is not: by what has come of the opening. -/
def objection (t : Transport) (timed : Bool) (first interval : Quantity) (w : World) : Option Fault :=
  unset timed first interval (t.start.after (w.mark (.stage "init" none))).host

variable {refusal : Option Fault}

/-- An opening that fails and a timer that is not started end the run before its first check. -/
theorem Came.of_gone {e : Fault} {w' : World} (hgone : opening.fault.or refusal = some e)
    (hview : w'.view = opened opening w.view) :
    Came timed first interval opening refusal steps w.view (.error e) w' := by
  unfold Came
  rw [hgone]
  exact ⟨rfl, hview⟩

/-- **Stepping behind the opening and the start of the timer.** -/
theorem came_steps (hd : d.Quiet) {w' : World} (hlistens : (opened opening w.view).Listens)
    (hgone : opening.fault.or refusal = none)
    (hview : w'.view = armed timed first interval (opened opening w.view))
    (hsteps : Steps t d true steps w') :
    Ends (iterate t.noted d.noted 0 steps.length >>= note) w'
      (fun n => Came timed first interval opening refusal steps w.view (.ok n))
      fun e => Came timed first interval opening refusal steps w.view (.error e) := by
  have hlistens' : w'.view.Listens := by
    rw [hview]
    exact listens_armed hlistens
  have hcame : ∀ result w'', Went true steps w'.view w''.view ∧
      verdict 0 steps.length (begun w'.flags.running steps) = result →
      Came timed first interval opening refusal steps w.view result w'' := by
    rintro result w'' ⟨hwent, hverdict⟩
    have hrunning : w'.flags.running = (opened opening w.view).flags.running := by
      show w'.view.flags.running = _
      rw [hview, flags_armed]
    unfold Came
    rw [hgone]
    rw [hview] at hwent
    rw [hrunning] at hverdict
    exact ⟨hverdict.symm, hwent⟩
  refine ends_bind ((went_iterate hd hlistens' hsteps).mono ?_ fun e w'' => hcame (.error e) w'')
  rintro n w₁ hwent
  obtain ⟨w₂, hnote, hview₂⟩ := exists_note n w₁
  unfold Ends
  rw [hnote]
  refine hcame (.ok n) w₂ ?_
  rw [hview₂]
  exact hwent

/-- **What a run comes to before it is closed.** -/
theorem came_body (hd : d.Quiet) (hlistens : w.view.Listens) (hsettle : w.flags.settle = .span first)
    (hperiod : w.flags.period = .span interval) (h : Unfolds t d timed w opening steps closing) :
    let came := Came timed first interval opening (objection t timed first interval w) steps w.view
    Ends (body t.noted d.noted timed steps.length) w (fun n => came (.ok n))
      fun e => came (.error e) := by
  intro came
  have hopened : (w.mark (.stage "init" none)).view = w.view.mark (.stage "init" none) :=
    World.view_mark rfl w
  have hlistens₁ : (opened opening w.view).Listens := ⟨hlistens.listened, hlistens.others⟩
  rw [body_eq]
  show Ends (t.noted.start >>= fun _ => _) w _ _
  refine ends_bind (h.opens.ends.mono ?_ ?_)
  · rintro _ w₁ ⟨hfault, hafter, hview⟩
    rw [hopened] at hview
    -- The opening lets signals arrive, and these do not change the spans of the timer.
    have hflags : w₁.flags = opening.flags w.flags := by
      show w₁.view.flags = _
      rw [hview]
      exact (hlistens.mark _).flags_on opening
    have hsettle₁ : w₁.flags.settle = .span first := by
      rw [hflags]
      exact hsettle
    have hperiod₁ : w₁.flags.period = .span interval := by
      rw [hflags]
      exact hperiod
    have hgone : opening.fault.or (objection t timed first interval w) =
        unset timed first interval w₁.host := by
      rw [hfault, hafter]
      rfl
    refine ends_bind ((ends_arm timed hsettle₁ hperiod₁).with_after.mono ?_ ?_)
    · rintro _ w₂ ⟨harmed, hset, hview₂⟩
      rw [hview] at hview₂
      have hsteps : Steps t d true steps w₂ := by
        have hgoes := h.goes hfault
        rw [← hafter, ← harmed] at hgoes
        exact hgoes
      exact came_steps hd hlistens₁ (hgone.trans hset) hview₂ hsteps
    · rintro e w₂ ⟨-, hset, rfl⟩
      exact .of_gone (hgone.trans hset) hview
  · rintro e w₁ ⟨hfault, -, hview⟩
    rw [hopened] at hview
    refine .of_gone ?_ hview
    rw [hfault]
    rfl

/-- What has come up for the first check: before the loop, or while the transport was opened. -/
theorem flags_opened (hlistens : w.view.Listens) :
    (opened opening w.view).flags = opening.flags w.flags :=
  (hlistens.mark _).flags_on opening

/-- A loop without a timer never has one running. -/
theorem Came.ticking {result : Except Fault (Option Nat)} {w' : World}
    (h : Came timed first interval opening refusal steps w.view result w')
    (hticking : w.signals.ticking = false) :
    w'.view.ticking = (timed && (opening.fault.or refusal).isNone) := by
  unfold Came at h
  cases hgone : opening.fault.or refusal with
  | some e =>
      rw [hgone] at h
      rw [h.2, Option.isNone_some, Bool.and_false]
      exact hticking
  | none =>
      rw [hgone] at h
      rw [h.2.ticking]
      cases timed with
      | true => rfl
      | false => exact hticking

/-- The loop keeps to its protocol. -/
structure Follows (timed : Bool) (first interval : Quantity) (opening : Moment)
    (refusal : Option Fault) (steps : List Moment) (closing : Moment) (w w' : World)
    (result : Except Fault (Option Nat)) : Prop where
  /-- The transport is opened, the timer is started and stopped if there is one and the opening
      returned, the steps are done in between, and the transport is closed. In front of the first step
      it counts what came up before the loop and during the opening. A timer that objects to its spans
      is not started, and the steps are left out. -/
  calls : w'.view.calls = w.view.calls ++ (.stage "init" none ::
    (if (opening.fault.or refusal).isSome then [] else
      (if timed then [.setTimer first interval] else []) ++
      rounds true (w.flags.resized || opening.resizes) (w.flags.tick || opening.ticks)
        (begun (w.flags.running && !opening.stops) steps) ++
      (if timed then [.setTimer (.ofNat 0) (.ofNat 0)] else [])) ++ [.stage "close" none])
  /-- A fault of the closing takes precedence over one of the opening, of the timer or of a step;
      without any, the steps are counted. -/
  result : result = match closing.fault.or (opening.fault.or refusal) with
    | some e => .error e
    | none => verdict 0 steps.length (begun (w.flags.running && !opening.stops) steps)
  /-- Nothing that came up before the last step began is left to be shown. -/
  left : opening.fault.or refusal = none →
    ∀ last ∈ (begun (w.flags.running && !opening.stops) steps).getLast?,
      w'.flags.resized = (last.resizes || closing.resizes) ∧
        w'.flags.tick = (last.ticks || closing.ticks)
  ticking : w'.signals.ticking = false

/-- Closing the transport completes what opening, starting the timer and stepping come to. -/
theorem Came.follows {result : Except Fault (Option Nat)} {w₁ w' : World}
    (hlistens : w.view.Listens) (hticking : w.signals.ticking = false)
    (h : Came timed first interval opening refusal steps w.view result w₁)
    (hview : w'.view = closing.on ((disarmed w₁.view).mark (.stage "close" none))) :
    Follows timed first interval opening refusal steps closing w w' (match closing.fault with
      | some e => .error e
      | none => result) := by
  have hcalls : w'.view.calls = w₁.view.calls ++
      (if timed && (opening.fault.or refusal).isNone then [.setTimer (.ofNat 0) (.ofNat 0)]
        else []) ++ [.stage "close" none] := by
    rw [hview, ← h.ticking hticking, ← calls_disarmed]
    rfl
  have hoff : w'.signals.ticking = false := by
    show w'.view.ticking = false
    rw [hview]
    exact ticking_disarmed w₁.view
  have hup : (opened opening w.view).flags = opening.flags w.flags := flags_opened hlistens
  unfold Came at h
  cases hgone : opening.fault.or refusal with
  | some e =>
      rw [hgone] at h hcalls
      obtain ⟨hresult, hopened⟩ := h
      refine ⟨?_, ?_, ?_, hoff⟩
      · rw [hcalls, hopened, hgone]
        show w.view.calls ++ [.stage "init" none] ++ (if timed && false then _ else []) ++ _ = _
        rw [Bool.and_false]
        simp
      · rw [hresult, hgone]
        cases closing.fault <;> rfl
      · intro hnone
        rw [hgone] at hnone
        cases hnone
  | none =>
      rw [hgone] at h hcalls
      obtain ⟨hresult, hwent⟩ := h
      have hrunning : (armed timed first interval (opened opening w.view)).flags.running =
          (w.flags.running && !opening.stops) := by
        rw [flags_armed, hup]
        rfl
      refine ⟨?_, ?_, ?_, hoff⟩
      · have hopened : (opened opening w.view).calls = w.view.calls ++ [.stage "init" none] := rfl
        rw [hcalls, hwent.calls, calls_armed, hopened, hrunning, flags_armed, hup, hgone]
        simp [Moment.flags]
      · rw [hresult, hgone, hup]
        cases closing.fault <;> rfl
      · -- What is left came up during the last step, or while the transport was closed.
        intro _ last hlast
        have hleft := hwent.left
        rw [hrunning, hlast] at hleft
        obtain ⟨hresized, htick⟩ := Prod.mk.inj hleft
        have hlistens' : ((disarmed w₁.view).mark (.stage "close" none)).Listens :=
          (listens_disarmed hwent.listens).mark _
        have hflags : w'.flags = closing.flags w₁.view.flags := by
          show w'.view.flags = _
          rw [hview, hlistens'.flags_on]
          show closing.flags (disarmed w₁.view).flags = _
          rw [flags_disarmed]
        rw [hflags]
        show (w₁.view.flags.resized || closing.resizes) = _ ∧
          (w₁.view.flags.tick || closing.ticks) = _
        rw [hresized, htick]
        exact ⟨rfl, rfl⟩

/-- **The main loop's protocol.** For every transport, every display that does not fail, and every
    schedule of signals, stops and faults, the loop opens the transport and starts the timer; each round
    repaints if it is the first one or the terminal was resized since the last check, shows a tick if
    the timer fired since then, and steps once; and however it ends, it stops the timer and closes the
    transport. The steps that are begun are those up to the first one in which the loop was told to end
    or which failed, and their number or the fault is what comes out. A timer that objects to its spans
    ends the loop like an opening that fails. -/
theorem run_follows_protocol (hd : d.Quiet) (hlistens : w.view.Listens)
    (hticking : w.signals.ticking = false) (hsettle : w.flags.settle = .span first)
    (hperiod : w.flags.period = .span interval) (h : Unfolds t d timed w opening steps closing) :
    Follows timed first interval opening (objection t timed first interval w) steps closing w
      ((run t.noted d.noted timed steps.length).after w)
      ((run t.noted d.noted timed steps.length).outcome w) := by
  let refusal := objection t timed first interval w
  have hclean : ∀ result w₁, w₁ = (body t.noted d.noted timed steps.length).after w →
      Came timed first interval opening refusal steps w.view result w₁ →
      Ends (do disarm timed; t.noted.close) w₁
        (fun _ w' => Follows timed first interval opening refusal steps closing w w' result)
        fun e w' => Follows timed first interval opening refusal steps closing w w' (.error e) := by
    intro result w₁ hafter hcame
    have huntimed : timed = false → w₁.signals.ticking = false := by
      rintro rfl
      exact hcame.ticking hticking
    obtain ⟨w₂, hdisarm, hview₂⟩ := exists_disarm timed huntimed
    have hcloses := h.closes
    rw [← hafter, after_of_ok hdisarm] at hcloses
    unfold Ends
    rw [bind_of_ok hdisarm]
    show Ends t.close (w₂.mark (.stage "close" none)) _ _
    refine hcloses.ends.mono ?_ ?_
    · rintro _ w' ⟨hfault, -, hview⟩
      rw [World.view_mark rfl, hview₂] at hview
      have hfollows := hcame.follows hlistens hticking hview
      rw [hfault] at hfollows
      exact hfollows
    · rintro e w' ⟨hfault, -, hview⟩
      rw [World.view_mark rfl, hview₂] at hview
      have hfollows := hcame.follows hlistens hticking hview
      rw [hfault] at hfollows
      exact hfollows
  rw [run_eq]
  refine (ends_ensuring ((came_body hd hlistens hsettle hperiod h).with_after.mono ?_ ?_)).outcome
    (p := fun result w' => Follows timed first interval opening refusal steps closing w w' result)
  · rintro n w₁ ⟨hafter, hcame⟩
    exact hclean (.ok n) w₁ hafter hcame
  · rintro e w₁ ⟨hafter, hcame⟩
    exact hclean (.error e) w₁ hafter hcame

end

/-! ## Scripts -/

/-- A transport that does nothing but wait, with something to happen when it is opened and closed. -/
def waiting (opening closing : Moment) : Transport where
  start := opening.events.forM play
  step := await
  close := closing.events.forM play

/-- A display that shows nothing. -/
def dark : Display where
  redraw _ := pure ()
  tick := pure ()
  close := pure ()

theorem quiet_dark : dark.Quiet where
  redraw _ w := shows_nothing (pure_apply () w) rfl
  tick w := shows_nothing (pure_apply () w) rfl

/-- What happens during the waits to come. -/
def coming (w : World) : List (List Event) := w.host.script

/-- No event changes what is to come. -/
theorem keeps_events (m : Moment) : Keeps (.of coming) (m.events.forM play) := by
  refine keeps_forM fun e _ w => ?_
  have hkept : scripted ((play e).after w) = scripted w := keeps_play e w
  exact congrArg (fun part => part.2.1) hkept

theorem coming_await {m : Moment} {rest : List (List Event)} (h : coming w = m.events :: rest) :
    coming (await.after w) = rest := by
  have hawait : await w = m.events.forM play { w with host := { w.host with script := rest } } := by
    unfold await nextEvents
    unfold coming at h
    rw [bind_assoc, bind_of_ok (get_apply w), h]
    rfl
  have hkept := keeps_events m { w with host := { w.host with script := rest } }
  unfold after at hkept ⊢
  rw [hawait]
  exact hkept

theorem coming_startTimer : Keeps (.of coming) Signals.startTimer := by
  refine Signals.keeps_startTimer (fun _ _ _ _ _ => rfl) (fun _ => rfl) fun level message w => ?_
  exact Host.log_leaves (·.script) (fun _ _ => rfl) (fun _ _ sink => by cases sink <;> rfl) w.host
    level message

/-- **Every schedule can be had**: a transport that only waits unfolds as its script says. -/
theorem unfolds_of_script (timed : Bool) (opening closing : Moment) {steps : List Moment}
    (hscript : coming w = steps.map Moment.events) :
    Unfolds (waiting opening closing) dark timed w opening steps closing := by
  have hsteps : ∀ (first : Bool) (steps : List Moment) (w : World),
      coming w = steps.map Moment.events → Steps (waiting opening closing) dark first steps w := by
    intro first steps
    induction steps generalizing first with
    | nil => exact fun _ _ => trivial
    | cons m ms ih =>
        intro w hcoming _
        have hpresent : Keeps (.of coming) (present dark.noted first) :=
          keeps_present (fun _ _ _ _ _ => rfl) (fun _ _ => rfl) (fun _ => rfl) first
        have hshown : coming (((present dark.noted first).after w).mark (.stage "step" none)) =
            m.events :: ms.map Moment.events :=
          (hpresent w).trans hcoming
        exact ⟨shows_await hshown, fun _ => ih false _ (coming_await hshown)⟩
  refine ⟨shows_events opening _, fun _ => hsteps true steps _ ?_, shows_events closing _⟩
  have hopened := keeps_events opening (w.mark (.stage "init" none))
  exact (keeps_arm coming_startTimer timed _).trans (hopened.trans hscript)

/-- What happens in four waits: nothing, a resize and two ticks, the end with a tick, and nothing. -/
def busySteps : List Moment :=
  [{}, { signals := [.resize, .alarm, .alarm] }, { signals := [.alarm, .terminate] }, {}]

/-- A loop that listens, with these waits before it. -/
def busy : World where
  flags := { period := .ofNat 1 }
  host := {
    handlers := fun s => match s with
      | .resize => .loop .noteResize
      | .alarm => .loop .noteTick
      | .other _ => .default
      | _ => .loop .stopLoop
    script := busySteps.map Moment.events }

/-- A tick while the transport is opened is shown in front of the first step, what came up in the
    second step in front of the third, and the tick that comes with the end is not shown. -/
theorem busy_is_served :
    let looped := run (waiting { signals := [.alarm] } {}).noted dark.noted true 4
    looped.outcome busy = .ok (some 3) ∧ (looped.after busy).view.calls =
      [.stage "init" none, .setTimer (.ofNat 1) (.ofNat 1),
        .stage "redraw" (some false), .stage "show" none, .stage "step" none,
        .stage "step" none,
        .stage "redraw" (some true), .stage "show" none, .stage "step" none,
        .setTimer (.ofNat 0) (.ofNat 0), .stage "close" none] := by
  have hlistens : busy.view.Listens := by
    refine ⟨by decide, ?_⟩
    intro name h hother
    cases hother
  have hscript : coming busy = busySteps.map Moment.events := rfl
  have hspans : objection (waiting { signals := [.alarm] } {}) true (.ofNat 1) (.ofNat 1) busy =
      none := by decide +kernel
  have hfollows := run_follows_protocol quiet_dark hlistens rfl rfl rfl
    (unfolds_of_script true { signals := [.alarm] } {} hscript)
  rw [hspans] at hfollows
  exact ⟨hfollows.result, hfollows.calls⟩

end Multicast.Loop
