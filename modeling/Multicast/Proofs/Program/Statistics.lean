import Multicast.Proofs.Loop.Metered
import Multicast.Proofs.Loop.Schedule
import Multicast.Proofs.Loop.Termination
import Multicast.Proofs.Program.Failure
import Multicast.Proofs.Program.Serving

/-!
# `Proofs.Program.Statistics` — a run's status and statistics tell of its loop

A run that comes to its loop and returns has the status 0 or 1, and that is what became of the loop:
it ended well, or the transport failed. The statistics are handed on in the former case only, and only
by a receiver. Nothing else around the loop has to do with the sessions, so the statistics are those
of the sessions as the loop left them, and their total is the number of datagrams that it accepted.

## Contents
- **Around the loop.** `World.agenda`, which entering and leaving the loop leave as it is.
- **Ending.** `Handed`, what is printed or logged; `perform_eq_ok`, `noted_eq_ok` and `conclude_eq_ok`
  take the end of a run apart.
- **Loop.** `bounded_of_enter` and `exists_of_run`, since the loop ends; `receiverOf` and
  `meters_receiver`, since it takes count.
- **Running.** `Agrees` and `Counted`, in `status_and_statistics_tell_of_the_loop`.
-/

namespace Multicast

open Act

/-! ## Around the loop -/

/-- The sessions, and what will happen during the coming waits. -/
def World.agenda (w : World) : Table × List (List Event) × List Event :=
  (w.table, w.host.script, w.host.idle)

theorem agenda_of_onlyLogged {w w' : World} (h : OnlyLogged w w') : w'.agenda = w.agenda := by
  have hagenda := congrArg World.agenda h.unlogged
  exact hagenda

theorem agenda_log (level : Level) (message : String) : Keeps (.of World.agenda) (log level message) :=
  (keeps_log level message).mono fun _ _ => agenda_of_onlyLogged

theorem agenda_check (kind : CallKind) : Keeps (.of World.agenda) (check kind) := by
  intro w
  rw [after_check]
  rfl

theorem launching_agenda : (Frame.of World.agenda).Launching where
  call _ _ _ := rfl
  check := agenda_check
  log := agenda_log
  process _ _ _ := rfl
  logging _ _ _ := rfl
  streams _ _ _ := rfl

theorem operating_agenda : (Frame.of World.agenda).Operating where
  call _ _ _ := rfl
  check _ := agenda_check _
  log := agenda_log
  size _ _ _ := rfl

/-- **Entering and leaving the loop** changes no session, and lets nothing happen. -/
theorem surrounding_agenda : (Frame.of World.agenda).Surrounding where
  launching := launching_agenda
  operating := operating_agenda
  call _ _ _ := rfl
  unset _ := rfl
  terminal _ _ := rfl
  dashboard _ _ := rfl
  progress _ _ := rfl
  signals _ _ := rfl
  handlers _ _ := rfl

namespace Program

variable {w w' : World} {s : Settings} {full logged : Bool}

/-! ## Ending -/

/-- Lines are handed on: printed in the foreground, logged by a daemon. Nothing else is printed or
    logged. -/
structure Handed (foreground : Bool) (lines : List String) (w w' : World) : Prop where
  stdout : w'.host.stdout =
    w.host.stdout ++ String.join (if foreground then lines.map (· ++ "\n") else [])
  records : w'.host.records.toList =
    w.host.records.toList ++ if foreground then [] else lines.map (⟨.info, ·⟩)

theorem Handed.nil (foreground : Bool) (h : w'.host.stdout = w.host.stdout)
    (hrecords : w'.host.records = w.host.records) : Handed foreground [] w w' := by
  refine ⟨?_, ?_⟩
  · simp [h]
  · simp [hrecords]

theorem Handed.cons {foreground : Bool} {line : String} {lines : List String} {u : World}
    (h : Handed foreground [line] w u) (hrest : Handed foreground lines u w') :
    Handed foreground (line :: lines) w w' := by
  refine ⟨?_, ?_⟩
  · rw [hrest.stdout, h.stdout]
    cases foreground <;> simp [String.append_assoc]
  · rw [hrest.records, h.records]
    cases foreground <;> simp

/-- A line is printed or logged. -/
theorem exists_handed (foreground : Bool) (line : String) (w : World) :
    ∃ w', (if foreground then print s!"{line}\n" else log .info line) w = .ok () w' ∧
      Handed foreground [line] w w' := by
  cases foreground with
  | true =>
      refine ⟨_, rfl, ?_, (List.append_nil _).symm⟩
      show w.host.stdout ++ (line ++ "\n") = _
      simp
  | false => exact ⟨_, rfl, by simp [stdout_log], by simp [Host.records_log]⟩

/-- Lines are handed on one by one. -/
theorem exists_handed_forM (foreground : Bool) (lines : List String) (w : World) :
    ∃ w', (lines.forM fun line =>
        if foreground then print s!"{line}\n" else log .info line) w = .ok () w' ∧
      Handed foreground lines w w' := by
  induction lines generalizing w with
  | nil => exact ⟨w, rfl, .nil foreground rfl rfl⟩
  | cons line lines ih =>
      obtain ⟨u, hline, hhanded⟩ := exists_handed foreground line w
      obtain ⟨w', hlines, hrest⟩ := ih u
      exact ⟨w', (bind_of_ok hline).trans hlines, hhanded.cons hrest⟩

/-- **What is done once the loop has ended**: a receiver whose loop ended well hands on its statistics,
    and the status says whether it did. -/
theorem conclude_eq_ok {well : Bool} {exit : Exit} (h : conclude s well w = .ok exit w') :
    exit = (if well then .status 0 else .status 1) ∧
      Handed s.foreground (if well = true ∧ s.join then w.table.statistics else []) w w' := by
  cases well with
  | false =>
      cases h
      exact ⟨rfl, .nil _ rfl rfl⟩
  | true =>
      unfold conclude at h
      by_cases hjoin : s.join = true
      · obtain ⟨u, hpublish, hhanded⟩ := exists_handed_forM s.foreground w.table.statistics w
        have hpublished : publish s w = .ok () u := hpublish
        rw [Bool.not_true, if_neg Bool.false_ne_true, if_pos hjoin, bind_of_ok hpublished] at h
        cases h
        refine ⟨rfl, ?_⟩
        rw [if_pos ⟨rfl, hjoin⟩]
        exact ⟨hhanded.stdout, hhanded.records⟩
      · rw [Bool.not_true, if_neg Bool.false_ne_true, if_neg hjoin] at h
        cases h
        refine ⟨rfl, ?_⟩
        rw [if_neg fun hboth => hjoin hboth.2]
        exact .nil _ rfl rfl

/-- What a run of the loop on record tells of it. -/
theorem noted_eq_ok {t : Transport} {display : Display} {fuel : Nat} {well : Bool}
    (h : noted t display fuel w = .ok well w') :
    (well = true ↔ ∃ steps, (Loop.run t display true fuel).outcome w = .ok steps) ∧
      (well = false ↔ ∃ e, (Loop.run t display true fuel).outcome w = .error (.transport e)) ∧
      w'.table = ((Loop.run t display true fuel).after w).table := by
  unfold outcome after
  cases hrun : Loop.run t display true fuel w with
  | ok steps u =>
      have hnoted : noted t display fuel w = .ok true u :=
        recover_of_ok (by rw [bind_of_ok hrun]; rfl) _ _
      rw [hnoted] at h
      cases h
      simp
  | error e u =>
      rw [noted_of_run_error hrun] at h
      cases e with
      | transport t =>
          cases h
          simp
      | _ => cases h

/-- A run that returns behind the checks has been through its loop. -/
theorem perform_eq_ok {exit : Exit} (h : perform s full logged w = .ok exit w') :
    ∃ period well u, Seconds.ofMillis? s.period = some period ∧
      inUserLocale (loop s full logged period (stepsOf w.host)) { w with flags := { period } } =
        .ok well u ∧
      conclude s well u = .ok exit w' := by
  cases hperiod : Seconds.ofMillis? s.period with
  | none =>
      rw [perform_of_no_span hperiod] at h
      cases h
  | some period =>
      rw [perform_of_span hperiod] at h
      obtain ⟨well, u, hlooped, h⟩ := bind_eq_ok.1 h
      exact ⟨period, well, u, rfl, hlooped, h⟩

/-! ## Loop -/

theorem keeps_enter {F : Frame} (h : F.Surrounding) (s : Settings) (full logged : Bool) :
    Keeps F (enter s full logged) := by
  refine keeps_bind (keeps_setLocale h.launching _) fun _ => ?_
  refine keeps_bind (keeps_setLocale h.launching _) fun _ => ?_
  refine keeps_bind (keeps_openDisplay h s full logged) fun display => ?_
  exact keeps_bind (Signals.keeps_install h) fun _ => keeps_pure display

theorem keeps_leave {F : Frame} (h : F.Surrounding) {display : Display} (hdisplay : IsDisplay display)
    (locale : String) : Keeps F (leave display locale) := by
  refine keeps_bind (keeps_closeDisplay h hdisplay) fun _ => ?_
  exact keeps_bind (Signals.keeps_restore h) fun _ => keeps_restoreLocale h.launching locale

theorem gives_enter (s : Settings) (full logged : Bool) : Gives IsDisplay (enter s full logged) :=
  gives_bind fun _ => gives_bind fun _ => (gives_openDisplay s full logged).bind fun _ hdisplay =>
    gives_bind fun _ => gives_pure hdisplay

theorem agenda_of_enter {display : Display} (henter : enter s full logged w = .ok display w') :
    w'.agenda = w.agenda := by
  have hkept := keeps_enter surrounding_agenda s full logged w
  rwa [after_of_ok henter] at hkept

theorem agenda_of_leave {display : Display} (hdisplay : IsDisplay display) {locale : String}
    (hleave : leave display locale w = .ok () w') : w'.agenda = w.agenda := by
  have hkept := keeps_leave surrounding_agenda hdisplay locale w
  rwa [after_of_ok hleave] at hkept

/-- The handlers that were installed end the loop behind the script, if the host sends their signal. -/
theorem bounded_of_enter {display : Display} (henter : enter s full logged w = .ok display w')
    (hidle : .signal .terminate ∈ w'.host.idle) : w'.Bounded := by
  refine ⟨?_, hidle⟩
  unfold enter at henter
  obtain ⟨_, _, -, henter⟩ := bind_eq_ok.1 henter
  obtain ⟨_, _, -, henter⟩ := bind_eq_ok.1 henter
  obtain ⟨_, u, -, henter⟩ := bind_eq_ok.1 henter
  obtain ⟨w₁, hinstall, hlistened, -⟩ := Signals.forM_saveAndSet Signals.listened (by decide) u
  rw [bind_of_ok (show Signals.install u = .ok () w₁ from hinstall)] at henter
  cases henter
  exact hlistened (.terminate, .stopLoop) (by decide)

/-- **The loop of a run tells its number of steps** when it returns. -/
theorem exists_of_run {display : Display} (hdisplay : IsDisplay display) {period : Seconds}
    {steps : Option Nat} (hw : w.Bounded)
    (hrun : (Loop.run (transportOf s period) display true (stepsOf w.host)).outcome w = .ok steps) :
    ∃ n, steps = some n := by
  have hstep : Advances (transportOf s period).step := by
    show Advances (roleOf s period).step
    unfold roleOf
    split
    · exact Receiver.advances_step _
    · exact Sender.advances_step _
  have hopened : Keeps .nearing (roleOf s period).start :=
    (keeps_role opening_prospect s period).1.mono fun _ _ => World.nears_of_prospect
  have hstart : Keeps .nearing (transportOf s period).start :=
    keeps_bind hopened fun _ => stepping_nearing.attend
  obtain ⟨hredraw, htick⟩ := keeps_display hdisplay drawing_prospect marking_prospect
  exact Loop.exists_of_run hstart hstep hredraw htick hw le_rfl (eq_ok_of_outcome hrun)

/-- The receiver of a run. -/
def receiverOf (s : Settings) (period : Seconds) : Receiver where
  interface := s.interface
  count := s.count
  period

/-- **The loop of a receiver takes count** of what it accepts. -/
theorem meters_receiver {display : Display} (hdisplay : IsDisplay display) (hjoin : s.join = true)
    (period : Seconds) (fuel : Nat) :
    Metered.Meters
      (Loop.runMetered (transportOf s period) (receiverOf s period).stepMetered display true fuel)
      (Loop.run (transportOf s period) display true fuel) := by
  obtain ⟨hredraw, htick⟩ := keeps_display hdisplay drawing_prospect marking_prospect
  obtain ⟨hopened, hclose⟩ := keeps_role opening_prospect s period
  have hstart : Keeps .uncounted (transportOf s period).start :=
    keeps_bind (hopened.mono fun _ _ => uncounted_of_prospect) fun _ => uncounted_attend
  refine Loop.meters_run ?_ hstart hclose hredraw htick true fuel
  have hstep : (transportOf s period).step = (receiverOf s period).step := by
    show (roleOf s period).step = _
    unfold roleOf
    rw [if_pos hjoin]
    rfl
  rw [hstep]
  exact (receiverOf s period).meters_step

/-! ## Running -/

/-- How a run ends tells of its loop, which started from `w₁`: the status says whether the loop ended
    well or its transport failed, and a receiver whose loop ended well hands on the statistics of the
    sessions as the loop left them. What surrounds the loop left `w₃`. -/
structure Agrees (s : Settings) (looped : Act (Option Nat)) (w₁ w₃ : World) (exit : Exit)
    (w' : World) : Prop where
  status : exit = .status 0 ∨ exit = .status 1
  well : exit = .status 0 ↔ ∃ steps, looped.outcome w₁ = .ok steps
  failed : exit = .status 1 ↔ ∃ e, looped.outcome w₁ = .error (.transport e)
  handed : Handed s.foreground
    (if exit = .status 0 ∧ s.join then (looped.after w₁).table.statistics else []) w₃ w'

/-- The statistics have a line for each session, in the order of the groups that the loop started with,
    and then the total. This is the sum of the sessions' counts and the number of datagrams that were
    accepted in the loop, told by the same loop with a count. -/
structure Counted (groups : List String) (looped : Act (Option Nat)) (metered : Metered (Option Nat))
    (w₁ : World) (k : Nat) : Prop where
  same : Metered.bare (metered (w₁, 0)) = looped w₁
  accepted : (Metered.left (metered (w₁, 0))).2 = k
  groups : (looped.after w₁).table.sessions.map (·.group) = groups
  sum : ((looped.after w₁).table.sessions.map (·.count)).sum = k
  lines : ∃ width, (looped.after w₁).table.statistics =
    (looped.after w₁).table.sessions.map (Table.statistic width) ++
      [s!"\nReceived total: {(k : Int)} packets"]

/-- **A loop that takes count** from nothing on has counted what its sessions add up to. -/
theorem counted_of_meters {looped : Act (Option Nat)} {metered : Metered (Option Nat)} {w₁ : World}
    (h : Metered.Meters metered looped) (hzero : w₁.table.total = 0) :
    ∃ k, Counted (w₁.table.sessions.map (·.group)) looped metered w₁ k := by
  obtain ⟨hgroups, htotal⟩ := h.balanced (w₁, 0)
  rw [h.fst_left] at hgroups htotal
  have hsum : (looped.after w₁).table.total = (Metered.left (metered (w₁, 0))).2 := by
    dsimp only at htotal
    omega
  refine ⟨_, h.bare_eq (w₁, 0), rfl, hgroups, ?_, ?_⟩
  · rw [← Table.total_eq_sum]
    exact hsum
  · rw [← hsum]
    exact ⟨_, rfl⟩

section

variable {o : Options} {s₀ : Settings} {table : Table} {wc w₀ : World} {exit : Exit}
  (hchecked : checked o w = .ok (some (s₀, table)) wc)
include hchecked

/-- The sessions that a run starts with have not counted anything. -/
theorem total_of_checked : table.total = 0 := by
  rw [Table.total_eq_sum]
  refine List.sum_eq_zero fun n hn => ?_
  obtain ⟨session, hmem, rfl⟩ := List.mem_map.1 hn
  exact Table.count_of_build (gives_checked o hchecked s₀ table rfl).2 hmem

variable (hlaunched : launch s₀ { wc with options := o.next, table } = .ok (some (s, full, logged)) w₀)
include hlaunched

/-- Checks and launch leave the sessions to the loop, and let nothing happen. -/
theorem agenda_of_launch : w₀.agenda = (table, w.host.script, w.host.idle) := by
  have hchecks := keeps_checked o w
  have hlaunch := keeps_launch launching_agenda (s := s₀) (fun _ => rfl)
    { wc with options := o.next, table }
  rw [after_of_ok hchecked] at hchecks
  rw [after_of_ok hlaunched] at hlaunch
  have hsame : (wc.host.script, wc.host.idle) = (w.host.script, w.host.idle) :=
    congrArg Prod.snd (agenda_of_onlyLogged hchecks)
  have hstarted : w₀.agenda = (table, wc.host.script, wc.host.idle) := hlaunch
  rw [hstarted, hsame]

/-- **Status, statistics and the loop's outcome agree.** A run that gets past raising the descriptor
    limit and returns has been through its loop; whatever happened in it and whatever else failed
    around it, the status is 0 if the loop ended well, and 1 if the transport failed. The statistics
    are printed, or logged by a daemon, if the status is 0 and the program receives. Their total is the
    number of datagrams that were accepted. A loop that ends well has come to its end, if a signal that
    ends it arrives in every wait behind the script. -/
theorem status_and_statistics_tell_of_the_loop (hrun : run o w = .ok exit w') :
    ∃ period display w₁ w₃ looped metered, Seconds.ofMillis? s.period = some period ∧
      looped = Loop.run (transportOf s period) display true (stepsOf w₀.host) ∧
      metered = Loop.runMetered (transportOf s period) (receiverOf s period).stepMetered display true
        (stepsOf w₀.host) ∧
      enter s full logged { w₀ with flags := { period } } = .ok display w₁ ∧
      (inUserLocale (loop s full logged period (stepsOf w₀.host))).after
        { w₀ with flags := { period } } = w₃ ∧
      Agrees s looped w₁ w₃ exit w' ∧
      (.signal .terminate ∈ w.host.idle → ∀ steps, looped.outcome w₁ = .ok steps →
        ∃ n, steps = some n) ∧
      (s.join → ∃ k, Counted (table.sessions.map (·.group)) looped metered w₁ k) := by
  rw [run_of_launch hchecked hlaunched] at hrun
  obtain ⟨period, well, w₃, hperiod, hlooped, hconclude⟩ := perform_eq_ok hrun
  obtain ⟨display, w₁, w₂, henter, hnoted, hleave⟩ := exists_of_inUserLocale_loop hlooped
  have hdisplay : IsDisplay display := gives_enter s full logged henter
  obtain ⟨hwell, hfailed, htable₂⟩ := noted_eq_ok hnoted
  obtain ⟨hexit, hhanded⟩ := conclude_eq_ok hconclude
  -- The sessions of the loop are those of the checks, and those of the report are those of the loop.
  have hbefore : w₁.agenda = (table, w.host.script, w.host.idle) :=
    (agenda_of_enter henter).trans (agenda_of_launch hchecked hlaunched :)
  have htable₁ : w₁.table = table := congrArg Prod.fst hbefore
  have hscript : w₁.host.script = w.host.script := congrArg (·.2.1) hbefore
  have hidle : w₁.host.idle = w.host.idle := congrArg (·.2.2) hbefore
  have htable₃ := (congrArg Prod.fst (agenda_of_leave hdisplay hleave)).trans htable₂
  have hstatus : exit = .status 0 ↔ well = true := by
    cases well <;> simp [hexit]
  have hstatus' : exit = .status 1 ↔ well = false := by
    cases well <;> simp [hexit]
  refine ⟨period, display, w₁, w₃, _, _, hperiod, rfl, rfl, henter, after_of_ok hlooped,
    ⟨?status, hstatus.trans hwell, hstatus'.trans hfailed, ?handed⟩, fun hends steps hrun => ?steps,
    fun hjoin => ?counted⟩
  case status =>
    rw [hstatus, hstatus']
    cases well <;> simp
  case handed =>
    rw [← htable₃]
    simp only [hstatus]
    exact hhanded
  case steps =>
    have hsteps : stepsOf w₀.host = stepsOf w₁.host :=
      congrArg (fun agenda => agenda.2.1.length + 2) (agenda_of_enter henter).symm
    rw [hsteps] at hrun
    exact exists_of_run hdisplay (bounded_of_enter henter (by rw [hidle]; exact hends)) hrun
  case counted =>
    have hcounted := counted_of_meters (meters_receiver hdisplay hjoin period (stepsOf w₀.host))
      (by rw [htable₁]; exact total_of_checked hchecked)
    rwa [htable₁] at hcounted

end

/-- A host that sends a datagram to the first group, which is none of the sender's, and then another
    one to each group in the same wait as the signal to end. -/
def lively : World where
  flags := { period := .ofNat 1 }
  host := {
    script := [[.datagram 0 [1, 2, 3]],
      [.signal .terminate, .datagram 1 [], .datagram 0 (Packet.encode 0 0 12)]]
    idle := [.signal .terminate] }

/-- The sessions of two groups. -/
def twoSessions : Table where
  sessions := [
    { source := none, group := "225.1.2.3", target := some ⟨.v4 0xe1010203, 1234⟩, spin := 51 },
    { source := none, group := "225.1.2.4", target := some ⟨.v4 0xe1010204, 1234⟩, spin := 52 }]
  need4 := 2

/-- A receiver of both groups tells of three datagrams. -/
theorem three_datagrams_are_told_of :
    ∃ s wc w₀ w', checked { groups := ["225.1.2.3+2"] } lively = .ok (some (s, twoSessions)) wc ∧
      launch s { wc with options := {}, table := twoSessions } = .ok (some (s, false, false)) w₀ ∧
      run { groups := ["225.1.2.3+2"] } lively = .ok (.status 0) w' ∧
      w'.host.stdout = "Group 225.1.2.3 received 2 packets, gaps: 0\n" ++
        "Group 225.1.2.4 received 1 packets, gaps: 0\n" ++ "\nReceived total: 3 packets\n" ∧
      .signal .terminate ∈ lively.host.idle ∧
      ∃ w₁ w₃ looped metered k, Agrees s looped w₁ w₃ (.status 0) w' ∧
        (∃ n, looped.outcome w₁ = .ok (some n)) ∧
        Counted ["225.1.2.3", "225.1.2.4"] looped metered w₁ k := by
  let o : Options := { groups := ["225.1.2.3+2"] }
  let s : Settings := { onGroup true with plain := false, groups := ["225.1.2.3+2"] }
  have hchecked : (checked o).outcome lively = .ok (some (s, twoSessions)) := by decide +kernel
  have hlaunched : (launch s).outcome { (checked o).after lively with
      options := o.next, table := twoSessions } = .ok (some (s, false, false)) := by decide +kernel
  have hrun : (run o).outcome lively = .ok (.status 0) := by decide +kernel
  have hends : .signal .terminate ∈ lively.host.idle := List.mem_singleton.2 rfl
  obtain ⟨period, display, w₁, w₃, looped, metered, -, -, -, -, -, hagrees, hsteps, hcounted⟩ :=
    status_and_statistics_tell_of_the_loop (eq_ok_of_outcome hchecked) (eq_ok_of_outcome hlaunched)
      (eq_ok_of_outcome hrun)
  obtain ⟨steps, hended⟩ := hagrees.well.1 rfl
  obtain ⟨n, rfl⟩ := hsteps hends steps hended
  obtain ⟨k, hk⟩ := hcounted rfl
  exact ⟨s, _, _, _, eq_ok_of_outcome hchecked, eq_ok_of_outcome hlaunched, eq_ok_of_outcome hrun,
    by decide +kernel, hends, w₁, w₃, looped, metered, k, hagrees, ⟨n, hended⟩, hk⟩

/-- The status is 1 if the transport fails together with the signal to end, even if the terminal
    cannot be given back. -/
example : (run { groups := ["225.1.2.3"] }).outcome {
    flags := { period := .ofNat 1 }
    host := {
      interactive := true
      script := [[.signal .terminate, .refusal 0 ⟨some 5, "Input/output error"⟩]]
      failures := [⟨.terminal .finish, none, .screen "endwin() returned ERR"⟩] } } =
    .ok (.status 1) := by
  decide +kernel

end Program

end Multicast
