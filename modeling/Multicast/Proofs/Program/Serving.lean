import Multicast.Proofs.Program.Start
import Multicast.Proofs.Program.Surroundings
import Multicast.Proofs.Table.Build

/-!
# `Proofs.Program.Serving` — what the settings ask for is what the system is given

Numbers of the settings come back in the calls of a run: the wait, the period, the port, the hop limit
and the size of a payload. On the way there, the port is in the endpoints of the sessions and the
period is in the flags of the loop; as long as they are there, every call hands on what the settings
ask for.

## Contents
- **Calls.** `Call.Serves`, and the frame `Frame.serving`, which keeps a property of `World.supply`.
- **Basic steps.** `serving_call`, `serving_log`, and the frame's instances up to `surrounding_serving`.
- **Transport.** `Program.serving_transport`, opening, stepping and closing.
- **Loop.** `Program.serving_run` and `Program.serving_perform`.
- **Program.** `Program.serving_runWith` and `Program.serving_main`.
-/

namespace Multicast

open Act

/-! ## Calls -/

/-- The call hands on what the settings ask for, if it hands on a number of theirs. The timer is set
    to fire first after the settling delay, or it is stopped. -/
def Call.Serves (s : Settings) : Call → Prop
  | .wait seconds => seconds = s.wait
  | .pause span | .select span => Seconds.ofMillis? s.period = some (.span span)
  | .setTimer first interval =>
    first = .ofNat 1 ∧ Seconds.ofMillis? s.period = some (.span interval) ∨
      first = .ofNat 0 ∧ interval = .ofNat 0
  | .bind _ endpoint => endpoint.port = s.port
  | .send _ data target => target.port = s.port ∧ data.length = Packet.clampSize s.bytes
  | .setOption _ .ttl4 value | .setOption _ .hops6 value => value = .number s.ttl
  | _ => True

/-- Where calls find numbers of the settings while the loop runs. -/
structure Supply where
  targets : List (Option Endpoint)
  settle : Seconds
  period : Seconds

/-- What a world has in supply. -/
def World.supply (w : World) : Supply :=
  ⟨w.table.sessions.map (·.target), w.flags.settle, w.flags.period⟩

/-- All endpoints are on the port. -/
def Supply.Addressed (port : Int) (u : Supply) : Prop := ∀ target, some target ∈ u.targets → target.port = port

/-- All endpoints are on the port, and the timer is to be set to the period. -/
def Supply.Ready (s : Settings) (period : Seconds) (u : Supply) : Prop :=
  u.Addressed s.port ∧ u.settle = .ofNat 1 ∧ u.period = period

/-- A supply of a quality stays so, and with one, all calls hand on what the settings ask for. -/
def Frame.serving (s : Settings) (q : Supply → Prop) : Frame where
  rel w w' := q w.supply → q w'.supply ∧ ∃ calls : List Call,
    w'.host.trace.toList = w.host.trace.toList ++ calls ∧ ∀ c ∈ calls, c.Serves s
  refl w h := ⟨h, [], (List.append_nil _).symm, by simp⟩
  trans := by
    intro u v w huv hvw hu
    obtain ⟨hv, calls, hcalls, hserve⟩ := huv hu
    obtain ⟨hw, calls', hcalls', hserve'⟩ := hvw hv
    refine ⟨hw, calls ++ calls', ?_, ?_⟩
    · rw [hcalls', hcalls, List.append_assoc]
    · intro c hc
      rcases List.mem_append.1 hc with hc | hc
      · exact hserve c hc
      · exact hserve' c hc

variable {s : Settings} {q : Supply → Prop}

/-! ## Basic steps -/

/-- What neither calls nor touches the supply is served by the settings. -/
theorem serving_of_eq {w w' : World} (hsupply : w'.supply = w.supply)
    (htrace : w'.host.trace = w.host.trace) : (Frame.serving s q).rel w w' := by
  intro h
  rw [htrace, hsupply]
  exact (Frame.serving s q).refl w h

/-- **A call** that hands on what the settings ask for. -/
theorem serving_call {c : Call} (hc : c.Serves s) : Keeps (.serving s q) (call c) :=
  fun _ h => ⟨h, [c], Array.toList_push, fun c' hc' => by rw [List.mem_singleton.1 hc']; exact hc⟩

theorem serving_check (kind : CallKind) : Keeps (.serving s q) (check kind) := by
  intro w
  rw [after_check]
  exact serving_of_eq rfl rfl

/-- What is only logged hands on records. -/
theorem serving_of_onlyLogged {w w' : World} (h : OnlyLogged w w') : (Frame.serving s q).rel w w' := by
  intro hq
  obtain ⟨calls, hcalls, hlogged⟩ := h.calls
  have hsupply : w'.unlogged.supply = w.unlogged.supply := congrArg World.supply h.unlogged
  refine ⟨?_, calls, hcalls, fun c hc => ?_⟩
  · rwa [show w'.supply = w.supply from hsupply]
  · have hlog := hlogged c hc
    cases c <;> trivial

theorem serving_log (level : Level) (message : String) : Keeps (.serving s q) (log level message) :=
  (keeps_log level message).mono fun _ _ => serving_of_onlyLogged

/-- Sessions keep their endpoints. -/
theorem serving_modifySession {i : Int} {f : Session → Session} {w : World}
    (hf : ∀ s, w.table.get? i = some s → (f s).target = s.target) :
    (Frame.serving s q).rel w ((modifySession i f).after w) := by
  have htargets := map_modifySession (·.target) hf
  obtain ⟨sessions, hafter⟩ := after_modifySession i f w
  rw [hafter] at htargets ⊢
  refine serving_of_eq ?_ rfl
  show Supply.mk (sessions.map (·.target)) _ _ = w.supply
  rw [htargets]
  rfl

/-- Calls that hand on nothing of the settings. -/
theorem preparing_serving : (Frame.serving s q).Preparing where
  prepare c hc hchosen := by
    refine serving_call ?_
    cases c with
    | setOption id name value => cases name <;> trivial
    | bind => cases hchosen
    | _ => trivial
  check := serving_check
  log := serving_log
  numbered _ _ := serving_of_eq rfl rfl

theorem closing_serving : (Frame.serving s q).Closing where
  close _ := serving_call trivial
  closeSelector := serving_call trivial
  uplinks _ _ := serving_of_eq rfl rfl
  watched _ _ := serving_of_eq rfl rfl
  socket _ _ _ := serving_modifySession fun _ _ => rfl

theorem waiting_serving : (Frame.serving s q).Waiting where
  receive _ _ := serving_call trivial
  check := serving_check
  log := serving_log
  flags _ _ _ _ _ := serving_of_eq rfl rfl
  script _ _ _ _ := serving_of_eq rfl rfl
  terminal _ _ := serving_of_eq rfl rfl
  clock _ _ := serving_of_eq rfl rfl
  watched _ _ _ := serving_of_eq rfl rfl
  session _ _ _ hsteady := serving_modifySession fun s hs => (hsteady s hs).2

theorem operating_serving : (Frame.serving s q).Operating where
  call c hc := serving_call (by cases c <;> trivial)
  check _ := serving_check _
  log := serving_log
  size _ _ _ := serving_of_eq rfl rfl

/-- A new look of the sessions leaves their endpoints. -/
theorem serving_map {f : Session → Session} (hf : ∀ s, (f s).target = s.target) (w : World) :
    (Frame.serving s q).rel w { w with table := { w.table with sessions := w.table.sessions.map f } } := by
  refine serving_of_eq ?_ rfl
  show Supply.mk ((w.table.sessions.map f).map (·.target)) _ _ = w.supply
  simp only [List.map_map, Function.comp_def, hf]
  rfl

theorem drawing_serving : (Frame.serving s q).Drawing .terminal where
  perform _ hc := Terminal.keeps_perform operating_serving hc
  querySize := Terminal.keeps_querySize operating_serving
  update _ _ _ := serving_of_eq rfl rfl
  region _ _ := serving_of_eq rfl rfl
  command _ := serving_call trivial
  lookup _ _ := serving_call trivial
  check := serving_check .lookup
  turn := serving_map fun s => by
    unfold Session.turn
    split <;> rfl
  age := serving_map fun _ => rfl

theorem marking_serving : (Frame.serving s q).Marking where
  progress _ _ := serving_of_eq rfl rfl
  stdout _ _ := serving_of_eq rfl rfl

theorem launching_serving : (Frame.serving s q).Launching where
  call c hc := serving_call (by cases c <;> trivial)
  check := serving_check
  log := serving_log
  process _ _ _ := serving_of_eq rfl rfl
  logging _ _ _ := serving_of_eq rfl rfl
  streams _ _ _ := serving_of_eq rfl rfl

/-- **Entering and leaving the loop** hands on nothing of the settings. -/
theorem surrounding_serving : (Frame.serving s q).Surrounding where
  launching := launching_serving
  operating := operating_serving
  call c hc := serving_call (by cases c <;> trivial)
  unset := serving_call (Or.inr ⟨rfl, rfl⟩)
  terminal _ _ := serving_of_eq rfl rfl
  dashboard _ _ := serving_of_eq rfl rfl
  progress _ _ := serving_of_eq rfl rfl
  signals _ _ := serving_of_eq rfl rfl
  handlers _ _ := serving_of_eq rfl rfl

namespace Program

/-! ## Transport -/

section

variable {period : Seconds} (haddressed : ∀ u, q u → u.Addressed s.port)
include haddressed

/-- **Opening, stepping and closing the sender or receiver** serve the settings, where the sessions'
    endpoints are on their port. -/
theorem serving_role (hperiod : Seconds.ofMillis? s.period = some period) :
    Keeps (.serving s q) (roleOf s period).start ∧
      Keeps (.serving s q) (roleOf s period).step ∧
      Keeps (.serving s q) (roleOf s period).close := by
  have hsession : ∀ w : World, q w.supply → ∀ session ∈ w.table.sessions, ∀ target,
      session.target = some target → target.port = s.port := by
    intro w hw session hmem target htarget
    refine haddressed _ hw target ?_
    rw [← htarget]
    exact List.mem_map_of_mem hmem
  have hspan : ∀ span, period = .span span → Seconds.ofMillis? s.period = some (.span span) := by
    rintro span rfl
    exact hperiod
  unfold roleOf
  split
  · refine ⟨?_, ?_, Receiver.keeps_close closing_serving⟩
    · refine Receiver.keeps_start_of preparing_serving _ fun index => keeps_get_bind fun w hw => ?_
      refine Receiver.keeps_joinFrom preparing_serving closing_serving _ _ _ ?_ w hw
      exact fun session hmem target htarget _ => serving_call (hsession w hw session hmem target htarget)
    · exact Receiver.keeps_step_of _ (fun span h => serving_call (hspan span h)) waiting_serving
  · refine ⟨?_, ?_, Sender.keeps_close closing_serving⟩
    · refine Sender.keeps_start _ (fun _ name => serving_call ?_) preparing_serving fun _ _ =>
        serving_of_eq rfl rfl
      cases name <;> first | rfl | trivial
    · refine Sender.keeps_step_of waiting_serving _ (fun span h => serving_call (hspan span h)) ?_
      refine keeps_get_bind fun w hw => Sender.keeps_sendFrom waiting_serving _ _ ?_ w hw
      intro session hmem target htarget _ data hdata
      exact serving_call ⟨hsession w hw session hmem target htarget, hdata⟩

/-- What happens while the transport is opened hands on nothing. -/
theorem serving_transport (hperiod : Seconds.ofMillis? s.period = some period) :
    Keeps (.serving s q) (transportOf s period).start ∧
      Keeps (.serving s q) (transportOf s period).step ∧
      Keeps (.serving s q) (transportOf s period).close := by
  obtain ⟨hstart, hstep, hclose⟩ := serving_role haddressed hperiod
  exact ⟨keeps_bind hstart fun _ => waiting_serving.attend, hstep, hclose⟩

end

/-! ## Loop -/

/-- **A run of the loop** serves the settings. -/
theorem serving_run {display : Display} (hdisplay : IsDisplay display) {period : Seconds}
    (hperiod : Seconds.ofMillis? s.period = some period) (fuel : Nat) :
    Keeps (.serving s (Supply.Ready s period)) (Loop.run (transportOf s period) display true fuel) := by
  obtain ⟨hstart, hstep, hclose⟩ :=
    serving_transport (q := Supply.Ready s period) (fun _ h => h.1) hperiod
  obtain ⟨hredraw, htick⟩ := keeps_display hdisplay
    (drawing_serving (s := s) (q := Supply.Ready s period)) marking_serving
  have hdisarm : Keeps (.serving s (Supply.Ready s period)) Signals.stopTimer :=
    Signals.keeps_stopTimer surrounding_serving.unset fun _ => serving_of_eq rfl rfl
  refine Loop.keeps_run (fun _ _ _ _ _ => serving_of_eq rfl rfl) serving_log hredraw htick hstart hstep
    hclose ?_ hdisarm true fuel
  refine Signals.keeps_startTimer (fun w first interval hsettle hinterval hw => ?_)
    (fun _ => serving_of_eq rfl rfl) serving_log
  have hset : (Call.setTimer first interval).Serves s := by
    refine Or.inl ⟨?_, ?_⟩
    · exact Seconds.span.inj (hsettle.symm.trans hw.2.1)
    · rw [hperiod, ← hw.2.2]
      exact congrArg some hinterval
  exact serving_call hset w hw

/-- **Running the loop and reporting** serves the settings, if the sessions are on their port. -/
theorem serving_perform (full logged : Bool) :
    Keeps (.serving s (Supply.Addressed s.port)) (perform s full logged) := by
  rw [perform_eq]
  unfold periodOf
  cases hperiod : Seconds.ofMillis? s.period with
  | none => exact keeps_throw _
  | some period =>
      have hrest : Keeps (.serving s (Supply.Ready s period)) (get >>= fun w =>
          inUserLocale (loop s full logged period (stepsOf w.host)) >>= conclude s) := by
        refine keeps_bind keeps_get fun w => keeps_bind ?_ fun well => ?_
        · refine keeps_inUserLocale surrounding_serving (keeps_loop surrounding_serving ?_ _ _)
          exact fun display hdisplay => serving_run hdisplay hperiod _
        · refine keeps_conclude launching_serving (fun w hw => ⟨⟨?targets, hw.2⟩, ?calls⟩) s well
          case targets => exact fun _ hnone => absurd hnone List.not_mem_nil
          case calls => exact ⟨[], (List.append_nil _).symm, by simp⟩
      intro w hw
      obtain ⟨hready, hcalls⟩ := hrest { w with flags := { period } } ⟨hw, rfl, rfl⟩
      exact ⟨hready.1, hcalls⟩

/-! ## Program -/

/-- **Everything behind the checks** serves the settings, if the sessions are on their port. -/
theorem serving_runWith (o : Options) {table : Table}
    (htable : ∀ session ∈ table.sessions, ∀ target, session.target = some target →
      target.port = s.port) :
    Keeps (.serving s fun _ => True) (runWith o s table) := by
  have hlaunched : Keeps (.serving s (Supply.Addressed s.port)) (launch s >>= proceed) := by
    refine keeps_bind_of_gives (keeps_launch launching_serving (serving_call rfl)) (gives_launch s) ?_
    intro r hr
    cases r with
    | none => exact keeps_pure failure
    | some launched =>
        obtain ⟨s', full, logged⟩ := launched
        obtain ⟨interface, logFile, rfl⟩ := hr s' full logged rfl
        exact serving_perform (s := { s with interface, logFile }) full logged
  intro w _
  have haddressed : Supply.Addressed s.port { w with options := o.next, table }.supply := by
    intro target htarget
    obtain ⟨session, hmem, hsession⟩ := List.mem_map.1 htarget
    exact htable session hmem target hsession
  exact ⟨trivial, (hlaunched { w with options := o.next, table } haddressed).2⟩

/-- The settings of a run are those of its options, and its sessions are built for them. -/
theorem gives_checked (o : Options) :
    Gives (fun r => ∀ s table, r = some (s, table) →
      o.settings = .ok s ∧ (Table.build s.groups s.port maxGroups).2 = .ok table) (checked o) := by
  have hvalidate : Gives (fun s => o.settings = .ok s) (validate o) := by
    refine Gives.bind (q := fun s => o.settings = .ok s) (fun w s w' h => (ofExcept_eq_ok.1 h).1)
      fun s hs => gives_bind fun w => ?_
    split
    · exact gives_bind fun _ => gives_pure hs
    · exact gives_pure hs
  have hbuild : ∀ s : Settings, Gives (fun table =>
      (Table.build s.groups s.port maxGroups).2 = .ok table) (build s) := fun s =>
    gives_bind fun _ _ _ _ h => (ofExcept_eq_ok.1 h).1
  have hprepared : Gives (fun r : Settings × Table => o.settings = .ok r.1 ∧
      (Table.build r.1.groups r.1.port maxGroups).2 = .ok r.2) (prepared o) :=
    hvalidate.bind fun s hs => (hbuild s).bind fun table htable => gives_pure ⟨hs, htable⟩
  rw [checked_eq, map_eq_pure_bind]
  refine Gives.recover (hprepared.bind fun r hr => gives_pure fun s table hsome => ?_) fun e => ?_
  · obtain rfl := Option.some.inj hsome
    exact hr
  · exact gives_bind fun _ => gives_bind fun _ => gives_pure fun _ _ hnone =>
      absurd hnone.symm (Option.some_ne_none _)

/-- **The whole program** serves the settings that its arguments ask for. -/
theorem serving_main {w : World} {arguments : List String} {o : Options}
    (hread : CommandLine.read w.options arguments = .ok o) (hs : o.settings = .ok s) :
    (Frame.serving s fun _ => True).rel w ((main arguments).after w) := by
  have hrun : Keeps (.serving s fun _ => True) (run o) := by
    refine keeps_bind_of_gives ?_ (gives_checked o) fun r hr => ?_
    · exact (keeps_checked o).mono fun _ _ => serving_of_onlyLogged
    · cases r with
      | none => exact keeps_pure failure
      | some start =>
          obtain ⟨s', table⟩ := start
          obtain ⟨hs', htable⟩ := hr s' table rfl
          obtain rfl : s = s' := Except.ok.inj (hs.symm.trans hs')
          obtain ⟨rs, hmeets⟩ := Table.meets_of_build htable
          refine serving_runWith o fun session hmem target htarget => ?_
          obtain ⟨target', htarget', hport⟩ := hmeets.target hmem
          obtain rfl := Option.some.inj (htarget.symm.trans htarget')
          exact hport
  have hexit : ∀ e, Keeps (.serving s fun _ => True) (exitOf e) := by
    intro e
    have hreport : Keeps (.serving s fun _ => True) (do
        log .error "Unhandled exception:"
        complain s!"\nError: {e.message}\n"
        pure failure) :=
      keeps_bind (serving_log _ _) fun _ => keeps_bind (keeps_complain launching_serving _) fun _ =>
        keeps_pure failure
    cases e <;> first | exact keeps_pure _ | exact hreport
  have hmain : (main arguments).after w = (recover (run o) (fun _ => true) exitOf).after w := by
    unfold after main
    rw [bind_of_ok (get_apply w), hread]
  rw [hmain]
  exact keeps_recover hrun hexit w

end Program

end Multicast
