import Multicast.Proofs.Act.Ends
import Multicast.Proofs.Act.Tally
import Multicast.Proofs.Dashboard.Frame
import Multicast.Proofs.Loop.Frame
import Multicast.Proofs.Terminal.Frame
import Multicast.Proofs.Transport.Frame

/-!
# `Proofs.Transport.Footing` — what sending and receiving stand on

A packet goes to the endpoint of a resolved session, over the socket that was opened for its family,
and a datagram is counted for the session that its socket is watched for. Nothing that happens while
the loop runs changes that.

## Contents
- **Footing.** `Footing`, with that of a world in `World.footing`.
- **Before the sockets.** `Footing.Grounded` and `Frame.grounded`, kept by opening a transport.
- **With the sockets.** `Footing.Upheld` and `Frame.upheld`, kept by the steps of a transport
  (`stepping_upheld`), by what shows the sessions (`drawing_upheld`, `marking_upheld`) and by the
  timer.
- **Failing.** `Act.Upholds` and `Act.failsAs_of_upheld`; `Footing.Spared`, and that what is spared
  is granted (`Act.failsAs_granted`).
-/

namespace Multicast

open Act

/-! ## Footing -/

/-- What sending and receiving stand on. -/
structure Footing where
  /-- The endpoint of each session, if it is resolved. -/
  targets : List (Option Endpoint)
  /-- The families that were resolved. -/
  families : List Family
  /-- Index and name of each interface. -/
  interfaces : List (Int × String)
  uplinks : List (Family × SocketId)
  /-- Which socket is watched for which session. -/
  places : List (Nat × Nat)
  /-- Which refusals can come up, however often. -/
  refusals : List (CallKind × Fault)
  /-- What happens while the transport is opened. -/
  opening : List Event
  /-- What can happen during a wait. -/
  waits : List (List Event)

/-- The host's part of it: interfaces, watched sockets, refusals and events. -/
def Host.outlook (h : Host) :
    List (Int × String) × List (Nat × Nat) × List (CallKind × Fault) × List Event ×
      List (List Event) :=
  (h.interfaces, h.places, h.failures.map fun f => (f.kind, f.fault), h.opening, h.idle :: h.script)

/-- The footing of a world. -/
def World.footing (w : World) : Footing where
  targets := w.table.sessions.map Session.target
  families := w.table.families
  uplinks := w.uplinks
  interfaces := w.host.outlook.1
  places := w.host.outlook.2.1
  refusals := w.host.outlook.2.2.1
  opening := w.host.outlook.2.2.2.1
  waits := w.host.outlook.2.2.2.2

theorem World.length_targets (w : World) : w.footing.targets.length = w.table.size :=
  List.length_map _

/-! ## Before the sockets -/

/-- Sessions, families and interfaces are the same, the same calls can be refused, and nothing else
    happens during the opening or a wait than what was to be expected. -/
structure Footing.Grounded (f f' : Footing) : Prop where
  targets : f'.targets = f.targets
  families : f'.families = f.families
  interfaces : f'.interfaces = f.interfaces
  refusals : f'.refusals = f.refusals
  opening : f'.opening = f.opening
  waits : ∀ events ∈ f'.waits, events ∈ f.waits

/-- The sockets are the same as well. -/
structure Footing.Upheld (f f' : Footing) : Prop extends f.Grounded f' where
  uplinks : f'.uplinks = f.uplinks
  places : f'.places = f.places

namespace Footing

variable {f f' f'' : Footing}

theorem Grounded.refl (f : Footing) : f.Grounded f := ⟨rfl, rfl, rfl, rfl, rfl, fun _ h => h⟩

theorem Grounded.trans (h : f.Grounded f') (h' : f'.Grounded f'') : f.Grounded f'' :=
  ⟨h'.targets.trans h.targets, h'.families.trans h.families, h'.interfaces.trans h.interfaces,
    h'.refusals.trans h.refusals, h'.opening.trans h.opening, fun _ he => h.waits _ (h'.waits _ he)⟩

theorem Upheld.refl (f : Footing) : f.Upheld f := ⟨.refl f, rfl, rfl⟩

theorem Upheld.trans (h : f.Upheld f') (h' : f'.Upheld f'') : f.Upheld f'' :=
  ⟨h.toGrounded.trans h'.toGrounded, h'.uplinks.trans h.uplinks, h'.places.trans h.places⟩

theorem Upheld.of_eq (h : f' = f) : f.Upheld f' := by
  rw [h]
  exact .refl f

end Footing

/-- Worlds between which the sessions are as they were. -/
def Frame.grounded : Frame where
  rel w w' := w.footing.Grounded w'.footing
  refl w := .refl w.footing
  trans := .trans

/-- Worlds between which the sessions and the sockets are as they were. -/
def Frame.upheld : Frame where
  rel w w' := w.footing.Upheld w'.footing
  refl w := .refl w.footing
  trans := .trans

namespace Act

/-- Who upholds the footing keeps to the ground. -/
theorem grounded_of_upheld {α : Type} {act : Act α} (h : Keeps .upheld act) : Keeps .grounded act :=
  h.mono fun _ _ hupheld => hupheld.toGrounded

theorem upheld_modifyHost {f : Host → Host} (hf : ∀ h, (f h).outlook = h.outlook) :
    Keeps .upheld (modifyHost f) := by
  intro w
  refine .of_eq ?_
  show World.footing { w with host := f w.host } = w.footing
  unfold World.footing
  rw [hf]

theorem upheld_call (c : Call) : Keeps .upheld (call c) := upheld_modifyHost fun _ => rfl

theorem upheld_log (level : Level) (message : String) : Keeps .upheld (log level message) := by
  refine upheld_modifyHost fun h => Host.log_leaves Host.outlook (fun _ _ => rfl) ?_ h level message
  intro h r sink
  cases sink <;> rfl

theorem upheld_check (kind : CallKind) : Keeps .upheld (check kind) := by
  intro w
  refine .of_eq ?_
  rw [after_check]
  unfold World.footing Host.outlook
  dsimp only
  rw [map_next]
  rfl

theorem upheld_modifySession {i : Int} {f : Session → Session} {w : World}
    (hf : ∀ s, w.table.get? i = some s → (f s).target = s.target) :
    w.footing.Upheld ((modifySession i f).after w).footing := by
  have htargets := map_modifySession Session.target hf
  obtain ⟨sessions, hafter⟩ := after_modifySession i f w
  rw [hafter] at htargets ⊢
  exact ⟨⟨htargets, rfl, rfl, rfl, rfl, fun _ h => h⟩, rfl, rfl⟩

/-- Opening new slots leaves the sessions their endpoints. -/
theorem upheld_ageAll : Keeps .upheld ageAll := by
  intro w
  refine ⟨⟨?_, rfl, rfl, rfl, rfl, fun _ h => h⟩, rfl, rfl⟩
  show (w.table.sessions.map Session.age).map Session.target = w.table.sessions.map Session.target
  rw [List.map_map]
  rfl

end Act

/-- **Opening a transport** changes no more than its sockets. -/
theorem opening_grounded : Frame.grounded.Opening where
  call c _ := grounded_of_upheld (upheld_call c)
  check kind := grounded_of_upheld (upheld_check kind)
  log level message := grounded_of_upheld (upheld_log level message)
  numbered _ _ := .refl _
  uplinks _ _ := ⟨rfl, rfl, rfl, rfl, rfl, fun _ h => h⟩
  watched _ _ := ⟨rfl, rfl, rfl, rfl, rfl, fun _ h => h⟩
  socket _ socket _ :=
    (upheld_modifySession (f := fun s => { s with socket }) fun _ _ => rfl).toGrounded

/-- What was expected of the waits to come still is. -/
theorem Host.Expects.grounded {p : Event → Prop} {w w' : World} (h : w.host.Expects p)
    (hw : w.footing.Grounded w'.footing) : w'.host.Expects p :=
  fun events hevents => h events (hw.waits events hevents)

/-- Calls of a kind that nothing refuses are still not refused. -/
theorem granted_of_grounded {kind : CallKind} {w w' : World}
    (h : ∀ f ∈ w.host.failures, f.kind ≠ kind) (hw : w.footing.Grounded w'.footing) :
    ∀ f ∈ w'.host.failures, f.kind ≠ kind := by
  intro f hf
  have hmem : (f.kind, f.fault) ∈ w.footing.refusals := by
    rw [← hw.refusals]
    exact List.mem_map_of_mem hf
  obtain ⟨f₀, hf₀, hsame⟩ := List.mem_map.1 hmem
  rw [← (Prod.mk.inj hsame).1]
  exact h f₀ hf₀

/-- The groups are still on ports that there are. -/
theorem hasPorts_of_grounded {w w' : World} (h : w.table.HasPorts)
    (hw : w.footing.Grounded w'.footing) : w'.table.HasPorts := by
  have htargets : w'.table.sessions.map Session.target = w.table.sessions.map Session.target :=
    hw.targets
  unfold Table.HasPorts
  rw [htargets]
  exact h

/-! ## With the sockets -/

/-- **A step of a transport** upholds the footing; it takes its events off the script. -/
theorem stepping_upheld : Frame.upheld.Stepping where
  call c _ := upheld_call c
  check := upheld_check
  log := upheld_log
  flags _ _ _ _ _ := .refl _
  script w events rest hscript := by
    refine ⟨⟨rfl, rfl, rfl, rfl, rfl, ?_⟩, rfl, rfl⟩
    intro later hlater
    show later ∈ w.host.idle :: w.host.script
    rw [hscript]
    rcases List.mem_cons.1 (hlater : later ∈ w.host.idle :: rest) with rfl | hlater
    · exact List.mem_cons_self
    · exact List.mem_cons_of_mem _ (List.mem_cons_of_mem _ hlater)
  terminal _ _ := .refl _
  clock _ _ := .refl _
  watched _ _ hplaces := ⟨⟨rfl, rfl, rfl, rfl, rfl, fun _ h => h⟩, rfl, hplaces⟩
  session _ _ _ hsteady := upheld_modifySession fun s hs => (hsteady s hs).2

theorem operating_upheld : Frame.upheld.Operating where
  call c _ := upheld_call c
  check kind := upheld_check (.terminal kind)
  log := upheld_log
  size _ _ _ := .refl _

/-- **Drawing** upholds the footing. -/
theorem drawing_upheld : Frame.upheld.Drawing .terminal where
  perform _ hc := Terminal.keeps_perform operating_upheld hc
  querySize := Terminal.keeps_querySize operating_upheld
  update _ _ _ := .refl _
  region _ _ := .refl _
  command _ := upheld_call _
  lookup _ _ := upheld_call _
  check := upheld_check .lookup
  turn w := by
    have hturn : ∀ s : Session, s.turn.target = s.target := by
      intro s
      unfold Session.turn
      split
      · rfl
      · rfl
    refine ⟨⟨?_, rfl, rfl, rfl, rfl, fun _ h => h⟩, rfl, rfl⟩
    show (w.table.sessions.map Session.turn).map Session.target = w.table.sessions.map Session.target
    simp only [List.map_map, Function.comp_def, hturn]
  age := upheld_ageAll

/-- **The plain output** upholds the footing. -/
theorem marking_upheld : Frame.upheld.Marking where
  progress _ _ := .refl _
  stdout _ _ := .refl _

/-- Starting the timer upholds the footing. -/
theorem Signals.upheld_startTimer : Keeps .upheld startTimer :=
  keeps_startTimer (fun w _ _ _ _ => upheld_call _ w) (fun _ => .refl _) upheld_log

theorem Signals.upheld_stopTimer : Keeps .upheld stopTimer :=
  keeps_stopTimer (upheld_call _) fun _ => .refl _

/-! ## Failing -/

/-- The calls of a transport that are not questions about an interface. -/
def Call.onSockets : Call → Bool
  | .command _ | .lookup _ _ => false
  | c => c.isOpening || c.isStepping

/-- The calls of a transport that can be refused. -/
def CallKind.onSockets : CallKind → Bool
  | .openSocket | .setOption | .bind | .send | .select => true
  | _ => false

/-- No other call can be refused. -/
def Footing.Spared (f : Footing) : Prop := ∀ p ∈ f.refusals, p.1.onSockets = true

theorem Footing.Spared.grounded {f f' : Footing} (h : f.Spared) (hf : f.Grounded f') : f'.Spared := by
  unfold Spared
  rw [hf.refusals]
  exact h

namespace Act

variable {α : Type} {w : World} {bad : Fault → Prop}

/-- From worlds on the footing of one, the step upholds it, and fails only with faults of one
    kind. -/
abbrev Upholds (w : World) (bad : Fault → Prop) (act : Act α) : Prop :=
  FailsAs (fun w' => w.footing.Upheld w'.footing) bad act

/-- A step that upholds the footing is left with bounding its faults. -/
theorem failsAs_of_upheld {act : Act α} (hkeeps : Keeps .upheld act)
    (hbad : ∀ w₁ : World, w.footing.Upheld w₁.footing → ∀ e w', act w₁ = .error e w' → bad e) :
    Upholds w bad act :=
  failsAs_of_keeps (hkeeps.mono fun _ _ h h₁ => h₁.trans h) hbad

/-- One that always returns does not fail. -/
theorem failsAs_of_upheld_of_returns {act : Act α} (hkeeps : Keeps .upheld act)
    (hreturns : ∀ w₁ : World, w.footing.Upheld w₁.footing → ∃ a w', act w₁ = .ok a w') :
    Upholds w bad act :=
  failsAs_of_returns (hkeeps.mono fun _ _ h h₁ => h₁.trans h) hreturns

theorem failsAs_call (c : Call) : Upholds w bad (call c) :=
  failsAs_of_upheld_of_returns (upheld_call c) fun _ _ => ⟨_, _, rfl⟩

theorem failsAs_log (level : Level) (message : String) : Upholds w bad (log level message) :=
  failsAs_of_upheld_of_returns (upheld_log level message) fun _ _ => ⟨_, _, rfl⟩

theorem failsAs_ageAll : Upholds w bad ageAll :=
  failsAs_of_upheld_of_returns upheld_ageAll fun _ _ => ⟨_, _, rfl⟩

/-- A call that is spared goes through. -/
theorem exists_attempt (h : w.footing.Spared) {kind : CallKind} (hkind : kind.onSockets = false)
    {c : Call} (hc : c.objection? = none) : ∃ w', attempt kind c w = .ok () w' := by
  refine ⟨_, attempt_eq_ok_iff.2 ⟨Host.refusal?_eq_none.2 ⟨Host.objection?_eq_none hc _, ?_⟩, rfl⟩⟩
  rw [List.find?_eq_none]
  intro f hf hstrikes
  simp only [Failure.strikes, Bool.and_eq_true, decide_eq_true_eq] at hstrikes
  have hspared : f.kind.onSockets = true := h (f.kind, f.fault) (List.mem_map_of_mem hf)
  rw [hstrikes.1, hkind] at hspared
  cases hspared

theorem failsAs_granted (h : w.footing.Spared) {kind : CallKind} (hkind : kind.onSockets = false)
    {c : Call} (hc : c.objection? = none) : Upholds w bad (attempt kind c) := by
  refine failsAs_of_upheld_of_returns (keeps_attempt (upheld_call c) (upheld_check kind)) ?_
  intro w₁ h₁
  obtain ⟨w', hgranted⟩ := exists_attempt (h.grounded h₁.toGrounded) hkind hc
  exact ⟨(), w', hgranted⟩

/-- A call fails with what it says of its numbers. -/
theorem failsAs_submit (c : Call) :
    Upholds w (fun e => c.objection? = some e) (submit c) :=
  failsAs_of_upheld (keeps_submit (upheld_call c)) fun _ _ _ _ herror =>
    objection_of_host (objection_of_submit herror)

end Act

end Multicast
