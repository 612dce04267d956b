import Mathlib.Algebra.BigOperators.Group.List.Basic
import Mathlib.Algebra.Ring.Int.Defs
import Multicast.Proofs.Loop.Prospect
import Multicast.Proofs.Receiver.Counting
import Multicast.Proofs.Transport.Footing

/-!
# `Proofs.Receiver.Accepted` — sessions count what was accepted

A datagram that reaches a session is accepted or, once the session has reached its limit, ignored. To
tell how many were accepted in a run, its steps are done once more with a count on the side, which
goes up by one for each datagram that is accepted. Without the count, these are the steps of the run;
and whether they return or fail, the count has gone up by what the sessions have gained.

## Contents
- **Scores.** `Table.total_replace` and `Table.groups_replace`, for a session that counts.
- **Steps that accept nothing.** `Frame.uncounted`, with what keeps it.
- **Metered steps.** `Metered` and `Metered.Meters`, one lemma for each way of composing steps.
- **Receiving.** `Receiver.accountMetered` up to `Receiver.stepMetered`, with
  `Receiver.meters_account` up to `Receiver.meters_step`.
-/

namespace Multicast

open Act

/-! ## Scores -/

namespace Table

/-- A session that is replaced takes its count out of the total, and its successor adds its own. -/
theorem total_replace {t : Table} {k : Nat} {session : Session} (hsession : t.sessions[k]? = some session)
    (session' : Session) :
    (t.replace k session').total = t.total + (session'.count - session.count) := by
  obtain ⟨hk, rfl⟩ := List.getElem?_eq_some_iff.1 hsession
  have hcounts : (t.sessions.set k session').map (·.count) =
      (t.sessions.map (·.count)).set k session'.count := List.map_set
  rw [total_eq_sum, total_eq_sum, replace, hcounts, List.sum_set',
    dif_pos (by rwa [List.length_map]), List.getElem_map]
  omega

theorem groups_replace {t : Table} {k : Nat} {session session' : Session}
    (hsession : t.sessions[k]? = some session) (hgroup : session'.group = session.group) :
    (t.replace k session').sessions.map (·.group) = t.sessions.map (·.group) := by
  obtain ⟨hk, rfl⟩ := List.getElem?_eq_some_iff.1 hsession
  have hk' : k < (t.sessions.map (·.group)).length := by rwa [List.length_map]
  have hgroups : (t.sessions.set k session').map (·.group) =
      (t.sessions.map (·.group)).set k (t.sessions.map (·.group))[k] := by
    rw [List.map_set, hgroup, List.getElem_map]
  rw [replace, hgroups]
  exact List.set_getElem_self hk'

end Table

/-! ## Steps that accept nothing -/

/-- No session counts anything. -/
def Frame.uncounted : Frame := .of (·.table.scores)

theorem uncounted_of_prospect {w w' : World} (h : (Frame.of World.prospect).rel w w') :
    Frame.uncounted.rel w w' := congrArg Prospect.scores h

theorem reading_uncounted : Frame.uncounted.Reading where
  receive _ _ _ := uncounted_of_prospect rfl
  check kind w := uncounted_of_prospect (prospect_check kind w)
  log level message w := uncounted_of_prospect (prospect_log level message w)
  flags _ _ _ _ _ := rfl
  watched _ _ _ := uncounted_of_prospect rfl

/-- **A wait** counts nothing. -/
theorem uncounted_await : Keeps .uncounted await :=
  fun w => congrArg Table.scores (congrArg Prod.fst (await_leaves w))

/-- What happens while a transport is opened counts nothing, either. -/
theorem uncounted_attend : Keeps .uncounted attend := by
  refine keeps_bind keeps_get fun _ => keeps_forM fun e _ => (keeps_play e).mono ?_
  intro w w' hplayed
  have htable : w'.table = w.table := congrArg (fun part => part.1.1) hplayed
  exact congrArg Table.scores htable

/-! ## Metered steps -/

/-- A step that keeps count on the side. -/
abbrev Metered := EStateM Fault (World × Nat)

namespace Metered

variable {α β : Type}

/-- A step that is done without a look at the count. -/
def lift (act : Act α) : Metered α := fun u =>
  match act u.1 with
  | .ok a w => .ok a (w, u.2)
  | .error e w => .error e (w, u.2)

/-- Adds one to the count. -/
def tick : Metered Unit := modify fun u => (u.1, u.2 + 1)

/-- Runs a clean-up after a step, however it ends; a failure of the clean-up takes precedence. -/
def ensuring (body : Metered α) (cleanup : Metered Unit) : Metered α := fun u =>
  match body u with
  | .ok a u =>
    match cleanup u with
    | .ok _ u => .ok a u
    | .error e u => .error e u
  | .error e u =>
    match cleanup u with
    | .ok _ u => .error e u
    | .error e u => .error e u

/-- How a step ends without its count. -/
def bare : EStateM.Result Fault (World × Nat) α → EStateM.Result Fault World α
  | .ok a u => .ok a u.1
  | .error e u => .error e u.1

/-- The world and the count that a step ends with. -/
def left : EStateM.Result Fault (World × Nat) α → World × Nat
  | .ok _ u => u
  | .error _ u => u

/-- The count has gone up by what the sessions have gained, and these are still the same. -/
def Balanced (u u' : World × Nat) : Prop :=
  u'.1.table.sessions.map (·.group) = u.1.table.sessions.map (·.group) ∧
    u'.1.table.total - u'.2 = u.1.table.total - u.2

theorem Balanced.refl (u : World × Nat) : Balanced u u := ⟨rfl, rfl⟩

theorem Balanced.trans {u v v' : World × Nat} (huv : Balanced u v) (hvv' : Balanced v v') :
    Balanced u v' :=
  ⟨hvv'.1.trans huv.1, hvv'.2.trans huv.2⟩

/-- **The metered step is the step with a count on the side**: without the count it ends as the step
    does, and the count is balanced by what the sessions have gained. -/
structure Meters (m : Metered α) (act : Act α) : Prop where
  bare_eq : ∀ u, bare (m u) = act u.1
  balanced : ∀ u, Balanced u (left (m u))

theorem Meters.fst_left {m : Metered α} {act : Act α} (h : Meters m act) (u : World × Nat) :
    (left (m u)).1 = act.after u.1 := by
  unfold after
  rw [← h.bare_eq u]
  cases m u <;> rfl

theorem meters_pure (a : α) : Meters (pure a) (pure a) := ⟨fun _ => rfl, .refl⟩

theorem meters_throw (e : Fault) : Meters (throw e : Metered α) (throw e) := ⟨fun _ => rfl, .refl⟩

/-- A step that counts nothing needs no count. -/
theorem meters_lift {act : Act α} (h : Keeps .uncounted act) : Meters (lift act) act := by
  refine ⟨fun u => ?_, fun u => ?_⟩
  · unfold lift
    cases act u.1 <;> rfl
  · have hscores : (act.after u.1).table.scores = u.1.table.scores := h u.1
    have hleft : left (lift act u) = (act.after u.1, u.2) := by
      unfold lift after
      cases act u.1 <;> rfl
    rw [hleft]
    refine ⟨?_, ?_⟩
    · rw [← Table.map_fst_scores, ← Table.map_fst_scores, hscores]
    · show (act.after u.1).table.total - _ = _
      rw [← Table.sum_scores, ← Table.sum_scores, hscores]

theorem meters_bind {x : Metered α} {f : α → Metered β} {act : Act α} {rest : α → Act β}
    (hx : Meters x act) (hf : ∀ a, Meters (f a) (rest a)) : Meters (x >>= f) (act >>= rest) := by
  have happly : ∀ u, (x >>= f) u = match x u with
      | .ok a u' => f a u'
      | .error e u' => .error e u' := by
    intro u
    show EStateM.bind x f u = _
    unfold EStateM.bind
    cases x u <;> rfl
  refine ⟨fun u => ?_, fun u => ?_⟩
  · have hbare := hx.bare_eq u
    rw [happly, bind_apply, ← hbare]
    cases x u with
    | ok a u' => exact (hf a).bare_eq u'
    | error e u' => rfl
  · have hbalanced := hx.balanced u
    rw [happly]
    cases hresult : x u with
    | ok a u' =>
        rw [hresult] at hbalanced
        exact hbalanced.trans ((hf a).balanced u')
    | error e u' =>
        rw [hresult] at hbalanced
        exact hbalanced

theorem meters_forM {γ : Type} {f : γ → Metered Unit} {rest : γ → Act Unit} {cs : List γ}
    (h : ∀ c ∈ cs, Meters (f c) (rest c)) : Meters (cs.forM f) (cs.forM rest) := by
  induction cs with
  | nil => exact meters_pure ()
  | cons c cs ih =>
      show Meters (f c >>= fun _ => cs.forM f) (rest c >>= fun _ => cs.forM rest)
      exact meters_bind (h c List.mem_cons_self) fun _ => ih fun c' hc' =>
        h c' (List.mem_cons_of_mem c hc')

theorem meters_ensuring {m : Metered α} {act : Act α} {last : Metered Unit} {cleanup : Act Unit}
    (hm : Meters m act) (hlast : Meters last cleanup) :
    Meters (ensuring m last) (Act.ensuring act cleanup) := by
  refine ⟨fun u => ?_, fun u => ?_⟩
  · unfold ensuring Act.ensuring
    rw [← hm.bare_eq u]
    cases m u with
    | ok a u' | error e u' =>
        dsimp only [bare]
        rw [← hlast.bare_eq u']
        cases last u' <;> rfl
  · have hbalanced := hm.balanced u
    have hleft : left (ensuring m last u) = left (last (left (m u))) := by
      unfold ensuring
      cases m u with
      | ok a u' | error e u' =>
          dsimp only [left]
          cases last u' <;> rfl
    rw [hleft]
    exact hbalanced.trans (hlast.balanced _)

end Metered

/-! ## Receiving -/

namespace Receiver

open Metered

/-- Counts a datagram of the session at an index, and takes count of it if it was accepted. -/
def accountMetered (r : Receiver) (i : Int) (data : Octets) : Metered Bool := do
  let accepted ← lift (r.account i data)
  if accepted then tick
  pure accepted

/-- Reads and counts what has arrived on a session's socket, with at most `fuel` reads. -/
def drainMetered (r : Receiver) (id : SocketId) (position : Nat) (group : String) :
    Nat → Metered Unit
  | 0 => pure ()
  | fuel + 1 => do
    match ← lift (receive id r.limit) with
    | .ok data =>
      let _ ← r.accountMetered position data
      r.drainMetered id position group fuel
    | .error e =>
      if e.wouldBlock then pure () else throw (.transport (.receiving group e.message))

/-- Empties one socket. -/
def drainWatchMetered (r : Receiver) (w : Watch) : Metered Unit := do
  match (← lift get).table.get? w.session with
  | none => throw (.noSession w.session)
  | some session => r.drainMetered w.socket w.session session.group (w.queue.length + 1)

/-- Waits once, then counts all that has arrived. -/
def stepMetered (r : Receiver) : Metered Unit := do
  let ready ← lift r.wait
  ready.forM r.drainWatchMetered
  lift (finishWhenDone r.count s!"Received {r.count} packets on every group, done")

/-- A datagram is accepted by one session, or changes nothing. -/
theorem account_cases (r : Receiver) (i : Int) (data : Octets) (w : World) :
    (∃ e, r.account i data w = .error e w) ∨ r.account i data w = .ok false w ∨
      ∃ k session host, w.table.sessions[k]? = some session ∧ r.account i data w =
        .ok true { w with host, table := w.table.replace k (session.received data) } := by
  cases hsession : w.table.get? i with
  | none =>
      refine Or.inl ⟨.noSession i, ?_⟩
      unfold account
      rw [bind_of_ok (get_apply w), hsession]
      rfl
  | some session =>
      refine Or.inr ?_
      by_cases hopen : session.isOpen r.count
      · obtain ⟨k, hk, hat⟩ := Option.bind_eq_some_iff.1 hsession
        obtain ⟨host, haccount⟩ := account_eq_ok hk hat hopen data
        exact Or.inr ⟨k, session, host, hat, haccount⟩
      · exact Or.inl (account_of_not_isOpen hsession (by simpa using hopen) data)

/-- **A datagram that is accepted is counted once**, by one session; any other changes nothing. -/
theorem meters_account (r : Receiver) (i : Int) (data : Octets) :
    Meters (r.accountMetered i data) (r.account i data) := by
  -- Without a fault, the count goes up if and only if the datagram was accepted.
  have hmetered : ∀ u, r.accountMetered i data u = match r.account i data u.1 with
      | .ok accepted w => .ok accepted (w, if accepted then u.2 + 1 else u.2)
      | .error e w => .error e (w, u.2) := by
    intro u
    show EStateM.bind (lift (r.account i data)) _ u = _
    unfold EStateM.bind lift
    cases r.account i data u.1 with
    | ok accepted w => cases accepted <;> rfl
    | error e w => rfl
  refine ⟨fun u => ?_, fun u => ?_⟩
  · rw [hmetered]
    cases r.account i data u.1 <;> rfl
  · rw [hmetered]
    rcases r.account_cases i data u.1 with ⟨e, h⟩ | h | ⟨k, session, host, hsession, h⟩
    · rw [h]
      exact ⟨rfl, rfl⟩
    · rw [h]
      exact ⟨rfl, rfl⟩
    · obtain ⟨hgroup, hcount⟩ := session.received_counts data
      rw [h]
      refine ⟨Table.groups_replace hsession hgroup, ?_⟩
      show (u.1.table.replace k (session.received data)).total - ((u.2 + 1 : Nat) : Int) = _
      rw [Table.total_replace hsession, hcount]
      omega

theorem meters_drain (r : Receiver) (id : SocketId) (position : Nat) (group : String) (fuel : Nat) :
    Meters (r.drainMetered id position group fuel) (r.drain id position group fuel) := by
  induction fuel with
  | zero => exact meters_pure ()
  | succ fuel ih =>
      unfold drainMetered drain
      refine meters_bind (meters_lift (keeps_receive reading_uncounted id r.limit)) fun read => ?_
      cases read with
      | ok data => exact meters_bind (r.meters_account position data) fun _ => ih
      | error e =>
          dsimp only
          split
          · exact meters_pure ()
          · exact meters_throw _

theorem meters_drainWatch (r : Receiver) (watch : Watch) :
    Meters (r.drainWatchMetered watch) (r.drainWatch watch) := by
  unfold drainWatchMetered drainWatch
  refine meters_bind (meters_lift keeps_get) fun w => ?_
  cases w.table.get? watch.session with
  | none => exact meters_throw _
  | some session => exact r.meters_drain _ _ _ _

/-- **A step of receiving** accepts what its sessions count. -/
theorem meters_step (r : Receiver) : Meters r.stepMetered r.step := by
  have hwait : Keeps .uncounted r.wait := by
    refine r.keeps_wait (fun _ _ _ => ?_) reading_uncounted uncounted_await
    exact uncounted_of_prospect rfl
  unfold stepMetered step serve
  refine meters_bind (meters_lift hwait) fun ready => ?_
  refine meters_bind (meters_forM fun watch _ => r.meters_drainWatch watch) fun _ => ?_
  exact meters_lift (keeps_finishWhenDone reading_uncounted _ _)

end Receiver

end Multicast
