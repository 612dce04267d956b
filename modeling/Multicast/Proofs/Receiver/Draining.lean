import Multicast.Proofs.Act.Ends
import Multicast.Proofs.Receiver.Counting
import Multicast.Proofs.Receiver.Joined

/-!
# `Proofs.Receiver.Draining` — a step reads what has arrived, once and for its session

A step of receiving reads the sockets that are reported to it one after the other, each to its end.
No two of them have a session in common, so that each session counts the datagrams of its own socket
in their order, whatever the order of the sockets. A read that fails ends the step, and what was read
before it is counted.

## Contents
- **Queues.** `Arrival.readable`, `Arrival.unread` and `Arrival.failure?`: what a queue gives until
  reading it ends, and `Watch.Queued` with `receive_eq` for one read.
- **One socket.** `Receiver.drain_eq` and `Receiver.drainWatch_eq`.
- **Any number.** `Receiver.Drained`, what reading some sockets does, with `Drained.append` and
  `Drained.eq_of_perm`; `Receiver.forM_drainWatch` and `Receiver.forM_drainWatch_of_failure`.
- **Steps.** `Receiver.wait_eq_ok`, `Receiver.wait_eq_error` and `Receiver.step_drains`.
-/

namespace Multicast

open Act

/-! ## Queues -/

namespace Arrival

/-- The datagrams that are read from a queue until it is empty or a read is refused. -/
def readable : List Arrival → List Octets
  | .datagram data :: rest => data :: readable rest
  | _ => []

/-- What is left of the queue then. -/
def unread : List Arrival → List Arrival
  | [] => []
  | .datagram _ :: rest => unread rest
  | .refusal _ :: rest => rest

/-- The failure that reading ends with: a refusal that does not just say that there is nothing to
    read. -/
def failure? : List Arrival → Option SystemError
  | [] => none
  | .datagram _ :: rest => failure? rest
  | .refusal e :: _ => if e.wouldBlock then none else some e

/-- A queue of datagrams is read to its end. -/
theorem read_datagrams (ds : List Octets) : readable (ds.map .datagram) = ds ∧
    unread (ds.map .datagram) = [] ∧ failure? (ds.map .datagram) = none := by
  induction ds with
  | nil => exact ⟨rfl, rfl, rfl⟩
  | cons data ds ih =>
      obtain ⟨hread, hunread, hfailure⟩ := ih
      simp [readable, unread, failure?, hread, hunread, hfailure]

/-- A failure leaves what is behind it, and gives all that is in front of it. -/
theorem read_failure {e : SystemError} (he : e.wouldBlock = false) (ds : List Octets)
    (rest : List Arrival) :
    readable (ds.map .datagram ++ .refusal e :: rest) = ds ∧
      unread (ds.map .datagram ++ .refusal e :: rest) = rest ∧
      failure? (ds.map .datagram ++ .refusal e :: rest) = some e := by
  induction ds with
  | nil => simp [readable, unread, failure?, he]
  | cons data ds ih =>
      obtain ⟨hread, hunread, hfailure⟩ := ih
      simp [readable, unread, failure?, hread, hunread, hfailure]

end Arrival

namespace Watch

/-- The sockets with another queue at one of them. -/
def requeue (id : SocketId) (queue : List Arrival) (ws : List Watch) : List Watch :=
  ws.map fun v => if v.socket = id then { v with queue } else v

/-- The socket is watched, and this is its queue. -/
def Queued (id : SocketId) (queue : List Arrival) (ws : List Watch) : Prop :=
  (∃ v ∈ ws, v.socket = id) ∧ ∀ v ∈ ws, v.socket = id → v.queue = queue

variable {id : SocketId} {queue : List Arrival} {ws : List Watch}

theorem requeue_requeue (id : SocketId) (queue queue' : List Arrival) (ws : List Watch) :
    requeue id queue' (requeue id queue ws) = requeue id queue' ws := by
  unfold requeue
  rw [List.map_map]
  refine List.map_congr_left fun v _ => ?_
  by_cases hv : v.socket = id <;> simp [hv]

theorem Queued.requeue (h : Queued id queue ws) (queue' : List Arrival) :
    Queued id queue' (Watch.requeue id queue' ws) := by
  obtain ⟨⟨v, hv, hid⟩, -⟩ := h
  refine ⟨⟨{ v with queue := queue' }, ?_, hid⟩, ?_⟩
  · exact List.mem_map.2 ⟨v, hv, by rw [if_pos hid]⟩
  · intro u hu hsocket
    obtain ⟨u', -, rfl⟩ := List.mem_map.1 hu
    split at hsocket
    case isTrue hsame => rw [if_pos hsame]
    case isFalse hother => exact absurd hsocket hother

end Watch

/-- **A read** takes the first arrival off the queue of its socket. -/
theorem Act.receive_eq {id : SocketId} {queue : List Arrival} {w : World}
    (hqueue : Watch.Queued id queue w.host.watched) {limit : Int}
    (hlimit : 0 ≤ limit ∧ limit < 2 ^ 63) :
    ∃ host, host.watched = Watch.requeue id queue.tail w.host.watched ∧
      receive id limit w = .ok (match queue with
        | [] => .error .nothingToRead
        | .datagram data :: _ => .ok (front limit data)
        | .refusal e :: _ => .error e) { w with host } := by
  obtain ⟨⟨v, hv, hid⟩, hsame⟩ := hqueue
  have hfind : ∃ u, w.host.watched.find? (·.socket = id) = some u ∧ u.queue = queue := by
    cases hfind : w.host.watched.find? (·.socket = id) with
    | none =>
        have hnone := List.find?_eq_none.1 hfind v hv
        simp [hid] at hnone
    | some u =>
        have hu := List.mem_of_find?_eq_some hfind
        have hsocket := List.find?_some hfind
        simp only [decide_eq_true_eq] at hsocket
        exact ⟨u, rfl, hsame u hu hsocket⟩
  obtain ⟨u, hfind, hu⟩ := hfind
  have hdrop : (w.host.watched.map fun v =>
      if v.socket = id then { v with queue := v.queue.tail } else v) =
        Watch.requeue id queue.tail w.host.watched := by
    refine List.map_congr_left fun v hv => ?_
    by_cases hsocket : v.socket = id
    · rw [if_pos hsocket, if_pos hsocket, hsame v hv hsocket]
    · rw [if_neg hsocket, if_neg hsocket]
  refine ⟨{ w.host.record (.receive id limit) with
    watched := Watch.requeue id queue.tail w.host.watched }, rfl, ?_⟩
  have htake : (w.host.record (.receive id limit)).take? id = (queue.head?,
      { w.host.record (.receive id limit) with
        watched := Watch.requeue id queue.tail w.host.watched }) := by
    have hwatched : (w.host.record (.receive id limit)).watched = w.host.watched := rfl
    unfold Host.take?
    rw [hwatched, hfind]
    dsimp only
    rw [hu, hdrop]
  have hasked : submit (.receive id limit) w =
      .ok () { w with host := w.host.record (.receive id limit) } :=
    submit_eq_ok_iff.2 ⟨Host.objection?_eq_none (Call.objection?_receive hlimit id) w.host, rfl⟩
  unfold receive
  rw [bind_of_ok hasked, bind_of_ok (get_apply _)]
  dsimp only
  rw [htake]
  cases queue with
  | nil => rfl
  | cons a rest => cases a <;> rfl

namespace Receiver

variable {r : Receiver} {w : World}

/-! ## One socket -/

/-- How reading a queue ends. -/
def drained (group : String) (queue : List Arrival) (w : World) : EStateM.Result Fault World Unit :=
  match Arrival.failure? queue with
  | none => .ok () w
  | some e => .error (.transport (.receiving group e.message)) w

/-- **A socket is read to its end**: its session counts the datagrams, in their order. -/
theorem drain_eq (hlimit : 0 ≤ r.limit ∧ r.limit < 2 ^ 63) {id : SocketId} {queue : List Arrival}
    {k : Nat} {session : Session} (hqueue : Watch.Queued id queue w.host.watched)
    (hsession : w.table.sessions[k]? = some session) (group : String) {fuel : Nat}
    (hfuel : queue.length < fuel) :
    ∃ host, host.watched = Watch.requeue id (Arrival.unread queue) w.host.watched ∧
      r.drain id k group fuel w = drained group queue { w with
        host, table := w.table.replace k (r.handleAll (Arrival.readable queue) session) } := by
  -- Each read takes one arrival off the queue, and the last one finds nothing or is refused.
  induction queue generalizing fuel w session with
  | nil =>
      obtain ⟨host, hwatched, hreceive⟩ := receive_eq hqueue hlimit
      have hself : w.table.replace k (r.handleAll [] session) = w.table := Table.replace_self hsession
      refine ⟨host, hwatched, ?_⟩
      cases fuel with
      | zero => exact absurd hfuel (Nat.lt_irrefl 0)
      | succ fuel =>
          rw [drain, bind_of_ok hreceive]
          dsimp only [Arrival.readable]
          rw [hself]
          rfl
  | cons a rest ih =>
      obtain ⟨host, hwatched, hreceive⟩ := receive_eq hqueue hlimit
      cases fuel with
      | zero => exact absurd hfuel (Nat.not_lt_zero _)
      | succ fuel =>
          rw [drain, bind_of_ok hreceive]
          cases a with
          | refusal e =>
              have hself : w.table.replace k (r.handleAll [] session) = w.table :=
                Table.replace_self hsession
              refine ⟨host, hwatched, ?_⟩
              dsimp only [Arrival.readable]
              rw [hself]
              by_cases hwould : e.wouldBlock <;> simp [drained, Arrival.failure?, hwould]
          | datagram data =>
              have hk : w.table.position? (k : Int) = some k := Table.position?_of_getElem? hsession
              obtain ⟨host₁, hwatched₁, hone⟩ := account_eq (r := r) (w := { w with host }) hk hsession
                (front r.limit data)
              have hqueue₁ : Watch.Queued id rest host₁.watched := by
                rw [hwatched₁, hwatched]
                exact hqueue.requeue rest
              let counted := session.handled r.count (front r.limit data)
              have hhere : (w.table.replace k counted).sessions[k]? = some counted :=
                Table.getElem?_replace hsession counted
              obtain ⟨host', hwatched', hrest⟩ := ih hqueue₁ hhere (Nat.lt_of_succ_lt_succ hfuel)
                (w := { w with host := host₁, table := w.table.replace k counted })
              refine ⟨host', ?_, ?_⟩
              · rw [hwatched', hwatched₁, hwatched, Watch.requeue_requeue]
                rfl
              · refine (bind_of_ok hone).trans (hrest.trans ?_)
                rw [Table.replace_replace]
                rfl

/-! ## Any number -/

/-- **Some sockets were read to their end**, and their sessions have counted what was read from
    them. -/
structure Drained (r : Receiver) (reported : List Watch) (w w' : World) : Prop where
  /-- Each of the sockets is left with what reading it leaves, and no other was read. -/
  queues : w'.host.watched = w.host.watched.map fun v =>
    if v ∈ reported then { v with queue := Arrival.unread v.queue } else v
  /-- Its session has counted what was read, one datagram after the other. -/
  counted : ∀ v ∈ reported, w'.table.sessions[v.session]? =
    ((r.accountEach v.session (Arrival.readable v.queue)).after w).table.sessions[v.session]?
  /-- No other session has changed. -/
  others : ∀ k, (∀ v ∈ reported, v.session ≠ k) → w'.table.sessions[k]? = w.table.sessions[k]?
  table : w'.table = { w.table with sessions := w'.table.sessions }
  /-- A limit that no session has passed, none passes now. -/
  bounded : 0 < r.count → (∀ s ∈ w.table.sessions, s.count ≤ r.count) →
    ∀ s ∈ w'.table.sessions, s.count ≤ r.count

/-- What a session counts is a matter of what it was before. -/
theorem sessions_accountEach {k : Nat} {session : Session}
    (hsession : w.table.sessions[k]? = some session) (ds : List Octets) :
    ((r.accountEach k ds).after w).table.sessions[k]? = some (r.handleAll ds session) := by
  obtain ⟨host, heach⟩ := accountEach_eq (r := r) (Table.position?_of_getElem? hsession) hsession ds
  rw [after_of_ok heach]
  exact Table.getElem?_replace hsession _

/-- **Reading one socket** of those that are watched. -/
theorem drainWatch_eq (hlimit : 0 ≤ r.limit ∧ r.limit < 2 ^ 63) (hjoined : w.Joined) {v : Watch}
    (hv : v ∈ w.host.watched) :
    ∃ session w', w.table.sessions[v.session]? = some session ∧
      r.drainWatch v w = drained session.group v.queue w' ∧ r.Drained [v] w w' ∧
      w'.flags = w.flags := by
  have hlt := hjoined.session_lt hv
  have hsession : w.table.sessions[v.session]? = some w.table.sessions[v.session] :=
    List.getElem?_eq_getElem hlt
  have hqueue : Watch.Queued v.socket v.queue w.host.watched := by
    refine ⟨⟨v, hv, rfl⟩, fun u hu hsocket => ?_⟩
    rw [hjoined.eq_of_socket hu hv hsocket]
  obtain ⟨host, hwatched, hdrain⟩ := drain_eq hlimit hqueue hsession
    (w.table.sessions[v.session]).group (Nat.lt_succ_self _)
  let counted := r.handleAll (Arrival.readable v.queue) w.table.sessions[v.session]
  refine ⟨w.table.sessions[v.session], { w with host, table := w.table.replace v.session counted },
    hsession, ?_, ?_, rfl⟩
  · unfold drainWatch
    rw [bind_of_ok (get_apply w), Table.get?_natCast, hsession]
    exact hdrain
  · constructor
    · show host.watched = _
      rw [hwatched]
      refine List.map_congr_left fun u hu => ?_
      by_cases heq : u = v
      · simp [heq]
      · have hsocket : ¬u.socket = v.socket := fun hsame => heq (hjoined.eq_of_socket hu hv hsame)
        simp [heq, hsocket]
    · intro u hu
      obtain rfl : u = v := List.mem_singleton.1 hu
      rw [sessions_accountEach hsession]
      exact Table.getElem?_replace hsession counted
    · intro k hk
      exact List.getElem?_set_ne (hk v List.mem_cons_self)
    · rfl
    · intro hlimit hbounded s hs
      rcases List.mem_or_eq_of_mem_set hs with hold | rfl
      · exact hbounded s hold
      · exact (r.handleAll_bounds _ _).2 (by omega) (hbounded _ (List.getElem_mem hlt))

namespace Drained

variable {w₁ w₂ w' w'' : World} {reported reported' : List Watch}

theorem nil (r : Receiver) (w : World) : r.Drained [] w w := by
  constructor
  · simp
  · simp
  · exact fun _ _ => rfl
  · rfl
  · exact fun _ h => h

/-- It is a matter of the sessions and of what is left to read. -/
theorem of_eq (h : r.Drained reported w w₁) (htable : w'.table = w₁.table)
    (hwatched : w'.host.watched = w₁.host.watched) : r.Drained reported w w' := by
  constructor
  · rw [hwatched, h.queues]
  · rw [htable]
    exact h.counted
  · rw [htable]
    exact h.others
  · rw [htable]
    exact h.table
  · rw [htable]
    exact h.bounded

/-- Sockets that are not read keep their queues. -/
theorem mem_watched (h : r.Drained reported w w') {v : Watch} (hv : v ∈ w.host.watched)
    (hother : v ∉ reported) : v ∈ w'.host.watched := by
  rw [h.queues]
  exact List.mem_map.2 ⟨v, hv, if_neg hother⟩

/-- **Reading some sockets and then others** is reading them all, as no two have a session in
    common. -/
theorem append (hjoined : w.Joined) (hsub : reported ++ reported' ⊆ w.host.watched)
    (hdisjoint : reported.Disjoint reported') (h : r.Drained reported w w₁)
    (h' : r.Drained reported' w₁ w₂) : r.Drained (reported ++ reported') w w₂ := by
  have hapart : ∀ u ∈ reported, ∀ v ∈ reported', v.session ≠ u.session := by
    intro u hu v hv hsame
    have heq := hjoined.eq_of_session (hsub (List.mem_append_right _ hv))
      (hsub (List.mem_append_left _ hu)) hsame
    exact hdisjoint hu (heq ▸ hv)
  have hsession : ∀ v ∈ reported ++ reported',
      ∃ session, w.table.sessions[v.session]? = some session := by
    intro v hv
    exact ⟨_, List.getElem?_eq_getElem (hjoined.session_lt (hsub hv))⟩
  constructor
  · rw [h'.queues, h.queues, List.map_map]
    refine List.map_congr_left fun v hv => ?_
    by_cases hfirst : v ∈ reported
    · -- A socket of the first ones is none of the others, however much of its queue is left.
      have hother : ¬{ v with queue := Arrival.unread v.queue } ∈ reported' := by
        intro hmem
        have heq := hjoined.eq_of_socket (hsub (List.mem_append_right _ hmem)) hv rfl
        exact hdisjoint hfirst (heq ▸ hmem)
      simp [hfirst, hother]
    · simp [hfirst]
  · intro v hv
    obtain ⟨session, hat⟩ := hsession v hv
    rw [sessions_accountEach hat]
    rcases List.mem_append.1 hv with hfirst | hsecond
    · rw [h'.others _ fun u hu => hapart v hfirst u hu, h.counted v hfirst, sessions_accountEach hat]
    · have hbetween : w₁.table.sessions[v.session]? = some session := by
        rw [h.others _ fun u hu => (hapart u hu v hsecond).symm, hat]
      rw [h'.counted v hsecond, sessions_accountEach hbetween]
  · intro k hk
    rw [h'.others k fun v hv => hk v (List.mem_append_right _ hv),
      h.others k fun v hv => hk v (List.mem_append_left _ hv)]
  · rw [h'.table, h.table]
  · exact fun hlimit hbounded => h'.bounded hlimit (h.bounded hlimit hbounded)

/-- **The order of the sockets does not matter.** -/
theorem eq_of_perm (h : r.Drained reported w w') (h' : r.Drained reported' w w'')
    (hperm : reported'.Perm reported) :
    w''.table = w'.table ∧ w''.host.watched = w'.host.watched := by
  have hsessions : w''.table.sessions = w'.table.sessions := by
    refine List.ext_getElem? fun k => ?_
    by_cases hk : ∃ v ∈ reported, v.session = k
    · obtain ⟨v, hv, rfl⟩ := hk
      rw [h.counted v hv, h'.counted v (hperm.mem_iff.2 hv)]
    · have hother : ∀ v ∈ reported, v.session ≠ k := fun v hv hsame => hk ⟨v, hv, hsame⟩
      rw [h.others k hother, h'.others k fun v hv => hother v (hperm.mem_iff.1 hv)]
  constructor
  · rw [h'.table, h.table, hsessions]
  · rw [h'.queues, h.queues]
    simp only [hperm.mem_iff]

end Drained

/-- Reading a socket leaves the sockets joined. -/
theorem joined_drainWatch (hjoined : w.Joined) (v : Watch) : ((r.drainWatch v).after w).Joined :=
  hjoined.upheld (keeps_drainWatch stepping_upheld.toWaiting r v w)

/-- **Reading sockets without a failure** reads them all. -/
theorem forM_drainWatch (hlimit : 0 ≤ r.limit ∧ r.limit < 2 ^ 63) {reported : List Watch}
    (hjoined : w.Joined) (hsub : reported ⊆ w.host.watched) (hnodup : reported.Nodup)
    (hreads : ∀ v ∈ reported, Arrival.failure? v.queue = none) :
    ∃ w', reported.forM r.drainWatch w = .ok () w' ∧ r.Drained reported w w' ∧ w'.flags = w.flags ∧
      w'.Joined := by
  induction reported generalizing w with
  | nil => exact ⟨w, rfl, .nil r w, rfl, hjoined⟩
  | cons v reported ih =>
      obtain ⟨hnotmem, hnodup⟩ := List.nodup_cons.1 hnodup
      obtain ⟨hread, hreads⟩ := List.forall_mem_cons.1 hreads
      obtain ⟨session, w₁, -, hone, hdrained₁, hflags₁⟩ :=
        drainWatch_eq hlimit hjoined (hsub List.mem_cons_self)
      rw [drained, hread] at hone
      have hjoined₁ := joined_drainWatch (r := r) hjoined v
      rw [after_of_ok hone] at hjoined₁
      have hsub₁ : reported ⊆ w₁.host.watched := by
        intro u hu
        refine hdrained₁.mem_watched (hsub (List.mem_cons_of_mem v hu)) fun hmem => ?_
        exact hnotmem (List.mem_singleton.1 hmem ▸ hu)
      obtain ⟨w', hrest, hdrained', hflags', hjoined'⟩ := ih hjoined₁ hsub₁ hnodup hreads
      refine ⟨w', ?_, ?_, hflags'.trans hflags₁, hjoined'⟩
      · exact (bind_of_ok hone).trans hrest
      · have hdisjoint : [v].Disjoint reported := by
          simpa using hnotmem
        exact hdrained₁.append hjoined hsub hdisjoint hdrained'

/-- **A read that fails** ends the step; the sockets in front of it were read, and the datagrams that
    came before the failure. -/
theorem forM_drainWatch_of_failure (hlimit : 0 ≤ r.limit ∧ r.limit < 2 ^ 63)
    {before after : List Watch} {v : Watch} {e : SystemError} (hjoined : w.Joined)
    (hsub : before ++ v :: after ⊆ w.host.watched) (hnodup : (before ++ v :: after).Nodup)
    (hreads : ∀ u ∈ before, Arrival.failure? u.queue = none) (hfails : Arrival.failure? v.queue = some e) :
    ∃ session w', w.table.sessions[v.session]? = some session ∧
      (before ++ v :: after).forM r.drainWatch w =
        .error (.transport (.receiving session.group e.message)) w' ∧
      r.Drained (before ++ [v]) w w' ∧ w'.flags = w.flags := by
  obtain ⟨hbefore, hrest, hapart⟩ := List.nodup_append.1 hnodup
  have hv : v ∈ w.host.watched := hsub (List.mem_append_right _ List.mem_cons_self)
  have hnew : v ∉ before := fun hmem => hapart v hmem v List.mem_cons_self rfl
  have hsubBefore : before ⊆ w.host.watched := fun u hu => hsub (List.mem_append_left _ hu)
  obtain ⟨w₁, hread, hdrained₁, hflags₁, hjoined₁⟩ :=
    forM_drainWatch hlimit hjoined hsubBefore hbefore hreads
  obtain ⟨session, w', hsession, hone, hdrained', hflags'⟩ :=
    drainWatch_eq hlimit hjoined₁ (hdrained₁.mem_watched hv hnew)
  rw [drained, hfails] at hone
  -- The session of the socket is none of those that have counted something by then.
  have hsame : w₁.table.sessions[v.session]? = w.table.sessions[v.session]? := by
    refine hdrained₁.others _ fun u hu heq => hnew ?_
    rw [← hjoined.eq_of_session (hsubBefore hu) hv heq]
    exact hu
  refine ⟨session, w', hsame.symm.trans hsession, ?_, ?_, hflags'.trans hflags₁⟩
  · have happend : (before ++ v :: after).forM r.drainWatch =
        (before.forM r.drainWatch >>= fun _ => (v :: after).forM r.drainWatch) := List.forM_append
    rw [happend, bind_of_ok hread]
    exact bind_eq_error.2 (Or.inl hone)
  · refine hdrained₁.append hjoined ?_ ?_ hdrained'
    · exact fun u hu => hsub (by simp at hu ⊢; tauto)
    · simpa [List.disjoint_comm] using hnew

/-! ## Steps -/

/-- A step waits, and then reads the sockets that are reported to it: those in which something waits
    once the events of the wait have happened. -/
theorem wait_eq_ok {ready : List Watch} {w' : World} (h : r.wait w = .ok ready w') :
    (∃ q, r.period = .span q ∧
      await { w with host := granted .select (.select q) w.host } = .ok () w') ∧
      ready = w'.host.ready ∧ r.step w = r.serve ready w' := by
  obtain ⟨q, w₁, hmeasured, hselect⟩ := bind_eq_ok.1 (recover_throw_eq_ok.1 h)
  obtain ⟨_, w₂, hgranted, hawait⟩ := bind_eq_ok.1 hselect
  obtain ⟨_, w₃, hhappened, hready⟩ := bind_eq_ok.1 hawait
  obtain ⟨rfl, rfl⟩ := EStateM.Result.ok.inj hready
  obtain ⟨-, rfl⟩ := attempt_eq_ok_iff.1 hgranted
  cases hperiod : r.period with
  | excessive =>
      rw [hperiod] at hmeasured
      cases hmeasured
  | span span =>
      rw [hperiod] at hmeasured
      cases hmeasured
      exact ⟨⟨q, rfl, hhappened⟩, rfl, bind_of_ok h⟩

/-- **A wait that fails** does so as the transport, if the system is to blame for what it is refused
    and for what happens meanwhile. -/
theorem wait_eq_error (hperiod : r.period.Suits .select) (hselect : w.host.RefusesBySystem .select)
    (hevents : w.host.Expects fun event => ∀ f, event = .fault f → f.isSystem = true) {e : Fault}
    {w' : World} (h : r.wait w = .error e w') : ∃ cause, e = .transport (.waiting cause) := by
  obtain ⟨q, hspan, hfits⟩ := hperiod
  have hcause : ∀ cause w', (do
      attempt .select (.select (← measured r.period))
      await
      pure (← get).host.ready) w = .error cause w' → cause.isSystem = true := by
    intro cause w' hfailed
    rw [hspan] at hfailed
    rcases bind_eq_error.1 hfailed with hmeasured | ⟨_, _, hmeasured, hfailed⟩
    · cases hmeasured
    cases hmeasured
    rcases bind_eq_error.1 hfailed with hrefused | ⟨_, w₁, hgranted, hfailed⟩
    · exact isSystem_of_attempt hselect (Call.objectsBySystem_of_none hfits) hrefused
    obtain ⟨-, rfl⟩ := attempt_eq_ok_iff.1 hgranted
    rcases bind_eq_error.1 hfailed with hhappened | ⟨_, _, -, hready⟩
    · exact expected_of_await (w := { w with host := granted .select (.select q) w.host }) hevents
        hhappened cause rfl
    · cases hready
  unfold wait recover at h
  split at h
  · cases h
  · rename_i cause w₁ hfailed
    rw [if_pos (hcause cause w₁ hfailed)] at h
    cases h
    exact ⟨_, rfl⟩

/-- A table is complete once all its sessions have reached the limit, if there is one. -/
theorem isComplete_iff {limit : Int} (hlimit : 0 ≤ limit) (t : Table) :
    t.isComplete limit ↔ 0 < limit ∧ ∀ s ∈ t.sessions, limit ≤ s.count := by
  simp only [Table.isComplete, Bool.and_eq_true, List.all_eq_true, decide_eq_true_eq]
  have hne : limit ≠ 0 ↔ 0 < limit := by omega
  rw [hne]

/-- **Serving sockets without a failure** reads them all, and ends the loop once the table is
    complete. -/
theorem serve_eq_ok (hlimit : 0 ≤ r.limit ∧ r.limit < 2 ^ 63) {reported : List Watch}
    (hjoined : w.Joined)
    (hreported : reported.Subperm w.host.watched)
    (hreads : ∀ v ∈ reported, Arrival.failure? v.queue = none) :
    ∃ w', r.serve reported w = .ok () w' ∧ r.Drained reported w w' ∧
      w'.flags = if w'.table.isComplete r.count then { w.flags with running := false }
        else w.flags := by
  obtain ⟨w₁, hread, hdrained, hflags, -⟩ := forM_drainWatch hlimit hjoined hreported.subset
    (hjoined.nodup_of_subperm hreported) hreads
  unfold serve
  rw [bind_of_ok hread, finishWhenDone_apply, ← hflags]
  by_cases hcomplete : w₁.table.isComplete r.count
  · rw [if_pos hcomplete]
    exact ⟨_, rfl, hdrained.of_eq rfl (watched_log _ _ _), (if_pos hcomplete).symm⟩
  · rw [if_neg hcomplete]
    exact ⟨w₁, rfl, hdrained, (if_neg hcomplete).symm⟩

/-- **A step of receiving reads what has arrived, once and for its session.** From a start on, whatever
    the sessions have counted and whatever waits in the sockets: a step waits, and once the events of
    the wait have happened it reads the sockets that are reported to it, which are those of the watched
    ones in which something waits. A wait that the system refuses or breaks off is a failure of the
    transport. Some of the watched sockets are read in any order. Without a failure a step leaves them
    empty of datagrams, and each session with what it makes of the datagrams of its own socket, whatever
    the order of the sockets; it ends the loop if there is a limit that all sessions have reached, and
    does nothing else to the flags. A read that fails is the fault of the step, which has read and
    counted what came before it, and no more. No session passes a limit; one that has reached it ignores
    a datagram. -/
theorem step_drains {r : Receiver} {w₀ w₁ : World} (hlimit : 0 ≤ r.limit ∧ r.limit < 2 ^ 63)
    (hfresh : w₀.host.watched = []) (hstart : r.start w₀ = .ok () w₁) {w : World}
    (hplaces : w.host.places = w₁.host.places) (hsize : w.table.size = w₁.table.size) :
    (∀ ready w', r.wait w = .ok ready w' →
      (∃ q, r.period = .span q ∧
        await { w with host := granted .select (.select q) w.host } = .ok () w') ∧
      w'.host.places = w₁.host.places ∧ w'.table.size = w₁.table.size ∧
        ready.Subperm w'.host.watched ∧ (∀ v ∈ w'.host.watched, v.queue ≠ [] → v ∈ ready) ∧
        r.step w = r.serve ready w') ∧
    (r.period.Suits .select → w.host.RefusesBySystem .select →
      (w.host.Expects fun event => ∀ f, event = .fault f → f.isSystem = true) →
      ∀ e w', r.wait w = .error e w' →
        (∃ cause, e = .transport (.waiting cause)) ∧ r.step w = .error e w') ∧
    (∀ reported : List Watch, reported.Subperm w.host.watched →
      (∀ v ∈ reported, Arrival.failure? v.queue = none) →
      ∃ w', r.serve reported w = .ok () w' ∧ r.Drained reported w w' ∧
        (∀ v ∈ reported, ∀ ds : List Octets, v.queue = ds.map .datagram →
          { v with queue := [] } ∈ w'.host.watched ∧ w'.table.sessions[v.session]? =
            ((r.accountEach v.session ds).after w).table.sessions[v.session]?) ∧
        (0 ≤ r.count → w'.flags =
          if 0 < r.count ∧ ∀ s ∈ w'.table.sessions, r.count ≤ s.count then
            { w.flags with running := false } else w.flags) ∧
        ∀ reported' : List Watch, reported'.Perm reported → ∃ w'', r.serve reported' w = .ok () w'' ∧
          w''.table = w'.table ∧ w''.host.watched = w'.host.watched ∧ w''.flags = w'.flags) ∧
    (∀ before v after (ds : List Octets) e rest, (before ++ v :: after).Subperm w.host.watched →
      (∀ u ∈ before, Arrival.failure? u.queue = none) →
      v.queue = ds.map .datagram ++ .refusal e :: rest → e.wouldBlock = false →
      ∃ session w', w.table.sessions[v.session]? = some session ∧
        r.serve (before ++ v :: after) w =
          .error (.transport (.receiving session.group e.message)) w' ∧
        r.Drained (before ++ [v]) w w' ∧ w'.table.sessions[v.session]? =
          ((r.accountEach v.session ds).after w).table.sessions[v.session]? ∧
        w'.flags = w.flags) ∧
    ∀ (k : Nat) session, w.table.sessions[k]? = some session → 0 < r.count →
      r.count ≤ session.count → ∀ data, r.account k data w = .ok false w := by
  have hjoined : w.Joined := (joined_start hfresh hstart).of_places hplaces hsize
  refine ⟨fun ready w' hwait => ?_, fun hperiod hselect hevents e w' hwait => ?_,
    fun reported hreported hreads => ?_, ?_, ?_⟩
  · obtain ⟨hhappened, rfl, hstep⟩ := wait_eq_ok hwait
    have hupheld := keeps_wait r (fun _ _ => upheld_call _) stepping_upheld.toReading
      stepping_upheld.toWaiting.await w
    rw [after_of_ok hwait] at hupheld
    refine ⟨hhappened, hupheld.places.trans hplaces, ?_, List.filter_sublist.subperm, ?_, hstep⟩
    · rw [← w'.length_targets, ← hsize, ← w.length_targets, hupheld.targets]
    · intro v hv hqueue
      exact List.mem_filter.2 ⟨hv, by simpa using hqueue⟩
  · exact ⟨wait_eq_error hperiod hselect hevents hwait, bind_eq_error.2 (Or.inl hwait)⟩
  · obtain ⟨w', hserve, hdrained, hflags⟩ := serve_eq_ok hlimit hjoined hreported hreads
    refine ⟨w', hserve, hdrained, ?_, fun hcount => ?_, fun reported' hperm => ?_⟩
    · intro v hv ds hqueue
      obtain ⟨hread, hunread, -⟩ := Arrival.read_datagrams ds
      constructor
      · rw [hdrained.queues]
        refine List.mem_map.2 ⟨v, hreported.subset hv, ?_⟩
        rw [if_pos hv, hqueue, hunread]
      · rw [hdrained.counted v hv, hqueue, hread]
    · rw [hflags]
      simp only [isComplete_iff hcount]
    · have hreads' : ∀ v ∈ reported', Arrival.failure? v.queue = none :=
        fun v hv => hreads v (hperm.mem_iff.1 hv)
      obtain ⟨w'', hserve', hdrained', hflags'⟩ :=
        serve_eq_ok hlimit hjoined (hperm.subperm.trans hreported) hreads'
      obtain ⟨htable, hqueues⟩ := hdrained.eq_of_perm hdrained' hperm
      refine ⟨w'', hserve', htable, hqueues, ?_⟩
      rw [hflags', hflags, htable]
  · intro before v after ds e rest hreported hreads hqueue hwould
    obtain ⟨hread, -, hfails⟩ := Arrival.read_failure hwould ds rest
    rw [← hqueue] at hread hfails
    obtain ⟨session, w', hsession, hbreaks, hdrained, hflags⟩ := forM_drainWatch_of_failure hlimit
      hjoined hreported.subset (hjoined.nodup_of_subperm hreported) hreads hfails
    refine ⟨session, w', hsession, bind_eq_error.2 (Or.inl hbreaks), hdrained, ?_, hflags⟩
    rw [hdrained.counted v (by simp), hread]
  · intro k session hsession hlimit hreached data
    have hclosed : session.isOpen r.count = false := by
      simp only [Session.isOpen, Bool.or_eq_false_iff, decide_eq_false_iff_not]
      omega
    refine account_of_not_isOpen ?_ hclosed data
    rw [Table.get?_natCast]
    exact hsession

/-- Two groups that wait for their sockets. -/
def twoGroups : World where
  flags := { period := .ofNat 1 }
  table.sessions := [
    { source := none, group := "225.1.2.3", target := some ⟨.v4 0xe1010203, 1234⟩ },
    { source := none, group := "225.1.2.4", target := some ⟨.v4 0xe1010204, 1234⟩ }]

/-- The socket of the first group, where the fourth read fails. -/
def failing : Watch where
  socket := 1
  session := 0
  queue := [.datagram (Packet.encode 0 0 12), .datagram (Packet.encode 2 0 12),
    .datagram (Packet.encode 3 0 12), .refusal ⟨some 5, "Input/output error"⟩,
    .datagram (Packet.encode 4 0 12)]

/-- The socket of the second group, with one datagram. -/
def calm : Watch where
  socket := 2
  session := 1
  queue := [.datagram (Packet.encode 7 1 12)]

/-- Of three datagrams before a failure, two are counted and the third is one too many; the other group
    has counted its own by then, and would have done so without the failure. -/
theorem third_datagram_is_ignored :
    let r : Receiver := { count := 2, period := .ofNat 1 }
    ∃ w₁, r.start twoGroups = .ok () w₁ ∧
      let w : World := { w₁ with host := { w₁.host with watched := [failing, calm] } }
      (∃ w', r.serve [calm] w = .ok () w' ∧
        w'.table.sessions[failing.session]?.map (·.count) = some 0 ∧
        w'.table.sessions[calm.session]?.map (·.count) = some 1) ∧
      ∃ w', r.serve [calm, failing] w =
          .error (.transport (.receiving "225.1.2.3" "[Errno 5] Input/output error")) w' ∧
        w'.table.sessions[failing.session]?.map (·.count) = some 2 ∧
        w'.table.sessions[calm.session]?.map (·.count) = some 1 ∧
        w'.host.watched.map (·.queue) = [[.datagram (Packet.encode 4 0 12)], []] ∧
        w'.flags = w.flags := by
  intro r
  have hstart : r.start twoGroups = .ok () (r.start.after twoGroups) :=
    eq_ok_of_outcome (by decide +kernel)
  refine ⟨_, hstart, ?_⟩
  intro w
  have hplaces : w.host.places = (r.start.after twoGroups).host.places := by decide +kernel
  have hsize : w.table.size = (r.start.after twoGroups).table.size := by decide +kernel
  obtain ⟨-, -, hserve, hfail, -⟩ :=
    step_drains (w := w) (by decide) rfl hstart hplaces hsize
  constructor
  · obtain ⟨w', hok, hdrained, -⟩ := hserve [calm] (by decide +kernel) (by decide +kernel)
    refine ⟨w', hok, ?_, ?_⟩
    · rw [hdrained.others failing.session (by decide)]
      decide +kernel
    · rw [hdrained.counted calm (by decide)]
      decide +kernel
  · obtain ⟨session, w', hsession, herror, hdrained, -, hflags⟩ :=
      hfail [calm] failing [] [Packet.encode 0 0 12, Packet.encode 2 0 12, Packet.encode 3 0 12]
        ⟨some 5, "Input/output error"⟩ [.datagram (Packet.encode 4 0 12)] (by decide +kernel)
        (by decide +kernel) rfl rfl
    have hgroup : w.table.sessions[failing.session]?.map (·.group) = some "225.1.2.3" := by
      decide +kernel
    rw [hsession, Option.map_some, Option.some.injEq] at hgroup
    rw [hgroup] at herror
    refine ⟨w', herror, ?_, ?_, ?_, hflags⟩
    · rw [hdrained.counted failing (by decide)]
      decide +kernel
    · rw [hdrained.counted calm (by decide)]
      decide +kernel
    · rw [hdrained.queues]
      decide +kernel

end Receiver

end Multicast
