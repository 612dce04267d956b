import Mathlib.Data.List.Basic
import Multicast.Proofs.Act.Outcome
import Multicast.Receiver

/-!
# `Proofs.Receiver.Counting` — what a receiver counts

Counting a datagram changes nothing but its session, so that what a session has counted is a fold
over its datagrams. Over packets with ascending numbers, the gaps add up to the numbers that were
passed over.

## Contents
- **One datagram.** `Session.received` and `Session.handled`, with `Receiver.account_eq`.
- **Any number.** `Receiver.mapM_account_eq_ok`, the fold over datagrams, and
  `Receiver.accountEach_eq` over datagrams as they are read.
- **One number.** `Session.noted`, with one lemma for each place that a number can have.
- **Ascending numbers.** `Session.foldl_received_ascending`, and `Session.foldl_received_fresh` from
  the first packet on.
-/

namespace Multicast

/-! ## One datagram -/

/-- A session after a datagram was counted. -/
def Session.received (data : Octets) (session : Session) : Session :=
  (session.accept data.length ((Packet.decode? data).map fun (seq, _) => (seq : Int))).1

/-- A session that counts a datagram keeps its group, and goes up by one. -/
theorem Session.received_counts (data : Octets) (s : Session) :
    (s.received data).group = s.group ∧ (s.received data).count = s.count + 1 := by
  have hnote : ∀ (seq : Int) (s : Session),
      (s.noteSeq seq).1.group = s.group ∧ (s.noteSeq seq).1.count = s.count := by
    intro seq s
    unfold noteSeq
    split
    · exact ⟨rfl, rfl⟩
    · split
      · exact ⟨rfl, rfl⟩
      · split <;> exact ⟨rfl, rfl⟩
  unfold received accept
  split
  · exact ⟨rfl, rfl⟩
  · exact hnote _ _

/-- Each datagram counts once. -/
theorem Session.count_foldl_received (ds : List Octets) (s : Session) :
    (ds.foldl (fun s data => s.received data) s).count = s.count + ds.length := by
  induction ds generalizing s with
  | nil => simp
  | cons data ds ih =>
      rw [List.foldl_cons, ih, (s.received_counts data).2, List.length_cons]
      push_cast
      omega

/-- A session after datagrams were counted, each as it is read. -/
def Session.receivedAll (limit : Int) (ds : List Octets) (session : Session) : Session :=
  ds.foldl (fun session data => session.received (front limit data)) session

/-- Datagrams that are not longer than what is read are counted as they are. -/
theorem Session.receivedAll_of_short {limit : Int} {ds : List Octets}
    (hshort : ∀ data ∈ ds, (data.length : Int) ≤ limit) (session : Session) :
    session.receivedAll limit ds = ds.foldl (fun session data => session.received data) session := by
  refine List.foldl_ext _ _ _ fun session data hdata => ?_
  have hle := hshort data hdata
  rw [front, if_neg (by omega), List.take_of_length_le (by omega)]

/-- A session after a datagram was handed to it: one that has reached the limit ignores it. -/
def Session.handled (limit : Int) (data : Octets) (session : Session) : Session :=
  if session.isOpen limit then session.received data else session

theorem Session.handled_of_not_isOpen {limit : Int} {session : Session}
    (h : session.isOpen limit = false) (data : Octets) : session.handled limit data = session := by
  simp [handled, h]

/-- A session keeps its group, and does not pass the limit. -/
theorem Session.handled_bounds (limit : Int) (data : Octets) (session : Session) :
    (session.handled limit data).group = session.group ∧
      (limit ≠ 0 → session.count ≤ limit → (session.handled limit data).count ≤ limit) := by
  unfold handled
  split
  case isTrue hopen =>
    simp only [isOpen, Bool.or_eq_true, decide_eq_true_eq] at hopen
    obtain ⟨hgroup, hcount⟩ := session.received_counts data
    refine ⟨hgroup, fun hlimit hle => ?_⟩
    omega
  case isFalse => exact ⟨rfl, fun _ hle => hle⟩

/-- The table with another session at a position. -/
def Table.replace (t : Table) (k : Nat) (session : Session) : Table :=
  { t with sessions := t.sessions.set k session }

@[simp] theorem Table.position?_replace (t : Table) (k : Nat) (session : Session) (i : Int) :
    (t.replace k session).position? i = t.position? i := by
  have hsize : (t.replace k session).size = t.size := List.length_set
  rw [Table.position?, Table.position?, hsize]

theorem Table.getElem?_replace {t : Table} {k : Nat} {session : Session}
    (hsession : t.sessions[k]? = some session) (session' : Session) :
    (t.replace k session').sessions[k]? = some session' := by
  obtain ⟨hlt, -⟩ := List.getElem?_eq_some_iff.1 hsession
  exact List.getElem?_set_self hlt

theorem Table.get?_replace {t : Table} {i : Int} {k : Nat} {session : Session}
    (hk : t.position? i = some k) (hsession : t.sessions[k]? = some session) (session' : Session) :
    (t.replace k session').get? i = some session' := by
  rw [Table.get?, Table.position?_replace, hk]
  exact Table.getElem?_replace hsession session'

theorem Table.replace_self {t : Table} {k : Nat} {session : Session}
    (hsession : t.sessions[k]? = some session) : t.replace k session = t := by
  obtain ⟨hlt, rfl⟩ := List.getElem?_eq_some_iff.1 hsession
  rw [Table.replace, List.set_getElem_self]

@[simp] theorem Table.replace_replace (t : Table) (k : Nat) (session session' : Session) :
    (t.replace k session).replace k session' = t.replace k session' := by
  simp [Table.replace]

namespace Receiver

open Act

/-- Logging reads no socket. -/
theorem watched_log (h : Host) (level : Level) (message : String) :
    (h.log level message).watched = h.watched :=
  Host.log_leaves (·.watched) (fun _ _ => rfl) (fun _ _ sink => by cases sink <;> rfl) h level message

/-- **A session that has reached the limit** ignores a datagram, and nothing at all changes. -/
theorem account_of_not_isOpen {r : Receiver} {i : Int} {session : Session} {w : World}
    (hsession : w.table.get? i = some session) (hclosed : session.isOpen r.count = false)
    (data : Octets) : r.account i data w = .ok false w := by
  unfold account
  rw [bind_of_ok (get_apply w), hsession]
  dsimp only
  rw [hclosed]
  rfl

/-- **A datagram is handed to its session**, which changes this session alone. -/
theorem account_eq {r : Receiver} {i : Int} {k : Nat} {session : Session} {w : World}
    (hk : w.table.position? i = some k) (hsession : w.table.sessions[k]? = some session)
    (data : Octets) :
    ∃ host, host.watched = w.host.watched ∧ r.account i data w = .ok (session.isOpen r.count)
      { w with host, table := w.table.replace k (session.handled r.count data) } := by
  have hget : w.table.get? i = some session := by
    rw [Table.get?, hk]
    exact hsession
  by_cases hopen : session.isOpen r.count
  · have hmodify : modifySession i (fun _ => session.received data) w =
        .ok () { w with table := w.table.replace k (session.received data) } := by
      rw [modifySession_eq_ok_iff]
      exact ⟨k, hk, by rw [Table.replace, List.set_eq_modify]⟩
    unfold account
    rw [bind_of_ok (get_apply w), hget]
    dsimp only
    rw [if_pos hopen, Session.handled, if_pos hopen, hopen]
    unfold Session.received at hmodify ⊢
    generalize session.accept data.length _ = result at hmodify ⊢
    obtain ⟨counted, note⟩ := result
    dsimp only at hmodify ⊢
    rw [bind_of_ok hmodify]
    cases note with
    | none => exact ⟨w.host, rfl, rfl⟩
    | some note => cases note <;> exact ⟨_, watched_log _ _ _, rfl⟩
  · rw [Bool.not_eq_true] at hopen
    rw [Session.handled_of_not_isOpen hopen, Table.replace_self hsession, hopen,
      account_of_not_isOpen hget hopen]
    exact ⟨w.host, rfl, rfl⟩

/-- **A datagram of an open session is counted**, which changes this session alone. -/
theorem account_eq_ok {r : Receiver} {i : Int} {k : Nat} {session : Session} {w : World}
    (hk : w.table.position? i = some k) (hsession : w.table.sessions[k]? = some session)
    (hopen : session.isOpen r.count) (data : Octets) :
    ∃ host, r.account i data w =
      .ok true { w with host, table := w.table.replace k (session.received data) } := by
  obtain ⟨host, -, haccount⟩ := account_eq hk hsession data
  rw [Session.handled, if_pos hopen, hopen] at haccount
  exact ⟨host, haccount⟩

/-! ## Any number -/

/-- **A session that has room for all its datagrams counts them**, one after the other. -/
theorem mapM_account_eq_ok {r : Receiver} {i : Int} {k : Nat} {session : Session} {w : World}
    (hk : w.table.position? i = some k) (hsession : w.table.sessions[k]? = some session)
    (ds : List Octets) (hroom : r.count = 0 ∨ session.count + ds.length ≤ r.count) :
    let session' := ds.foldl (fun session data => session.received data) session
    ∃ host, ds.mapM (r.account i) w =
      .ok (List.replicate ds.length true) { w with host, table := w.table.replace k session' } := by
  induction ds generalizing session w with
  | nil =>
      refine ⟨w.host, ?_⟩
      rw [List.mapM_nil, List.foldl_nil, Table.replace_self hsession]
      rfl
  | cons data ds ih =>
      have hopen : session.isOpen r.count := by
        rw [List.length_cons] at hroom
        simp only [Session.isOpen, Bool.or_eq_true, decide_eq_true_eq]
        omega
      obtain ⟨host, hone⟩ := account_eq_ok hk hsession hopen data
      have hroom' : r.count = 0 ∨ (session.received data).count + ds.length ≤ r.count := by
        rw [(session.received_counts data).2]
        rw [List.length_cons] at hroom
        omega
      obtain ⟨host', hrest⟩ := ih (w := { w with host, table := w.table.replace k _ })
        ((w.table.position?_replace k _ i).trans hk) (Table.getElem?_replace hsession _) hroom'
      refine ⟨host', ?_⟩
      rw [List.mapM_cons, bind_of_ok hone, bind_of_ok hrest]
      simp only [Table.replace_replace]
      rfl

/-- Counts datagrams of the session at an index, each as it is read. -/
def accountEach (r : Receiver) (i : Int) : List Octets → Act Unit
  | [] => pure ()
  | data :: rest => do
    let _ ← r.account i (front r.limit data)
    r.accountEach i rest

/-- A session after datagrams were handed to it, each as it is read. -/
def handleAll (r : Receiver) (ds : List Octets) (session : Session) : Session :=
  ds.foldl (fun session data => session.handled r.count (front r.limit data)) session

theorem handleAll_bounds (r : Receiver) (ds : List Octets) (session : Session) :
    (r.handleAll ds session).group = session.group ∧
      (r.count ≠ 0 → session.count ≤ r.count → (r.handleAll ds session).count ≤ r.count) := by
  induction ds generalizing session with
  | nil => exact ⟨rfl, fun _ hle => hle⟩
  | cons data ds ih =>
      obtain ⟨hgroup, hcount⟩ := session.handled_bounds r.count (front r.limit data)
      obtain ⟨hgroups, hcounts⟩ := ih (session.handled r.count (front r.limit data))
      exact ⟨hgroups.trans hgroup, fun hlimit hle => hcounts hlimit (hcount hlimit hle)⟩

/-- Without a limit, they are all counted. -/
theorem handleAll_of_zero {r : Receiver} (hr : r.count = 0) (ds : List Octets) (session : Session) :
    r.handleAll ds session = session.receivedAll r.limit ds := by
  unfold handleAll Session.receivedAll
  congr 1
  funext session data
  simp [Session.handled, Session.isOpen, hr]

/-- **Datagrams are handed to their session** one after the other, which changes this session alone. -/
theorem accountEach_eq {r : Receiver} {i : Int} {k : Nat} {session : Session} {w : World}
    (hk : w.table.position? i = some k) (hsession : w.table.sessions[k]? = some session)
    (ds : List Octets) :
    ∃ host, r.accountEach i ds w =
      .ok () { w with host, table := w.table.replace k (r.handleAll ds session) } := by
  induction ds generalizing session w with
  | nil =>
      refine ⟨w.host, ?_⟩
      rw [accountEach, handleAll, List.foldl_nil, Table.replace_self hsession]
      rfl
  | cons data ds ih =>
      obtain ⟨host, -, hone⟩ := account_eq (r := r) hk hsession (front r.limit data)
      obtain ⟨host', hrest⟩ := ih (w := { w with host, table := w.table.replace k _ })
        ((w.table.position?_replace k _ i).trans hk) (Table.getElem?_replace hsession _)
      refine ⟨host', ?_⟩
      rw [accountEach, bind_of_ok hone, hrest]
      simp only [Table.replace_replace]
      rfl

/-- **A session without a limit counts all its datagrams**, one after the other. -/
theorem accountEach_eq_ok {r : Receiver} (hr : r.count = 0) {i : Int} {k : Nat} {session : Session}
    {w : World} (hk : w.table.position? i = some k) (hsession : w.table.sessions[k]? = some session)
    (ds : List Octets) :
    ∃ host, r.accountEach i ds w =
      .ok () { w with host, table := w.table.replace k (session.receivedAll r.limit ds) } := by
  rw [← handleAll_of_zero hr]
  exact accountEach_eq hk hsession ds

end Receiver

/-! ## One number -/

namespace Session

/-- A session after a number was noted. -/
def noted (s : Session) (n : Nat) : Session := (s.noteSeq n).1

theorem noted_first {s : Session} (hseq : s.seq = none) (n : Nat) :
    (s.noted n).seq = some (n : Int) ∧ (s.noted n).gaps = s.gaps := by
  simp only [noted, noteSeq, hseq]
  exact ⟨trivial, trivial⟩

/-- A number above the last one leaves a gap of the numbers between them. -/
theorem noted_above {s : Session} {last n : Nat} (hseq : s.seq = some (last : Int)) (hlt : last < n) :
    (s.noted n).seq = some (n : Int) ∧ (s.noted n).gaps = s.gaps + (n - last - 1) := by
  simp only [noted, noteSeq, hseq]
  by_cases hgap : (n : Int) > last + 1
  · rw [if_pos hgap]
    exact ⟨rfl, rfl⟩
  · rw [if_neg hgap, if_pos (Or.inr (by omega))]
    refine ⟨rfl, ?_⟩
    show s.gaps = _
    omega

/-- Zero starts over. -/
theorem noted_zero {s : Session} {last : Nat} (hseq : s.seq = some (last : Int)) :
    (s.noted 0).seq = some 0 ∧ (s.noted 0).gaps = s.gaps := by
  have hgap : ¬((0 : Nat) : Int) > last + 1 := by omega
  have hzero : ((0 : Nat) : Int) = 0 := rfl
  simp only [noted, noteSeq, hseq]
  rw [if_neg hgap, if_pos (Or.inl hzero)]
  exact ⟨rfl, rfl⟩

/-- A number that is late, or a duplicate, changes nothing. -/
theorem noted_late {s : Session} {last n : Nat} (hseq : s.seq = some (last : Int)) (hn : n ≠ 0)
    (hle : n ≤ last) : s.noted n = s := by
  simp only [noted, noteSeq, hseq]
  rw [if_neg (by omega), if_neg (by omega)]

/-- A packet is counted, and its number noted. -/
theorem received_of_decode {data : Octets} {n i : Nat} (hdata : Packet.decode? data = some (n, i))
    (s : Session) : s.received data = noted { s.mark with count := s.count + 1 } n := by
  simp only [received, accept, hdata, Option.map_some, noted]

/-- A foreign payload is counted, and nothing else. -/
theorem received_of_foreign {data : Octets} (hdata : Packet.decode? data = none) (s : Session) :
    s.received data = { s.mark with count := s.count + 1 } := by
  simp only [received, accept, hdata, Option.map_none]

/-! ## Ascending numbers -/

/-- A packet with a number above the last one leaves a gap of the numbers between them. -/
theorem received_above {data : Octets} {n i last : Nat} {session : Session}
    (hdata : Packet.decode? data = some (n, i)) (hseq : session.seq = some (last : Int))
    (hlt : last < n) :
    (session.received data).count = session.count + 1 ∧
      (session.received data).seq = some (n : Int) ∧
      (session.received data).gaps = session.gaps + (n - last - 1) := by
  refine ⟨(session.received_counts data).2, ?_⟩
  rw [received_of_decode hdata]
  exact noted_above (s := { session.mark with count := session.count + 1 }) hseq hlt

/-- The first packet of a session leaves no gap. -/
theorem received_first {data : Octets} {n i : Nat} {session : Session}
    (hdata : Packet.decode? data = some (n, i)) (hseq : session.seq = none) :
    (session.received data).count = session.count + 1 ∧
      (session.received data).seq = some (n : Int) ∧
      (session.received data).gaps = session.gaps := by
  refine ⟨(session.received_counts data).2, ?_⟩
  rw [received_of_decode hdata]
  exact noted_first (s := { session.mark with count := session.count + 1 }) hseq n

/-- **Over packets with ascending numbers, the gaps are the numbers that were passed over**: all
    from the last number before them to their own last, less one for each packet. -/
theorem foldl_received_ascending {i : Nat} {p : Octets × Nat} {ps : List (Octets × Nat)}
    (hps : ∀ q ∈ ps, Packet.decode? q.1 = some (q.2, i))
    (hascending : (p :: ps).Pairwise (·.2 < ·.2)) {session : Session}
    (hseq : session.seq = some (p.2 : Int)) :
    let last := ((p :: ps).getLast (List.cons_ne_nil p ps)).2
    let session' := ps.foldl (fun session q => session.received q.1) session
    session'.count = session.count + ps.length ∧ session'.seq = some (last : Int) ∧
      session'.gaps = session.gaps + (last - p.2) - ps.length := by
  -- The session's last number is that of the packet in front of those that are still to come.
  induction ps generalizing p session with
  | nil => simp [hseq]
  | cons q ps ih =>
      obtain ⟨hq, hps⟩ := List.forall_mem_cons.1 hps
      obtain ⟨hfirst, hascending⟩ := List.pairwise_cons.1 hascending
      obtain ⟨hcount, hseq', hgaps⟩ := received_above hq hseq (hfirst q List.mem_cons_self)
      obtain ⟨hcounts, hseqs, hgapss⟩ := ih hps hascending hseq'
      simp only [List.getLast_cons_cons, List.foldl_cons, List.length_cons]
      refine ⟨?_, hseqs, ?_⟩
      · rw [hcounts, hcount]
        push_cast
        omega
      · rw [hgapss, hgaps]
        push_cast
        omega

/-- **A session that saw no packet yet** counts them all and ends at the last number. Its gaps are
    the numbers between the first and the last one that did not come. -/
theorem foldl_received_fresh {i : Nat} {ps : List (Octets × Nat)} (hne : ps ≠ [])
    (hps : ∀ p ∈ ps, Packet.decode? p.1 = some (p.2, i)) (hascending : ps.Pairwise (·.2 < ·.2))
    {session : Session} (hseq : session.seq = none) :
    let first := (ps.head hne).2
    let last := (ps.getLast hne).2
    let session' := ps.foldl (fun session p => session.received p.1) session
    session'.count = session.count + ps.length ∧ session'.seq = some (last : Int) ∧
      session'.gaps = session.gaps + (last - first + 1) - ps.length := by
  cases ps with
  | nil => exact absurd rfl hne
  | cons p ps =>
      obtain ⟨hp, hps⟩ := List.forall_mem_cons.1 hps
      obtain ⟨hcount, hseq', hgaps⟩ := received_first hp hseq
      obtain ⟨hcounts, hseqs, hgapss⟩ := foldl_received_ascending hps hascending hseq'
      simp only [List.head_cons, List.foldl_cons, List.length_cons]
      refine ⟨?_, hseqs, ?_⟩
      · rw [hcounts, hcount]
        push_cast
        omega
      · rw [hgapss, hgaps]
        push_cast
        omega

end Session

end Multicast
