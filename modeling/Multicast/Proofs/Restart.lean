import Multicast.Proofs.Delivery

/-!
# `Proofs.Restart` — what a receiver counts of a sender that started over

A sender that is started again numbers its packets from zero on, while the receiver still has the last
number of the run before. The receiver tells the new run from late packets of the old one by its first
packet, the one with number zero. From there on all losses are counted, as they are for a fresh
session. If that packet is lost, the new run is taken for late packets until it has passed the old
number, and only what is lost behind that is counted.

## Contents
- **One packet.** `Session.received_zero` and `Session.received_late`.
- **Behind.** `Session.foldl_received_behind`, packets of which the first ones are late.
- **Result.** `loss_is_counted_from_zero_on`, and a run that is not told from the one before it in
  `restart_without_zero_is_late`.
-/

namespace Multicast

/-! ## One packet -/

namespace Session

/-- The packet with number zero starts over, and leaves no gap. -/
theorem received_zero {data : Octets} {i last : Nat} {session : Session}
    (hdata : Packet.decode? data = some (0, i)) (hseq : session.seq = some (last : Int)) :
    (session.received data).count = session.count + 1 ∧ (session.received data).seq = some 0 ∧
      (session.received data).gaps = session.gaps := by
  refine ⟨(session.received_counts data).2, ?_⟩
  rw [received_of_decode hdata]
  exact noted_zero (s := { session.mark with count := session.count + 1 }) hseq

/-- A late packet is counted, and nothing else. -/
theorem received_late {data : Octets} {n i last : Nat} {session : Session}
    (hdata : Packet.decode? data = some (n, i)) (hseq : session.seq = some (last : Int)) (hn : n ≠ 0)
    (hle : n ≤ last) :
    (session.received data).count = session.count + 1 ∧
      (session.received data).seq = some (last : Int) ∧
      (session.received data).gaps = session.gaps := by
  refine ⟨(session.received_counts data).2, ?_⟩
  rw [received_of_decode hdata,
    noted_late (s := { session.mark with count := session.count + 1 }) hseq hn hle]
  exact ⟨hseq, rfl⟩

/-! ## Behind -/

/-- **Over packets with ascending numbers, of which the first ones are late**, the gaps are the
    numbers from the session's last one on that were passed over. -/
theorem foldl_received_behind {i last : Nat} {ps : List (Octets × Nat)} (hne : ps ≠ [])
    (hps : ∀ p ∈ ps, Packet.decode? p.1 = some (p.2, i)) (hascending : ps.Pairwise (·.2 < ·.2))
    (hzero : ∀ p ∈ ps, p.2 ≠ 0) {session : Session} (hseq : session.seq = some (last : Int)) :
    let session' := ps.foldl (fun session p => session.received p.1) session
    session'.seq = some (max last (ps.getLast hne).2 : Int) ∧
      session'.gaps + (ps.filter (last + 1 ≤ ·.2)).length =
        session.gaps + ((ps.getLast hne).2 + 1 - (last + 1) : Nat) := by
  induction ps generalizing session with
  | nil => exact absurd rfl hne
  | cons p ps ih =>
      obtain ⟨hp, hlater⟩ := List.forall_mem_cons.1 hps
      obtain ⟨hpzero, hlaterzero⟩ := List.forall_mem_cons.1 hzero
      obtain ⟨hfirst, hascending'⟩ := List.pairwise_cons.1 hascending
      by_cases hle : p.2 ≤ last
      · obtain ⟨-, hseq', hgaps'⟩ := received_late hp hseq hpzero hle
        have hskip : ¬last + 1 ≤ p.2 := by omega
        rw [List.filter_cons_of_neg (by simpa using hskip), List.foldl_cons]
        cases ps with
        | nil =>
            refine ⟨?_, ?_⟩
            · rw [List.foldl_nil, hseq', List.getLast_singleton]
              congr 1
              omega
            · rw [List.foldl_nil, hgaps', List.getLast_singleton]
              simp
              omega
        | cons q ps =>
            obtain ⟨hseqs, hgapss⟩ :=
              ih (List.cons_ne_nil q ps) hlater hascending' hlaterzero hseq'
            rw [hgaps'] at hgapss
            exact ⟨hseqs, hgapss⟩
      · -- From the first packet that is not late on, none is.
        have habove : ∀ q ∈ p :: ps, last + 1 ≤ q.2 := by
          intro q hq
          rcases List.mem_cons.1 hq with rfl | hq
          · omega
          · have := hfirst q hq
            omega
        have hfrom : (([], last) :: p :: ps : List (Octets × Nat)).Pairwise (·.2 < ·.2) :=
          List.pairwise_cons.2 ⟨habove, hascending⟩
        obtain ⟨-, hseqs, hgapss⟩ := foldl_received_ascending hps hfrom hseq
        have hlast : last + 1 ≤ ((p :: ps).getLast hne).2 := habove _ (List.getLast_mem hne)
        have hall : (p :: ps).filter (last + 1 ≤ ·.2) = p :: ps :=
          List.filter_eq_self.2 fun q hq => decide_eq_true (habove q hq)
        rw [List.getLast_cons hne] at hseqs hgapss
        rw [hall]
        refine ⟨hseqs.trans ?_, ?_⟩
        · congr 1
          omega
        · rw [hgapss]
          omega

end Session

/-! ## Result -/

/-- **Loss is counted from the packet with number zero on.** A sender starts over and its packets, any
    of which may be lost, come in order to a session that still has a last number of before, and that
    has room for them. The first packet that comes is not above that number. If it is the one with
    number zero, the session has as gaps the packets that were lost between the first and the last one
    that came. If it is not, only those are counted that were lost above the number of before. -/
theorem loss_is_counted_from_zero_on {s : Sender} {r : Receiver} {w w' : World} {k : Nat}
    {ds : List (Nat × Octets)}
    (hfresh : ∀ session ∈ w.table.sessions, session.count = 0 ∧ session.seq = none)
    (hk : k ≤ 2 ^ 32) (hrun : s.Run k w ds w') {i : Nat} (hi : i < w.table.size)
    {delivered : List (Octets × Nat)} (hsub : delivered.Sublist (sentFor i ds).zipIdx)
    (hne : delivered ≠ []) {v : World} {j : Int} {session : Session}
    (hsession : v.table.get? j = some session) {seq : Nat} (hseq : session.seq = some (seq : Int))
    (hbehind : (delivered.head hne).2 ≤ seq)
    (hroom : r.count = 0 ∨ session.count + delivered.length ≤ r.count) :
    let first := (delivered.head hne).2
    let last := (delivered.getLast hne).2
    ∃ v' session', (delivered.map (·.1)).mapM (r.account j) v =
        .ok (List.replicate delivered.length true) v' ∧
      v'.table.get? j = some session' ∧ session'.count = session.count + delivered.length ∧
      (first = 0 → session'.seq = some (last : Int) ∧ session'.gaps =
        session.gaps + (lostBetween first last (sentFor i ds).zipIdx delivered).length) ∧
      (first ≠ 0 → session'.seq = some (max seq last : Int) ∧ session'.gaps =
        session.gaps + (lostBetween (seq + 1) last (sentFor i ds).zipIdx delivered).length) := by
  -- What was sent for the session are the packets numbered from zero on.
  have hsender : w.table.sessions[i]? = some w.table.sessions[i] := List.getElem?_eq_getElem hi
  obtain ⟨hcount₀, hseq₀⟩ := hfresh _ (List.getElem_mem hi)
  obtain ⟨hsent, -⟩ := hrun.sentFor_eq hsender (n := 0) ⟨hcount₀, hseq₀⟩
  rw [hsent, zipIdx_encode] at hsub ⊢
  have hdecode : ∀ p ∈ delivered, Packet.decode? p.1 = some (p.2, i % 2 ^ 16) := fun p hp =>
    header_of_mem_numbered ((s.share_le k 0).trans hk) (hsub.subset hp)
  have hascending := ascending_of_sublist hsub
  -- The receiver folds them into its session.
  obtain ⟨position, hposition, hhere⟩ := Option.bind_eq_some_iff.1 hsession
  have hlength : (delivered.map (·.1)).length = delivered.length := List.length_map _
  obtain ⟨host, hcounted⟩ := Receiver.mapM_account_eq_ok hposition hhere (delivered.map (·.1))
    (by rw [hlength]; exact hroom)
  rw [hlength] at hcounted
  refine ⟨_, _, hcounted, Table.get?_replace hposition hhere _, ?_, ?_, ?_⟩
  · rw [Session.count_foldl_received, hlength]
  · intro hzero
    rw [List.foldl_map]
    obtain ⟨p, ps, rfl⟩ := List.exists_cons_of_ne_nil hne
    obtain ⟨hp, hlater⟩ := List.forall_mem_cons.1 hdecode
    rw [List.head_cons] at hzero
    obtain ⟨-, hseq', hgaps'⟩ := Session.received_zero (by rw [hp, hzero]) hseq
    rw [← Int.natCast_zero, ← hzero] at hseq'
    obtain ⟨-, hseqs, hgapss⟩ := Session.foldl_received_ascending hlater hascending hseq'
    have hlost := length_lostBetween hsub hne
    rw [List.length_cons, List.head_cons] at hlost
    refine ⟨hseqs, ?_⟩
    rw [List.foldl_cons, hgapss, hgaps', List.head_cons]
    omega
  · intro hfirst
    rw [List.foldl_map]
    have hzero : ∀ p ∈ delivered, p.2 ≠ 0 := by
      intro p hp
      have hle := (hascending.imp Nat.le_of_lt).rel_head hp
      omega
    obtain ⟨hseqs, hgapss⟩ := Session.foldl_received_behind hne hdecode hascending hzero hseq
    have hlost := length_lostFrom hsub hne (seq + 1)
    refine ⟨hseqs, ?_⟩
    omega

/-- The packets of a run with one fresh session. -/
theorem World.exists_run_ofGroup (k : Nat) : ∃ ds w', Sender.Run { period := .ofNat 1 } k .ofGroup ds w' ∧
    (sentFor 0 ds).zipIdx = numbered 0 (Packet.clampSize 100) k := by
  obtain ⟨ds, w', hrun⟩ := Sender.ready_ofGroup.exists_run k
  obtain ⟨hsent, -⟩ := hrun.sentFor_eq (i := 0) (n := 0) rfl ⟨rfl, rfl⟩
  exact ⟨ds, w', hrun, by rw [hsent, zipIdx_encode]; rfl⟩

/-- A world whose session has had packet 5 of a run before. -/
def World.afterFifth : World where
  flags := { period := .ofNat 1 }
  table.sessions := [{ source := none, group := "225.1.2.3", count := 1, seq := some 5 }]

/-- The new run's packets 0, 2 and 7 come: 1 and 3 to 6 are lost. -/
theorem zero_second_and_seventh_are_counted :
    ∃ ds w', Sender.Run { period := .ofNat 1 } 8 .ofGroup ds w' ∧ ∃ v' session',
      [Packet.encode 0 0 100, Packet.encode 2 0 100, Packet.encode 7 0 100].mapM
        (Receiver.account { period := .ofNat 1 } 0) .afterFifth = .ok (List.replicate 3 true) v' ∧
      v'.table.get? 0 = some session' ∧
      session'.count = 4 ∧ session'.seq = some 7 ∧ session'.gaps = 5 := by
  obtain ⟨ds, w', hrun, hsent⟩ := World.exists_run_ofGroup 8
  have hsub : [(Packet.encode 0 0 100, 0), (Packet.encode 2 0 100, 2),
      (Packet.encode 7 0 100, 7)].Sublist (sentFor 0 ds).zipIdx := by
    rw [hsent]
    decide
  obtain ⟨v', session', hcounted, hsession', hcount, hzero, -⟩ :=
    loss_is_counted_from_zero_on (r := { period := .ofNat 1 })
      (by decide) (by decide) hrun (i := 0) (by decide) hsub (by simp) (v := .afterFifth) (j := 0) rfl
      rfl (by decide) (Or.inl rfl)
  obtain ⟨hseq, hgaps⟩ := hzero rfl
  refine ⟨ds, w', hrun, v', session', hcounted, hsession', hcount, hseq, ?_⟩
  rw [hgaps, hsent]
  decide

/-- **A restart without packet zero is taken for late packets.** Of the new run's packets 0 to 3, the
    ones with numbers 1 and 3 come to a session that ends at 5. Packet 2 was lost between them, but no
    gap is counted. -/
theorem restart_without_zero_is_late :
    ∃ ds w', Sender.Run { period := .ofNat 1 } 4 .ofGroup ds w' ∧
      let delivered := [(Packet.encode 1 0 100, 1), (Packet.encode 3 0 100, 3)]
      delivered.Sublist (sentFor 0 ds).zipIdx ∧
      ∃ session, World.afterFifth.table.get? 0 = some session ∧ session.seq = some 5 ∧
        ∃ v' session', (delivered.map (·.1)).mapM
            (Receiver.account { period := .ofNat 1 } 0) .afterFifth =
              .ok (List.replicate 2 true) v' ∧
          v'.table.get? 0 = some session' ∧ session'.gaps = session.gaps ∧
          session'.gaps ≠ session.gaps + (lostBetween 1 3 (sentFor 0 ds).zipIdx delivered).length := by
  obtain ⟨ds, w', hrun, hsent⟩ := World.exists_run_ofGroup 4
  refine ⟨ds, w', hrun, ?_, _, rfl, rfl, _, _, rfl, rfl, rfl, ?_⟩
  · rw [hsent]
    decide
  · rw [hsent]
    decide

end Multicast
