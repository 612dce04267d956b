import Mathlib.Data.Finset.Card
import Mathlib.Order.Interval.Finset.Nat
import Multicast.Proofs.Receiver.Counting
import Multicast.Proofs.Sender.Numbering

/-!
# `Proofs.Delivery` — what a receiver counts of what a sender sent

Sender and receiver agree over a channel that keeps the order of datagrams but may lose any of them:
the receiver counts what was delivered, and its gaps are the packets that were lost between the first
and the last one delivered.

## Contents
- **Losses.** `lostBetween`, and their number from any packet on (`length_lostFrom`) or from the first
  one that was delivered (`length_lostBetween`), by way of `numbered`, the packets of a fresh session.
- **Delivery.** `delivered_are_counted`.
-/

namespace Multicast

/-! ## Losses -/

/-- The packets sent with numbers from `first` to `last` that were not delivered. -/
def lostBetween (first last : Nat) (sent delivered : List (Octets × Nat)) : List (Octets × Nat) :=
  sent.filter fun p => first ≤ p.2 ∧ p.2 ≤ last ∧ p ∉ delivered

/-- From any number up to the last of some numbers, there are as many as these and those that are
    missing. -/
theorem length_missing {m : Nat} {ns : List Nat} (hns : ns.Sublist (List.range m)) (hne : ns ≠ [])
    (a : Nat) :
    ((List.range m).filter fun n => a ≤ n ∧ n ≤ ns.getLast hne ∧ n ∉ ns).length +
      (ns.filter (a ≤ ·)).length = ns.getLast hne + 1 - a := by
  have hlt : ns.Pairwise (· < ·) := List.pairwise_lt_range.sublist hns
  have hle : ns.Pairwise (· ≤ ·) := hlt.imp Nat.le_of_lt
  have hlast : ns.getLast hne < m := List.mem_range.1 (hns.subset (List.getLast_mem hne))
  have hmissing : ((List.range m).filter
      fun n => a ≤ n ∧ n ≤ ns.getLast hne ∧ n ∉ ns).toFinset =
        Finset.Icc a (ns.getLast hne) \ (ns.filter (a ≤ ·)).toFinset := by
    ext n
    simp only [List.mem_toFinset, List.mem_filter, List.mem_range, decide_eq_true_eq,
      Finset.mem_sdiff, Finset.mem_Icc]
    constructor
    · rintro ⟨-, hfirst, hupto, hnot⟩
      exact ⟨⟨hfirst, hupto⟩, fun hn => hnot hn.1⟩
    · rintro ⟨⟨hfirst, hupto⟩, hnot⟩
      exact ⟨Nat.lt_of_le_of_lt hupto hlast, hfirst, hupto, fun hn => hnot ⟨hn, hfirst⟩⟩
  have hwithin : (ns.filter (a ≤ ·)).toFinset ⊆ Finset.Icc a (ns.getLast hne) := by
    intro n hn
    obtain ⟨hmem, hfirst⟩ := List.mem_filter.1 (List.mem_toFinset.1 hn)
    exact Finset.mem_Icc.2 ⟨of_decide_eq_true hfirst, hle.rel_getLast hmem⟩
  have hcount : (ns.filter (a ≤ ·)).toFinset.card = (ns.filter (a ≤ ·)).length :=
    List.toFinset_card_of_nodup (hlt.nodup.filter _)
  have hall := Finset.card_le_card hwithin
  rw [← List.toFinset_card_of_nodup (List.nodup_range.filter _), hmissing,
    Finset.card_sdiff_of_subset hwithin, hcount]
  rw [hcount] at hall
  rw [Nat.card_Icc] at hall ⊢
  omega

/-- The packets of a session with the numbers from zero on. -/
def numbered (i size m : Nat) : List (Octets × Nat) :=
  (List.range m).map fun n : Nat => (Packet.encode n i size, n)

theorem map_snd_numbered (i size m : Nat) : (numbered i size m).map (·.2) = List.range m := by
  rw [numbered, List.map_map]
  exact List.map_id _

/-- What is delivered of them in order has ascending numbers. -/
theorem ascending_of_sublist {i size m : Nat} {delivered : List (Octets × Nat)}
    (hsub : delivered.Sublist (numbered i size m)) : delivered.Pairwise (·.2 < ·.2) := by
  have hnumbers := hsub.map (·.2)
  rw [map_snd_numbered] at hnumbers
  exact List.pairwise_map.1 (List.pairwise_lt_range.sublist hnumbers)

/-- Below `2 ^ 32`, the number of a packet is in its header as it is. -/
theorem header_of_mem_numbered {i size m : Nat} (hm : m ≤ 2 ^ 32) {p : Octets × Nat}
    (hp : p ∈ numbered i size m) : Packet.decode? p.1 = some (p.2, i % 2 ^ 16) := by
  obtain ⟨n, hn, rfl⟩ := List.mem_map.1 hp
  have hlt : n < m := List.mem_range.1 hn
  rw [Packet.decode?_encode]
  congr 2
  omega

theorem decode?_of_mem_numbered {i size m : Nat} (hi : i < 2 ^ 16) (hm : m ≤ 2 ^ 32)
    {p : Octets × Nat} (hp : p ∈ numbered i size m) : Packet.decode? p.1 = some (p.2, i) := by
  rw [header_of_mem_numbered hm hp, Nat.mod_eq_of_lt hi]

theorem length_of_mem_numbered {i m : Nat} {size : Int} {p : Octets × Nat}
    (hp : p ∈ numbered i (Packet.clampSize size) m) : p.1.length ≤ Packet.maxSize := by
  obtain ⟨n, -, rfl⟩ := List.mem_map.1 hp
  obtain ⟨hmin, hmax⟩ := Packet.clampSize_bounds size
  rw [Packet.length_encode]
  omega

/-- The packets that a fresh session sends are numbered from zero on. -/
theorem zipIdx_encode (i size m : Nat) :
    ((List.range' 0 m).map fun n : Nat => Packet.encode n i size).zipIdx = numbered i size m := by
  refine List.ext_getElem (by simp [numbered]) fun n hn hn' => ?_
  simp [numbered]

/-- From any number on, packets of a session are lost if their numbers are missing. -/
theorem length_lostFrom {i size m : Nat} {delivered : List (Octets × Nat)}
    (hsub : delivered.Sublist (numbered i size m)) (hne : delivered ≠ []) (a : Nat) :
    (lostBetween a (delivered.getLast hne).2 (numbered i size m) delivered).length +
      (delivered.filter (a ≤ ·.2)).length = (delivered.getLast hne).2 + 1 - a := by
  obtain ⟨ns, hns, rfl⟩ := List.sublist_map_iff.1 hsub
  have hnsne : ns ≠ [] := fun hnil => hne (by rw [hnil]; rfl)
  have hinj : Function.Injective fun n : Nat => (Packet.encode n i size, n) :=
    fun n n' hn => congrArg Prod.snd hn
  rw [lostBetween, numbered, List.filter_map, List.filter_map, List.length_map, List.length_map,
    List.getLast_map, ← length_missing hns hnsne a]
  congr 2
  apply List.filter_congr
  intro n _
  simp only [Function.comp_apply, List.mem_map_of_injective hinj]

/-- Packets of a session are lost if their numbers are missing. -/
theorem length_lostBetween {i size m : Nat} {delivered : List (Octets × Nat)}
    (hsub : delivered.Sublist (numbered i size m)) (hne : delivered ≠ []) :
    (lostBetween (delivered.head hne).2 (delivered.getLast hne).2 (numbered i size m)
        delivered).length + delivered.length =
      (delivered.getLast hne).2 + 1 - (delivered.head hne).2 := by
  have hle : delivered.Pairwise (·.2 ≤ ·.2) := (ascending_of_sublist hsub).imp Nat.le_of_lt
  have hall : delivered.filter ((delivered.head hne).2 ≤ ·.2) = delivered :=
    List.filter_eq_self.2 fun p hp => decide_eq_true (hle.rel_head hp)
  have hlost := length_lostFrom hsub hne (delivered.head hne).2
  rw [hall] at hlost
  exact hlost

/-! ## Delivery -/

/-- **Sender and receiver agree over a lossy channel.** In any number of steps up to `2 ^ 32`, which
    are made unless something stands in the way, a sender sends one packet a step for each of at most
    `2 ^ 16` fresh sessions, up to its limit if it has one. Take the packets for one of the sessions,
    numbered in the order in which they were sent, and deliver any of them, in order, to a fresh
    session without a limit. The receiver counts what was delivered, ends at its last number, and its
    gaps are the packets that were lost between the first and the last one; all of them show the
    session's index. -/
theorem delivered_are_counted {s : Sender} {r : Receiver} {w : World} {k : Nat}
    (hsize : w.table.size ≤ 2 ^ 16)
    (hfresh : ∀ session ∈ w.table.sessions, session.count = 0 ∧ session.seq = none)
    (hk : k ≤ 2 ^ 32) (hr : r.count = 0) (hlimit : Packet.maxSize ≤ r.limit) :
    (s.Ready w → ∃ ds w', s.Run k w ds w') ∧
    ∀ ds w', s.Run k w ds w' → ∀ i < w.table.size,
      (sentFor i ds).length = (if s.count = 0 then k else min k s.count.toNat) ∧
      ∀ delivered : List (Octets × Nat), delivered.Sublist (sentFor i ds).zipIdx →
      ∀ hne : delivered ≠ [], ∀ (v : World) (j : Int) (session : Session), v.table.get? j = some session →
        session.count = 0 → session.gaps = 0 → session.seq = none →
      let first := (delivered.head hne).2
      let last := (delivered.getLast hne).2
      ∃ v' session', r.accountEach j (delivered.map (·.1)) v = .ok () v' ∧
        v'.table.get? j = some session' ∧
        session'.count = delivered.length ∧ session'.seq = some (last : Int) ∧
        session'.gaps = (last - first + 1 : Int) - delivered.length ∧
        session'.gaps = (lostBetween first last (sentFor i ds).zipIdx delivered).length ∧
        ∀ p ∈ delivered, Packet.decode? p.1 = some (p.2, i) := by
  refine ⟨fun hready => hready.exists_run k, ?_⟩
  intro ds w' hrun i hi
  -- What was sent for the session are the packets numbered from zero on.
  have hsender : w.table.sessions[i]? = some w.table.sessions[i] := List.getElem?_eq_getElem hi
  obtain ⟨hcount₀, hseq₀⟩ := hfresh _ (List.getElem_mem hi)
  obtain ⟨hsent, -⟩ := hrun.sentFor_eq hsender (n := 0) ⟨hcount₀, hseq₀⟩
  have hm := s.share_le k 0
  refine ⟨?_, ?_⟩
  · rw [hsent, List.length_map, List.length_range', Sender.share, Int.natCast_zero, Int.sub_zero]
  intro delivered hsub hne v j session hsession hcount hgaps hseq
  rw [hsent, zipIdx_encode] at hsub ⊢
  have hdecode : ∀ p ∈ delivered, Packet.decode? p.1 = some (p.2, i) := fun p hp =>
    decode?_of_mem_numbered (by omega) (by omega) (hsub.subset hp)
  have hascending : delivered.Pairwise (·.2 < ·.2) := by
    have hnumbers := hsub.map (·.2)
    rw [map_snd_numbered] at hnumbers
    exact List.pairwise_map.1 (List.pairwise_lt_range.sublist hnumbers)
  have hshort : ∀ data ∈ delivered.map (·.1), (data.length : Int) ≤ r.limit := by
    intro data hdata
    obtain ⟨p, hp, rfl⟩ := List.mem_map.1 hdata
    have hle := length_of_mem_numbered (hsub.subset hp)
    omega
  -- The receiver folds them into its session, the first one as the first it ever saw.
  obtain ⟨position, hposition, hhere⟩ := Option.bind_eq_some_iff.1 hsession
  obtain ⟨host, hcounted⟩ := Receiver.accountEach_eq_ok hr hposition hhere (delivered.map (·.1))
  refine ⟨_, _, hcounted, Table.get?_replace hposition hhere _, ?_⟩
  rw [Session.receivedAll_of_short hshort, List.foldl_map]
  obtain ⟨hcounts, hseqs, hgapss⟩ := Session.foldl_received_fresh hne hdecode hascending hseq
  have hlost := length_lostBetween hsub hne
  have hsome : 0 < delivered.length := List.length_pos_iff.2 hne
  refine ⟨?_, hseqs, ?_, ?_, hdecode⟩
  · rw [hcounts, hcount, Int.zero_add]
  · rw [hgapss, hgaps, Int.zero_add]
  · rw [hgapss, hgaps]
    omega

/-- A run with one fresh session, and a socket for its packets. -/
def World.ofGroup : World where
  flags := { period := .ofNat 1 }
  table.sessions := [{ source := none, group := "225.1.2.3", target := some ⟨.v4 0xe1010203, 1234⟩ }]
  uplinks := [(.inet, 1)]

/-- Nothing stands in the way of sending these packets. -/
theorem Sender.ready_ofGroup : Sender.Ready { period := .ofNat 1 } .ofGroup where
  sockets := by simp [World.ofGroup, Endpoint.family, Address.family]
  ports := by decide
  period := ⟨.ofNat 1, rfl, by decide +kernel⟩
  granted := by simp [World.ofGroup]
  quiet := by simp [Host.Expects, World.ofGroup]

/-- Of five packets, the second and the last one arrive: two are lost between them. -/
theorem second_and_fifth_are_counted :
    ∃ ds w', Sender.Run { period := .ofNat 1 } 5 .ofGroup ds w' ∧ ∃ v' session',
      Receiver.accountEach { period := .ofNat 1 } 0
        [Packet.encode 1 0 100, Packet.encode 4 0 100] .ofGroup = .ok () v' ∧
      v'.table.get? 0 = some session' ∧
      session'.count = 2 ∧ session'.seq = some 4 ∧ session'.gaps = 2 := by
  have hagree := delivered_are_counted (s := { period := .ofNat 1 })
    (r := { period := .ofNat 1 }) (w := .ofGroup) (k := 5) (by decide) (by decide) (by decide) rfl
    (by decide)
  obtain ⟨ds, w', hrun⟩ := hagree.1 Sender.ready_ofGroup
  obtain ⟨hsent, -⟩ := hrun.sentFor_eq (i := 0) (n := 0) rfl ⟨rfl, rfl⟩
  have hsub : [(Packet.encode 1 0 100, 1), (Packet.encode 4 0 100, 4)].Sublist
      (sentFor 0 ds).zipIdx := by
    rw [hsent]
    decide
  obtain ⟨v', session', hcounted, hsession', hcount, hseq, hgaps, -⟩ :=
    (hagree.2 ds w' hrun 0 (by decide)).2 _ hsub (by simp) .ofGroup 0 _ rfl rfl rfl rfl
  exact ⟨ds, w', hrun, v', session', hcounted, hsession', hcount, hseq, hgaps⟩

end Multicast
