import Mathlib.Algebra.Ring.Int.Defs
import Mathlib.Data.List.SplitBy
import Multicast.Proofs.Receiver.Counting

/-!
# `Proofs.Receiver.Epochs` — the gaps of a session as a sum over epochs

Datagrams come in any order: late ones, duplicates, foreign ones, and those of a sender that started
over. The numbers that were received are cut into epochs, where a zero begins a new one. In each
epoch, a session counts as gaps the numbers between the first and the highest one that were never
a new high; whatever is not a new high changes nothing.

## Contents
- **Epochs.** `Packet.numbers`, `epochs`, and what there is to tell of one epoch: `highest`,
  `newHighs` and `passedOver`.
- **Sequences.** `Session.noted_epoch` for one epoch, and `Session.noted_epochs` for all of them.
- **Datagrams.** `Session.foldl_received_numbers`: only the numbers matter.
- **Result.** `Receiver.gaps_sum_over_epochs`.
-/

namespace Multicast

/-! ## Epochs -/

/-- The sequence numbers of the datagrams that are ours. -/
def Packet.numbers (ds : List Octets) : List Nat :=
  ds.filterMap fun data => (decode? data).map fun (seq, _) => seq

/-- Numbers cut into epochs: the first one begins an epoch, and so does every later zero. -/
def epochs (ns : List Nat) : List (List Nat) := ns.splitBy fun _ n => n ≠ 0

/-- The highest number of an epoch. -/
def highest (epoch : List Nat) : Nat := epoch.max?.getD 0

/-- How many numbers of an epoch, the first one apart, are above all numbers in front of them. -/
def newHighs (epoch : List Nat) : Nat :=
  (List.range epoch.length).countP fun j =>
    0 < j && epoch[j]?.any fun n => (epoch.take j).all (· < n)

/-- The numbers between the first and the highest one of an epoch that were passed over: no new high
    is among them. -/
def passedOver (epoch : List Nat) : Int := highest epoch - epoch.headD 0 - newHighs epoch

theorem highest_of_bounds {epoch : List Nat} {top : Nat} (hmem : top ∈ epoch)
    (hbound : ∀ n ∈ epoch, n ≤ top) : highest epoch = top := by
  rw [highest, List.max?_eq_some_iff.2 ⟨hmem, hbound⟩, Option.getD_some]

theorem newHighs_singleton (n : Nat) : newHighs [n] = 0 := rfl

/-- A number more is a new high if it is above all others. -/
theorem newHighs_append_singleton {epoch : List Nat} (hne : epoch ≠ []) (n : Nat) :
    newHighs (epoch ++ [n]) = newHighs epoch + if ∀ m ∈ epoch, m < n then 1 else 0 := by
  have hpos : 0 < epoch.length := List.length_pos_iff.2 hne
  have hearlier : ∀ j ∈ List.range epoch.length,
      (0 < j && (epoch ++ [n])[j]?.any fun n' => ((epoch ++ [n]).take j).all (· < n')) =
        (0 < j && epoch[j]?.any fun n' => (epoch.take j).all (· < n')) := by
    intro j hj
    have hlt := List.mem_range.1 hj
    rw [List.getElem?_append_left hlt, List.take_append_of_le_length hlt.le]
  have hlast : (0 < epoch.length &&
      (epoch ++ [n])[epoch.length]?.any fun n' => ((epoch ++ [n]).take epoch.length).all (· < n')) =
        decide (∀ m ∈ epoch, m < n) := by
    rw [List.getElem?_concat_length, List.take_left, Bool.eq_iff_iff]
    simp [hpos]
  rw [newHighs, List.length_append, List.length_singleton, List.range_succ, List.countP_append,
    List.countP_congr fun j hj => by rw [hearlier j hj], List.countP_singleton, hlast, newHighs]
  simp

/-- In a list whose neighbours are related by what the second one is, all but the first are so. -/
theorem forall_of_isChain {α : Type} {p : α → Prop} {a : α} {as : List α}
    (h : (a :: as).IsChain fun _ b => p b) : ∀ b ∈ as, p b := by
  induction as generalizing a with
  | nil => exact nofun
  | cons b as ih =>
      obtain ⟨hb, has⟩ := List.isChain_cons_cons.1 h
      exact List.forall_mem_cons.2 ⟨hb, ih has⟩

/-! ## Sequences -/

namespace Session

/-- **Over one epoch** a session passes over the numbers that were no new high. The epoch is the
    first one that the session sees, or it begins with zero. -/
theorem noted_epoch {s : Session} {first : Nat} {rest : List Nat} (hrest : ∀ n ∈ rest, n ≠ 0)
    (hfirst : s.seq = none ∨ first = 0 ∧ ∃ last : Nat, s.seq = some (last : Int)) :
    ((first :: rest).foldl noted s).seq = some (highest (first :: rest) : Int) ∧
      ((first :: rest).foldl noted s).gaps = s.gaps + passedOver (first :: rest) := by
  -- The last number of the session is the highest one so far; each number is compared with it.
  suffices h : ∃ top ∈ first :: rest, (∀ n ∈ first :: rest, n ≤ top) ∧
      ((first :: rest).foldl noted s).seq = some (top : Int) ∧
      ((first :: rest).foldl noted s).gaps = s.gaps + (top - first - newHighs (first :: rest)) by
    obtain ⟨top, hmem, hbound, hseq, hgaps⟩ := h
    rw [passedOver, highest_of_bounds hmem hbound]
    exact ⟨hseq, hgaps⟩
  induction rest using List.reverseRecOn with
  | nil =>
      refine ⟨first, List.mem_singleton.2 rfl, fun n hn => (List.mem_singleton.1 hn).le, ?_⟩
      rw [newHighs_singleton, List.foldl_cons, List.foldl_nil, Int.sub_self]
      rcases hfirst with hnone | ⟨rfl, last, hlast⟩
      · obtain ⟨hseq, hgaps⟩ := noted_first hnone first
        exact ⟨hseq, by rw [hgaps]; simp⟩
      · obtain ⟨hseq, hgaps⟩ := noted_zero hlast
        exact ⟨hseq, by rw [hgaps]; simp⟩
  | append_singleton rest n ih =>
      obtain ⟨hrest, hn⟩ := List.forall_mem_append.1 hrest
      obtain ⟨top, hmem, hbound, hseq, hgaps⟩ := ih hrest
      have hnew := newHighs_append_singleton (List.cons_ne_nil first rest) n
      rw [← List.cons_append, List.foldl_append, List.foldl_cons, List.foldl_nil, hnew]
      by_cases habove : top < n
      · obtain ⟨hseq', hgaps'⟩ := noted_above hseq habove
        refine ⟨n, by simp, ?_, hseq', ?_⟩
        · intro m hm
          rcases List.mem_append.1 hm with hm | hm
          · exact (hbound m hm).trans habove.le
          · exact (List.mem_singleton.1 hm).le
        · rw [if_pos fun m hm => Nat.lt_of_le_of_lt (hbound m hm) habove, hgaps', hgaps]
          push_cast
          omega
      · rw [noted_late hseq (hn n (List.mem_singleton.2 rfl)) (Nat.le_of_not_lt habove)]
        refine ⟨top, List.mem_append_left _ hmem, ?_, hseq, ?_⟩
        · intro m hm
          rcases List.mem_append.1 hm with hm | hm
          · exact hbound m hm
          · rw [List.mem_singleton.1 hm]
            exact Nat.le_of_not_lt habove
        · rw [if_neg fun hall => habove (hall top hmem), hgaps, Nat.add_zero]

/-- **Over epochs in a row** the gaps add up. All but the first of them begin with zero. -/
theorem noted_flatten {s : Session} {es : List (List Nat)}
    (hrest : ∀ e ∈ es, ∃ first rest, e = first :: rest ∧ ∀ n ∈ rest, n ≠ 0)
    (hzero : ∀ e ∈ es.tail, e.head? = some 0)
    (hfirst : s.seq = none ∨ (∀ e ∈ es, e.head? = some 0) ∧ ∃ last : Nat, s.seq = some (last : Int)) :
    (es.flatten.foldl noted s).gaps = s.gaps + (es.map passedOver).sum ∧
      (es.flatten.foldl noted s).seq = (es.getLast?.elim s.seq fun e => some (highest e : Int)) := by
  induction es generalizing s with
  | nil => simp
  | cons e es ih =>
      obtain ⟨⟨first, rest, rfl, hn⟩, hlater⟩ := List.forall_mem_cons.1 hrest
      have hbegins : s.seq = none ∨ first = 0 ∧ ∃ last : Nat, s.seq = some (last : Int) := by
        refine hfirst.imp id fun ⟨hall, hlast⟩ => ⟨?_, hlast⟩
        exact Option.some.inj (hall _ List.mem_cons_self)
      obtain ⟨hseq, hgaps⟩ := noted_epoch hn hbegins
      obtain ⟨hgapss, hseqs⟩ := ih hlater (fun e' he' => hzero e' (List.mem_of_mem_tail he'))
        (Or.inr ⟨hzero, _, hseq⟩)
      rw [List.flatten_cons, List.foldl_append, List.map_cons, List.sum_cons]
      refine ⟨by rw [hgapss, hgaps, Int.add_assoc], ?_⟩
      rw [hseqs, hseq, List.getLast?_cons]
      cases es.getLast? with
      | none => rfl
      | some last => rfl

/-- **Over any numbers**, what a session that saw none before has passed over is the sum over their
    epochs, and it ends at the highest number of the last one. -/
theorem noted_epochs {s : Session} (hseq : s.seq = none) (ns : List Nat) :
    (ns.foldl noted s).gaps = s.gaps + ((epochs ns).map passedOver).sum ∧
      (ns.foldl noted s).seq = (epochs ns).getLast?.map fun e => (highest e : Int) := by
  have hflatten : (epochs ns).flatten = ns := List.flatten_splitBy _ ns
  have hrest : ∀ e ∈ epochs ns, ∃ first rest, e = first :: rest ∧ ∀ n ∈ rest, n ≠ 0 := by
    intro e he
    obtain ⟨first, rest, rfl⟩ := List.exists_cons_of_ne_nil (List.ne_nil_of_mem_splitBy he)
    refine ⟨first, rest, rfl, fun n hn => ?_⟩
    have hchain : (first :: rest).IsChain fun _ n => decide (n ≠ 0) = true :=
      List.isChain_of_mem_splitBy he
    exact of_decide_eq_true (forall_of_isChain hchain n hn)
  have hzero : ∀ e ∈ (epochs ns).tail, e.head? = some 0 := by
    have hchain : (epochs ns).IsChain fun _ e => e.head? = some 0 := by
      refine (List.isChain_getLast_head_splitBy (fun _ n => decide (n ≠ 0)) ns).imp ?_
      rintro _ e ⟨-, hne, hhead⟩
      rw [List.head?_eq_some_head hne]
      simpa using hhead
    cases hes : epochs ns with
    | nil => exact nofun
    | cons e es =>
        rw [hes] at hchain
        exact forall_of_isChain hchain
  obtain ⟨hgaps, hlast⟩ := noted_flatten hrest hzero (Or.inl hseq)
  rw [hflatten] at hgaps hlast
  refine ⟨hgaps, ?_⟩
  rw [hlast, hseq]
  cases (epochs ns).getLast? <;> rfl

/-! ## Datagrams -/

/-- What a session makes of a number depends on its last one only, and adds to its gaps. -/
theorem noted_congr {s s' : Session} (hseq : s.seq = s'.seq) (hgaps : s.gaps = s'.gaps) (n : Nat) :
    (s.noted n).seq = (s'.noted n).seq ∧ (s.noted n).gaps = (s'.noted n).gaps := by
  unfold noted noteSeq
  rw [hseq]
  cases s'.seq with
  | none => exact ⟨rfl, hgaps⟩
  | some last =>
      dsimp only
      split
      · exact ⟨rfl, congrArg (· + _) hgaps⟩
      · split
        · exact ⟨rfl, hgaps⟩
        · exact ⟨hseq, hgaps⟩

/-- **Of the datagrams only the numbers matter** to the gaps and to the last number. -/
theorem foldl_received_numbers {s s' : Session} (hseq : s.seq = s'.seq) (hgaps : s.gaps = s'.gaps)
    (ds : List Octets) :
    (ds.foldl (fun s data => s.received data) s).seq = ((Packet.numbers ds).foldl noted s').seq ∧
      (ds.foldl (fun s data => s.received data) s).gaps =
        ((Packet.numbers ds).foldl noted s').gaps := by
  induction ds generalizing s s' with
  | nil => exact ⟨hseq, hgaps⟩
  | cons data ds ih =>
      rw [List.foldl_cons, Packet.numbers, List.filterMap_cons]
      cases hdata : Packet.decode? data with
      | none =>
          rw [received_of_foreign hdata]
          exact ih (s := { s.mark with count := s.count + 1 }) hseq hgaps
      | some header =>
          obtain ⟨hseq', hgaps'⟩ :=
            noted_congr (s := { s.mark with count := s.count + 1 }) hseq hgaps header.1
          rw [received_of_decode hdata]
          exact ih hseq' hgaps'

end Session

/-! ## Result -/

/-- **The gaps of a session are a sum over epochs.** Whatever datagrams a fresh session without a
    limit is given, ours and foreign ones in any order, all of them are counted. Cut the numbers of
    ours into epochs: the gaps are, for each epoch, the numbers from the first to the highest one,
    less one for each new high behind the first; and the session ends at the highest number of the
    last epoch. -/
theorem Receiver.gaps_sum_over_epochs {r : Receiver} (hr : r.count = 0) {w : World} {i : Int}
    {session : Session} (hsession : w.table.get? i = some session) (hcount : session.count = 0)
    (hgaps : session.gaps = 0) (hseq : session.seq = none) (ds : List Octets) :
    ∃ w' session', ds.mapM (r.account i) w = .ok (List.replicate ds.length true) w' ∧
      w'.table.get? i = some session' ∧ session'.count = ds.length ∧
      session'.gaps = ((epochs (Packet.numbers ds)).map fun epoch =>
        (highest epoch - epoch.headD 0 - newHighs epoch : Int)).sum ∧
      session'.seq = (epochs (Packet.numbers ds)).getLast?.map fun epoch => (highest epoch : Int) := by
  obtain ⟨k, hk, hhere⟩ := Option.bind_eq_some_iff.1 hsession
  obtain ⟨host, hcounted⟩ := mapM_account_eq_ok hk hhere ds (Or.inl hr)
  obtain ⟨hseqs, hgapss⟩ := Session.foldl_received_numbers (s := session) rfl rfl ds
  obtain ⟨hsum, hlast⟩ := Session.noted_epochs hseq (Packet.numbers ds)
  refine ⟨_, _, hcounted, Table.get?_replace hk hhere _, ?_, ?_, ?_⟩
  · rw [Session.count_foldl_received, hcount, Int.zero_add]
  · rw [hgapss, hsum, hgaps, Int.zero_add]
    rfl
  · rw [hseqs, hlast]

/-- Numbers 3, 5, 5, 4, 9, 0 and 2 with a foreign payload among them: 6, 7 and 8 were passed over, and
    4, which came late, is no new high either; after the restart, it is 1. -/
theorem Receiver.late_and_restarted_pass_over_five :
    let r : Receiver := { period := .ofNat 1 }
    let w : World :=
      { flags := { period := .ofNat 1 }, table.sessions := [{ source := none, group := "225.1.2.3" }] }
    let ds := [Packet.encode 3 0 20, [1, 2, 3], Packet.encode 5 0 20, Packet.encode 5 0 20,
      Packet.encode 4 0 20, Packet.encode 9 0 20, Packet.encode 0 0 20, Packet.encode 2 0 20]
    ∃ w' session', ds.mapM (r.account 0) w = .ok (List.replicate 8 true) w' ∧
      w'.table.get? 0 = some session' ∧ session'.count = 8 ∧ session'.gaps = 5 ∧
      session'.seq = some 2 := by
  intro r w ds
  obtain ⟨w', session', hcounted, hsession', hcount, hgaps, hseq⟩ :=
    gaps_sum_over_epochs (r := r) rfl (w := w) (i := 0) rfl rfl rfl rfl ds
  have hnumbers : Packet.numbers ds = [3, 5, 5, 4, 9, 0, 2] := by decide
  rw [hnumbers] at hgaps hseq
  exact ⟨w', session', hcounted, hsession', hcount, hgaps.trans (by decide), hseq.trans (by decide)⟩

end Multicast
