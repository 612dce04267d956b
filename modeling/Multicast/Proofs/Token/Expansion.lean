import Mathlib.Data.List.Forall2
import Mathlib.Data.List.Nodup
import Multicast.Proofs.Address.Spelling
import Multicast.Proofs.Token.Grammar

/-!
# `Proofs.Token.Expansion` — the groups that a token is expanded to

The groups of a token are consecutive addresses, the first as it was written and all others printed.
Printing loses nothing, so that an expansion can be taken up at any of its groups, and the addresses
differ in their low 32 bits only, so that it takes a full cycle to come back to the first.

## Contents
- **Steps.** `Address.advance_inj`: no address comes back before a full cycle;
  `Address.front_packed_advance`: the bytes above the last four stay.
- **Consecutive groups.** `Token.read?_consecutive`, what the groups are read as;
  `Token.consecutive_isPrefix` and `Token.exists_drop_consecutive`, its front and its rest.
- **Single groups.** `Token.read_of_address`: the text of an address is a token of one group.
- **Wordings.** `Token.worded_of_writable` and `Token.worded_of_not_writable`;
  `Token.writable_count`: the count of a token can be written.
- **Expansions.** `Token.expand_of_read`, the checks in their order, with
  `Token.expand_eq_ok_iff_of_read` and `Token.expand_eq_error_iff_of_read`; then
  `Token.Expanded`, what an expansion holds, and `Token.expand_is_exact`.
-/

namespace Multicast

/-! ## Steps -/

namespace Address

/-- **No address comes back before a full cycle of its low 32 bits.** -/
theorem advance_inj {a : Address} {j k : Nat} (hj : j < 2 ^ 32) (hk : k < 2 ^ 32)
    (h : a.advance j = a.advance k) : j = k := by
  have hhost : ∀ host : BitVec 32, host + BitVec.ofNat 32 j = host + BitVec.ofNat 32 k → j = k := by
    intro host heq
    have hsteps : (BitVec.ofNat 32 j).toNat = (BitVec.ofNat 32 k).toNat :=
      congrArg BitVec.toNat ((BitVec.add_right_inj host).1 heq)
    rwa [BitVec.toNat_ofNat, BitVec.toNat_ofNat, Nat.mod_eq_of_lt hj, Nat.mod_eq_of_lt hk] at hsteps
  cases a with
  | v4 host =>
      injection h with h
      exact hhost host h
  | v6 net host =>
      injection h with _ h
      exact hhost host h

/-- The bytes above the last four stay what they are. -/
theorem front_packed_advance (a : Address) (k : Nat) :
    (a.advance k).packed.take (a.family.size - 4) = a.packed.take (a.family.size - 4) := by
  cases a with
  | v4 host => rfl
  | v6 net host => simp [advance, packed, family, Family.size]

end Address

namespace Token

/-! ## Consecutive groups -/

theorem following_eq_map (a : Address) (n : Nat) :
    following a n = (List.range n).map fun k => (a.advance (k + 1)).text := by
  induction n generalizing a with
  | zero => rfl
  | succ n ih =>
      rw [following, ih, List.range_succ_eq_map, List.map_cons, List.map_map]
      congr 1
      apply List.map_congr_left
      intro k _
      show ((a.advance 1).advance (k + 1)).text = (a.advance (k + 1 + 1)).text
      rw [Address.advance_advance, Nat.add_comm 1]

/-- **The groups of a token are read as consecutive addresses**: the first from the text as given,
    all others from their printed form. -/
theorem read?_consecutive {group : String} {a : Address} (h : Address.read? group = some a)
    (n : Nat) :
    List.Forall₂ (fun g k => Address.read? g = some (a.advance k)) (consecutive group a n)
      (List.range n) := by
  cases n with
  | zero => exact .nil
  | succ n =>
      rw [consecutive, following_eq_map, List.range_succ_eq_map]
      refine .cons (by rw [Address.advance_zero, h]) ?_
      rw [List.forall₂_map_left_iff, List.forall₂_map_right_iff, List.forall₂_same]
      exact fun k _ => Address.read?_text _

@[simp] theorem length_consecutive (group : String) (a : Address) (n : Nat) :
    (consecutive group a n).length = n := by
  cases n <;> simp [consecutive, following_eq_map]

/-- What follows an address are the groups from the next one on, as it is printed. -/
theorem following_eq_consecutive (a : Address) (n : Nat) :
    following a n = consecutive a.step.text a.step n := by
  cases n <;> rfl

/-- Fewer groups are the first ones of more. -/
theorem consecutive_isPrefix (group : String) (a : Address) {m n : Nat} (h : m ≤ n) :
    consecutive group a m <+: consecutive group a n := by
  induction m generalizing group a n with
  | zero => exact List.nil_prefix
  | succ m ih =>
      obtain ⟨n, rfl⟩ : ∃ k, n = k + 1 := ⟨n - 1, by omega⟩
      rw [consecutive, consecutive, following_eq_consecutive, following_eq_consecutive,
        List.cons_prefix_cons]
      exact ⟨rfl, ih a.step.text a.step (by omega)⟩

/-- **The groups from a position on are consecutive again**, from the group at the position. -/
theorem exists_drop_consecutive {group : String} {a : Address} {k n : Nat}
    (h : Address.read? group = some a) (hk : k < n) :
    ∃ text, (consecutive group a n)[k]? = some text ∧ Address.read? text = some (a.advance k) ∧
      (consecutive group a n).drop k = consecutive text (a.advance k) (n - k) := by
  induction k generalizing group a n with
  | zero =>
      obtain ⟨n, rfl⟩ : ∃ m, n = m + 1 := ⟨n - 1, by omega⟩
      exact ⟨group, rfl, by rw [Address.advance_zero, h], by rw [Address.advance_zero]; rfl⟩
  | succ k ih =>
      obtain ⟨n, rfl⟩ : ∃ m, n = m + 1 := ⟨n - 1, by omega⟩
      obtain ⟨text, htext, hread, hdrop⟩ := ih (n := n) (Address.read?_text a.step) (by omega)
      have hstep : a.step.advance k = a.advance (k + 1) := by
        rw [Address.step, Address.advance_advance, Nat.add_comm]
      rw [hstep] at hread hdrop
      rw [consecutive, following_eq_consecutive, List.getElem?_cons_succ, List.drop_succ_cons,
        Nat.add_sub_add_right]
      exact ⟨text, htext, hread, hdrop⟩

/-! ## Single groups -/

/-- **The text of an address is a token of one group**, which is kept as it is written. -/
theorem read_of_address {text : String} {a : Address} (h : Address.read? text = some a) :
    read text = .ok ⟨none, text, 1⟩ := by
  have hspelled := Address.spelled_of_read? h
  have hplain : ∀ c ∈ text.toList, Text.isBlank c = false ∧ c ≠ ',' ∧ c ≠ '+' := fun c hc =>
    isAddressChar_plain (hspelled c hc)
  -- Without a source and without blanks, a name is all that is written.
  let name : Name := {
    text := text.toList
    ne_nil := Address.ne_nil_of_read? h
    trimmed := ⟨fun c hc => (hplain c (List.mem_of_mem_head? hc)).1,
      fun c hc => (hplain c (List.mem_of_mem_getLast? hc)).1⟩
    comma := fun hc => (hplain _ hc).2.1 rfl
    plus := fun hc => (hplain _ hc).2.2 rfl }
  have hread := read_written_bare none name ⟨[], [], [], [], [], by simp [Text.Blank]⟩
  simpa [written, writtenSource, writtenCount, name] using hread

/-! ## Wordings -/

/-- A number of groups that can be written is refused in words that hold it. -/
theorem worded_of_writable {n : Int} (h : Text.writable n) (e : SetupError) :
    worded n e = .setup e := by
  rw [worded, Text.writeInteger, if_pos h]

/-- One of too many digits is refused for these. -/
theorem worded_of_not_writable {n : Int} (h : ¬Text.writable n) (e : SetupError) :
    worded n e = .numeral .unwritable := by
  rw [worded, Text.writeInteger, if_neg h]

/-- The count of a token has few enough digits to be written out. -/
theorem writable_count {token : String} {parts : Token} (h : read token = .ok parts) :
    Text.writable parts.count := by
  cases hcount : splitCount token with
  | error e => rw [read_of_splitCount_error hcount] at h; cases h
  | ok counted =>
      obtain ⟨body, n⟩ := counted
      have hn : parts.count = n := by
        rw [read_of_splitCount hcount] at h
        split at h
        · rw [← Except.ok.inj h]
        · cases h
      rw [hn]
      unfold splitCount at hcount
      dsimp only at hcount
      split at hcount
      · rw [← (Prod.mk.inj (Except.ok.inj hcount)).2]
        exact decide_eq_true (Text.lt_firstTooLong (by decide))
      · split at hcount
        · split at hcount
          · rename_i hread
            rw [← (Prod.mk.inj (Except.ok.inj hcount)).2]
            exact Text.writable_of_readInteger hread
          · cases hcount
        · cases hcount

/-! ## Expansions -/

/-- The pairs of a source and the consecutive groups from an address on. -/
def pairsOf (source : Option String) (group : String) (a : Address) (n : Int) : List Pair :=
  (consecutive group a n.toNat).map (source, ·)

variable {token : String} {parts : Token} {count room : Option Int} {n : Int}

/-- The checks of an expansion, in their order. -/
theorem expand_of_read (h : read token = .ok parts) (hn : count.getD parts.count = n) :
    expand token count room =
      if n < 1 then .error (worded n (.tooFew n))
      else if room.any (· < n) then .error (worded n (.noRoom n (room.getD 0)))
      else match Address.read? parts.group with
        | none => .error (.setup (.badGroup parts.group))
        | some a => .ok (pairsOf parts.source parts.group a n) := by
  unfold expand
  rw [h, ← hn]
  rfl

/-- There is no room exactly if some bound is exceeded. -/
theorem any_lt_eq_true_iff : room.any (· < n) = true ↔ ∃ r ∈ room, r < n := by
  cases room <;> simp

/-- A token is expanded if there is something to expand, room for it, and a first address. -/
theorem expand_eq_ok_iff_of_read {pairs : List Pair} (h : read token = .ok parts)
    (hn : count.getD parts.count = n) :
    expand token count room = .ok pairs ↔ 1 ≤ n ∧ (∀ r ∈ room, n ≤ r) ∧
      ∃ a, Address.read? parts.group = some a ∧ pairs = pairsOf parts.source parts.group a n := by
  rw [expand_of_read h hn]
  by_cases hfew : n < 1
  · rw [if_pos hfew]
    refine iff_of_false (by simp) ?_
    rintro ⟨hpos, -⟩
    omega
  · rw [if_neg hfew]
    by_cases hfull : room.any (· < n) = true
    · rw [if_pos hfull]
      refine iff_of_false (by simp) ?_
      rintro ⟨-, hfits, -⟩
      obtain ⟨r, hr, hlt⟩ := any_lt_eq_true_iff.1 hfull
      exact absurd (hfits r hr) (Int.not_le.2 hlt)
    · rw [if_neg hfull]
      have hfits : ∀ r ∈ room, n ≤ r := fun r hr =>
        Int.not_lt.1 fun hlt => hfull (any_lt_eq_true_iff.2 ⟨r, hr, hlt⟩)
      have hpos : 1 ≤ n := by omega
      cases Address.read? parts.group with
      | none =>
          refine iff_of_false (by simp) ?_
          rintro ⟨-, -, a, ⟨⟩, -⟩
      | some a =>
          constructor
          · intro hok
            exact ⟨hpos, hfits, a, rfl, (Except.ok.inj hok).symm⟩
          · rintro ⟨-, -, b, ⟨⟩, rfl⟩
            rfl

/-- An expansion fails for the first of three reasons: nothing to expand, no room, no address. -/
theorem expand_eq_error_iff_of_read {e : Fault} (h : read token = .ok parts)
    (hn : count.getD parts.count = n) :
    expand token count room = .error e ↔
      n < 1 ∧ e = worded n (.tooFew n) ∨
      1 ≤ n ∧ (∃ r ∈ room, r < n ∧ e = worded n (.noRoom n r)) ∨
      1 ≤ n ∧ (∀ r ∈ room, n ≤ r) ∧ Address.read? parts.group = none ∧
        e = .setup (.badGroup parts.group) := by
  rw [expand_of_read h hn]
  by_cases hfew : n < 1
  · have hpos : ¬1 ≤ n := by omega
    simp [hfew, hpos, eq_comm]
  · have hpos : 1 ≤ n := by omega
    rw [if_neg hfew]
    by_cases hfull : room.any (· < n) = true
    · obtain ⟨r, rfl, hlt⟩ := any_lt_eq_true_iff.1 hfull
      have hover : ¬n ≤ r := by omega
      simp [hfew, hpos, hlt, hover, eq_comm]
    · have hfits : ∀ r ∈ room, n ≤ r := fun r hr =>
        Int.not_lt.1 fun hlt => hfull (any_lt_eq_true_iff.2 ⟨r, hr, hlt⟩)
      rw [if_neg hfull]
      constructor
      · intro he
        cases hgroup : Address.read? parts.group with
        | none =>
            rw [hgroup] at he
            exact Or.inr (Or.inr ⟨hpos, hfits, rfl, (Except.error.inj he).symm⟩)
        | some a =>
            rw [hgroup] at he
            cases he
      · rintro (⟨hlt, -⟩ | ⟨-, r, hr, hlt, -⟩ | ⟨-, -, hgroup, rfl⟩)
        · exact absurd hlt hfew
        · exact absurd (hfits r hr) (Int.not_le.2 hlt)
        · rw [hgroup]

/-- The same in words: a refusal of a number that cannot be written out is a failure to write it. -/
theorem expand_eq_error_iff_worded {e : Fault} (h : read token = .ok parts)
    (hn : count.getD parts.count = n) :
    expand token count room = .error e ↔
      n < 1 ∧ Text.writable n ∧ e = .setup (.tooFew n) ∨
      1 ≤ n ∧ Text.writable n ∧ (∃ r ∈ room, r < n ∧ e = .setup (.noRoom n r)) ∨
      (n < 1 ∨ ∃ r ∈ room, r < n) ∧ ¬Text.writable n ∧ e = .numeral .unwritable ∨
      1 ≤ n ∧ (∀ r ∈ room, n ≤ r) ∧ Address.read? parts.group = none ∧
        e = .setup (.badGroup parts.group) := by
  rw [expand_eq_error_iff_of_read h hn]
  by_cases hdigits : Text.writable n
  · simp only [worded_of_writable hdigits, hdigits, not_true, true_and, false_and, and_false,
      false_or]
  · rw [worded_of_not_writable hdigits]
    by_cases hlow : n < 1
    · simp [hlow, Int.not_le.2 hlow, hdigits]
    · simp [hlow, Int.not_lt.1 hlow, hdigits, worded_of_not_writable hdigits, ← and_assoc,
        ← exists_and_right]

/-- What an expansion to `n` groups holds. -/
structure Expanded (parts : Token) (n : Int) (pairs : List Pair) : Prop where
  length : (pairs.length : Int) = n
  source : ∀ pair ∈ pairs, pair.1 = parts.source
  /-- The first group is kept as it was written. -/
  first : pairs.head? = some (parts.source, parts.group)
  /-- Up to a full cycle, the groups are different addresses of the first one's family, which are
      like it in all but their last four bytes. -/
  distinct : n ≤ 2 ^ 32 → ∃ a as, Address.read? parts.group = some a ∧
    List.Forall₂ (fun pair b => Address.read? pair.2 = some b) pairs as ∧ as.Nodup ∧
    ∀ b ∈ as, b.family = a.family ∧
      b.packed.take (b.family.size - 4) = a.packed.take (a.family.size - 4)

theorem expanded_pairsOf {a : Address} (hpos : 1 ≤ n) (h : Address.read? parts.group = some a) :
    Expanded parts n (pairsOf parts.source parts.group a n) := by
  refine ⟨?_, ?_, ?_, ?_⟩
  · rw [pairsOf, List.length_map, length_consecutive]
    omega
  · intro pair hpair
    obtain ⟨group, -, rfl⟩ := List.mem_map.1 hpair
    rfl
  · obtain ⟨m, hm⟩ : ∃ m, n.toNat = m + 1 := ⟨n.toNat - 1, by omega⟩
    rw [pairsOf, hm, consecutive, List.map_cons, List.head?_cons]
  · intro hcycle
    refine ⟨a, (List.range n.toNat).map a.advance, h, ?_, ?_, ?_⟩
    · rw [pairsOf, List.forall₂_map_left_iff, List.forall₂_map_right_iff]
      exact read?_consecutive h _
    · refine List.Nodup.map_on ?_ List.nodup_range
      intro j hj k hk
      rw [List.mem_range] at hj hk
      exact Address.advance_inj (by omega) (by omega)
    · intro b hb
      obtain ⟨k, -, rfl⟩ := List.mem_map.1 hb
      exact ⟨Address.family_advance k a, by rw [Address.family_advance, Address.front_packed_advance]⟩

/-- Expanding to more groups adds groups behind. -/
theorem pairsOf_isPrefix (source : Option String) (group : String) (a : Address) {more : Int}
    (h : n ≤ more) : pairsOf source group a n <+: pairsOf source group a more :=
  (consecutive_isPrefix group a (Int.toNat_le_toNat h)).map _

/-- **An expansion can be taken up at each of its groups**: the group alone, with the count that is
    left, is expanded to the rest. -/
theorem expand_rest {source : Option String} {group : String} {a : Address}
    (h : Address.read? group = some a) {k : Nat} {pair : Pair}
    (hpair : (pairsOf source group a n)[k]? = some pair) (hroom : ∀ r ∈ room, n - k ≤ r) :
    expand pair.2 (some (n - k)) room =
      .ok (((pairsOf source group a n).drop k).map fun p => (none, p.2)) := by
  have hk : k < n.toNat := by
    have hlt := (List.getElem?_eq_some_iff.1 hpair).1
    rwa [pairsOf, List.length_map, length_consecutive] at hlt
  obtain ⟨text, htext, hread, hdrop⟩ := exists_drop_consecutive h hk
  obtain rfl : pair = (source, text) := by
    rw [pairsOf, List.getElem?_map, htext] at hpair
    exact (Option.some.inj hpair).symm
  refine (expand_eq_ok_iff_of_read (read_of_address hread) rfl).2
    ⟨by simp only [Option.getD_some]; omega, hroom, a.advance k, hread, ?_⟩
  have hrest : (n - k).toNat = n.toNat - k := by omega
  rw [Option.getD_some, pairsOf, pairsOf, ← List.map_drop, hdrop, List.map_map, hrest]
  rfl

/-- **A token that is read is expanded exactly**: `n` is the count that is asked for, or that of the
    token. The expansion goes through if there is something to expand, room for it and a first
    address, which are checked in this order; it then holds `n` groups from that address on, an
    expansion to more groups starts with it, and it can be taken up at any of its groups. The refusal
    of a number holds the number, so that one of too many digits is not refused in the words for it
    but for its digits. -/
theorem expand_is_exact (h : read token = .ok parts) (hn : count.getD parts.count = n)
    (room : Option Int) :
    ((∃ pairs, expand token count room = .ok pairs) ↔
      1 ≤ n ∧ (∀ r ∈ room, n ≤ r) ∧ ∃ a, Address.read? parts.group = some a) ∧
    (∀ e, expand token count room = .error e ↔
      n < 1 ∧ Text.writable n ∧ e = .setup (.tooFew n) ∨
      1 ≤ n ∧ Text.writable n ∧ (∃ r ∈ room, r < n ∧ e = .setup (.noRoom n r)) ∨
      (n < 1 ∨ ∃ r ∈ room, r < n) ∧ ¬Text.writable n ∧ e = .numeral .unwritable ∨
      1 ≤ n ∧ (∀ r ∈ room, n ≤ r) ∧ Address.read? parts.group = none ∧
        e = .setup (.badGroup parts.group)) ∧
    ∀ pairs, expand token count room = .ok pairs →
      Expanded parts n pairs ∧
      (∀ more room' pairs', n ≤ more → expand token (some more) room' = .ok pairs' →
        pairs <+: pairs') ∧
      ∀ (k : Nat) pair, pairs[k]? = some pair → ∀ room', (∀ r ∈ room', n - k ≤ r) →
        expand pair.2 (some (n - k)) room' = .ok ((pairs.drop k).map fun p => (none, p.2)) := by
  refine ⟨?_, fun e => expand_eq_error_iff_worded h hn, ?_⟩
  · constructor
    · rintro ⟨pairs, hpairs⟩
      obtain ⟨hpos, hroom, a, ha, -⟩ := (expand_eq_ok_iff_of_read h hn).1 hpairs
      exact ⟨hpos, hroom, a, ha⟩
    · rintro ⟨hpos, hroom, a, ha⟩
      exact ⟨_, (expand_eq_ok_iff_of_read h hn).2 ⟨hpos, hroom, a, ha, rfl⟩⟩
  · intro pairs hpairs
    obtain ⟨hpos, -, a, ha, rfl⟩ := (expand_eq_ok_iff_of_read h hn).1 hpairs
    refine ⟨expanded_pairsOf hpos ha, ?_, ?_⟩
    · intro more room' pairs' hmore hpairs'
      obtain ⟨-, -, a', ha', rfl⟩ := (expand_eq_ok_iff_of_read h rfl).1 hpairs'
      obtain rfl : a = a' := Option.some.inj (ha.symm.trans ha')
      exact pairsOf_isPrefix _ _ _ hmore
    · intro k pair hpair room' hroom'
      exact expand_rest ha hpair hroom'

/-- A group of one source whose last four bytes start anew: three of its groups go in front of five,
    and the third of them alone is expanded on. -/
theorem wrapping_group_is_expanded :
    expand "10.0.0.1,ff2e::ffff:fffe" (some 3) (some 4) =
      .ok [(some "10.0.0.1", "ff2e::ffff:fffe"), (some "10.0.0.1", "ff2e::ffff:ffff"),
        (some "10.0.0.1", "ff2e::")] ∧
    expand "10.0.0.1,ff2e::ffff:fffe" (some 5) (some 4) = .error (.setup (.noRoom 5 4)) ∧
    expand "ff2e::" (some 1) none = .ok [(none, "ff2e::")] := by
  have hread : read "10.0.0.1,ff2e::ffff:fffe" = .ok ⟨some "10.0.0.1", "ff2e::ffff:fffe", 1⟩ := by
    decide +kernel
  have hpairs : expand "10.0.0.1,ff2e::ffff:fffe" (some 3) (some 4) =
      .ok [(some "10.0.0.1", "ff2e::ffff:fffe"), (some "10.0.0.1", "ff2e::ffff:ffff"),
        (some "10.0.0.1", "ff2e::")] := by
    decide +kernel
  obtain ⟨-, -, hall⟩ := expand_is_exact hread (rfl : (some 3).getD 1 = (3 : Int)) (some 4)
  obtain ⟨-, hfault, -⟩ := expand_is_exact hread (rfl : (some 5).getD 1 = (5 : Int)) (some 4)
  obtain ⟨-, -, hrest⟩ := hall _ hpairs
  refine ⟨hpairs, ?_, ?_⟩
  · have hdigits : Text.writable 5 := decide_eq_true (Text.lt_firstTooLong (by decide))
    exact (hfault _).2 (Or.inr (Or.inl ⟨by decide, hdigits, 4, rfl, by decide, rfl⟩))
  · exact hrest 2 _ rfl none (by simp)

/-- A number of groups with one digit too many: there is no room for it, but this is not what its
    refusal says. -/
theorem endless_count_is_not_worded :
    expand "225.1.2.3" (some Text.firstTooLong) (some 5) = .error (.numeral .unwritable) := by
  have hread : read "225.1.2.3" = .ok ⟨none, "225.1.2.3", 1⟩ := by decide +kernel
  have hlong : ¬Text.writable Text.firstTooLong := by simp [Text.writable]
  have hover : 5 < Text.firstTooLong := Text.lt_firstTooLong (by decide)
  refine (expand_eq_error_iff_of_read hread rfl).2 (Or.inr (Or.inl ⟨?_, 5, rfl, ?_, ?_⟩))
  · rw [Option.getD_some]
    omega
  · rw [Option.getD_some]
    omega
  · exact (worded_of_not_writable hlong _).symm

end Token

end Multicast
