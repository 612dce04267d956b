import Multicast.Proofs.Table.Operations

/-!
# `Proofs.Table.Capacity` — a table holds what there is room for

Adding appends all sessions that were asked for, or it is refused for want of room and appends none.
The other operations keep the number of sessions, or drop all of them. So no table ever holds more
sessions than its capacity, whatever operations it has seen and however they ended.

## Contents
- **Adding.** `Operation.Adds`, the pairs that an operation is to add, and `perform_of_adds`, what
  becomes of them.
- **Leaving.** The tables that operations leave: `leaves_of_isAdding`, `leaves_resolve`,
  `leaves_resolveAll` and `leaves_restart`.
- **Bound.** `Fits`, kept by one operation in `fits_leaves` and by all of them in `fits_afterAll`.
- **Result.** `bounded_and_atomic`.
-/

namespace Multicast

/-- There is no room for what was to be added. -/
def Fault.isCapacity : Fault → Bool
  | .setup (.noRoom _ _) | .setup (.tableFull _ _) | .setup (.tooMany _ _) => true
  | _ => false

namespace Table

/-! ## Adding -/

/-- A change that is refused changes nothing. -/
theorem Step.eq_of_change_error {α : Type} {f : Table → Except Fault (α × Table)} {t t' : Table}
    {e : Fault} (h : Step.change f t = .error e t') : t' = t := by
  unfold Step.change at h
  split at h
  · cases h
  · cases h
    rfl

namespace Operation

/-- Operations that add sessions. -/
def isAdding : Operation → Bool
  | add _ _ | put _ | expand _ => true
  | _ => false

/-- Operations that resolve one session. -/
def isResolving : Operation → Bool
  | resolve _ _ => true
  | _ => false

/-- The pairs that an operation is to add. A token has to have groups for it. -/
inductive Adds : Operation → List Pair → Prop
  | add (source : Option String) (group : String) : Adds (.add source group) [(source, group)]
  | put (pairs : List Pair) : Adds (.put pairs) pairs
  | expand {token : String} {g : Token × Address} (h : Token.Groups token g) :
      Adds (.expand token) (Token.pairsFrom g)

end Operation

/-- The table with sessions of pairs behind its own. -/
def withPairs (t : Table) (pairs : List Pair) : Table :=
  { t with sessions := t.sessions ++ sessionsOf pairs }

/-- The indexes of as many sessions behind the last one. -/
def nextIndexes (t : Table) (n : Nat) : List Nat := (List.range n).map (t.size + ·)

theorem size_withPairs (t : Table) (pairs : List Pair) :
    (t.withPairs pairs).size = t.size + pairs.length := by
  simp [withPairs, size, sessionsOf]

/-- A token with groups is expanded if there is room for all of them. -/
theorem pairs_of_groups {token : String} {g : Token × Address} (h : Token.Groups token g) (t : Table) :
    t.pairs token =
      if t.room < g.1.count then .error (.setup (.noRoom g.1.count t.room))
      else .ok (Token.pairsFrom g) := by
  by_cases hroom : t.room < g.1.count
  · obtain ⟨hread, hpos, -⟩ := h
    rw [if_pos hroom]
    unfold Table.pairs Token.expand
    rw [hread]
    simp only [bind, Except.bind, Option.getD_none, Option.any_some, Option.getD_some]
    rw [if_neg (by omega), if_pos (by simpa using hroom),
      Token.worded_of_writable (Token.writable_count hread)]
  · rw [if_neg hroom]
    exact Token.expand_eq_ok_iff.2 ⟨g, h, Int.not_lt.1 hroom, rfl⟩

theorem addAll?_eq (t : Table) (pairs : List Pair) :
    t.addAll? pairs =
      if t.room < pairs.length then .error (.tooMany pairs.length t.capacity)
      else .ok (t.nextIndexes pairs.length, t.withPairs pairs) := by
  unfold addAll? room
  by_cases h : t.capacity < t.size + pairs.length
  · rw [if_pos h, if_pos (by omega)]
  · rw [if_neg h, if_neg (by omega)]
    rfl

namespace Operation

theorem perform_put (pairs : List Pair) (t : Table) :
    (put pairs).perform t =
      if t.room < pairs.length then .error (.setup (.tooMany pairs.length t.capacity)) t
      else .ok (t.nextIndexes pairs.length) (t.withPairs pairs) := by
  have hadd := t.addAll?_eq pairs
  show Step.change (fun t => refused (t.addAll? pairs)) t = _
  by_cases hroom : t.room < pairs.length
  · rw [if_pos hroom] at hadd ⊢
    exact Step.change_of_error (by rw [hadd]; rfl)
  · rw [if_neg hroom] at hadd ⊢
    exact Step.change_of_ok (by rw [hadd]; rfl)

theorem perform_add (source : Option String) (group : String) (t : Table) :
    (add source group).perform t =
      if t.room < 1 then .error (.setup (.tableFull (Session.label { source, group }) t.capacity)) t
      else .ok (t.nextIndexes 1) (t.withPairs [(source, group)]) := by
  unfold perform
  by_cases hroom : t.room < 1
  · have hfull : t.capacity ≤ t.size := by
      simp only [room] at hroom
      omega
    rw [if_pos hroom]
    refine Step.change_of_error ?_
    unfold add?
    rw [if_pos hfull]
    rfl
  · have hfree : ¬t.capacity ≤ t.size := by
      simp only [room] at hroom
      omega
    rw [if_neg hroom]
    refine Step.change_of_ok ?_
    unfold add?
    rw [if_neg hfree]
    rfl

theorem perform_expand_of_error {token : String} {t : Table} {e : Fault}
    (h : t.pairs token = .error e) : (expand token).perform t = .error e t :=
  Step.change_of_error (f := (·.addToken? token)) (addToken?_of_error h)

/-- The sessions of a token are added like those of its pairs. -/
theorem perform_expand_of_pairs {token : String} {t : Table} {pairs : List Pair}
    (h : t.pairs token = .ok pairs) : (expand token).perform t = (put pairs).perform t :=
  Step.change_congr (f := (·.addToken? token)) (g := fun t => refused (t.addAll? pairs))
    (addToken?_of_pairs h)

/-- **What is to be added is added if there is room for all of it**, and refused for want of room
    otherwise. -/
theorem perform_of_adds {op : Operation} {pairs : List Pair} (h : op.Adds pairs) (t : Table) :
    if t.room < pairs.length then ∃ e, e.isCapacity ∧ op.perform t = .error e t
    else op.perform t = .ok (t.nextIndexes pairs.length) (t.withPairs pairs) := by
  cases h with
  | add source group =>
      have hadd := perform_add source group t
      rw [List.length_singleton, Nat.cast_one]
      by_cases hroom : t.room < 1
      · rw [if_pos hroom]
        rw [if_pos hroom] at hadd
        exact ⟨_, rfl, hadd⟩
      · rw [if_neg hroom]
        rwa [if_neg hroom] at hadd
  | put pairs =>
      have hput := perform_put pairs t
      by_cases hroom : t.room < pairs.length
      · rw [if_pos hroom] at hput ⊢
        exact ⟨_, rfl, hput⟩
      · rwa [if_neg hroom] at hput ⊢
  | @expand token g hg =>
      have hcount : ((Token.pairsFrom g).length : Int) = g.1.count := by
        have hpos := hg.2.1
        simp only [Token.pairsFrom, List.length_map, Token.length_consecutive]
        omega
      have hpairs := pairs_of_groups hg t
      by_cases hroom : t.room < (Token.pairsFrom g).length
      · rw [if_pos hroom]
        rw [if_pos (by omega)] at hpairs
        exact ⟨_, rfl, perform_expand_of_error hpairs⟩
      · rw [if_neg hroom]
        rw [if_neg (by omega)] at hpairs
        rw [perform_expand_of_pairs hpairs, perform_put, if_neg hroom]

/-- Whatever was added was asked for. -/
theorem adds_of_perform {op : Operation} (hop : op.isAdding) {t t' : Table} {indexes : List Nat}
    (h : op.perform t = .ok indexes t') : ∃ pairs, op.Adds pairs := by
  cases op with
  | add source group => exact ⟨_, .add source group⟩
  | put pairs => exact ⟨_, .put pairs⟩
  | expand token =>
      cases hpairs : t.pairs token with
      | error e =>
          rw [perform_expand_of_error hpairs] at h
          cases h
      | ok pairs =>
          obtain ⟨g, hg, -, -⟩ := Token.expand_eq_ok_iff.1 hpairs
          exact ⟨_, .expand hg⟩
  | resolve | resolveAll | restart | age | clear => cases hop

/-- Operations that add sessions or resolve one are made as a whole, or not at all. -/
theorem eq_of_perform_error {op : Operation} (hop : op.isAdding ∨ op.isResolving) {t t' : Table}
    {e : Fault} (h : op.perform t = .error e t') : t' = t := by
  cases op with
  | add | put | expand | resolve =>
      dsimp only [perform] at h
      exact Step.eq_of_change_error h
  | resolveAll | restart | age | clear => rcases hop with hop | hop <;> cases hop

/-! ## Leaving -/

theorem leaves_of_ok {op : Operation} {t t' : Table} {indexes : List Nat}
    (h : op.perform t = .ok indexes t') : op.leaves t = t' := by
  unfold leaves
  rw [h]

theorem leaves_of_error {op : Operation} {t t' : Table} {e : Fault}
    (h : op.perform t = .error e t') : op.leaves t = t' := by
  unfold leaves
  rw [h]

/-- Adding appends what there is room for, or nothing. -/
theorem leaves_of_isAdding {op : Operation} (hop : op.isAdding) (t : Table) :
    op.leaves t = t ∨ ∃ pairs, ¬t.room < (pairs : List Pair).length ∧
      op.leaves t = t.withPairs pairs := by
  cases hperform : op.perform t with
  | error e t' =>
      rw [leaves_of_error hperform]
      exact Or.inl (eq_of_perform_error (Or.inl hop) hperform)
  | ok indexes t' =>
      obtain ⟨pairs, hadds⟩ := adds_of_perform hop hperform
      have hadd := perform_of_adds hadds t
      by_cases hroom : t.room < pairs.length
      · rw [if_pos hroom] at hadd
        obtain ⟨e, -, hrefused⟩ := hadd
        cases hperform.symm.trans hrefused
      · rw [if_neg hroom] at hadd
        exact Or.inr ⟨pairs, hroom, leaves_of_ok hadd⟩

/-- Resolving a session replaces it by its resolved form, which is counted; or it is refused. -/
theorem leaves_resolve (i port : Int) (t : Table) :
    (∃ e, t.resolve i port = .error e ∧ (resolve i port).leaves t = t) ∨
      ∃ k s d, t.position? i = some k ∧ t.sessions[k]? = some s ∧ s.resolve port = .ok d ∧
        t.resolve i port = .ok ((resolve i port).leaves t) ∧
        (resolve i port).leaves t =
          ({ t with sessions := t.sessions.set k d } : Table).countResolved d := by
  have hleaves : (resolve i port).leaves t = (t.resolve i port).toOption.getD t := by
    unfold leaves
    dsimp only [perform]
    cases hresolve : t.resolve i port with
    | error e => rw [Step.change_of_error (by rw [hresolve]; rfl)]; rfl
    | ok t' => rw [Step.change_of_ok (by rw [hresolve]; rfl)]; rfl
  rw [hleaves]
  cases hs : t.get? i with
  | none =>
      rw [resolve_of_none hs]
      exact Or.inl ⟨_, rfl, rfl⟩
  | some s =>
      obtain ⟨k, hk, hsession⟩ := position?_of_get? hs
      rw [resolve_of_some hk hsession port]
      cases hd : s.resolve port with
      | error e => exact Or.inl ⟨_, rfl, rfl⟩
      | ok d => exact Or.inr ⟨k, s, d, hk, hsession, hd, rfl, rfl⟩

/-- Resolving all sessions resolves, restarts and counts those up to some point. -/
theorem leaves_resolveAll (port : Int) (t : Table) :
    (resolveAll port).leaves t =
      { t with sessions := (resolvedForms port t.sessions).map Session.restart ++
                 t.sessions.drop (resolvedForms port t.sessions).length
               need4 := t.need4 + (resolvedForms port t.sessions).countP (·.isOf .inet)
               need6 := t.need6 + (resolvedForms port t.sessions).countP (·.isOf .inet6) } := by
  have hleaves : (resolveAll port).leaves t = (t.resolveAll port).1 := by
    unfold leaves
    dsimp only [perform]
    cases hfailure : (t.resolveAll port).2 with
    | none => rw [Step.bind_of_ok (Step.settle_of_none (by rw [hfailure]; rfl))]; rfl
    | some e => rw [Step.bind_of_error (Step.settle_of_some (by rw [hfailure]; rfl))]
  rw [hleaves, ← (resolveEach_eq port t.sessions).2]
  exact foldl_countResolved _ _

/-- Restarting changes at most one session. -/
theorem leaves_restart (i : Int) (t : Table) :
    (restart i).leaves t = t ∨
      ∃ k, (restart i).leaves t = { t with sessions := t.sessions.modify k Session.restart } := by
  have hleaves : (restart i).leaves t = (t.restart i).1 := by
    unfold leaves
    dsimp only [perform]
    cases hfailure : (t.restart i).2 with
    | none => rw [Step.bind_of_ok (Step.settle_of_none (Prod.ext rfl hfailure))]; rfl
    | some e => rw [Step.bind_of_error (Step.settle_of_some (Prod.ext rfl hfailure))]
  rw [hleaves]
  unfold Table.restart
  cases t.position? i with
  | none => exact Or.inl rfl
  | some k => exact Or.inr ⟨k, rfl⟩

end Operation

/-! ## Bound -/

/-- A table with no more sessions than its capacity. -/
def Fits (capacity : Int) (t : Table) : Prop := t.capacity = capacity ∧ t.size ≤ capacity

theorem Fits.of_length {capacity : Int} {t t' : Table} (h : t.Fits capacity)
    (hcapacity : t'.capacity = t.capacity) (hsize : t'.size ≤ t.size) : t'.Fits capacity := by
  obtain ⟨hc, hs⟩ := h
  exact ⟨hcapacity.trans hc, by omega⟩

theorem Fits.withPairs {capacity : Int} {t : Table} {pairs : List Pair} (h : t.Fits capacity)
    (hroom : ¬t.room < pairs.length) : (t.withPairs pairs).Fits capacity := by
  obtain ⟨hc, -⟩ := h
  refine ⟨hc, ?_⟩
  rw [size_withPairs]
  simp only [room] at hroom
  push_cast
  omega

/-- **An operation leaves no more sessions than the capacity.** -/
theorem Operation.fits_leaves {capacity : Int} {t : Table} (h : t.Fits capacity) (op : Operation) :
    (op.leaves t).Fits capacity := by
  by_cases hadding : op.isAdding
  · rcases leaves_of_isAdding hadding t with hkept | ⟨pairs, hroom, hleaves⟩
    · rwa [hkept]
    · rw [hleaves]
      exact h.withPairs hroom
  cases op with
  | add | put | expand => exact absurd rfl hadding
  | resolve i port =>
      rcases leaves_resolve i port t with ⟨-, -, hkept⟩ | ⟨k, s, d, -, -, -, -, hleaves⟩
      · rwa [hkept]
      · rw [hleaves, countResolved_withSessions, countResolved_eq]
        exact h.of_length rfl (Nat.le_of_eq List.length_set)
  | resolveAll port =>
      rw [leaves_resolveAll]
      refine h.of_length rfl (Nat.le_of_eq ?_)
      have hlength := (resolveEach_eq port t.sessions).1.length_eq
      rw [List.length_take] at hlength
      show (_ ++ t.sessions.drop _).length = t.sessions.length
      rw [List.length_append, List.length_map, List.length_drop]
      omega
  | restart i =>
      rcases leaves_restart i t with hkept | ⟨k, hleaves⟩
      · rwa [hkept]
      · rw [hleaves]
        exact h.of_length rfl (Nat.le_of_eq (List.length_modify ..))
  | age => exact h.of_length rfl (Nat.le_of_eq (List.length_map ..))
  | clear => exact h.of_length rfl (Nat.zero_le _)

theorem fits_afterAll {capacity : Int} (ops : List Operation) {t : Table} (h : t.Fits capacity) :
    (afterAll ops t).Fits capacity := by
  induction ops generalizing t with
  | nil => exact h
  | cons op ops ih => exact ih (op.fits_leaves h)

/-! ## Result -/

/-- **A table never holds more sessions than its capacity, and what cannot be done as a whole is not
    done at all.** Whatever operations a table has seen, successful or not: item by item, the next one
    comes to what it is made of as a whole. If it adds sessions, these stand in order behind the
    others, which stay as they were, and its indexes are those that follow. If it fails to add or to
    resolve a session, the table stays as it was. It fails to add pairs for want of room exactly when
    they do not all fit into the free slots, and otherwise adds them. -/
theorem bounded_and_atomic (capacity : Int) (hcapacity : 0 ≤ capacity) (ops : List Operation) :
    let t := afterAll ops { capacity }
    t.size ≤ capacity ∧
    ∀ op : Operation,
      op.stepwise t = op.perform t ∧
      (op.isAdding → ∀ indexes t', op.perform t = .ok indexes t' →
        ∃ pairs, op.Adds pairs ∧ indexes = t.nextIndexes pairs.length ∧ t' = t.withPairs pairs) ∧
      (op.isAdding ∨ op.isResolving → ∀ e t', op.perform t = .error e t' → t' = t) ∧
      ∀ pairs, op.Adds pairs →
        ((∃ e t', op.perform t = .error e t' ∧ e.isCapacity) ↔ capacity - t.size < pairs.length) ∧
        (pairs.length ≤ capacity - t.size → ∃ indexes t', op.perform t = .ok indexes t') := by
  intro t
  have hempty : ({ capacity } : Table).Fits capacity := ⟨rfl, hcapacity⟩
  obtain ⟨hkept, hsize⟩ : t.Fits capacity := fits_afterAll ops hempty
  refine ⟨hsize, fun op => ⟨congrFun op.stepwise_eq_perform t, ?added, fun hop _ _ h =>
    Operation.eq_of_perform_error hop h, ?full⟩⟩
  case added =>
    intro hop indexes t' h
    obtain ⟨pairs, hadds⟩ := Operation.adds_of_perform hop h
    have hadd := Operation.perform_of_adds hadds t
    by_cases hroom : t.room < pairs.length
    · rw [if_pos hroom] at hadd
      obtain ⟨e, -, hrefused⟩ := hadd
      cases h.symm.trans hrefused
    · rw [if_neg hroom] at hadd
      cases h.symm.trans hadd
      exact ⟨pairs, hadds, rfl, rfl⟩
  case full =>
    intro pairs hadds
    have hadd := Operation.perform_of_adds hadds t
    rw [room, hkept] at hadd
    by_cases hroom : capacity - t.size < pairs.length
    · rw [if_pos hroom] at hadd
      obtain ⟨e, he, hrefused⟩ := hadd
      exact ⟨⟨fun _ => hroom, fun _ => ⟨e, t, hrefused, he⟩⟩, fun hfits => by omega⟩
    · rw [if_neg hroom] at hadd
      refine ⟨⟨?_, fun hfull => absurd hfull hroom⟩, fun _ => ⟨_, _, hadd⟩⟩
      rintro ⟨e, t', hrefused, -⟩
      cases hrefused.symm.trans hadd

/-- Two groups fit behind one that was resolved in a table of three, and three groups do not. -/
theorem token_refused_at_capacity :
    let t := afterAll [.put [(none, "225.1.2.3")], .resolve 0 1234] { capacity := 3 }
    (∃ indexes t', (Operation.expand "232.1.1.1+2").perform t = .ok indexes t') ∧
      ∃ e t', (Operation.expand "232.1.1.1+3").perform t = .error e t' ∧ e.isCapacity :=
  have h := (bounded_and_atomic 3 (by decide) [.put [(none, "225.1.2.3")], .resolve 0 1234]).2
  have two : Token.Groups "232.1.1.1+2" (⟨none, "232.1.1.1", 2⟩, .v4 0xe8010101) :=
    ⟨by decide +kernel, by decide, by decide +kernel⟩
  have three : Token.Groups "232.1.1.1+3" (⟨none, "232.1.1.1", 3⟩, .v4 0xe8010101) :=
    ⟨by decide +kernel, by decide, by decide +kernel⟩
  ⟨((h (.expand "232.1.1.1+2")).2.2.2 _ (.expand two)).2 (by decide +kernel),
    ((h (.expand "232.1.1.1+3")).2.2.2 _ (.expand three)).1.2 (by decide +kernel)⟩

end Table

end Multicast
