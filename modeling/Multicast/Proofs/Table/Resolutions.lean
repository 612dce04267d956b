import Mathlib.Data.List.Perm.Basic
import Mathlib.Data.List.Dedup
import Multicast.Proofs.Table.Capacity

/-!
# `Proofs.Table.Resolutions` — what the counters of a table count

A table counts a family each time that a session of it is resolved. As long as no session is resolved
a second time, that is the number of resolved sessions of the family. The counters are followed
through all operations beside a list of what was resolved, which no table has.

## Contents
- **Resolutions.** `Operation.resolves`, the positions that an operation resolves, and `resolutions`,
  those since sessions were dropped last.
- **Invariant.** `Tracks`, what the counters and the targets of the sessions say of a list of
  resolutions; `tracks_leaves` for one operation, `tracks_afterAll` for all of them.
- **Result.** `counters_count_resolutions`.
-/

namespace Multicast

/-- Whether a group is an address of a family. -/
def Session.names (family : Family) (s : Session) : Bool :=
  (Address.read? s.group).any (·.family = family)

/-- The address of a resolved session is that of its group. -/
def Session.Sound (s : Session) : Prop :=
  ∀ e, s.target = some e → Address.read? s.group = some e.address

theorem Session.Sound.isOf_eq {s : Session} (h : s.Sound) (family : Family) :
    s.isOf family = (s.target.isSome && s.names family) := by
  unfold isOf names
  cases htarget : s.target with
  | none => rfl
  | some e =>
      rw [h e htarget]
      rfl

/-- Both sessions have the same group, and are resolved alike. -/
structure Session.Kept (s s' : Session) : Prop where
  group : s'.group = s.group
  target : s'.target = s.target

theorem Session.Kept.sound {s s' : Session} (h : s.Kept s') (hs : s.Sound) : s'.Sound := by
  intro e he
  rw [h.group]
  exact hs e (h.target ▸ he)

theorem Session.kept_restart (s : Session) : s.Kept s.restart := by
  refine ⟨?_, s.target_restart⟩
  unfold restart
  split <;> rfl

/-- A session that was resolved is sound, and has its group still. -/
theorem Session.sound_of_resolve {port : Int} {s d : Session} (h : s.resolve port = .ok d) :
    d.Sound ∧ d.target.isSome ∧ d.group = s.group := by
  obtain ⟨target, origin, hread, -, rfl⟩ := resolve_eq_ok_iff.1 h
  refine ⟨?_, rfl, rfl⟩
  intro e he
  cases he
  exact hread

namespace Table

/-! ## Resolutions -/

/-- The positions of the sessions that an operation resolves. -/
def Operation.resolves (t : Table) : Operation → List Nat
  | resolve i port => if (t.resolve i port).isOk then (t.position? i).toList else []
  | resolveAll port => List.range (resolvedForms port t.sessions).length
  | _ => []

/-- The positions that were resolved since sessions were dropped last, behind an operation. -/
def Operation.resolutions (op : Operation) (t : Table) (before : List Nat) : List Nat :=
  if op = .clear then [] else before ++ op.resolves t

/-- The positions that operations resolve since sessions were dropped last, as often as they do. -/
def resolutions : List Operation → Table → List Nat → List Nat
  | [], _, before => before
  | op :: ops, t, before => resolutions ops (op.leaves t) (op.resolutions t before)

/-- Whether there is a session with a property at a position. -/
def has (t : Table) (p : Session → Bool) (k : Nat) : Bool := (t.sessions[k]?).any p

/-! ## Invariant -/

/-- The counters count a list of resolutions by family, and the resolved sessions are those on it. -/
structure Tracks (t : Table) (resolved : List Nat) : Prop where
  need4 : t.need4 = resolved.countP (t.has (·.names .inet))
  need6 : t.need6 = resolved.countP (t.has (·.names .inet6))
  resolved : ∀ k, k ∈ resolved ↔ t.has (·.target.isSome) k
  sound : ∀ s ∈ t.sessions, s.Sound

theorem Tracks.lt_size {t : Table} {resolved : List Nat} (h : t.Tracks resolved) {k : Nat}
    (hk : k ∈ resolved) : k < t.size := by
  have hhas := (h.resolved k).1 hk
  unfold has at hhas
  by_contra hge
  rw [List.getElem?_eq_none (Nat.le_of_not_lt hge)] at hhas
  cases hhas

/-- Sessions that keep their groups name what they named. -/
theorem has_names_eq {t t' : Table} {family : Family} {k : Nat}
    (h : ∃ s s', t.sessions[k]? = some s ∧ t'.sessions[k]? = some s' ∧ s'.group = s.group) :
    t'.has (·.names family) k = t.has (·.names family) k := by
  obtain ⟨s, s', hs, hs', hgroup⟩ := h
  unfold has
  rw [hs, hs']
  simp only [Option.any_some, Session.names, hgroup]

/-- **What a step on a table has to do.** It counts what it resolves, and keeps the groups. -/
theorem Tracks.step {t t' : Table} {before done : List Nat} (h : t.Tracks before)
    (hgroups : ∀ (k : Nat) (s : Session), t.sessions[k]? = some s →
      ∃ s', t'.sessions[k]? = some s' ∧ s'.group = s.group)
    (hneed4 : t'.need4 = t.need4 + done.countP (t'.has (·.names .inet)))
    (hneed6 : t'.need6 = t.need6 + done.countP (t'.has (·.names .inet6)))
    (hresolved : ∀ k, t'.has (·.target.isSome) k ↔ t.has (·.target.isSome) k ∨ k ∈ done)
    (hsound : ∀ s ∈ t'.sessions, s.Sound) : t'.Tracks (before ++ done) := by
  have hbefore : ∀ family, before.countP (t'.has (·.names family)) =
      before.countP (t.has (·.names family)) := by
    intro family
    refine List.countP_congr fun k hk => ?_
    have hlt := h.lt_size hk
    have hs := List.getElem?_eq_getElem (l := t.sessions) hlt
    obtain ⟨s', hs', hgroup⟩ := hgroups k t.sessions[k] hs
    rw [has_names_eq ⟨t.sessions[k], s', hs, hs', hgroup⟩]
  refine ⟨?_, ?_, ?_, hsound⟩
  · rw [List.countP_append, hbefore, hneed4, h.need4]
  · rw [List.countP_append, hbefore, hneed6, h.need6]
  · intro k
    rw [List.mem_append, hresolved, h.resolved]

/-- Sessions that are kept, with unresolved ones behind them. -/
theorem Tracks.of_kept {t t' : Table} {resolved : List Nat} (h : t.Tracks resolved)
    (hneed4 : t'.need4 = t.need4) (hneed6 : t'.need6 = t.need6)
    (hkept : ∀ (k : Nat) (s : Session), t.sessions[k]? = some s →
      ∃ s', t'.sessions[k]? = some s' ∧ s.Kept s')
    (hnew : ∀ k, t.size ≤ k → ∀ s', t'.sessions[k]? = some s' → s'.target = none) :
    t'.Tracks resolved := by
  have htarget : ∀ k, t'.has (·.target.isSome) k ↔ t.has (·.target.isSome) k ∨ k ∈ ([] : List Nat) := by
    intro k
    unfold has
    cases hs : t.sessions[k]? with
    | none =>
        cases hs' : t'.sessions[k]? with
        | none => simp
        | some s' => simp [hnew k (List.getElem?_eq_none_iff.1 hs) s' hs']
    | some s =>
        obtain ⟨s', hs', hkeep⟩ := hkept k s hs
        simp [hs', hkeep.target]
  have hsound : ∀ s ∈ t'.sessions, s.Sound := by
    intro s' hs'
    obtain ⟨k, hk⟩ := List.mem_iff_getElem?.1 hs'
    cases hs : t.sessions[k]? with
    | none =>
        intro e he
        rw [hnew k (List.getElem?_eq_none_iff.1 hs) s' hk] at he
        cases he
    | some s =>
        obtain ⟨_, hsome, hkeep⟩ := hkept k s hs
        cases hk.symm.trans hsome
        exact hkeep.sound (h.sound s (List.mem_of_getElem? hs))
  have hstep := h.step (fun k s hs => by
    obtain ⟨s', hs', hkeep⟩ := hkept k s hs
    exact ⟨s', hs', hkeep.group⟩) hneed4 hneed6 htarget hsound
  rwa [List.append_nil] at hstep

/-- **Sessions that are resolved, whether they were before or not**, and counted. -/
theorem Tracks.of_resolved {t t' : Table} {before done : List Nat} (h : t.Tracks before) (port : Int)
    (hdone : ∀ k ∈ done, ∃ s d s', t.sessions[k]? = some s ∧ s.resolve port = .ok d ∧
      t'.sessions[k]? = some s' ∧ d.Kept s')
    (hother : ∀ k, k ∉ done → t'.sessions[k]? = t.sessions[k]?)
    (hneed4 : t'.need4 = t.need4 + done.countP (t'.has (·.isOf .inet)))
    (hneed6 : t'.need6 = t.need6 + done.countP (t'.has (·.isOf .inet6))) :
    t'.Tracks (before ++ done) := by
  have hnew : ∀ k ∈ done, ∃ s s', t.sessions[k]? = some s ∧ t'.sessions[k]? = some s' ∧
      s'.group = s.group ∧ s'.target.isSome ∧ s'.Sound := by
    intro k hk
    obtain ⟨s, d, s', hs, hd, hs', hkept⟩ := hdone k hk
    obtain ⟨hsound, htarget, hgroup⟩ := Session.sound_of_resolve hd
    exact ⟨s, s', hs, hs', hkept.group.trans hgroup, hkept.target ▸ htarget, hkept.sound hsound⟩
  have hcount : ∀ family, done.countP (t'.has (·.isOf family)) =
      done.countP (t'.has (·.names family)) := by
    intro family
    refine List.countP_congr fun k hk => ?_
    obtain ⟨-, s', -, hs', -, htarget, hsound⟩ := hnew k hk
    unfold has
    rw [hs', Option.any_some, Option.any_some, hsound.isOf_eq, htarget, Bool.true_and]
  rw [hcount] at hneed4 hneed6
  refine h.step ?groups hneed4 hneed6 ?resolved ?sound
  case groups =>
    intro k s hs
    by_cases hk : k ∈ done
    · obtain ⟨_, s', hsome, hs', hgroup, -⟩ := hnew k hk
      cases hs.symm.trans hsome
      exact ⟨s', hs', hgroup⟩
    · exact ⟨s, (hother k hk).trans hs, rfl⟩
  case resolved =>
    intro k
    unfold has
    by_cases hk : k ∈ done
    · obtain ⟨-, s', -, hs', -, htarget, -⟩ := hnew k hk
      rw [hs']
      exact ⟨fun _ => Or.inr hk, fun _ => htarget⟩
    · rw [hother k hk]
      exact ⟨Or.inl, fun hor => hor.resolve_right hk⟩
  case sound =>
    intro s' hmem
    obtain ⟨k, hs'⟩ := List.mem_iff_getElem?.1 hmem
    by_cases hk : k ∈ done
    · obtain ⟨-, _, -, hsome, -, -, hsound⟩ := hnew k hk
      cases hs'.symm.trans hsome
      exact hsound
    · exact h.sound s' (List.mem_of_getElem? ((hother k hk).symm.trans hs'))

theorem countP_range_any {α : Type} (p : α → Bool) (as : List α) :
    (List.range as.length).countP (fun k => (as[k]?).any p) = as.countP p := by
  induction as with
  | nil => rfl
  | cons a as ih =>
      rw [List.length_cons, List.range_succ_eq_map, List.countP_cons, List.countP_cons,
        List.countP_map, ← ih]
      rfl

/-- One session is resolved. -/
theorem Tracks.resolve {t : Table} {resolved : List Nat} (h : t.Tracks resolved) {port : Int}
    {k : Nat} {s d : Session} (hs : t.sessions[k]? = some s) (hd : s.resolve port = .ok d) :
    (({ t with sessions := t.sessions.set k d } : Table).countResolved d).Tracks (resolved ++ [k]) := by
  have hself : (t.sessions.set k d)[k]? = some d :=
    List.getElem?_set_self (List.getElem?_eq_some_iff.1 hs).1
  have hone : ∀ family, [d].countP (·.isOf family) =
      [k].countP fun k => ((t.sessions.set k d)[k]?).any (·.isOf family) := by
    intro family
    rw [List.countP_singleton, List.countP_singleton, hself]
    rfl
  rw [countResolved_withSessions, countResolved_eq]
  refine h.of_resolved port ?_ ?_ (congrArg (t.need4 + ·) (hone .inet))
    (congrArg (t.need6 + ·) (hone .inet6))
  · intro j hj
    obtain rfl := List.mem_singleton.1 hj
    exact ⟨s, d, d, hs, hd, hself, rfl, rfl⟩
  · intro j hj
    exact List.getElem?_set_ne fun hk => hj (List.mem_singleton.2 hk.symm)

/-- The first sessions are resolved, and restarted. -/
theorem Tracks.resolveFirst {t : Table} {resolved : List Nat} (h : t.Tracks resolved) {port : Int}
    {ds : List Session}
    (hds : List.Forall₂ (fun s d => s.resolve port = .ok d) (t.sessions.take ds.length) ds) :
    ({ t with sessions := ds.map Session.restart ++ t.sessions.drop ds.length
              need4 := t.need4 + ds.countP (·.isOf .inet)
              need6 := t.need6 + ds.countP (·.isOf .inet6) } : Table).Tracks
      (resolved ++ List.range ds.length) := by
  have hlength := hds.length_eq
  rw [List.length_take] at hlength
  have hfirst : ∀ k, k < ds.length → (ds.map Session.restart ++ t.sessions.drop ds.length)[k]? =
      (ds[k]?).map Session.restart := by
    intro k hk
    rw [List.getElem?_append_left (by rwa [List.length_map]), List.getElem?_map]
  have hcount : ∀ family, ds.countP (·.isOf family) = (List.range ds.length).countP fun k =>
      ((ds.map Session.restart ++ t.sessions.drop ds.length)[k]?).any (·.isOf family) := by
    intro family
    rw [← countP_range_any]
    refine List.countP_congr fun k hk => ?_
    rw [hfirst k (List.mem_range.1 hk)]
    cases ds[k]? with
    | none => rfl
    | some d => simp
  refine h.of_resolved port ?_ ?_ (congrArg (t.need4 + ·) (hcount .inet))
    (congrArg (t.need6 + ·) (hcount .inet6))
  · intro k hk
    have hlt := List.mem_range.1 hk
    have hsession : k < t.sessions.length := by omega
    have hd := hds.get (by rw [List.length_take]; omega) hlt
    refine ⟨t.sessions[k], ds[k], ds[k].restart, List.getElem?_eq_getElem hsession, ?_, ?_,
      ds[k].kept_restart⟩
    · simpa using hd
    · dsimp only
      rw [hfirst k hlt, List.getElem?_eq_getElem hlt]
      rfl
  · intro k hk
    have hge : ds.length ≤ k := Nat.le_of_not_lt fun hlt => hk (List.mem_range.2 hlt)
    dsimp only
    rw [List.getElem?_append_right (by rwa [List.length_map]), List.length_map, List.getElem?_drop,
      Nat.add_sub_cancel' hge]

/-- Every session is changed, but kept. -/
theorem Tracks.of_map {t t' : Table} {resolved : List Nat} (h : t.Tracks resolved)
    (f : Nat → Session → Session) (hf : ∀ k s, Session.Kept s (f k s))
    (hsessions : ∀ k, t'.sessions[k]? = (t.sessions[k]?).map (f k)) (hneed4 : t'.need4 = t.need4)
    (hneed6 : t'.need6 = t.need6) : t'.Tracks resolved := by
  refine h.of_kept hneed4 hneed6 ?_ ?_
  · intro k s hs
    exact ⟨f k s, by rw [hsessions, hs]; rfl, hf k s⟩
  · intro k hk s' hs'
    rw [hsessions, List.getElem?_eq_none hk] at hs'
    cases hs'

/-- Sessions that were added are not resolved yet. -/
theorem Tracks.withPairs {t : Table} {resolved : List Nat} (h : t.Tracks resolved)
    (pairs : List Pair) : (t.withPairs pairs).Tracks resolved := by
  refine h.of_kept rfl rfl ?_ ?_
  · intro k s hs
    have hlt := (List.getElem?_eq_some_iff.1 hs).1
    exact ⟨s, (List.getElem?_append_left hlt).trans hs, rfl, rfl⟩
  · intro k hk s' hs'
    rw [Table.withPairs, List.getElem?_append_right hk] at hs'
    obtain ⟨pair, -, rfl⟩ := List.mem_map.1 (List.mem_of_getElem? hs')
    rfl

/-- Without sessions there is nothing to count. -/
theorem Tracks.of_empty {t : Table} (hsessions : t.sessions = []) (hneed4 : t.need4 = 0)
    (hneed6 : t.need6 = 0) : t.Tracks [] := by
  refine ⟨hneed4, hneed6, ?_, ?_⟩
  · intro k
    simp [has, hsessions]
  · intro s hs
    simp [hsessions] at hs

/-- **Every operation counts what it resolves.** -/
theorem Operation.tracks_leaves {t : Table} {resolved : List Nat} (h : t.Tracks resolved)
    (op : Operation) : (op.leaves t).Tracks (op.resolutions t resolved) := by
  by_cases hadding : op.isAdding
  · have hnone : op.resolutions t resolved = resolved := by
      cases op with
      | add | put | expand => exact List.append_nil resolved
      | resolve | resolveAll | restart | age | clear => cases hadding
    rw [hnone]
    rcases leaves_of_isAdding hadding t with hleaves | ⟨pairs, -, hleaves⟩
    · rwa [hleaves]
    · rw [hleaves]
      exact h.withPairs pairs
  cases op with
  | add | put | expand => exact absurd rfl hadding
  | resolve i port =>
      rcases leaves_resolve i port t with ⟨e, herror, hleaves⟩ | ⟨k, s, d, hk, hs, hd, hok, hleaves⟩
      · have hnone : (Operation.resolve i port).resolutions t resolved = resolved := by
          simp [resolutions, resolves, herror, Except.isOk, Except.toBool]
        rwa [hnone, hleaves]
      · have hone : (Operation.resolve i port).resolutions t resolved = resolved ++ [k] := by
          simp [resolutions, resolves, hok, Except.isOk, Except.toBool, hk]
        rw [hone, hleaves]
        exact h.resolve hs hd
  | resolveAll port =>
      rw [leaves_resolveAll]
      exact h.resolveFirst (resolveEach_eq port t.sessions).1
  | restart i =>
      have hnone : (Operation.restart i).resolutions t resolved = resolved := List.append_nil resolved
      rw [hnone]
      rcases leaves_restart i t with hleaves | ⟨k, hleaves⟩
      · rwa [hleaves]
      · rw [hleaves]
        refine h.of_map (fun j s => if k = j then s.restart else s) ?_ ?_ rfl rfl
        · intro j s
          by_cases hj : k = j
          · rw [if_pos hj]
            exact s.kept_restart
          · rw [if_neg hj]
            exact ⟨rfl, rfl⟩
        · exact fun j => List.getElem?_modify ..
  | age =>
      have hnone : Operation.age.resolutions t resolved = resolved := List.append_nil resolved
      rw [hnone]
      have hsessions : ∀ k, t.age.sessions[k]? = (t.sessions[k]?).map Session.age :=
        fun k => List.getElem?_map ..
      exact h.of_map (fun _ => Session.age) (fun _ s => ⟨rfl, rfl⟩) hsessions rfl rfl
  | clear => exact Tracks.of_empty (t := t.clear) rfl rfl rfl

theorem tracks_afterAll (ops : List Operation) {t : Table} {resolved : List Nat}
    (h : t.Tracks resolved) : (afterAll ops t).Tracks (resolutions ops t resolved) := by
  induction ops generalizing t resolved with
  | nil => exact h
  | cons op ops ih => exact ih (op.tracks_leaves h)

/-! ## Counting sessions -/

/-- A session is of a family if it was resolved and its group is. -/
theorem Tracks.has_isOf {t : Table} {resolved : List Nat} (h : t.Tracks resolved) (family : Family)
    (k : Nat) :
    t.has (·.isOf family) k = (t.has (·.names family) k && t.has (·.target.isSome) k) := by
  unfold has
  cases hs : t.sessions[k]? with
  | none => rfl
  | some s =>
      have hsound := h.sound s (List.mem_of_getElem? hs)
      rw [Option.any_some, Option.any_some, Option.any_some, hsound.isOf_eq, Bool.and_comm]

/-- What was resolved is counted by family. -/
theorem Tracks.countP_resolved {t : Table} {resolved : List Nat} (h : t.Tracks resolved)
    (family : Family) :
    resolved.countP (t.has (·.names family)) = resolved.countP (t.has (·.isOf family)) := by
  refine List.countP_congr fun k hk => ?_
  rw [h.has_isOf, (h.resolved k).1 hk, Bool.and_true]

/-- The resolved sessions of a family are those on the list, each of them once. -/
theorem Tracks.countP_isOf {t : Table} {resolved : List Nat} (h : t.Tracks resolved)
    (family : Family) :
    t.sessions.countP (·.isOf family) = resolved.dedup.countP (t.has (·.names family)) := by
  -- Neither list has a position twice, and both have the positions of the resolved sessions.
  have hperm : ((List.range t.size).filter (t.has (·.target.isSome))).Perm resolved.dedup := by
    refine (List.perm_ext_iff_of_nodup (List.nodup_range.filter _) (List.nodup_dedup _)).2 fun k => ?_
    rw [List.mem_filter, List.mem_range, List.mem_dedup, h.resolved]
    exact ⟨And.right, fun hk => ⟨h.lt_size ((h.resolved k).2 hk), hk⟩⟩
  rw [← hperm.countP_eq, List.countP_filter, ← countP_range_any]
  exact List.countP_congr fun k _ => by rw [← h.has_isOf]; rfl

/-- A group that was resolved is of one of both families. -/
theorem Tracks.length_eq {t : Table} {resolved : List Nat} (h : t.Tracks resolved) (ks : List Nat)
    (hks : ∀ k ∈ ks, k ∈ resolved) :
    ks.length = ks.countP (t.has (·.names .inet)) + ks.countP (t.has (·.names .inet6)) := by
  rw [List.length_eq_countP_add_countP (t.has (·.names .inet))]
  congr 1
  refine List.countP_congr fun k hk => ?_
  have hresolved := (h.resolved k).1 (hks k hk)
  unfold has at hresolved ⊢
  cases hs : t.sessions[k]? with
  | none =>
      rw [hs] at hresolved
      cases hresolved
  | some s =>
      rw [hs, Option.any_some] at hresolved
      obtain ⟨e, he⟩ := Option.isSome_iff_exists.1 hresolved
      have hread := h.sound s (List.mem_of_getElem? hs) e he
      simp only [Option.any_some, Session.names, hread]
      cases e.address.family <;> simp

/-- **The counters are exact as long as no session is resolved a second time**, and no longer. -/
theorem Tracks.exact_iff {t : Table} {resolved : List Nat} (h : t.Tracks resolved) :
    (t.need4 = t.sessions.countP (·.isOf .inet) ∧ t.need6 = t.sessions.countP (·.isOf .inet6)) ↔
      resolved.Nodup := by
  rw [h.countP_isOf, h.countP_isOf, h.need4, h.need6]
  constructor
  · rintro ⟨h4, h6⟩
    -- A group is of one family, so that lists with the same counts have the same length.
    have hlength : resolved.dedup.length = resolved.length := by
      rw [h.length_eq resolved.dedup fun k hk => List.mem_dedup.1 hk,
        h.length_eq resolved fun _ hk => hk, h4, h6]
    rw [← (List.dedup_sublist resolved).eq_of_length hlength]
    exact List.nodup_dedup resolved
  · intro hnodup
    rw [List.dedup_eq_self.2 hnodup]
    exact ⟨rfl, rfl⟩

/-- **The counters of a table count its resolutions.** Whatever operations a table has seen,
    successful or not: its counters are how often sessions of either family were resolved since
    sessions were dropped last, and every resolved session was. So they are the numbers of resolved
    sessions exactly when no session was resolved a second time. -/
theorem counters_count_resolutions (capacity : Int) (ops : List Operation) :
    let t := afterAll ops { capacity }
    let resolved := resolutions ops { capacity } []
    t.need4 = resolved.countP (t.has (·.isOf .inet)) ∧
    t.need6 = resolved.countP (t.has (·.isOf .inet6)) ∧
    (∀ k, k ∈ resolved ↔ ∃ s, t.sessions[k]? = some s ∧ s.target.isSome) ∧
    (resolved.Nodup ↔
      t.need4 = t.sessions.countP (·.isOf .inet) ∧ t.need6 = t.sessions.countP (·.isOf .inet6)) := by
  intro t resolved
  have h : t.Tracks resolved := tracks_afterAll ops (Tracks.of_empty rfl rfl rfl)
  refine ⟨h.need4.trans (h.countP_resolved .inet), h.need6.trans (h.countP_resolved .inet6),
    fun k => ?_, h.exact_iff.symm⟩
  rw [h.resolved]
  unfold has
  rw [Option.any_eq_true]

/-- A session that is resolved twice is counted twice. -/
theorem resolved_again_is_counted_again :
    let t := afterAll [.add none "225.1.2.3", .resolve 0 1234, .resolve 0 1234] {}
    t.need4 = 2 ∧ t.sessions.countP (·.isOf .inet) = 1 := by
  decide +kernel

end Table

end Multicast
