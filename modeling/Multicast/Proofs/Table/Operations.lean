import Multicast.Proofs.Act.Outcome
import Multicast.Proofs.Table.Build

/-!
# `Proofs.Table.Operations` — what a table is asked for, as a whole and item by item

A table is added to, resolved, aged and cleared in any order. Its operations go item by item: pairs
are added one at a time, the endpoints of a session are written one after the other, and sessions are
resolved in turn. What was done in front of a failure stays done. Nevertheless adding and resolving
a session are all or nothing, because everything that can fail is checked before the first item, and
the checks agree.

## Contents
- **Operations.** `Operation`, with `Operation.perform`, what a table makes of one, and
  `Operation.leaves`, the table behind it.
- **Item by item.** `Step` and `Operation.stepwise`, in which each item is a step of its own.
- **As a whole.** What the steps come to: `Step.put_eq`, `Step.resolve_eq`, `Step.restart_eq` and
  `Step.resolveAll_eq`, then `stepwise_eq_perform` for an operation.
-/

namespace Multicast

/-- Only an empty text has no last code point. -/
theorem Text.getLast?_points_eq_none_iff (text : String) :
    (Text.points text.toList).getLast? = none ↔ text = "" := by
  rw [List.getLast?_eq_none_iff]
  constructor
  · intro h
    cases hlist : text.toList with
    | nil => exact String.toList_eq_nil_iff.1 hlist
    | cons c cs =>
        rw [hlist] at h
        cases cs with
        | nil => simp [Text.points] at h
        | cons d cs =>
            unfold Text.points at h
            split at h <;> cases h
  · rintro rfl
    rfl

/-- The endpoints that a session is resolved to. The source's has to be of the group's family. -/
def Session.endpoints (port : Int) (s : Session) :
    Except SetupError (Endpoint × Option Endpoint) := do
  let target ← Endpoint.read s.group port
  match s.source? with
  | none => .ok (target, none)
  | some source =>
    match Endpoint.readAs target.family source 0 with
    | .ok origin => .ok (target, some origin)
    | .error _ => .error (.badSource source s.group)

theorem Session.resolve_eq_endpoints (port : Int) (s : Session) :
    s.resolve port = (s.endpoints port).map fun (target, origin) =>
      { s with target := some target, origin } := by
  unfold Session.resolve Session.endpoints Endpoint.read Endpoint.readAs Address.read?
  cases Address.readAs? (Family.ofText s.group) s.group with
  | none => rfl
  | some target =>
      dsimp only [bind, Except.bind]
      cases s.source? with
      | none => rfl
      | some source =>
          have hfamily : Endpoint.family ⟨target, port⟩ = target.family := rfl
          dsimp only
          rw [hfamily]
          cases Address.readAs? target.family source with
          | none => rfl
          | some origin => rfl

/-- A session that can be resolved has a group. -/
theorem Session.group_ne_empty {port : Int} {s d : Session} (h : s.resolve port = .ok d) :
    d.group ≠ "" := by
  obtain ⟨target, origin, hread, -, rfl⟩ := resolve_eq_ok_iff.1 h
  have hnone : Address.read? "" = none := by decide +kernel
  intro hempty
  rw [show s.group = "" from hempty, hnone] at hread
  cases hread

namespace Table

/-! ## Operations -/

/-- What a table is asked for. -/
inductive Operation where
  /-- A session more. -/
  | add (source : Option String) (group : String)
  /-- A session for each pair. -/
  | put (pairs : List Pair)
  /-- The sessions that a group token stands for. -/
  | expand (token : String)
  /-- The endpoints of the session at an index. -/
  | resolve (i port : Int)
  | resolveAll (port : Int)
  /-- A blank history for the session at an index. -/
  | restart (i : Int)
  | age
  | clear
deriving DecidableEq

/-- A step on a table. One that fails leaves the table as it was at the point of failure. -/
abbrev Step := EStateM Fault Table

/-- A change that is made as a whole, or refused. -/
def Step.change {α : Type} (f : Table → Except Fault (α × Table)) : Step α := fun t =>
  match f t with
  | .ok (a, t') => .ok a t'
  | .error e => .error e t

/-- A change after which a fault may be reported. -/
def Step.settle (f : Table → Table × Option Fault) : Step Unit := fun t =>
  match f t with
  | (t', none) => .ok () t'
  | (t', some e) => .error e t'

/-- A refused setup as a fault. -/
def refused {α : Type} (r : Except SetupError α) : Except Fault α := r.mapError .setup

namespace Operation

/-- **What a table makes of an operation.** It tells the indexes of what was added. -/
def perform : Operation → Step (List Nat)
  | add source group => .change fun t => (refused (t.add? source group)).map fun (i, t) => ([i], t)
  | put pairs => .change fun t => refused (t.addAll? pairs)
  | expand token => .change (·.addToken? token)
  | resolve i port => .change fun t => (t.resolve i port).map fun t => ([], t)
  | resolveAll port => do
    Step.settle fun t => ((t.resolveAll port).1, (t.resolveAll port).2.map .setup)
    pure []
  | restart i => do
    Step.settle (·.restart i)
    pure []
  | age => .change fun t => .ok ([], t.age)
  | clear => .change fun t => .ok ([], t.clear)

/-- The table that an operation leaves, however it ends. -/
def leaves (op : Operation) (t : Table) : Table :=
  match op.perform t with
  | .ok _ t' => t'
  | .error _ t' => t'

end Operation

/-- The table behind operations, each of which succeeds or fails. -/
def afterAll (ops : List Operation) (t : Table) : Table := ops.foldl (fun t op => op.leaves t) t

section

variable {t : Table} {i : Int}

theorem get?_eq {k : Nat} (hk : t.position? i = some k) : t.get? i = t.sessions[k]? := by
  rw [get?, hk]
  rfl

theorem position?_of_get? {s : Session} (h : t.get? i = some s) :
    ∃ k, t.position? i = some k ∧ t.sessions[k]? = some s := by
  obtain ⟨k, hk, hs⟩ := Option.bind_eq_some_iff.1 h
  exact ⟨k, hk, hs⟩

/-- There are sessions at all positions. -/
theorem position?_of_get?_none (h : t.get? i = none) : t.position? i = none := by
  cases hposition : t.position? i with
  | none => rfl
  | some k =>
      have hk := hposition
      simp only [position?, Option.ite_none_right_eq_some, Option.some.injEq] at hk
      have hlt : k < t.size := by omega
      rw [get?_eq hposition, List.getElem?_eq_getElem hlt] at h
      cases h

/-- The sessions of a token are added like those of its pairs. -/
theorem addToken?_of_pairs {token : String} {pairs : List Pair} (h : t.pairs token = .ok pairs) :
    t.addToken? token = refused (t.addAll? pairs) := by
  unfold addToken?
  rw [h]
  dsimp only
  cases t.addAll? pairs with
  | error e => rfl
  | ok r => rfl

theorem addToken?_of_error {token : String} {e : Fault} (h : t.pairs token = .error e) :
    t.addToken? token = .error e := by
  unfold addToken?
  rw [h]

theorem resolve_of_none (h : t.get? i = none) (port : Int) :
    t.resolve i port = .error (.noSession i) := by
  rw [Table.resolve, position?_of_get?_none h]

/-- Resolving the session at an index resolves it, and counts its family. -/
theorem resolve_of_some {k : Nat} {s : Session} (hk : t.position? i = some k)
    (hs : t.sessions[k]? = some s) (port : Int) :
    t.resolve i port = match s.resolve port with
      | .error e => .error (.setup e)
      | .ok d => .ok ({ t with sessions := t.sessions.set k d }.countResolved d) := by
  unfold Table.resolve
  cases hresolve : s.resolve port with
  | error e => simp only [hk, hs, hresolve]
  | ok d => simp only [hk, hs, hresolve]

theorem modify_eq_set {k : Nat} {s : Session} (hs : t.sessions[k]? = some s)
    (f : Session → Session) : t.sessions.modify k f = t.sessions.set k (f s) := by
  obtain ⟨hlt, rfl⟩ := List.getElem?_eq_some_iff.1 hs
  exact List.modify_eq_set_get f hlt

theorem restart_of_none (h : t.get? i = none) : t.restart i = (t, some (.noSession i)) := by
  rw [Table.restart, position?_of_get?_none h]

theorem restart_of_some {k : Nat} {s : Session} (hk : t.position? i = some k)
    (hs : t.sessions[k]? = some s) :
    t.restart i = ({ t with sessions := t.sessions.set k s.restart },
      if s.group = "" then some .emptyGroup else none) := by
  rw [Table.restart, hk]
  dsimp only
  rw [hs, modify_eq_set hs]
  simp

end

theorem countResolved_withSessions (d : Session) (t : Table) (sessions : List Session) :
    ({ t with sessions } : Table).countResolved d = { t.countResolved d with sessions } := by
  unfold countResolved
  cases d.target with
  | none => rfl
  | some target =>
      dsimp only
      cases target.family <;> rfl

/-- A resolved session counts for its family. -/
theorem countResolved_eq (d : Session) (t : Table) :
    t.countResolved d =
      { t with need4 := t.need4 + [d].countP (·.isOf .inet)
               need6 := t.need6 + [d].countP (·.isOf .inet6) } := foldl_countResolved t [d]

/-- The resolved forms of sessions, up to the first that cannot be resolved. -/
def resolvedForms (port : Int) (sessions : List Session) : List Session :=
  (resolveEach port sessions).2.1

/-- Sessions are resolved and restarted up to the first that cannot be resolved. -/
theorem resolveEach_eq (port : Int) (sessions : List Session) :
    List.Forall₂ (fun s d => s.resolve port = .ok d)
      (sessions.take (resolvedForms port sessions).length) (resolvedForms port sessions) ∧
    (resolveEach port sessions).1 = (resolvedForms port sessions).map Session.restart ++
      sessions.drop (resolvedForms port sessions).length := by
  unfold resolvedForms
  induction sessions with
  | nil => exact ⟨.nil, rfl⟩
  | cons s sessions ih =>
      obtain ⟨hds, heq⟩ := ih
      rw [resolveEach]
      cases hd : s.resolve port with
      | error e => exact ⟨.nil, rfl⟩
      | ok d => exact ⟨.cons hd hds, congrArg (d.restart :: ·) heq⟩

/-! ## Item by item -/

namespace Step

/-- Adds one session, unless the table is full. -/
def add (source : Option String) (group : String) : Step Nat :=
  change fun t => refused (t.add? source group)

/-- Adds sessions one at a time. -/
def addEach : List Pair → Step (List Nat)
  | [] => pure []
  | (source, group) :: pairs => do
    let index ← add source group
    let indexes ← addEach pairs
    pure (index :: indexes)

/-- Adds sessions one at a time, if there is room for all of them. -/
def put (pairs : List Pair) : Step (List Nat) := do
  let t ← get
  if t.capacity < t.size + pairs.length then throw (.setup (.tooMany pairs.length t.capacity))
  addEach pairs

/-- Adds the sessions of a token one at a time, if the token can be expanded. -/
def expand (token : String) : Step (List Nat) := do
  match (← get).pairs token with
  | .error e => throw e
  | .ok pairs => put pairs

/-- Changes the session at an index. -/
def alter (i : Int) (f : Session → Session) : Step Unit :=
  change fun t => (t.modify? i f).map fun t => ((), t)

/-- Reads both endpoints of a session, then writes down one after the other, and counts the family. -/
def resolve (i port : Int) : Step Unit := do
  match (← get).get? i with
  | none => throw (.noSession i)
  | some s =>
    match s.endpoints port with
    | .error e => throw (.setup e)
    | .ok (target, origin) =>
      alter i ({ · with target := some target })
      alter i ({ · with origin })
      modify (count target.family)

/-- Blanks the history of a session, then looks for the character that its spinner starts at. -/
def restart (i : Int) : Step Unit := do
  match (← get).get? i with
  | none => throw (.noSession i)
  | some s =>
    alter i ({ · with history := .blank })
    match (Text.points s.group.toList).getLast? with
    | none => throw .emptyGroup
    | some p => alter i ({ · with spin := p })

/-- Resolves and restarts a number of sessions in turn, the first of which is at a position. -/
def resolveFrom (port : Int) (position : Nat) : Nat → Step Unit
  | 0 => pure ()
  | n + 1 => do
    resolve position port
    restart position
    resolveFrom port (position + 1) n

/-- Resolves and restarts all sessions in turn. -/
def resolveAll (port : Int) : Step Unit := do
  resolveFrom port 0 (← get).size

end Step

/-- An operation item by item, each of which may fail. -/
def Operation.stepwise : Operation → Step (List Nat)
  | add source group => do
    let index ← Step.add source group
    pure [index]
  | put pairs => Step.put pairs
  | expand token => Step.expand token
  | resolve i port => do
    Step.resolve i port
    pure []
  | resolveAll port => do
    Step.resolveAll port
    pure []
  | restart i => do
    Step.restart i
    pure []
  | age => do
    modify Table.age
    pure []
  | clear => do
    modify Table.clear
    pure []

/-! ## As a whole -/

namespace Step

variable {α β : Type} {t t' : Table}

theorem bind_of_ok {x : Step α} {a : α} (h : x t = .ok a t') (f : α → Step β) :
    (x >>= f) t = f a t' := by
  show EStateM.bind x f t = _
  unfold EStateM.bind
  rw [h]

theorem bind_of_error {x : Step α} {e : Fault} (h : x t = .error e t') (f : α → Step β) :
    (x >>= f) t = .error e t' := by
  show EStateM.bind x f t = _
  unfold EStateM.bind
  rw [h]

theorem get_bind (f : Table → Step β) (t : Table) : (get >>= f) t = f t t := rfl

theorem change_of_ok {f : Table → Except Fault (α × Table)} {a : α} (h : f t = .ok (a, t')) :
    change f t = .ok a t' := by
  unfold change
  rw [h]

theorem change_of_error {f : Table → Except Fault (α × Table)} {e : Fault} (h : f t = .error e) :
    change f t = .error e t := by
  unfold change
  rw [h]

theorem change_congr {f g : Table → Except Fault (α × Table)} (h : f t = g t) :
    change f t = change g t := by
  unfold change
  rw [h]

theorem settle_of_none {f : Table → Table × Option Fault} (h : f t = (t', none)) :
    settle f t = .ok () t' := by
  unfold settle
  rw [h]

theorem settle_of_some {f : Table → Table × Option Fault} {e : Fault} (h : f t = (t', some e)) :
    settle f t = .error e t' := by
  unfold settle
  rw [h]

/-- Sessions fit one at a time if they all fit. -/
theorem addEach_apply {pairs : List Pair} (h : t.size + pairs.length ≤ t.capacity) :
    addEach pairs t = .ok ((List.range pairs.length).map (t.size + ·))
      { t with sessions := t.sessions ++ sessionsOf pairs } := by
  -- The room is for the pairs that are left, so each of them finds a free slot when its turn comes.
  induction pairs generalizing t with
  | nil => simp [addEach, sessionsOf]; rfl
  | cons pair pairs ih =>
      obtain ⟨source, group⟩ := pair
      have hlength : (((source, group) :: pairs).length : Int) = pairs.length + 1 := by simp
      let t₁ : Table := { t with sessions := t.sessions ++ [{ source, group }] }
      have hsize : t₁.size = t.size + 1 := List.length_append
      have hadd : add source group t = .ok t.size t₁ := by
        refine change_of_ok ?_
        unfold add?
        rw [if_neg (by omega)]
        rfl
      have hrest : t₁.size + pairs.length ≤ t₁.capacity := by
        rw [hsize]
        show _ ≤ t.capacity
        push_cast
        omega
      rw [addEach, bind_of_ok hadd, bind_of_ok (ih hrest), hsize, List.length_cons,
        List.range_succ_eq_map, List.map_cons, List.map_map]
      simp only [EStateM.pure, pure, sessionsOf, List.map_cons, Nat.add_zero, t₁, List.append_assoc,
        List.singleton_append, EStateM.Result.ok.injEq, List.cons.injEq, true_and, and_true]
      refine List.map_congr_left fun k _ => ?_
      show t.size + 1 + k = t.size + (k + 1)
      omega

/-- **Adding one at a time behind the check adds all or nothing.** -/
theorem put_eq (pairs : List Pair) : put pairs = change fun t => refused (t.addAll? pairs) := by
  funext t
  unfold put
  rw [get_bind]
  by_cases hfull : t.capacity < t.size + pairs.length
  · have hrefused : t.addAll? pairs = .error (.tooMany pairs.length t.capacity) := if_pos hfull
    rw [if_pos hfull, change_of_error (by rw [hrefused]; rfl)]
    rfl
  · have hadded : t.addAll? pairs = .ok ((List.range pairs.length).map (t.size + ·),
        { t with sessions := t.sessions ++ sessionsOf pairs }) := if_neg hfull
    rw [if_neg hfull, change_of_ok (by rw [hadded]; rfl)]
    exact addEach_apply (Int.not_lt.1 hfull)

theorem expand_eq (token : String) : expand token = change (·.addToken? token) := by
  funext t
  unfold expand
  rw [get_bind]
  cases hpairs : t.pairs token with
  | error e => exact (change_of_error (addToken?_of_error hpairs)).symm
  | ok pairs =>
      dsimp only
      rw [put_eq]
      exact change_congr (addToken?_of_pairs hpairs).symm

theorem alter_apply {i : Int} {k : Nat} {s : Session} (hk : t.position? i = some k)
    (hs : t.sessions[k]? = some s) (f : Session → Session) :
    alter i f t = .ok () { t with sessions := t.sessions.set k (f s) } := by
  refine change_of_ok ?_
  unfold modify?
  rw [hk, ← modify_eq_set hs]
  rfl

/-- A session that was changed before. -/
theorem alter_again {i : Int} {k : Nat} {s : Session} (hk : t.position? i = some k)
    (hs : t.sessions[k]? = some s) (s' : Session) (f : Session → Session) :
    alter i f { t with sessions := t.sessions.set k s' } =
      .ok () { t with sessions := t.sessions.set k (f s') } := by
  have hk' : position? { t with sessions := t.sessions.set k s' } i = some k := by
    rw [← hk]
    unfold position? size
    simp only [List.length_set]
  obtain ⟨hlt, -⟩ := List.getElem?_eq_some_iff.1 hs
  rw [alter_apply hk' (List.getElem?_set_self hlt), List.set_set]

/-- **A session is written to only when both of its endpoints were read.** -/
theorem resolve_eq (i port : Int) :
    resolve i port = change fun t => (t.resolve i port).map fun t => ((), t) := by
  funext t
  unfold resolve
  rw [get_bind]
  cases hs : t.get? i with
  | none =>
      rw [change_of_error (e := .noSession i) (by rw [resolve_of_none hs]; rfl)]
      rfl
  | some s =>
      obtain ⟨k, hk, hsession⟩ := position?_of_get? hs
      have hresolve := resolve_of_some hk hsession port
      rw [s.resolve_eq_endpoints port] at hresolve
      dsimp only
      cases hends : s.endpoints port with
      | error e =>
          rw [hends] at hresolve
          rw [change_of_error (e := .setup e) (by rw [hresolve]; rfl)]
          rfl
      | ok ends =>
          rw [hends] at hresolve
          rw [change_of_ok (by rw [hresolve]; rfl)]
          dsimp only
          rw [bind_of_ok (alter_apply hk hsession _), bind_of_ok (alter_again hk hsession _ _)]
          rfl

/-- **A history is blanked before the group is looked at**, which may turn out to be empty. -/
theorem restart_eq (i : Int) : restart i = settle (·.restart i) := by
  funext t
  unfold restart
  rw [get_bind]
  cases hs : t.get? i with
  | none =>
      rw [settle_of_some (restart_of_none hs)]
      rfl
  | some s =>
      obtain ⟨k, hk, hsession⟩ := position?_of_get? hs
      have hrestart := restart_of_some hk hsession
      dsimp only
      unfold Session.restart at hrestart
      cases hlast : (Text.points s.group.toList).getLast? with
      | none =>
          have hempty := (Text.getLast?_points_eq_none_iff s.group).1 hlast
          rw [hlast, if_pos hempty] at hrestart
          rw [settle_of_some hrestart, bind_of_ok (alter_apply hk hsession _)]
          rfl
      | some p =>
          -- A group with a last code point is not empty, so that nothing is to be reported.
          have hgroup : s.group ≠ "" := by
            intro hempty
            rw [(Text.getLast?_points_eq_none_iff s.group).2 hempty] at hlast
            cases hlast
          rw [hlast, if_neg hgroup] at hrestart
          rw [settle_of_none hrestart, bind_of_ok (alter_apply hk hsession _)]
          exact alter_again hk hsession _ _

/-- The session behind the first ones of a table is at their number. -/
theorem position?_append {before sessions : List Session} {s : Session}
    (h : t.sessions = before ++ s :: sessions) :
    t.position? (before.length : Int) = some before.length ∧ t.sessions[before.length]? = some s := by
  rw [position?_natCast, if_pos (by rw [size, h]; simp), h]
  exact ⟨rfl, by simp⟩

theorem set_append (before sessions : List Session) (s d : Session) :
    (before ++ s :: sessions).set before.length d = before ++ d :: sessions := by
  rw [List.set_append_right _ _ (Nat.le_refl _), Nat.sub_self, List.set_cons_zero]

theorem restart_append (t : Table) (before sessions : List Session) {d : Session}
    (hgroup : d.group ≠ "") :
    restart before.length { t with sessions := before ++ d :: sessions } =
      .ok () { t with sessions := before ++ d.restart :: sessions } := by
  obtain ⟨hk, hs⟩ := position?_append (t := { t with sessions := before ++ d :: sessions }) rfl
  rw [restart_eq]
  refine settle_of_none ?_
  rw [restart_of_some hk hs, if_neg hgroup]
  dsimp only
  rw [set_append]

/-- **Sessions are resolved in turn**, and counted at once or all together. -/
theorem resolveFrom_apply {port : Int} {before sessions : List Session}
    (hsessions : t.sessions = before ++ sessions) :
    resolveFrom port before.length sessions.length t = settle (fun t =>
      ((resolveEach port sessions).2.1.foldl (fun t s => t.countResolved s)
          { t with sessions := before ++ (resolveEach port sessions).1 },
        (resolveEach port sessions).2.2.map .setup)) t := by
  -- On the sessions that are left; those in front of them were resolved, or stay as they are.
  induction sessions generalizing before t with
  | nil =>
      refine (settle_of_none ?_).symm
      show (({ t with sessions := before ++ [] } : Table), none) = (t, none)
      rw [← hsessions]
  | cons s sessions ih =>
      obtain ⟨hk, hs⟩ := position?_append hsessions
      have hresolve := resolve_of_some hk hs port
      rw [List.length_cons, resolveFrom, resolve_eq, resolveEach]
      cases hd : s.resolve port with
      | error e =>
          rw [hd] at hresolve
          rw [bind_of_error (change_of_error (e := .setup e) (by rw [hresolve]; rfl))]
          refine (settle_of_some ?_).symm
          show (({ t with sessions := before ++ s :: sessions } : Table), _) = (t, _)
          rw [← hsessions]
          rfl
      | ok d =>
          rw [hd] at hresolve
          rw [bind_of_ok (change_of_ok (by rw [hresolve]; rfl)), countResolved_withSessions,
            hsessions, set_append,
            bind_of_ok (restart_append _ before sessions (Session.group_ne_empty hd))]
          have hlength : before.length + 1 = (before ++ [d.restart]).length := by simp
          have hmore : before ++ d.restart :: sessions = before ++ [d.restart] ++ sessions := by simp
          rw [hlength, ih hmore]
          generalize resolveEach port sessions = r
          obtain ⟨ss, done, failure⟩ := r
          unfold settle
          dsimp only
          rw [List.foldl_cons, countResolved_withSessions d t (before ++ d.restart :: ss),
            List.append_assoc, List.singleton_append]

/-- Resolving all sessions in turn leaves those in front of a failure resolved. -/
theorem resolveAll_eq (port : Int) : resolveAll port =
    settle fun t => ((t.resolveAll port).1, (t.resolveAll port).2.map .setup) := by
  funext t
  unfold resolveAll
  rw [get_bind]
  have hall : t.sessions = [] ++ t.sessions := rfl
  exact resolveFrom_apply hall

end Step

/-- A change that tells something, and the same change telling something else. -/
theorem Step.change_bind {α β : Type} (f : Table → Except Fault (α × Table)) (g : α → β) :
    (do let a ← change f; pure (g a)) = change fun t => (f t).map fun (a, t) => (g a, t) := by
  funext t
  cases hf : f t with
  | error e =>
      rw [bind_of_error (change_of_error hf), change_of_error (by rw [hf]; rfl)]
  | ok r =>
      obtain ⟨a, t'⟩ := r
      rw [bind_of_ok (change_of_ok hf)]
      refine (change_of_ok ?_).symm
      rw [hf]
      rfl

/-- **Item by item, an operation comes to the same.** -/
theorem Operation.stepwise_eq_perform (op : Operation) : op.stepwise = op.perform := by
  cases op with
  | add source group => exact Step.change_bind _ _
  | put pairs => exact Step.put_eq pairs
  | expand token => exact Step.expand_eq token
  | resolve i port =>
      dsimp only [stepwise, perform]
      rw [Step.resolve_eq, Step.change_bind]
      congr 1
      funext t
      cases t.resolve i port <;> rfl
  | resolveAll port =>
      dsimp only [stepwise, perform]
      rw [Step.resolveAll_eq]
  | restart i =>
      dsimp only [stepwise, perform]
      rw [Step.restart_eq]
  | age => rfl
  | clear => rfl

end Table

end Multicast
