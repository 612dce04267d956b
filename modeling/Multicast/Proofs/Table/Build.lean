import Mathlib.Algebra.Ring.Int.Defs
import Mathlib.Data.List.Forall2
import Multicast.Proofs.Token.Expansion
import Multicast.Table

/-!
# `Proofs.Table.Build` — what a table is built from its tokens

A token asks for consecutive groups from a first address on, which may be restricted to a source. A
table is built exactly when every token asks for something and all of it fits; it then holds one
resolved session for each group asked for, in the order of the tokens. The groups behind the first
of a token go through their printed form, so this rests on `Address.read?_text`.

## Contents
- **Requests.** `Request`, and `Token.Asks`, what a token asks for; `Octets.countOn`, a step of
  addresses on their bytes (`packed_advance`); `Request.MetBy`, the session of one group.
- **Tokens.** `Token.expand_eq_ok_iff`, then `expandAll_of_groups` and `groups_of_expandAll`.
- **Resolving.** `Session.resolve_eq_ok_iff`, then `resolveEach_of_forall₂` and
  `forall₂_of_resolveEach`.
- **Building.** `build_of_asks` and `asks_of_build`, which make `build_succeeds_iff_and_meets`;
  `count_of_build`, since nothing was counted yet.
-/

namespace Multicast

/-! ## Requests -/

/-- What a group token asks for. -/
structure Request where
  /-- The source that the groups are restricted to. -/
  origin : Option Address
  first : Address
  /-- The number of groups. -/
  count : Nat

/-- A source text names an address of a family; without a text there is no source. -/
def NamesSource (family : Family) (text : Option String) (origin : Option Address) : Prop :=
  match text with
  | none => origin = none
  | some text => ∃ a, Address.readAs? family text = some a ∧ origin = some a

theorem NamesSource.unique {family : Family} {text : Option String} {origin origin' : Option Address}
    (h : NamesSource family text origin) (h' : NamesSource family text origin') :
    origin = origin' := by
  cases text with
  | none => exact Eq.trans h (Eq.symm h')
  | some text =>
      obtain ⟨a, ha, rfl⟩ := h
      obtain ⟨a', ha', rfl⟩ := h'
      exact ha.symm.trans ha'

/-- The token has the parts of a request: a count of at least one, a group that is an address of the
    family that its text shows, and no source or one of the same family. -/
def Token.Asks (token : String) (r : Request) : Prop :=
  ∃ parts, Token.read token = .ok parts ∧ parts.count = r.count ∧ 1 ≤ r.count ∧
    Address.read? parts.group = some r.first ∧ NamesSource r.first.family parts.source r.origin

/-- Bytes with a number added to the last four of them, modulo `2 ^ 32`. -/
def Octets.countOn (k : Nat) (bs : Octets) : Octets :=
  bs.take (bs.length - 4) ++ bigEndian 4 ((ofBigEndian (bs.drop (bs.length - 4)) + k) % 2 ^ 32)

/-- Addresses are stepped on their last four bytes. -/
theorem packed_advance (a : Address) (k : Nat) :
    (a.advance k).packed = Octets.countOn k a.packed := by
  have hlow : ∀ host : BitVec 32, ofBigEndian (bigEndian 4 host.toNat) = host.toNat :=
    fun host => ofBigEndian_bigEndian_of_lt host.isLt
  have hadd : ∀ host : BitVec 32, (host + BitVec.ofNat 32 k).toNat = (host.toNat + k) % 2 ^ 32 := by
    intro host
    rw [BitVec.toNat_add, BitVec.toNat_ofNat, Nat.add_mod_mod]
  cases a with
  | v4 host => simp [Address.advance, Address.packed, Octets.countOn, hlow, hadd]
  | v6 net host => simp [Address.advance, Address.packed, Octets.countOn, hlow, hadd]

/-- The session holds a request's group at a distance from the first: its address, the given port,
    the request's source on port 0, and no activity. -/
structure Request.MetBy (port : Int) (r : Request) (k : Nat) (s : Session) : Prop where
  target : ∃ e, s.target = some e ∧ e.family = r.first.family ∧
    e.packed = Octets.countOn k r.first.packed ∧ e.port = port
  origin : s.origin = r.origin.map fun a => ⟨a, 0⟩
  history : s.history = .blank

/-! ## Tokens -/

/-- A source that a token names is not blank. -/
theorem Token.field?_ne_empty (cs : List Char) : Token.field? cs ≠ some "" := by
  simp only [Token.field?]
  split
  · simp
  · rename_i h
    intro he
    rw [Option.some.injEq] at he
    exact h (String.ofList_injective he)

theorem Token.source_ne_empty {token : String} {parts : Token} (h : Token.read token = .ok parts) :
    parts.source ≠ some "" := by
  have hsource : ∀ body, (Token.splitSource body).1 ≠ some "" := by
    intro body
    simp only [Token.splitSource]
    split
    · exact Token.field?_ne_empty _
    · simp
  unfold Token.read at h
  cases hcount : Token.splitCount token with
  | error e => rw [hcount] at h; simp [bind, Except.bind] at h
  | ok bc =>
      obtain ⟨body, count⟩ := bc
      rw [hcount] at h
      simp only [bind, Except.bind] at h
      split at h
      · rw [Except.ok.injEq] at h
        exact h ▸ hsource body
      · simp at h

/-- The groups of a token: its count of them, from an address on that its group is read as. -/
def Token.Groups (token : String) (g : Token × Address) : Prop :=
  Token.read token = .ok g.1 ∧ 1 ≤ g.1.count ∧ Address.read? g.1.group = some g.2

/-- The pairs that the parts of a token stand for. -/
def Token.pairsFrom (g : Token × Address) : List Pair :=
  (Token.consecutive g.1.group g.2 g.1.count.toNat).map (g.1.source, ·)

/-- A token is expanded if it has groups and there is room for them. -/
theorem Token.expand_eq_ok_iff {token : String} {room : Int} {pairs : List Pair} :
    Token.expand token none (some room) = .ok pairs ↔
      ∃ g, Token.Groups token g ∧ g.1.count ≤ room ∧ pairs = Token.pairsFrom g := by
  cases hread : Token.read token with
  | error e => simp [Token.expand, bind, Except.bind, Token.Groups, hread]
  | ok parts =>
      rw [Token.expand_eq_ok_iff_of_read hread rfl]
      constructor
      · rintro ⟨hpos, hroom, a, ha, rfl⟩
        exact ⟨(parts, a), ⟨hread, hpos, ha⟩, hroom room rfl, rfl⟩
      · rintro ⟨⟨parts', a⟩, ⟨hparts, hpos, ha⟩, hroom, rfl⟩
        obtain rfl : parts = parts' := Except.ok.inj (hread.symm.trans hparts)
        refine ⟨hpos, ?_, a, ha, rfl⟩
        rintro _ ⟨⟩
        exact hroom

namespace Table

/-- The sessions of pairs, before they are resolved. -/
def sessionsOf (pairs : List Pair) : List Session :=
  pairs.map fun (source, group) => { source, group }

/-- A token's sessions behind those of the table. -/
def withGroups (t : Table) (gs : List (Token × Address)) : Table :=
  { t with sessions := t.sessions ++ sessionsOf (gs.flatMap Token.pairsFrom) }

@[simp] theorem withGroups_nil (t : Table) : t.withGroups [] = t := by
  simp [withGroups, sessionsOf]

theorem withGroups_cons (t : Table) (g : Token × Address) (gs : List (Token × Address)) :
    (t.withGroups [g]).withGroups gs = t.withGroups (g :: gs) := by
  simp [withGroups, sessionsOf]

@[simp] theorem capacity_withGroups (t : Table) (gs : List (Token × Address)) :
    (t.withGroups gs).capacity = t.capacity := rfl

/-- A table has as many more sessions as its token asks for. -/
theorem size_withGroups_singleton (t : Table) {token : String} {g : Token × Address}
    (h : Token.Groups token g) : ((t.withGroups [g]).size : Int) = t.size + g.1.count := by
  have hpos := h.2.1
  simp [withGroups, size, sessionsOf, Token.pairsFrom]
  omega

theorem sum_count_nonneg {tokens : List String} {gs : List (Token × Address)}
    (h : List.Forall₂ Token.Groups tokens gs) : 0 ≤ (gs.map (·.1.count)).sum := by
  induction h with
  | nil => simp
  | cons hg _ ih =>
      have hpos := hg.2.1
      simp only [List.map_cons, List.sum_cons]
      omega

/-- The groups of a token are added if there is room for them. -/
theorem addAll?_pairsFrom {t : Table} {token : String} {g : Token × Address}
    (h : Token.Groups token g) (hroom : g.1.count ≤ t.room) :
    ∃ indexes, t.addAll? (Token.pairsFrom g) = .ok (indexes, t.withGroups [g]) := by
  have hpos := h.2.1
  have hfits : ¬t.capacity < t.size + (Token.pairsFrom g).length := by
    simp only [Token.pairsFrom, List.length_map, Token.length_consecutive, room] at hroom ⊢
    omega
  refine ⟨(List.range (Token.pairsFrom g).length).map (t.size + ·), ?_⟩
  rw [addAll?, if_neg hfits]
  simp [withGroups, sessionsOf]

/-- **Tokens with groups are added if there is room for all of these.** -/
theorem expandAll_of_groups {t : Table} {tokens : List String} {gs : List (Token × Address)}
    (h : List.Forall₂ Token.Groups tokens gs)
    (hroom : t.size + (gs.map (·.1.count)).sum ≤ t.capacity) :
    (t.expandAll tokens).2 = .ok (t.withGroups gs) := by
  induction h generalizing t with
  | nil => simp [expandAll]
  | @cons token g tokens gs hg hgs ih =>
      have hrest := sum_count_nonneg hgs
      rw [List.map_cons, List.sum_cons] at hroom
      have hhere : g.1.count ≤ t.room := by simp only [room]; omega
      have hpairs : t.pairs token = .ok (Token.pairsFrom g) :=
        Token.expand_eq_ok_iff.2 ⟨g, hg, hhere, rfl⟩
      obtain ⟨indexes, hadd⟩ := addAll?_pairsFrom hg hhere
      have hsize := size_withGroups_singleton t hg
      have htail := ih (t := t.withGroups [g]) (by rw [hsize, capacity_withGroups]; omega)
      rw [withGroups_cons] at htail
      simp only [expandAll, hpairs, hadd]
      exact htail

/-- **Tokens that were added have groups, and there was room for all of these.** -/
theorem groups_of_expandAll {t t' : Table} {tokens : List String}
    (h : (t.expandAll tokens).2 = .ok t') :
    ∃ gs, List.Forall₂ Token.Groups tokens gs ∧
      (tokens = [] ∨ t.size + (gs.map (·.1.count)).sum ≤ t.capacity) ∧ t' = t.withGroups gs := by
  induction tokens generalizing t with
  | nil =>
      rw [expandAll, Except.ok.injEq] at h
      exact ⟨[], .nil, Or.inl rfl, by rw [withGroups_nil, h]⟩
  | cons token tokens ih =>
      rw [expandAll] at h
      cases hpairs : t.pairs token with
      | error e => rw [hpairs] at h; simp at h
      | ok pairs =>
          obtain ⟨g, hg, hroom, rfl⟩ := Token.expand_eq_ok_iff.1 hpairs
          obtain ⟨indexes, hadd⟩ := addAll?_pairsFrom hg hroom
          have hsize := size_withGroups_singleton t hg
          simp only [hpairs, hadd] at h
          obtain ⟨gs, hgs, hfits, rfl⟩ := ih h
          refine ⟨g :: gs, .cons hg hgs, Or.inr ?_, withGroups_cons t g gs⟩
          rw [List.map_cons, List.sum_cons]
          -- Without a further token, the room that this one was given is what bounds the sum.
          rcases hfits with rfl | hfits
          · obtain rfl := List.forall₂_nil_left_iff.1 hgs
            simp only [room] at hroom
            simp only [List.map_nil, List.sum_nil]
            omega
          · rw [hsize, capacity_withGroups] at hfits
            omega

end Table

/-! ## Resolving -/

/-- **A session is resolved if its group is an address and its source, if any, one of the same
    family**; it then holds both. -/
theorem Session.resolve_eq_ok_iff {port : Int} {s s' : Session} :
    s.resolve port = .ok s' ↔
      ∃ target origin, Address.read? s.group = some target ∧
        NamesSource target.family s.source? origin ∧
        s' = { s with target := some ⟨target, port⟩, origin := origin.map fun a => ⟨a, 0⟩ } := by
  unfold Session.resolve
  cases htarget : Address.read? s.group with
  | none => simp
  | some target =>
      cases hsource : s.source? with
      | none =>
          simp only [Except.ok.injEq, NamesSource]
          constructor
          · rintro rfl
            exact ⟨target, none, rfl, rfl, rfl⟩
          · rintro ⟨_, _, ⟨⟩, rfl, rfl⟩
            rfl
      | some source =>
          simp only [NamesSource]
          cases horigin : Address.readAs? target.family source with
          | none => simp [horigin]
          | some origin =>
              simp only [Except.ok.injEq]
              constructor
              · rintro rfl
                exact ⟨target, some origin, rfl, ⟨origin, horigin, rfl⟩, rfl⟩
              · rintro ⟨_, _, ⟨⟩, ⟨a, ha, rfl⟩, rfl⟩
                obtain rfl : origin = a := Option.some.inj (horigin.symm.trans ha)
                rfl

/-- A source that is not blank restricts its session. -/
theorem Session.source?_eq {s : Session} (h : s.source ≠ some "") : s.source? = s.source := by
  cases hsource : s.source with
  | none => simp [Session.source?, hsource]
  | some text =>
      have hne : text ≠ "" := by rintro rfl; exact h hsource
      simp [Session.source?, hsource, hne]

/-- Whether a session was resolved to a family. -/
def Session.isOf (family : Family) (s : Session) : Bool := s.target.any (·.family = family)

@[simp] theorem Session.target_restart (s : Session) : s.restart.target = s.target := by
  unfold Session.restart; split <;> rfl

@[simp] theorem Session.origin_restart (s : Session) : s.restart.origin = s.origin := by
  unfold Session.restart; split <;> rfl

@[simp] theorem Session.count_restart (s : Session) : s.restart.count = s.count := by
  unfold Session.restart; split <;> rfl

@[simp] theorem Session.history_restart (s : Session) : s.restart.history = .blank := by
  unfold Session.restart; split <;> rfl

@[simp] theorem Session.isOf_restart (family : Family) (s : Session) :
    s.restart.isOf family = s.isOf family := by
  simp [Session.isOf]

namespace Table

/-- Sessions that can all be resolved are all resolved and restarted. -/
theorem resolveEach_of_forall₂ {port : Int} {ss ds : List Session}
    (h : List.Forall₂ (fun s d => s.resolve port = .ok d) ss ds) :
    resolveEach port ss = (ds.map Session.restart, ds, none) := by
  induction h with
  | nil => rfl
  | cons hd _ ih => simp [resolveEach, hd, ih]

/-- Resolving goes through only if every session can be resolved. -/
theorem forall₂_of_resolveEach {port : Int} {ss : List Session}
    (h : (resolveEach port ss).2.2 = none) :
    ∃ ds, List.Forall₂ (fun s d => s.resolve port = .ok d) ss ds := by
  induction ss with
  | nil => exact ⟨[], .nil⟩
  | cons s ss ih =>
      rw [resolveEach] at h
      cases hd : s.resolve port with
      | error e => rw [hd] at h; simp at h
      | ok d =>
          rw [hd] at h
          obtain ⟨ds, hds⟩ := ih h
          exact ⟨d :: ds, .cons hd hds⟩

/-- Counting resolved sessions counts them by family. -/
theorem foldl_countResolved (t : Table) (ds : List Session) :
    ds.foldl (fun t s => t.countResolved s) t =
      { t with need4 := t.need4 + ds.countP (·.isOf .inet)
               need6 := t.need6 + ds.countP (·.isOf .inet6) } := by
  induction ds generalizing t with
  | nil => rfl
  | cons d ds ih =>
      rw [List.foldl_cons, ih, List.countP_cons, List.countP_cons]
      cases htarget : d.target with
      | none => simp [countResolved, htarget, Session.isOf]
      | some e =>
          cases hfamily : e.family <;>
            simp [countResolved, count, htarget, hfamily, Session.isOf] <;> omega

/-- **All sessions are resolved**, and counted by family beside those counted before. -/
theorem resolveAll_of_forall₂ {t : Table} {port : Int} {ds : List Session}
    (h : List.Forall₂ (fun s d => s.resolve port = .ok d) t.sessions ds) :
    t.resolveAll port =
      ({ t with sessions := ds.map Session.restart
                need4 := t.need4 + ds.countP (·.isOf .inet)
                need6 := t.need6 + ds.countP (·.isOf .inet6) }, none) := by
  simp only [resolveAll, resolveEach_of_forall₂ h, foldl_countResolved]

end Table

/-! ## Building -/

/-- The parts and the first address of a token are those of a request. -/
structure Request.Matches (g : Token × Address) (r : Request) : Prop where
  count : g.1.count = r.count
  first : g.2 = r.first
  source : NamesSource r.first.family g.1.source r.origin

/-- A request's groups, each with its distance from the first. -/
def Request.replicas (r : Request) : List (Request × Nat) := (List.range r.count).map (r, ·)

theorem Token.asks_iff {token : String} {r : Request} :
    Token.Asks token r ↔ ∃ g, Token.Groups token g ∧ Request.Matches g r := by
  constructor
  · rintro ⟨parts, hread, hcount, hpos, hfirst, hsource⟩
    exact ⟨(parts, r.first), ⟨hread, by rw [hcount]; omega, hfirst⟩, ⟨hcount, rfl, hsource⟩⟩
  · rintro ⟨⟨parts, a⟩, ⟨hread, hpos, hfirst⟩, hcount, rfl, hsource⟩
    simp only at hcount hpos
    exact ⟨parts, hread, hcount, by omega, hfirst, hsource⟩

theorem Token.groups_unique : Relator.RightUnique Token.Groups := by
  rintro token ⟨parts, a⟩ ⟨parts', a'⟩ ⟨hread, -, hfirst⟩ ⟨hread', -, hfirst'⟩
  obtain rfl : parts = parts' := Except.ok.inj (hread.symm.trans hread')
  obtain rfl : a = a' := Option.some.inj (hfirst.symm.trans hfirst')
  rfl

/-- A token asks for one thing only. -/
theorem Token.asks_unique : Relator.RightUnique Token.Asks := by
  intro token r r' h h'
  obtain ⟨g, hg, hm⟩ := Token.asks_iff.1 h
  obtain ⟨g', hg', hm'⟩ := Token.asks_iff.1 h'
  obtain rfl := Token.groups_unique hg hg'
  obtain ⟨origin, first, count⟩ := r
  obtain ⟨origin', first', count'⟩ := r'
  obtain ⟨hcount, rfl, hsource⟩ := hm
  obtain ⟨hcount', rfl, hsource'⟩ := hm'
  obtain rfl : count = count' := by simp only at hcount hcount'; omega
  obtain rfl := hsource.unique hsource'
  rfl

/-- Tokens that ask for something have groups, as many as they ask for. -/
theorem groups_of_asks {tokens : List String} {rs : List Request}
    (h : List.Forall₂ Token.Asks tokens rs) :
    ∃ gs, List.Forall₂ Token.Groups tokens gs ∧ List.Forall₂ Request.Matches gs rs ∧
      (gs.map (·.1.count)).sum = ((rs.map (·.count)).sum : Nat) := by
  induction h with
  | nil => exact ⟨[], .nil, .nil, rfl⟩
  | cons hr _ ih =>
      obtain ⟨g, hg, hm⟩ := Token.asks_iff.1 hr
      obtain ⟨gs, hgs, hms, hsum⟩ := ih
      refine ⟨g :: gs, .cons hg hgs, .cons hm hms, ?_⟩
      rw [List.map_cons, List.sum_cons, List.map_cons, List.sum_cons, hsum, hm.count]
      push_cast
      rfl

/-- A pair's session is resolved to the group at its distance from the first. -/
theorem Request.exists_resolve (port : Int) {g : Token × Address} {r : Request}
    (hm : Request.Matches g r) (hne : g.1.source ≠ some "") {group : String} {k : Nat}
    (hgroup : Address.read? group = some (g.2.advance k)) :
    ∃ d, Session.resolve port { source := g.1.source, group } = .ok d ∧
      r.MetBy port k d.restart := by
  have hsource : Session.source? { source := g.1.source, group } = g.1.source :=
    Session.source?_eq hne
  have hnames : NamesSource (g.2.advance k).family
      (Session.source? { source := g.1.source, group }) r.origin := by
    rw [hsource, Address.family_advance, hm.first]
    exact hm.source
  refine ⟨_, Session.resolve_eq_ok_iff.2 ⟨_, _, hgroup, hnames, rfl⟩, ?_, ?_, ?_⟩
  · refine ⟨⟨g.2.advance k, port⟩, by simp, ?_, ?_, rfl⟩
    · rw [Endpoint.family, Address.family_advance, hm.first]
    · rw [Endpoint.packed, packed_advance, hm.first]
  · simp
  · simp

/-- Choices that are made one by one for two lists side by side are made for both at once. -/
theorem exists_forall₂ {α β γ : Type} {p : α → β → Prop} {q : α → γ → Prop} {r : β → γ → Prop}
    (hchoice : ∀ a b, p a b → ∃ c, q a c ∧ r b c) {as : List α} {bs : List β}
    (h : List.Forall₂ p as bs) : ∃ cs, List.Forall₂ q as cs ∧ List.Forall₂ r bs cs := by
  induction h with
  | nil => exact ⟨[], .nil, .nil⟩
  | cons hab _ ih =>
      obtain ⟨c, hq, hr⟩ := hchoice _ _ hab
      obtain ⟨cs, hqs, hrs⟩ := ih
      exact ⟨c :: cs, .cons hq hqs, .cons hr hrs⟩

theorem exists_of_forall₂_left {α β : Type} {p : α → β → Prop} {as : List α} {bs : List β}
    (h : List.Forall₂ p as bs) : ∀ a ∈ as, ∃ b ∈ bs, p a b := by
  induction h with
  | nil => simp
  | cons hab _ ih =>
      refine List.forall_mem_cons.2 ⟨⟨_, List.mem_cons_self, hab⟩, fun a ha => ?_⟩
      obtain ⟨b, hb, hp⟩ := ih a ha
      exact ⟨b, List.mem_cons_of_mem _ hb, hp⟩

/-- **The sessions of a token are resolved to the groups that it asks for**, in their order. -/
theorem Request.exists_resolve_pairsFrom (port : Int) {token : String} {g : Token × Address}
    {r : Request} (hg : Token.Groups token g) (hm : Request.Matches g r) :
    ∃ ds, List.Forall₂ (fun s d => Session.resolve port s = .ok d)
        (Table.sessionsOf (Token.pairsFrom g)) ds ∧
      List.Forall₂ (fun rk d => rk.1.MetBy port rk.2 d.restart) r.replicas ds := by
  have hcount : g.1.count.toNat = r.count := by rw [hm.count, Int.toNat_natCast]
  have hread := Token.read?_consecutive hg.2.2 g.1.count.toNat
  obtain ⟨ds, hds, hmet⟩ := exists_forall₂
    (fun _ _ hgroup => Request.exists_resolve port hm (Token.source_ne_empty hg.1) hgroup)
    hread
  refine ⟨ds, ?_, ?_⟩
  · rw [Table.sessionsOf, Token.pairsFrom, List.map_map, List.forall₂_map_left_iff]
    exact hds
  · rw [Request.replicas, List.forall₂_map_left_iff, ← hcount]
    exact hmet

theorem Request.exists_resolve_flatMap (port : Int) {tokens : List String}
    {gs : List (Token × Address)} {rs : List Request} (hg : List.Forall₂ Token.Groups tokens gs)
    (hm : List.Forall₂ Request.Matches gs rs) :
    ∃ ds, List.Forall₂ (fun s d => Session.resolve port s = .ok d)
        (Table.sessionsOf (gs.flatMap Token.pairsFrom)) ds ∧
      List.Forall₂ (fun rk d => rk.1.MetBy port rk.2 d.restart) (rs.flatMap Request.replicas) ds := by
  induction hg generalizing rs with
  | nil =>
      obtain rfl := List.forall₂_nil_left_iff.1 hm
      exact ⟨[], .nil, .nil⟩
  | cons hg _ ih =>
      obtain ⟨r, rs, hr, hrs, rfl⟩ := List.forall₂_cons_left_iff.1 hm
      obtain ⟨ds, hds, hmet⟩ := Request.exists_resolve_pairsFrom port hg hr
      obtain ⟨es, hes, hmets⟩ := ih hrs
      refine ⟨ds ++ es, ?_, List.rel_append hmet hmets⟩
      rw [List.flatMap_cons, Table.sessionsOf, List.map_append]
      exact List.rel_append hds hes

/-- A token whose sessions can be resolved asks for its groups: its first session is one of them,
    and shows that the source is an address. -/
theorem Token.exists_matches {port : Int} {token : String} {g : Token × Address}
    (hg : Token.Groups token g)
    (h : ∀ s ∈ Table.sessionsOf (Token.pairsFrom g), ∃ d, Session.resolve port s = .ok d) :
    ∃ r, Request.Matches g r := by
  obtain ⟨⟨source, group, count⟩, a⟩ := g
  obtain ⟨hread, hpos, hfirst⟩ := hg
  simp only at hpos hfirst
  obtain ⟨n, hn⟩ : ∃ n, count.toNat = n + 1 := ⟨count.toNat - 1, by omega⟩
  have hmem : ({ source, group } : Session) ∈
      Table.sessionsOf (Token.pairsFrom (⟨source, group, count⟩, a)) := by
    simp [Table.sessionsOf, Token.pairsFrom, hn, Token.consecutive]
  obtain ⟨d, hd⟩ := h _ hmem
  obtain ⟨target, origin, htarget, hnames, -⟩ := Session.resolve_eq_ok_iff.1 hd
  obtain rfl : target = a := Option.some.inj (htarget.symm.trans hfirst)
  rw [Session.source?_eq (Token.source_ne_empty hread)] at hnames
  exact ⟨⟨origin, target, count.toNat⟩, ⟨by simp only; omega, rfl, hnames⟩⟩

theorem Token.exists_asks {port : Int} {tokens : List String} {gs : List (Token × Address)}
    (hg : List.Forall₂ Token.Groups tokens gs)
    (h : ∀ s ∈ Table.sessionsOf (gs.flatMap Token.pairsFrom), ∃ d, Session.resolve port s = .ok d) :
    ∃ rs, List.Forall₂ Token.Asks tokens rs := by
  induction hg with
  | nil => exact ⟨[], .nil⟩
  | @cons token g tokens gs hg _ ih =>
      rw [List.flatMap_cons, Table.sessionsOf, List.map_append, List.forall_mem_append] at h
      obtain ⟨r, hr⟩ := Token.exists_matches hg h.1
      obtain ⟨rs, hrs⟩ := ih h.2
      exact ⟨r :: rs, .cons (Token.asks_iff.2 ⟨g, hg, hr⟩) hrs⟩

namespace Table

/-- The tokens that a table is built from: the default group if none are given. -/
def asked (tokens : List String) : List String := if tokens = [] then [defaultGroup] else tokens

theorem asked_ne_nil (tokens : List String) : asked tokens ≠ [] := by
  unfold asked; split <;> simp_all

/-- A table is built by adding the tokens' groups and resolving all sessions. -/
theorem build_snd (tokens : List String) (port capacity : Int) :
    (build tokens port capacity).2 =
      match (({ capacity } : Table).expandAll (asked tokens)).2 with
      | .error e => .error e
      | .ok t =>
        match t.resolveAll port with
        | (_, some e) => .error (.setup e)
        | (t, none) => .ok t := by
  dsimp only [build, asked]
  generalize ({ capacity } : Table).expandAll (if tokens = [] then [defaultGroup] else tokens) = r
  obtain ⟨remarks, e | t⟩ := r
  · rfl
  · dsimp only
    generalize t.resolveAll port = r
    obtain ⟨t', _ | e⟩ := r <;> rfl

/-- A table with sessions, resolved to the groups that some requests ask for, and counted. -/
structure Meets (port : Int) (rs : List Request) (t : Table) : Prop where
  sessions : List.Forall₂ (fun rk s => rk.1.MetBy port rk.2 s) (rs.flatMap Request.replicas) t.sessions
  need4 : t.need4 = t.sessions.countP (·.isOf .inet)
  need6 : t.need6 = t.sessions.countP (·.isOf .inet6)

/-- Every session of such a table has an endpoint on the port. -/
theorem Meets.target {port : Int} {rs : List Request} {t : Table} (h : t.Meets port rs) {s : Session}
    (hs : s ∈ t.sessions) : ∃ target, s.target = some target ∧ target.port = port := by
  obtain ⟨i, hi, rfl⟩ := List.getElem_of_mem hs
  have hrequest : i < (rs.flatMap Request.replicas).length := by
    rw [h.sessions.length_eq]
    exact hi
  obtain ⟨target, htarget, -, -, hport⟩ :=
    ((List.forall₂_iff_get.1 h.sessions).2 i hrequest hi).target
  exact ⟨target, htarget, hport⟩

/-- **A table whose tokens ask for groups that fit is built**, with the sessions of these groups. -/
theorem build_of_asks {tokens : List String} (port : Int) {capacity : Int} {rs : List Request}
    (h : List.Forall₂ Token.Asks (asked tokens) rs)
    (hroom : (((rs.map (·.count)).sum : Nat) : Int) ≤ capacity) :
    ∃ t, (build tokens port capacity).2 = .ok t ∧ t.Meets port rs := by
  obtain ⟨gs, hgs, hms, hsum⟩ := groups_of_asks h
  have hadd : (({ capacity } : Table).expandAll (asked tokens)).2 =
      .ok (({ capacity } : Table).withGroups gs) :=
    expandAll_of_groups hgs (by simpa [size, hsum] using hroom)
  obtain ⟨ds, hds, hmet⟩ := Request.exists_resolve_flatMap port hgs hms
  have hall : List.Forall₂ (fun s d => s.resolve port = .ok d)
      (({ capacity } : Table).withGroups gs).sessions ds := by simpa [withGroups] using hds
  have hresolve := resolveAll_of_forall₂ hall
  have hcount : ∀ family, (ds.map Session.restart).countP (·.isOf family) =
      ds.countP (·.isOf family) := by
    intro family
    rw [List.countP_map]
    exact congrArg (List.countP · ds) (funext fun s => Session.isOf_restart family s)
  have hbuild := build_snd tokens port capacity
  rw [hadd] at hbuild
  simp only [hresolve] at hbuild
  refine ⟨_, hbuild, ?_, ?_, ?_⟩
  · exact List.forall₂_map_right_iff.2 hmet
  · simp [withGroups, hcount]
  · simp [withGroups, hcount]

/-- A table that was built holds the resolved sessions of the groups of its tokens. -/
theorem groups_of_build {tokens : List String} {port capacity : Int} {t : Table}
    (h : (build tokens port capacity).2 = .ok t) :
    ∃ gs ds, List.Forall₂ Token.Groups (asked tokens) gs ∧ (gs.map (·.1.count)).sum ≤ capacity ∧
      List.Forall₂ (fun s d => s.resolve port = .ok d) (sessionsOf (gs.flatMap Token.pairsFrom)) ds ∧
      t.sessions = ds.map Session.restart := by
  rw [build_snd] at h
  cases hadd : (({ capacity } : Table).expandAll (asked tokens)).2 with
  | error e => rw [hadd] at h; simp at h
  | ok t₀ =>
      obtain ⟨gs, hgs, hroom, rfl⟩ := groups_of_expandAll hadd
      rw [hadd] at h
      have hnone : (resolveEach port (({ capacity } : Table).withGroups gs).sessions).2.2 = none := by
        cases hfailure : (resolveEach port (({ capacity } : Table).withGroups gs).sessions).2.2 with
        | none => rfl
        | some e => simp [resolveAll, hfailure] at h
      obtain ⟨ds, hds⟩ := forall₂_of_resolveEach hnone
      simp only [resolveAll_of_forall₂ hds] at h
      refine ⟨gs, ds, hgs, ?_, ?_, ?_⟩
      · simpa [size] using hroom.resolve_left (asked_ne_nil tokens)
      · rwa [withGroups, List.nil_append] at hds
      · rw [← Except.ok.inj h]

/-- **The tokens of a table that was built ask for groups**, and these fit. -/
theorem asks_of_build {tokens : List String} {port capacity : Int} {t : Table}
    (h : (build tokens port capacity).2 = .ok t) :
    ∃ rs, List.Forall₂ Token.Asks (asked tokens) rs ∧
      (((rs.map (·.count)).sum : Nat) : Int) ≤ capacity := by
  obtain ⟨gs, ds, hgs, hfits, hds, -⟩ := groups_of_build h
  obtain ⟨rs, hrs⟩ := Token.exists_asks hgs fun s hs =>
    (exists_of_forall₂_left hds s hs).imp fun _ h => h.2
  refine ⟨rs, hrs, ?_⟩
  -- A token names one group only, so the groups that fit are those that were asked for.
  obtain ⟨gs', hgs', -, hsum⟩ := groups_of_asks hrs
  obtain rfl : gs = gs' := Token.groups_unique.forall₂ hgs hgs'
  rwa [hsum] at hfits

/-- The sessions of a table that was built have not counted anything yet. -/
theorem count_of_build {tokens : List String} {port capacity : Int} {t : Table}
    (h : (build tokens port capacity).2 = .ok t) {s : Session} (hs : s ∈ t.sessions) : s.count = 0 := by
  obtain ⟨gs, ds, -, -, hds, hsessions⟩ := groups_of_build h
  rw [hsessions] at hs
  obtain ⟨d, hd, rfl⟩ := List.mem_map.1 hs
  obtain ⟨s, hmem, hresolve⟩ := exists_of_forall₂_left (List.Forall₂.flip hds) d hd
  obtain ⟨p, -, rfl⟩ := List.mem_map.1 hmem
  obtain ⟨_, _, -, -, rfl⟩ := Session.resolve_eq_ok_iff.1 hresolve
  exact Session.count_restart _

/-- A table that was built holds what some requests ask for. -/
theorem meets_of_build {tokens : List String} {port capacity : Int} {t : Table}
    (h : (build tokens port capacity).2 = .ok t) : ∃ rs, t.Meets port rs := by
  obtain ⟨rs, hrs, hroom⟩ := asks_of_build h
  obtain ⟨t', ht', hmeets⟩ := build_of_asks port hrs hroom
  obtain rfl : t = t' := Except.ok.inj (h.symm.trans ht')
  exact ⟨rs, hmeets⟩

/-- **A table is built exactly when every token asks for groups and all of them fit**, and it then
    holds the groups asked for, in the order of the tokens, and their counts by family. -/
theorem build_succeeds_iff_and_meets (tokens : List String) (port capacity : Int) :
    ((∃ t, (build tokens port capacity).2 = .ok t) ↔
      ∃ rs, List.Forall₂ Token.Asks (asked tokens) rs ∧
        (((rs.map (·.count)).sum : Nat) : Int) ≤ capacity) ∧
    ∀ t rs, (build tokens port capacity).2 = .ok t → List.Forall₂ Token.Asks (asked tokens) rs →
      t.Meets port rs := by
  refine ⟨⟨?_, ?_⟩, ?_⟩
  · rintro ⟨t, ht⟩
    exact asks_of_build ht
  · rintro ⟨rs, hrs, hroom⟩
    obtain ⟨t, ht, -⟩ := build_of_asks port hrs hroom
    exact ⟨t, ht⟩
  · intro t rs ht hrs
    obtain ⟨rs', hrs', hroom⟩ := asks_of_build ht
    obtain rfl : rs = rs' := Token.asks_unique.forall₂ hrs hrs'
    obtain ⟨t', ht', hmeets⟩ := build_of_asks port hrs hroom
    obtain rfl : t = t' := Except.ok.inj (ht.symm.trans ht')
    exact hmeets

/-- A group of one source, and one whose second address starts its last four bytes anew. -/
theorem build_two_tokens_meets :
    ∃ t, (build ["10.0.0.1,232.1.1.255+2", "ff2e::ffff:ffff+2"] 1234 4).2 = .ok t ∧
      t.Meets 1234 [⟨some (.v4 0x0a000001), .v4 0xe80101ff, 2⟩,
        ⟨none, .v6 (0xff2e <<< 80) 0xffffffff, 2⟩] := by
  have hfirst : Token.Asks "10.0.0.1,232.1.1.255+2" ⟨some (.v4 0x0a000001), .v4 0xe80101ff, 2⟩ :=
    ⟨⟨some "10.0.0.1", "232.1.1.255", 2⟩, by decide +kernel, rfl, by decide, by decide +kernel,
      .v4 0x0a000001, by decide +kernel, rfl⟩
  have hsecond : Token.Asks "ff2e::ffff:ffff+2" ⟨none, .v6 (0xff2e <<< 80) 0xffffffff, 2⟩ :=
    ⟨⟨none, "ff2e::ffff:ffff", 2⟩, by decide +kernel, rfl, by decide, by decide +kernel, rfl⟩
  have hasks := List.Forall₂.cons hfirst (.cons hsecond .nil)
  obtain ⟨t, ht⟩ := (build_succeeds_iff_and_meets
    ["10.0.0.1,232.1.1.255+2", "ff2e::ffff:ffff+2"] 1234 4).1.2 ⟨_, hasks, by decide⟩
  exact ⟨t, ht, (build_succeeds_iff_and_meets _ _ _).2 t _ ht hasks⟩

end Table

end Multicast
