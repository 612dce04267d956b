import Multicast.Proofs.Table.Resolutions
import Multicast.Proofs.Transport.Faults

/-!
# `Proofs.Sender.Opening` — a socket for the family of every session

A table counts the family of a session whenever the session is resolved, and a sender opens a socket
for each family that was counted. So where every session is resolved, however often, a sender that
has started finds the socket of its family for each of them, and that socket was opened for this
family.

## Contents
- **Tables.** `Table.Tracks.all_resolved`, that resolved sessions have their families counted, and
  `Table.fresh_afterAll`, that no operation on a table makes a session count.
- **Uplinks.** `World.Linked`, uplinks that were opened for their families, and `Frame.linking`,
  kept by setting up a socket.
- **Opening.** `Sender.openUplink_eq_ok` and `Sender.linked_openUplinks`, then `Sender.linked_start`,
  with `Sender.start_leaves`.
-/

namespace Multicast

open Act

/-! ## Tables -/

namespace Table

/-- **Where every session is resolved, their families are counted.** -/
theorem Tracks.all_resolved {t : Table} {resolved : List Nat} (h : t.Tracks resolved)
    (hall : ∀ s ∈ t.sessions, s.target.isSome) : t.Resolved := by
  intro s hs
  obtain ⟨target, htarget⟩ := Option.isSome_iff_exists.1 (hall s hs)
  refine ⟨target, htarget, mem_families ?_⟩
  obtain ⟨k, hk⟩ := List.mem_iff_getElem?.1 hs
  have hmem : k ∈ resolved := by
    rw [h.resolved k, has, hk, Option.any_some]
    exact hall s hs
  have hcounted : ∀ family, target.family = family →
      0 < resolved.countP (t.has (·.names family)) := by
    intro family hfamily
    refine List.countP_pos_iff.2 ⟨k, hmem, ?_⟩
    have hread : target.address.family = family := hfamily
    simp [has, hk, Session.names, h.sound s hs target htarget, hread]
  cases hfamily : target.family with
  | inet =>
      dsimp only
      rw [h.need4]
      exact hcounted .inet hfamily
  | inet6 =>
      dsimp only
      rw [h.need6]
      exact hcounted .inet6 hfamily

end Table

/-- Nothing was counted yet. -/
structure Session.Fresh (s : Session) : Prop where
  count : s.count = 0
  seq : s.seq = none

theorem Session.Fresh.restart {s : Session} (h : s.Fresh) : s.restart.Fresh := by
  unfold Session.restart
  split
  · exact ⟨h.count, h.seq⟩
  · exact ⟨h.count, h.seq⟩

theorem Session.Fresh.resolve {s d : Session} {port : Int} (h : s.Fresh)
    (hd : s.resolve port = .ok d) : d.Fresh := by
  obtain ⟨target, origin, -, -, rfl⟩ := resolve_eq_ok_iff.1 hd
  exact ⟨h.count, h.seq⟩

namespace Table

/-- Each resolved form is that of a session. -/
theorem exists_of_mem_resolvedForms {port : Int} {sessions : List Session} {d : Session}
    (hd : d ∈ resolvedForms port sessions) : ∃ s ∈ sessions, s.resolve port = .ok d := by
  obtain ⟨hforms, -⟩ := resolveEach_eq port sessions
  have hlength := hforms.length_eq
  obtain ⟨k, hk, rfl⟩ := List.getElem_of_mem hd
  have hk' : k < (sessions.take (resolvedForms port sessions).length).length := by omega
  exact ⟨_, List.mem_of_mem_take (List.getElem_mem hk'), hforms.get hk' hk⟩

/-- **No operation on a table makes a session count.** -/
theorem Operation.fresh_leaves {t : Table} (h : ∀ s ∈ t.sessions, s.Fresh) (op : Operation) :
    ∀ s ∈ (op.leaves t).sessions, s.Fresh := by
  by_cases hadding : op.isAdding
  · rcases leaves_of_isAdding hadding t with hleaves | ⟨pairs, -, hleaves⟩
    · rwa [hleaves]
    · rw [hleaves]
      intro s hs
      rcases List.mem_append.1 hs with hs | hs
      · exact h s hs
      · obtain ⟨pair, -, rfl⟩ := List.mem_map.1 hs
        exact ⟨rfl, rfl⟩
  cases op with
  | add | put | expand => exact absurd rfl hadding
  | resolve i port =>
      rcases leaves_resolve i port t with ⟨e, -, hleaves⟩ | ⟨k, s, d, -, hs, hd, -, hleaves⟩
      · rwa [hleaves]
      · rw [hleaves, countResolved_withSessions]
        intro s' hs'
        rcases List.mem_or_eq_of_mem_set hs' with hs' | rfl
        · exact h s' hs'
        · exact (h s (List.mem_of_getElem? hs)).resolve hd
  | resolveAll port =>
      rw [leaves_resolveAll]
      intro s hs
      rcases List.mem_append.1 hs with hs | hs
      · obtain ⟨d, hd, rfl⟩ := List.mem_map.1 hs
        obtain ⟨s, hs, hresolve⟩ := exists_of_mem_resolvedForms hd
        exact ((h s hs).resolve hresolve).restart
      · exact h s (List.mem_of_mem_drop hs)
  | restart i =>
      rcases leaves_restart i t with hleaves | ⟨k, hleaves⟩
      · rwa [hleaves]
      · rw [hleaves]
        intro s hs
        obtain ⟨j, hj⟩ := List.mem_iff_getElem?.1 hs
        rw [List.getElem?_modify] at hj
        obtain ⟨s', hs', rfl⟩ := Option.map_eq_some_iff.1 hj
        have hfresh := h s' (List.mem_of_getElem? hs')
        by_cases hkj : k = j
        · simpa [hkj] using hfresh.restart
        · simpa [hkj] using hfresh
  | age =>
      intro s hs
      obtain ⟨s', hs', rfl⟩ := List.mem_map.1 (hs : s ∈ t.sessions.map Session.age)
      exact ⟨(h s' hs').count, (h s' hs').seq⟩
  | clear =>
      intro s hs
      cases hs

theorem fresh_afterAll (ops : List Operation) {t : Table} (h : ∀ s ∈ t.sessions, s.Fresh) :
    ∀ s ∈ (afterAll ops t).sessions, s.Fresh := by
  induction ops generalizing t with
  | nil => exact h
  | cons op ops ih => exact ih (op.fresh_leaves h)

end Table

/-! ## Uplinks -/

/-- Each uplink is a socket that was opened for its family. -/
def World.Linked (w : World) : Prop :=
  ∀ family id, w.uplinks.lookup family = some id → .openSocket id family ∈ w.host.trace.toList

/-- The uplinks are as they were, and so are the sockets that were opened before. -/
def Frame.linking : Frame where
  rel w w' := w'.uplinks = w.uplinks ∧
    ∀ id family, .openSocket id family ∈ w.host.trace.toList →
      .openSocket id family ∈ w'.host.trace.toList
  refl _ := ⟨rfl, fun _ _ h => h⟩
  trans h h' := ⟨h'.1.trans h.1, fun id family hopened => h'.2 id family (h.2 id family hopened)⟩

theorem Act.linking_call (c : Call) : Keeps .linking (call c) := by
  intro w
  refine ⟨rfl, fun id family hopened => ?_⟩
  show _ ∈ (w.host.trace.push c).toList
  rw [Array.toList_push]
  exact List.mem_append_left _ hopened

/-- Setting up a socket links none. -/
theorem preparing_linking : Frame.linking.Preparing where
  prepare c _ _ := linking_call c
  check kind w := by
    rw [after_check]
    exact ⟨rfl, fun _ _ hopened => hopened⟩
  log level message w := by
    have hbooked : ∀ (h : Host) id family,
        .openSocket id family ∈ h.trace.toList ↔ .openSocket id family ∈ h.books.1 := by
      simp [Host.books, Call.isAccounted]
    refine ⟨rfl, fun id family hopened => ?_⟩
    show _ ∈ (w.host.log level message).trace.toList
    rw [hbooked, Host.books_log]
    exact (hbooked _ _ _).1 hopened
  numbered _ _ := ⟨rfl, fun _ _ hopened => hopened⟩

/-- Nor does it change a session, or a flag. -/
theorem preparing_apart : (Frame.of fun w => (w.table, w.flags)).Preparing where
  prepare _ _ _ _ := rfl
  check kind w := by
    rw [after_check]
    rfl
  log _ _ _ := rfl
  numbered _ _ := rfl

/-! ## Opening -/

namespace Sender

variable {s : Sender} {index : Int} {w w' : World}

/-- **An uplink that was opened** is a socket of its family. -/
theorem openUplink_eq_ok {family : Family} (h : s.openUplink index family w = .ok () w') :
    ∃ id, w'.uplinks = withUplink family id w.uplinks ∧
      .openSocket id family ∈ w'.host.trace.toList ∧
      ∀ id family, .openSocket id family ∈ w.host.trace.toList →
        .openSocket id family ∈ w'.host.trace.toList := by
  unfold openUplink at h
  obtain ⟨id, w₁, hopen, h⟩ := bind_eq_ok.1 h
  obtain ⟨_, w₂, hsetUp, h⟩ := bind_eq_ok.1 h
  obtain ⟨-, rfl⟩ := EStateM.Result.ok.inj h
  -- The socket is opened first. To set it up may fail, which closes it, but links nothing.
  obtain ⟨huplinks₁, hkept₁⟩ := rel_of_ok (keeps_openSocket preparing_linking family) hopen
  have hkeeps : Keeps .linking (recover (s.configure index id family) Fault.isSystem fun e => do
      closeSocket id
      throw (.transport (.setup e.message))) := by
    refine keeps_recover (keeps_configure preparing_linking.toArranging s index id
      (fun _ => linking_call _) family) fun e => ?_
    exact keeps_bind (keeps_closeSocket preparing_linking.toArranging id) fun _ => keeps_throw _
  obtain ⟨huplinks₂, hkept₂⟩ := rel_of_ok hkeeps hsetUp
  have hopened : .openSocket id family ∈ w₁.host.trace.toList := by
    unfold openSocket at hopen
    obtain ⟨_, w₀, -, hopen⟩ := bind_eq_ok.1 hopen
    obtain ⟨rfl, rfl⟩ := EStateM.Result.ok.inj hopen
    show _ ∈ (w₀.host.trace.push _).toList
    rw [Array.toList_push]
    exact List.mem_append_right _ (List.mem_singleton.2 rfl)
  refine ⟨id, ?_, hkept₂ id family hopened, fun id' family' h => hkept₂ _ _ (hkept₁ _ _ h)⟩
  show withUplink family id w₂.uplinks = _
  rw [huplinks₂, huplinks₁]

/-- Uplinks that were opened are linked, and one more does not take any away. -/
theorem linked_openUplinks {families : List Family} (hlinked : w.Linked)
    (h : families.forM (s.openUplink index) w = .ok () w') :
    w'.Linked ∧ ∀ f, f ∈ families ∨ (w.uplinks.lookup f).isSome → (w'.uplinks.lookup f).isSome := by
  -- Opening one uplink keeps what was linked, so that the induction can begin with any uplinks.
  induction families generalizing w with
  | nil =>
      obtain ⟨-, rfl⟩ := EStateM.Result.ok.inj h
      refine ⟨hlinked, ?_⟩
      rintro f (hf | hf)
      · cases hf
      · exact hf
  | cons family families ih =>
      obtain ⟨_, w₁, hfirst, hrest⟩ := bind_eq_ok.1
        (h : (s.openUplink index family >>= fun _ => families.forM (s.openUplink index)) w = _)
      obtain ⟨id, huplinks, hopened, hkept⟩ := openUplink_eq_ok hfirst
      have hlinked₁ : w₁.Linked := by
        intro family' id' hlookup
        rw [huplinks, lookup_withUplink_eq] at hlookup
        by_cases hsame : family' = family
        · rw [if_pos hsame] at hlookup
          rw [hsame, ← Option.some.inj hlookup]
          exact hopened
        · rw [if_neg hsame] at hlookup
          exact hkept _ _ (hlinked _ _ hlookup)
      obtain ⟨hlinked', hlookup⟩ := ih hlinked₁ hrest
      refine ⟨hlinked', fun f hf => hlookup f ?_⟩
      rw [huplinks]
      rcases hf with hf | hf
      · rcases List.mem_cons.1 hf with rfl | hf
        · exact Or.inr (lookup_withUplink _ _ _)
        · exact Or.inl hf
      · exact Or.inr (lookup_withUplink_of_isSome hf)

/-- **A sender that has started** has a socket of each family that was counted, opened for it. -/
theorem linked_start (hfresh : w.uplinks = []) (h : s.start w = .ok () w') :
    w'.Linked ∧ ∀ f ∈ w.table.families, (w'.uplinks.lookup f).isSome := by
  unfold start at h
  obtain ⟨index, w₁, hindex, h⟩ := bind_eq_ok.1 h
  obtain ⟨huplinks, -⟩ := rel_of_ok (keeps_interfaceIndex preparing_linking.log _) hindex
  have hsame := rel_of_ok (keeps_interfaceIndex preparing_apart.log _) hindex
  obtain ⟨htable, -⟩ := Prod.mk.inj hsame
  obtain ⟨_, _, hget, h⟩ := bind_eq_ok.1 h
  obtain ⟨rfl, rfl⟩ := EStateM.Result.ok.inj hget
  obtain ⟨_, w₂, hopen, h⟩ := bind_eq_ok.1 h
  have hlinked₁ : w₁.Linked := by
    intro family id hlookup
    rw [huplinks, hfresh] at hlookup
    cases hlookup
  obtain ⟨hlinked₂, hlookup⟩ := linked_openUplinks hlinked₁ hopen
  obtain ⟨huplinks', hkept⟩ := rel_of_ok (preparing_linking.log .info _) h
  constructor
  · intro family id hfamily
    rw [huplinks'] at hfamily
    exact hkept _ _ (hlinked₂ _ _ hfamily)
  · intro f hf
    rw [huplinks']
    refine hlookup f (Or.inl ?_)
    rwa [htable]

/-- It has changed no session and no flag. -/
theorem start_leaves (h : s.start w = .ok () w') : w'.table = w.table ∧ w'.flags = w.flags :=
  Prod.mk.inj (rel_of_ok (keeps_start s (fun _ _ _ => rfl) preparing_apart fun _ _ => rfl) h)

end Sender

end Multicast
