import Multicast.Proofs.Loop.Tidy

/-!
# `Proofs.Receiver.Sockets` — the receiver's sockets

The receiver opens a socket for each session, and the session has it from the moment on that its
group was joined. A socket that cannot join is closed before anyone holds it.

## Contents
- **Joining.** `failsBySystem_join`, `failsBySystem_prepare`, `ends_openOne`, `ends_adopt` and
  `ends_joinFrom`.
- **Closing.** `ends_releaseFrom`, and all stages together in `tidy`.
-/

namespace Multicast.Receiver

open Act

variable {index : Int} {w : World}

/-! ## Joining -/

/-- An index of an interface fits the field of every request. -/
theorem exists_request (hindex : 0 ≤ index ∧ index < 2 ^ 31) (target : Endpoint)
    (origin : Option Endpoint) (address : Octets) :
    ∃ name request, Membership.request? target origin index address = some (name, request) := by
  obtain ⟨n, rfl⟩ := Int.eq_ofNat_of_zero_le hindex.1
  have hsigned := int32?_natCast (by omega : n < 2 ^ 31)
  have hunsigned := uint32?_natCast (by omega : n < 2 ^ 32)
  have haddress : ∀ (family : Family) (packed : Octets),
      ∃ bytes, socketAddress? family.number packed = some bytes := by
    intro family packed
    cases family <;> exact ⟨_, rfl⟩
  -- An index is packed as a signed field for IPv4 and as an unsigned one for IPv6.
  unfold Membership.request?
  cases target.family with
  | inet =>
      cases origin with
      | some source => exact ⟨_, _, rfl⟩
      | none =>
          unfold interfaceRequest4?
          rw [hsigned]
          exact ⟨_, _, rfl⟩
  | inet6 =>
      cases origin with
      | some source =>
          obtain ⟨group, hgroup⟩ := haddress target.family target.packed
          obtain ⟨bytes, hbytes⟩ := haddress source.family source.packed
          dsimp only [sourceRequest?]
          rw [hunsigned, hgroup, hbytes]
          exact ⟨_, _, rfl⟩
      | none =>
          unfold groupRequest6?
          rw [hunsigned]
          exact ⟨_, _, rfl⟩

/-- Asking for a membership fails only where the system refuses it. -/
theorem failsBySystem_request (hindex : 0 ≤ index ∧ index < 2 ^ 31) {rs : Resources}
    (h : rs.RefusesBySystem .setOption) (id : SocketId) (target : Endpoint)
    (origin : Option Endpoint) (address : Octets) :
    FailsBySystem rs (match Membership.request? target origin index address with
      | some (name, request) => setOption id name (.bytes request)
      | none => throw (.fieldRange (target.family = .inet) index)) := by
  obtain ⟨name, request, hrequest⟩ := exists_request hindex target origin address
  rw [hrequest]
  exact failsBySystem_attempt rfl (Call.objectsBySystem_of_none rfl) h

/-- Joining a group fails only where the system refuses it, or knows no address to join on. -/
theorem failsBySystem_join (r : Receiver) (hindex : 0 ≤ index ∧ index < 2 ^ 31) {rs : Resources}
    (h : rs.RefusesBySystem .setOption) (id : SocketId) (target : Endpoint)
    (origin : Option Endpoint) : FailsBySystem rs (r.join index id target origin) := by
  have haddress : FailsBySystem rs r.localAddress := by
    unfold localAddress
    refine failsBySystem_bind (failsBySystem_of_returns (aside_interfaceAddress _ _ _) fun w =>
      exists_interfaceAddress _ _ _ fun hfallback => by cases hfallback) fun text => ?_
    cases Address.readNumbers? text with
    | some address => exact failsBySystem_pure _
    | none => exact fun w hw => ⟨rfl, hw⟩
  unfold join
  split
  · refine failsBySystem_bind haddress fun address => ?_
    exact failsBySystem_request hindex h id target origin address
  · refine failsBySystem_bind (failsBySystem_pure _) fun address => ?_
    exact failsBySystem_request hindex h id target origin address

/-- Setting up a socket fails only where the system refuses it. -/
theorem failsBySystem_prepare (r : Receiver) (hindex : 0 ≤ index ∧ index < 2 ^ 31) {rs : Resources}
    (hoptions : rs.RefusesBySystem .setOption) (hbinds : rs.RefusesBySystem .bind) (id : SocketId)
    {target : Endpoint} (hport : target.HasPort) (origin : Option Endpoint) :
    FailsBySystem rs (do
      setOption id .reuseAddress (.number 1)
      bindSocket id target
      r.join index id target origin
      call (.unblock id)) := by
  have hreuse : (Call.setOption id .reuseAddress (.number 1)).ObjectsBySystem :=
    Call.objectsBySystem_setOption (by decide) id .reuseAddress
  have hbind : (Call.bind id target).ObjectsBySystem :=
    Call.objectsBySystem_of_none (Call.objection?_bind hport id)
  refine failsBySystem_bind (failsBySystem_attempt rfl hreuse hoptions) fun _ => ?_
  refine failsBySystem_bind (failsBySystem_attempt rfl hbind hbinds) fun _ => ?_
  refine failsBySystem_bind (failsBySystem_join r hindex hoptions id target _) fun _ => ?_
  exact failsBySystem_of_returns (aside_call rfl) fun w => ⟨_, _, rfl⟩

/-- **A socket that joined its group** is in the caller's hands; one that did not is closed. -/
theorem ends_openOne (r : Receiver) {before : List Call} (hindex : 0 ≤ index ∧ index < 2 ^ 31)
    (hoptions : w.resources.RefusesBySystem .setOption) (hbinds : w.resources.RefusesBySystem .bind)
    (howned : Owned before [] w.resources) {session : Session}
    (hport : ∀ target, session.target = some target → target.HasPort) :
    Ends (r.openOne index session) w
      (fun id w' => Owned before [id] w'.resources ∧
        Beside Resources.holders w.resources w'.resources)
      fun _ w' => Owned before [] w'.resources ∧
        Beside Resources.holders w.resources w'.resources := by
  unfold openOne
  cases htarget : session.target with
  | none => exact ⟨howned, .refl _⟩
  | some target =>
      let opened := w.resources.opened target.family
      have hprepare := fun id => failsBySystem_prepare r hindex
        (show opened.RefusesBySystem .setOption from hoptions)
        (show opened.RefusesBySystem .bind from hbinds) id (hport target htarget) session.origin
      refine ends_openAndSetUp target.family _ _ _ howned hprepare ?_ ?_
      · intro w₁ hloose h₁
        refine (ends_log _ _).bind ?_
        intro _ w' h'
        show Owned before [w.resources.next] w'.resources ∧
          Beside Resources.holders w.resources w'.resources
        rw [h']
        refine ⟨hloose, ?_⟩
        rw [h₁]
        exact ⟨rfl, rfl, rfl⟩
      · exact fun e w' howned' hbeside => ⟨howned', hbeside⟩

/-- Giving the session at a position another socket, or none. -/
theorem ends_setSocket {position : Nat} (hposition : position < w.table.size)
    (socket : Option SocketId) {fails : Fault → World → Prop} :
    Ends (modifySession position ({ · with socket })) w
      (fun _ w' => w'.resources =
        { w.resources with sockets := w.resources.sockets.set position socket }) fails := by
  have hresult : modifySession position ({ · with socket }) w = .ok () { w with table := { w.table with
      sessions := w.table.sessions.modify position ({ · with socket }) } } := by
    rw [modifySession_eq_ok_iff]
    refine ⟨position, ?_, rfl⟩
    rw [Table.position?_natCast, if_pos hposition]
  have hsockets : (w.table.sessions.modify position ({ · with socket })).map Session.socket =
      (w.table.sessions.map Session.socket).set position socket := by
    refine List.ext_getElem? fun j => ?_
    rw [List.getElem?_map, List.getElem?_modify, List.getElem?_set]
    by_cases hj : position = j
    · have hlength : position < (w.table.sessions.map Session.socket).length := by
        rw [List.length_map]
        exact hposition
      rw [if_pos hj, if_pos hlength, ← hj, List.getElem?_eq_getElem hposition]
      simp
    · rw [if_neg hj, List.getElem?_map]
      cases w.table.sessions[j]? with
      | none => rfl
      | some s => simp [hj]
  unfold Ends
  rw [hresult]
  show World.resources { w with table := { w.table with
    sessions := w.table.sessions.modify position ({ · with socket }) } } = _
  unfold World.resources
  rw [hsockets]

/-- The same where the sockets before the position and behind it are told apart. -/
theorem ends_setSocketAt {done rest : List (Option SocketId)} {old : Option SocketId}
    (hsockets : w.resources.sockets = done ++ old :: rest) (socket : Option SocketId)
    {fails : Fault → World → Prop} :
    Ends (modifySession done.length ({ · with socket })) w
      (fun _ w' => w'.resources = { w.resources with sockets := (done ++ [socket]) ++ rest }) fails := by
  have hposition : done.length < w.table.size := by
    rw [← w.length_sockets, hsockets, List.length_append, List.length_cons]
    omega
  have hset : w.resources.sockets.set done.length socket = (done ++ [socket]) ++ rest := by
    rw [hsockets, List.set_append_right _ _ (Nat.le_refl _), Nat.sub_self, List.set_cons_zero,
      List.append_assoc, List.singleton_append]
  rw [← hset]
  exact ends_setSocket hposition socket

/-- **A session takes over a socket** that is in the caller's hands. -/
theorem ends_adopt {before : List Call} {id : SocketId} {done rest : List (Option SocketId)}
    (howned : Owned before [id] w.resources) (hsockets : w.resources.sockets = done ++ none :: rest)
    {fails : Fault → World → Prop} :
    Ends (adopt done.length id) w
      (fun _ w' => Owned before [] w'.resources ∧
        Beside Resources.uplinks w.resources w'.resources ∧
        w'.resources.sockets = (done ++ [some id]) ++ rest) fails := by
  unfold adopt
  refine (ends_setSocketAt hsockets (some id)).bind ?_
  intro _ w₁ h₁
  show Owned before [] w₁.resources ∧ Beside Resources.uplinks w.resources w₁.resources ∧
    w₁.resources.sockets = (done ++ [some id]) ++ rest
  rw [h₁]
  refine ⟨howned.handOver ?_ rfl rfl rfl, ⟨rfl, rfl, rfl⟩, rfl⟩
  unfold Resources.held
  dsimp only
  rw [hsockets]
  -- The socket moves from behind all others to its place among the sessions'.
  have hleft : (done ++ none :: rest).reduceOption = done.reduceOption ++ rest.reduceOption := by
    rw [List.reduceOption_append, List.reduceOption_cons_of_none]
  have hright : (done ++ [some id] ++ rest).reduceOption =
      done.reduceOption ++ id :: rest.reduceOption := by
    rw [List.append_assoc, List.reduceOption_append, List.singleton_append,
      List.reduceOption_cons_of_some]
  rw [hleft, hright, List.append_nil, List.append_assoc, List.append_assoc, List.append_assoc]
  refine List.Perm.append_left _ ?_
  rw [List.cons_append, ← List.append_assoc]
  exact List.perm_append_singleton _ _

/-- Joining the groups of sessions that have no socket yet. -/
theorem ends_joinFrom (r : Receiver) {before : List Call} (hindex : 0 ≤ index ∧ index < 2 ^ 31)
    (hoptions : w.resources.RefusesBySystem .setOption) (hbinds : w.resources.RefusesBySystem .bind)
    (howned : Owned before [] w.resources) {sessions : List Session}
    (hports : ∀ session ∈ sessions, ∀ target, session.target = some target → target.HasPort)
    {done : List (Option SocketId)}
    (hsockets : w.resources.sockets = done ++ List.replicate sessions.length none) :
    Ends (r.joinFrom index done.length sessions) w
      (fun _ w' => Owned before [] w'.resources ∧
        Beside Resources.uplinks w.resources w'.resources)
      fun _ w' => Owned before [] w'.resources ∧
        Beside Resources.uplinks w.resources w'.resources := by
  -- The sessions in front have their sockets, and none of those behind them has one.
  induction sessions generalizing w done with
  | nil => exact ⟨howned, .refl _⟩
  | cons session sessions ih =>
      have huplinks : ∀ r' : Resources, Beside Resources.holders w.resources r' →
          Beside Resources.uplinks w.resources r' := by
        intro r' h
        exact ⟨congrArg Prod.snd h.others, h.ticking, h.refusals⟩
      unfold joinFrom
      refine ends_bind ((ends_openOne r hindex hoptions hbinds howned
        (hports session List.mem_cons_self)).mono ?_ ?_)
      · rintro id w₁ ⟨howned₁, hbeside₁⟩
        have hsockets₁ : w₁.resources.sockets = w.resources.sockets :=
          congrArg Prod.fst hbeside₁.others
        rw [hsockets, List.length_cons, List.replicate_succ] at hsockets₁
        refine (ends_adopt howned₁ hsockets₁).bind ?_
        rintro _ w₂ ⟨howned₂, hbeside₂, hsockets₂⟩
        have hbeside := (huplinks _ hbeside₁).trans hbeside₂
        have hlength : done.length + 1 = (done ++ [some id]).length := by
          rw [List.length_append, List.length_singleton]
        rw [hlength]
        have hrest := fun s hs => hports s (List.mem_cons_of_mem session hs)
        refine (ih (hbeside.refuses hoptions) (hbeside.refuses hbinds) howned₂ hrest
          hsockets₂).mono ?_ ?_
        · exact fun _ w' h => ⟨h.1, hbeside.trans h.2⟩
        · exact fun _ w' h => ⟨h.1, hbeside.trans h.2⟩
      · exact fun _ w' h => ⟨h.1, huplinks _ h.2⟩

/-- A start that breaks off leaves every socket with its session. -/
theorem ends_start (r : Receiver) {before : List Call} (hready : Ready w)
    (hunused : w.resources.Unused) (howned : Owned before [] w.resources) :
    Ends r.start w
      (fun _ w' => Owned before [] w'.resources ∧
        Beside Resources.uplinks w.resources w'.resources)
      fun _ w' => Owned before [] w'.resources ∧
        Beside Resources.uplinks w.resources w'.resources := by
  unfold start
  have hlog : ∀ level message,
      Keeps (.of fun w : World => (w.resources, w.table)) (log level message) :=
    fun level message w => Prod.ext (aside_log level message w) rfl
  refine ends_bind ((ends_interfaceIndex hlog hready.indexes r.interface).mono ?_ ?_)
  · rintro index w₁ ⟨hindex, hsame⟩
    obtain ⟨h₁, htable⟩ := Prod.mk.inj hsame
    have hports : ∀ session ∈ w₁.table.sessions, ∀ target,
        session.target = some target → target.HasPort := by
      intro session hsession target htarget
      refine hready.ports target ?_
      rw [← htable, ← htarget]
      exact List.mem_map_of_mem hsession
    have hsockets : w₁.resources.sockets =
        [] ++ List.replicate w₁.table.sessions.length none := by
      rw [List.nil_append, List.eq_replicate_iff]
      refine ⟨w₁.length_sockets, ?_⟩
      rw [h₁]
      exact hunused.1
    have hoptions := hready.options
    have hbinds := hready.binds
    rw [← h₁] at howned hoptions hbinds ⊢
    exact ends_get_bind (ends_joinFrom r hindex hoptions hbinds howned hports hsockets)
  · intro _ _ h
    exact h.elim

/-! ## Closing -/

theorem ends_unwatch (id : SocketId) {fails : Fault → World → Prop} :
    Ends (unwatch id) w (fun _ w' => w'.resources = w.resources) fails :=
  aside_modifyHost (fun _ => rfl) w

/-- **Every session gives up its socket**, which is closed. -/
theorem ends_releaseFrom {sessions : List Session} {done : List (Option SocketId)}
    (hsockets : w.resources.sockets = done ++ sessions.map Session.socket) :
    Ends (releaseFrom done.length sessions) w
      (fun _ w' => w'.resources =
        { w.resources.closed (sessions.map Session.socket).reduceOption with
          sockets := done ++ List.replicate sessions.length none }) fun _ _ => False := by
  -- What is in front of the sessions stays as it is, and the next one is behind it.
  induction sessions generalizing w done with
  | nil =>
      show w.resources = _
      unfold Resources.closed
      rw [List.map_nil, List.reduceOption_nil, List.map_nil, List.append_nil, List.length_nil,
        List.replicate_zero]
      rw [List.map_nil] at hsockets
      rw [← hsockets]
  | cons session sessions ih =>
      have hlength : done.length + 1 = (done ++ [none]).length := by
        rw [List.length_append, List.length_singleton]
      have hdone : done ++ List.replicate (session :: sessions).length none =
          (done ++ [none]) ++ List.replicate sessions.length none := by
        rw [List.length_cons, List.replicate_succ, List.append_assoc, List.singleton_append]
      rw [List.map_cons] at hsockets
      rw [List.map_cons, hdone]
      unfold releaseFrom
      rw [hlength]
      cases hsocket : session.socket with
      | none =>
          rw [hsocket, ← List.singleton_append, ← List.append_assoc] at hsockets
          rw [List.reduceOption_cons_of_none]
          exact ih hsockets
      | some id =>
          rw [List.reduceOption_cons_of_some]
          refine (ends_unwatch id).bind ?_
          intro _ w₁ h₁
          refine (ends_closeSocket id).bind ?_
          intro _ w₂ h₂
          have hsockets₂ : w₂.resources.sockets =
              done ++ session.socket :: sessions.map Session.socket := by
            rw [h₂, h₁]
            exact hsockets
          refine (ends_setSocketAt hsockets₂ none).bind ?_
          intro _ w₃ h₃
          have hsockets₃ : w₃.resources.sockets =
              (done ++ [none]) ++ sessions.map Session.socket := by
            rw [h₃]
          refine (ih hsockets₃).mono ?_ fun _ _ h => h
          intro _ w' h'
          rw [h', h₃, h₂, h₁]
          unfold Resources.closed
          dsimp only
          rw [List.append_assoc w.resources.calls]
          rfl

/-- **The receiver is tidy**: sessions hold all sockets, and there are no uplinks. -/
theorem tidy (r : Receiver) : r.transport.Tidy fun _ uplinks => uplinks = [] where
  start {before w} hready hunused howned := by
    have hkept : ∀ r' : Resources, Owned before [] r' ∧ Beside Resources.uplinks w.resources r' →
        Kept before (fun _ uplinks => uplinks = []) w.resources.ticking r' := by
      rintro r' ⟨howned', hbeside⟩
      exact ⟨howned', hbeside.others.trans hunused.2, hbeside.ticking⟩
    exact (ends_start r hready hunused howned).mono (fun _ _ h => hkept _ h) fun _ _ h => hkept _ h
  step := keeps_step stepping_resources r
  close {before w ticking} hkept := by
    show Ends close w _ _
    unfold close
    have hsockets : w.resources.sockets = [] ++ w.table.sessions.map Session.socket := rfl
    refine ends_get_bind ((ends_releaseFrom hsockets).bind ?_)
    intro _ w₁ h₁
    obtain ⟨howned, huplinks, hticking⟩ := hkept
    refine (ends_call rfl).mono ?_ fun _ _ h => h
    intro _ w' h'
    -- The sessions' sockets are all that are held, so none is left once they are closed.
    have hloose : Owned before (w.resources.sockets.reduceOption ++ [])
        { w.resources with sockets := List.replicate w.table.sessions.length none } := by
      refine howned.handOver ?_ rfl rfl rfl
      unfold Resources.held
      dsimp only
      rw [List.reduceOption_replicate_none, huplinks, List.map_nil]
      simp only [List.append_nil, List.nil_append]
      exact List.Perm.refl _
    have hresources : w'.resources = Resources.closed w.resources.sockets.reduceOption
        { w.resources with sockets := List.replicate w.table.sessions.length none } := by
      rw [h', h₁]
      rfl
    rw [hresources]
    refine ⟨⟨?_, huplinks⟩, hloose.closed, hticking⟩
    intro socket hsocket
    exact List.eq_of_mem_replicate hsocket

end Multicast.Receiver
