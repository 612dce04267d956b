import Mathlib.Data.List.Nodup
import Mathlib.Data.List.Perm.Subperm
import Multicast.Proofs.Transport.Footing

/-!
# `Proofs.Receiver.Joined` — which socket is watched for which session

A receiver that has joined its groups watches one socket for each session, and no socket for two. Its
steps leave that as it is, whatever arrives.

## Contents
- **Joined.** `World.Joined`, that sockets and sessions belong together one by one, which holds as
  long as the footing is upheld (`World.Joined.upheld`).
- **Joining.** `Receiver.openOne_eq_ok`, a socket that was not in use, and `Receiver.joined_start`.
-/

namespace Multicast

open Act

/-! ## Joined -/

/-- One socket is watched for each session, in the order of the sessions, and none for two. -/
structure World.Joined (w : World) : Prop where
  sessions : w.host.places.map Prod.snd = List.range w.table.size
  sockets : (w.host.places.map Prod.fst).Nodup

namespace World.Joined

variable {w w' : World}

/-- What keeps the sockets where they are keeps them joined. -/
theorem of_places (h : w.Joined) (hplaces : w'.host.places = w.host.places)
    (hsize : w'.table.size = w.table.size) : w'.Joined := by
  constructor
  · rw [hplaces, hsize]
    exact h.sessions
  · rw [hplaces]
    exact h.sockets

theorem upheld (h : w.Joined) (hupheld : w.footing.Upheld w'.footing) : w'.Joined := by
  refine h.of_places hupheld.places ?_
  rw [← w'.length_targets, ← w.length_targets, hupheld.targets]

theorem nodup_sessions (h : w.Joined) : (w.host.watched.map (·.session)).Nodup := by
  have hplaces : w.host.places.map Prod.snd = w.host.watched.map (·.session) := List.map_map
  rw [← hplaces, h.sessions]
  exact List.nodup_range

theorem nodup_sockets (h : w.Joined) : (w.host.watched.map (·.socket)).Nodup := by
  have hplaces : w.host.places.map Prod.fst = w.host.watched.map (·.socket) := List.map_map
  rw [← hplaces]
  exact h.sockets

/-- Some of the sockets, in any order, are not reported twice. -/
theorem nodup_of_subperm (h : w.Joined) {reported : List Watch}
    (hreported : reported.Subperm w.host.watched) : reported.Nodup := by
  obtain ⟨sublist, hperm, hsublist⟩ := hreported
  exact hperm.nodup_iff.1 (h.nodup_sockets.of_map.sublist hsublist)

/-- A session has one socket. -/
theorem eq_of_session (h : w.Joined) {u v : Watch} (hu : u ∈ w.host.watched)
    (hv : v ∈ w.host.watched) (heq : u.session = v.session) : u = v :=
  List.inj_on_of_nodup_map h.nodup_sessions hu hv heq

/-- A socket is that of one session. -/
theorem eq_of_socket (h : w.Joined) {u v : Watch} (hu : u ∈ w.host.watched)
    (hv : v ∈ w.host.watched) (heq : u.socket = v.socket) : u = v :=
  List.inj_on_of_nodup_map h.nodup_sockets hu hv heq

/-- A socket that is watched is watched for a session of the table. -/
theorem session_lt (h : w.Joined) {v : Watch} (hv : v ∈ w.host.watched) :
    v.session < w.table.sessions.length := by
  have hmem : v.session ∈ w.host.places.map Prod.snd := by
    rw [Host.places, List.map_map]
    exact List.mem_map_of_mem hv
  rw [h.sessions, List.mem_range] at hmem
  exact hmem

end World.Joined

/-! ## Joining -/

/-- What opening and closing sockets decides on: the number of the next one, which are watched, and
    the sessions. -/
def World.seating (w : World) : Nat × List Watch × Table :=
  (w.host.nextSocket, w.host.watched, w.table)

/-- Setting up a socket seats no one. -/
theorem arranging_seating : (Frame.of World.seating).Arranging where
  prepare _ _ _ _ := rfl
  check kind w := by
    rw [after_check]
    rfl
  log level message w := by
    have hlog : ((w.host.log level message).nextSocket, (w.host.log level message).watched) =
        (w.host.nextSocket, w.host.watched) := by
      refine Host.log_leaves (fun h => (h.nextSocket, h.watched)) (fun _ _ => rfl) ?_ _ _ _
      intro h r sink
      cases sink <;> rfl
    obtain ⟨hnext, hwatched⟩ := Prod.mk.inj hlog
    show World.seating { w with host := w.host.log level message } = w.seating
    simp only [World.seating, hnext, hwatched]

/-- A socket that is opened has the next number. -/
theorem Act.openSocket_eq_ok {family : Family} {id : SocketId} {w w' : World}
    (h : openSocket family w = .ok id w') : id = w.host.nextSocket ∧
      w'.seating = (w.host.nextSocket + 1, w.host.watched, w.table) := by
  obtain ⟨_, w₁, hcheck, hopen⟩ := bind_eq_ok.1 h
  have hseating := rel_of_ok (arranging_seating.check .openSocket) hcheck
  obtain ⟨hnext, hrest⟩ := Prod.mk.inj hseating
  obtain ⟨hwatched, htable⟩ := Prod.mk.inj hrest
  obtain ⟨hid, rfl⟩ := EStateM.Result.ok.inj hopen
  refine ⟨hid.symm.trans hnext, ?_⟩
  show (w₁.host.nextSocket + 1, w₁.host.watched, w₁.table) = _
  rw [hnext, hwatched, htable]

namespace Receiver

/-- **A socket that joined a group** has the number that was next, and is not watched yet. -/
theorem openOne_eq_ok {r : Receiver} {index : Int} {session : Session} {id : SocketId} {w w' : World}
    (h : r.openOne index session w = .ok id w') : id = w.host.nextSocket ∧
      w'.seating = (w.host.nextSocket + 1, w.host.watched, w.table) := by
  unfold openOne at h
  cases htarget : session.target with
  | none =>
      rw [htarget] at h
      cases h
  | some target =>
      rw [htarget] at h
      obtain ⟨id', w₁, hopen, h⟩ := bind_eq_ok.1 h
      obtain ⟨hid, hseating⟩ := openSocket_eq_ok hopen
      obtain ⟨_, w₂, hprepare, h⟩ := bind_eq_ok.1 h
      have hseating₂ : w₂.seating = w₁.seating := by
        refine rel_of_ok (F := .of World.seating) ?_ hprepare
        refine keeps_recover (keeps_prepare arranging_seating r index id' target (fun _ => rfl) _)
          fun e => ?_
        exact keeps_bind (keeps_closeSocket arranging_seating id') fun _ => keeps_throw _
      obtain ⟨_, w₃, hlog, h⟩ := bind_eq_ok.1 h
      have hseating₃ := rel_of_ok (arranging_seating.log _ _) hlog
      obtain ⟨rfl, rfl⟩ := EStateM.Result.ok.inj h
      exact ⟨hid, hseating₃.trans (hseating₂.trans hseating)⟩

/-- The sessions in front of a position are joined, and none behind it is. -/
structure JoinedUpTo (position : Nat) (w : World) : Prop where
  sessions : w.host.places.map Prod.snd = List.range position
  sockets : (w.host.places.map Prod.fst).Nodup
  fresh : ∀ id ∈ w.host.places.map Prod.fst, id < w.host.nextSocket

/-- A socket that is adopted is watched for the session at the position. -/
theorem adopt_eq_ok {position : Nat} {id : SocketId} {w w' : World}
    (h : adopt position id w = .ok () w') :
    w'.host.places = w.host.places ++ [(id, position)] ∧ w'.host.nextSocket = w.host.nextSocket ∧
      w'.table.size = w.table.size := by
  obtain ⟨_, w₁, hmodify, hwatch⟩ := bind_eq_ok.1 h
  obtain ⟨k, -, rfl⟩ := modifySession_eq_ok_iff.1 hmodify
  obtain ⟨-, rfl⟩ := EStateM.Result.ok.inj hwatch
  exact ⟨List.map_append, rfl, List.length_modify ..⟩

/-- **A socket that was not in use** joins the next session. -/
theorem JoinedUpTo.adopt {position : Nat} {w w₁ w' : World} (h : JoinedUpTo position w)
    (hseating : w₁.seating = (w.host.nextSocket + 1, w.host.watched, w.table))
    (hadopt : Receiver.adopt position w.host.nextSocket w₁ = .ok () w') :
    JoinedUpTo (position + 1) w' ∧ w'.table.size = w.table.size := by
  obtain ⟨hnext, hrest⟩ := Prod.mk.inj hseating
  obtain ⟨hwatched, htable⟩ := Prod.mk.inj hrest
  obtain ⟨hplaces', hnext', hsize'⟩ := adopt_eq_ok hadopt
  have hplaces : w'.host.places = w.host.places ++ [(w.host.nextSocket, position)] := by
    rw [hplaces', Host.places, hwatched]
    rfl
  rw [hnext] at hnext'
  rw [htable] at hsize'
  refine ⟨?_, hsize'⟩
  constructor
  · rw [hplaces, List.map_append, h.sessions, List.range_succ]
    rfl
  · rw [hplaces, List.map_append]
    refine List.Nodup.append h.sockets (List.nodup_singleton _) ?_
    intro id hid hnew
    have hlt := h.fresh id hid
    have heq : id = w.host.nextSocket := List.mem_singleton.1 hnew
    omega
  · rw [hplaces, hnext', List.map_append]
    intro id hid
    rcases List.mem_append.1 hid with hold | hnew
    · have hlt := h.fresh id hold
      omega
    · have heq : id = w.host.nextSocket := List.mem_singleton.1 hnew
      omega

/-- Joining the groups of the sessions behind a position. -/
theorem JoinedUpTo.joinFrom {r : Receiver} {index : Int} {sessions : List Session} {position : Nat}
    {w w' : World} (h : JoinedUpTo position w)
    (hjoin : r.joinFrom index position sessions w = .ok () w') :
    JoinedUpTo (position + sessions.length) w' ∧ w'.table.size = w.table.size := by
  induction sessions generalizing position w with
  | nil =>
      obtain ⟨-, rfl⟩ := EStateM.Result.ok.inj hjoin
      exact ⟨h, rfl⟩
  | cons session sessions ih =>
      obtain ⟨id, w₁, hopen, hbehind⟩ := bind_eq_ok.1 hjoin
      obtain ⟨_, w₂, hadopt, hrest⟩ := bind_eq_ok.1 hbehind
      obtain ⟨rfl, hseating⟩ := openOne_eq_ok hopen
      obtain ⟨h₂, hsize₂⟩ := h.adopt hseating hadopt
      obtain ⟨h', hsize'⟩ := ih h₂ hrest
      rw [List.length_cons, ← Nat.add_assoc, Nat.add_right_comm]
      exact ⟨h', hsize'.trans hsize₂⟩

/-- **A receiver that has started is joined**, if it watched nothing before. -/
theorem joined_start {r : Receiver} {w w' : World} (hfresh : w.host.watched = [])
    (hstart : r.start w = .ok () w') : w'.Joined := by
  obtain ⟨index, w₁, hindex, hjoin⟩ := bind_eq_ok.1 hstart
  have hseating := rel_of_ok (keeps_interfaceIndex arranging_seating.log _) hindex
  obtain ⟨-, hrest⟩ := Prod.mk.inj hseating
  obtain ⟨hwatched, -⟩ := Prod.mk.inj hrest
  have hjoin₁ : r.joinFrom index 0 w₁.table.sessions w₁ = .ok () w' := hjoin
  have hzero : JoinedUpTo 0 w₁ := by
    have hplaces : w₁.host.places = [] := by
      rw [Host.places, hwatched, hfresh]
      rfl
    constructor <;> simp [hplaces]
  obtain ⟨h, hsize⟩ := hzero.joinFrom hjoin₁
  constructor
  · rw [h.sessions, hsize, Nat.zero_add]
    rfl
  · exact h.sockets

end Receiver

end Multicast
