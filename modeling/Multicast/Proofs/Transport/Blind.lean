import Multicast.Proofs.Transport.Alongside

/-!
# `Proofs.Transport.Blind` — sending and receiving alongside another run

No stage of a transport looks at what is shown or logged. On two worlds that are alongside each other it
ends in the same way, with the same calls on sockets, and leaves them alongside each other.

## Contents
- **Basic steps.** `blind_interfaceIndex`, `blind_interfaceAddress`, `blind_openSocket` and
  `blind_receive`.
- **Sender.** `Sender.blind_start`, `Sender.blind_step` and `Sender.blind_close`.
- **Receiver.** `Receiver.blind_account` for one datagram, then `Receiver.blind_start`,
  `Receiver.blind_step` and `Receiver.blind_close`.
-/

namespace Multicast

open Act

/-! ## Basic steps -/

namespace Act

/-- Asking for the index of an interface. -/
theorem blind_interfaceIndex (interface : String) : Blind (interfaceIndex interface) := by
  unfold interfaceIndex
  split
  · exact alike_pure 0
  · intro w w' h
    have hinterfaces : w.host.interfaces = w'.host.interfaces :=
      congrArg Dealings.interfaces h.dealings
    refine endAlike_get_bind ?_
    rw [hinterfaces]
    split
    · exact ⟨rfl, h⟩
    · exact alike_bind (blind_log _ _) (fun _ => alike_pure 0) w w' h

/-- The address that is listed is the same, and so is what comes next if there is none. -/
theorem blind_listed (listing : String) {rest : Act (Option String)} (h : Blind rest) :
    Blind (match Interfaces.listedAddress? none listing.toList with
      | some address => pure (some (String.ofList address))
      | none => rest) := by
  split
  · exact alike_pure _
  · exact h

/-- Asking for the listed addresses of an interface. -/
theorem blind_firstAddress (interface : String) (families : List Int) :
    Blind (firstAddress interface families) := by
  have houtput : ∀ text, Blind (output text) := by
    intro text
    refine alike_bind (blind_call _) fun _ w w' h => endAlike_get_bind ?_
    have hcommands : w.host.commands = w'.host.commands := congrArg Dealings.commands h.dealings
    rw [hcommands]
    exact ⟨rfl, h⟩
  induction families with
  | nil => exact alike_pure none
  | cons family families ih =>
      unfold firstAddress
      split
      · exact alike_bind (alike_pure _) fun listing => blind_listed listing ih
      · exact alike_bind (houtput _) fun listing => blind_listed listing ih

/-- Asking for an address without falling back on the host's own looks up no name. -/
theorem blind_interfaceAddress (interface : String) (family : Int) :
    Blind (interfaceAddress interface family false) := by
  unfold interfaceAddress
  refine alike_bind (blind_firstAddress interface _) fun found => ?_
  cases found with
  | some address => exact alike_pure _
  | none => exact alike_pure _

theorem blind_openSocket (family : Family) : Blind (openSocket family) := by
  unfold openSocket
  refine alike_bind (blind_check rfl) fun _ w w' h => endAlike_get_bind ?_
  have hnext : w.host.nextSocket = w'.host.nextSocket := congrArg Dealings.nextSocket h.dealings
  rw [hnext]
  have hnumbered : Blind (modifyHost ({ · with nextSocket := w'.host.nextSocket + 1 })) :=
    blind_modifyHost (fun d => { d with nextSocket := w'.host.nextSocket + 1 }) (fun _ => rfl)
      (fun _ h => h) fun _ => rfl
  exact alike_bind hnumbered (fun _ => alike_bind (blind_call _) fun _ => alike_pure _) w w' h

theorem blind_setOption (id : SocketId) (name : OptionName) (value : OptionValue) :
    Blind (setOption id name value) :=
  blind_attempt rfl _

theorem blind_closeSocket (id : SocketId) : Blind (closeSocket id) :=
  blind_call _

/-- **A read finds the same in both runs**, and leaves the same for the reads after it. -/
theorem blind_receive (id : SocketId) (limit : Int) : Blind (receive id limit) := by
  unfold receive
  refine alike_bind (blind_submit _) fun _ w w' h => endAlike_get_bind ?_
  have hwatched : w.host.watched = w'.host.watched := congrArg Dealings.watched h.dealings
  have hleft : ∀ watched, Alongside { w with host := { w.host with watched } }
      { w' with host := { w'.host with watched } } := by
    intro watched
    refine h.withHost ?_ h.calm.setting rfl
    show ({ w.host.dealings with watched } : Dealings) = { w'.host.dealings with watched }
    rw [h.dealings]
  unfold Host.take?
  rw [hwatched]
  cases w'.host.watched.find? (·.socket = id) with
  | none => exact ⟨rfl, h⟩
  | some v =>
      dsimp only
      cases v.queue.head? with
      | none => exact ⟨rfl, hleft _⟩
      | some arrival => cases arrival <;> exact ⟨rfl, hleft _⟩

end Act

/-! ## Sender -/

namespace Sender

theorem blind_configure (s : Sender) (index : Int) (id : SocketId) (family : Family) :
    Blind (s.configure index id family) := by
  unfold configure
  cases family with
  | inet =>
      refine alike_bind (blind_setOption _ _ _) fun _ => ?_
      by_cases hzero : index ≠ 0
      · rw [if_pos hzero]
        cases interfaceRequest4? (zeros 4) index with
        | some request => exact blind_setOption _ _ _
        | none => exact alike_throw _
      · rw [if_neg hzero]
        exact alike_pure ()
  | inet6 =>
      refine alike_bind (blind_setOption _ _ _) fun _ => ?_
      split
      · exact blind_setOption _ _ _
      · exact alike_pure ()

theorem blind_openUplink (s : Sender) (index : Int) (family : Family) :
    Blind (s.openUplink index family) := by
  unfold openUplink
  refine alike_bind (blind_openSocket family) fun id => ?_
  refine alike_bind (alike_recover (blind_configure s index id family) fun e => ?_) fun _ => ?_
  · exact alike_bind (blind_closeSocket id) fun _ => alike_throw _
  · intro w w' h
    have huplinks : withUplink family id w.uplinks = withUplink family id w'.uplinks := by
      rw [h.uplinks]
    exact ⟨rfl, { h with uplinks := huplinks, calm := { h.calm with } }⟩

/-- **The sender opens the same sockets in both runs.** -/
theorem blind_start (s : Sender) : Blind s.start := by
  unfold start
  refine alike_bind (blind_interfaceIndex _) fun index w w' h => endAlike_get_bind ?_
  rw [h.families]
  refine alike_bind (alike_forM fun family _ => blind_openUplink s index family) (fun _ w w' h => ?_)
    w w' h
  refine endAlike_get_bind ?_
  rw [h.size]
  exact blind_log _ _ w w' h

/-- A packet has nothing to do with the spinner of its session. -/
theorem sendFrom_still (s : Sender) (i : Nat) (sessions : List Session) :
    s.sendFrom i (sessions.map Session.still) = s.sendFrom i sessions := by
  induction sessions generalizing i with
  | nil => rfl
  | cons session sessions ih =>
      rw [List.map_cons, sendFrom, sendFrom, ih]
      rfl

theorem blind_sendOne (s : Sender) (i : Nat) (session : Session) : Blind (s.sendOne i session) := by
  unfold sendOne
  cases session.target with
  | none => exact alike_throw _
  | some target =>
      intro w w' h
      refine endAlike_get_bind ?_
      rw [h.uplinks]
      cases w'.uplinks.lookup target.family with
      | none => exact ⟨rfl, h⟩
      | some id =>
          refine alike_bind ?_ (fun _ => ?_) w w' h
          · exact alike_recover (blind_attempt rfl _) fun e => alike_throw _
          · exact blind_modifySession fun _ => rfl

theorem blind_sendFrom (s : Sender) (i : Nat) (sessions : List Session) :
    Blind (s.sendFrom i sessions) := by
  induction sessions generalizing i with
  | nil => exact alike_pure ()
  | cons session sessions ih =>
      unfold sendFrom
      split
      · exact alike_bind (blind_sendOne s i session) fun _ => ih (i + 1)
      · exact ih (i + 1)

/-- **The sender sends the same in both runs.** -/
theorem blind_step (s : Sender) : Blind s.step := by
  unfold step
  refine alike_bind (blind_measured _) fun span => alike_bind (blind_submit _) fun _ => ?_
  refine alike_bind blind_await fun _ w w' h => endAlike_get_bind ?_
  rw [← s.sendFrom_still, h.sessions, s.sendFrom_still]
  exact alike_bind (blind_sendFrom s 0 _) (fun _ => blind_finishWhenDone _ _) w w' h

/-- **The sender closes the same sockets in both runs.** -/
theorem blind_close : Blind close := by
  intro w w' h
  unfold close
  refine endAlike_get_bind ?_
  rw [h.uplinks]
  refine alike_bind (alike_forM fun uplink _ => blind_closeSocket uplink.2) (fun _ w w' h => ?_) w w' h
  exact ⟨rfl, { h with uplinks := rfl, calm := { h.calm with } }⟩

end Sender

/-! ## Receiver -/

namespace Receiver

theorem blind_request (index : Int) (id : SocketId) (target : Endpoint) (origin : Option Endpoint)
    (address : Octets) :
    Blind (match Membership.request? target origin index address with
      | some (name, request) => setOption id name (.bytes request)
      | none => throw (.fieldRange (target.family = .inet) index)) := by
  split
  · exact blind_setOption _ _ _
  · exact alike_throw _

theorem blind_join (r : Receiver) (index : Int) (id : SocketId) (target : Endpoint)
    (origin : Option Endpoint) : Blind (r.join index id target origin) := by
  have haddress : Blind r.localAddress := by
    unfold localAddress
    refine alike_bind (blind_interfaceAddress _ _) fun text => ?_
    cases Address.readNumbers? text with
    | some address => exact alike_pure address
    | none => exact alike_throw _
  unfold join
  split
  · exact alike_bind haddress fun address => blind_request index id target origin address
  · exact alike_bind (alike_pure _) fun address => blind_request index id target origin address

theorem blind_openOne (r : Receiver) (index : Int) (session : Session) :
    Blind (r.openOne index session) := by
  unfold openOne
  cases session.target with
  | none => exact alike_throw _
  | some target =>
      refine alike_bind (blind_openSocket target.family) fun id => ?_
      refine alike_bind (alike_recover ?_ fun e => ?_) fun _ =>
        alike_bind (blind_log _ _) fun _ => alike_pure id
      · refine alike_bind (blind_setOption _ _ _) fun _ => alike_bind (blind_attempt rfl _) fun _ => ?_
        exact alike_bind (blind_join r index id target _) fun _ => blind_call _
      · exact alike_bind (blind_closeSocket id) fun _ => alike_throw _

theorem blind_adopt (position : Nat) (id : SocketId) : Blind (adopt position id) :=
  alike_bind (blind_modifySession fun _ => rfl) fun _ =>
    blind_modifyHost (fun d => { d with watched := d.watched ++ [⟨id, position, []⟩] }) (fun _ => rfl)
      (fun _ h => h) fun _ => rfl

theorem blind_joinFrom (r : Receiver) (index : Int) (position : Nat) (sessions : List Session) :
    Blind (r.joinFrom index position sessions) := by
  induction sessions generalizing position with
  | nil => exact alike_pure ()
  | cons session sessions ih =>
      unfold joinFrom
      refine alike_bind (blind_openOne r index session) fun id => ?_
      exact alike_bind (blind_adopt position id) fun _ => ih (position + 1)

/-- Joining a group has nothing to do with the spinner of its session. -/
theorem joinFrom_still (r : Receiver) (index : Int) (position : Nat) (sessions : List Session) :
    r.joinFrom index position (sessions.map Session.still) = r.joinFrom index position sessions := by
  induction sessions generalizing position with
  | nil => rfl
  | cons session sessions ih =>
      rw [List.map_cons, joinFrom, joinFrom]
      simp only [ih]
      rfl

/-- **The receiver joins the same groups in both runs.** -/
theorem blind_start (r : Receiver) : Blind r.start := by
  unfold start
  refine alike_bind (blind_interfaceIndex _) fun index w w' h => endAlike_get_bind ?_
  rw [← r.joinFrom_still, h.sessions, r.joinFrom_still]
  exact blind_joinFrom r index 0 _ w w' h

/-- Whatever is to be said of a datagram is said in both runs. -/
theorem blind_remark (group : String) (note : Option Session.Remark) : Blind (do
    match note with
      | some note => remark group note
      | none => pure ()
    pure true) := by
  cases note with
  | none => exact alike_pure true
  | some note => cases note <;> exact alike_bind (blind_log _ _) fun _ => alike_pure true

/-- **A datagram is counted in both runs or in neither**, with the same remark. -/
theorem blind_account (r : Receiver) (i : Int) (data : Octets) : Blind (r.account i data) := by
  intro w w' h
  unfold account
  refine endAlike_get_bind ?_
  rcases Session.still_cases (h.get? i) with ⟨hs, hs'⟩ | ⟨session, session', hs, hs', hstill⟩
  · rw [hs, hs']
    exact ⟨rfl, h⟩
  · -- The sessions differ in their spinners at most, which neither the limit nor a remark looks at.
    have hopen : session.isOpen r.count = session'.isOpen r.count := by
      show session.still.isOpen r.count = session'.still.isOpen r.count
      rw [hstill]
    have hgroup : session.group = session'.group := by
      show session.still.group = session'.still.group
      rw [hstill]
    rw [hs, hs']
    dsimp only
    rw [hopen, hgroup]
    split
    · have hcounts := Session.accept_of_still hstill data.length
      refine alike_bind (alike_modifySession fun _ _ _ => (hcounts _).1) (fun _ => ?_) w w' h
      rw [(hcounts _).2]
      exact blind_remark _ _
    · exact ⟨rfl, h⟩

theorem blind_drain (r : Receiver) (id : SocketId) (position : Nat) (group : String) (fuel : Nat) :
    Blind (r.drain id position group fuel) := by
  induction fuel with
  | zero => exact alike_pure ()
  | succ fuel ih =>
      unfold drain
      refine alike_bind (blind_receive id r.limit) fun read => ?_
      cases read with
      | ok data => exact alike_bind (blind_account r position data) fun _ => ih
      | error e =>
          dsimp only
          split
          · exact alike_pure ()
          · exact alike_throw _

theorem blind_drainWatch (r : Receiver) (watch : Watch) : Blind (r.drainWatch watch) := by
  intro w w' h
  unfold drainWatch
  refine endAlike_get_bind ?_
  rcases Session.still_cases (h.get? watch.session) with
    ⟨hs, hs'⟩ | ⟨session, session', hs, hs', hstill⟩
  · rw [hs, hs']
    exact ⟨rfl, h⟩
  · have hgroup : session.group = session'.group := by
      show session.still.group = session'.still.group
      rw [hstill]
    rw [hs, hs']
    dsimp only
    rw [hgroup]
    exact blind_drain r _ _ _ _ w w' h

/-- A wait ends in both runs with the same sockets ready. -/
theorem blind_wait (r : Receiver) : Blind r.wait := by
  unfold wait
  refine alike_recover ?_ fun e => alike_throw _
  refine alike_bind (blind_measured _) fun span => alike_bind (blind_attempt rfl _) fun _ => ?_
  refine alike_bind blind_await fun _ w w' h => endAlike_get_bind ?_
  have hwatched : w.host.watched = w'.host.watched := congrArg Dealings.watched h.dealings
  have hready : w.host.ready = w'.host.ready := by
    unfold Host.ready
    rw [hwatched]
  rw [hready]
  exact ⟨rfl, h⟩

/-- **The receiver counts the same in both runs.** -/
theorem blind_step (r : Receiver) : Blind r.step := by
  unfold step serve
  refine alike_bind (blind_wait r) fun ready => ?_
  refine alike_bind (alike_forM fun watch _ => blind_drainWatch r watch) fun _ => ?_
  exact blind_finishWhenDone _ _

theorem blind_unwatch (id : SocketId) : Blind (unwatch id) :=
  blind_modifyHost (fun d => { d with watched := d.watched.filter (·.socket ≠ id) }) (fun _ => rfl)
    (fun _ h => h) fun _ => rfl

theorem blind_releaseFrom (position : Nat) (sessions : List Session) :
    Blind (releaseFrom position sessions) := by
  induction sessions generalizing position with
  | nil => exact alike_pure ()
  | cons session sessions ih =>
      unfold releaseFrom
      cases session.socket with
      | none => exact ih (position + 1)
      | some id =>
          refine alike_bind (blind_unwatch id) fun _ => alike_bind (blind_closeSocket id) fun _ => ?_
          exact alike_bind (blind_modifySession fun _ => rfl) fun _ => ih (position + 1)

/-- A session's socket has nothing to do with its spinner. -/
theorem releaseFrom_still (position : Nat) (sessions : List Session) :
    releaseFrom position (sessions.map Session.still) = releaseFrom position sessions := by
  induction sessions generalizing position with
  | nil => rfl
  | cons session sessions ih =>
      rw [List.map_cons, releaseFrom, releaseFrom, ih]
      rfl

/-- **The receiver closes the same sockets in both runs.** -/
theorem blind_close : Blind close := by
  intro w w' h
  unfold close
  refine endAlike_get_bind ?_
  rw [← releaseFrom_still, h.sessions, releaseFrom_still]
  exact alike_bind (blind_releaseFrom 0 _) (fun _ => blind_call _) w w' h

end Receiver

end Multicast
