import Multicast.Proofs.Act.Frame
import Multicast.Receiver
import Multicast.Sender

/-!
# `Proofs.Transport.Frame` — what sending and receiving leave as it was

Opening and closing a transport is made of a few basic steps, and so is a step of it. A frame that
each of these keeps is kept by the stages of the sender and of the receiver.

## Contents
- **Basic steps.** `Frame.Arranging`, `Frame.Preparing` and `Frame.SettingUp` for one socket,
  `Frame.Closing` and `Frame.Opening` for closing and opening, `Frame.Reading`, `Frame.Waiting` and
  `Frame.Stepping` for a step, a wait in `Frame.Waiting.await`, and the time while a transport is
  opened in `Frame.Waiting.attend`.
- **Sender.** `Sender.keeps_configure`, `Sender.keeps_start`, `Sender.keeps_step` and
  `Sender.keeps_close`.
- **Receiver.** `Receiver.keeps_join`, `Receiver.keeps_start`, `Receiver.keeps_step` and
  `Receiver.keeps_close`.
-/

namespace Multicast

open Act

/-! ## Basic steps -/

/-- The calls that a transport is opened and closed with. -/
def Call.isOpening : Call → Bool
  | .openSocket _ _ | .setOption _ _ _ | .bind _ _ | .unblock _ | .close _ | .closeSelector
  | .command _ | .lookup _ _ => true
  | _ => false

/-- Those of them that hand on what the settings or a session ask for: how many hops a packet may take,
    and where to listen. -/
def Call.isChosen : Call → Bool
  | .setOption _ .ttl4 _ | .setOption _ .hops6 _ | .bind _ _ => true
  | _ => false

/-- The calls of a step. -/
def Call.isStepping : Call → Bool
  | .send _ _ _ | .receive _ _ | .select _ | .pause _ => true
  | _ => false

/-- A frame is kept by the basic steps of setting up a socket, or closing it again, as far as they do
    not depend on the settings or on the session. -/
structure Frame.Arranging (F : Frame) : Prop where
  prepare : ∀ c, c.isOpening = true → c.isChosen = false → Keeps F (call c)
  check : ∀ kind, Keeps F (check kind)
  log : ∀ level message, Keeps F (log level message)

/-- A frame is kept by opening the socket as well. -/
structure Frame.Preparing (F : Frame) : Prop extends F.Arranging where
  numbered : ∀ w next, F.rel w { w with host := { w.host with nextSocket := next } }

/-- A frame is kept by all basic steps of opening a socket and setting it up, or closing it again. -/
structure Frame.SettingUp (F : Frame) : Prop extends F.Preparing where
  call : ∀ c, c.isOpening = true → Keeps F (call c)
  prepare c hc _ := call c hc

/-- A frame is kept by the basic steps of closing a transport, where sockets lose their holders. -/
structure Frame.Closing (F : Frame) : Prop where
  close : ∀ id, Keeps F (call (.close id))
  closeSelector : Keeps F (call .closeSelector)
  uplinks : ∀ w uplinks, F.rel w { w with uplinks }
  watched : ∀ w watched, F.rel w { w with host := { w.host with watched } }
  socket : ∀ i socket, Keeps F (modifySession i ({ · with socket }))

/-- A frame is kept by those of opening and closing a transport, where sockets find their holders and
    lose them again. -/
structure Frame.Opening (F : Frame) : Prop extends F.SettingUp, F.Closing where
  close id := call (.close id) rfl
  closeSelector := call .closeSelector rfl

/-- A change of a session that leaves the socket and the address of its group. -/
def Session.Steady (s s' : Session) : Prop := s'.socket = s.socket ∧ s'.target = s.target

/-- Which socket is watched for which session. -/
def Watch.place (w : Watch) : Nat × Nat := (w.socket, w.session)

/-- The sockets that are watched, whatever has arrived on them. -/
def Host.places (h : Host) : List (Nat × Nat) := h.watched.map Watch.place

/-- A frame is kept by the basic steps of reading what has arrived. -/
structure Frame.Reading (F : Frame) : Prop where
  receive : ∀ id limit, Keeps F (call (.receive id limit))
  check : ∀ kind, Keeps F (check kind)
  log : ∀ level message, Keeps F (log level message)
  flags : F.Flagging
  watched : ∀ w watched, watched.map Watch.place = w.host.places →
    F.rel w { w with host := { w.host with watched } }

/-- A frame is kept by the basic steps of waiting, and of reading and counting what has arrived. -/
structure Frame.Waiting (F : Frame) : Prop extends F.Reading where
  script : ∀ w events rest, w.host.script = events :: rest →
    F.rel w { w with host := { w.host with script := rest } }
  terminal : ∀ w terminal, F.rel w { w with host := { w.host with terminal } }
  clock : ∀ w clock, F.rel w { w with host := { w.host with clock } }
  session : ∀ i f w, (∀ s, w.table.get? i = some s → s.Steady (f s)) →
    F.rel w ((modifySession i f).after w)

/-- A frame is kept by the basic steps that a step of a transport is made of. -/
structure Frame.Stepping (F : Frame) : Prop extends F.Waiting where
  call : ∀ c, c.isStepping = true → Keeps F (call c)
  receive id limit := call (.receive id limit) rfl

/-- What arrives does not change which sockets are watched. -/
theorem Host.places_arrive (h : Host) (session : Int) (a : Arrival) :
    (h.arrive session a).places = h.places := by
  have hplace : ∀ w : Watch, (w.enqueue session a).place = w.place := by
    intro w
    unfold Watch.enqueue
    split <;> rfl
  unfold places arrive
  simp only [List.map_map, Function.comp_def, hplace]

/-- Reading changes no more than what is left to read. -/
theorem Host.take?_eq (h : Host) (id : Nat) :
    ∃ watched, (h.take? id).2 = { h with watched } ∧ watched.map Watch.place = h.places := by
  unfold take?
  cases h.watched.find? (·.socket = id) with
  | none => exact ⟨h.watched, rfl, rfl⟩
  | some w =>
      refine ⟨_, rfl, ?_⟩
      rw [List.map_map]
      refine List.map_congr_left fun v _ => ?_
      dsimp only [Function.comp_apply]
      split <;> rfl

namespace Frame.Waiting

variable {F : Frame}

theorem play (h : F.Waiting) (e : Event) : Keeps F (Act.play e) := by
  cases e with
  | signal s => exact keeps_deliver h.flags s
  | resize columns lines =>
      exact keeps_bind (fun w => h.terminal w _) fun _ => keeps_deliver h.flags .resize
  | clock seconds => exact fun w => h.clock w seconds
  | datagram session data => exact fun w => h.watched w _ (w.host.places_arrive session _)
  | refusal session e => exact fun w => h.watched w _ (w.host.places_arrive session _)
  | fault f => exact keeps_throw f
  | tick | resized => exact fun w => h.flags w _ _ _ id
  | stop => exact fun w => h.flags w _ _ _ fun hruns => absurd hruns Bool.false_ne_true

/-- **A wait**, whatever happens in it and however it ends. -/
theorem await (h : F.Waiting) : Keeps F Act.await := by
  unfold Act.await nextEvents
  refine keeps_bind (keeps_get_bind fun w => ?_) fun events => keeps_forM fun e _ => h.play e
  cases hscript : w.host.script with
  | nil => exact F.refl w
  | cons events rest => exact h.script w events rest hscript

/-- **The time while a transport is opened**, whatever happens in it. -/
theorem attend (h : F.Waiting) : Keeps F Act.attend :=
  keeps_bind keeps_get fun _ => keeps_forM fun e _ => h.play e

end Frame.Waiting

namespace Act

variable {F : Frame}

theorem keeps_measured (span : Seconds) : Keeps F (measured span) := by
  cases span with
  | span q => exact keeps_pure q
  | excessive => exact keeps_throw _

/-- What comes behind a wait's number keeps a frame if it does so for the span's own. -/
theorem keeps_measured_bind {α : Type} {span : Seconds} {f : Quantity → Act α}
    (h : ∀ q, span = .span q → Keeps F (f q)) : Keeps F (measured span >>= f) := by
  cases span with
  | span q => exact h q rfl
  | excessive => exact keeps_throw _

theorem keeps_interfaceIndex (hlog : ∀ level message, Keeps F (log level message))
    (interface : String) : Keeps F (interfaceIndex interface) := by
  unfold interfaceIndex
  split
  · exact keeps_pure 0
  · refine keeps_bind keeps_get fun w => ?_
    split
    · exact keeps_pure _
    · exact keeps_bind (hlog _ _) fun _ => keeps_pure 0

theorem keeps_finishWhenDone (h : F.Reading) (limit : Int) (remark : String) :
    Keeps F (finishWhenDone limit remark) := by
  unfold finishWhenDone
  refine keeps_bind keeps_get fun w => ?_
  split
  · exact keeps_bind (h.log _ _) fun _ w => h.flags w _ _ _ fun hruns =>
      absurd hruns Bool.false_ne_true
  · exact keeps_pure ()

theorem keeps_receive (h : F.Reading) (id : SocketId) (limit : Int) :
    Keeps F (receive id limit) := by
  unfold receive
  refine keeps_bind (keeps_submit (h.receive _ _)) fun _ => keeps_get_bind fun w => ?_
  have htaken : F.rel w { w with host := (w.host.take? id).2 } := by
    obtain ⟨watched, htake, hplaces⟩ := w.host.take?_eq id
    rw [htake]
    exact h.watched w watched hplaces
  cases hread : w.host.take? id with
  | mk arrival host =>
      rw [hread] at htaken
      cases arrival with
      | none => exact htaken
      | some arrival =>
          cases arrival with
          | datagram data => exact htaken
          | refusal e => exact htaken

theorem keeps_openSocket (h : F.Preparing) (family : Family) : Keeps F (openSocket family) := by
  unfold openSocket
  refine keeps_bind (h.check _) fun _ => keeps_bind keeps_get fun w => ?_
  refine keeps_bind (fun w' => h.numbered w' _) fun _ => ?_
  exact keeps_bind (h.prepare _ rfl rfl) fun _ => keeps_pure _

theorem keeps_setOption (h : F.Arranging) {id : SocketId} {name : OptionName} {value : OptionValue}
    (hname : (Call.setOption id name value).isChosen = false) : Keeps F (setOption id name value) :=
  keeps_attempt (h.prepare _ rfl hname) (h.check _)

theorem keeps_closeSocket (h : F.Arranging) (id : SocketId) : Keeps F (closeSocket id) :=
  h.prepare _ rfl rfl

end Act

/-! ## Sender -/

namespace Sender

variable {F : Frame}

theorem keeps_configure (h : F.Arranging) (s : Sender) (index : Int) (id : SocketId)
    (hhops : ∀ name, Keeps F (call (.setOption id name (.number s.ttl)))) (family : Family) :
    Keeps F (s.configure index id family) := by
  unfold configure
  cases family with
  | inet =>
      refine keeps_bind (keeps_attempt (hhops _) (h.check _)) fun _ => ?_
      by_cases hzero : index ≠ 0
      · rw [if_pos hzero]
        cases interfaceRequest4? (zeros 4) index with
        | some request => exact keeps_setOption h rfl
        | none => exact keeps_throw _
      · rw [if_neg hzero]
        exact keeps_pure ()
  | inet6 =>
      refine keeps_bind (keeps_attempt (hhops _) (h.check _)) fun _ => ?_
      split
      · exact keeps_setOption h rfl
      · exact keeps_pure ()

section

variable (s : Sender) (hhops : ∀ id name, Keeps F (call (.setOption id name (.number s.ttl))))
include hhops

theorem keeps_openUplink (h : F.Preparing) (huplinks : ∀ w uplinks, F.rel w { w with uplinks })
    (index : Int) (family : Family) : Keeps F (s.openUplink index family) := by
  unfold openUplink
  refine keeps_bind (keeps_openSocket h family) fun id => ?_
  refine keeps_bind (keeps_recover (keeps_configure h.toArranging s index id (hhops id) family)
    fun e => ?_) fun _ w => huplinks w _
  exact keeps_bind (keeps_closeSocket h.toArranging id) fun _ => keeps_throw _

/-- **Opening the sender's sockets.** -/
theorem keeps_start (h : F.Preparing) (huplinks : ∀ w uplinks, F.rel w { w with uplinks }) :
    Keeps F s.start := by
  unfold start
  refine keeps_bind (keeps_interfaceIndex h.log _) fun index => keeps_bind keeps_get fun w => ?_
  refine keeps_bind (keeps_forM fun family _ => keeps_openUplink s hhops h huplinks index family)
    fun _ => ?_
  exact keeps_bind keeps_get fun w' => h.log _ _

end

/-- A packet to a session is handed to the system where the session's group is. -/
theorem keeps_sendOne (h : F.Waiting) (s : Sender) (i : Nat) {session : Session}
    (hsend : ∀ target, session.target = some target → ∀ id data,
      data.length = Packet.clampSize s.size → Keeps F (call (.send id data target))) :
    Keeps F (s.sendOne i session) := by
  unfold sendOne
  cases htarget : session.target with
  | none => exact keeps_throw _
  | some target =>
      refine keeps_bind keeps_get fun w => ?_
      cases w.uplinks.lookup target.family with
      | none => exact keeps_throw _
      | some id =>
          have hlength : (Packet.encode session.nextSeq i (Packet.clampSize s.size)).length =
              Packet.clampSize s.size := by
            rw [Packet.length_encode, Int.toNat_natCast]
            exact Nat.max_eq_right (Packet.clampSize_bounds s.size).1
          refine keeps_bind (keeps_recover (keeps_attempt (hsend target htarget id _ hlength)
            (h.check _)) fun e => keeps_throw _) fun _ w => ?_
          exact h.session i _ w fun s _ => ⟨rfl, rfl⟩

theorem keeps_sendFrom (h : F.Waiting) (s : Sender) (i : Nat) {sessions : List Session}
    (hsend : ∀ session ∈ sessions, ∀ target, session.target = some target → ∀ id data,
      data.length = Packet.clampSize s.size → Keeps F (call (.send id data target))) :
    Keeps F (s.sendFrom i sessions) := by
  induction sessions generalizing i with
  | nil => exact keeps_pure ()
  | cons session sessions ih =>
      have hrest := ih (i + 1) fun session' hmem => hsend session' (List.mem_cons_of_mem _ hmem)
      unfold sendFrom
      split
      · exact keeps_bind (keeps_sendOne h s i (hsend session List.mem_cons_self)) fun _ => hrest
      · exact hrest

/-- **A step of sending** keeps what its pause and what it sends keep. -/
theorem keeps_step_of (h : F.Waiting) (s : Sender)
    (hpause : ∀ q, s.period = .span q → Keeps F (call (.pause q)))
    (hsend : Keeps F (do s.sendFrom 0 (← get).table.sessions)) : Keeps F s.step := by
  unfold step
  refine keeps_measured_bind fun q hq => keeps_bind (keeps_submit (hpause q hq)) fun _ => ?_
  have hsent := keeps_bind hsend fun _ => keeps_finishWhenDone h.toReading s.count
    s!"Sent {s.count} packets to every group, done"
  rw [bind_assoc] at hsent
  exact keeps_bind h.await fun _ => hsent

theorem keeps_step (h : F.Stepping) (s : Sender) : Keeps F s.step := by
  refine keeps_step_of h.toWaiting s (fun _ _ => h.call _ rfl) (keeps_bind keeps_get fun w => ?_)
  exact keeps_sendFrom h.toWaiting s 0 fun _ _ _ _ _ _ _ => h.call _ rfl

/-- **Closing the sender's sockets.** -/
theorem keeps_close (h : F.Closing) : Keeps F close := by
  unfold close
  refine keeps_bind keeps_get fun w => ?_
  exact keeps_bind (keeps_forM fun uplink _ => h.close uplink.2) fun _ w' =>
    h.uplinks w' []

end Sender

/-! ## Receiver -/

namespace Receiver

variable {F : Frame}

/-- The option that joins a group is none of those that set how many hops packets may take. -/
theorem not_isChosen_of_request? {target : Endpoint} {origin : Option Endpoint} {index : Int}
    {address request : Octets} {name : OptionName}
    (h : Membership.request? target origin index address = some (name, request)) (id : SocketId)
    (value : OptionValue) : (Call.setOption id name value).isChosen = false := by
  unfold Membership.request? at h
  split at h
  · obtain ⟨rfl, -⟩ := Prod.mk.inj (Option.some.inj h)
    rfl
  all_goals
    obtain ⟨_, -, hrequest⟩ := Option.map_eq_some_iff.1 h
    obtain ⟨rfl, -⟩ := Prod.mk.inj hrequest
    rfl

theorem keeps_request (h : F.Arranging) (index : Int) (id : SocketId) (target : Endpoint)
    (origin : Option Endpoint) (address : Octets) :
    Keeps F (match Membership.request? target origin index address with
      | some (name, request) => setOption id name (.bytes request)
      | none => throw (.fieldRange (target.family = .inet) index)) := by
  split
  · exact keeps_setOption h (not_isChosen_of_request? ‹_› id _)
  · exact keeps_throw _

theorem keeps_join (h : F.Arranging) (r : Receiver) (index : Int) (id : SocketId) (target : Endpoint)
    (origin : Option Endpoint) : Keeps F (r.join index id target origin) := by
  have haddress : Keeps F r.localAddress := by
    unfold localAddress
    refine keeps_bind (keeps_interfaceAddress (fun _ => h.prepare _ rfl rfl)
      (fun _ _ => h.prepare _ rfl rfl) (h.check _) _ _ _) fun text => ?_
    cases Address.readNumbers? text with
    | some address => exact keeps_pure address
    | none => exact keeps_throw _
  unfold join
  split
  · exact keeps_bind haddress fun address => keeps_request h index id target origin address
  · exact keeps_bind (keeps_pure _) fun address => keeps_request h index id target origin address

/-- What a socket is set up with before it is watched. -/
theorem keeps_prepare (h : F.Arranging) (r : Receiver) (index : Int) (id : SocketId) (target : Endpoint)
    (hbind : Keeps F (call (.bind id target))) (origin : Option Endpoint) : Keeps F (do
      setOption id .reuseAddress (.number 1)
      bindSocket id target
      r.join index id target origin
      call (.unblock id)) := by
  refine keeps_bind (keeps_setOption h rfl) fun _ => ?_
  refine keeps_bind (keeps_attempt hbind (h.check _)) fun _ => ?_
  exact keeps_bind (keeps_join h r index id target _) fun _ => h.prepare _ rfl rfl

theorem keeps_openOne (h : F.Preparing) (r : Receiver) (index : Int) {session : Session}
    (hbind : ∀ target, session.target = some target → ∀ id, Keeps F (call (.bind id target))) :
    Keeps F (r.openOne index session) := by
  unfold openOne
  cases htarget : session.target with
  | none => exact keeps_throw _
  | some target =>
      refine keeps_bind (keeps_openSocket h target.family) fun id => ?_
      refine keeps_bind (keeps_recover (keeps_prepare h.toArranging r index id target
        (hbind target htarget id) _) fun e => ?_) fun _ =>
        keeps_bind (h.log _ _) fun _ => keeps_pure id
      exact keeps_bind (keeps_closeSocket h.toArranging id) fun _ => keeps_throw _

theorem keeps_adopt (h : F.Closing) (position : Nat) (id : SocketId) :
    Keeps F (adopt position id) :=
  keeps_bind (h.socket _ _) fun _ w => h.watched w _

/-- Sockets are bound where the sessions' groups are. -/
theorem keeps_joinFrom (h : F.Preparing) (hclosing : F.Closing) (r : Receiver) (index : Int)
    (position : Nat) {sessions : List Session}
    (hbind : ∀ session ∈ sessions, ∀ target, session.target = some target → ∀ id,
      Keeps F (call (.bind id target))) : Keeps F (r.joinFrom index position sessions) := by
  induction sessions generalizing position with
  | nil => exact keeps_pure ()
  | cons session sessions ih =>
      unfold joinFrom
      refine keeps_bind (keeps_openOne h r index (hbind session List.mem_cons_self)) fun id => ?_
      refine keeps_bind (keeps_adopt hclosing position id) fun _ => ih (position + 1) ?_
      exact fun session' hmem => hbind session' (List.mem_cons_of_mem _ hmem)

/-- **Joining all groups** keeps what joining those of the sessions keeps. -/
theorem keeps_start_of (h : F.Preparing) (r : Receiver)
    (hjoin : ∀ index, Keeps F (do r.joinFrom index 0 (← get).table.sessions)) : Keeps F r.start :=
  keeps_bind (keeps_interfaceIndex h.log _) hjoin

theorem keeps_start (h : F.Opening) (r : Receiver) : Keeps F r.start := by
  refine keeps_start_of h.toPreparing r fun index => keeps_bind keeps_get fun w => ?_
  exact keeps_joinFrom h.toPreparing h.toClosing r index 0 fun _ _ _ _ _ => h.call _ rfl

theorem steady_noteSeq (seq : Int) (s : Session) : s.Steady (s.noteSeq seq).1 := by
  unfold Session.noteSeq
  split
  · exact ⟨rfl, rfl⟩
  · split
    · exact ⟨rfl, rfl⟩
    · split
      · exact ⟨rfl, rfl⟩
      · exact ⟨rfl, rfl⟩

/-- A session that counts a datagram keeps its socket and the address of its group. -/
theorem steady_accept (size : Nat) (seq : Option Int) (s : Session) :
    s.Steady (s.accept size seq).1 := by
  unfold Session.accept
  cases seq with
  | none => exact ⟨rfl, rfl⟩
  | some n => exact steady_noteSeq n _

/-- Whatever is to be said of a datagram is only logged. -/
theorem keeps_remark (h : F.Reading) (session : Session) (note : Option Session.Remark) :
    Keeps F (do
      match note with
        | some note => remark session.group note
        | none => pure ()
      pure true) := by
  cases note with
  | none => exact keeps_pure true
  | some note => cases note <;> exact keeps_bind (h.log _ _) fun _ => keeps_pure true

theorem keeps_account (h : F.Waiting) (r : Receiver) (i : Int) (data : Octets) :
    Keeps F (r.account i data) := by
  unfold account
  refine keeps_get_bind fun w => ?_
  cases hs : w.table.get? i with
  | none => exact F.refl w
  | some session =>
      dsimp only
      by_cases hopen : session.isOpen r.count
      · rw [if_pos hopen]
        refine rel_after_bind (h.session i _ w ?_) fun _ => keeps_remark h.toReading session _
        intro s hs'
        obtain rfl : session = s := Option.some.inj (hs.symm.trans hs')
        exact steady_accept _ _ session
      · rw [if_neg hopen]
        exact F.refl w

theorem keeps_drain (h : F.Waiting) (r : Receiver) (id : SocketId) (position : Nat) (group : String)
    (fuel : Nat) : Keeps F (r.drain id position group fuel) := by
  induction fuel with
  | zero => exact keeps_pure ()
  | succ fuel ih =>
      unfold drain
      refine keeps_bind (keeps_receive h.toReading id r.limit) fun read => ?_
      cases read with
      | ok data => exact keeps_bind (keeps_account h r position data) fun _ => ih
      | error e =>
          dsimp only
          split
          · exact keeps_pure ()
          · exact keeps_throw _

theorem keeps_drainWatch (h : F.Waiting) (r : Receiver) (watch : Watch) :
    Keeps F (r.drainWatch watch) := by
  unfold drainWatch
  refine keeps_bind keeps_get fun w => ?_
  cases w.table.get? watch.session with
  | none => exact keeps_throw _
  | some session => exact keeps_drain h r _ _ _ _

theorem keeps_serve (h : F.Waiting) (r : Receiver) (ready : List Watch) : Keeps F (r.serve ready) :=
  keeps_bind (keeps_forM fun watch _ => keeps_drainWatch h r watch) fun _ =>
    keeps_finishWhenDone h.toReading _ _

section

variable (r : Receiver) (hselect : ∀ q, r.period = .span q → Keeps F (call (.select q)))
include hselect

theorem keeps_wait (h : F.Reading) (hawait : Keeps F await) : Keeps F r.wait := by
  unfold wait
  refine keeps_recover (keeps_measured_bind fun q hq => ?_) fun e => keeps_throw _
  refine keeps_bind (keeps_attempt (hselect q hq) (h.check _)) fun _ => ?_
  exact keeps_bind hawait fun _ => keeps_bind keeps_get fun w => keeps_pure _

/-- **A step of receiving** keeps what its wait keeps. -/
theorem keeps_step_of (h : F.Waiting) : Keeps F r.step :=
  keeps_bind (keeps_wait r hselect h.toReading h.await) fun ready => keeps_serve h r ready

end

theorem keeps_step (h : F.Stepping) (r : Receiver) : Keeps F r.step :=
  keeps_step_of r (fun _ _ => h.call _ rfl) h.toWaiting

theorem keeps_unwatch (h : F.Closing) (id : SocketId) : Keeps F (unwatch id) :=
  fun w => h.watched w _

theorem keeps_releaseFrom (h : F.Closing) (position : Nat) (sessions : List Session) :
    Keeps F (releaseFrom position sessions) := by
  induction sessions generalizing position with
  | nil => exact keeps_pure ()
  | cons session sessions ih =>
      unfold releaseFrom
      cases session.socket with
      | none => exact ih (position + 1)
      | some id =>
          refine keeps_bind (keeps_unwatch h id) fun _ => keeps_bind (h.close id) fun _ => ?_
          exact keeps_bind (h.socket _ _) fun _ => ih (position + 1)

/-- **Closing the receiver's sockets.** -/
theorem keeps_close (h : F.Closing) : Keeps F close := by
  unfold close
  refine keeps_bind keeps_get fun w => ?_
  exact keeps_bind (keeps_releaseFrom h 0 _) fun _ => h.closeSelector

end Receiver

end Multicast
