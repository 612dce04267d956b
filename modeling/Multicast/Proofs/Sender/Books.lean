import Mathlib.Logic.Function.Iterate
import Multicast.Proofs.Sender.Numbering
import Multicast.Proofs.Transport.Footing

/-!
# `Proofs.Sender.Books` — a sender counts what it sends

A session counts a packet when the system has taken it, and takes the next number only then. So
whatever packets are refused, in any of the steps, a session has counted those that were sent to its
group, and these carry the numbers from zero on. A step that fails does so between two sessions:
those in front have sent their packets, and the others are as they were.

## Contents
- **Wire.** `Act.calls`; `Sender.sentFrom`, `Sender.sentIn` and `Sender.sentBy`, what a pass, a step
  and a number of steps send; `callsFor`, what was sent for one session. Nothing else is handed to the
  system but the packet with which a step fails (`Sender.datagrams_step`).
- **Books.** `Sender.Booked` for one session and `Sender.InBooks` for a table, with
  `InBooks.sendFrom`, `InBooks.step` and, by induction on the steps, `InBooks.steps`.
- **Refusals.** `Sender.RefusedAt`, with `Sender.step_of_refusedAt` and
  `Sender.InBooks.refusedAt_of_step`: a step behind its pause fails where a packet is refused.
-/

namespace Multicast

open Act

/-! ## Wire -/

/-- The calls that a step makes, however it ends. -/
def Act.calls {α : Type} (act : Act α) (w : World) : List Call :=
  (act.after w).host.trace.toList.drop w.host.trace.size

/-- The calls for the session at an index. -/
def callsFor (i : Nat) (log : List (Nat × Call)) : List Call := (log.filter (·.1 = i)).map (·.2)

theorem callsFor_append (i : Nat) (log log' : List (Nat × Call)) :
    callsFor i (log ++ log') = callsFor i log ++ callsFor i log' := by
  simp [callsFor]

namespace Sender

variable {s : Sender} {w w' : World}

/-- What a pass over sessions sends, each call with the index of its session. A packet that is
    refused is not sent, and ends the pass. -/
def sentFrom (s : Sender) (index : Nat) : List Session → World → List (Nat × Call)
  | [], _ => []
  | session :: rest, w =>
    if session.isOpen s.count then
      match s.sendOne index session w with
      | .ok _ w₁ =>
        ((s.sendOne index session).calls w).map (index, ·) ++ s.sentFrom (index + 1) rest w₁
      | .error _ _ => []
    else s.sentFrom (index + 1) rest w

/-- What a step sends. -/
def sentIn (s : Sender) (w : World) : List (Nat × Call) :=
  match s.paused w with
  | .ok _ w₁ => s.sentFrom 0 w₁.table.sessions w₁
  | .error _ _ => []

/-- What a number of steps send, however each of them ends. -/
def sentBy (s : Sender) : Nat → World → List (Nat × Call)
  | 0, _ => []
  | k + 1, w => s.sentIn w ++ s.sentBy k (s.step.after w)

/-- A packet that is sent is the only call of its session's turn. -/
theorem calls_sendOne {index : Nat} {session : Session}
    (h : s.sendOne index session w = .ok () w') :
    ∃ target id, session.target = some target ∧ w.uplinks.lookup target.family = some id ∧
      (s.sendOne index session).calls w = [.send id (s.packet index session) target] := by
  obtain ⟨target, id, htarget, hid, -, -, hw'⟩ := sendOne_eq_ok_iff.1 h
  refine ⟨target, id, htarget, hid, ?_⟩
  unfold Act.calls
  rw [after_of_ok h, hw']
  simp [granted, Host.record]

/-- The turn of a session that can be sent to. -/
theorem sendOne_eq (s : Sender) (index : Nat) {session : Session} {target : Endpoint}
    {id : SocketId} (htarget : session.target = some target)
    (hid : w.uplinks.lookup target.family = some id) :
    s.sendOne index session w =
      (recover (attempt .send (.send id (s.packet index session) target)) Fault.isSystem
        (fun e => throw (.transport (.sending session.group e.message))) >>= fun _ =>
        modifySession index Session.sent) w := by
  unfold sendOne
  rw [htarget]
  dsimp only
  rw [bind_of_ok (get_apply w), hid]
  rfl

/-- A packet that is refused is a failure of the transport, if the system refuses it. All but the
    host is left as it was. -/
theorem sendOne_of_refused (s : Sender) (index : Nat) {session : Session} {target : Endpoint}
    {id : SocketId} {fault : Fault} (htarget : session.target = some target)
    (hid : w.uplinks.lookup target.family = some id)
    (hrefused : w.host.refusal? .send (.send id (s.packet index session) target) = some fault) :
    s.sendOne index session w = .error (if fault.isSystem then
      .transport (.sending session.group fault.message) else fault)
        { w with host := granted .send (.send id (s.packet index session) target) w.host } := by
  have hfailed := attempt_eq_error_iff.2 ⟨hrefused, rfl⟩
  rw [s.sendOne_eq index htarget hid, bind_apply, recover_of_error hfailed]
  by_cases hsystem : fault.isSystem
  · rw [if_pos hsystem, if_pos hsystem]
    rfl
  · rw [if_neg hsystem, if_neg hsystem]

/-- A packet for a session that can be sent to is sent, or it is refused. -/
theorem sendOne_cases (s : Sender) {index : Nat} {session : Session} {target : Endpoint}
    {id : SocketId} (htarget : session.target = some target)
    (hid : w.uplinks.lookup target.family = some id) (hindex : index < w.table.size) :
    (∃ w₁, s.sendOne index session w = .ok () w₁) ∨
      ∃ fault host,
        w.host.refusal? .send (.send id (s.packet index session) target) = some fault ∧
        s.sendOne index session w = .error (if fault.isSystem then
          .transport (.sending session.group fault.message) else fault) { w with host } := by
  cases hrefusal : w.host.refusal? .send (.send id (s.packet index session) target) with
  | none => exact Or.inl ⟨_, sendOne_eq_ok_iff.2 ⟨target, id, htarget, hid, hrefusal, hindex, rfl⟩⟩
  | some fault => exact Or.inr ⟨fault, _, rfl, s.sendOne_of_refused index htarget hid hrefusal⟩

/-- A packet that is sent is what goes over the wire in its session's turn. -/
theorem datagrams_sendOne {index : Nat} {session : Session}
    (h : s.sendOne index session w = .ok () w') :
    w'.host.datagrams =
      w.host.datagrams ++ ((s.sendOne index session).calls w).filterMap Call.sent? := by
  obtain ⟨target, id, -, -, hcalls⟩ := calls_sendOne h
  obtain ⟨_, _, -, -, -, -, rfl⟩ := sendOne_eq_ok_iff.1 h
  rw [hcalls]
  simp [Host.datagrams, granted, Host.record, Call.sent?]

/-- A turn that fails hands at most one packet to the system. -/
theorem datagrams_sendOne_of_error {index : Nat} {session : Session} {e : Fault}
    (h : s.sendOne index session w = .error e w') :
    ∃ refused : Option Octets, w'.host.datagrams = w.host.datagrams ++ refused.toList := by
  cases htarget : session.target with
  | none =>
      unfold sendOne at h
      rw [htarget] at h
      cases h
      exact ⟨none, (List.append_nil _).symm⟩
  | some target =>
      cases hid : w.uplinks.lookup target.family with
      | none =>
          unfold sendOne at h
          rw [htarget] at h
          dsimp only at h
          rw [bind_of_ok (get_apply w), hid] at h
          cases h
          exact ⟨none, (List.append_nil _).symm⟩
      | some id =>
          refine ⟨some (s.packet index session), ?_⟩
          have hhost : w'.host = granted .send (.send id (s.packet index session) target) w.host := by
            cases hrefusal : w.host.refusal? .send (.send id (s.packet index session) target) with
            | some fault =>
                rw [s.sendOne_of_refused index htarget hid hrefusal] at h
                cases h
                rfl
            | none =>
                -- The packet was sent, but there is no session to count it.
                let c : Call := .send id (s.packet index session) target
                have hsent : attempt .send c w = .ok () { w with host := granted .send c w.host } :=
                  attempt_eq_ok_iff.2 ⟨hrefusal, rfl⟩
                rw [s.sendOne_eq index htarget hid, bind_of_ok (recover_of_ok hsent _ _)] at h
                obtain ⟨sessions, hafter⟩ :=
                  after_modifySession index Session.sent { w with host := granted .send c w.host }
                rw [after_of_error h] at hafter
                rw [hafter]
          rw [hhost]
          simp [Host.datagrams, granted, Host.record, Call.sent?]

/-- **What a pass hands to the system** is what it sends, and behind that the packet with which it
    fails, if it does. -/
theorem datagrams_sendFrom (s : Sender) (index : Nat) (sessions : List Session) (w : World) :
    ∃ refused : Option Octets,
      ((s.sendFrom index sessions).after w).host.datagrams =
        w.host.datagrams ++ (s.sentFrom index sessions w).filterMap (·.2.sent?) ++ refused.toList ∧
      ∀ w', s.sendFrom index sessions w = .ok () w' → refused = none := by
  induction sessions generalizing index w with
  | nil =>
      refine ⟨none, ?_, fun _ _ => rfl⟩
      simp [sentFrom, sendFrom, Act.after]
  | cons session sessions ih =>
      unfold sendFrom sentFrom
      by_cases hopen : session.isOpen s.count
      · rw [if_pos hopen, if_pos hopen]
        cases hone : s.sendOne index session w with
        | ok u w₁ =>
            obtain ⟨refused, hrest, hnone⟩ := ih (index + 1) w₁
            refine ⟨refused, ?_, fun w' hw' => ?_⟩
            · rw [after_bind_of_ok hone, hrest, datagrams_sendOne hone, List.filterMap_append,
                List.filterMap_map, ← List.append_assoc]
              rfl
            · rw [bind_of_ok hone] at hw'
              exact hnone w' hw'
        | error e w₁ =>
            obtain ⟨refused, hrefused⟩ := datagrams_sendOne_of_error hone
            refine ⟨refused, ?_, fun w' hw' => ?_⟩
            · rw [after_bind_of_error hone, hrefused, List.filterMap_nil, List.append_nil]
            · rw [bind_apply, hone] at hw'
              cases hw'
      · rw [if_neg hopen, if_neg hopen]
        exact ih (index + 1) w

/-- **What a step hands to the system** is what it sends, and behind that the packet with which it
    fails, if it does. -/
theorem datagrams_step (s : Sender) (w : World) :
    ∃ refused : Option Octets,
      (s.step.after w).host.datagrams =
        w.host.datagrams ++ (s.sentIn w).filterMap (·.2.sent?) ++ refused.toList ∧
      ∀ w', s.step w = .ok () w' → refused = none := by
  obtain ⟨-, -, -, hwaited⟩ := s.paused_leaves w
  unfold sentIn
  rcases s.step_cases w with ⟨e, w₁, hpause, hstep⟩ | ⟨w₁, hpause, hpass⟩
  · rw [after_of_error hpause] at hwaited
    refine ⟨none, ?_, fun _ _ => rfl⟩
    rw [after_of_error hstep, hpause, hwaited]
    simp
  rw [after_of_ok hpause] at hwaited
  rw [hpause, ← hwaited]
  obtain ⟨refused, hsent, hnone⟩ := s.datagrams_sendFrom 0 w₁.table.sessions w₁
  refine ⟨refused, ?_, fun w' hw' => ?_⟩
  · rcases hpass with ⟨e, w₂, hsend, hstep⟩ | ⟨w₂, w', hsend, hstep, -, -, hended⟩
    · rw [after_of_error hstep, ← after_of_error hsend]
      exact hsent
    · rw [after_of_ok hstep, hended, ← after_of_ok hsend]
      exact hsent
  · rcases hpass with ⟨e, w₂, -, hstep⟩ | ⟨w₂, _, hsend, -⟩
    · rw [hstep] at hw'
      cases hw'
    · exact hnone w₂ hsend

/-! ## Books -/

/-- **The books of a session** tell what was sent for it: its count is the number of calls, its
    number the last one of them, and these carry the numbers from zero on to the endpoint of its
    group, over the socket of this family. A limit is not passed. -/
structure Booked (s : Sender) (uplinks : List (Family × SocketId)) (i : Nat) (session : Session)
    (calls : List Call) : Prop where
  numbered : Numbered calls.length session
  sent : ∃ target id, session.target = some target ∧ uplinks.lookup target.family = some id ∧
    calls = (List.range calls.length).map fun m : Nat =>
      .send id (Packet.encode m i (Packet.clampSize s.size)) target
  limited : 0 < s.count → (calls.length : Int) ≤ s.count

/-- One packet more is booked for a session that is open. -/
theorem Booked.next {uplinks : List (Family × SocketId)} {i : Nat} {session : Session}
    {calls : List Call} (h : s.Booked uplinks i session calls) (hopen : session.isOpen s.count)
    {target : Endpoint} {id : SocketId} (htarget : session.target = some target)
    (hid : uplinks.lookup target.family = some id) :
    s.Booked uplinks i session.sent (calls ++ [.send id (s.packet i session) target]) := by
  have hlength :
      (calls ++ [Call.send id (s.packet i session) target]).length = calls.length + 1 := by simp
  obtain ⟨target', id', htarget', hid', hcalls⟩ := h.sent
  obtain rfl := Option.some.inj (htarget.symm.trans htarget')
  obtain rfl := Option.some.inj (hid.symm.trans hid')
  constructor
  · rw [hlength]
    exact h.numbered.sent
  · refine ⟨target, id, htarget, hid, ?_⟩
    rw [hlength, List.range_succ, List.map_append, ← hcalls]
    simp [packet, h.numbered.nextSeq]
  · intro hlimit
    have hcount := h.numbered.count
    have hlt : session.count < s.count := by
      have hne : s.count ≠ 0 := by omega
      simpa [Session.isOpen, hne] using hopen
    rw [hlength]
    omega

/-- **A table is in the books** if each of its sessions is, with the calls for its index. -/
structure InBooks (s : Sender) (uplinks : List (Family × SocketId)) (log : List (Nat × Call))
    (w : World) : Prop where
  linked : w.uplinks = uplinks
  booked : ∀ (i : Nat) (session : Session), w.table.sessions[i]? = some session →
    s.Booked uplinks i session (callsFor i log)

namespace InBooks

variable {uplinks : List (Family × SocketId)} {log : List (Nat × Call)}

theorem of_eq (h : s.InBooks uplinks log w) (htable : w'.table = w.table)
    (huplinks : w'.uplinks = w.uplinks) : s.InBooks uplinks log w' :=
  ⟨huplinks.trans h.linked, by rw [htable]; exact h.booked⟩

/-- **The socket of a session is always found.** -/
theorem exists_uplink (h : s.InBooks uplinks log w) {i : Nat} {session : Session}
    (hsession : w.table.sessions[i]? = some session) :
    ∃ target id, session.target = some target ∧ w.uplinks.lookup target.family = some id := by
  obtain ⟨target, id, htarget, hid, -⟩ := (h.booked i session hsession).sent
  exact ⟨target, id, htarget, by rw [h.linked]; exact hid⟩

/-- **A packet that is sent** goes into the books. -/
theorem sendOne (h : s.InBooks uplinks log w) {i : Nat} {session : Session}
    (hsession : w.table.sessions[i]? = some session) (hopen : session.isOpen s.count)
    (hsent : s.sendOne i session w = .ok () w') :
    s.InBooks uplinks (log ++ ((s.sendOne i session).calls w).map (i, ·)) w' := by
  obtain ⟨target, id, htarget, hid, hcalls⟩ := calls_sendOne hsent
  obtain ⟨_, _, -, -, -, -, rfl⟩ := sendOne_eq_ok_iff.1 hsent
  rw [h.linked] at hid
  refine ⟨h.linked, fun j session' hsession' => ?_⟩
  dsimp only at hsession'
  rw [List.getElem?_modify] at hsession'
  rw [hcalls, callsFor_append]
  by_cases hij : i = j
  · subst hij
    rw [hsession] at hsession'
    have hsame : session.sent = session' := by simpa using hsession'
    rw [← hsame]
    have hone : callsFor i ([.send id (s.packet i session) target].map (i, ·)) =
        [.send id (s.packet i session) target] := by
      simp [callsFor]
    rw [hone]
    exact (h.booked i session hsession).next hopen htarget hid
  · have hnone : callsFor j ([.send id (s.packet i session) target].map (i, ·)) = [] := by
      simp [callsFor, hij]
    rw [hnone, List.append_nil]
    refine h.booked j session' ?_
    simpa [hij] using hsession'

/-- **A pass over sessions**, however it ends, is in the books with what it sends. -/
theorem sendFrom (before : List Session) {sessions : List Session}
    (hsessions : w.table.sessions = before ++ sessions) (h : s.InBooks uplinks log w) :
    s.InBooks uplinks (log ++ s.sentFrom before.length sessions w)
      ((s.sendFrom before.length sessions).after w) := by
  induction sessions generalizing before w log with
  | nil =>
      rw [sentFrom, List.append_nil]
      exact h
  | cons session sessions ih =>
      have hhere : w.table.sessions[before.length]? = some session := by simp [hsessions]
      unfold Sender.sendFrom sentFrom
      -- The call sends one packet and goes on, sends none and ends, or passes over the session.
      by_cases hopen : session.isOpen s.count
      · obtain ⟨target, id, htarget, hid⟩ := h.exists_uplink hhere
        have hindex : before.length < w.table.size := by simp [Table.size, hsessions]
        rw [if_pos hopen, if_pos hopen]
        rcases s.sendOne_cases htarget hid hindex with ⟨w₁, hsent⟩ | ⟨fault, host, -, hrefused⟩
        · have hsessions₁ : w₁.table.sessions = before ++ [session.sent] ++ sessions := by
            obtain ⟨_, _, -, -, -, -, rfl⟩ := sendOne_eq_ok_iff.1 hsent
            dsimp only
            rw [hsessions, List.modify_length_append_cons]
          have hrest := ih _ hsessions₁ (h.sendOne hhere hopen hsent)
          rw [List.length_append, List.append_assoc] at hrest
          rw [after_bind_of_ok hsent, hsent]
          exact hrest
        · rw [after_bind_of_error hrefused, hrefused, List.append_nil]
          exact h.of_eq rfl rfl
      · rw [if_neg hopen, if_neg hopen]
        have hrest := ih (before ++ [session]) (by simp [hsessions]) h
        rw [List.length_append] at hrest
        exact hrest

/-- **A step**, however it ends, is in the books with what it sends. -/
theorem step (h : s.InBooks uplinks log w) :
    s.InBooks uplinks (log ++ s.sentIn w) (s.step.after w) := by
  obtain ⟨htable, huplinks, -⟩ := s.paused_leaves w
  have hpaused := h.of_eq htable huplinks
  unfold sentIn
  rcases s.step_cases w with ⟨e, w₁, hpause, hstep⟩ | ⟨w₁, hpause, hpass⟩
  · rw [after_of_error hpause] at hpaused
    rw [after_of_error hstep, hpause, List.append_nil]
    exact hpaused
  rw [after_of_ok hpause] at hpaused
  rw [hpause]
  have hsent := hpaused.sendFrom [] (List.nil_append w₁.table.sessions).symm
  rcases hpass with ⟨e, w₂, hsend, hstep⟩ | ⟨w₂, w', hsend, hstep, htable', huplinks', -⟩
  · rw [after_of_error hstep, ← after_of_error hsend]
    exact hsent
  · rw [List.length_nil, after_of_ok hsend] at hsent
    rw [after_of_ok hstep]
    exact hsent.of_eq htable' huplinks'

/-- **Any number of steps**, however each of them ends, are in the books with what they send. -/
theorem steps (h : s.InBooks uplinks log w) (k : Nat) :
    s.InBooks uplinks (log ++ s.sentBy k w) (s.step.after^[k] w) := by
  -- What the first step sends is in the books already when the others begin.
  induction k generalizing w log with
  | zero =>
      rw [sentBy, List.append_nil]
      exact h
  | succ k ih =>
      rw [sentBy, ← List.append_assoc]
      exact ih h.step

end InBooks

/-! ## Refusals -/

/-- The packet for the session at an index is refused in a step: the pause is over, the sessions in
    front have had their turn, this one is open, and the call that sends its packet is refused. -/
def RefusedAt (s : Sender) (w : World) (i : Nat) (session : Session) (fault : Fault) : Prop :=
  ∃ w₁ w₂ target id, s.paused w = .ok () w₁ ∧ w₁.table.sessions[i]? = some session ∧
    s.sendFrom 0 (w₁.table.sessions.take i) w₁ = .ok () w₂ ∧ session.isOpen s.count ∧
    session.target = some target ∧ w₂.uplinks.lookup target.family = some id ∧
    w₂.host.refusal? .send (.send id (s.packet i session) target) = some fault

/-- A pass over some sessions and then over others is one over all of them. -/
theorem sendFrom_append (s : Sender) (index : Nat) (front rest : List Session) :
    s.sendFrom index (front ++ rest) =
      s.sendFrom index front >>= fun _ => s.sendFrom (index + front.length) rest := by
  induction front generalizing index with
  | nil => rfl
  | cons session front ih =>
      have hindex : index + 1 + front.length = index + (front.length + 1) := by omega
      simp only [List.cons_append, List.length_cons, sendFrom, ih, hindex]
      split
      · rw [bind_assoc]
      · rfl

/-- A pass that fails does so with one session, behind a pass over those in front of it. -/
theorem sendFrom_eq_error {index : Nat} {sessions : List Session} {e : Fault}
    (h : s.sendFrom index sessions w = .error e w') : ∃ i session w₁, sessions[i]? = some session ∧
      s.sendFrom index (sessions.take i) w = .ok () w₁ ∧ session.isOpen s.count ∧
      s.sendOne (index + i) session w₁ = .error e w' := by
  induction sessions generalizing index w with
  | nil => cases h
  | cons session sessions ih =>
      rw [sendFrom] at h
      by_cases hopen : session.isOpen s.count
      · rw [if_pos hopen] at h
        rcases bind_eq_error.1 h with hone | ⟨_, w₁, hone, hrest⟩
        · exact ⟨0, session, w, rfl, rfl, hopen, hone⟩
        · obtain ⟨i, session', w₂, hsession, hfront, hopen', hrefused⟩ := ih hrest
          refine ⟨i + 1, session', w₂, hsession, ?_, hopen', ?_⟩
          · rw [List.take_succ_cons, sendFrom, if_pos hopen, bind_of_ok hone]
            exact hfront
          · rw [Nat.add_comm i, ← Nat.add_assoc]
            exact hrefused
      · rw [if_neg hopen] at h
        obtain ⟨i, session', w₂, hsession, hfront, hopen', hrefused⟩ := ih h
        refine ⟨i + 1, session', w₂, hsession, ?_, hopen', ?_⟩
        · rw [List.take_succ_cons, sendFrom, if_neg hopen]
          exact hfront
        · rw [Nat.add_comm i, ← Nat.add_assoc]
          exact hrefused

/-- Once the sessions in front of one have had their turn, this one and those behind it are as they
    were. -/
theorem front_sent {i : Nat} {session : Session} (hsession : w.table.sessions[i]? = some session)
    (hfront : s.sendFrom 0 (w.table.sessions.take i) w = .ok () w') :
    ∃ front rest, w.table.sessions.take i = front ∧ front.length = i ∧
      w.table.sessions = front ++ session :: rest ∧
      w'.table.sessions = front.map s.served ++ session :: rest ∧ w'.uplinks = w.uplinks := by
  obtain ⟨hlt, hget⟩ := List.getElem?_eq_some_iff.1 hsession
  have hsplit :
      w.table.sessions = w.table.sessions.take i ++ session :: w.table.sessions.drop (i + 1) := by
    rw [← hget, List.getElem_cons_drop, List.take_append_drop]
  obtain ⟨host, rfl, -⟩ := sendFrom_eq_ok [] _ hsplit hfront
  exact ⟨_, _, rfl, List.length_take_of_le (Nat.le_of_lt hlt), hsplit, rfl, rfl⟩

/-- **A step in which a packet is refused** fails with it. The sessions in front have sent theirs,
    and this session and those behind it are as they were. -/
theorem step_of_refusedAt {i : Nat} {session : Session} {fault : Fault}
    (hrefused : s.RefusedAt w i session fault) :
    ∃ w', s.step w = .error (if fault.isSystem then
        .transport (.sending session.group fault.message) else fault) w' ∧
      ∀ j, w'.table.sessions[j]? =
        if j < i then w.table.sessions[j]?.map s.served else w.table.sessions[j]? := by
  obtain ⟨w₁, w₂, target, id, hpause, hsession, hfront, hopen, htarget, hid, hrefusal⟩ := hrefused
  obtain ⟨htable, -, -⟩ := s.paused_leaves w
  rw [after_of_ok hpause] at htable
  obtain ⟨front, rest, htake, hlength, hsplit, htable₂, -⟩ := front_sent hsession hfront
  rw [htake] at hfront
  have hone := s.sendOne_of_refused i htarget hid hrefusal
  let refusal : Call := .send id (s.packet i session) target
  refine ⟨{ w₂ with host := granted .send refusal w₂.host }, ?_, fun j => ?_⟩
  · have hpass : s.pass w₁ = s.sendFrom 0 w₁.table.sessions w₁ := rfl
    rw [step_eq, bind_of_ok hpause, bind_apply, hpass, hsplit, sendFrom_append, bind_of_ok hfront,
      hlength, Nat.zero_add, Sender.sendFrom, if_pos hopen, bind_apply, hone]
  · show w₂.table.sessions[j]? = _
    rw [← htable, hsplit, htable₂]
    by_cases hj : j < i
    · have hfront : j < front.length := hlength ▸ hj
      have hserved : j < (front.map s.served).length := by rwa [List.length_map]
      rw [if_pos hj, List.getElem?_append_left hserved, List.getElem?_append_left hfront,
        List.getElem?_map]
    · have hfront : front.length ≤ j := hlength ▸ Nat.le_of_not_lt hj
      have hserved : (front.map s.served).length ≤ j := by rwa [List.length_map]
      rw [if_neg hj, List.getElem?_append_right hserved, List.getElem?_append_right hfront,
        List.length_map]

namespace InBooks

variable {uplinks : List (Family × SocketId)} {log : List (Nat × Call)}

/-- **A step that fails** does so in its pause, which leaves all sessions as they were, or where a
    packet is refused. -/
theorem refusedAt_of_step (h : s.InBooks uplinks log w) {e : Fault}
    (herror : s.step w = .error e w') :
    (s.paused w = .error e w' ∧ w'.table = w.table) ∨
      ∃ i session fault, w.table.sessions[i]? = some session ∧ s.RefusedAt w i session fault := by
  obtain ⟨htable, huplinks, -⟩ := s.paused_leaves w
  rcases s.step_cases w with ⟨e, w₁, hpause, hstep⟩ | ⟨w₁, hpause, hpass⟩
  · cases herror.symm.trans hstep
    rw [after_of_error hpause] at htable
    exact Or.inl ⟨hpause, htable⟩
  rw [after_of_ok hpause] at htable huplinks
  rcases hpass with ⟨e, w₂, hsend, hstep⟩ | ⟨_, _, -, hstep, -⟩
  · obtain ⟨i, session, w₂, hsession, hfront, hopen, hone⟩ := sendFrom_eq_error hsend
    -- The pass reached the session in a world in which it can still be sent to, so that only a
    -- refusal is left to fail with.
    obtain ⟨front, rest, -, hlength, -, htable₂, huplinks₂⟩ := front_sent hsession hfront
    obtain ⟨target, id, htarget, hid⟩ := (h.of_eq htable huplinks).exists_uplink hsession
    rw [← huplinks₂] at hid
    have hindex : 0 + i < w₂.table.size := by
      rw [Table.size, htable₂]
      simp [hlength]
    rcases s.sendOne_cases htarget hid hindex with ⟨w₃, hsent⟩ | ⟨fault, host, hrefusal, -⟩
    · rw [hone] at hsent
      cases hsent
    · rw [Nat.zero_add] at hrefusal
      refine Or.inr ⟨i, session, fault, by rwa [← htable], ?_⟩
      exact ⟨w₁, w₂, target, id, hpause, hsession, hfront, hopen, htarget, hid, hrefusal⟩
  · cases herror.symm.trans hstep

end InBooks

end Sender

end Multicast
