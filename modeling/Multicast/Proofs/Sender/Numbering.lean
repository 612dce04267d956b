import Multicast.Proofs.Act.Frame
import Multicast.Sender

/-!
# `Proofs.Sender.Numbering` — what a sender sends in a run of steps

In each step a sender sends one packet for every session that is still open, in the order of the
table. So the datagrams of a step can be told apart by session, and those of one session, over any
number of steps, carry the numbers from zero on without a gap.

## Contents
- **Observing.** `Host.datagrams`, what was sent; `Sender.handedOut`, the datagrams of a step with
  their sessions; `Sender.Run`, any number of steps; `sentFor`, the datagrams of one session.
- **Steps.** `Sender.sendOne_eq_ok_iff` and `Sender.sendFrom_eq_ok`; `Sender.paused` and
  `Sender.pass`, which a step is made of (`Sender.step_eq`), `Sender.step_cases` for the ways it can
  end, then `Sender.step_eq_ok`.
- **Runs.** `Sender.Numbered` and `Sender.Run.sentFor_eq`.
- **Readiness.** `Sender.Ready`, under which all steps go through (`Sender.Ready.exists_run`).
-/

namespace Multicast

/-! ## Observing -/

/-- The datagram of a call that sends one. -/
def Call.sent? : Call → Option Octets
  | .send _ data _ => some data
  | _ => none

/-- The datagrams that were sent. -/
def Host.datagrams (h : Host) : List Octets := h.trace.toList.filterMap Call.sent?

/-- The sessions that are still open, with their positions from a first one on. -/
def openFrom (limit : Int) (position : Nat) (sessions : List Session) : List (Session × Nat) :=
  (sessions.zipIdx position).filter (·.1.isOpen limit)

/-- The datagrams that were sent between two worlds, each with the position of its session: they
    belong to the open sessions, in the order of the table. -/
def Sender.handedOut (s : Sender) (w w' : World) : List (Nat × Octets) :=
  ((openFrom s.count 0 w.table.sessions).map (·.2)).zip
    (w'.host.datagrams.drop w.host.datagrams.length)

/-- The world after a number of steps, none of which failed, with the datagrams sent on the way. -/
inductive Sender.Run (s : Sender) : Nat → World → List (Nat × Octets) → World → Prop
  | done (w : World) : Run s 0 w [] w
  | step {k : Nat} {w w₁ w' : World} {ds : List (Nat × Octets)} (first : s.step w = .ok () w₁)
      (rest : Run s k w₁ ds w') : Run s (k + 1) w (s.handedOut w w₁ ++ ds) w'

/-- The datagrams for the session at a position. -/
def sentFor (i : Nat) (ds : List (Nat × Octets)) : List Octets := (ds.filter (·.1 = i)).map (·.2)

theorem sentFor_append (i : Nat) (ds es : List (Nat × Octets)) :
    sentFor i (ds ++ es) = sentFor i ds ++ sentFor i es := by
  simp [sentFor]

/-! ## Steps -/

/-- Logging sends nothing, and leaves the refusals and the script as they are. -/
theorem Host.log_sends_nothing (h : Host) (level : Level) (message : String) :
    (h.log level message).failures = h.failures ∧
      (h.log level message).datagrams = h.datagrams ∧
      (h.log level message).script = h.script ∧ (h.log level message).idle = h.idle := by
  have hleaves := Host.log_leaves (fun h => (h.failures, h.datagrams, h.script, h.idle))
    (fun _ _ => rfl)
    (fun h r sink => by cases sink <;> simp [deliver, datagrams, record, Call.sent?])
    h level message
  simpa only [Prod.mk.injEq] using hleaves

theorem List.modify_length_append_cons {α : Type} (f : α → α) (before after : List α) (a : α) :
    (before ++ a :: after).modify before.length f = before ++ [f a] ++ after := by
  induction before with
  | nil => rfl
  | cons b before ih => simp [ih]

namespace Sender

open Act

/-- The packet that a session sends next. -/
def packet (s : Sender) (index : Nat) (session : Session) : Octets :=
  Packet.encode session.nextSeq index (Packet.clampSize s.size)

/-- A session after its part of a step. -/
def served (s : Sender) (session : Session) : Session :=
  if session.isOpen s.count then session.sent else session

/-- **A packet is sent if its session is resolved, there is a socket of its family, and the call is
    not refused.** The session then counts it. -/
theorem sendOne_eq_ok_iff {s : Sender} {index : Nat} {session : Session} {w w' : World} :
    s.sendOne index session w = .ok () w' ↔
      ∃ target id, session.target = some target ∧ w.uplinks.lookup target.family = some id ∧
        w.host.refusal? .send (.send id (s.packet index session) target) = none ∧
        index < w.table.size ∧
        w' = { w with
          host := granted .send (.send id (s.packet index session) target) w.host
          table := { w.table with sessions := w.table.sessions.modify index Session.sent } } := by
  unfold sendOne
  cases htarget : session.target with
  | none => simp
  | some target =>
      simp only [bind_apply, get_apply]
      cases hid : w.uplinks.lookup target.family with
      | none => simp [hid]
      | some id =>
          simp only [bind_eq_ok, recover_throw_eq_ok, attempt_eq_ok_iff, modifySession_eq_ok_iff]
          constructor
          · rintro ⟨-, w₁, ⟨hdue, rfl⟩, k, hk, rfl⟩
            rw [Table.position?_natCast] at hk
            by_cases hindex : index < w.table.size
            · rw [if_pos hindex, Option.some.injEq] at hk
              exact ⟨target, id, rfl, hid, hdue, hindex, by rw [hk]; rfl⟩
            · rw [if_neg hindex] at hk
              cases hk
          · rintro ⟨target', id', htarget', hid', hdue, hindex, rfl⟩
            obtain rfl := Option.some.inj htarget'
            obtain rfl := Option.some.inj (hid.symm.trans hid')
            refine ⟨(), _, ⟨hdue, rfl⟩, index, ?_, rfl⟩
            rw [Table.position?_natCast, if_pos hindex]

/-- **A pass over sessions sends one packet for each open one**, and these count it. -/
theorem sendFrom_eq_ok {s : Sender} (before behind : List Session) {sessions : List Session}
    {w w' : World} (hsessions : w.table.sessions = before ++ (sessions ++ behind))
    (h : s.sendFrom before.length sessions w = .ok () w') :
    ∃ host : Host,
      w' = { w with
        host, table := { w.table with sessions := before ++ (sessions.map s.served ++ behind) } } ∧
      host.datagrams = w.host.datagrams ++
        (openFrom s.count before.length sessions).map (fun p => s.packet p.2 p.1) ∧
      host.script = w.host.script ∧ host.idle = w.host.idle := by
  -- The sessions in front have had their turn, so that the next one is at the position they end at.
  induction sessions generalizing before w with
  | nil =>
      rw [sendFrom, pure_apply] at h
      obtain rfl : w = w' := by injection h
      refine ⟨w.host, ?_, by simp [openFrom], rfl, rfl⟩
      rw [List.map_nil, ← hsessions]
  | cons session sessions ih =>
      rw [sendFrom] at h
      by_cases hopen : session.isOpen s.count
      · rw [if_pos hopen, bind_eq_ok] at h
        obtain ⟨_, w₁, hone, hrest⟩ := h
        obtain ⟨target, id, -, -, -, -, rfl⟩ := sendOne_eq_ok_iff.1 hone
        have hsent : w.table.sessions.modify before.length Session.sent =
            before ++ [session.sent] ++ (sessions ++ behind) := by
          rw [hsessions, List.cons_append, List.modify_length_append_cons]
        have hlength : (before ++ [session.sent]).length = before.length + 1 := by simp
        obtain ⟨host, rfl, hsent, hscript, hidle⟩ := ih _ hsent (hlength ▸ hrest)
        refine ⟨host, ?_, ?_, hscript, hidle⟩
        · simp [served, hopen]
        · rw [hsent]
          simp [openFrom, hopen, granted, Host.datagrams, Host.record, Call.sent?]
      · rw [if_neg hopen] at h
        have hrest : s.sendFrom (before ++ [session]).length sessions w = .ok () w' := by
          rw [List.length_append]
          exact h
        obtain ⟨host, rfl, hsent, hscript, hidle⟩ := ih _ (by simp [hsessions]) hrest
        refine ⟨host, ?_, ?_, hscript, hidle⟩
        · simp [served, hopen]
        · rw [hsent]
          simp [openFrom, hopen]

/-- The pause in front of a pass over the sessions. -/
def paused (s : Sender) : Act Unit := do
  submit (.pause (← measured s.period))
  await

/-- A pass over all sessions. -/
def pass (s : Sender) : Act Unit := do
  s.sendFrom 0 (← get).table.sessions

theorem step_eq (s : Sender) : s.step = s.paused >>= fun _ => s.pass >>= fun _ =>
    finishWhenDone s.count s!"Sent {s.count} packets to every group, done" := by
  unfold step paused pass
  simp only [bind_assoc]

/-- A pause leaves what its wait does, or is on record only if it is not granted; one that is too long
    to be measured leaves everything. -/
theorem after_paused (s : Sender) (w : World) : s.paused.after w = w ∨ ∃ span,
    s.paused.after w = { w with host := w.host.record (.pause span) } ∨
      s.paused.after w = await.after { w with host := w.host.record (.pause span) } := by
  unfold paused
  cases s.period with
  | excessive => exact Or.inl rfl
  | span span =>
      refine Or.inr ⟨span, ?_⟩
      show (submit (.pause span) >>= fun _ => await).after w = _ ∨ _
      cases hobjection : w.host.objection? (.pause span) with
      | some e =>
          have hsubmit : submit (.pause span) w =
              .error e { w with host := w.host.record (.pause span) } := by
            rw [submit_apply, hobjection]
          exact Or.inl (after_bind_of_error hsubmit _)
      | none =>
          have hsubmit := submit_eq_ok_iff (u := ()).2 ⟨hobjection, rfl⟩
          exact Or.inr (after_bind_of_ok hsubmit _)

/-- A pause leaves the sessions, the sockets and the refusals, and sends nothing. -/
theorem paused_leaves (s : Sender) (w : World) : (s.paused.after w).table = w.table ∧
    (s.paused.after w).uplinks = w.uplinks ∧
    (s.paused.after w).host.failures = w.host.failures ∧
    (s.paused.after w).host.datagrams = w.host.datagrams := by
  have hrecorded : ∀ span, (w.host.record (.pause span)).datagrams = w.host.datagrams := by
    simp [Host.datagrams, Host.record, Call.sent?]
  rcases s.after_paused w with hafter | ⟨span, hafter | hafter⟩
  · rw [hafter]
    exact ⟨rfl, rfl, rfl, rfl⟩
  · rw [hafter]
    exact ⟨rfl, rfl, rfl, hrecorded span⟩
  · have hapart := await_leaves { w with host := w.host.record (.pause span) }
    simp only [apart, Prod.mk.injEq] at hapart
    obtain ⟨htable, huplinks, htrace, hfailures, -⟩ := hapart
    rw [hafter]
    refine ⟨htable, huplinks, hfailures, ?_⟩
    rw [Host.datagrams, htrace]
    exact hrecorded span

/-- What is expected of the waits to come is expected of those behind a pause. -/
theorem expects_paused {s : Sender} {w : World} {p : Event → Prop} (h : w.host.Expects p) :
    (s.paused.after w).host.Expects p := by
  rcases s.after_paused w with hafter | ⟨span, hafter | hafter⟩
  · rw [hafter]
    exact h
  · rw [hafter]
    exact h
  · rw [hafter]
    exact (await_leaves_expected (w := { w with host := w.host.record (.pause span) }) h).2

/-- The end of a step changes neither sessions nor sockets, and sends nothing. -/
theorem finishWhenDone_leaves {limit : Int} {remark : String} {w w' : World}
    (h : finishWhenDone limit remark w = .ok () w') :
    w'.table = w.table ∧ w'.uplinks = w.uplinks ∧ w'.host.failures = w.host.failures ∧
      w'.host.datagrams = w.host.datagrams ∧
      w'.host.script = w.host.script ∧ w'.host.idle = w.host.idle := by
  rw [finishWhenDone_apply, EStateM.Result.ok.injEq] at h
  obtain ⟨-, rfl⟩ := h
  split
  · exact ⟨rfl, rfl, Host.log_sends_nothing _ _ _⟩
  · exact ⟨rfl, rfl, rfl, rfl, rfl, rfl⟩

/-- **A step ends in its pause, or with its pass over the sessions**; what comes behind the pass does
    not fail, and changes neither sessions nor sockets. -/
theorem step_cases (s : Sender) (w : World) :
    (∃ e w₁, s.paused w = .error e w₁ ∧ s.step w = .error e w₁) ∨
      ∃ w₁, s.paused w = .ok () w₁ ∧
        ((∃ e w₂, s.sendFrom 0 w₁.table.sessions w₁ = .error e w₂ ∧ s.step w = .error e w₂) ∨
          ∃ w₂ w', s.sendFrom 0 w₁.table.sessions w₁ = .ok () w₂ ∧ s.step w = .ok () w' ∧
            w'.table = w₂.table ∧ w'.uplinks = w₂.uplinks ∧
            w'.host.datagrams = w₂.host.datagrams) := by
  rw [step_eq]
  cases hpause : s.paused w with
  | error e w₁ => exact Or.inl ⟨e, w₁, rfl, bind_eq_error.2 (Or.inl hpause)⟩
  | ok u w₁ =>
      refine Or.inr ⟨w₁, rfl, ?_⟩
      rw [bind_of_ok hpause]
      cases hsend : s.sendFrom 0 w₁.table.sessions w₁ with
      | error e w₂ => exact Or.inl ⟨e, w₂, rfl, bind_eq_error.2 (Or.inl hsend)⟩
      | ok u w₂ =>
          have hend := finishWhenDone_apply s.count s!"Sent {s.count} packets to every group, done" w₂
          obtain ⟨htable, huplinks, -, hdatagrams, -⟩ := finishWhenDone_leaves hend
          refine Or.inr ⟨w₂, _, rfl, (bind_of_ok (hsend : s.pass w₁ = _)).trans hend, ?_⟩
          exact ⟨htable, huplinks, hdatagrams⟩

/-- **A step sends one packet for each open session**, and these count it. -/
theorem step_eq_ok {s : Sender} {w w' : World} (h : s.step w = .ok () w') :
    w'.table = { w.table with sessions := w.table.sessions.map s.served } ∧
      w'.host.datagrams = w.host.datagrams ++
        (openFrom s.count 0 w.table.sessions).map (fun p => s.packet p.2 p.1) ∧
      ∀ p, w.host.Expects p → w'.host.Expects p := by
  rw [step_eq] at h
  obtain ⟨_, w₁, hpause, h⟩ := bind_eq_ok.1 h
  obtain ⟨_, w₂, hsend, hfinish⟩ := bind_eq_ok.1 h
  obtain ⟨htable, -, -, hwaited⟩ := s.paused_leaves w
  rw [after_of_ok hpause] at htable hwaited
  obtain ⟨host, rfl, hsent, hscript₂, hidle₂⟩ :=
    sendFrom_eq_ok [] [] (List.append_nil _).symm (hsend : s.sendFrom 0 w₁.table.sessions w₁ = _)
  obtain ⟨htable', -, -, hsent', hscript', hidle'⟩ := finishWhenDone_leaves hfinish
  refine ⟨?_, ?_, ?_⟩
  · rw [htable', htable, List.nil_append, List.append_nil]
  · rw [hsent', hsent, hwaited, htable]
    rfl
  · intro p hexpects
    have hpaused := expects_paused (s := s) hexpects
    rw [after_of_ok hpause] at hpaused
    rw [Host.Expects, hscript', hidle', hscript₂, hidle₂]
    exact hpaused

/-- **The datagrams of a step are the packets of the open sessions.** -/
theorem handedOut_eq {s : Sender} {w w' : World} (h : s.step w = .ok () w') :
    s.handedOut w w' =
      (openFrom s.count 0 w.table.sessions).map fun p => (p.2, s.packet p.2 p.1) := by
  obtain ⟨-, hsent, -⟩ := step_eq_ok h
  rw [handedOut, hsent, List.drop_left, List.zip_map']

/-! ## Runs -/

/-- Among open sessions, only the one at a position is found there. -/
theorem filter_openFrom (limit : Int) (position i : Nat) (sessions : List Session) :
    (openFrom limit position sessions).filter (·.2 = position + i) =
      ((sessions[i]?.filter (·.isOpen limit)).map fun session => (session, position + i)).toList := by
  induction sessions generalizing position i with
  | nil => simp [openFrom]
  | cons session sessions ih =>
      have hcons : openFrom limit position (session :: sessions) =
          [(session, position)].filter (·.1.isOpen limit) ++
            openFrom limit (position + 1) sessions := by
        rw [openFrom, List.zipIdx_cons, ← List.singleton_append, List.filter_append]
        rfl
      rw [hcons, List.filter_append]
      cases i with
      | zero =>
          have hlater :
              (openFrom limit (position + 1) sessions).filter (·.2 = position + 0) = [] := by
            rw [List.filter_eq_nil_iff]
            intro p hp
            have hle := List.le_snd_of_mem_zipIdx (List.mem_filter.1 hp).1
            simp only [decide_eq_true_eq]
            omega
          rw [hlater]
          by_cases hopen : session.isOpen limit <;> simp [hopen, Option.filter_some]
      | succ i =>
          have hhere : ([(session, position)].filter (·.1.isOpen limit)).filter
              (·.2 = position + (i + 1)) = [] := by
            rw [List.filter_eq_nil_iff]
            intro p hp
            have hp := List.mem_singleton.1 (List.mem_filter.1 hp).1
            simp [hp]
          rw [hhere, show position + (i + 1) = position + 1 + i by omega, ih]
          rfl

/-- A step sends one datagram for a session that is open, and none for one that is not. -/
theorem sentFor_handedOut {s : Sender} {w w' : World} (h : s.step w = .ok () w') {i : Nat}
    {session : Session} (hsession : w.table.sessions[i]? = some session) :
    sentFor i (s.handedOut w w') = if session.isOpen s.count then [s.packet i session] else [] := by
  have hfilter := filter_openFrom s.count 0 i w.table.sessions
  rw [Nat.zero_add, hsession, Option.filter_some] at hfilter
  rw [sentFor, handedOut_eq h, List.filter_map, List.map_map]
  show (List.filter (fun p : Session × Nat => decide (p.2 = i)) _).map _ = _
  rw [hfilter]
  split <;> rfl

/-- A session has had a number of packets, numbered from zero on. -/
structure Numbered (n : Nat) (session : Session) : Prop where
  count : session.count = n
  seq : session.seq = if n = 0 then none else some (n - 1 : Int)

theorem Numbered.nextSeq {n : Nat} {session : Session} (h : Numbered n session) :
    session.nextSeq = n := by
  rw [Session.nextSeq, h.seq]
  by_cases hn : n = 0
  · simp [hn]
  · simp [hn]

theorem Numbered.sent {n : Nat} {session : Session} (h : Numbered n session) :
    Numbered (n + 1) session.sent where
  count := by simp [Session.sent, h.count]
  seq := by simp [Session.sent, h.nextSeq]

/-- How many packets a number of steps sends for a session that has had some: one a step, up to the
    limit if there is one. -/
def share (s : Sender) (steps had : Nat) : Nat :=
  if s.count = 0 then steps else min steps (s.count - had).toNat

theorem share_le (s : Sender) (steps had : Nat) : s.share steps had ≤ steps := by
  unfold share
  split
  · exact Nat.le_refl _
  · exact Nat.min_le_left _ _

/-- **The datagrams of one session carry consecutive numbers**, from the number of packets on that
    it had before, and there is one for each step up to the limit. -/
theorem Run.sentFor_eq {s : Sender} {k : Nat} {w w' : World} {ds : List (Nat × Octets)}
    (hrun : s.Run k w ds w') {i n : Nat} {session : Session}
    (hsession : w.table.sessions[i]? = some session) (hn : Numbered n session) :
    sentFor i ds = (List.range' n (s.share k n)).map
        (fun q : Nat => Packet.encode q i (Packet.clampSize s.size)) ∧
      ∃ session', w'.table.sessions[i]? = some session' ∧
        Numbered (n + s.share k n) session' := by
  -- The run goes on with the session that its first step leaves, which has one number more or, once
  -- the session is full, the same.
  induction hrun generalizing n session with
  | done w =>
      have hnone : s.share 0 n = 0 := Nat.le_zero.1 (s.share_le 0 n)
      rw [hnone]
      exact ⟨rfl, session, hsession, hn⟩
  | @step k w w₁ w' ds first rest ih =>
      obtain ⟨htable, -, -⟩ := step_eq_ok first
      have hserved : w₁.table.sessions[i]? = some (s.served session) := by
        rw [htable, List.getElem?_map, hsession]
        rfl
      have hopens : session.isOpen s.count ↔ s.count = 0 ∨ (n : Int) < s.count := by
        simp [Session.isOpen, hn.count]
      rw [sentFor_append, sentFor_handedOut first hsession]
      by_cases hopen : session.isOpen s.count
      · rw [served, if_pos hopen] at hserved
        obtain ⟨hsent, session', hsession', hn'⟩ := ih hserved hn.sent
        have hshare : s.share (k + 1) n = s.share k (n + 1) + 1 := by
          have hroom := hopens.1 hopen
          unfold share
          split
          · rfl
          · omega
        rw [hshare]
        refine ⟨?_, session', hsession', ?_⟩
        · rw [if_pos hopen, hsent, packet, hn.nextSeq, List.range'_succ]
          rfl
        · rw [← Nat.add_assoc, Nat.add_right_comm]
          exact hn'
      · rw [served, if_neg hopen] at hserved
        obtain ⟨hsent, hafter⟩ := ih hserved hn
        have hshare : s.share (k + 1) n = s.share k n := by
          have hfull := mt hopens.2 hopen
          unfold share
          rw [if_neg fun hcount => hfull (Or.inl hcount), if_neg fun hcount => hfull (Or.inl hcount)]
          omega
        rw [hshare]
        refine ⟨?_, hafter⟩
        rw [if_neg hopen, hsent]
        rfl

/-! ## Readiness -/

/-- Nothing stands in the way of sending: every session is resolved, on a port that there is, and there
    is a socket of its family; the pause can be made; no refusal of a packet is due, and no wait is cut
    short. -/
structure Ready (s : Sender) (w : World) : Prop where
  sockets : ∀ session ∈ w.table.sessions, ∃ target id, session.target = some target ∧
    w.uplinks.lookup target.family = some id
  ports : w.table.HasPorts
  period : s.period.Suits .pause
  granted : ∀ f ∈ w.host.failures, f.kind ≠ .send
  quiet : w.host.Expects fun e => ¬e.Cuts

/-- A refusal of another kind does not strike a packet, and is not used up by it. -/
theorem not_strikes_of_granted {failures : List Failure} (h : ∀ f ∈ failures, f.kind ≠ .send) :
    failures.find? (Failure.strikes .send) = none ∧
      failures.map (Failure.next .send) = failures := by
  constructor
  · rw [List.find?_eq_none]
    intro f hf
    simp [Failure.strikes, h f hf]
  · calc failures.map (Failure.next .send)
        = failures.map id :=
          List.map_congr_left fun f hf => by simp [Failure.next, h f hf]
      _ = failures := List.map_id failures

/-- A pass over sessions goes through if nothing stands in its way. -/
theorem exists_sendFrom {s : Sender} (before : List Session) {sessions : List Session} {w : World}
    (hsessions : w.table.sessions = before ++ sessions)
    (hsockets : ∀ session ∈ sessions, ∃ target id, session.target = some target ∧
      w.uplinks.lookup target.family = some id)
    (hports : ∀ session ∈ sessions, ∀ target, session.target = some target → target.HasPort)
    (hgranted : ∀ f ∈ w.host.failures, f.kind ≠ .send) :
    ∃ w', s.sendFrom before.length sessions w = .ok () w' ∧
      w'.host.failures = w.host.failures := by
  induction sessions generalizing before w with
  | nil => exact ⟨w, rfl, rfl⟩
  | cons session sessions ih =>
      obtain ⟨⟨target, id, htarget, hid⟩, hlater⟩ := List.forall_mem_cons.1 hsockets
      obtain ⟨hport, hothers⟩ := List.forall_mem_cons.1 hports
      rw [sendFrom]
      by_cases hopen : session.isOpen s.count
      · obtain ⟨hdue, hsame⟩ := not_strikes_of_granted hgranted
        have hindex : before.length < w.table.size := by simp [Table.size, hsessions]
        have hfits : w.host.objection? (.send id (s.packet before.length session) target) = none :=
          Host.objection?_eq_none (Call.objection?_send (hport target htarget) id _) w.host
        have hone := sendOne_eq_ok_iff (s := s).2
          ⟨target, id, htarget, hid, Host.refusal?_eq_none.2 ⟨hfits, hdue⟩, hindex, rfl⟩
        have hsent : w.table.sessions.modify before.length Session.sent =
            before ++ [session.sent] ++ sessions := by
          rw [hsessions, List.modify_length_append_cons]
        have hgranted' : ∀ f ∈ w.host.failures.map (Failure.next .send), f.kind ≠ .send := by
          rw [hsame]
          exact hgranted
        rw [if_pos hopen, bind_apply, hone]
        obtain ⟨w', hrest, hfailures⟩ := ih (w := { w with
            host := granted .send (.send id (s.packet before.length session) target) w.host
            table := { w.table with sessions := w.table.sessions.modify before.length Session.sent } })
          (before ++ [session.sent]) hsent hlater hothers hgranted'
        rw [List.length_append] at hrest
        exact ⟨w', hrest, hfailures.trans hsame⟩
      · rw [if_neg hopen]
        obtain ⟨w', hrest, hfailures⟩ :=
          ih (before ++ [session]) (by simp [hsessions]) hlater hothers hgranted
        rw [List.length_append] at hrest
        exact ⟨w', hrest, hfailures⟩

/-- A step comes through its pass over the sessions, and leaves its sockets and the refusals. -/
theorem Ready.exists_pass {s : Sender} {w : World} (h : s.Ready w) :
    ∃ w₃, s.step w = finishWhenDone s.count s!"Sent {s.count} packets to every group, done" w₃ ∧
      w₃.uplinks = w.uplinks ∧ w₃.host.failures = w.host.failures := by
  obtain ⟨span, hspan, hsuits⟩ := h.period
  obtain ⟨w₂, hawait⟩ :=
    exists_await (fun _ => id) (w := { w with host := w.host.record (.pause span) }) h.quiet
  have hpause : s.paused w = .ok () w₂ := by
    have hsubmit : submit (.pause span) w = .ok () { w with host := w.host.record (.pause span) } :=
      submit_eq_ok_iff.2 ⟨Host.objection?_eq_none hsuits w.host, rfl⟩
    unfold paused
    rw [hspan]
    exact (bind_of_ok hsubmit).trans hawait
  obtain ⟨htable, huplinks, hfailures, -⟩ := s.paused_leaves w
  rw [after_of_ok hpause] at htable huplinks hfailures
  have hports : ∀ session ∈ w₂.table.sessions, ∀ target, session.target = some target →
      target.HasPort := by
    rw [htable]
    intro session hsession target htarget
    exact h.ports target (htarget ▸ List.mem_map_of_mem hsession)
  obtain ⟨w₃, hsend, hsame⟩ := exists_sendFrom (s := s) [] (List.nil_append w₂.table.sessions).symm
    (by rw [htable, huplinks]; exact h.sockets)
    hports (by rw [hfailures]; exact h.granted)
  obtain ⟨host, hw₃, -⟩ := sendFrom_eq_ok [] [] (List.append_nil _).symm hsend
  refine ⟨w₃, ?_, by rw [hw₃]; exact huplinks, hsame.trans hfailures⟩
  rw [step_eq, bind_of_ok hpause]
  exact bind_of_ok hsend

/-- **A sender that nothing stands in the way of makes a step**, and nothing stands in its way
    then. -/
theorem Ready.exists_step {s : Sender} {w : World} (h : s.Ready w) :
    ∃ w', s.step w = .ok () w' ∧ s.Ready w' := by
  obtain ⟨w₃, hstep, huplinks, hfailures⟩ := h.exists_pass
  have hend := finishWhenDone_apply s.count s!"Sent {s.count} packets to every group, done" w₃
  rw [hend] at hstep
  obtain ⟨-, huplinks', hfailures', -, -, -⟩ := finishWhenDone_leaves hend
  obtain ⟨htable, -, hquiet⟩ := step_eq_ok hstep
  have hserved : ∀ session : Session, (s.served session).target = session.target := by
    intro session
    unfold served
    split
    · rfl
    · rfl
  refine ⟨_, hstep, ?_, ?_, h.period, ?_, hquiet _ h.quiet⟩
  · rw [htable, huplinks', huplinks]
    intro session hsession
    obtain ⟨session, hmem, rfl⟩ := List.mem_map.1 hsession
    obtain ⟨target, id, htarget, hid⟩ := h.sockets session hmem
    exact ⟨target, id, (hserved session).trans htarget, hid⟩
  · intro target htarget
    refine h.ports target ?_
    rw [htable, List.map_map, Function.comp_def] at htarget
    simpa only [hserved] using htarget
  · rw [hfailures', hfailures]
    exact h.granted

/-- **A sender that nothing stands in the way of makes any number of steps.** -/
theorem Ready.exists_run {s : Sender} {w : World} (h : s.Ready w) (k : Nat) :
    ∃ ds w', s.Run k w ds w' := by
  induction k generalizing w with
  | zero => exact ⟨[], w, .done w⟩
  | succ k ih =>
      obtain ⟨w₁, hstep, hready⟩ := h.exists_step
      obtain ⟨ds, w', hrun⟩ := ih hready
      exact ⟨_, w', .step hstep hrun⟩

end Sender

end Multicast
