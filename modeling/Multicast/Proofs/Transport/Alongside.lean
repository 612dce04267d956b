import Multicast.Proofs.Act.Alike
import Multicast.Proofs.Transport.Footing

/-!
# `Proofs.Transport.Alongside` — a run alongside another run

Sending and receiving have to do with a part of the world only: with the sessions apart from their
spinners, with the flags, and with what waits on the sockets and happens during the waits. Two worlds
that agree in this part are alongside each other, whatever is shown and logged in either of them. The
basic steps of a transport end in the same way on both, and leave them alongside each other.

## Contents
- **Alongside.** `Session.still`, `Dealings`, the part of the host, and `World.Calm`, nothing that a
  full screen would fail with; then `Alongside`.
- **Sessions.** `Session.still_cases` and `Session.accept_of_still`, then `Alongside.get?` and
  `alike_modifySession`.
- **Blind.** `Blind`, a step that does not tell two runs apart; `blind_modifyHost`, with `blind_check`,
  `blind_submit` and `blind_attempt` for calls.
- **Waiting.** `endAlike_play` and `endAlike_events`, `blind_await`, `blind_attend` and
  `blind_finishWhenDone`.
-/

namespace Multicast

open Act

/-! ## Alongside -/

/-- The session apart from its spinner. -/
def Session.still (s : Session) : Session := { s with spin := 0 }

/-- The table apart from its spinners. -/
def Table.still (t : Table) : Table := { t with sessions := t.sessions.map Session.still }

/-- What sending and receiving have to do with the host. -/
structure Dealings where
  handlers : Signal → Disposition
  /-- The refusals of calls on sockets that are to come. -/
  refusals : List Failure
  opening : List Event
  script : List (List Event)
  idle : List Event
  watched : List Watch
  nextSocket : Nat
  interfaces : List (Int × String)
  commands : List (String × String)
  memory : Nat
  /-- Whether calls object to their numbers. -/
  strict : Bool
  /-- The calls on sockets so far. -/
  calls : List Call

/-- The host's part in sending and receiving. -/
def Host.dealings (h : Host) : Dealings where
  handlers := h.handlers
  refusals := h.failures.filter (·.kind.onSockets)
  opening := h.opening
  script := h.script
  idle := h.idle
  watched := h.watched
  nextSocket := h.nextSocket
  interfaces := h.interfaces
  commands := h.commands
  memory := h.memory
  strict := h.strict
  calls := h.trace.toList.filter Call.onSockets

/-- What a full screen may fail with. -/
structure Setting where
  /-- Which refusals can come up, however often. -/
  refusals : List (CallKind × Fault)
  clock : Int
  size : Option (Int × Int)
  memory : Nat
  /-- What can happen while a transport is opened, and during a wait. -/
  waits : List (List Event)

/-- The host's part in showing. -/
def Host.setting (h : Host) : Setting where
  refusals := h.failures.map fun f => (f.kind, f.fault)
  clock := h.clock
  size := h.terminal
  memory := h.memory
  waits := h.opening :: h.idle :: h.script

/-- The clock is not set to a time without a date, and no terminal gets too wide for its headings. -/
def Event.Calm (memory : Nat) : Event → Prop
  | .clock seconds => ∃ time, Calendar.Stamp.ofClock? seconds = .ok time
  | .resize columns _ => Room.HasLine memory columns
  | _ => True

/-- **Nothing makes a full screen fail**: calls on the terminal are granted, the host's name is looked
    up or the system does not know it, the clock has a date, and there is room for the headings. -/
structure Setting.Calm (s : Setting) : Prop where
  granted : ∀ p ∈ s.refusals, ∀ call, p.1 ≠ .terminal call
  lookups : ∀ p ∈ s.refusals, p.1 = .lookup → p.2.isSystem
  dated : ∃ time, Calendar.Stamp.ofClock? s.clock = .ok time
  fits : ∀ size, s.size = some size → Room.HasLine s.memory size.1
  waits : ∀ events ∈ s.waits, ∀ e ∈ events, e.Calm s.memory

/-- There is room for the widths that the terminal and the dashboard were known to have, too. -/
structure World.Calm (w : World) : Prop where
  setting : w.host.setting.Calm
  terminal : Room.HasLine w.host.memory w.terminal.width
  dashboard : Room.HasLine w.host.memory w.dashboard.width

/-- **Alongside each other**: for sending and receiving, the worlds are the same. The first of them is
    the one with a full screen. -/
structure Alongside (w w' : World) : Prop where
  table : w.table.still = w'.table.still
  flags : w.flags = w'.flags
  signals : w.signals = w'.signals
  uplinks : w.uplinks = w'.uplinks
  dealings : w.host.dealings = w'.host.dealings
  calm : w.Calm

/-! ## Sessions -/

theorem Table.size_still (t : Table) : t.still.size = t.size := List.length_map _

theorem Table.position?_still (t : Table) (i : Int) : t.still.position? i = t.position? i := by
  unfold position?
  rw [size_still]

theorem Table.get?_still (t : Table) (i : Int) : t.still.get? i = (t.get? i).map Session.still := by
  unfold get?
  rw [position?_still]
  cases t.position? i with
  | none => rfl
  | some k => exact List.getElem?_map

theorem Table.isComplete_still (t : Table) (limit : Int) :
    t.still.isComplete limit = t.isComplete limit := by
  unfold isComplete still
  dsimp only
  rw [List.all_map]
  rfl

namespace Session

/-- Two sessions are there and alike, or neither is there. -/
theorem still_cases {o o' : Option Session} (h : o.map still = o'.map still) :
    (o = none ∧ o' = none) ∨ ∃ s s', o = some s ∧ o' = some s' ∧ s.still = s'.still := by
  cases o with
  | none =>
      cases o' with
      | none => exact Or.inl ⟨rfl, rfl⟩
      | some s' => cases h
  | some s =>
      cases o' with
      | none => cases h
      | some s' => exact Or.inr ⟨s, s', rfl, rfl, Option.some.inj h⟩

/-- Sessions that are alike stay so if they change in a like way. -/
theorem map_still_modify {sessions sessions' : List Session} {f g : Session → Session}
    (h : sessions.map still = sessions'.map still)
    (hfg : ∀ s s' : Session, s.still = s'.still → (f s).still = (g s').still) (k : Nat) :
    (sessions.modify k f).map still = (sessions'.modify k g).map still := by
  refine List.ext_getElem? fun j => ?_
  have hj : sessions[j]?.map still = sessions'[j]?.map still := by
    rw [← List.getElem?_map, ← List.getElem?_map, h]
  rw [List.getElem?_map, List.getElem?_map, List.getElem?_modify, List.getElem?_modify]
  rcases still_cases hj with ⟨hs, hs'⟩ | ⟨s, s', hs, hs', hstill⟩
  · rw [hs, hs']
    rfl
  · rw [hs, hs']
    show some (if k = j then f s else s).still = some (if k = j then g s' else s').still
    split
    · exact congrArg some (hfg s s' hstill)
    · exact congrArg some hstill

theorem still_accept (size : Nat) (seq : Option Int) (s : Session) :
    s.still.accept size seq = ((s.accept size seq).1.still, (s.accept size seq).2) := by
  have hnote : ∀ (n : Int) (s : Session),
      s.still.noteSeq n = ((s.noteSeq n).1.still, (s.noteSeq n).2) := by
    intro n s
    have hseq : s.still.seq = s.seq := rfl
    unfold noteSeq
    rw [hseq]
    cases s.seq with
    | none => rfl
    | some last =>
        dsimp only
        split
        · rfl
        · split
          · rfl
          · rfl
  cases seq with
  | none => rfl
  | some n => exact hnote n { s.mark with count := s.count + 1 }

/-- Sessions that are alike count a datagram alike, and there is the same to remark on it. -/
theorem accept_of_still {s s' : Session} (h : s.still = s'.still) (size : Nat) (seq : Option Int) :
    (s.accept size seq).1.still = (s'.accept size seq).1.still ∧
      (s.accept size seq).2 = (s'.accept size seq).2 := by
  refine Prod.mk.inj ?_
  rw [← still_accept, ← still_accept, h]

end Session

namespace Alongside

variable {w w' : World}

theorem size (h : Alongside w w') : w.table.size = w'.table.size := by
  rw [← w.table.size_still, h.table, w'.table.size_still]

/-- The sessions at an index are there in both tables, and alike. -/
theorem get? (h : Alongside w w') (i : Int) :
    (w.table.get? i).map Session.still = (w'.table.get? i).map Session.still := by
  rw [← Table.get?_still, ← Table.get?_still, h.table]

theorem sessions (h : Alongside w w') :
    w.table.sessions.map Session.still = w'.table.sessions.map Session.still :=
  congrArg Table.sessions h.table

theorem families (h : Alongside w w') : w.table.families = w'.table.families := by
  show w.table.still.families = w'.table.still.families
  rw [h.table]

/-- The worlds stay alongside each other if their sessions change in a like way. -/
theorem withTable {t t' : Table} (h : Alongside w w') (ht : t.still = t'.still) :
    Alongside { w with table := t } { w' with table := t' } :=
  { h with table := ht, calm := { h.calm with } }

/-- The worlds stay alongside each other if their hosts change in a like way, though not in their
    memory. -/
theorem withHost {host host' : Host} (h : Alongside w w') (hsame : host.dealings = host'.dealings)
    (hcalm : host.setting.Calm) (hmemory : host.memory = w.host.memory) :
    Alongside { w with host } { w' with host := host' } :=
  { h with
    dealings := hsame
    calm := ⟨hcalm, hmemory ▸ h.calm.terminal, hmemory ▸ h.calm.dashboard⟩ }

end Alongside

namespace Act

/-- A step that is blind to what is shown and logged: two runs go alike. -/
abbrev Blind {α : Type} (x : Act α) : Prop := Alike Alongside x x

/-- **A session changes in a like way in both runs.** -/
theorem alike_modifySession {i : Int} {f g : Session → Session}
    (hfg : ∀ s s' : Session, s.still = s'.still → (f s).still = (g s').still) :
    Alike Alongside (modifySession i f) (modifySession i g) := by
  intro w w' h
  have hposition : w'.table.position? i = w.table.position? i := by
    rw [← w.table.position?_still, h.table, w'.table.position?_still]
  unfold modifySession Table.modify?
  refine endAlike_get_bind ?_
  rw [hposition]
  cases w.table.position? i with
  | none => exact ⟨rfl, h⟩
  | some k =>
      refine ⟨rfl, h.withTable ?_⟩
      show ({ w.table.still with
          sessions := (w.table.sessions.modify k f).map Session.still } : Table) =
        { w'.table.still with sessions := (w'.table.sessions.modify k g).map Session.still }
      rw [h.table, Session.map_still_modify h.sessions hfg]

/-- A change that has nothing to do with the spinner is a like one. -/
theorem blind_modifySession {i : Int} {f : Session → Session}
    (hf : ∀ s : Session, (f s).still = (f s.still).still) : Blind (modifySession i f) :=
  alike_modifySession fun s s' h => by rw [hf s, hf s', h]

/-! ## Host -/

/-- **The hosts change in a like way** if what is changed in their dealings is read off them alone. -/
theorem blind_modifyHost {f : Host → Host} (change : Dealings → Dealings)
    (hf : ∀ h, (f h).dealings = change h.dealings)
    (hcalm : ∀ h : Host, h.setting.Calm → (f h).setting.Calm)
    (hmemory : ∀ h, (f h).memory = h.memory) : Blind (modifyHost f) := by
  intro w w' h
  refine ⟨rfl, h.withHost ?_ (hcalm _ h.calm.setting) (hmemory _)⟩
  rw [hf, hf, h.dealings]

theorem dealings_record (c : Call) (h : Host) : (h.record c).dealings =
    { h.dealings with calls := h.dealings.calls ++ [c].filter Call.onSockets } := by
  unfold Host.record Host.dealings
  rw [Array.toList_push, List.filter_append]

theorem blind_call (c : Call) : Blind (call c) :=
  blind_modifyHost (fun d => { d with calls := d.calls ++ [c].filter Call.onSockets })
    (dealings_record c) (fun _ h => h) fun _ => rfl

/-- A call that is not on sockets is no part of sending and receiving. -/
theorem dealings_record_of_not {c : Call} (hc : c.onSockets = false) (h : Host) :
    (h.record c).dealings = h.dealings := by
  rw [dealings_record, List.filter_cons_of_neg (by simp [hc]), List.filter_nil, List.append_nil]

/-- What is logged is no part of it either, nor of showing. -/
theorem log_leaves_dealings (h : Host) (level : Level) (message : String) :
    (h.log level message).dealings = h.dealings ∧ (h.log level message).setting = h.setting := by
  have hdeliver : ∀ (h : Host) (r : Record) (sink : Sink),
      ((h.deliver r sink).dealings, (h.deliver r sink).setting) = (h.dealings, h.setting) := by
    intro h r sink
    cases sink with
    | standardError | region => rfl
    | systemLog | file => exact Prod.ext (dealings_record_of_not rfl h) rfl
  exact Prod.mk.inj
    (Host.log_leaves (fun h => (h.dealings, h.setting)) (fun _ _ => rfl) hdeliver h level message)

theorem blind_log (level : Level) (message : String) : Blind (log level message) :=
  blind_modifyHost id (fun h => (log_leaves_dealings h level message).1)
    (fun h hcalm => by rw [(log_leaves_dealings h level message).2]; exact hcalm)
    fun h => congrArg Setting.memory (log_leaves_dealings h level message).2

theorem dealings_next (kind : CallKind) (h : Host) :
    ({ h with failures := h.failures.map (Failure.next kind) } : Host).dealings =
      { h.dealings with refusals := h.dealings.refusals.map (Failure.next kind) } := by
  unfold Host.dealings
  dsimp only
  rw [List.filter_map]
  have hkind : (fun f : Failure => f.kind.onSockets) ∘ Failure.next kind = (·.kind.onSockets) := by
    funext f
    exact congrArg CallKind.onSockets (next_failure kind f).1
  rw [hkind]

theorem setting_next (kind : CallKind) (h : Host) :
    ({ h with failures := h.failures.map (Failure.next kind) } : Host).setting = h.setting := by
  unfold Host.setting
  dsimp only
  rw [map_next]

/-- A call on sockets is refused by a failure of its own kind, and this is the next one in both
    runs. -/
theorem check?_alongside {kind : CallKind} (hkind : kind.onSockets = true) {h h' : Host}
    (hsame : h.dealings = h'.dealings) : (h.check? kind).2 = (h'.check? kind).2 := by
  -- Both runs share the refusals of calls on sockets only; the others never strike here.
  have hfind : ∀ failures : List Failure, failures.find? (Failure.strikes kind) =
      (failures.filter (·.kind.onSockets)).find? (Failure.strikes kind) := by
    intro failures
    rw [List.find?_filter]
    congr 1
    funext f
    by_cases hf : f.kind = kind
    · simp [hf, hkind]
    · simp [Failure.strikes, hf]
  have hrefusals : h.failures.filter (·.kind.onSockets) = h'.failures.filter (·.kind.onSockets) :=
    congrArg Dealings.refusals hsame
  unfold Host.check?
  rw [hfind h.failures, hfind h'.failures, hrefusals]

/-- The schedules of both runs move on alike. -/
theorem next_alongside {w w' : World} (h : Alongside w w') (kind : CallKind) :
    Alongside { w with host :=
        { w.host with failures := w.host.failures.map (Failure.next kind) } }
      { w' with host :=
        { w'.host with failures := w'.host.failures.map (Failure.next kind) } } := by
  refine h.withHost ?_ ?_ rfl
  · rw [dealings_next, dealings_next, h.dealings]
  · rw [setting_next]
    exact h.calm.setting

theorem blind_check {kind : CallKind} (hkind : kind.onSockets = true) : Blind (check kind) := by
  have houtcome : ∀ w, (check kind).outcome w = (w.host.check? kind).2.elim (.ok ()) .error := by
    intro w
    unfold outcome check Host.check?
    cases w.host.failures.find? (Failure.strikes kind) with
    | none => rfl
    | some f => rfl
  intro w w' h
  refine ⟨?_, ?_⟩
  · rw [houtcome, houtcome, check?_alongside hkind h.dealings]
  · rw [after_check, after_check]
    exact next_alongside h kind

/-- Both runs object to the numbers of a call, or neither does. -/
theorem objection?_alongside {h h' : Host} (hsame : h.dealings = h'.dealings) (c : Call) :
    h.objection? c = h'.objection? c := by
  have hstrict : h.strict = h'.strict := congrArg Dealings.strict hsame
  unfold Host.objection?
  rw [hstrict]

theorem blind_vet (c : Call) : Blind (vet c) := by
  intro w w' h
  unfold EndAlike outcome after
  rw [vet_apply, vet_apply, objection?_alongside h.dealings c]
  cases w'.host.objection? c with
  | none => exact ⟨rfl, h⟩
  | some e => exact ⟨rfl, h⟩

theorem blind_submit (c : Call) : Blind (submit c) := alike_bind (blind_call c) fun _ => blind_vet c

theorem blind_attempt {kind : CallKind} (hkind : kind.onSockets = true) (c : Call) :
    Blind (attempt kind c) := by
  intro w w' h
  have hrecorded : Alongside { w with host := w.host.record c } { w' with host := w'.host.record c } :=
    (blind_call c w w' h).2
  have hrefusal : w.host.refusal? kind c = w'.host.refusal? kind c := by
    unfold Host.refusal?
    rw [objection?_alongside h.dealings c, check?_alongside hkind h.dealings]
  refine ⟨?_, ?_⟩
  · unfold outcome
    rw [attempt_apply, attempt_apply, hrefusal]
    cases w'.host.refusal? kind c with
    | none => rfl
    | some e => rfl
  · rw [after_attempt, after_attempt]
    exact next_alongside hrecorded kind

theorem blind_modifyFlags (f : Flags → Flags) : Blind (modifyFlags f) := by
  intro w w' h
  have hflags : f w.flags = f w'.flags := congrArg f h.flags
  exact ⟨rfl, { h with flags := hflags, calm := { h.calm with } }⟩

theorem blind_measured (span : Seconds) : Blind (measured span) := by
  cases span with
  | span q => exact alike_pure q
  | excessive => exact alike_throw _

/-! ## Waiting -/

/-- Both runs have the same handlers for a signal. -/
theorem blind_deliver (s : Signal) : Blind (deliver s) := by
  intro w w' h
  have hhandlers : w.host.handlers = w'.host.handlers := congrArg Dealings.handlers h.dealings
  unfold deliver
  refine endAlike_get_bind ?_
  rw [hhandlers]
  split
  · exact blind_modifyFlags _ w w' h
  · exact blind_modifyFlags _ w w' h
  · exact blind_modifyFlags _ w w' h
  · exact ⟨rfl, h⟩

/-- An event happens to both runs. -/
theorem endAlike_play {e : Event} {w w' : World} (h : Alongside w w')
    (hcalm : e.Calm w.host.memory) : EndAlike Alongside (play e) (play e) w w' := by
  have harrive : ∀ (session : Int) (a : Arrival), Blind (modifyHost (·.arrive session a)) :=
    fun session a => blind_modifyHost
      (fun d => { d with watched := d.watched.map (Watch.enqueue session a) }) (fun _ => rfl)
      (fun _ h => h) fun _ => rfl
  have hset := h.calm.setting
  cases e with
  | signal s => exact blind_deliver s w w' h
  | resize columns lines =>
      have hresized : Alongside { w with host := { w.host with terminal := some (columns, lines) } }
          { w' with host := { w'.host with terminal := some (columns, lines) } } := by
        refine h.withHost h.dealings ⟨hset.granted, hset.lookups, hset.dated, ?_, hset.waits⟩ rfl
        intro size hsize
        obtain rfl := Option.some.inj hsize
        exact hcalm
      exact .bind_of_ok rfl rfl (blind_deliver .resize _ _ hresized)
  | clock seconds =>
      exact ⟨rfl, h.withHost h.dealings
        ⟨hset.granted, hset.lookups, hcalm, hset.fits, hset.waits⟩ rfl⟩
  | datagram session data => exact harrive session _ w w' h
  | refusal session e => exact harrive session _ w w' h
  | fault f => exact alike_throw f w w' h
  | tick => exact blind_modifyFlags ({ · with tick := true }) w w' h
  | resized => exact blind_modifyFlags ({ · with resized := true }) w w' h
  | stop => exact blind_modifyFlags ({ · with running := false }) w w' h

/-- Events happen to both runs one after the other, and leave the memory as it is. -/
theorem endAlike_events {events : List Event} {w w' : World} (h : Alongside w w')
    (hcalm : ∀ e ∈ events, e.Calm w.host.memory) :
    EndAlike Alongside (events.forM play) (events.forM play) w w' := by
  induction events generalizing w w' with
  | nil => exact ⟨rfl, h⟩
  | cons e events ih =>
      have hscripted : scripted ((play e).after w) = scripted w := keeps_play e w
      have hmemory := congrArg (fun part => part.1.2.2.2.2) hscripted
      rcases (endAlike_play h (hcalm e List.mem_cons_self)).ends with
        ⟨_, w₁, w₁', hplay, hplay', h₁⟩ | ⟨f, w₁, w₁', hplay, hplay', h₁⟩
      · rw [after_of_ok hplay] at hmemory
        refine .bind_of_ok hplay hplay' (ih h₁ fun e he => ?_)
        rw [show w₁.host.memory = w.host.memory from hmemory]
        exact hcalm e (List.mem_cons_of_mem _ he)
      · exact .of_error (bind_eq_error.2 (Or.inl hplay)) (bind_eq_error.2 (Or.inl hplay')) h₁

/-- **The same happens during a wait of both runs.** -/
theorem blind_await : Blind await := by
  intro w w' h
  have hscript : w.host.script = w'.host.script := congrArg Dealings.script h.dealings
  have hidle : w.host.idle = w'.host.idle := congrArg Dealings.idle h.dealings
  have hwaits : ∀ events ∈ w.host.idle :: w.host.script, ∀ e ∈ events, e.Calm w.host.memory :=
    fun events hmem => h.calm.setting.waits events (List.mem_cons_of_mem _ hmem)
  -- The events are calm, and the later waits are among those that were to be expected.
  unfold await nextEvents
  rw [bind_assoc]
  refine endAlike_get_bind ?_
  rw [← hscript, ← hidle]
  cases hevents : w.host.script with
  | nil =>
      exact endAlike_events h (hwaits w.host.idle List.mem_cons_self)
  | cons events rest =>
      have hlater : Alongside { w with host := { w.host with script := rest } }
          { w' with host := { w'.host with script := rest } } := by
        refine h.withHost ?_ ?_ rfl
        · show ({ w.host.dealings with script := rest } : Dealings) =
            { w'.host.dealings with script := rest }
          rw [h.dealings]
        · refine ⟨h.calm.setting.granted, h.calm.setting.lookups, h.calm.setting.dated,
            h.calm.setting.fits, fun later hmem => h.calm.setting.waits later ?_⟩
          show later ∈ w.host.opening :: w.host.idle :: w.host.script
          rw [hevents]
          rcases List.mem_cons.1 hmem with rfl | hmem
          · exact List.mem_cons_self
          rcases List.mem_cons.1 hmem with rfl | hmem
          · exact List.mem_cons_of_mem _ List.mem_cons_self
          · exact List.mem_cons_of_mem _ (List.mem_cons_of_mem _ (List.mem_cons_of_mem _ hmem))
      refine endAlike_events hlater (hwaits events ?_)
      show events ∈ w.host.idle :: w.host.script
      rw [hevents]
      exact List.mem_cons_of_mem _ List.mem_cons_self

/-- **The same happens while the transports of both runs are opened.** -/
theorem blind_attend : Blind attend := by
  intro w w' h
  have hopening : w.host.opening = w'.host.opening := congrArg Dealings.opening h.dealings
  unfold attend
  refine endAlike_get_bind ?_
  rw [← hopening]
  exact endAlike_events h (h.calm.setting.waits w.host.opening List.mem_cons_self)

theorem blind_finishWhenDone (limit : Int) (remark : String) :
    Blind (finishWhenDone limit remark) := by
  intro w w' h
  have hcomplete : w.table.isComplete limit = w'.table.isComplete limit := by
    rw [← w.table.isComplete_still, h.table, w'.table.isComplete_still]
  unfold finishWhenDone
  refine endAlike_get_bind ?_
  rw [hcomplete]
  split
  · exact alike_bind (blind_log _ _) (fun _ => blind_modifyFlags _) w w' h
  · exact ⟨rfl, h⟩

end Act

end Multicast
