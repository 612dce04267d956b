import Multicast.Interfaces
import Multicast.Proofs.Act.Outcome

/-!
# `Proofs.Act.Frame` — what steps leave as it was

A frame relates the world before a step to the one after it, whether the step returns or fails. A
step made of others keeps a frame if these do, so that a frame is shown once for each basic step.

## Contents
- **Frames.** `Frame`, with `Frame.of` for a part of the world that does not change and
  `Frame.preserving` for a property that is not lost.
- **Steps.** `Act.Keeps`, one lemma for each way of composing steps.
- **Refusals.** What a refused call leaves (`Act.after_check`) and by what it is refused
  (`Act.refused_of_check` and `Act.refused_of_attempt`), with `Act.isSystem_of_attempt`.
- **Sessions.** What changing a session leaves (`Act.after_modifySession`, `Act.map_modifySession`),
  and that it can be done (`Act.exists_modifySession`).
- **Interfaces.** `Act.keeps_interfaceAddress`, and that an address is always found
  (`Act.exists_interfaceAddress`).
- **Waiting.** `Event.Cuts` and `Host.Expects`; what waiting leaves as it was
  (`await_leaves`), what it fails with (`expected_of_await`), and that it returns (`exists_await`);
  `exists_attend` for what happens while a transport is opened.
-/

namespace Multicast

/-! ## Frames -/

/-- A relation between the worlds before and after a step that also holds across no step at all, and
    across two steps if it holds across each. -/
structure Frame where
  rel : World → World → Prop
  refl (w : World) : rel w w
  trans {u v w : World} : rel u v → rel v w → rel u w

/-- A part of the world is as it was. -/
def Frame.of {β : Type} (part : World → β) : Frame where
  rel w w' := part w' = part w
  refl _ := rfl
  trans h h' := h'.trans h

/-- Calls of a kind are refused by failures of the system only. -/
def Host.RefusesBySystem (kind : CallKind) (h : Host) : Prop :=
  ∀ f ∈ h.failures, f.kind = kind → f.fault.isSystem

/-- The groups of the table are on ports that there are. -/
def Table.HasPorts (t : Table) : Prop :=
  ∀ target, some target ∈ t.sessions.map Session.target → target.HasPort

instance (t : Table) : Decidable t.HasPorts :=
  decidable_of_iff (∀ o ∈ t.sessions.map Session.target, o.all fun target => target.HasPort) (by
    constructor
    · exact fun h target htarget => by simpa using h _ htarget
    · intro h o ho
      cases o with
      | none => rfl
      | some target => simpa using h target ho)

/-- The span can be handed to a call that waits. -/
def Seconds.Suits (s : Seconds) (c : Quantity → Call) : Prop :=
  ∃ q, s = .span q ∧ (c q).objection? = none

/-- A property of worlds that held before still holds. -/
def Frame.preserving (p : World → Prop) : Frame where
  rel w w' := p w → p w'
  refl _ := id
  trans h h' := h' ∘ h

namespace Act

variable {α β : Type} {F : Frame}

/-- The world that a step leaves, however it ends. -/
def after (act : Act α) (w : World) : World :=
  match act w with
  | .ok _ w' => w'
  | .error _ w' => w'

theorem after_of_ok {act : Act α} {w w' : World} {a : α} (h : act w = .ok a w') :
    act.after w = w' := by
  rw [after, h]

theorem after_of_error {act : Act α} {w w' : World} {e : Fault} (h : act w = .error e w') :
    act.after w = w' := by
  rw [after, h]

/-- A composed step leaves what its last part does, or what a first part that fails does. -/
theorem after_bind_of_ok {x : Act α} {w w' : World} {a : α} (h : x w = .ok a w') (f : α → Act β) :
    (x >>= f).after w = (f a).after w' := by
  unfold after
  rw [bind_of_ok h]

theorem after_bind_of_error {x : Act α} {w w' : World} {e : Fault} (h : x w = .error e w')
    (f : α → Act β) : (x >>= f).after w = w' := by
  unfold after
  rw [bind_apply, h]

/-! ## Steps -/

/-- The world after the step is in the frame's relation to the one before it. -/
def Keeps (F : Frame) (act : Act α) : Prop := ∀ w, F.rel w (act.after w)

/-- Whoever keeps a frame and returns, has done so with what it left. -/
theorem rel_of_ok {act : Act α} {a : α} {w w' : World} (h : Keeps F act) (hact : act w = .ok a w') :
    F.rel w w' := by
  have hafter := h w
  rwa [after_of_ok hact] at hafter

theorem keeps_pure (a : α) : Keeps F (pure a : Act α) := F.refl

theorem keeps_throw (e : Fault) : Keeps F (throw e : Act α) := F.refl

theorem keeps_get : Keeps F (get : Act World) := F.refl

/-- What a step keeps from one world on is kept by more steps that keep it from any. -/
theorem rel_after_bind {x : Act α} {f : α → Act β} {w : World} (hx : F.rel w (x.after w))
    (hf : ∀ a, Keeps F (f a)) : F.rel w ((x >>= f).after w) := by
  cases hresult : x w with
  | ok a w' =>
      rw [after_of_ok hresult] at hx
      rw [after_bind_of_ok hresult]
      exact F.trans hx (hf a w')
  | error e w' =>
      rw [after_of_error hresult] at hx
      rw [after_bind_of_error hresult]
      exact hx

theorem keeps_bind {x : Act α} {f : α → Act β} (hx : Keeps F x) (hf : ∀ a, Keeps F (f a)) :
    Keeps F (x >>= f) :=
  fun w => rel_after_bind (hx w) hf

/-- The rest of a step has to keep a frame only with what the first part can return. -/
theorem keeps_bind_of_gives {x : Act α} {f : α → Act β} {p : α → Prop} (hx : Keeps F x)
    (hp : Gives p x) (hf : ∀ a, p a → Keeps F (f a)) : Keeps F (x >>= f) := by
  intro w
  have hstart := hx w
  cases hresult : x w with
  | ok a w' =>
      rw [after_of_ok hresult] at hstart
      rw [after_bind_of_ok hresult]
      exact F.trans hstart (hf a (hp hresult) w')
  | error e w' =>
      rw [after_of_error hresult] at hstart
      rw [after_bind_of_error hresult]
      exact hstart

theorem keeps_ite {c : Prop} {_ : Decidable c} {x y : Act α} (hx : Keeps F x) (hy : Keeps F y) :
    Keeps F (if c then x else y) := by
  split
  · exact hx
  · exact hy

/-- A step that first looks at the world keeps a frame if it does so from the world that it saw. -/
theorem keeps_get_bind {f : World → Act α} (h : ∀ w, F.rel w ((f w).after w)) :
    Keeps F (get >>= f) := h

theorem keeps_forM {f : α → Act Unit} {as : List α} (h : ∀ a ∈ as, Keeps F (f a)) :
    Keeps F (as.forM f) := by
  induction as with
  | nil => exact keeps_pure ()
  | cons a as ih =>
      show Keeps F (f a >>= fun _ => as.forM f)
      refine keeps_bind (h a List.mem_cons_self) fun _ => ih fun b hb => ?_
      exact h b (List.mem_cons_of_mem a hb)

theorem keeps_recover {x : Act α} {handles : Fault → Bool} {handler : Fault → Act α}
    (hx : Keeps F x) (hhandler : ∀ e, Keeps F (handler e)) : Keeps F (recover x handles handler) := by
  intro w
  have hstart := hx w
  unfold after recover
  cases hresult : x w with
  | ok a w' =>
      rw [after_of_ok hresult] at hstart
      exact hstart
  | error e w' =>
      rw [after_of_error hresult] at hstart
      dsimp only
      by_cases hhandles : handles e
      · rw [if_pos hhandles]
        exact F.trans hstart (hhandler e w')
      · rw [if_neg hhandles]
        exact hstart

theorem keeps_ensuring {body : Act α} {cleanup : Act Unit} (hbody : Keeps F body)
    (hcleanup : Keeps F cleanup) : Keeps F (ensuring body cleanup) := by
  intro w
  have hstart := hbody w
  have hafter : (ensuring body cleanup).after w = cleanup.after (body.after w) := by
    unfold after ensuring
    cases body w with
    | ok a w' => dsimp only; cases cleanup w' <;> rfl
    | error e w' => dsimp only; cases cleanup w' <;> rfl
  rw [hafter]
  exact F.trans hstart (hcleanup _)

/-- A step that keeps a frame keeps any that says less. -/
theorem Keeps.mono {G : Frame} {act : Act α} (h : Keeps F act)
    (hless : ∀ w w', F.rel w w' → G.rel w w') : Keeps G act :=
  fun w => hless w _ (h w)

/-- Whether it goes through or not, a call moves the schedule of its kind on. -/
theorem after_check (kind : CallKind) (w : World) :
    (check kind).after w =
      { w with host := { w.host with failures := w.host.failures.map (Failure.next kind) } } := by
  unfold after check Host.check?
  cases w.host.failures.find? (Failure.strikes kind) with
  | none => rfl
  | some f => rfl

theorem keeps_check (hfailures : ∀ w failures, F.rel w { w with host := { w.host with failures } })
    (kind : CallKind) : Keeps F (check kind) := by
  intro w
  rw [after_check]
  exact hfailures w _

/-- A call that can be refused leaves what it leaves in the trace and in the schedule. -/
theorem after_attempt (kind : CallKind) (c : Call) (w : World) :
    (attempt kind c).after w = { w with host := granted kind c w.host } := by
  unfold after
  rw [attempt_apply]
  cases w.host.refusal? kind c with
  | none => rfl
  | some e => rfl

/-- What a call says of its numbers leaves everything as it is. -/
theorem keeps_vet (c : Call) : Keeps F (vet c) := by
  intro w
  unfold after
  rw [vet_apply]
  cases w.host.objection? c with
  | none => exact F.refl w
  | some e => exact F.refl w

/-- What comes behind it has to keep a frame from the same world on. -/
theorem rel_after_vet_bind {c : Call} {f : Unit → Act α} {w : World}
    (h : F.rel w ((f ()).after w)) : F.rel w ((vet c >>= f).after w) := by
  cases hobjection : w.host.objection? c with
  | none =>
      have hvetted : vet c w = .ok () w := by rw [vet_apply, hobjection]
      rw [after_bind_of_ok hvetted]
      exact h
  | some e =>
      have hvetted : vet c w = .error e w := by rw [vet_apply, hobjection]
      rw [after_bind_of_error hvetted]
      exact F.refl w

theorem keeps_submit {c : Call} (hcall : Keeps F (call c)) : Keeps F (submit c) :=
  keeps_bind hcall fun _ => keeps_vet c

theorem keeps_attempt {kind : CallKind} {c : Call} (hcall : Keeps F (call c))
    (hcheck : Keeps F (check kind)) : Keeps F (attempt kind c) :=
  fun w => by
    have hmoved := hcheck ((call c).after w)
    rw [after_check] at hmoved
    rw [after_attempt]
    exact F.trans (hcall w) hmoved

/-! ## Refusals -/

/-- A call is refused by a failure of its kind. -/
theorem refused_of_check {kind : CallKind} {w w' : World} {e : Fault}
    (hcheck : check kind w = .error e w') : ∃ f ∈ w.host.failures, f.kind = kind ∧ f.fault = e := by
  unfold check Host.check? at hcheck
  cases hfind : w.host.failures.find? (Failure.strikes kind) with
  | none =>
      rw [hfind] at hcheck
      cases hcheck
  | some f =>
      rw [hfind] at hcheck
      have hstrikes := List.find?_some hfind
      simp only [Failure.strikes, Bool.and_eq_true, decide_eq_true_eq] at hstrikes
      refine ⟨f, List.mem_of_find?_eq_some hfind, hstrikes.1, ?_⟩
      injection hcheck

/-- A call that fails was refused, or it objected to its numbers. -/
theorem refused_of_attempt {kind : CallKind} {c : Call} {w w' : World} {e : Fault}
    (hattempt : attempt kind c w = .error e w') :
    w.host.objection? c = some e ∨ ∃ f ∈ w.host.failures, f.kind = kind ∧ f.fault = e := by
  rcases Host.refusal?_eq_some (attempt_eq_error_iff.1 hattempt).1 with hobjection | ⟨f, hdue, hfault⟩
  · exact Or.inl hobjection
  · have hstrikes := List.find?_some hdue
    simp only [Failure.strikes, Bool.and_eq_true, decide_eq_true_eq] at hstrikes
    exact Or.inr ⟨f, List.mem_of_find?_eq_some hdue, hstrikes.1, hfault⟩

/-- What a call objects with on a host, it objects with. -/
theorem objection_of_host {c : Call} {h : Host} {e : Fault} (hobjection : h.objection? c = some e) :
    c.objection? = some e := by
  unfold Host.objection? at hobjection
  split at hobjection
  · exact hobjection
  · cases hobjection

/-- A call that fails does so by the system, if refusals and objections are failures of it. -/
theorem isSystem_of_attempt {kind : CallKind} {c : Call} {w w' : World} {e : Fault}
    (h : w.host.RefusesBySystem kind) (hc : c.ObjectsBySystem)
    (hattempt : attempt kind c w = .error e w') : e.isSystem := by
  rcases refused_of_attempt hattempt with hobjection | ⟨f, hf, hkind, rfl⟩
  · exact hc e (objection_of_host hobjection)
  · exact h f hf hkind

/-- A refusal that moves on stays what it is. -/
theorem next_failure (kind : CallKind) (f : Failure) :
    (f.next kind).kind = f.kind ∧ (f.next kind).fault = f.fault := by
  unfold Failure.next
  split
  · exact ⟨rfl, rfl⟩
  · exact ⟨rfl, rfl⟩

/-- Later calls are refused by failures of the system only, if the earlier ones were. -/
theorem refusesBySystem_check (kind kind' : CallKind) (w : World) (h : w.host.RefusesBySystem kind) :
    ((check kind').after w).host.RefusesBySystem kind := by
  rw [after_check]
  intro f hf hkind
  obtain ⟨earlier, hearlier, rfl⟩ := List.mem_map.1 hf
  obtain ⟨hsame, hfault⟩ := next_failure kind' earlier
  rw [hsame] at hkind
  rw [hfault]
  exact h earlier hearlier hkind

/-! ## Sessions -/

/-- Changing a session changes the sessions only. -/
theorem after_modifySession (i : Int) (f : Session → Session) (w : World) :
    ∃ sessions, (modifySession i f).after w = { w with table := { w.table with sessions } } := by
  unfold after modifySession
  rw [bind_apply, get_apply]
  dsimp only [Table.modify?]
  cases w.table.position? i with
  | none => exact ⟨w.table.sessions, rfl⟩
  | some k => exact ⟨_, rfl⟩

/-- A session of the table can always be changed. -/
theorem exists_modifySession {position : Nat} {w : World} (h : position < w.table.size)
    (f : Session → Session) : ∃ w', modifySession position f w = .ok () w' := by
  refine ⟨_, modifySession_eq_ok_iff.2 ⟨position, ?_, rfl⟩⟩
  rw [Table.position?_natCast, if_pos h]

/-- A part that the change of a session leaves as it is stays so in all sessions. -/
theorem map_modifySession {β : Type} (part : Session → β) {i : Int} {f : Session → Session} {w : World}
    (hpart : ∀ s, w.table.get? i = some s → part (f s) = part s) :
    ((modifySession i f).after w).table.sessions.map part = w.table.sessions.map part := by
  unfold after modifySession
  rw [bind_apply, get_apply]
  dsimp only [Table.modify?]
  unfold Table.get? at hpart
  cases hposition : w.table.position? i with
  | none => rfl
  | some k =>
      show (w.table.sessions.modify k f).map part = _
      refine List.ext_getElem? fun j => ?_
      rw [List.getElem?_map, List.getElem?_map, List.getElem?_modify]
      cases hs : w.table.sessions[j]? with
      | none => rfl
      | some s =>
          show some (part (if k = j then f s else s)) = some (part s)
          by_cases hj : k = j
          · rw [if_pos hj]
            refine congrArg some (hpart s ?_)
            rw [hposition, hj]
            exact hs
          · rw [if_neg hj]

/-! ## Interfaces -/

/-- The address that is listed is taken; what comes next is done only if there is none. -/
theorem keeps_listed (listing : String) {rest : Act (Option String)} (h : Keeps F rest) :
    Keeps F (match Interfaces.listedAddress? none listing.toList with
      | some address => pure (some (String.ofList address))
      | none => rest) := by
  split
  · exact keeps_pure _
  · exact h

/-- Asking for the listed addresses runs commands. -/
theorem keeps_firstAddress (hcommand : ∀ text, Keeps F (call (.command text))) (interface : String)
    (families : List Int) : Keeps F (firstAddress interface families) := by
  have houtput : ∀ text, Keeps F (output text) := fun text =>
    keeps_bind (hcommand text) fun _ => keeps_bind keeps_get fun _ => keeps_pure _
  induction families with
  | nil => exact keeps_pure _
  | cons family families ih =>
      rw [firstAddress]
      split
      · exact keeps_bind (keeps_pure _) fun listing => keeps_listed listing ih
      · exact keeps_bind (houtput _) fun listing => keeps_listed listing ih

/-- Asking for an address runs commands and looks up the host's name. -/
theorem keeps_interfaceAddress (hcommand : ∀ text, Keeps F (call (.command text)))
    (hlookup : ∀ host family, Keeps F (call (.lookup host family))) (hcheck : Keeps F (check .lookup))
    (interface : String) (family : Int) (fallback : Bool) :
    Keeps F (interfaceAddress interface family fallback) := by
  have hhost : ∀ family, Keeps F (hostAddress family) := fun family =>
    keeps_recover (keeps_bind keeps_get fun w => keeps_bind (keeps_attempt (hlookup _ _) hcheck)
      fun _ => keeps_pure _) fun _ => keeps_pure _
  unfold interfaceAddress
  refine keeps_bind (keeps_firstAddress hcommand interface _) fun found => ?_
  cases found with
  | some address => exact keeps_pure _
  | none =>
      dsimp only
      split
      · exact keeps_bind (hhost _) fun own => keeps_pure _
      · exact keeps_bind (keeps_pure _) fun own => keeps_pure _

/-- Taking the address that is listed returns if what comes next does, and takes up no refusal. -/
theorem exists_listed (listing : String) {rest : Act (Option String)}
    (h : ∀ w, ∃ found w', rest w = .ok found w' ∧ w'.host.failures = w.host.failures) (w : World) :
    ∃ found w', (match Interfaces.listedAddress? none listing.toList with
      | some address => pure (some (String.ofList address))
      | none => rest) w = .ok found w' ∧ w'.host.failures = w.host.failures := by
  cases Interfaces.listedAddress? none listing.toList with
  | some address => exact ⟨_, w, rfl, rfl⟩
  | none => exact h w

/-- Asking for the listed addresses always gives an answer, and takes up no refusal. -/
theorem exists_firstAddress (interface : String) (families : List Int) (w : World) :
    ∃ found w', firstAddress interface families w = .ok found w' ∧
      w'.host.failures = w.host.failures := by
  induction families generalizing w with
  | nil => exact ⟨none, w, rfl, rfl⟩
  | cons family families ih =>
      rw [firstAddress]
      by_cases hname : interface = ""
      · rw [if_pos hname]
        exact exists_listed "" ih w
      · rw [if_neg hname]
        exact exists_listed _ ih { w with
          host := w.host.record (.command (Interfaces.addressCommand interface family)) }

/-- Looking up the host's own address returns, as long as a refusal is a failure of the system. -/
theorem exists_hostAddress (family : Int) {w : World} (h : w.host.RefusesBySystem .lookup) :
    ∃ own w', hostAddress family w = .ok own w' := by
  unfold hostAddress recover
  rw [bind_of_ok (get_apply w), bind_apply]
  cases hasked : attempt .lookup (.lookup w.host.name family) w with
  | ok u w₁ => exact ⟨_, w₁, rfl⟩
  | error e w₁ =>
      have he : e.isSystem := isSystem_of_attempt h (Call.objectsBySystem_of_none rfl) hasked
      refine ⟨none, w₁, ?_⟩
      dsimp only
      rw [if_pos he]
      rfl

/-- **An address is always found**, as long as a refused lookup is a failure of the system, if there
    is one. -/
theorem exists_interfaceAddress (interface : String) (family : Int) (fallback : Bool) {w : World}
    (h : fallback → w.host.RefusesBySystem .lookup) :
    ∃ address w', interfaceAddress interface family fallback w = .ok address w' := by
  unfold interfaceAddress
  obtain ⟨found, w₁, hfound, hsame⟩ :=
    exists_firstAddress interface (Interfaces.familiesOf family) w
  rw [bind_of_ok hfound]
  cases found with
  | some address => exact ⟨address, w₁, rfl⟩
  | none =>
      cases fallback with
      | false => exact ⟨_, w₁, rfl⟩
      | true =>
          obtain ⟨own, w₂, hown⟩ := exists_hostAddress ((Interfaces.familiesOf family).headD 2)
            (w := w₁) (by unfold Host.RefusesBySystem; rw [hsame]; exact h rfl)
          dsimp only
          rw [if_pos rfl, bind_of_ok hown]
          exact ⟨_, w₂, rfl⟩

end Act

/-! ## Waiting -/

/-- The event ends the wait with a fault. -/
def Event.Cuts : Event → Prop
  | .fault _ => True
  | _ => False

/-- The events of all coming waits have a property. -/
def Host.Expects (p : Event → Prop) (h : Host) : Prop :=
  ∀ events ∈ h.idle :: h.script, ∀ e ∈ events, p e

/-- A frame is kept by changes of the flags, none of which lets a loop run that was told to end. -/
def Frame.Flagging (F : Frame) : Prop :=
  ∀ w running resized tick, (running = true → w.flags.running = true) →
    F.rel w { w with flags := { w.flags with running, resized, tick } }

namespace Act

/-- Delivering a signal changes nothing but the flags that the handlers set. -/
theorem keeps_deliver (hflags : F.Flagging) (s : Signal) : Keeps F (deliver s) := by
  unfold deliver
  refine keeps_get_bind fun w => ?_
  split
  · exact hflags w _ _ _ fun h => absurd h Bool.false_ne_true
  · exact hflags w _ _ _ id
  · exact hflags w _ _ _ id
  · exact F.refl w

/-- The parts of the world that waiting has no business with. -/
def apart (w : World) : Table × List (Family × SocketId) × Array Call × List Failure × Nat :=
  (w.table, w.uplinks, w.host.trace, w.host.failures, w.host.memory)

/-- The parts of the world that the events of a wait have no business with. -/
def scripted (w : World) :=
  (apart w, w.host.script, w.host.idle)

theorem keeps_play (e : Event) : Keeps (.of scripted) (play e) := by
  cases e with
  | signal s => exact keeps_deliver (fun _ _ _ _ _ => rfl) s
  | resize columns lines =>
      refine keeps_bind (fun w => rfl) fun _ => ?_
      exact keeps_deliver (fun _ _ _ _ _ => rfl) .resize
  | clock | datagram | refusal | fault | tick | resized | stop => exact fun w => rfl

/-- A wait takes its events off the script. -/
theorem nextEvents_apply {p : Event → Prop} {w : World} (h : w.host.Expects p) :
    ∃ events script, nextEvents w = .ok events { w with host := { w.host with script } } ∧
      (∀ e ∈ events, p e) ∧ Host.Expects p { w.host with script } := by
  unfold nextEvents
  rw [bind_apply, get_apply]
  dsimp only
  cases hscript : w.host.script with
  | nil => exact ⟨w.host.idle, w.host.script, rfl, h _ List.mem_cons_self, h⟩
  | cons events rest =>
      refine ⟨events, rest, rfl, h _ (by simp [hscript]), fun later hlater => h later ?_⟩
      rcases List.mem_cons.1 hlater with rfl | hlater
      · exact List.mem_cons_self
      · simp [hscript, hlater]

/-- A wait keeps what taking its events off the script and playing them does. -/
theorem rel_after_await {p : Event → Prop} {w : World} (h : w.host.Expects p)
    (hscript : ∀ script, F.rel w { w with host := { w.host with script } })
    (hplay : ∀ e, p e → Keeps F (play e)) : F.rel w (await.after w) := by
  obtain ⟨events, script, hnext, hevents, -⟩ := nextEvents_apply h
  rw [await, after_bind_of_ok hnext]
  exact F.trans (hscript script) (keeps_forM (fun e he => hplay e (hevents e he)) _)

/-- What is expected of the coming waits is expected of those behind the next one. -/
theorem await_leaves_expected {p : Event → Prop} {w : World} (h : w.host.Expects p) :
    apart (await.after w) = apart w ∧ (await.after w).host.Expects p := by
  obtain ⟨events, script, hnext, -, hw₁⟩ := nextEvents_apply h
  have hplayed : Keeps (.of scripted) (events.forM play) := keeps_forM fun e _ => keeps_play e
  have hscripted := hplayed { w with host := { w.host with script } }
  simp only [Frame.of, scripted, Prod.mk.injEq] at hscripted
  obtain ⟨hsame, hscript, hidle⟩ := hscripted
  rw [await, after_bind_of_ok hnext]
  refine ⟨hsame, ?_⟩
  rw [Host.Expects, hscript, hidle]
  exact hw₁

/-- **A wait leaves what waiting has no business with.** -/
theorem await_leaves (w : World) : apart (await.after w) = apart w :=
  (await_leaves_expected (p := fun _ => True) fun _ _ _ _ => trivial).1

/-- Delivering a signal returns. -/
theorem exists_deliver (s : Signal) (w : World) : ∃ w', deliver s w = .ok () w' := by
  unfold deliver
  rw [bind_apply, get_apply]
  dsimp only
  cases w.host.handlers s with
  | loop handler => cases handler <;> exact ⟨_, rfl⟩
  | named name => exact ⟨_, rfl⟩
  | unknown => exact ⟨_, rfl⟩

/-- An event returns, or is a fault itself. -/
theorem play_eq_error {e : Event} {w w' : World} {f : Fault} (hplay : play e w = .error f w') :
    e = .fault f := by
  have hdelivered : ∀ s w₁, deliver s w₁ ≠ .error f w' := by
    intro s w₁ herror
    obtain ⟨w₂, hdeliver⟩ := exists_deliver s w₁
    rw [hdeliver] at herror
    cases herror
  cases e with
  | fault f' => cases hplay; rfl
  | signal s => exact absurd hplay (hdelivered s w)
  | resize columns lines => exact absurd hplay (hdelivered .resize _)
  | clock | datagram | refusal | tick | resized | stop => cases hplay

/-- Events fail only with a fault that is among them. -/
theorem mem_of_play {events : List Event} {w w' : World} {f : Fault}
    (h : events.forM play w = .error f w') : .fault f ∈ events := by
  -- The events are played in the worlds that those in front of them leave.
  induction events generalizing w with
  | nil => cases h
  | cons e events ih =>
      rcases bind_eq_error.1 (h : (play e >>= fun _ => events.forM play) w = .error f w') with
        hplay | ⟨_, w₁, -, hrest⟩
      · exact List.mem_cons.2 (Or.inl (play_eq_error hplay).symm)
      · exact List.mem_cons_of_mem e (ih hrest)

/-- **A wait fails only with a fault that is among its events.** -/
theorem expected_of_await {p : Event → Prop} {w w' : World} {f : Fault} (h : w.host.Expects p)
    (hawait : await w = .error f w') : p (.fault f) := by
  obtain ⟨events, script, hnext, hevents, -⟩ := nextEvents_apply h
  rw [await, bind_of_ok hnext] at hawait
  exact hevents _ (mem_of_play hawait)

/-- Where no event is a fault, attending to what happens returns. -/
theorem exists_attend {w : World} (h : ∀ e ∈ w.host.opening, ¬e.Cuts) :
    ∃ w', attend w = .ok () w' := by
  cases hattend : attend w with
  | ok u w' => exact ⟨w', rfl⟩
  | error f w' =>
      have hplayed : w.host.opening.forM play w = .error f w' := hattend
      exact absurd trivial (h _ (mem_of_play hplayed))

/-- A wait in which no event is a fault returns. -/
theorem exists_await {p : Event → Prop} (hp : ∀ e, p e → ¬e.Cuts) {w : World}
    (h : w.host.Expects p) : ∃ w', await w = .ok () w' := by
  cases hawait : await w with
  | ok u w' => exact ⟨w', rfl⟩
  | error f w' => exact absurd trivial (hp _ (expected_of_await h hawait))

end Act

end Multicast
