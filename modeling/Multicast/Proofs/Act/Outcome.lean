import Multicast.Transport

/-!
# `Proofs.Act.Outcome` — how steps end

A step of a run returns or fails, and leaves a world either way. The lemmas here take a composed
step apart into its parts, one for each way of composing steps.

## Contents
- **Running.** What the basic steps return (`bind_apply`, `get_apply`, `modifyHost_apply`, …).
- **Returning.** `bind_eq_ok`, `bind_eq_error`, `Gives` for what a step can return,
  `recover_throw_eq_ok` and `ensuring_eq_ok`, then `attempt_eq_ok_iff` and `modifySession_eq_ok_iff`.
- **Failing.** `fault?`, which tells how a step ends on a given world.
-/

namespace Multicast

/-- An index that counts from the front means itself. -/
@[simp] theorem Table.position?_natCast (t : Table) (i : Nat) :
    t.position? (i : Int) = if i < t.size then some i else none := by
  have hpos : ¬(i : Int) < 0 := by omega
  simp [Table.position?, hpos]

theorem Table.position?_of_getElem? {t : Table} {k : Nat} {session : Session}
    (h : t.sessions[k]? = some session) : t.position? (k : Int) = some k := by
  obtain ⟨hlt, -⟩ := List.getElem?_eq_some_iff.1 h
  rw [position?_natCast]
  exact if_pos hlt

/-- The session at an index that counts from the front. -/
@[simp] theorem Table.get?_natCast (t : Table) (i : Nat) : t.get? (i : Int) = t.sessions[i]? := by
  rw [Table.get?, Table.position?_natCast]
  split
  · rfl
  · rename_i h
    exact (List.getElem?_eq_none (Nat.not_lt.1 h)).symm

/-- Handing a record to all destinations leaves a part of the host as it is if each of them does. -/
theorem Host.foldl_deliver_leaves {β : Type} (part : Host → β)
    (hdeliver : ∀ h r sink, part (deliver h r sink) = part h) (r : Record) (sinks : List Sink)
    (h : Host) : part (sinks.foldl (fun h sink => h.deliver r sink) h) = part h := by
  induction sinks generalizing h with
  | nil => rfl
  | cons sink sinks ih => exact (ih (h.deliver r sink)).trans (hdeliver h r sink)

/-- Logging leaves a part of the host as it is if handing a record to a destination does. -/
theorem Host.log_leaves {β : Type} (part : Host → β)
    (hrecords : ∀ h records, part { h with records } = part h)
    (hdeliver : ∀ h r sink, part (deliver h r sink) = part h) (h : Host) (level : Level)
    (message : String) : part (h.log level message) = part h := by
  unfold log
  dsimp only
  split
  · exact (foldl_deliver_leaves part hdeliver _ _ _).trans (hrecords _ _)
  · exact hrecords _ _

/-- A call fails only by its numbers, or with a refusal that is due. -/
theorem Host.refusal?_eq_some {h : Host} {kind : CallKind} {c : Call} {e : Fault}
    (hrefused : h.refusal? kind c = some e) :
    h.objection? c = some e ∨
      ∃ f, h.failures.find? (Failure.strikes kind) = some f ∧ f.fault = e := by
  rcases Option.or_eq_some_iff.1 hrefused with hobjection | ⟨-, hdue⟩
  · exact Or.inl hobjection
  · exact Or.inr (Option.map_eq_some_iff.1 hdue)

theorem Host.refusal?_eq_none {h : Host} {kind : CallKind} {c : Call} :
    h.refusal? kind c = none ↔
      h.objection? c = none ∧ h.failures.find? (Failure.strikes kind) = none := by
  unfold refusal? check?
  rw [Option.or_eq_none_iff, Option.map_eq_none_iff]

/-- A call that takes no numbers, or has them in their ranges, makes no objection. -/
theorem Host.objection?_eq_none {c : Call} (hc : c.objection? = none) (h : Host) :
    h.objection? c = none := by
  unfold objection?
  rw [hc]
  exact ite_self none

/-- What is logged is put on record, wherever else it goes. -/
theorem Host.records_log (h : Host) (level : Level) (message : String) :
    (h.log level message).records = h.records.push ⟨level, message⟩ := by
  unfold log
  dsimp only
  split
  · refine foldl_deliver_leaves (·.records) (fun h r sink => ?_) _ _ _
    cases sink <;> rfl
  · rfl

namespace Act

variable {α β : Type}

/-! ## Running -/

theorem bind_apply (x : Act α) (f : α → Act β) (w : World) :
    (x >>= f) w = match x w with
      | .ok a w' => f a w'
      | .error e w' => .error e w' := by
  show EStateM.bind x f w = _
  unfold EStateM.bind
  cases x w <;> rfl

theorem bind_of_ok {x : Act α} {f : α → Act β} {w w' : World} {a : α} (h : x w = .ok a w') :
    (x >>= f) w = f a w' := by
  rw [bind_apply, h]

@[simp] theorem pure_apply (a : α) (w : World) : (pure a : Act α) w = .ok a w := rfl

@[simp] theorem get_apply (w : World) : (get : Act World) w = .ok w w := rfl

@[simp] theorem throw_apply (e : Fault) (w : World) : (throw e : Act α) w = .error e w := rfl

@[simp] theorem modify_apply (f : World → World) (w : World) :
    (modify f : Act Unit) w = .ok () (f w) := rfl

@[simp] theorem modifyHost_apply (f : Host → Host) (w : World) :
    modifyHost f w = .ok () { w with host := f w.host } := rfl

@[simp] theorem modifyFlags_apply (f : Flags → Flags) (w : World) :
    modifyFlags f w = .ok () { w with flags := f w.flags } := rfl

@[simp] theorem setTable_apply (t : Table) (w : World) :
    setTable t w = .ok () { w with table := t } := rfl

@[simp] theorem call_apply (c : Call) (w : World) :
    call c w = .ok () { w with host := w.host.record c } := rfl

theorem vet_apply (c : Call) (w : World) : vet c w =
    match w.host.objection? c with
    | none => .ok () w
    | some e => .error e w := by
  unfold vet
  rw [bind_apply, get_apply]
  dsimp only
  cases w.host.objection? c with
  | none => rfl
  | some e => rfl

/-- A call that takes numbers is on record, whatever it says of them. -/
theorem submit_apply (c : Call) (w : World) : submit c w =
    match w.host.objection? c with
    | none => .ok () { w with host := w.host.record c }
    | some e => .error e { w with host := w.host.record c } := by
  unfold submit
  rw [bind_of_ok (call_apply c w)]
  exact vet_apply c _

@[simp] theorem log_apply (level : Level) (message : String) (w : World) :
    log level message w = .ok () { w with host := w.host.log level message } := rfl

/-- The end of a step remarks on a table that is complete, and ends the loop. -/
theorem finishWhenDone_apply (limit : Int) (remark : String) (w : World) :
    finishWhenDone limit remark w = .ok () (if w.table.isComplete limit then
      { w with host := w.host.log .info remark, flags := { w.flags with running := false } }
      else w) := by
  unfold finishWhenDone
  rw [bind_apply, get_apply]
  dsimp only
  split <;> rfl

/-! ## Returning -/

theorem bind_eq_ok {x : Act α} {f : α → Act β} {w w' : World} {b : β} :
    (x >>= f) w = .ok b w' ↔ ∃ a w₁, x w = .ok a w₁ ∧ f a w₁ = .ok b w' := by
  rw [bind_apply]
  constructor
  · intro h
    cases hx : x w with
    | ok a w₁ => exact ⟨a, w₁, rfl, by rw [hx] at h; exact h⟩
    | error e w₁ => rw [hx] at h; cases h
  · rintro ⟨a, w₁, hx, hf⟩
    rw [hx]
    exact hf

/-- A composed step fails in its first part, or in the rest. -/
theorem bind_eq_error {x : Act α} {f : α → Act β} {w w' : World} {e : Fault} :
    (x >>= f) w = .error e w' ↔
      x w = .error e w' ∨ ∃ a w₁, x w = .ok a w₁ ∧ f a w₁ = .error e w' := by
  rw [bind_apply]
  cases hx : x w with
  | ok a w₁ =>
      constructor
      · exact fun h => Or.inr ⟨a, w₁, rfl, h⟩
      · rintro (h | ⟨a', w₂, h, hf⟩)
        · cases h
        · cases h
          exact hf
  | error e' w₁ => simp

/-- Whatever the step returns has the property. -/
def Gives (p : α → Prop) (act : Act α) : Prop := ∀ ⦃w a w'⦄, act w = .ok a w' → p a

theorem gives_pure {p : α → Prop} {a : α} (h : p a) : Gives p (pure a) := by
  intro w b w' hb
  injection hb with hb
  exact hb ▸ h

/-- What a composed step returns is what its last part returns. -/
theorem gives_bind {x : Act α} {f : α → Act β} {p : β → Prop} (h : ∀ a, Gives p (f a)) :
    Gives p (x >>= f) := by
  intro w b w' hb
  obtain ⟨a, w₁, -, hf⟩ := bind_eq_ok.1 hb
  exact h a hf

/-- The last part may rely on what the first one returns. -/
theorem Gives.bind {x : Act α} {f : α → Act β} {q : α → Prop} {p : β → Prop} (hx : Gives q x)
    (h : ∀ a, q a → Gives p (f a)) : Gives p (x >>= f) := by
  intro w b w' hb
  obtain ⟨a, w₁, ha, hf⟩ := bind_eq_ok.1 hb
  exact h a (hx ha) hf

/-- A step with a handler returns what the step or the handler does. -/
theorem Gives.recover {x : Act α} {handles : Fault → Bool} {handler : Fault → Act α} {p : α → Prop}
    (hx : Gives p x) (hhandler : ∀ e, Gives p (handler e)) : Gives p (recover x handles handler) := by
  intro w a w' ha
  unfold Act.recover at ha
  cases hresult : x w with
  | ok a' w₁ =>
      rw [hresult] at ha
      cases ha
      exact hx hresult
  | error e w₁ =>
      rw [hresult] at ha
      dsimp only at ha
      split at ha
      · exact hhandler e ha
      · cases ha

/-- A step that turns faults into others returns only what it would return without. -/
theorem recover_throw_eq_ok {x : Act α} {handles : Fault → Bool} {fault : Fault → Fault}
    {w w' : World} {a : α} :
    recover x handles (fun e => throw (fault e)) w = .ok a w' ↔ x w = .ok a w' := by
  unfold recover
  cases x w with
  | ok a' w₁ => exact Iff.rfl
  | error e w₁ => by_cases h : handles e <;> simp [h]

/-- A step that is cleaned up after returns if both return. -/
theorem ensuring_eq_ok {body : Act α} {cleanup : Act Unit} {w w' : World} {a : α} :
    ensuring body cleanup w = .ok a w' ↔ ∃ w₁, body w = .ok a w₁ ∧ cleanup w₁ = .ok () w' := by
  unfold ensuring
  cases body w with
  | ok a' w₁ =>
      dsimp only
      cases hcleanup : cleanup w₁ with
      | ok u w₂ => simp [hcleanup, and_assoc]
      | error e w₂ => simp [hcleanup]
  | error e w₁ =>
      dsimp only
      cases cleanup w₁ <;> simp

/-- What returns needs no handler. -/
theorem recover_of_ok {x : Act α} {w w' : World} {a : α} (h : x w = .ok a w')
    (handles : Fault → Bool) (handler : Fault → Act α) : recover x handles handler w = .ok a w' := by
  unfold recover
  rw [h]

/-- What fails goes on with the handler if that handles the fault. -/
theorem recover_of_error {x : Act α} {w w' : World} {e : Fault} (h : x w = .error e w')
    (handles : Fault → Bool) (handler : Fault → Act α) :
    recover x handles handler w = if handles e then handler e w' else .error e w' := by
  unfold recover
  rw [h]

theorem ofExcept_eq_ok {x : Except Fault α} {w w' : World} {a : α} :
    ofExcept x w = .ok a w' ↔ x = .ok a ∧ w' = w := by
  cases x with
  | ok a' => simp [ofExcept, eq_comm]
  | error e => simp [ofExcept]

theorem ofExcept_eq_error {x : Except Fault α} {w w' : World} {e : Fault} :
    ofExcept x w = .error e w' ↔ x = .error e ∧ w' = w := by
  cases x with
  | ok a => simp [ofExcept]
  | error e' => simp [ofExcept, eq_comm]

theorem submit_eq_ok_iff {c : Call} {w w' : World} {u : Unit} :
    submit c w = .ok u w' ↔
      w.host.objection? c = none ∧ w' = { w with host := w.host.record c } := by
  rw [submit_apply]
  cases w.host.objection? c with
  | none => simp [eq_comm]
  | some e => simp

/-- A call fails with what it says of its numbers. -/
theorem objection_of_submit {c : Call} {w w' : World} {e : Fault} (h : submit c w = .error e w') :
    w.host.objection? c = some e := by
  rw [submit_apply] at h
  cases hobjection : w.host.objection? c with
  | none => rw [hobjection] at h; cases h
  | some e' => rw [hobjection] at h; cases h; rfl

/-- The host after a call that was granted, or refused. -/
def granted (kind : CallKind) (c : Call) (h : Host) : Host :=
  { h.record c with failures := h.failures.map (Failure.next kind) }

/-- **A call that can be refused** moves the schedule on, whatever comes of it. -/
theorem attempt_apply (kind : CallKind) (c : Call) (w : World) : attempt kind c w =
    match w.host.refusal? kind c with
    | none => .ok () { w with host := granted kind c w.host }
    | some e => .error e { w with host := granted kind c w.host } := rfl

/-- A call that has no objection is made, and then refused or not. -/
theorem attempt_eq_check {c : Call} (hc : c.objection? = none) (kind : CallKind) :
    attempt kind c = call c >>= fun _ => check kind := by
  funext w
  have hnone : w.host.objection? c = none := Host.objection?_eq_none hc w.host
  rw [attempt_apply, bind_of_ok (call_apply c w)]
  unfold Host.refusal? check Host.check?
  rw [hnone, Option.none_or]
  dsimp only [Host.record]
  cases w.host.failures.find? (Failure.strikes kind) with
  | none => rfl
  | some f => rfl

theorem attempt_eq_ok_iff {kind : CallKind} {c : Call} {w w' : World} {u : Unit} :
    attempt kind c w = .ok u w' ↔
      w.host.refusal? kind c = none ∧ w' = { w with host := granted kind c w.host } := by
  rw [attempt_apply]
  cases w.host.refusal? kind c with
  | none => simp [eq_comm]
  | some e => simp

theorem attempt_eq_error_iff {kind : CallKind} {c : Call} {w w' : World} {e : Fault} :
    attempt kind c w = .error e w' ↔
      w.host.refusal? kind c = some e ∧ w' = { w with host := granted kind c w.host } := by
  rw [attempt_apply]
  cases w.host.refusal? kind c with
  | none => simp
  | some e' => simp [eq_comm]

theorem modifySession_eq_ok_iff {i : Int} {f : Session → Session} {w w' : World} {u : Unit} :
    modifySession i f w = .ok u w' ↔
      ∃ k, w.table.position? i = some k ∧
        w' = { w with table := { w.table with sessions := w.table.sessions.modify k f } } := by
  unfold modifySession
  simp only [bind_apply, get_apply, Table.modify?]
  cases w.table.position? i with
  | none => simp [ofExcept]
  | some k => simp [ofExcept, setTable, eq_comm]

/-! ## Failing -/

/-- The fault that a step ends with, if it does not return. -/
def fault? (act : Act α) (w : World) : Option Fault :=
  match act w with
  | .ok _ _ => none
  | .error e _ => some e

theorem fault?_eq_some_iff {act : Act α} {w : World} {e : Fault} :
    fault? act w = some e ↔ ∃ w', act w = .error e w' := by
  unfold fault?
  cases act w with
  | ok a w' => simp
  | error e' w' => simp

theorem fault?_eq_none_iff {act : Act α} {w : World} :
    fault? act w = none ↔ ∃ a w', act w = .ok a w' := by
  unfold fault?
  cases act w with
  | ok a w' => simp
  | error e w' => simp

end Act

end Multicast
