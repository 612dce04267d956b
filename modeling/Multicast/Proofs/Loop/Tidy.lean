import Multicast.Proofs.Loop.Ledger
import Multicast.Proofs.Transport.Frame

/-!
# `Proofs.Loop.Tidy` — what the loop expects of a transport

The loop cleans up after a transport without knowing how far it got. That is enough if the transport
leaves no socket without a holder, not even where its start breaks off, and if it closes what its
own holders have.

## Contents
- **Refusals.** `Resources.RefusesBySystem` and `FailsBySystem`, with one lemma for each way of
  composing steps.
- **Starting.** `Beside`, and `ends_openAndSetUp` for one socket.
- **Interfaces.** `Host.IndexesFit`, and `ends_interfaceIndex`.
- **Transports.** `Ready`, `Kept`, `stepping_resources` and `Transport.Tidy`, with `Tidy.attending`.
-/

namespace Multicast

open Act

variable {w : World}

/-! ## Refusals -/

/-- Calls of a kind are refused by failures of the system only. -/
def Resources.RefusesBySystem (kind : CallKind) (r : Resources) : Prop :=
  ∀ p ∈ r.refusals, p.1 = kind → p.2.isSystem

theorem World.refusesBySystem_iff {kind : CallKind} :
    w.resources.RefusesBySystem kind ↔ w.host.RefusesBySystem kind := by
  show (∀ p ∈ w.host.failures.map fun f => (f.kind, f.fault), p.1 = kind → p.2.isSystem) ↔ _
  rw [List.forall_mem_map]
  exact Iff.rfl

/-- The step takes nothing, and fails only where the system refuses a call. -/
def FailsBySystem {α : Type} (r : Resources) (act : Act α) : Prop :=
  ∀ w : World, w.resources = r → Ends act w (fun _ w' => w'.resources = r)
    fun e w' => e.isSystem ∧ w'.resources = r

section

variable {α β : Type} {r : Resources}

theorem failsBySystem_bind {x : Act α} {f : α → Act β} (hx : FailsBySystem r x)
    (hf : ∀ a, FailsBySystem r (f a)) : FailsBySystem r (x >>= f) :=
  failsAs_bind hx hf

theorem failsBySystem_pure (a : α) : FailsBySystem r (pure a : Act α) := fun _ hw => hw

/-- A step aside keeps the resources that it finds. -/
theorem preserving_of_aside {act : Act α} (haside : Aside act) :
    Keeps (.preserving fun w => w.resources = r) act :=
  haside.mono fun _ _ hsame hw => hsame.trans hw

/-- A step aside that always returns does not fail at all. -/
theorem failsBySystem_of_returns {act : Act α} (haside : Aside act)
    (hreturns : ∀ w, ∃ a w', act w = .ok a w') : FailsBySystem r act :=
  failsAs_of_returns (preserving_of_aside haside) fun w _ => hreturns w

theorem failsBySystem_attempt {kind : CallKind} {c : Call} (hc : c.isAccounted = false)
    (hobjects : c.ObjectsBySystem) (h : r.RefusesBySystem kind) :
    FailsBySystem r (attempt kind c) := by
  refine failsAs_of_keeps (preserving_of_aside (aside_attempt hc)) fun w hw e w' hresult => ?_
  rw [← hw] at h
  exact isSystem_of_attempt (World.refusesBySystem_iff.1 h) hobjects hresult

end

/-! ## Starting -/

/-- What a start does not touch: the holders of another kind, the timer, and what can be refused. -/
structure Beside {β : Type} (others : Resources → β) (r r' : Resources) : Prop where
  others : others r' = others r
  ticking : r'.ticking = r.ticking
  refusals : r'.refusals = r.refusals

namespace Beside

variable {β : Type} {others : Resources → β} {r r' r'' : Resources}

theorem refl (r : Resources) : Beside others r r := ⟨rfl, rfl, rfl⟩

theorem trans (h : Beside others r r') (h' : Beside others r' r'') : Beside others r r'' :=
  ⟨h'.others.trans h.others, h'.ticking.trans h.ticking, h'.refusals.trans h.refusals⟩

theorem refuses (h : Beside others r r') {kind : CallKind} (hrefuses : r.RefusesBySystem kind) :
    r'.RefusesBySystem kind := by
  unfold Resources.RefusesBySystem
  rw [h.refusals]
  exact hrefuses

end Beside

/-- The sockets of the sessions and the uplinks. -/
def Resources.holders (r : Resources) : List (Option SocketId) × List (Family × SocketId) :=
  (r.sockets, r.uplinks)

/-- **Opening a socket and setting it up.** The socket is left to the rest of the step if it was set
    up. If the system refuses that, the socket is closed and the step fails with nothing changed. -/
theorem ends_openAndSetUp {α : Type} {before : List Call} (family : Family)
    (setUp : SocketId → Act Unit) (fault : Fault → Fault) (rest : SocketId → Act α)
    {returns : α → World → Prop} {fails : Fault → World → Prop}
    (howned : Owned before [] w.resources)
    (hsetUp : ∀ id, FailsBySystem (w.resources.opened family) (setUp id))
    (hrest : ∀ w', Owned before [w.resources.next] w'.resources →
      w'.resources = w.resources.opened family → Ends (rest w.resources.next) w' returns fails)
    (hfails : ∀ e w', Owned before [] w'.resources →
      Beside Resources.holders w.resources w'.resources → fails e w') :
    Ends (do
        let id ← openSocket family
        recover (setUp id) Fault.isSystem fun e => do
          closeSocket id
          throw (fault e)
        rest id) w returns fails := by
  refine ends_bind ((ends_openSocket family).mono ?_ ?_)
  · rintro id w₁ ⟨rfl, h₁⟩
    have hloose : Owned before [w.resources.next] (w.resources.opened family) := howned.opened family
    refine ends_bind (ends_recover ((hsetUp _ w₁ h₁).mono ?_ ?_))
    · intro _ w₂ h₂
      refine hrest w₂ ?_ h₂
      rw [h₂]
      exact hloose
    · rintro e w₂ ⟨hsystem, h₂⟩
      rw [if_pos hsystem]
      refine (ends_closeSocket _).bind ?_
      intro _ w₃ h₃
      -- The socket goes back from the step's hands to the system.
      have hclosed : Owned before []
          ((w.resources.opened family).closed [w.resources.next]) := hloose.closed
      rw [← h₂, ← h₃] at hclosed
      refine hfails _ w₃ hclosed ?_
      rw [h₃, h₂]
      exact ⟨rfl, rfl, rfl⟩
  · intro e w₁ h₁
    rw [← h₁] at howned
    refine hfails e w₁ howned ?_
    rw [h₁]
    exact .refl _

/-! ## Interfaces -/

/-- The indexes of the interfaces are those of a system: not negative, and below `2 ^ 31`. -/
def Host.IndexesFit (h : Host) : Prop := ∀ p ∈ h.interfaces, 0 ≤ p.1 ∧ p.1 < 2 ^ 31

/-- Asking for the index of an interface returns one that fits, that of no interface included. -/
theorem ends_interfaceIndex {F : Frame} (hlog : ∀ level message, Keeps F (log level message))
    (h : w.host.IndexesFit) (interface : String) :
    Ends (interfaceIndex interface) w (fun i w' => (0 ≤ i ∧ i < 2 ^ 31) ∧ F.rel w w')
      fun _ _ => False := by
  have hzero : (0 : Int) ≤ 0 ∧ (0 : Int) < 2 ^ 31 := by decide
  unfold interfaceIndex
  by_cases hname : interface = ""
  · rw [if_pos hname]
    exact ⟨hzero, F.refl w⟩
  · rw [if_neg hname]
    refine ends_get_bind ?_
    cases hfind : w.host.interfaces.find? (·.2 = interface) with
    | none => exact ⟨hzero, hlog _ _ w⟩
    | some p => exact ⟨h p (List.mem_of_find?_eq_some hfind), F.refl w⟩

/-! ## Transports -/

/-- What a start relies on: indexes and ports fit their fields, and setting up a socket is refused by
    failures of the system only. -/
structure Ready (w : World) : Prop where
  indexes : w.host.IndexesFit
  ports : w.table.HasPorts
  options : w.resources.RefusesBySystem .setOption
  binds : w.resources.RefusesBySystem .bind

/-- Every socket has a holder, of the kind that the transport uses. -/
structure Kept (before : List Call)
    (holders : List (Option SocketId) → List (Family × SocketId) → Prop) (ticking : Bool)
    (r : Resources) : Prop where
  owned : Owned before [] r
  holders : holders r.sockets r.uplinks
  ticking : r.ticking = ticking

/-- What a step of a transport is made of takes nothing. -/
theorem stepping_resources : (Frame.of World.resources).Stepping where
  call c hc := aside_call (by cases c <;> first | rfl | cases hc)
  check := aside_check
  log := aside_log
  flags _ _ _ _ _ := rfl
  script _ _ _ _ := rfl
  terminal _ _ := rfl
  clock _ _ := rfl
  watched _ _ _ := rfl
  session _ _ _ hsteady := resources_modifySession fun s hs => (hsteady s hs).1

/-- **A transport is tidy** if sockets have holders wherever its start ends, if its steps leave them
    with these, and if closing it always returns and takes the last socket from them. -/
structure Transport.Tidy (t : Transport)
    (holders : List (Option SocketId) → List (Family × SocketId) → Prop) : Prop where
  start {before : List Call} {w : World} : Ready w → w.resources.Unused →
    Owned before [] w.resources →
    Ends t.start w (fun _ w' => Kept before holders w.resources.ticking w'.resources)
      fun _ w' => Kept before holders w.resources.ticking w'.resources
  step : Aside t.step
  close {before : List Call} {w : World} {ticking : Bool} :
    Kept before holders ticking w.resources →
    Ends t.close w
      (fun _ w' => w'.resources.Unused ∧ Owned before [] w'.resources ∧
        w'.resources.ticking = ticking)
      fun _ _ => False

/-- What happens while the sockets are opened leaves a tidy transport tidy. -/
theorem Transport.Tidy.attending {t : Transport}
    {holders : List (Option SocketId) → List (Family × SocketId) → Prop} (h : t.Tidy holders) :
    t.attending.Tidy holders where
  start {before} {w} hready hunused howned := by
    refine (h.start hready hunused howned).bind fun _ w₁ h₁ => ?_
    have hsame := ends_of_aside (w := w₁) stepping_resources.attend
    refine hsame.mono ?_ ?_
    · intro _ w' hw'
      rw [hw']
      exact h₁
    · intro _ w' hw'
      rw [hw']
      exact h₁
  step := h.step
  close := h.close

end Multicast
