import Mathlib.Data.List.ReduceOption
import Multicast.Proofs.Loop.Resources

/-!
# `Proofs.Loop.Ledger` — every socket is in one place

A socket that was opened is in one of three places: it was closed, it has a holder, or it is in the
hands of the step that works on it. It is never in two of them. The ledger says so of the calls of a
run up to any moment, and what opens, hands on and closes sockets keeps it.

## Contents
- **Calls.** `Call.opened?`, `Call.closed?` and `Call.timer?`, and `Unarmed`, that the timer is off.
- **Ledger.** `Ledger` with `Ledger.opens`, `Ledger.closes` and `Ledger.closes_all`.
- **Owning.** `Owned`, the ledger against the holders of a world's resources; `Owned.start`,
  `Owned.opened`, `Owned.handOver` and `Owned.closed`.
- **Steps.** `ends_of_aside`, `ends_call`, `ends_log`, `ends_openSocket` and `ends_closeSocket`.
-/

namespace Multicast

/-! ## Calls -/

/-- The socket that a call opened. -/
def Call.opened? : Call → Option SocketId
  | .openSocket id _ => some id
  | _ => none

/-- The socket that a call closed. -/
def Call.closed? : Call → Option SocketId
  | .close id => some id
  | _ => none

/-- What a call set the timer to. -/
def Call.timer? : Call → Option (Quantity × Quantity)
  | .setTimer first interval => some (first, interval)
  | _ => none

/-- The sockets that were opened, in their order. -/
def openedBy (calls : List Call) : List SocketId := calls.filterMap Call.opened?

/-- The sockets that were closed, in their order. -/
def closedBy (calls : List Call) : List SocketId := calls.filterMap Call.closed?

/-- The timer is off: it was never set, or stopped the last time. -/
def Unarmed (calls : List Call) : Prop :=
  ∀ span ∈ (calls.filterMap Call.timer?).getLast?, span = (.ofNat 0, .ofNat 0)

theorem openedBy_append (calls more : List Call) :
    openedBy (calls ++ more) = openedBy calls ++ openedBy more :=
  List.filterMap_append

theorem closedBy_append (calls more : List Call) :
    closedBy (calls ++ more) = closedBy calls ++ closedBy more :=
  List.filterMap_append

/-- Calls that do not set the timer leave it off. -/
theorem Unarmed.append {calls more : List Call} (h : Unarmed calls)
    (hmore : more.filterMap Call.timer? = []) : Unarmed (calls ++ more) := by
  unfold Unarmed
  rw [List.filterMap_append, hmore, List.append_nil]
  exact h

/-! ## Ledger -/

/-- **No socket is opened twice, and each that was opened is closed or held, but not both.** At no
    moment was a socket closed that had not been opened. -/
structure Ledger (calls : List Call) (held : List SocketId) : Prop where
  fresh : (openedBy calls).Nodup
  balanced : (openedBy calls).Perm (closedBy calls ++ held)
  ordered : ∀ n, closedBy (calls.take n) ⊆ openedBy (calls.take n)

namespace Ledger

variable {calls : List Call} {held : List SocketId}

theorem nil : Ledger [] [] := ⟨List.nodup_nil, List.Perm.refl _, fun _ => by simp [closedBy]⟩

/-- Only how often each socket is held matters. -/
theorem perm (h : Ledger calls held) {held' : List SocketId} (hperm : held.Perm held') :
    Ledger calls held' where
  fresh := h.fresh
  balanced := h.balanced.trans (hperm.append_left _)
  ordered := h.ordered

/-- One more call is in order if the ledger is balanced behind it. -/
theorem snoc (h : Ledger calls held) {c : Call} {held' : List SocketId}
    (hfresh : (openedBy (calls ++ [c])).Nodup)
    (hbalanced : (openedBy (calls ++ [c])).Perm (closedBy (calls ++ [c]) ++ held')) :
    Ledger (calls ++ [c]) held' := by
  refine ⟨hfresh, hbalanced, fun n => ?_⟩
  by_cases hn : n ≤ calls.length
  · rw [List.take_append_of_le_length hn]
    exact h.ordered n
  · have hall : (calls ++ [c]).take n = calls ++ [c] := by
      rw [List.take_of_length_le]
      rw [List.length_append, List.length_singleton]
      omega
    rw [hall]
    intro id hid
    exact hbalanced.symm.subset (List.mem_append_left _ hid)

/-- A socket with a new number is held once it is opened. -/
theorem opens (h : Ledger calls held) {id : SocketId} (hid : id ∉ openedBy calls) (family : Family) :
    Ledger (calls ++ [.openSocket id family]) (held ++ [id]) := by
  have hopened : openedBy (calls ++ [.openSocket id family]) = openedBy calls ++ [id] :=
    openedBy_append _ _
  have hclosed : closedBy (calls ++ [.openSocket id family]) = closedBy calls := by
    rw [closedBy_append]
    exact List.append_nil _
  refine h.snoc ?_ ?_
  · rw [hopened, List.nodup_append]
    refine ⟨h.fresh, by simp, ?_⟩
    intro earlier hearlier now hnow heq
    rw [List.mem_singleton.1 hnow] at heq
    exact hid (heq ▸ hearlier)
  · rw [hopened, hclosed, ← List.append_assoc]
    exact h.balanced.append_right _

/-- A socket that was held is not any more once it is closed. -/
theorem closes {id : SocketId} (h : Ledger calls (id :: held)) : Ledger (calls ++ [.close id]) held := by
  have hopened : openedBy (calls ++ [.close id]) = openedBy calls := by
    rw [openedBy_append]
    exact List.append_nil _
  have hclosed : closedBy (calls ++ [.close id]) = closedBy calls ++ [id] := closedBy_append _ _
  refine h.snoc ?_ ?_
  · rw [hopened]
    exact h.fresh
  · rw [hopened, hclosed, List.append_assoc]
    exact h.balanced

/-- Sockets that were held are not any more once they are closed one after the other. -/
theorem closes_all {ids : List SocketId} (h : Ledger calls (ids ++ held)) :
    Ledger (calls ++ ids.map .close) held := by
  induction ids generalizing calls with
  | nil => simpa using h
  | cons id ids ih =>
      have hnext : Ledger (calls ++ [.close id]) (ids ++ held) := h.closes
      have hall := ih hnext
      rw [List.append_assoc] at hall
      exact hall

/-- A call that neither opens nor closes a socket changes nothing. -/
theorem other (h : Ledger calls held) {c : Call} (hopens : c.opened? = none)
    (hcloses : c.closed? = none) : Ledger (calls ++ [c]) held := by
  have hopened : openedBy (calls ++ [c]) = openedBy calls := by
    rw [openedBy_append]
    simp [openedBy, hopens]
  have hclosed : closedBy (calls ++ [c]) = closedBy calls := by
    rw [closedBy_append]
    simp [closedBy, hcloses]
  refine h.snoc ?_ ?_
  · rw [hopened]
    exact h.fresh
  · rw [hopened, hclosed]
    exact h.balanced

end Ledger

/-! ## Owning -/

namespace Resources

/-- The sockets that have a holder. -/
def held (r : Resources) : List SocketId := r.sockets.reduceOption ++ r.uplinks.map (·.2)

/-- No session has a socket, and there are no uplinks. -/
def Unused (r : Resources) : Prop := (∀ s ∈ r.sockets, s = none) ∧ r.uplinks = []

/-- Sessions without sockets hold none. -/
theorem reduceOption_of_forall {sockets : List (Option SocketId)} (h : ∀ s ∈ sockets, s = none) :
    sockets.reduceOption = [] :=
  List.filterMap_eq_nil_iff.2 h

/-- Nothing is held where nothing is used. -/
theorem Unused.held {r : Resources} (h : r.Unused) : r.held = [] := by
  unfold Resources.held
  rw [reduceOption_of_forall h.1, h.2]
  rfl

/-- The resources after a socket was opened. -/
def opened (family : Family) (r : Resources) : Resources :=
  { r with calls := r.calls ++ [.openSocket r.next family], next := r.next + 1 }

/-- The resources after sockets were closed. -/
def closed (ids : List SocketId) (r : Resources) : Resources :=
  { r with calls := r.calls ++ ids.map .close }

end Resources

/-- **Every socket that was opened since is accounted for**, the loose ones being in the hands of the
    step that is going on; and the timer is off unless it is known to run. -/
def Owned (before : List Call) (loose : List SocketId) (r : Resources) : Prop :=
  ∃ calls, r.calls = before ++ calls ∧ Ledger calls (r.held ++ loose) ∧
    (∀ id ∈ openedBy calls, id < r.next) ∧ (r.ticking = false → Unarmed calls)

namespace Owned

/-- Before anything is taken, everything is accounted for. -/
theorem start {r : Resources} (h : r.Unused) : Owned r.calls [] r := by
  refine ⟨[], (List.append_nil _).symm, ?_, ?_, ?_⟩
  · rw [h.held]
    exact Ledger.nil
  · intro id hid
    cases hid
  · intro _ span hspan
    cases hspan

variable {before : List Call} {loose : List SocketId} {r : Resources}

/-- The number of the next socket is new. -/
theorem opened (h : Owned before loose r) (family : Family) :
    Owned before (loose ++ [r.next]) (r.opened family) := by
  obtain ⟨calls, hcalls, hledger, hbelow, htimer⟩ := h
  refine ⟨calls ++ [.openSocket r.next family], ?_, ?_, ?_, ?_⟩
  · show r.calls ++ [.openSocket r.next family] = _
    rw [hcalls, List.append_assoc]
  · have hnew : r.next ∉ openedBy calls := fun hid => Nat.lt_irrefl _ (hbelow _ hid)
    have hopens := hledger.opens hnew family
    rw [List.append_assoc] at hopens
    exact hopens
  · intro id hid
    show id < r.next + 1
    rw [openedBy_append] at hid
    rcases List.mem_append.1 hid with hearlier | hnow
    · exact Nat.lt_succ_of_lt (hbelow id hearlier)
    · obtain rfl : id = r.next := List.mem_singleton.1 hnow
      exact Nat.lt_succ_self _
  · intro hticking
    exact (htimer hticking).append rfl

/-- Sockets change hands without a call. -/
theorem handOver (h : Owned before loose r) {r' : Resources} {loose' : List SocketId}
    (hperm : (r.held ++ loose).Perm (r'.held ++ loose')) (hcalls : r'.calls = r.calls)
    (hnext : r'.next = r.next) (hticking : r'.ticking = r.ticking) : Owned before loose' r' := by
  obtain ⟨calls, hsplit, hledger, hbelow, htimer⟩ := h
  refine ⟨calls, hcalls.trans hsplit, hledger.perm hperm, ?_, ?_⟩
  · rw [hnext]
    exact hbelow
  · rw [hticking]
    exact htimer

/-- What is loose can be closed. -/
theorem closed {ids : List SocketId} (h : Owned before (ids ++ loose) r) :
    Owned before loose (r.closed ids) := by
  obtain ⟨calls, hcalls, hledger, hbelow, htimer⟩ := h
  have hfront : (r.held ++ (ids ++ loose)).Perm (ids ++ (r.held ++ loose)) := by
    rw [← List.append_assoc, ← List.append_assoc]
    exact List.perm_append_comm.append_right _
  have hopened : openedBy (calls ++ ids.map .close) = openedBy calls := by
    rw [openedBy_append]
    have hnone : openedBy (ids.map .close) = [] := by
      unfold openedBy
      rw [List.filterMap_map, List.filterMap_eq_nil_iff]
      exact fun id _ => rfl
    rw [hnone, List.append_nil]
  refine ⟨calls ++ ids.map .close, ?_, (hledger.perm hfront).closes_all, ?_, ?_⟩
  · show r.calls ++ ids.map .close = _
    rw [hcalls, List.append_assoc]
  · rw [hopened]
    exact hbelow
  · intro hticking
    refine (htimer hticking).append ?_
    rw [List.filterMap_map, List.filterMap_eq_nil_iff]
    exact fun id _ => rfl

/-- The timer may be set, as long as it is known to run, and stopped. -/
theorem timer (h : Owned before loose r) (ticking : Bool) {first interval : Quantity}
    (hstop : ticking = false → (first, interval) = (.ofNat 0, .ofNat 0)) :
    Owned before loose
      { r with ticking, calls := r.calls ++ [.setTimer first interval] } := by
  obtain ⟨calls, hcalls, hledger, hbelow, -⟩ := h
  refine ⟨calls ++ [.setTimer first interval], ?_, hledger.other rfl rfl, ?_, ?_⟩
  · show r.calls ++ [.setTimer first interval] = _
    rw [hcalls, List.append_assoc]
  · intro id hid
    rw [openedBy_append] at hid
    exact hbelow id ((List.mem_append.1 hid).resolve_right (by simp [openedBy, Call.opened?]))
  · intro hticking span hspan
    rw [List.filterMap_append] at hspan
    have hlast : span = (first, interval) := by
      simpa [Call.timer?, eq_comm] using hspan
    rw [hlast]
    exact hstop hticking

end Owned

/-! ## Steps -/

namespace Act

variable {α : Type} {w : World}

/-- A step aside leaves the resources, whether it returns or fails. -/
theorem ends_of_aside {act : Act α} (h : Aside act) :
    Ends act w (fun _ w' => w'.resources = w.resources) fun _ w' => w'.resources = w.resources :=
  ends_of_frame h w

/-- A call that is not accounted for returns. -/
theorem ends_call {c : Call} (hc : c.isAccounted = false) {fails : Fault → World → Prop} :
    Ends (call c) w (fun _ w' => w'.resources = w.resources) fails :=
  aside_call hc w

/-- Logging returns. -/
theorem ends_log (level : Level) (message : String) {fails : Fault → World → Prop} :
    Ends (log level message) w (fun _ w' => w'.resources = w.resources) fails :=
  aside_log level message w

/-- **A socket is opened**, or nothing happened. -/
theorem ends_openSocket (family : Family) :
    Ends (openSocket family) w
      (fun id w' => id = w.resources.next ∧ w'.resources = w.resources.opened family)
      fun _ w' => w'.resources = w.resources := by
  unfold openSocket
  refine (ends_of_aside (aside_check .openSocket)).bind ?_
  intro _ w₁ h₁
  rw [← h₁]
  refine ⟨rfl, ?_⟩
  show World.resources { w₁ with
    host := Host.record { w₁.host with nextSocket := w₁.host.nextSocket + 1 }
      (.openSocket w₁.host.nextSocket family) } = _
  unfold World.resources
  rw [Host.books_record]
  rfl

/-- Closing a socket returns. -/
theorem ends_closeSocket (id : SocketId) {fails : Fault → World → Prop} :
    Ends (closeSocket id) w (fun _ w' => w'.resources = w.resources.closed [id]) fails := by
  show World.resources { w with host := w.host.record (.close id) } = _
  unfold World.resources
  rw [Host.books_record]
  rfl

end Act

end Multicast
