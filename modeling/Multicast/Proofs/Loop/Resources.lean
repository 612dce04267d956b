import Multicast.Proofs.Act.Ends
import Multicast.Proofs.Act.Tally
import Multicast.Signals
import Multicast.Socket

/-!
# `Proofs.Loop.Resources` — what a run has taken from the system

A run takes sockets and the timer from the system. Who holds them can be read off the world, and the
calls that took them and gave them back off the trace. Most steps have nothing to do with either.

## Contents
- **Resources.** `Resources`, with those of a world in `World.resources`.
- **Steps aside.** `Act.Aside`, and that flags, refusals, logging and changes of a session are.
-/

namespace Multicast

/-! ## Resources -/

/-- The calls that open and close sockets or set the timer. -/
def Call.isAccounted : Call → Bool
  | .openSocket _ _ | .close _ | .setTimer _ _ => true
  | _ => false

/-- The host's part of what was taken: the calls, the number of the next socket, and which refusals
    can come up, however often. -/
def Host.books (h : Host) : List Call × Nat × List (CallKind × Fault) :=
  (h.trace.toList.filter Call.isAccounted, h.nextSocket, h.failures.map fun f => (f.kind, f.fault))

theorem Host.books_eq (h : Host) :
    h.books = ((h.tally Call.isAccounted).1, h.nextSocket, (h.tally Call.isAccounted).2) := rfl

/-- What a run has taken, and who holds it. -/
structure Resources where
  /-- The socket of each session, if it has one. -/
  sockets : List (Option SocketId)
  uplinks : List (Family × SocketId)
  ticking : Bool
  /-- The calls that took something or gave it back. -/
  calls : List Call
  next : Nat
  refusals : List (CallKind × Fault)

/-- The resources of a world. -/
def World.resources (w : World) : Resources where
  sockets := w.table.sessions.map Session.socket
  uplinks := w.uplinks
  ticking := w.signals.ticking
  calls := w.host.books.1
  next := w.host.books.2.1
  refusals := w.host.books.2.2

theorem World.length_sockets (w : World) : w.resources.sockets.length = w.table.size :=
  List.length_map _

/-- The books after a call have it in them if it is accounted for. -/
theorem Host.books_record (h : Host) (c : Call) :
    (h.record c).books = (h.books.1 ++ [c].filter Call.isAccounted, h.books.2) := by
  simp [books, record]

/-- Handing on a record takes nothing. -/
theorem Host.books_log (h : Host) (level : Level) (message : String) :
    (h.log level message).books = h.books := by
  have htally : (h.log level message).tally Call.isAccounted = h.tally Call.isAccounted :=
    tally_log (fun _ => rfl) (fun _ => rfl) h level message
  have hnext : (h.log level message).nextSocket = h.nextSocket :=
    log_leaves (·.nextSocket) (fun _ _ => rfl) (fun _ _ sink => by cases sink <;> rfl) h level message
  rw [books_eq, htally, hnext, books_eq]

namespace Act

variable {α β : Type}

/-! ## Steps aside -/

/-- The step takes nothing and gives nothing back. -/
abbrev Aside (act : Act α) : Prop := Keeps (.of World.resources) act

theorem aside_modifyHost {f : Host → Host} (hf : ∀ h, (f h).books = h.books) :
    Aside (modifyHost f) := by
  intro w
  show World.resources { w with host := f w.host } = w.resources
  unfold World.resources
  rw [hf]

/-- A call that is not accounted for is aside. -/
theorem aside_call {c : Call} (hc : c.isAccounted = false) : Aside (call c) := by
  refine aside_modifyHost fun h => ?_
  rw [Host.books_eq, Host.tally_record_of_not hc, Host.books_eq]
  rfl

/-- A refusal that is due goes off the schedule, but may come up again. -/
theorem aside_check (kind : CallKind) : Aside (check kind) := by
  intro w
  rw [after_check]
  unfold Frame.of World.resources Host.books
  dsimp only
  rw [map_next]

theorem aside_attempt {kind : CallKind} {c : Call} (hc : c.isAccounted = false) :
    Aside (attempt kind c) :=
  keeps_attempt (aside_call hc) (aside_check kind)

theorem aside_log (level : Level) (message : String) : Aside (log level message) :=
  aside_modifyHost fun h => h.books_log level message

/-- A change to the session at an index leaves the resources if it leaves that session's socket. -/
theorem resources_modifySession {i : Int} {f : Session → Session} {w : World}
    (hf : ∀ s, w.table.get? i = some s → (f s).socket = s.socket) :
    ((modifySession i f).after w).resources = w.resources := by
  have hsockets := map_modifySession Session.socket hf
  obtain ⟨sessions, hafter⟩ := after_modifySession i f w
  rw [hafter] at hsockets ⊢
  unfold World.resources
  rw [hsockets]

theorem aside_interfaceAddress (interface : String) (family : Int) (fallback : Bool) :
    Aside (interfaceAddress interface family fallback) :=
  keeps_interfaceAddress (fun _ => aside_call rfl) (fun _ _ => aside_call rfl) (aside_check .lookup)
    interface family fallback

end Act

end Multicast
