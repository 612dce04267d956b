import Multicast.History
import Multicast.Membership
import Multicast.Token

/-!
# `Multicast.Session` — one tracked group

A session is a group, possibly restricted to one source, with the counts of its packets and the
activity that the display shows. Source and group keep the text that they were given as; resolving a
session turns them into endpoints of one family.

## Contents
- **Sessions.** `Session`, its `label` and printed form.
- **Resolving.** `Session.resolve`, `Session.restart` and `Session.sourceRequest`.
- **Accounting.** `Session.accept` for a datagram that came in, with the remark that it calls for,
  and `Session.sent` for one that went out.
- **Showing.** `Session.glyph` and `Session.turn`, the spinner; `Session.row`, the row of the
  display.
-/

namespace Multicast

open Text

/-- The number of an open socket. -/
abbrev SocketId := Nat

/-- One group that is received from or sent to. -/
structure Session where
  source : Option String
  group : String
  /-- The group's endpoint, once resolved. -/
  target : Option Endpoint := none
  /-- The source's endpoint, if the resolved session has a source. -/
  origin : Option Endpoint := none
  history : History := .blank
  count : Int := 0
  gaps : Int := 0
  /-- The last sequence number, if there was any. -/
  seq : Option Int := none
  /-- The phase of the spinner. -/
  spin : Int := 0
  socket : Option SocketId := none
deriving Repr, DecidableEq

namespace Session

/-- The source that the group is restricted to; an empty text restricts nothing. -/
def source? (s : Session) : Option String := s.source.filter (· ≠ "")

/-- Source and group as they are shown, a star for any source. -/
def label (s : Session) : String := s.source?.getD "*" ++ "," ++ s.group

/-- The printed form of a session. -/
def describe (s : Session) : String :=
  let source := match s.source with
    | some text => quoted text
    | none => "None"
  s!"Session(source={source}, group={quoted s.group}, count={s.count}, gaps={s.gaps})"

/-! ## Resolving -/

/-- Reads the endpoints of a session. Only the group's endpoint carries the port, because the source
is used for joining alone; it has to be of the group's family. -/
def resolve (port : Int) (s : Session) : Except SetupError Session :=
  match Address.read? s.group with
  | none => .error (.badGroup s.group)
  | some target =>
    match s.source? with
    | none => .ok { s with target := some ⟨target, port⟩, origin := none }
    | some source =>
      match Address.readAs? target.family source with
      | none => .error (.badSource source s.group)
      | some origin => .ok { s with target := some ⟨target, port⟩, origin := some ⟨origin, 0⟩ }

/-- Blanks the history and starts the spinner at the last character of the group. -/
def restart (s : Session) : Session :=
  let blanked := { s with history := .blank }
  match (points s.group.toList).getLast? with
  | some p => { blanked with spin := p }
  | none => blanked

/-- The request of either family for the group and the source of a resolved session. -/
def sourceRequest (interface : Int) (s : Session) : Except Fault Octets :=
  match uint32? interface, s.target, s.origin with
  | none, _, _ => .error (.fieldRange false interface)
  | some _, some target, some origin =>
    match sourceRequest? interface target origin with
    | some request => .ok request
    | none => .error (.fieldRange false interface)
  | some _, _, _ => .error .unresolved

/-! ## Accounting -/

/-- Shows activity in the current tick. -/
def mark (s : Session) : Session := { s with history := s.history.mark }

/-- Opens a new tick. -/
def age (s : Session) : Session := { s with history := s.history.age }

/-- What there is to remark on an accepted datagram. -/
inductive Remark where
  /-- The payload is not one of ours. -/
  | foreign (size : Nat)
  /-- Numbers are missing between two packets. -/
  | gap (missing seq last : Int)
deriving Repr, DecidableEq

/-- Whether the session still counts datagrams; a limit of zero is none. -/
def isOpen (limit : Int) (s : Session) : Bool := limit = 0 || s.count < limit

/-- Takes note of a sequence number. A number above the last one is a gap of all numbers between
them; zero starts over; any other number is late and changes nothing. -/
def noteSeq (seq : Int) (s : Session) : Session × Option Remark :=
  match s.seq with
  | none => ({ s with seq := some seq }, none)
  | some last =>
    if seq > last + 1 then
      let missing := seq - last - 1
      ({ s with seq := some seq, gaps := s.gaps + missing }, some (.gap missing seq last))
    else if seq = 0 ∨ seq > last then ({ s with seq := some seq }, none)
    else (s, none)

/-- Counts a datagram of the given size, whose sequence number is known if it is one of ours. -/
def accept (size : Nat) (seq : Option Int) (s : Session) : Session × Option Remark :=
  let counted := { s.mark with count := s.count + 1 }
  match seq with
  | none => (counted, some (.foreign size))
  | some n => counted.noteSeq n

/-- The sequence number of the next packet to send. -/
def nextSeq (s : Session) : Int :=
  match s.seq with
  | none => 0
  | some last => last + 1

/-- Counts a packet that was sent. -/
def sent (s : Session) : Session :=
  { s.mark with seq := some s.nextSeq, count := s.count + 1 }

/-! ## Showing -/

/-- The spinner in its present phase. -/
def glyph (s : Session) : String := ["|", "/", "-", "\\"][(s.spin % 4).toNat]?.getD "|"

/-- Whether the session saw traffic in the current tick. -/
def active (s : Session) : Bool := s.history.active

/-- Turns the spinner, if there was traffic in the current tick. -/
def turn (s : Session) : Session := if s.active then { s with spin := s.spin + 1 } else s

/-- One row of the display: label, spinner, the newest `width` slots of the history, and the
count. -/
def row (s : Session) (spinner : String) (width : Nat) : String :=
  let label := padRight 31 (take 34 s.label)
  let window := String.ofList (s.history.window width)
  s!"{label}  {spinner} [{window}] {padLeft 13 (toString s.count)}"

/-- A row with a window of any width; there is none that is wider than the history. -/
def row? (s : Session) (spinner : String) (width : Int) : Except Fault String :=
  if (History.slots : Int) < width then .error .wideWindow else .ok (s.row spinner width.toNat)

end Session

end Multicast
