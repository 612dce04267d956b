import Multicast.Proofs.Dashboard.Run
import Multicast.Proofs.Receiver.Counting
import Multicast.Proofs.Sender.Numbering
import Multicast.Proofs.Session.Activity
import Multicast.Proofs.Table.Operations

/-!
# `Proofs.Dashboard.Activity` — the activity on the screen is that of the sessions

Packets come in and go out, ticks are shown and the screen is drawn anew, in any order and on a screen
of any size. Through all of it the histories and the spinners of the sessions tell what happened to
each since all of them were resolved, and a tick paints what they told in front of it.

## Contents
- **Steps.** What one packet, one tick and one redraw make of the table: `table_of_account`,
  `table_of_sendOne`, `table_of_tick` and `table_of_redraw`.
- **Courses.** `Course`, a log of what happened between two worlds, with `Course.tells`.
- **Painting.** `cell_of_tick`, what a tick paints.
- **Result.** `activity_is_faithful`.
-/

namespace Multicast

/-! ## Steps -/

/-- A datagram that is counted marks the history. -/
theorem Session.received_marks (data : Octets) (s : Session) :
    (s.received data).group = s.group ∧ (s.received data).history = s.history.mark ∧
      (s.received data).spin = s.spin := by
  have hnote : ∀ (seq : Int) (s : Session), (s.noteSeq seq).1.group = s.group ∧
      (s.noteSeq seq).1.history = s.history ∧ (s.noteSeq seq).1.spin = s.spin := by
    intro seq s
    unfold noteSeq
    split
    · exact ⟨rfl, rfl, rfl⟩
    · split
      · exact ⟨rfl, rfl, rfl⟩
      · split <;> exact ⟨rfl, rfl, rfl⟩
  unfold received accept
  cases Packet.decode? data with
  | none => exact ⟨rfl, rfl, rfl⟩
  | some packet => exact hnote packet.1 _

/-- The history of the session at a position is marked; the other sessions are as they were. -/
structure Table.Marked (t t' : Table) (k : Nat) : Prop where
  size : t'.sessions.length = t.sessions.length
  here : ∀ s, t.sessions[k]? = some s → ∃ s', t'.sessions[k]? = some s' ∧ s'.group = s.group ∧
    s'.history = s.history.mark ∧ s'.spin = s.spin
  elsewhere : ∀ j, j ≠ k → t'.sessions[j]? = t.sessions[j]?

open Act

/-- A datagram that was counted marks the session that it is for. -/
theorem Receiver.table_of_account {r : Receiver} {i : Int} {data : Octets} {w w' : World} {k : Nat}
    (hk : w.table.position? i = some k) (h : r.account i data w = .ok true w') :
    w.table.Marked w'.table k := by
  cases hs : w.table.sessions[k]? with
  | none =>
      unfold account at h
      rw [bind_of_ok (get_apply w), Table.get?, hk, Option.bind_some, hs] at h
      cases h
  | some s =>
      by_cases hopen : s.isOpen r.count
      · obtain ⟨host, hcounted⟩ := account_eq_ok hk hs hopen data
        cases h.symm.trans hcounted
        obtain ⟨hgroup, hhistory, hspin⟩ := s.received_marks data
        refine ⟨List.length_set, ?_, fun j hj => List.getElem?_set_ne (Ne.symm hj)⟩
        intro s' hs'
        cases hs.symm.trans hs'
        exact ⟨s.received data, List.getElem?_set_self (List.getElem?_eq_some_iff.1 hs).1, hgroup,
          hhistory, hspin⟩
      · unfold account at h
        rw [bind_of_ok (get_apply w), Table.get?, hk, Option.bind_some, hs] at h
        dsimp only at h
        rw [if_neg hopen] at h
        cases h

/-- A packet that was sent marks the session that it went to. -/
theorem Sender.table_of_sendOne {s : Sender} {k : Nat} {session : Session} {w w' : World}
    (h : s.sendOne k session w = .ok () w') : w.table.Marked w'.table k := by
  obtain ⟨target, id, -, -, -, -, rfl⟩ := sendOne_eq_ok_iff.1 h
  refine ⟨List.length_modify .., ?_, fun j hj => ?_⟩
  · intro t ht
    refine ⟨t.sent, ?_, rfl, rfl, rfl⟩
    show (w.table.sessions.modify k Session.sent)[k]? = _
    rw [List.getElem?_modify_eq, ht]
    rfl
  · exact List.getElem?_modify_ne Session.sent _ (Ne.symm hj)

namespace Dashboard

open Act

/-- A tick turns the spinner of every session and opens a slot in its history. -/
theorem table_of_tick {w w' : World} (h : Dashboard.tick .record w = .ok () w') :
    w'.table.sessions = w.table.sessions.map fun s => s.turn.age := by
  obtain ⟨_, w₁, hpaint, hafter⟩ := bind_eq_ok.1 h
  obtain ⟨_, w₂, hrefresh, hage⟩ := bind_eq_ok.1 hafter
  obtain ⟨-, htable, -⟩ := Draws.of_refresh hrefresh
  obtain rfl : { w₂ with table := w₂.table.age } = w' := by injection hage
  obtain ⟨d, bar, log, hpainting⟩ := paint_eq_ok hpaint
  show w₂.table.sessions.map Session.age = _
  rw [htable, hpainting.table, if_pos rfl, List.map_map]
  rfl

/-- Drawing the screen anew leaves the sessions as they are. -/
theorem table_of_redraw {resized : Bool} {w w' : World}
    (h : Dashboard.redraw .record resized w = .ok () w') : w'.table = w.table := by
  cases resized with
  | false =>
      rw [redraw_false] at h
      obtain ⟨_, w₁, hblank, hrefresh⟩ := bind_eq_ok.1 h
      obtain ⟨_, _, _, _, hblanked⟩ := blank_eq_ok hblank
      obtain ⟨-, htable, -⟩ := Draws.of_refresh hrefresh
      exact htable.trans hblanked.table
  | true =>
      rw [redraw_true, bind_of_ok (resize_apply w)] at h
      obtain ⟨_, w₂, hblank, h⟩ := bind_eq_ok.1 h
      obtain ⟨_, w₃, hpaint, hrefresh⟩ := bind_eq_ok.1 h
      obtain ⟨_, _, _, _, hblanked⟩ := blank_eq_ok hblank
      obtain ⟨_, _, _, hpainting⟩ := paint_eq_ok hpaint
      obtain ⟨-, htable, -⟩ := Draws.of_refresh hrefresh
      exact htable.trans (hpainting.table.trans hblanked.table)

/-! ## Courses -/

/-- What happened from a world on to the world that was reached, the last of it first. In between,
    anything may happen that leaves the sessions. -/
inductive Course (w₀ : World) : List Happening → World → Prop where
  | start : Course w₀ [] w₀
  | idle {log : List Happening} {w w' : World} : Course w₀ log w → w'.table = w.table →
      Course w₀ log w'
  | received {log : List Happening} {w w' : World} {r : Receiver} {i : Int} {k : Nat} {data : Octets} :
      Course w₀ log w → w.table.position? i = some k → r.account i data w = .ok true w' →
      Course w₀ (.packet k :: log) w'
  | sent {log : List Happening} {w w' : World} {s : Sender} {k : Nat} {session : Session} :
      Course w₀ log w → s.sendOne k session w = .ok () w' → Course w₀ (.packet k :: log) w'
  | tick {log : List Happening} {w w' : World} :
      Course w₀ log w → Dashboard.tick .record w = .ok () w' → Course w₀ (.tick :: log) w'
  | redraw {log : List Happening} {w w' : World} {resized : Bool} :
      Course w₀ log w → Dashboard.redraw .record resized w = .ok () w' →
      Course w₀ (.redraw resized :: log) w'

/-- Every session tells the log, from what it was like in the first world. -/
def AllTell (log : List Happening) (before sessions : List Session) : Prop :=
  sessions.length = before.length ∧ ∀ (k : Nat) (s₀ : Session), before[k]? = some s₀ →
    ∃ s, sessions[k]? = some s ∧ s.Tells k log s₀

/-- A packet is told by its session, and none of the others is concerned. -/
theorem AllTell.packet {log : List Happening} {before : List Session} {t t' : Table} {k : Nat}
    (h : AllTell log before t.sessions) (hmarked : t.Marked t' k) :
    AllTell (.packet k :: log) before t'.sessions := by
  refine ⟨hmarked.size.trans h.1, ?_⟩
  intro j s₀ hs₀
  obtain ⟨s, hs, htells⟩ := h.2 j s₀ hs₀
  by_cases hj : j = k
  · subst hj
    obtain ⟨s', hs', hgroup, hhistory, hspin⟩ := hmarked.here s hs
    exact ⟨s', hs', htells.packet hgroup hhistory hspin⟩
  · refine ⟨s, (hmarked.elsewhere j hj).trans hs, htells.other (by simp) ?_⟩
    intro heq
    cases heq
    exact hj rfl

/-- **Whatever the course, every session tells it.** -/
theorem Course.tells {w₀ w : World} {log : List Happening} (h : Course w₀ log w)
    (hblank : ∀ s ∈ w₀.table.sessions, s.history = .blank) :
    AllTell log w₀.table.sessions w.table.sessions := by
  induction h with
  | start =>
      refine ⟨rfl, fun k s₀ hs₀ => ⟨s₀, hs₀, ?_⟩⟩
      exact Session.tells_nil (hblank s₀ (List.mem_of_getElem? hs₀))
  | idle _ htable ih => rwa [htable]
  | received _ hk haccount ih => exact ih.packet (Receiver.table_of_account hk haccount)
  | sent _ hsend ih => exact ih.packet (Sender.table_of_sendOne hsend)
  | tick _ htick ih =>
      rw [table_of_tick htick]
      refine ⟨(List.length_map _).trans ih.1, fun k s₀ hs₀ => ?_⟩
      obtain ⟨s, hs, htells⟩ := ih.2 k s₀ hs₀
      exact ⟨s.turn.age, by rw [List.getElem?_map, hs]; rfl, htells.tick⟩
  | redraw _ hredraw ih =>
      rw [table_of_redraw hredraw]
      refine ⟨ih.1, fun k s₀ hs₀ => ?_⟩
      obtain ⟨s, hs, htells⟩ := ih.2 k s₀ hs₀
      exact ⟨s, hs, htells.other (by simp) (by simp)⟩

/-! ## Painting -/

/-- A tick paints the row of each session as it was in front of the tick. -/
theorem cell_of_tick {w w' : World} (h : Dashboard.tick .record w = .ok () w') {k : Nat} {s : Session}
    (hs : w.table.sessions[k]? = some s) :
    w'.dashboard.cell w'.sight k =
      (w.dashboard.cell w.sight k).paint (w.dashboard.hides k)
        (s.row s.glyph w.dashboard.window) := by
  obtain ⟨_, w₁, hpaint, hafter⟩ := bind_eq_ok.1 h
  obtain ⟨_, w₂, hrefresh, hage⟩ := bind_eq_ok.1 hafter
  obtain ⟨hsight, -, hdashboard⟩ := Draws.of_refresh hrefresh
  obtain rfl : { w₂ with table := w₂.table.age } = w' := by injection hage
  have hcell := cell_of_paint hpaint hs
  rw [← hsight, ← hdashboard] at hcell
  exact hcell

/-! ## Result -/

/-- Sessions that were all resolved start with a blank history, and a spinner at the last code point
    of their group. -/
theorem started_of_resolveAll {t t' : Table} {port : Int} (h : t.resolveAll port = (t', none)) :
    t'.sessions.length = t.sessions.length ∧
      ∀ (k : Nat) (s : Session), t'.sessions[k]? = some s → s.history = .blank ∧
        (∃ s₀, t.sessions[k]? = some s₀ ∧ s.group = s₀.group) ∧
        ∃ p, (Text.points s.group.toList).getLast? = some p ∧ s.spin = p := by
  have hnone : (Table.resolveEach port t.sessions).2.2 = none := congrArg Prod.snd h
  obtain ⟨ds, hds⟩ := Table.forall₂_of_resolveEach hnone
  rw [Table.resolveAll_of_forall₂ hds, Prod.mk.injEq] at h
  obtain ⟨rfl, -⟩ := h
  refine ⟨(List.length_map _).trans hds.length_eq.symm, ?_⟩
  intro k s hs
  rw [List.getElem?_map, Option.map_eq_some_iff] at hs
  obtain ⟨d, hd, rfl⟩ := hs
  obtain ⟨hk, rfl⟩ := List.getElem?_eq_some_iff.1 hd
  have hk₀ : k < t.sessions.length := hds.length_eq ▸ hk
  have hresolve : t.sessions[k].resolve port = .ok ds[k] := hds.get hk₀ hk
  have hgroup := Session.group_ne_empty hresolve
  obtain ⟨_, _, -, -, hkept⟩ := Session.resolve_eq_ok_iff.1 hresolve
  have hsame : ds[k].group = t.sessions[k].group := by rw [hkept]
  refine ⟨Session.history_restart _, ⟨t.sessions[k], List.getElem?_eq_getElem hk₀, ?_⟩, ?_⟩
  · rw [← hsame]
    unfold Session.restart
    split <;> rfl
  · cases hlast : (Text.points ds[k].group.toList).getLast? with
    | none => exact absurd ((Text.getLast?_points_eq_none_iff _).1 hlast) hgroup
    | some p =>
        unfold Session.restart
        rw [hlast]
        exact ⟨p, hlast, rfl⟩

/-- **The activity on the screen is that of the sessions.** After all sessions were resolved, let any
    packets be accepted, any ticks be shown and the screen be drawn anew any number of times, at any
    size. Then the sessions are those of the start. The history of each has the same number of slots
    as ever, each of them blank or active, and a slot is active if and only if the session had a
    packet in the interval between ticks that it stands for; slots for which there was none are
    blank. The spinner started at the last code point of the group, and has turned once for each
    interval with a packet that is over. A tick paints the spinner as it was in front of the tick.
    The history is painted as far as the width leaves room for it: without a failure, and from the
    newest slot backwards. -/
theorem activity_is_faithful {t : Table} {port : Int} {w₀ w : World} {log : List Happening}
    (hresolved : t.resolveAll port = (w₀.table, none)) (hcourse : Course w₀ log w) :
    w.table.sessions.length = t.sessions.length ∧
    ∀ (k : Nat) (s : Session), w.table.sessions[k]? = some s →
      (∃ s₀, t.sessions[k]? = some s₀ ∧ s.group = s₀.group) ∧
      s.history.text.length = History.slots ∧ (∀ c ∈ s.history.text, c = ' ' ∨ c = '.') ∧
      (∀ j, s.history.slot j = true ↔ j < History.slots ∧
        ∃ interval, (intervals log)[j]? = some interval ∧ .packet k ∈ interval) ∧
      (∃ p, (Text.points s.group.toList).getLast? = some p ∧
        s.spin = p + (intervals log).tail.countP (.packet k ∈ ·)) ∧
      (∀ w', Dashboard.tick .record w = .ok () w' →
        w'.dashboard.cell w'.sight k = (w.dashboard.cell w.sight k).paint (w.dashboard.hides k)
          (s.row s.glyph w.dashboard.window)) ∧
      ∀ d : Dashboard,
        s.row? s.glyph (min (d.width - 50) History.slots) = .ok (s.row s.glyph d.window) ∧
        (0 < d.width - 50 → (d.window : Int) = min (d.width - 50) History.slots ∧
          s.history.window d.window = s.history.text.drop (History.slots - d.window)) := by
  obtain ⟨hlength, hstarted⟩ := started_of_resolveAll hresolved
  have hblank : ∀ s ∈ w₀.table.sessions, s.history = .blank := by
    intro s hs
    obtain ⟨k, hk⟩ := List.mem_iff_getElem?.1 hs
    exact (hstarted k s hk).1
  obtain ⟨hsize, htells⟩ := hcourse.tells hblank
  refine ⟨hsize.trans hlength, ?_⟩
  intro k s hs
  obtain ⟨hk, -⟩ := List.getElem?_eq_some_iff.1 hs
  have hk₀ : k < w₀.table.sessions.length := hsize ▸ hk
  obtain ⟨s', hs', htell⟩ := htells k _ (List.getElem?_eq_getElem hk₀)
  cases hs.symm.trans hs'
  obtain ⟨-, ⟨s₀, hs₀, hgroup⟩, p, hlast, hspin⟩ := hstarted k _ (List.getElem?_eq_getElem hk₀)
  refine ⟨⟨s₀, hs₀, htell.group.trans hgroup⟩, s.history.length_text,
    fun c hc => History.blank_or_active hc, htell.slot, ⟨p, ?_, ?_⟩, fun w' htick =>
    cell_of_tick htick hs, fun d => ⟨row?_window d s, fun hpos => ⟨?_, ?_⟩⟩⟩
  · rw [htell.group]
    exact hlast
  · rw [htell.spin, hspin]
  · unfold window History.slots
    omega
  · refine s.history.window_eq_drop ?_
    unfold window History.slots
    omega

/-- One session that was resolved just now. -/
def started : World := { fresh with table := (fresh.table.resolveAll 1234).1 }

/-- A packet is active in the slot of its interval when a tick has shown that, and the spinner has
    turned once from the last digit of the group. -/
theorem packet_is_shown_one_tick_back :
    ∃ w w' : World, Course started [.packet 0] w ∧ Dashboard.tick .record w = .ok () w' ∧
      ∃ s, w'.table.sessions[0]? = some s ∧ s.history.slot 0 = false ∧ s.history.slot 1 = true ∧
        s.spin = 52 := by
  have hresolved : fresh.table.resolveAll 1234 = (started.table, none) := by decide +kernel
  have hposition : started.table.position? 0 = some 0 := by decide +kernel
  have hcounted : ∃ w : World, Receiver.account { period := .ofNat 1 } 0 [] started = .ok true w ∧
      Answers w := ⟨_, rfl, ⟨_, rfl⟩, fun f hf => by cases hf⟩
  obtain ⟨w, haccount, hanswers⟩ := hcounted
  have hcourse := Course.start.received hposition haccount
  obtain ⟨w', htick⟩ := Stage.exists_run .tick ⟨hanswers, fun h => by cases h⟩
  obtain ⟨hlength, hfaithful⟩ := activity_is_faithful hresolved (hcourse.tick htick)
  obtain ⟨s, hs⟩ : ∃ s, w'.table.sessions[0]? = some s :=
    ⟨_, List.getElem?_eq_getElem (by rw [hlength]; decide)⟩
  obtain ⟨⟨s₀, hs₀, hgroup⟩, -, -, hslot, ⟨p, hlast, hspin⟩, -⟩ := hfaithful 0 s hs
  cases hs₀
  rw [hgroup] at hlast
  refine ⟨w, w', hcourse, htick, s, hs, ?_, ?_, ?_⟩
  · rw [← Bool.not_eq_true, hslot]
    rintro ⟨-, interval, hinterval, hpacket⟩
    cases hinterval
    cases hpacket
  · exact (hslot 1).2 ⟨by decide, _, rfl, List.mem_singleton_self _⟩
  · cases hlast
    exact hspin

end Dashboard

end Multicast
