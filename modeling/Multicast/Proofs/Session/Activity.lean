import Mathlib.Data.List.Basic
import Multicast.Session

/-!
# `Proofs.Session.Activity` — what a history says of the packets of a session

The slots of a history are a queue of fixed length: a packet marks the newest slot, a tick drops the
oldest one and opens a blank one. So each slot tells whether there was a packet in one interval
between two ticks, however many there were, and the spinner has turned once for each interval with a
packet that is over.

## Contents
- **Queue.** `History.text`, all slots as text, with what the operations make of it;
  `History.window_eq_drop`, a window as the end of it.
- **Intervals.** `Happening`, and `intervals`, what happened between ticks.
- **Sessions.** `Session.Tells`, what a session says of a log, and one lemma for each happening.
-/

namespace Multicast

/-! ## Queue -/

namespace History

/-- All slots as text, the oldest of them first. -/
def text (h : History) : List Char := h.window slots

@[simp] theorem length_text (h : History) : h.text.length = slots := h.length_window slots

/-- Every slot is blank or active. -/
theorem blank_or_active {h : History} {c : Char} (hc : c ∈ h.text) : c = ' ' ∨ c = '.' := by
  obtain ⟨k, -, rfl⟩ := List.mem_map.1 hc
  cases h.slot k with
  | false => exact Or.inl rfl
  | true => exact Or.inr rfl

theorem text_blank : blank.text = List.replicate slots ' ' := by
  refine List.eq_replicate_iff.2 ⟨length_text blank, ?_⟩
  intro c hc
  obtain ⟨k, -, rfl⟩ := List.mem_map.1 hc
  rw [slot_blank]
  rfl

theorem window_succ (h : History) (n : Nat) :
    h.window (n + 1) =
      ((List.range n).reverse.map fun k => glyph (h.slot (k + 1))) ++ [glyph (h.slot 0)] := by
  unfold window
  rw [List.range_succ_eq_map, List.reverse_cons, List.map_append, ← List.map_reverse, List.map_map]
  rfl

/-- **A packet marks the newest slot.** -/
theorem window_mark (h : History) (n : Nat) :
    h.mark.window (n + 1) = (h.window (n + 1)).dropLast ++ ['.'] := by
  rw [window_succ, window_succ, List.dropLast_concat]
  simp [glyph]

/-- **A tick drops the oldest slot**, and opens a blank one behind the newest. -/
theorem window_age (h : History) {n : Nat} (hn : n < slots) :
    h.age.window (n + 1) = (h.window (n + 1)).tail ++ [' '] := by
  have htail : (h.window (n + 1)).tail = (List.range n).reverse.map fun k => glyph (h.slot k) := by
    unfold window
    rw [List.range_succ, List.reverse_append, List.reverse_singleton, List.singleton_append,
      List.map_cons, List.tail_cons]
  rw [htail, window_succ]
  congr 1
  · refine List.map_congr_left fun k hk => ?_
    have hlt := List.mem_range.1 (List.mem_reverse.1 hk)
    rw [slot_age, Nat.add_sub_cancel, decide_eq_true (by omega), Bool.true_and]
  · simp [glyph]

/-- **A window is the end of the text**, as far as that reaches. -/
theorem window_eq_drop (h : History) {n : Nat} (hn : n ≤ slots) :
    h.window n = h.text.drop (slots - n) := by
  unfold text window
  rw [← List.map_drop, List.drop_reverse, List.length_range, Nat.sub_sub_self hn, List.take_range,
    Nat.min_eq_left hn]

end History

/-! ## Intervals -/

/-- What a session takes notice of. -/
inductive Happening where
  /-- A packet was accepted for the session at a position, or sent to it. -/
  | packet (k : Nat)
  /-- A tick was shown. -/
  | tick
  /-- The screen was blanked and drawn anew. -/
  | redraw (resized : Bool)
deriving DecidableEq

/-- What happened in each interval between ticks, of a log that starts with what happened last. The
    first interval has not been shown yet. -/
def intervals (log : List Happening) : List (List Happening) := log.splitOn .tick

theorem intervals_ne_nil (log : List Happening) : intervals log ≠ [] := List.splitOnP_ne_nil _ _

theorem intervals_tick (log : List Happening) : intervals (.tick :: log) = [] :: intervals log := rfl

/-- Whatever is no tick happens in the first interval. -/
theorem intervals_cons {h : Happening} (hh : h ≠ .tick) (log : List Happening) :
    intervals (h :: log) = (intervals log).modifyHead (h :: ·) := by
  unfold intervals List.splitOn
  rw [List.splitOnP_cons_eq_if_modifyHead, if_neg (by simpa using hh)]

/-! ## Sessions -/

namespace Session

/-- **What a session says of a log**, from what it was like in front of it: the slots of its history
    show the intervals with a packet of its own, and its spinner has turned once for each of them
    that is over. -/
structure Tells (s : Session) (k : Nat) (log : List Happening) (before : Session) : Prop where
  group : s.group = before.group
  slot : ∀ j, s.history.slot j = true ↔
    j < History.slots ∧ ∃ interval, (intervals log)[j]? = some interval ∧ .packet k ∈ interval
  spin : s.spin = before.spin + (intervals log).tail.countP (.packet k ∈ ·)

variable {k : Nat} {log : List Happening} {before s : Session}

/-- The packets of an interval that begins with something else. -/
theorem exists_packet_modifyHead {h : Happening} (hh : h ≠ .packet k)
    (past : List (List Happening)) (j : Nat) :
    (∃ interval, (past.modifyHead (h :: ·))[j]? = some interval ∧ .packet k ∈ interval) ↔
      ∃ interval, past[j]? = some interval ∧ .packet k ∈ interval := by
  cases past with
  | nil => rfl
  | cons now past =>
      cases j with
      | succ j => rfl
      | zero => simp [Ne.symm hh]

/-- Nothing is told in front of a log, by a session with a blank history. -/
theorem tells_nil (h : before.history = .blank) : before.Tells k [] before where
  group := rfl
  slot j := by
    rw [h, History.slot_blank]
    constructor
    · intro hfalse
      cases hfalse
    · rintro ⟨-, interval, hinterval, hpacket⟩
      obtain rfl : interval = [] := by
        cases j with
        | zero => exact (Option.some.inj hinterval).symm
        | succ j => cases hinterval
      cases hpacket
  spin := by
    show before.spin = before.spin + (0 : Nat)
    omega

/-- **A packet of another session, or a screen drawn anew, changes nothing.** -/
theorem Tells.other (h : s.Tells k log before) {happening : Happening}
    (htick : happening ≠ .tick) (hpacket : happening ≠ .packet k) :
    s.Tells k (happening :: log) before where
  group := h.group
  slot j := by
    rw [intervals_cons htick, exists_packet_modifyHead hpacket]
    exact h.slot j
  spin := by
    rw [intervals_cons htick, List.tail_modifyHead]
    exact h.spin

/-- **A packet counts in its interval**, as often as there are more of them. -/
theorem Tells.packet (h : s.Tells k log before) {s' : Session} (hgroup : s'.group = s.group)
    (hhistory : s'.history = s.history.mark) (hspin : s'.spin = s.spin) :
    s'.Tells k (.packet k :: log) before where
  group := hgroup.trans h.group
  slot j := by
    rw [intervals_cons (by simp), hhistory, History.slot_mark, Bool.or_eq_true, h.slot j]
    cases hpast : intervals log with
    | nil => exact absurd hpast (intervals_ne_nil log)
    | cons now past =>
        cases j with
        | zero => simp [History.slots]
        | succ j => simp
  spin := by
    rw [intervals_cons (by simp), List.tail_modifyHead, hspin]
    exact h.spin

/-- **A tick opens an interval**, and turns the spinner if there was a packet in the last one. -/
theorem Tells.tick (h : s.Tells k log before) : s.turn.age.Tells k (.tick :: log) before where
  group := by
    rw [← h.group]
    unfold turn
    split <;> rfl
  slot j := by
    have hhistory : s.turn.age.history = s.history.age := by
      unfold turn
      split <;> rfl
    rw [hhistory, History.slot_age, intervals_tick, Bool.and_eq_true, decide_eq_true_eq, h.slot]
    cases j with
    | zero => simp
    | succ j =>
        rw [Nat.add_sub_cancel, List.getElem?_cons_succ]
        constructor
        · rintro ⟨⟨-, hlt⟩, -, hpacket⟩
          exact ⟨hlt, hpacket⟩
        · rintro ⟨hlt, hpacket⟩
          exact ⟨⟨Nat.succ_pos j, hlt⟩, by omega, hpacket⟩
  spin := by
    rw [intervals_tick, List.tail_cons]
    have hspin := h.spin
    have hactive := h.slot 0
    cases hpast : intervals log with
    | nil => exact absurd hpast (intervals_ne_nil log)
    | cons now past =>
        rw [hpast, List.tail_cons] at hspin
        rw [hpast, List.getElem?_cons_zero] at hactive
        rw [List.countP_cons]
        show s.turn.spin = _
        unfold turn
        -- The interval that was not shown yet is over now, and may have had a packet.
        by_cases hnow : .packet k ∈ now
        · have hbusy : s.active = true := hactive.2 ⟨by decide, now, rfl, hnow⟩
          rw [if_pos hbusy, if_pos (decide_eq_true hnow)]
          show s.spin + 1 = _
          rw [hspin]
          push_cast
          omega
        · have hidle : ¬s.active = true := by
            intro hbusy
            obtain ⟨-, interval, hinterval, hpacket⟩ := hactive.1 hbusy
            cases hinterval
            exact hnow hpacket
          rw [if_neg hidle, if_neg (by simpa using hnow)]
          exact hspin

end Session

end Multicast
