/-!
# `Multicast.History` — activity over the last ticks

A history holds one mark per tick of the display for the last 1024 ticks. The newest slot belongs to
the tick that has not been shown yet; marking it twice is the same as marking it once.

## Contents
- **Slots.** `History`, `History.slot` counted back from the newest, `blank`, `mark`, `age`,
  `active`.
- **Windows.** `History.window`: the newest slots as text, the oldest of them first.
-/

namespace Multicast

/-- One activity mark for each of the last 1024 ticks; bit `k` is the slot `k` ticks back. -/
structure History where
  marks : BitVec 1024
deriving Repr, DecidableEq

namespace History

/-- The number of slots. -/
def slots : Nat := 1024

/-- No activity at all. -/
def blank : History := ⟨0⟩

/-- Whether the slot `k` ticks back shows activity. -/
def slot (h : History) (k : Nat) : Bool := h.marks.getLsbD k

/-- Whether the newest slot shows activity. -/
def active (h : History) : Bool := h.slot 0

/-- Shows activity in the newest slot. -/
def mark (h : History) : History := ⟨h.marks ||| 1⟩

/-- Opens a blank newest slot; the oldest one is dropped. -/
def age (h : History) : History := ⟨h.marks <<< 1⟩

@[simp] theorem slot_blank (k : Nat) : blank.slot k = false := by simp [slot, blank]

@[simp] theorem slot_mark (h : History) (k : Nat) :
    h.mark.slot k = (decide (k = 0) || h.slot k) := by
  simp [slot, mark, Bool.or_comm]

@[simp] theorem slot_age (h : History) (k : Nat) :
    h.age.slot k = (decide (0 < k ∧ k < slots) && h.slot (k - 1)) := by
  cases k <;> simp [slot, age, slots]

/-- There is nothing behind the oldest slot. -/
theorem slot_of_le (h : History) {k : Nat} (hk : slots ≤ k) : h.slot k = false :=
  BitVec.getLsbD_of_ge h.marks k hk

/-- A history is its slots. -/
@[ext] theorem ext {g h : History} (eq : ∀ k < slots, g.slot k = h.slot k) : g = h := by
  cases g; cases h
  congr 1
  exact BitVec.eq_of_getLsbD_eq eq

/-- The character of a slot. -/
def glyph (active : Bool) : Char := if active then '.' else ' '

/-- The newest `n` slots, the oldest of them first. -/
def window (h : History) (n : Nat) : List Char :=
  (List.range n).reverse.map fun k => glyph (h.slot k)

@[simp] theorem length_window (h : History) (n : Nat) : (h.window n).length = n := by simp [window]

end History

end Multicast
