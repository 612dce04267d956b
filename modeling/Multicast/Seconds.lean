import Multicast.Quantity

/-!
# `Multicast.Seconds` — spans of time

Periods and pauses are numbers of seconds, which is what the timer and the waits are given; they are
shown with a fixed number of places.

## Contents
- `Seconds`, with `Seconds.ofNat`, `Seconds.ofInt` and `Seconds.ofMillis?`.
-/

namespace Multicast

/-- A span of time in seconds. -/
inductive Seconds where
  | span (q : Quantity)
  /-- A whole number that no fraction comes near to. It can be asked for, but not waited for. -/
  | excessive
deriving Repr, DecidableEq

namespace Seconds

/-- A natural number of seconds below `2 ^ 53`. -/
def ofNat (n : Nat) : Seconds := span (.ofNat n)

/-- A whole number of seconds. -/
def ofInt (n : Int) : Seconds :=
  match Fraction.ofInt? n with
  | some x => span (.finite x)
  | none => excessive

/-- A number of milliseconds, rounded once as a number and once more as a thousandth. -/
def ofMillis? (ms : Int) : Option Seconds := do
  let whole ← Fraction.ofInt? ms
  let x ← Fraction.ofRatio? whole.negative whole.units (1000 * 2 ^ whole.scale)
  some (span (.finite x))

end Seconds

end Multicast
