/-!
# `Multicast.Bits` — numbers that fit a field

Positions, sizes and dates are kept in fields of a fixed number of bits, with or without a sign. A
number that does not fit its field is refused where it is used; it is never cut.

## Contents
- **Powers and sums.** `corePow` and `numeralZero`, so that both mean the same in all modules.
- **Fields.** `fitsSigned` and `fitsUnsigned`.
-/

namespace Multicast

/-! ## Powers and sums -/

/-- Powers of numbers are the core library's, whatever other ones a module sees. -/
@[default_instance high+1]
instance (priority := high) corePow {α : Type} [NatPow α] : Pow α Nat := instPowNat

/-- Sums start from the numeral, whatever other zeros a module sees. -/
instance (priority := high) numeralZero : Zero Nat := Zero.ofOfNat0

/-! ## Fields -/

/-- Whether a number fits a field of some bits, one of which is the sign. -/
def fitsSigned (bits : Nat) (n : Int) : Bool :=
  decide (-(2 ^ (bits - 1)) ≤ n ∧ n < 2 ^ (bits - 1))

/-- Whether a number fits a field of some bits without a sign. -/
def fitsUnsigned (bits : Nat) (n : Int) : Bool := decide (0 ≤ n ∧ n < 2 ^ bits)

@[simp] theorem fitsSigned_iff {bits : Nat} {n : Int} :
    fitsSigned bits n = true ↔ -(2 ^ (bits - 1)) ≤ n ∧ n < 2 ^ (bits - 1) := by
  simp [fitsSigned]

@[simp] theorem fitsUnsigned_iff {bits : Nat} {n : Int} :
    fitsUnsigned bits n = true ↔ 0 ≤ n ∧ n < 2 ^ bits := by
  simp [fitsUnsigned]

end Multicast
