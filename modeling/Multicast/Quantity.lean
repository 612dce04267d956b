import Multicast.Decimal

/-!
# `Multicast.Quantity` — fractions and what lies beyond them

A number that is too large for a fraction is infinite, and a number can be undefined. Neither has
digits: a word stands in their place.

## Contents
- **Quantities.** `Quantity`, with `Quantity.ofDecimal` and `Quantity.times`.
- **Texts.** `Quantity.fixed` and `Quantity.plain`, as for fractions.
-/

namespace Multicast

/-! ## Quantities -/

/-- A number that need not be a fraction. -/
inductive Quantity where
  | finite (x : Fraction)
  | infinite (negative : Bool)
  | undefined
deriving Repr, DecidableEq

namespace Quantity

/-- A natural number. -/
def ofNat (n : Nat) : Quantity := finite (.ofNat n)

/-- The number nearest to `digits * 10 ^ power`, or to its opposite. -/
def ofDecimal (negative : Bool) (digits : Nat) (power : Int) : Quantity :=
  match Fraction.ofDecimal? negative digits power with
  | some x => finite x
  | none => infinite negative

/-- The product with a fraction above zero, rounded. -/
def times (q : Quantity) (y : Fraction) : Quantity :=
  match q with
  | finite x =>
    match x.times? y with
    | some z => finite z
    | none => infinite x.negative
  | q => q

/-- The whole number next to the quantity on the side of zero. -/
def truncated? : Quantity → Option Int
  | finite x => some x.truncated
  | _ => none

/-! ## Texts -/

/-- The word for a number that is infinite, but for its sign. -/
def infinity : String := "inf"

/-- The word for a number that is undefined. -/
def noNumber : String := "nan"

/-- The text in a form for fractions. -/
def textAs (form : Fraction → String) : Quantity → String
  | finite x => form x
  | infinite negative => if negative then "-" ++ infinity else infinity
  | undefined => noNumber

/-- The text with a number of places. -/
def fixed (places : Nat) : Quantity → String := textAs (Fraction.fixed places)

/-- The text with the fewest digits. -/
def plain : Quantity → String := textAs Fraction.plain

end Quantity

end Multicast
