import Multicast.Bits

/-!
# `Multicast.Fraction` — binary fractions

Numbers that need not be whole are kept as binary fractions of at most 53 significant bits, in
steps of at least `2 ^ -1074`: the one nearest to the number asked for. All arithmetic is exact on
integers. Zero has a sign like any other fraction.

## Contents
- **Rounding.** `roundQuotient`: the nearest integer to a quotient, ties to the even one
  (`roundQuotient_near`, `roundQuotient_tie`).
- **Fractions.** `Fraction`, with `Fraction.truncated`, `Fraction.outward` and `Fraction.ceiling` for
  whole numbers next to it, and `Fraction.sameSize`.
- **Nearest fractions.** `Fraction.ofRatio?`, `Fraction.ofInt?`, `Fraction.ofDecimal?` and
  `Fraction.times?`, which give none for numbers from `2 ^ 1024` on.
-/

namespace Multicast

/-! ## Rounding -/

/-- The integer nearest to `n / d`; of two equally near ones the even one. -/
def roundQuotient (n d : Nat) : Nat :=
  let q := n / d
  let r := n % d
  if 2 * r < d ∨ (2 * r = d ∧ q % 2 = 0) then q else q + 1

/-- The nearest integer is at most half a unit off. -/
theorem roundQuotient_near (n : Nat) {d : Nat} (hd : 0 < d) :
    2 * (d * roundQuotient n d) ≤ 2 * n + d ∧ 2 * n ≤ 2 * (d * roundQuotient n d) + d := by
  have hn := Nat.div_add_mod n d
  have hr := Nat.mod_lt n hd
  simp only [roundQuotient]
  split
  · omega
  · rw [Nat.mul_add, Nat.mul_one]
    omega

/-- Of two integers that are equally near, the even one is taken. -/
theorem roundQuotient_tie (n : Nat) {d : Nat} (h : 2 * (n % d) = d) :
    roundQuotient n d % 2 = 0 := by
  unfold roundQuotient
  grind

/-! ## Fractions -/

/-- The number `units / 2 ^ scale`, or its opposite. -/
structure Fraction where
  negative : Bool := false
  units : Nat
  scale : Nat
deriving Repr, DecidableEq

namespace Fraction

/-- A natural number. -/
def ofNat (n : Nat) : Fraction := ⟨false, n, 0⟩

/-- The whole number next to the fraction on the side of zero. -/
def truncated (x : Fraction) : Int :=
  let n : Int := (x.units / 2 ^ x.scale : Nat)
  if x.negative then -n else n

/-- The whole number next to the fraction on the side away from zero. -/
def outward (x : Fraction) : Int :=
  let n : Int := ((x.units + 2 ^ x.scale - 1) / 2 ^ x.scale : Nat)
  if x.negative then -n else n

/-- The least whole number that is not below the fraction. -/
def ceiling (x : Fraction) : Int := if x.negative then x.truncated else x.outward

/-- Whether two fractions are the same but for their signs. -/
def sameSize (x y : Fraction) : Bool := x.units * 2 ^ y.scale == y.units * 2 ^ x.scale

/-! ## Nearest fractions -/

/-- The largest scale of a fraction. -/
def maxScale : Nat := 1074

/-- The exponent that brings `n / d` to 53 bits before the point, `2 ^ 52 ≤ n / d * 2 ^ e < 2 ^ 53`,
or the largest scale if that is less. -/
def exponent (n d : Nat) : Int :=
  let e : Int := 52 - ((n.log2 : Int) - d.log2)
  let small := if 0 ≤ e then n * 2 ^ e.toNat < 2 ^ 52 * d else n < 2 ^ 52 * d * 2 ^ (-e).toNat
  min (if small then e + 1 else e) maxScale

/-- The fraction nearest to the quotient `n / d`, or to its opposite, for positive `n` and `d`. -/
def nearest (negative : Bool) (n d : Nat) : Fraction :=
  let e := exponent n d
  if 0 ≤ e then ⟨negative, roundQuotient (n * 2 ^ e.toNat) d, e.toNat⟩
  else ⟨negative, roundQuotient n (d * 2 ^ (-e).toNat) * 2 ^ (-e).toNat, 0⟩

/-- The fraction nearest to `n / d`, or to its opposite, if it stays below `2 ^ 1024`. -/
def ofRatio? (negative : Bool) (n d : Nat) : Option Fraction :=
  if n = 0 then some ⟨negative, 0, 0⟩
  else
    let x := nearest negative n d
    if x.units < 2 ^ (1024 + x.scale) then some x else none

/-- The fraction nearest to a whole number. -/
def ofInt? (n : Int) : Option Fraction := ofRatio? (n < 0) n.natAbs 1

/-- The fraction nearest to `digits * 10 ^ power`, or to its opposite. -/
def ofDecimal? (negative : Bool) (digits : Nat) (power : Int) : Option Fraction :=
  ofRatio? negative (digits * 10 ^ power.toNat) (10 ^ (-power).toNat)

/-- The fraction nearest to the product of two. -/
def times? (x y : Fraction) : Option Fraction :=
  ofRatio? (x.negative != y.negative) (x.units * y.units) (2 ^ (x.scale + y.scale))

end Fraction

end Multicast
