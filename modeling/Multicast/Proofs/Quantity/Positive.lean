import Multicast.Seconds

/-!
# `Proofs.Quantity.Positive` — rounding leaves a period above zero

A period of milliseconds is rounded twice before it is waited for. However small it is next to the
numbers that it is computed from, rounding keeps it above zero, so that neither a pause nor the timer
is ever given nothing to wait for, or less.

## Contents
- **Signs.** `Quantity.Positive` and `Quantity.NonNegative`.
- **Rounding.** `Fraction.units_nearest_pos`: the fraction nearest to a positive quotient is above
  zero, unless the quotient is below the smallest of all fractions.
- **Periods.** `Seconds.positive_of_ofMillis?`.
-/

namespace Multicast

/-! ## Signs -/

namespace Quantity

/-- A finite number above zero. -/
def Positive : Quantity → Prop
  | finite x => x.negative = false ∧ 0 < x.units
  | _ => False

/-- A finite number that is not below zero. -/
def NonNegative : Quantity → Prop
  | finite x => x.negative = false ∨ x.units = 0
  | _ => False

theorem Positive.nonNegative {q : Quantity} (h : q.Positive) : q.NonNegative := by
  cases q with
  | finite x => exact Or.inl h.1
  | infinite | undefined => exact h

end Quantity

/-! ## Rounding -/

/-- A quotient of one or more is not rounded to zero. -/
theorem roundQuotient_pos {n d : Nat} (hd : 0 < d) (h : d ≤ n) : 0 < roundQuotient n d := by
  refine Nat.pos_of_ne_zero fun hzero => ?_
  have hnear := (roundQuotient_near n hd).2
  rw [hzero] at hnear
  omega

namespace Fraction

/-- The exponent brings the leading bits of numerator and denominator 52 or 53 places apart, unless
    the largest scale is reached. -/
theorem exponent_bounds (n d : Nat) :
    exponent n d ≤ 53 - ((n.log2 : Int) - d.log2) ∧
      (exponent n d = maxScale ∨ 52 - ((n.log2 : Int) - d.log2) ≤ exponent n d) := by
  have hscale : (maxScale : Int) = 1074 := rfl
  simp only [exponent]
  split <;> split <;> omega

/-- **What is rounded to the nearest fraction stays above zero**, if it is not below the smallest
    one. -/
theorem units_nearest_pos (negative : Bool) {n d : Nat} (hn : 0 < n) (hd : 0 < d)
    (h : d ≤ n * 2 ^ maxScale) : 0 < (nearest negative n d).units := by
  obtain ⟨-, hexponent⟩ := exponent_bounds n d
  have hlow : 2 ^ n.log2 ≤ n := Nat.log2_self_le (by omega)
  have hhigh : d < 2 ^ (d.log2 + 1) := Nat.lt_log2_self
  simp only [nearest]
  by_cases hsign : 0 ≤ exponent n d
  · rw [if_pos hsign]
    refine roundQuotient_pos hd ?_
    rcases hexponent with hmax | hexponent
    · rwa [hmax, Int.toNat_natCast]
    · calc d ≤ 2 ^ (d.log2 + 1) := Nat.le_of_lt hhigh
        _ ≤ 2 ^ (n.log2 + (exponent n d).toNat) := Nat.pow_le_pow_right (by decide) (by omega)
        _ = 2 ^ n.log2 * 2 ^ (exponent n d).toNat := Nat.pow_add ..
        _ ≤ n * 2 ^ (exponent n d).toNat := Nat.mul_le_mul_right _ hlow
  · rw [if_neg hsign]
    have hmax : exponent n d ≠ maxScale := by
      intro hmax
      rw [hmax] at hsign
      omega
    have hshift := hexponent.resolve_left hmax
    have hle : d * 2 ^ (-exponent n d).toNat ≤ n := by
      calc d * 2 ^ (-exponent n d).toNat
          ≤ 2 ^ (d.log2 + 1) * 2 ^ (-exponent n d).toNat :=
            Nat.mul_le_mul_right _ (Nat.le_of_lt hhigh)
        _ = 2 ^ (d.log2 + 1 + (-exponent n d).toNat) := (Nat.pow_add ..).symm
        _ ≤ 2 ^ n.log2 := Nat.pow_le_pow_right (by decide) (by omega)
        _ ≤ n := hlow
    have hpos : 0 < 2 ^ (-exponent n d).toNat := Nat.two_pow_pos _
    exact Nat.mul_pos (roundQuotient_pos (Nat.mul_pos hd hpos) hle) hpos

/-- A fraction that is found for a quotient is the nearest one. -/
theorem eq_nearest_of_ofRatio? {negative : Bool} {n d : Nat} {x : Fraction} (hn : 0 < n)
    (h : ofRatio? negative n d = some x) : x = nearest negative n d := by
  simp only [ofRatio?] at h
  rw [if_neg (by omega)] at h
  split at h
  · exact (Option.some.inj h).symm
  · cases h

theorem negative_nearest (negative : Bool) (n d : Nat) :
    (nearest negative n d).negative = negative := by
  simp only [nearest]
  split
  · rfl
  · rfl

/-- A whole number takes no more places than a fraction has bits. -/
theorem scale_nearest_one_le (negative : Bool) (n : Nat) : (nearest negative n 1).scale ≤ 53 := by
  have hexponent := (exponent_bounds n 1).1
  have hone : Nat.log2 1 = 0 := by decide
  simp only [nearest]
  split
  · dsimp only
    omega
  · exact Nat.zero_le _

end Fraction

/-! ## Periods -/

/-- **A period of one millisecond or more is a positive number of seconds.** -/
theorem Seconds.positive_of_ofMillis? {ms : Int} {period : Seconds} (hms : 1 ≤ ms)
    (h : Seconds.ofMillis? ms = some period) : ∃ q : Quantity, period = .span q ∧ q.Positive := by
  simp only [Seconds.ofMillis?, Option.bind_eq_bind, Option.bind_eq_some_iff] at h
  obtain ⟨whole, hwhole, x, hx, hperiod⟩ := h
  have habs : 0 < ms.natAbs := by omega
  obtain rfl := Fraction.eq_nearest_of_ofRatio? habs hwhole
  have hsign : decide (ms < 0) = false := decide_eq_false (by omega)
  have hunits := Fraction.units_nearest_pos (decide (ms < 0)) habs Nat.one_pos
    (Nat.mul_pos habs (Nat.two_pow_pos _))
  obtain rfl := Fraction.eq_nearest_of_ofRatio? hunits hx
  refine ⟨.finite _, (Option.some.inj hperiod).symm, ?_, ?_⟩
  · rw [Fraction.negative_nearest, Fraction.negative_nearest, hsign]
  · refine Fraction.units_nearest_pos _ hunits (Nat.mul_pos (by decide) (Nat.two_pow_pos _)) ?_
    -- A thousandth is far above the smallest fraction.
    calc 1000 * 2 ^ (Fraction.nearest (decide (ms < 0)) ms.natAbs 1).scale
        ≤ 1000 * 2 ^ 53 := Nat.mul_le_mul_left _
          (Nat.pow_le_pow_right (by decide) (Fraction.scale_nearest_one_le _ _))
      _ ≤ 2 ^ 10 * 2 ^ 53 := Nat.mul_le_mul_right _ (by decide)
      _ = 2 ^ 63 := (Nat.pow_add 2 10 53).symm
      _ ≤ 2 ^ Fraction.maxScale := Nat.pow_le_pow_right (by decide) (by decide)
      _ ≤ _ := Nat.le_mul_of_pos_left _ hunits

end Multicast
