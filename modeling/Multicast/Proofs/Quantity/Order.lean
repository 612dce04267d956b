import Mathlib.Algebra.Order.Floor.Div
import Mathlib.Data.Rat.Cast.Order
import Mathlib.Tactic.Linarith
import Mathlib.Tactic.Ring
import Multicast.Host.Range
import Multicast.Proofs.Quantity.Positive

/-!
# `Proofs.Quantity.Order` — rounding keeps the order of periods

A period is rounded each time it is computed with: from milliseconds to seconds, and from seconds to
the milliseconds and nanoseconds that a call counts in. Each time it is rounded to a nearest fraction,
and nearest fractions are in the order of the numbers that they are nearest to. A call that takes a
period therefore takes all shorter ones, so that its range is known from its end.

## Contents
- **Rounding.** `roundQuotient_mono`.
- **Exponents.** `Fraction.scaled`, a quotient at an exponent, with `Fraction.scaled_exponent_lt` and
  `Fraction.le_scaled_exponent`; `Fraction.exponent_anti`.
- **Nearest fractions.** `Fraction.Within`, the order of sizes; `Fraction.nearest_within`, and with it
  `Fraction.exists_ofRatio?_within`, `Fraction.exists_times?_within` and `Fraction.outward_mono`.
- **Calls.** `Quantity.sleep_of_within`, `Quantity.timer_of_within` and `Quantity.timeout_of_within`.
- **Periods.** `Seconds.exists_ofMillis?_within`; `Seconds.calls_take_period` and
  `Seconds.select_takes_period_iff`.
-/

namespace Multicast

/-! ## Rounding -/

/-- Half a unit is left of a number in the middle between two multiples. -/
theorem two_mul_mod_eq {n d q : Nat} (hd : 0 < d) (h : 2 * n = 2 * (d * q) + d) : 2 * (n % d) = d := by
  have hquotient : n / d = q := by
    refine Nat.div_eq_of_lt_le ?_ ?_
    · rw [Nat.mul_comm]
      omega
    · rw [Nat.succ_mul, Nat.mul_comm]
      omega
  have hn := Nat.div_add_mod n d
  rw [hquotient] at hn
  omega

/-- **Rounding keeps the order of quotients**, also at ties, since these all go to the even side. -/
theorem roundQuotient_mono {n d n' d' : Nat} (hd : 0 < d) (hd' : 0 < d') (h : n * d' ≤ n' * d) :
    roundQuotient n d ≤ roundQuotient n' d' := by
  by_contra hlt
  have hsucc : roundQuotient n' d' + 1 ≤ roundQuotient n d := by omega
  obtain ⟨habove, -⟩ := roundQuotient_near n hd
  obtain ⟨-, hbelow⟩ := roundQuotient_near n' hd'
  have hstep := Nat.mul_le_mul_left d hsucc
  rw [Nat.mul_add, Nat.mul_one] at hstep
  -- Both quotients are squeezed into the middle between two whole numbers.
  have hleft : 2 * (d * roundQuotient n' d') + d ≤ 2 * n := by omega
  have hmiddle : (2 * (d * roundQuotient n' d') + d) * d' =
      (2 * (d' * roundQuotient n' d') + d') * d := by ring
  have hchain : 2 * n * d' ≤ 2 * n' * d := by
    rw [Nat.mul_assoc, Nat.mul_assoc]
    omega
  have hn : 2 * n = 2 * (d * roundQuotient n' d') + d := by
    refine Nat.le_antisymm (Nat.le_of_mul_le_mul_right ?_ hd') hleft
    exact hchain.trans ((Nat.mul_le_mul_right d hbelow).trans hmiddle.ge)
  have hn' : 2 * n' = 2 * (d' * roundQuotient n' d') + d' := by
    refine Nat.le_antisymm hbelow (Nat.le_of_mul_le_mul_right ?_ hd)
    exact hmiddle.ge.trans ((Nat.mul_le_mul_right d' hleft).trans hchain)
  have heven := roundQuotient_tie n (two_mul_mod_eq hd hn)
  have heven' := roundQuotient_tie n' (two_mul_mod_eq hd' hn')
  have hle : roundQuotient n d ≤ roundQuotient n' d' + 1 := by
    refine Nat.le_of_mul_le_mul_left ?_ hd
    rw [Nat.mul_add, Nat.mul_one]
    omega
  omega

@[simp] theorem roundQuotient_one (q : Nat) : roundQuotient q 1 = q := by
  simp [roundQuotient, Nat.mod_one]

namespace Fraction

variable {n d n' d' : Nat}

/-! ## Exponents -/

/-- The quotient `n / d`, brought to an exponent. -/
def scaled (n d : Nat) (e : Int) : ℚ := n / d * 2 ^ e

/-- The same without negative exponents. -/
theorem scaled_eq (n d : Nat) (e : Int) :
    scaled n d e = (n * 2 ^ e.toNat : Nat) / (d * 2 ^ (-e).toNat : Nat) := by
  obtain ⟨k, rfl | rfl⟩ := Int.eq_nat_or_neg e
  · simp [scaled, div_mul_eq_mul_div]
  · simp [scaled, div_eq_mul_inv, mul_assoc, mul_comm]

theorem scaled_add_one (n d : Nat) (e : Int) : scaled n d (e + 1) = 2 * scaled n d e := by
  rw [scaled, scaled, zpow_add_one₀ two_ne_zero]
  ring

theorem scaled_mono {e f : Int} (h : e ≤ f) : scaled n d e ≤ scaled n d f :=
  mul_le_mul_of_nonneg_left (zpow_le_zpow_right₀ one_le_two h)
    (div_nonneg (Nat.cast_nonneg n) (Nat.cast_nonneg d))

/-- The numbers of bits of numerator and denominator tell how large a quotient is, up to a bit on
    both sides. -/
theorem scaled_log2 (hn : 0 < n) (hd : 0 < d) :
    2 ^ 51 ≤ scaled n d (52 - ((n.log2 : Int) - d.log2)) ∧
      scaled n d (52 - ((n.log2 : Int) - d.log2)) < 2 ^ 53 := by
  have hn₀ : (0 : ℚ) < n := Nat.cast_pos.2 hn
  have hd₀ : (0 : ℚ) < d := Nat.cast_pos.2 hd
  have hpow : (2 : ℚ) ^ (52 - ((n.log2 : Int) - d.log2)) = 2 ^ 52 * 2 ^ d.log2 / 2 ^ n.log2 := by
    rw [show (52 - ((n.log2 : Int) - d.log2) : Int) = ((52 + d.log2 : Nat) : Int) - n.log2 by
      push_cast; ring, zpow_sub₀ two_ne_zero, zpow_natCast, zpow_natCast, pow_add]
  have hnlow : (2 : ℚ) ^ n.log2 ≤ n := by exact_mod_cast Nat.log2_self_le hn.ne'
  have hnhigh : (n : ℚ) < 2 ^ n.log2 * 2 := by exact_mod_cast Nat.lt_log2_self (n := n)
  have hdlow : (2 : ℚ) ^ d.log2 ≤ d := by exact_mod_cast Nat.log2_self_le hd.ne'
  have hdhigh : (d : ℚ) < 2 ^ d.log2 * 2 := by exact_mod_cast Nat.lt_log2_self (n := d)
  have hunit : (0 : ℚ) < 2 ^ n.log2 := by positivity
  rw [scaled, hpow, div_mul_div_comm]
  constructor
  · rw [le_div_iff₀ (mul_pos hd₀ hunit)]
    nlinarith
  · rw [div_lt_iff₀ (mul_pos hd₀ hunit)]
    nlinarith

/-- Whether a quotient has to be brought up by one more bit. -/
theorem small_iff (hd : 0 < d) (e : Int) :
    (if 0 ≤ e then n * 2 ^ e.toNat < 2 ^ 52 * d else n < 2 ^ 52 * d * 2 ^ (-e).toNat) ↔
      scaled n d e < 2 ^ 52 := by
  have hpos : (0 : ℚ) < (d * 2 ^ (-e).toNat : Nat) :=
    Nat.cast_pos.2 (Nat.mul_pos hd (Nat.two_pow_pos _))
  rw [scaled_eq, div_lt_iff₀ hpos]
  norm_cast
  split
  · rename_i he
    rw [show (-e).toNat = 0 by omega, Nat.pow_zero, Nat.mul_one]
  · rename_i he
    rw [show e.toNat = 0 by omega, Nat.pow_zero, Nat.mul_one, Nat.mul_assoc]

theorem exponent_eq (hd : 0 < d) :
    exponent n d = min (if scaled n d (52 - ((n.log2 : Int) - d.log2)) < 2 ^ 52
      then 52 - ((n.log2 : Int) - d.log2) + 1 else 52 - ((n.log2 : Int) - d.log2)) maxScale :=
  congrArg (min · _) (if_congr (small_iff hd _) rfl rfl)

theorem exponent_le_maxScale (n d : Nat) : exponent n d ≤ maxScale := by
  simp only [exponent]
  exact min_le_right _ _

/-- A quotient is brought to less than `2 ^ 53`, -/
theorem scaled_exponent_lt (hn : 0 < n) (hd : 0 < d) : scaled n d (exponent n d) < 2 ^ 53 := by
  rw [exponent_eq hd]
  refine (scaled_mono (min_le_left _ _)).trans_lt ?_
  split
  · rw [scaled_add_one]
    linarith
  · exact (scaled_log2 hn hd).2

/-- and to at least `2 ^ 52`, unless the largest scale is reached. -/
theorem le_scaled_exponent (hn : 0 < n) (hd : 0 < d) (h : exponent n d ≠ maxScale) :
    2 ^ 52 ≤ scaled n d (exponent n d) := by
  rw [exponent_eq hd] at h ⊢
  rw [min_eq_left (by omega)]
  split
  · rw [scaled_add_one]
    linarith [(scaled_log2 hn hd).1]
  · linarith

/-- A larger quotient is brought to a smaller exponent. -/
theorem exponent_anti (hn : 0 < n) (hd : 0 < d) (hn' : 0 < n') (hd' : 0 < d')
    (h : n * d' ≤ n' * d) : exponent n' d' ≤ exponent n d := by
  by_contra hlt
  have hscale := exponent_le_maxScale n' d'
  have hlow := le_scaled_exponent hn hd (by omega)
  have hhigh := scaled_exponent_lt hn' hd'
  have hstep : scaled n d (exponent n d + 1) ≤ scaled n d (exponent n' d') := scaled_mono (by omega)
  have hquotient : scaled n d (exponent n' d') ≤ scaled n' d' (exponent n' d') := by
    refine mul_le_mul_of_nonneg_right ?_ (zpow_nonneg two_pos.le _)
    rw [div_le_div_iff₀ (Nat.cast_pos.2 hd) (Nat.cast_pos.2 hd')]
    exact_mod_cast h
  rw [scaled_add_one] at hstep
  linarith

/-! ## Nearest fractions -/

/-- A fraction is no larger than another, whatever their signs. -/
def Within (x y : Fraction) : Prop := x.units * 2 ^ y.scale ≤ y.units * 2 ^ x.scale

/-- The units of the nearest fraction at an exponent. -/
def unitsAt (n d : Nat) (e : Int) : Nat := roundQuotient (n * 2 ^ e.toNat) (d * 2 ^ (-e).toNat)

theorem nearest_eq (negative : Bool) (n d : Nat) :
    nearest negative n d =
      ⟨negative, unitsAt n d (exponent n d) * 2 ^ (-exponent n d).toNat, (exponent n d).toNat⟩ := by
  simp only [nearest, unitsAt]
  split
  · rename_i he
    rw [show (-exponent n d).toNat = 0 by omega, Nat.pow_zero, Nat.mul_one, Nat.mul_one]
  · rename_i he
    rw [show (exponent n d).toNat = 0 by omega, Nat.pow_zero, Nat.mul_one]

/-- At one exponent, units are in the order of the quotients. -/
theorem unitsAt_mono (hd : 0 < d) (hd' : 0 < d') (h : n * d' ≤ n' * d) (e : Int) :
    unitsAt n d e ≤ unitsAt n' d' e := by
  refine roundQuotient_mono (by positivity) (by positivity) ?_
  calc n * 2 ^ e.toNat * (d' * 2 ^ (-e).toNat)
      = n * d' * (2 ^ e.toNat * 2 ^ (-e).toNat) := by ring
    _ ≤ n' * d * (2 ^ e.toNat * 2 ^ (-e).toNat) := Nat.mul_le_mul_right _ h
    _ = n' * 2 ^ e.toNat * (d * 2 ^ (-e).toNat) := by ring

/-- There are at most `2 ^ 53` units, -/
theorem unitsAt_exponent_le (hn : 0 < n) (hd : 0 < d) : unitsAt n d (exponent n d) ≤ 2 ^ 53 := by
  have hpos : 0 < d * 2 ^ (-exponent n d).toNat := by positivity
  have hlt := scaled_exponent_lt hn hd
  rw [scaled_eq, div_lt_iff₀ (Nat.cast_pos.2 hpos)] at hlt
  rw [← roundQuotient_one (2 ^ 53)]
  refine roundQuotient_mono hpos Nat.one_pos ?_
  rw [Nat.mul_one]
  exact_mod_cast hlt.le

/-- and at least `2 ^ 52`, unless the largest scale is reached. -/
theorem le_unitsAt_exponent (hn : 0 < n) (hd : 0 < d) (h : exponent n d ≠ maxScale) :
    2 ^ 52 ≤ unitsAt n d (exponent n d) := by
  have hpos : 0 < d * 2 ^ (-exponent n d).toNat := by positivity
  have hle := le_scaled_exponent hn hd h
  rw [scaled_eq, le_div_iff₀ (Nat.cast_pos.2 hpos)] at hle
  rw [← roundQuotient_one (2 ^ 52)]
  refine roundQuotient_mono Nat.one_pos hpos ?_
  rw [Nat.mul_one]
  exact_mod_cast hle

/-- **Nearest fractions are in the order of the quotients.** -/
theorem nearest_within (negative negative' : Bool) (hn : 0 < n) (hd : 0 < d) (hn' : 0 < n')
    (hd' : 0 < d') (h : n * d' ≤ n' * d) :
    Within (nearest negative n d) (nearest negative' n' d') := by
  have hexponent := exponent_anti hn hd hn' hd' h
  rw [nearest_eq, nearest_eq]
  unfold Within
  dsimp only
  rcases hexponent.eq_or_lt with heq | hlt
  · rw [heq, Nat.mul_assoc, Nat.mul_assoc]
    exact Nat.mul_le_mul_right _ (unitsAt_mono hd hd' h _)
  · -- The powers of two between the exponents make up for the units.
    have hscale := exponent_le_maxScale n d
    generalize hf : exponent n' d' = f at hlt
    calc unitsAt n d (exponent n d) * 2 ^ (-exponent n d).toNat * 2 ^ f.toNat
        ≤ 2 ^ 53 * 2 ^ (-exponent n d).toNat * 2 ^ f.toNat := by
          gcongr
          exact unitsAt_exponent_le hn hd
      _ = 2 ^ (53 + (-exponent n d).toNat + f.toNat) := by rw [Nat.pow_add, Nat.pow_add]
      _ ≤ 2 ^ (52 + (-f).toNat + (exponent n d).toNat) :=
          Nat.pow_le_pow_right (by decide) (by omega)
      _ = 2 ^ 52 * 2 ^ (-f).toNat * 2 ^ (exponent n d).toNat := by rw [Nat.pow_add, Nat.pow_add]
      _ ≤ unitsAt n' d' f * 2 ^ (-f).toNat * 2 ^ (exponent n d).toNat := by
          gcongr
          rw [← hf]
          exact le_unitsAt_exponent hn' hd' (by omega)

theorem negative_of_ofRatio? {negative : Bool} {x : Fraction} (h : ofRatio? negative n d = some x) :
    x.negative = negative := by
  rcases Nat.eq_zero_or_pos n with rfl | hn
  · rw [← Option.some.inj h]
  · rw [eq_nearest_of_ofRatio? hn h, negative_nearest]

/-- A quotient that is not larger has a nearest fraction as well. -/
theorem exists_ofRatio?_within {negative' : Bool} {y : Fraction} (hd : 0 < d) (hd' : 0 < d')
    (h : n * d' ≤ n' * d) (hy : ofRatio? negative' n' d' = some y) (negative : Bool) :
    ∃ x, ofRatio? negative n d = some x ∧ Within x y := by
  rcases Nat.eq_zero_or_pos n with rfl | hn
  · refine ⟨⟨negative, 0, 0⟩, rfl, ?_⟩
    rw [Within, Nat.zero_mul]
    exact Nat.zero_le _
  · have hn' : 0 < n' := Nat.pos_of_mul_pos_right ((Nat.mul_pos hn hd').trans_le h)
    have hwithin := nearest_within negative negative' hn hd hn' hd' h
    have hlimit : y.units < 2 ^ (1024 + y.scale) := by
      simp only [ofRatio?] at hy
      rw [if_neg hn'.ne'] at hy
      split at hy
      · rename_i hlimit
        rw [← Option.some.inj hy]
        exact hlimit
      · cases hy
    rw [← eq_nearest_of_ofRatio? hn' hy] at hwithin
    refine ⟨nearest negative n d, ?_, hwithin⟩
    simp only [ofRatio?]
    rw [if_neg hn.ne', if_pos]
    refine Nat.lt_of_mul_lt_mul_right (a := 2 ^ y.scale) ?_
    calc (nearest negative n d).units * 2 ^ y.scale
        ≤ y.units * 2 ^ (nearest negative n d).scale := hwithin
      _ < 2 ^ (1024 + y.scale) * 2 ^ (nearest negative n d).scale :=
          Nat.mul_lt_mul_of_pos_right hlimit (Nat.two_pow_pos _)
      _ = 2 ^ (1024 + (nearest negative n d).scale) * 2 ^ y.scale := by
          rw [← Nat.pow_add, ← Nat.pow_add, Nat.add_right_comm]

variable {x y z v : Fraction}

/-- Products are in the order of their first factors. -/
theorem exists_times?_within (h : Within x y) (hv : y.times? z = some v) :
    ∃ u, x.times? z = some u ∧ Within u v := by
  refine exists_ofRatio?_within (Nat.two_pow_pos _) (Nat.two_pow_pos _) ?_ hv _
  rw [Nat.pow_add, Nat.pow_add]
  calc x.units * z.units * (2 ^ y.scale * 2 ^ z.scale)
      = x.units * 2 ^ y.scale * (z.units * 2 ^ z.scale) := by ring
    _ ≤ y.units * 2 ^ x.scale * (z.units * 2 ^ z.scale) := Nat.mul_le_mul_right _ h
    _ = y.units * z.units * (2 ^ x.scale * 2 ^ z.scale) := by ring

/-- The whole numbers that fractions above zero are brought up to are in the order of the
    fractions. -/
theorem outward_mono (hx : x.negative = false) (hy : y.negative = false) (h : Within x y) :
    0 ≤ x.outward ∧ x.outward ≤ y.outward := by
  have hup : ∀ a b : Nat, (a + b - 1) / b = a ⌈/⌉ b := fun a b =>
    (Nat.ceilDiv_eq_add_pred_div a b).symm
  have hle : x.units ⌈/⌉ 2 ^ x.scale ≤ y.units ⌈/⌉ 2 ^ y.scale := by
    rw [ceilDiv_le_iff_le_smul (Nat.two_pow_pos _), smul_eq_mul]
    have hreach : y.units ≤ 2 ^ y.scale * (y.units ⌈/⌉ 2 ^ y.scale) :=
      le_smul_ceilDiv (Nat.two_pow_pos _)
    refine Nat.le_of_mul_le_mul_right (c := 2 ^ y.scale) ?_ (Nat.two_pow_pos _)
    calc x.units * 2 ^ y.scale ≤ y.units * 2 ^ x.scale := h
      _ ≤ 2 ^ y.scale * (y.units ⌈/⌉ 2 ^ y.scale) * 2 ^ x.scale := Nat.mul_le_mul_right _ hreach
      _ = 2 ^ x.scale * (y.units ⌈/⌉ 2 ^ y.scale) * 2 ^ y.scale := by ring
  simp only [outward, hx, hy, hup]
  exact ⟨Int.natCast_nonneg _, Int.ofNat_le.2 hle⟩

/-- Above zero, a number is brought up in either way of doing so. -/
theorem ceiling_of_not_negative (hx : x.negative = false) : x.ceiling = x.outward := by
  unfold ceiling
  rw [hx, if_neg Bool.false_ne_true]

theorem ofNat_within {m n : Nat} (h : m ≤ n) : Within (ofNat m) (ofNat n) := Nat.mul_le_mul_right _ h

theorem negative_ofNat (n : Nat) : (ofNat n).negative = false := rfl

end Fraction

namespace Quantity

open Fraction

/-! ## Calls -/

/-- A check that passed has not refused. -/
theorem not_of_check {p : Prop} [Decidable p] {e : Fault}
    (h : (if p then .error e else .ok ()) = (.ok () : Except Fault Unit)) : ¬p := by
  intro hp
  rw [if_pos hp] at h
  cases h

section

variable {x y : Fraction} (hx : x.negative = false) (hy : y.negative = false) (h : Within x y)
include hx hy h

theorem exists_times_within {z v : Fraction} (hz : z.negative = false)
    (hv : (finite y).times z = finite v) :
    ∃ u, (finite x).times z = finite u ∧ u.negative = false ∧ v.negative = false ∧ Within u v := by
  rw [times] at hv ⊢
  cases hproduct : y.times? z with
  | none =>
      rw [hproduct] at hv
      cases hv
  | some v' =>
      rw [hproduct] at hv
      obtain rfl : v' = v := finite.inj hv
      obtain ⟨u, hu, huv⟩ := exists_times?_within h hproduct
      rw [hu]
      refine ⟨u, rfl, ?_, ?_, huv⟩
      · rw [negative_of_ofRatio? hu, hx, hz]
        rfl
      · rw [negative_of_ofRatio? hproduct, hy, hz]
        rfl

/-- A span can be counted in nanoseconds if a longer one can. -/
theorem exists_nanoseconds_le {rounded : Fraction → Int} {m : Int}
    (hrounded : ∀ z : Fraction, z.negative = false → rounded z = z.outward)
    (hm : (finite y).nanoseconds rounded = .ok m) :
    ∃ n, (finite x).nanoseconds rounded = .ok n ∧ 0 ≤ n ∧ n ≤ m := by
  rw [nanoseconds] at hm ⊢
  generalize hv : (finite y).times _ = q at hm
  cases q with
  | infinite | undefined => cases hm
  | finite v =>
      obtain ⟨u, hu, hupos, hvpos, huv⟩ := exists_times_within hx hy h (negative_ofNat _) hv
      obtain ⟨hnonneg, hle⟩ := outward_mono hupos hvpos huv
      rw [hu]
      dsimp only at hm ⊢
      rw [hrounded v hvpos] at hm
      rw [hrounded u hupos]
      split at hm
      · rename_i hfits
        obtain rfl := Except.ok.inj hm
        rw [fitsSigned_iff] at hfits
        refine ⟨u.outward, if_pos ?_, hnonneg, hle⟩
        rw [fitsSigned_iff]
        omega
      · cases hm

/-- **A pause that is taken is also taken shorter.** -/
theorem sleep_of_within (hpause : (finite y).sleep = .ok ()) : (finite x).sleep = .ok () := by
  unfold sleep at hpause ⊢
  cases hm : (finite y).nanoseconds outward with
  | error e =>
      rw [hm] at hpause
      cases hpause
  | ok m =>
      obtain ⟨n, hn, hnonneg, -⟩ := exists_nanoseconds_le hx hy h (fun _ _ => rfl) hm
      rw [hn]
      exact if_neg (Int.not_lt.2 hnonneg)

/-- **An interval that a timer takes is also taken shorter.** -/
theorem timer_of_within {first : Quantity} (htimer : timer first (finite y) = .ok ()) :
    timer first (finite x) = .ok () := by
  unfold timer at htimer ⊢
  cases hfirst : first.nanoseconds ceiling with
  | error e =>
      rw [hfirst] at htimer
      cases htimer
  | ok k =>
      rw [hfirst] at htimer
      cases hm : (finite y).nanoseconds ceiling with
      | error e =>
          rw [hm] at htimer
          cases htimer
      | ok m =>
          obtain ⟨n, hn, hnonneg, hle⟩ :=
            exists_nanoseconds_le hx hy h (fun _ => ceiling_of_not_negative) hm
          rw [hm] at htimer
          rw [hn]
          have hsoon : ¬min k m ≤ -1000 := not_of_check htimer
          exact if_neg (by omega)

/-- **A wait for sockets that is taken is also taken shorter.** -/
theorem timeout_of_within (hwait : (finite y).timeout = .ok ()) : (finite x).timeout = .ok () := by
  rw [timeout] at hwait ⊢
  by_cases hxzero : x.units = 0
  · rw [if_pos (by simp [hxzero])]
  · have hyzero : y.units ≠ 0 := by
      intro hyzero
      rw [Within, hyzero, Nat.zero_mul, Nat.le_zero, Nat.mul_eq_zero] at h
      exact h.elim hxzero (Nat.two_pow_pos _).ne'
    rw [if_neg (by simp [hx, hxzero])]
    rw [if_neg (by simp [hy, hyzero])] at hwait
    generalize hv : (finite y).times _ = q at hwait
    cases q with
    | infinite | undefined => cases hwait
    | finite v =>
        -- The wait is brought up to milliseconds, and these to nanoseconds.
        obtain ⟨u, hu, hupos, hvpos, huv⟩ := exists_times_within hx hy h (negative_ofNat _) hv
        obtain ⟨-, hle⟩ := outward_mono hupos hvpos huv
        rw [← ceiling_of_not_negative hupos, ← ceiling_of_not_negative hvpos] at hle
        have hwhole := ofNat_within (Int.toNat_le_toNat hle)
        rw [hu]
        dsimp only at hwait ⊢
        generalize hs : (Quantity.ofNat v.ceiling.toNat).times thousandth = q at hwait
        cases q with
        | infinite | undefined => cases hwait
        | finite s =>
            obtain ⟨r, hr, hrpos, hspos, hrs⟩ :=
              exists_times_within (negative_ofNat _) (negative_ofNat _) hwhole rfl hs
            have hsame : (Quantity.ofNat u.ceiling.toNat).times thousandth = finite r := hr
            rw [hsame]
            cases hm : (finite s).nanoseconds outward with
            | error e =>
                rw [hm] at hwait
                cases hwait
            | ok m =>
                obtain ⟨n, hn, -, hnm⟩ := exists_nanoseconds_le hrpos hspos hrs (fun _ _ => rfl) hm
                rw [hm] at hwait
                rw [hn]
                have hsoon : ¬(2 ^ 31 - 1) * 10 ^ 6 < m := not_of_check hwait
                exact if_neg (by omega)

end

end Quantity

namespace Seconds

/-! ## Periods -/

/-- Periods are rounded in the order of their milliseconds. -/
theorem exists_ofMillis?_within {a b : Int} {y : Fraction} (ha : 0 ≤ a) (hab : a ≤ b)
    (hb : ofMillis? b = some (span (.finite y))) :
    ∃ x, ofMillis? a = some (span (.finite x)) ∧ x.negative = false ∧ y.negative = false ∧
      x.Within y := by
  have hsign : ∀ n : Int, 0 ≤ n → decide (n < 0) = false := fun n hn =>
    decide_eq_false (Int.not_lt.2 hn)
  simp only [ofMillis?, Option.bind_eq_bind, Option.bind_eq_some_iff] at hb ⊢
  obtain ⟨v, hv, y', hy', hsame⟩ := hb
  obtain rfl : y' = y := Quantity.finite.inj (span.inj (Option.some.inj hsame))
  obtain ⟨u, hu, huv⟩ := Fraction.exists_ofRatio?_within (n := a.natAbs) Nat.one_pos Nat.one_pos
    (by omega) hv (decide (a < 0))
  have hunits : u.units * (1000 * 2 ^ v.scale) ≤ v.units * (1000 * 2 ^ u.scale) := by
    calc u.units * (1000 * 2 ^ v.scale) = u.units * 2 ^ v.scale * 1000 := by ring
      _ ≤ v.units * 2 ^ u.scale * 1000 := Nat.mul_le_mul_right _ huv
      _ = v.units * (1000 * 2 ^ u.scale) := by ring
  obtain ⟨x, hx, hxy⟩ := Fraction.exists_ofRatio?_within (by positivity) (by positivity) hunits hy'
    u.negative
  refine ⟨x, ⟨u, hu, x, hx, rfl⟩, ?_, ?_, hxy⟩
  · rw [Fraction.negative_of_ofRatio? hx, Fraction.negative_of_ofRatio? hu, hsign a ha]
  · rw [Fraction.negative_of_ofRatio? hy', Fraction.negative_of_ofRatio? hv, hsign b (ha.trans hab)]

/-- A period of `2 ^ 31 - 1` milliseconds. -/
def longest : Fraction := ⟨false, 4611686016279904, 31⟩

theorem ofMillis?_longest : ofMillis? (2 ^ 31 - 1) = some (span (.finite longest)) := by
  decide +kernel

/-- The period that is one millisecond longer. -/
def tooLong : Fraction := ⟨false, 4611686018427388, 31⟩

theorem ofMillis?_tooLong : ofMillis? (2 ^ 31) = some (span (.finite tooLong)) := by
  decide +kernel

/-- **The wait, the pause and the timer take every period below `2 ^ 31` milliseconds.** -/
theorem calls_take_period {ms : Int} {q : Quantity} (hlow : 0 ≤ ms) (hhigh : ms < 2 ^ 31)
    (h : ofMillis? ms = some (span q)) :
    (Call.select q).objection? = none ∧ (Call.pause q).objection? = none ∧
      (Call.setTimer (.ofNat 1) q).objection? = none := by
  obtain ⟨x, hx, hxpos, hypos, hwithin⟩ :=
    exists_ofMillis?_within hlow (by omega : ms ≤ 2 ^ 31 - 1) ofMillis?_longest
  obtain rfl : .finite x = q := span.inj (Option.some.inj (hx.symm.trans h))
  have hselect : (Quantity.finite longest).timeout = .ok () := by decide +kernel
  have hpause : (Quantity.finite longest).sleep = .ok () := by decide +kernel
  have htimer : Quantity.timer (.ofNat 1) (.finite longest) = .ok () := by decide +kernel
  refine ⟨?_, ?_, ?_⟩
  · exact Call.objection?_eq_none (Quantity.timeout_of_within hxpos hypos hwithin hselect)
  · exact Call.objection?_eq_none (Quantity.sleep_of_within hxpos hypos hwithin hpause)
  · exact Call.objection?_eq_none (Quantity.timer_of_within hxpos hypos hwithin htimer)

/-- **The wait takes no others**: from `2 ^ 31` milliseconds on, a period is too large for it. -/
theorem select_takes_period_iff {ms : Int} {q : Quantity} (hlow : 0 ≤ ms)
    (h : ofMillis? ms = some (span q)) : (Call.select q).objection? = none ↔ ms < 2 ^ 31 := by
  refine ⟨fun htaken => ?_, fun hhigh => (calls_take_period hlow hhigh h).1⟩
  by_contra hlong
  obtain ⟨y, rfl⟩ : ∃ y, q = .finite y := by
    simp only [ofMillis?, Option.bind_eq_bind, Option.bind_eq_some_iff] at h
    obtain ⟨_, _, y, _, hsame⟩ := h
    exact ⟨y, (span.inj (Option.some.inj hsame)).symm⟩
  have hwait : (Quantity.finite y).timeout = .ok () := by
    unfold Call.objection? at htaken
    split at htaken
    · rename_i hvetted
      exact hvetted
    · cases htaken
  obtain ⟨x, hx, hxpos, hypos, hwithin⟩ :=
    exists_ofMillis?_within (by decide) (by omega : (2 ^ 31 : Int) ≤ ms) h
  have hshort := Quantity.timeout_of_within hxpos hypos hwithin hwait
  obtain rfl := Quantity.finite.inj (span.inj (Option.some.inj (hx.symm.trans ofMillis?_tooLong)))
  have hobjects : (Quantity.finite tooLong).timeout ≠ .ok () := by decide +kernel
  exact hobjects hshort

end Seconds

end Multicast
