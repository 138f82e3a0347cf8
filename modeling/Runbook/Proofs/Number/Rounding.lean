import Mathlib.Algebra.Order.Field.Power
import Mathlib.Tactic.FieldSimp
import Mathlib.Tactic.Linarith
import Runbook.Number.Decimal
import Runbook.Proofs.Number.Exact

/-!
# Rounding

The rationals that round to a number lie around it, half the way to the next
ones on both sides.  Rounding a quotient gives the number in whose interval
the quotient lies, and the check whether digits read back asks for just this
interval.  Half a step above the greatest number, the rationals begin that do
not round to a finite one.  What is smaller does, and rounding adds at most half
of a step.
-/

namespace Runbook.Binary64

open Decimal (roundingInterval readsBack)

variable {mantissa : Nat} {exponent : Int} {value : ℚ}

/-- A rational rounds to the number with a mantissa and an exponent: it lies
within the interval of the number, the ends of which belong to it only if the
mantissa is even. -/
structure RoundsTo (mantissa : Nat) (exponent : Int) (value : ℚ) : Prop where
  above : ((roundingInterval mantissa exponent).1 : ℚ) *
    2 ^ (exponent - 2) ≤ value
  below : value ≤ ((roundingInterval mantissa exponent).2 : ℚ) *
    2 ^ (exponent - 2)
  inside : mantissa % 2 ≠ 0 →
    ((roundingInterval mantissa exponent).1 : ℚ) * 2 ^ (exponent - 2) <
        value ∧
      value < ((roundingInterval mantissa exponent).2 : ℚ) *
        2 ^ (exponent - 2)

/-- A power with an exponent of either sign becomes one of a natural number
when the negative part of the exponent is taken away. -/
theorem zpow_mul_pow_toNat (base : ℚ) (nonzero : base ≠ 0) (power : Int) :
    base ^ power * base ^ (-power).toNat = base ^ power.toNat := by
  rw [← zpow_natCast, ← zpow_natCast, ← zpow_add₀ nonzero]
  congr 1
  omega

theorem roundsTo_iff {low high : Nat}
    (ends : roundingInterval mantissa exponent = (low, high)) :
    RoundsTo mantissa exponent value ↔
      if mantissa % 2 = 0 then
        (low : ℚ) * 2 ^ (exponent - 2) ≤ value ∧
          value ≤ high * 2 ^ (exponent - 2)
      else
        (low : ℚ) * 2 ^ (exponent - 2) < value ∧
          value < high * 2 ^ (exponent - 2) := by
  constructor
  · rintro ⟨above, below, inside⟩
    rw [ends] at above below inside
    split
    · exact ⟨above, below⟩
    · next odd => exact inside odd
  · intro within
    split at within
    · next even =>
        refine ⟨?_, ?_, fun odd => absurd even odd⟩ <;> rw [ends]
        · exact within.1
        · exact within.2
    · refine ⟨?_, ?_, fun _ => ?_⟩ <;> rw [ends]
      · exact within.1.le
      · exact within.2.le
      · exact within

/-- Digits read back exactly if what they stand for rounds to the number. -/
theorem readsBack_eq_true_iff (digits : Nat) (grid : Int) :
    readsBack mantissa exponent digits grid = true ↔
      RoundsTo mantissa exponent (digits * 10 ^ grid) := by
  cases ends : roundingInterval mantissa exponent with
  | mk low high =>
      rw [roundsTo_iff ends]
      simp only [readsBack, ends, Nat.pow_eq]
      -- Both sides are compared after they are scaled to integers.
      have two : (2 : ℚ) ^ (exponent - 2) * 2 ^ (-(exponent - 2)).toNat =
          2 ^ (exponent - 2).toNat := zpow_mul_pow_toNat _ (by norm_num) _
      have ten : (10 : ℚ) ^ grid * 10 ^ (-grid).toNat = 10 ^ grid.toNat :=
        zpow_mul_pow_toNat _ (by norm_num) _
      have positive : (0 : ℚ) <
          10 ^ (-grid).toNat * 2 ^ (-(exponent - 2)).toNat := by positivity
      have written : (digits : ℚ) * 10 ^ grid *
          (10 ^ (-grid).toNat * 2 ^ (-(exponent - 2)).toNat) =
            (digits * 10 ^ grid.toNat * 2 ^ (-(exponent - 2)).toNat : Nat) := by
        push_cast
        rw [← ten]
        ring
      have scaled (bound : Nat) : (bound : ℚ) * 2 ^ (exponent - 2) *
          (10 ^ (-grid).toNat * 2 ^ (-(exponent - 2)).toNat) =
            (bound * (10 ^ (-grid).toNat * 2 ^ (exponent - 2).toNat) :
              Nat) := by
        push_cast
        rw [← two]
        ring
      have le_low := mul_le_mul_iff_of_pos_right positive
        (b := (low : ℚ) * 2 ^ (exponent - 2)) (c := (digits : ℚ) * 10 ^ grid)
      have le_high := mul_le_mul_iff_of_pos_right positive
        (b := (digits : ℚ) * 10 ^ grid) (c := (high : ℚ) * 2 ^ (exponent - 2))
      have lt_low := mul_lt_mul_iff_of_pos_right positive
        (b := (low : ℚ) * 2 ^ (exponent - 2)) (c := (digits : ℚ) * 10 ^ grid)
      have lt_high := mul_lt_mul_iff_of_pos_right positive
        (b := (digits : ℚ) * 10 ^ grid) (c := (high : ℚ) * 2 ^ (exponent - 2))
      rw [written, scaled, Nat.cast_le] at le_low le_high
      rw [written, scaled, Nat.cast_lt] at lt_low lt_high
      rw [← le_low, ← le_high, ← lt_low, ← lt_high]
      split <;> simp

/-! ### Powers of two and of ten -/

/-- Powers of two bases are compared by two powers of which one is known to be
greater. -/
theorem zpow_le_zpow_of_pow_le {base other : ℚ} (first second : Nat)
    {power bound : Int} (positive : 0 < base) (large : 1 ≤ other)
    (some : first ≠ 0) (coarse : base ^ first ≤ other ^ second)
    (nonnegative : 0 ≤ power) (enough : second * power ≤ first * bound) :
    base ^ power ≤ other ^ bound := by
  have positiveToo : 0 < other := by linarith
  rw [← pow_le_pow_iff_left₀ (zpow_pos positive _).le
    (zpow_pos positiveToo _).le some]
  calc
    (base ^ power) ^ first = (base ^ first) ^ power := by
      rw [← zpow_natCast, ← zpow_mul, mul_comm, zpow_mul, zpow_natCast]
    _ ≤ (other ^ second) ^ power :=
      zpow_le_zpow_left₀ nonnegative (pow_pos positive _).le coarse
    _ = other ^ (second * power : Int) := by
      rw [zpow_mul, zpow_natCast]
    _ ≤ other ^ (first * bound : Int) := zpow_le_zpow_right₀ large enough
    _ = (other ^ bound) ^ first := by
      rw [mul_comm, zpow_mul, zpow_natCast]

theorem two_zpow_le_ten_zpow {power bound : Int}
    (coarse : 28 * power ≤ 93 * bound) (fine : 3 * power ≤ 10 * bound) :
    (2 : ℚ) ^ power ≤ 10 ^ bound := by
  rcases le_total 0 power with nonnegative | negative
  · exact zpow_le_zpow_of_pow_le 93 28 (by norm_num)
      (by norm_num) (by decide) (by norm_num) nonnegative coarse
  · rcases le_total 0 bound with above | below
    · exact (zpow_le_one_of_nonpos₀ (by norm_num) negative).trans
        (one_le_zpow₀ (by norm_num) above)
    · have inverse : (10 : ℚ) ^ (-bound) ≤ 2 ^ (-power) :=
        zpow_le_zpow_of_pow_le 3 10 (by norm_num)
          (by norm_num) (by decide) (by norm_num) (by omega)
          (by push_cast; omega)
      rw [zpow_neg, zpow_neg] at inverse
      exact (inv_le_inv₀ (by positivity) (by positivity)).1 inverse

theorem ten_zpow_le_two_zpow {power bound : Int}
    (fine : 10 * power ≤ 3 * bound) (coarse : 93 * power ≤ 28 * bound) :
    (10 : ℚ) ^ power ≤ 2 ^ bound := by
  have inverse : (2 : ℚ) ^ (-bound) ≤ 10 ^ (-power) :=
    two_zpow_le_ten_zpow (by omega) (by omega)
  rw [zpow_neg, zpow_neg] at inverse
  exact (inv_le_inv₀ (by positivity) (by positivity)).1 inverse

/-! ### Rounding to an integer -/

/-- An integer is the one nearest to a value, a tie going to the even one. -/
structure IsNearest (integer : Nat) (value : ℚ) : Prop where
  above : (integer : ℚ) - 1 / 2 ≤ value
  below : value ≤ integer + 1 / 2
  inside : integer % 2 ≠ 0 →
    (integer : ℚ) - 1 / 2 < value ∧ value < integer + 1 / 2

theorem IsNearest.le {first second : Nat} (nearest : IsNearest first value)
    (nearestToo : IsNearest second value) : first ≤ second := by
  by_contra less
  rw [not_le] at less
  have apart : (second : ℚ) + 1 ≤ first := by exact_mod_cast less
  -- The value is the tie between the two, of which only one is even.
  have tie : (second : ℚ) + 1 = first := by
    linarith [nearest.above, nearestToo.below]
  have next : second + 1 = first := by exact_mod_cast tie
  rcases Nat.mod_two_eq_zero_or_one first with even | odd
  · have inside := nearestToo.inside (by omega)
    linarith [nearest.above]
  · have inside := nearest.inside (by omega)
    linarith [nearestToo.below]

theorem IsNearest.eq {first second : Nat} (nearest : IsNearest first value)
    (nearestToo : IsNearest second value) : first = second :=
  Nat.le_antisymm (nearest.le nearestToo) (nearestToo.le nearest)

theorem isNearest_roundDiv (numerator : Nat) {denominator : Nat}
    (positive : 0 < denominator) :
    IsNearest (roundDiv numerator denominator)
      (numerator / denominator) := by
  have divided := Nat.div_add_mod numerator denominator
  have less := Nat.mod_lt numerator positive
  simp only [roundDiv]
  generalize numerator / denominator = quotient at divided
  generalize numerator % denominator = rest at divided less
  have scale : (0 : ℚ) < denominator := by exact_mod_cast positive
  have value_eq : (numerator : ℚ) / denominator =
      quotient + rest / denominator := by
    rw [← divided]
    push_cast
    field_simp
  have atLeast : (0 : ℚ) ≤ rest / denominator :=
    div_nonneg (Nat.cast_nonneg _) scale.le
  have atMost : (rest : ℚ) / denominator < 1 :=
    (div_lt_one₀ scale).2 (by exact_mod_cast less)
  have below_half : (rest : ℚ) / denominator < 1 / 2 ↔
      2 * rest < denominator := by
    rw [div_lt_div_iff₀ scale two_pos, mul_comm]
    norm_num
    exact_mod_cast Iff.rfl
  have above_half : (1 : ℚ) / 2 < rest / denominator ↔
      denominator < 2 * rest := by
    rw [div_lt_div_iff₀ two_pos scale, mul_comm (rest : ℚ)]
    norm_num
    exact_mod_cast Iff.rfl
  rw [value_eq]
  generalize (rest : ℚ) / denominator = fraction at *
  split
  · next isBelow =>
      have isBelow := below_half.2 isBelow
      exact ⟨by linarith, by linarith, fun _ => ⟨by linarith, by linarith⟩⟩
  · next notBelow =>
      rw [← below_half, not_lt] at notBelow
      split
      · next isAbove =>
          have isAbove := above_half.2 isAbove
          refine ⟨?_, ?_, fun _ => ⟨?_, ?_⟩⟩ <;> push_cast <;> linarith
      · next notAbove =>
          rw [← above_half, not_lt] at notAbove
          split
          · next even =>
              exact ⟨by linarith, by linarith, fun odd => absurd even odd⟩
          · next odd =>
              refine ⟨?_, ?_, fun odd => ?_⟩
              · push_cast
                linarith
              · push_cast
                linarith
              · omega

/-! ### The binary order of magnitude -/

theorem zpow_le_div_iff (numerator : Nat) {denominator : Nat}
    (positive : 0 < denominator) (power : Int) :
    (2 : ℚ) ^ power ≤ numerator / denominator ↔
      denominator * 2 ^ power.toNat ≤ numerator * 2 ^ (-power).toNat := by
  have scale : (0 : ℚ) < denominator := by exact_mod_cast positive
  have factor : (0 : ℚ) < 2 ^ (-power).toNat := by positivity
  have same := zpow_mul_pow_toNat 2 (by norm_num) power
  rw [le_div_iff₀ scale, ← mul_le_mul_iff_of_pos_right factor,
    mul_right_comm, same, mul_comm (2 ^ _) (denominator : ℚ)]
  exact_mod_cast Iff.rfl

theorem floorLog2_spec {numerator denominator : Nat} (positive : 0 < numerator)
    (positiveToo : 0 < denominator) :
    (2 : ℚ) ^ floorLog2 numerator denominator ≤ numerator / denominator ∧
      (numerator : ℚ) / denominator <
        2 ^ (floorLog2 numerator denominator + 1) := by
  have scale : (0 : ℚ) < denominator := by exact_mod_cast positiveToo
  have two : (2 : ℚ) ≠ 0 := by norm_num
  have low : (2 : ℚ) ^ (numerator.log2 : Int) ≤ numerator := by
    rw [zpow_natCast]
    exact_mod_cast Nat.log2_self_le positive.ne'
  have high : (numerator : ℚ) < 2 ^ ((numerator.log2 : Int) + 1) := by
    exact_mod_cast Nat.lt_log2_self (n := numerator)
  have lowToo : (2 : ℚ) ^ (denominator.log2 : Int) ≤ denominator := by
    rw [zpow_natCast]
    exact_mod_cast Nat.log2_self_le positiveToo.ne'
  have highToo : (denominator : ℚ) < 2 ^ ((denominator.log2 : Int) + 1) := by
    exact_mod_cast Nat.lt_log2_self (n := denominator)
  have fits := zpow_le_div_iff numerator positiveToo
    ((numerator.log2 : Int) - denominator.log2)
  simp only [floorLog2, Nat.pow_eq]
  generalize isEstimate : (numerator.log2 : Int) - denominator.log2 = estimate
    at fits
  have sum : (numerator.log2 : Int) = estimate + denominator.log2 := by omega
  split
  · next atLeast =>
      refine ⟨fits.2 atLeast, ?_⟩
      rw [div_lt_iff₀ scale]
      calc
        (numerator : ℚ) < 2 ^ ((numerator.log2 : Int) + 1) := high
        _ = 2 ^ (estimate + 1) * 2 ^ (denominator.log2 : Int) := by
          rw [← zpow_add₀ two, sum]
          congr 1
          omega
        _ ≤ 2 ^ (estimate + 1) * denominator :=
          mul_le_mul_of_nonneg_left lowToo (by positivity)
  · next less =>
      rw [← fits, not_le] at less
      refine ⟨?_, by simpa using less⟩
      rw [le_div_iff₀ scale]
      calc
        2 ^ (estimate - 1) * (denominator : ℚ) ≤
            2 ^ (estimate - 1) * 2 ^ ((denominator.log2 : Int) + 1) :=
          mul_le_mul_of_nonneg_left highToo.le (by positivity)
        _ = 2 ^ (numerator.log2 : Int) := by
          rw [← zpow_add₀ two, sum]
          congr 1
          omega
        _ ≤ numerator := low

/-! ### Rounding a quotient -/

/-- The exponent of the grid on which a positive quotient is rounded. -/
def gridOf (numerator denominator : Nat) : Int :=
  max (floorLog2 numerator denominator - 52) (-1074)

/-- The mantissa of a quotient on its grid, which may be the first one that is
too large. -/
def mantissaOf (numerator denominator : Nat) : Nat :=
  roundDiv (numerator * Nat.pow 2 (-gridOf numerator denominator).toNat)
    (denominator * Nat.pow 2 (gridOf numerator denominator).toNat)

theorem ofRatio_eq {numerator : Nat} (positive : 0 < numerator)
    (negative : Bool) (denominator : Nat) :
    ofRatio negative numerator denominator =
      if mantissaOf numerator denominator = 2 ^ 53 then
        ofParts negative (2 ^ 52) (gridOf numerator denominator + 1)
      else ofParts negative (mantissaOf numerator denominator)
        (gridOf numerator denominator) := by
  rw [ofRatio, if_neg positive.ne']
  rfl

theorem isNearest_mantissaOf (numerator : Nat) {denominator : Nat}
    (positive : 0 < denominator) :
    IsNearest (mantissaOf numerator denominator)
      (numerator / denominator / 2 ^ gridOf numerator denominator) := by
  have scale : 0 < denominator *
      Nat.pow 2 (gridOf numerator denominator).toNat :=
    Nat.mul_pos positive (Nat.pow_pos (by decide))
  have nearest := isNearest_roundDiv
    (numerator * Nat.pow 2 (-gridOf numerator denominator).toNat) scale
  have same := zpow_mul_pow_toNat 2 (by norm_num)
    (gridOf numerator denominator)
  have value_eq : ((numerator * Nat.pow 2
      (-gridOf numerator denominator).toNat : Nat) : ℚ) /
        (denominator * Nat.pow 2 (gridOf numerator denominator).toNat : Nat) =
      numerator / denominator / 2 ^ gridOf numerator denominator := by
    have nonzero : (denominator : ℚ) ≠ 0 := by exact_mod_cast positive.ne'
    push_cast [Nat.pow_eq]
    rw [← same]
    field_simp
  rwa [value_eq] at nearest

section Grid

variable {numerator denominator : Nat} {power : Int}

theorem le_floorLog2 (positive : 0 < numerator) (positiveToo : 0 < denominator)
    (above : (2 : ℚ) ^ power ≤ numerator / denominator) :
    power ≤ floorLog2 numerator denominator := by
  have less := (floorLog2_spec positive positiveToo).2
  have powers := (zpow_lt_zpow_iff_right₀ (one_lt_two (α := ℚ))).1
    (above.trans_lt less)
  omega

theorem floorLog2_lt (positive : 0 < numerator) (positiveToo : 0 < denominator)
    (below : (numerator : ℚ) / denominator < 2 ^ power) :
    floorLog2 numerator denominator < power := by
  have atLeast := (floorLog2_spec positive positiveToo).1
  exact (zpow_lt_zpow_iff_right₀ (one_lt_two (α := ℚ))).1
    (atLeast.trans_lt below)

/-- The grid of a quotient is the one on which its mantissa has its full width,
or the finest one. -/
theorem gridOf_eq (positive : 0 < numerator) (positiveToo : 0 < denominator)
    (least : -1074 ≤ exponent)
    (above : (2 : ℚ) ^ 52 ≤ numerator / denominator / 2 ^ exponent ∨
      exponent = -1074)
    (below : (numerator : ℚ) / denominator / 2 ^ exponent < 2 ^ 53) :
    gridOf numerator denominator = exponent := by
  have scale : (0 : ℚ) < 2 ^ exponent := by positivity
  have two : (2 : ℚ) ≠ 0 := by norm_num
  have high : floorLog2 numerator denominator < exponent + 53 := by
    apply floorLog2_lt positive positiveToo
    rw [div_lt_iff₀ scale] at below
    rw [zpow_add₀ two, mul_comm]
    exact_mod_cast below
  unfold gridOf
  rcases above with above | rfl
  · have low : exponent + 52 ≤ floorLog2 numerator denominator := by
      apply le_floorLog2 positive positiveToo
      rw [le_div_iff₀ scale] at above
      rw [zpow_add₀ two, mul_comm]
      exact_mod_cast above
    omega
  · omega

end Grid

/-- How far below a number the rationals begin that round to it, on its own
grid: the numbers below a power of two are twice as dense. -/
def gapBelow (mantissa : Nat) (exponent : Int) : ℚ :=
  if mantissa = 2 ^ 52 ∧ exponent ≠ -1074 then 1 / 4 else 1 / 2

theorem gapBelow_pos (mantissa : Nat) (exponent : Int) :
    0 < gapBelow mantissa exponent := by
  unfold gapBelow
  split <;> norm_num

theorem gapBelow_le (mantissa : Nat) (exponent : Int) :
    gapBelow mantissa exponent ≤ 1 / 2 := by
  unfold gapBelow
  split <;> norm_num

theorem low_eq (nonzero : 0 < mantissa) :
    ((roundingInterval mantissa exponent).1 : ℚ) * 2 ^ (exponent - 2) =
      (mantissa - gapBelow mantissa exponent) * 2 ^ exponent := by
  rw [zpow_sub₀ two_ne_zero]
  unfold roundingInterval gapBelow
  simp only [Nat.pow_eq]
  split
  · rw [Nat.cast_sub (by omega)]
    push_cast
    ring
  · rw [Nat.cast_sub (by omega)]
    push_cast
    ring

theorem high_eq :
    ((roundingInterval mantissa exponent).2 : ℚ) * 2 ^ (exponent - 2) =
      (mantissa + 1 / 2) * 2 ^ exponent := by
  rw [zpow_sub₀ two_ne_zero]
  unfold roundingInterval
  push_cast
  ring

/-- The interval of a number on its own grid. -/
theorem roundsTo_iff_scaled (nonzero : 0 < mantissa) :
    RoundsTo mantissa exponent value ↔
      (mantissa : ℚ) - gapBelow mantissa exponent ≤ value / 2 ^ exponent ∧
        value / 2 ^ exponent ≤ mantissa + 1 / 2 ∧
        (mantissa % 2 ≠ 0 →
          (mantissa : ℚ) - gapBelow mantissa exponent <
              value / 2 ^ exponent ∧
            value / 2 ^ exponent < mantissa + 1 / 2) := by
  have scale : (0 : ℚ) < 2 ^ exponent := by positivity
  rw [le_div_iff₀ scale, lt_div_iff₀ scale, div_le_iff₀ scale,
    div_lt_iff₀ scale, ← low_eq nonzero, ← high_eq]
  exact ⟨fun ⟨above, below, inside⟩ => ⟨above, below, inside⟩,
    fun ⟨above, below, inside⟩ => ⟨above, below, inside⟩⟩

/-- A quotient within the interval of a number is rounded to it. -/
theorem ofRatio_of_roundsTo {numerator denominator : Nat}
    (canonical : Canonical mantissa exponent) (nonzero : 0 < mantissa)
    (positive : 0 < numerator) (positiveToo : 0 < denominator)
    (rounds : RoundsTo mantissa exponent (numerator / denominator))
    (negative : Bool) :
    ofRatio negative numerator denominator =
      .finite negative mantissa exponent canonical := by
  have less : mantissa < 2 ^ 53 := canonical.1
  have least : -1074 ≤ exponent := canonical.2.1
  have normal : 2 ^ 52 ≤ mantissa ∨ exponent = -1074 := canonical.2.2.2
  have nearest := isNearest_mantissaOf numerator positiveToo
  have lessEqual : (mantissa : ℚ) + 1 ≤ 2 ^ 53 := by exact_mod_cast less
  rw [roundsTo_iff_scaled nonzero] at rounds
  obtain ⟨above, below, inside⟩ := rounds
  rw [ofRatio_eq positive]
  by_cases fromBelow : mantissa = 2 ^ 52 ∧ exponent ≠ -1074 ∧
      (numerator : ℚ) / denominator / 2 ^ exponent < 2 ^ 52
  · -- The quotient is on the finer grid below a power of two.
    obtain ⟨rfl, coarse, isBelow⟩ := fromBelow
    rw [gapBelow, if_pos ⟨rfl, coarse⟩] at above
    have finer : (numerator : ℚ) / denominator / 2 ^ (exponent - 1) =
        2 * (numerator / denominator / 2 ^ exponent) := by
      rw [zpow_sub₀ two_ne_zero]
      field_simp
    have isGrid : gridOf numerator denominator = exponent - 1 := by
      apply gridOf_eq positive positiveToo (by omega)
      · left
        rw [finer]
        push_cast at above
        linarith
      · rw [finer]
        linarith
    rw [isGrid, finer] at nearest
    have isPower : mantissaOf numerator denominator = 2 ^ 53 := by
      apply nearest.eq
      push_cast at above
      refine ⟨?_, ?_, fun odd => absurd (by decide) odd⟩
      · push_cast
        linarith
      · push_cast
        linarith
    have next : exponent - 1 + 1 = exponent := by omega
    rw [isPower, isGrid, next, if_pos rfl]
    exact dif_pos canonical
  · have gap := gapBelow_le mantissa exponent
    have isGrid : gridOf numerator denominator = exponent := by
      refine gridOf_eq positive positiveToo least ?_ (by linarith)
      refine or_iff_not_imp_right.2 fun coarse => ?_
      rcases Nat.eq_or_lt_of_le (normal.resolve_right coarse) with rfl | more
      · exact not_lt.1 fun isBelow => fromBelow ⟨rfl, coarse, isBelow⟩
      · have more : (2 : ℚ) ^ 52 + 1 ≤ mantissa := by exact_mod_cast more
        linarith
    rw [isGrid] at nearest
    have isMantissa : mantissaOf numerator denominator = mantissa :=
      nearest.eq ⟨by linarith, below, fun odd =>
        ⟨by linarith [(inside odd).1], (inside odd).2⟩⟩
    rw [isMantissa, isGrid, if_neg (Nat.ne_of_lt less)]
    exact dif_pos canonical

/-! ### Rounding a decimal -/

theorem RoundsTo.bounds (canonical : Canonical mantissa exponent)
    (nonzero : 0 < mantissa) (rounds : RoundsTo mantissa exponent value) :
    (2 : ℚ) ^ (-1075 : Int) ≤ value ∧ value < 2 ^ (1024 : Int) := by
  have less : mantissa < 2 ^ 53 := canonical.1
  obtain ⟨-, least, most, -⟩ := canonical
  obtain ⟨above, below, -⟩ := rounds
  have scale : (0 : ℚ) < 2 ^ exponent := by positivity
  have atLeast : (1 : ℚ) ≤ mantissa := by exact_mod_cast nonzero
  have atMost : (mantissa : ℚ) + 1 ≤ 2 ^ 53 := by exact_mod_cast less
  have gap := gapBelow_le mantissa exponent
  rw [low_eq nonzero] at above
  rw [high_eq] at below
  constructor
  · calc
      (2 : ℚ) ^ (-1075 : Int) ≤ 2 ^ (exponent - 1) :=
        zpow_le_zpow_right₀ (by norm_num) (by omega)
      _ = 1 / 2 * 2 ^ exponent := by
        rw [zpow_sub₀ two_ne_zero, zpow_one]
        ring
      _ ≤ (mantissa - gapBelow mantissa exponent) * 2 ^ exponent :=
        mul_le_mul_of_nonneg_right (by linarith) scale.le
      _ ≤ value := above
  · calc
      value ≤ (mantissa + 1 / 2) * 2 ^ exponent := below
      _ < 2 ^ (53 : Int) * 2 ^ exponent := by
        refine mul_lt_mul_of_pos_right ?_ scale
        have power : (2 : ℚ) ^ (53 : Int) = 2 ^ 53 := rfl
        rw [power]
        linarith
      _ = 2 ^ (53 + exponent) := (zpow_add₀ two_ne_zero _ _).symm
      _ ≤ 2 ^ (1024 : Int) := zpow_le_zpow_right₀ (by norm_num) (by omega)

/-- The number of digits says how large a number is. -/
theorem pow_le_of_lt_length (count : Nat) {digits : Nat} (positive : 0 < digits)
    (long : count < (Nat.toDigits 10 digits).length) : 10 ^ count ≤ digits := by
  rcases Nat.eq_zero_or_pos count with rfl | some
  · exact positive
  · by_contra small
    have short := (Nat.length_toDigits_le_iff (by decide) some).2
      (Nat.lt_of_not_le small)
    omega

/-- A decimal within the interval of a number is rounded to it. -/
theorem ofDecimal_of_roundsTo {digits : Nat} {power : Int}
    (canonical : Canonical mantissa exponent) (nonzero : 0 < mantissa)
    (rounds : RoundsTo mantissa exponent (digits * 10 ^ power))
    (negative : Bool) :
    ofDecimal negative digits power =
      .finite negative mantissa exponent canonical := by
  have bounds := rounds.bounds canonical nonzero
  have positive : 0 < digits := by
    rcases Nat.eq_zero_or_pos digits with rfl | positive
    · have least : (0 : ℚ) < 2 ^ (-1075 : Int) := by positivity
      have nothing : (2 : ℚ) ^ (-1075 : Int) ≤ 0 := by simpa using bounds.1
      exact absurd least (not_lt.2 nothing)
    · exact positive
  have scale : (0 : ℚ) < 10 ^ power := by positivity
  have notLarge : ¬ 400 < power + (Nat.toDigits 10 digits).length := by
    intro large
    have nonempty : 0 < (Nat.toDigits 10 digits).length :=
      Nat.length_toDigits_pos
    have long := pow_le_of_lt_length (400 - power).toNat positive (by omega)
    have huge : (2 : ℚ) ^ (1024 : Int) ≤ digits * 10 ^ power := by
      calc
        (2 : ℚ) ^ (1024 : Int) ≤ 10 ^ (((400 - power).toNat : Int) + power) :=
          two_zpow_le_ten_zpow (by omega) (by omega)
        _ = 10 ^ (400 - power).toNat * 10 ^ power := by
          rw [zpow_add₀ (by norm_num), zpow_natCast]
        _ ≤ digits * 10 ^ power :=
          mul_le_mul_of_nonneg_right (by exact_mod_cast long) scale.le
    exact absurd bounds.2 (not_lt.2 huge)
  have notSmall : ¬ power + (Nat.toDigits 10 digits).length < -400 := by
    intro small
    have short : digits < 10 ^ (Nat.toDigits 10 digits).length :=
      (Nat.length_toDigits_le_iff (by decide) Nat.length_toDigits_pos).1 le_rfl
    have tiny : (digits : ℚ) * 10 ^ power < 2 ^ (-1075 : Int) := by
      calc
        (digits : ℚ) * 10 ^ power <
            10 ^ (Nat.toDigits 10 digits).length * 10 ^ power :=
          mul_lt_mul_of_pos_right (by exact_mod_cast short) scale
        _ = 10 ^ (((Nat.toDigits 10 digits).length : Int) + power) := by
          rw [zpow_add₀ (by norm_num), zpow_natCast]
        _ ≤ 2 ^ (-1075 : Int) :=
          ten_zpow_le_two_zpow (by omega) (by omega)
    exact absurd bounds.1 (not_le.2 tiny)
  have ratio : ((digits * Nat.pow 10 power.toNat : Nat) : ℚ) /
      (Nat.pow 10 (-power).toNat : Nat) = digits * 10 ^ power := by
    have same := zpow_mul_pow_toNat 10 (by norm_num) power
    push_cast [Nat.pow_eq]
    rw [← same]
    field_simp
  rw [← ratio] at rounds
  simp only [ofDecimal, if_neg positive.ne', if_neg notLarge, if_neg notSmall]
  exact ofRatio_of_roundsTo canonical nonzero
    (Nat.mul_pos positive (Nat.pow_pos (by decide)))
    (Nat.pow_pos (by decide)) rounds negative

end Runbook.Binary64

/-! ## The range of rounded numbers -/

namespace Runbook.Binary64

/-- The least rational that does not round to a finite number. -/
def overflow : ℚ := (2 ^ 53 - 1 / 2) * 2 ^ (971 : Int)

/-- The value of a number without its sign; none but a finite one has any. -/
def magnitude : Binary64 → ℚ
  | .finite _ mantissa exponent _ => mantissa * 2 ^ exponent
  | _ => 0

theorem overflow_lt : overflow < 2 ^ (1024 : Int) := by
  have same : (2 : ℚ) ^ (1024 : Int) = 2 ^ 53 * 2 ^ (971 : Int) := by
    rw [← zpow_natCast, ← zpow_add₀ two_ne_zero]
    rfl
  rw [same, overflow]
  exact mul_lt_mul_of_pos_right (by norm_num) (by positivity)

theorem magnitude_nonneg (number : Binary64) : 0 ≤ number.magnitude := by
  cases number with
  | finite negative mantissa exponent canonical =>
      exact mul_nonneg (Nat.cast_nonneg _) (zpow_pos two_pos _).le
  | _ => exact le_rfl

variable {numerator denominator : Nat}

/-- A quotient in the range is rounded to a finite number that exceeds it by
half a step of its grid at most. -/
theorem ofRatio_spec (negative : Bool) (positive : 0 < numerator)
    (positiveToo : 0 < denominator)
    (small : (numerator : ℚ) / denominator < overflow) :
    (ofRatio negative numerator denominator).isFinite = true ∧
      (ofRatio negative numerator denominator).magnitude ≤
        numerator / denominator + 2 ^ gridOf numerator denominator / 2 := by
  have power := floorLog2_lt positive positiveToo (small.trans overflow_lt)
  have order := floorLog2_spec positive positiveToo
  have nearest := isNearest_mantissaOf numerator positiveToo
  have finest : -1074 ≤ gridOf numerator denominator := le_max_right _ _
  have fits : floorLog2 numerator denominator ≤
      gridOf numerator denominator + 52 := by
    have least := le_max_left (floorLog2 numerator denominator - 52) (-1074)
    unfold gridOf
    omega
  have coarsest : gridOf numerator denominator ≤ 971 := by
    unfold gridOf
    omega
  have wide : gridOf numerator denominator = -1074 ∨
      gridOf numerator denominator + 52 = floorLog2 numerator denominator := by
    unfold gridOf
    omega
  rw [ofRatio_eq positive]
  generalize gridOf numerator denominator = grid at *
  generalize mantissaOf numerator denominator = mantissa at *
  have scale : (0 : ℚ) < 2 ^ grid := by positivity
  have less : (numerator : ℚ) / denominator / 2 ^ grid < 2 ^ 53 := by
    rw [div_lt_iff₀ scale, ← zpow_natCast, ← zpow_add₀ two_ne_zero]
    exact order.2.trans_le (zpow_le_zpow_right₀ (by norm_num) (by omega))
  have atMost : mantissa ≤ 2 ^ 53 := by
    have below : (mantissa : ℚ) < 2 ^ 53 + 1 := by linarith [nearest.above]
    exact Nat.lt_succ_iff.1 (by exact_mod_cast below)
  have value_le : (mantissa : ℚ) * 2 ^ grid ≤
      numerator / denominator + 2 ^ grid / 2 := by
    have above := mul_le_mul_of_nonneg_right nearest.above scale.le
    rw [div_mul_cancel₀ _ scale.ne'] at above
    linarith
  split
  · next isPower =>
      have notCoarsest : grid ≠ 971 := by
        rintro rfl
        have above := mul_le_mul_of_nonneg_right nearest.above scale.le
        rw [div_mul_cancel₀ _ scale.ne', isPower, Nat.cast_pow,
          Nat.cast_ofNat] at above
        exact absurd small (not_lt.2 above)
      have canonical : Canonical (2 ^ 52) (grid + 1) :=
        ⟨by decide, by omega, by omega, .inl le_rfl⟩
      have same : ((2 ^ 52 : Nat) : ℚ) * 2 ^ (grid + 1) =
          mantissa * 2 ^ grid := by
        rw [isPower, zpow_add₀ two_ne_zero]
        push_cast
        ring
      rw [ofParts, dif_pos canonical]
      exact ⟨rfl, same.trans_le value_le⟩
  · next notPower =>
      have canonical : Canonical mantissa grid := by
        refine ⟨Nat.lt_of_le_of_ne atMost notPower, finest, coarsest, ?_⟩
        refine wide.symm.imp_left fun isWide => ?_
        have above : (2 : ℚ) ^ 52 ≤ numerator / denominator / 2 ^ grid := by
          rw [le_div_iff₀ scale, ← zpow_natCast, ← zpow_add₀ two_ne_zero,
            add_comm]
          exact isWide ▸ order.1
        have more : (2 : ℚ) ^ 52 < mantissa + 1 := by linarith [nearest.below]
        exact Nat.lt_succ_iff.1 (by exact_mod_cast more)
      rw [ofParts, dif_pos canonical]
      exact ⟨rfl, value_le⟩

theorem isFinite_ofRatio (negative : Bool) (positive : 0 < denominator)
    (small : (numerator : ℚ) / denominator < overflow) :
    (ofRatio negative numerator denominator).isFinite = true := by
  rcases Nat.eq_zero_or_pos numerator with rfl | some
  · rfl
  · exact (ofRatio_spec negative some positive small).1

/-- A natural number is rounded up by one part in `2 ^ 53` at most. -/
theorem magnitude_ofRatio_one_le (negative : Bool) (value : Nat)
    (small : (value : ℚ) < overflow) :
    (ofRatio negative value 1).magnitude ≤ (1 + 1 / 2 ^ 53) * value := by
  rcases Nat.eq_zero_or_pos value with rfl | positive
  · simp [ofRatio, zero, magnitude]
  have step := (ofRatio_spec negative positive one_pos (by simpa)).2
  have order := (floorLog2_spec positive one_pos).1
  rw [Nat.cast_one, div_one] at step order
  have atLeast : 0 ≤ floorLog2 value 1 :=
    le_floorLog2 positive one_pos (by
      rw [zpow_zero, Nat.cast_one, div_one]
      exact_mod_cast positive)
  have fine : (2 : ℚ) ^ gridOf value 1 * 2 ^ 52 ≤ value := by
    have grid_eq : gridOf value 1 = floorLog2 value 1 - 52 := by
      unfold gridOf
      omega
    rw [grid_eq, ← zpow_natCast, ← zpow_add₀ two_ne_zero]
    simpa using order
  linarith

/-- A product in the range is finite. -/
theorem isFinite_mul {left right : Binary64} (leftFinite : left.isFinite = true)
    (rightFinite : right.isFinite = true)
    (small : left.magnitude * right.magnitude < overflow) :
    (left.mul right).isFinite = true := by
  cases left with
  | finite leftNegative leftMantissa leftExponent leftCanonical =>
      cases right with
      | finite rightNegative rightMantissa rightExponent rightCanonical =>
          refine isFinite_ofRatio _ (Nat.pow_pos (by decide)) ?_
          have same := zpow_mul_pow_toNat 2 two_ne_zero
            (leftExponent + rightExponent)
          have value_eq : ((leftMantissa * rightMantissa *
              Nat.pow 2 (leftExponent + rightExponent).toNat : Nat) : ℚ) /
                (Nat.pow 2 (-(leftExponent + rightExponent)).toNat : Nat) =
              leftMantissa * 2 ^ leftExponent *
                (rightMantissa * 2 ^ rightExponent) := by
            push_cast [Nat.pow_eq]
            rw [← same, zpow_add₀ two_ne_zero]
            field_simp
          rw [value_eq]
          exact small
      | _ => cases rightFinite
  | _ => cases leftFinite

end Runbook.Binary64
