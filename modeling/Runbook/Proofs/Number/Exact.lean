import Mathlib.Tactic.Ring
import Runbook.Number.Binary64

/-!
# Exact integers

Every integer of a size up to `2 ^ 53` is equal to a number.  Numbers that are
equal to integers are ordered as these are, and so they are added, as long as
the sum is not too large.
-/

namespace Runbook

namespace Binary64

/-- The integers that numbers are sure to hold are of this size at most. -/
def exactLimit : Nat := 2 ^ 53

/-- A number is equal to an integer. -/
def EqualsInt (number : Binary64) (value : Int) : Prop :=
  ∃ negative mantissa exponent canonical,
    number = .finite negative mantissa exponent canonical ∧
      signed negative mantissa * 2 ^ exponent.toNat =
        value * 2 ^ (-exponent).toNat

variable {left right number : Binary64} {value : Int} {negative : Bool}
  {mantissa magnitude : Nat} {exponent grid : Int}

@[simp]
theorem signed_zero : signed negative 0 = 0 := by
  cases negative <;> rfl

theorem signed_mul (factor : Nat) :
    signed negative (magnitude * factor) =
      signed negative magnitude * (factor : Int) := by
  cases negative <;> simp [signed]

theorem signed_natAbs (value : Int) :
    signed (decide (value < 0)) value.natAbs = value := by
  unfold signed
  split
  · next isNegative =>
      have below : value < 0 := of_decide_eq_true isNegative
      omega
  · next isPositive =>
      have above : ¬ value < 0 := by simpa using isPositive
      omega

theorem natAbs_signed :
    (signed negative magnitude).natAbs = magnitude := by
  cases negative <;> simp [signed]

theorem equalsInt_zero : (zero negative).EqualsInt 0 := by
  refine ⟨negative, 0, -1074, by decide, rfl, ?_⟩
  rw [signed_zero, Int.zero_mul, Int.zero_mul]

/-- A mantissa on a coarser or finer grid stands for the same integer. -/
theorem signed_onGrid (fine : grid ≤ exponent)
    (equals : signed negative mantissa * 2 ^ exponent.toNat =
      value * 2 ^ (-exponent).toNat) :
    signed negative (onGrid mantissa exponent grid) * 2 ^ grid.toNat =
      value * 2 ^ (-grid).toNat := by
  have shift : (exponent - grid).toNat + grid.toNat + (-exponent).toNat =
      exponent.toNat + (-grid).toNat := by
    omega
  have scaled : signed negative (onGrid mantissa exponent grid) =
      signed negative mantissa * 2 ^ (exponent - grid).toNat := by
    unfold onGrid
    rw [signed_mul]
    simp
  have nonzero : (2 : Int) ^ (-exponent).toNat ≠ 0 := by simp
  apply mul_right_cancel₀ nonzero
  calc
    signed negative (onGrid mantissa exponent grid) * 2 ^ grid.toNat *
          2 ^ (-exponent).toNat =
        signed negative mantissa *
          2 ^ ((exponent - grid).toNat + grid.toNat + (-exponent).toNat) := by
      rw [scaled, pow_add, pow_add]
      ring
    _ = signed negative mantissa * 2 ^ exponent.toNat * 2 ^ (-grid).toNat := by
      rw [shift, pow_add]
      ring
    _ = value * 2 ^ (-grid).toNat * 2 ^ (-exponent).toNat := by
      rw [equals]
      ring

/-! ### Rounding -/

theorem roundDiv_mul (quotient denominator : Nat) (positive : 0 < denominator) :
    roundDiv (quotient * denominator) denominator = quotient := by
  simp [roundDiv, positive]

theorem log2_mul_two_pow (shift : Nat) (positive : 0 < magnitude) :
    (magnitude * 2 ^ shift).log2 = magnitude.log2 + shift := by
  have nonzero : magnitude * 2 ^ shift ≠ 0 := by
    simp [positive.ne']
  rw [Nat.log2_eq_iff nonzero]
  constructor
  · rw [Nat.pow_add]
    exact Nat.mul_le_mul_right _ (Nat.log2_self_le positive.ne')
  · rw [Nat.add_right_comm, Nat.pow_add]
    exact Nat.mul_lt_mul_of_pos_right Nat.lt_log2_self (Nat.two_pow_pos shift)

theorem floorLog2_mul (shift : Nat) (positive : 0 < magnitude) :
    floorLog2 (magnitude * 2 ^ shift) (2 ^ shift) = magnitude.log2 := by
  have estimate : (((magnitude * 2 ^ shift).log2 : Int) -
      ((2 ^ shift : Nat).log2 : Int)) = magnitude.log2 := by
    rw [log2_mul_two_pow shift positive, Nat.log2_two_pow]
    omega
  have fits : 2 ^ shift * 2 ^ magnitude.log2 ≤ magnitude * 2 ^ shift := by
    rw [Nat.mul_comm]
    exact Nat.mul_le_mul_right _ (Nat.log2_self_le positive.ne')
  simp only [floorLog2, estimate]
  rw [if_pos]
  simpa using fits

theorem equalsInt_ofParts (canonical : Canonical mantissa exponent)
    (equals : signed negative mantissa * 2 ^ exponent.toNat =
      value * 2 ^ (-exponent).toNat) :
    (ofParts negative mantissa exponent).EqualsInt value := by
  rw [ofParts, dif_pos canonical]
  exact ⟨negative, mantissa, exponent, canonical, rfl, equals⟩

/-- A quotient that is an integer is not rounded. -/
theorem equalsInt_ofRatio (shift : Nat) (small : magnitude ≤ exactLimit) :
    (ofRatio negative (magnitude * 2 ^ shift) (2 ^ shift)).EqualsInt
      (signed negative magnitude) := by
  rcases Nat.eq_zero_or_pos magnitude with rfl | positive
  · simpa [ofRatio] using equalsInt_zero
  have nonzero : magnitude * 2 ^ shift ≠ 0 := by
    simp [positive.ne']
  have lower := Nat.log2_self_le positive.ne'
  have upper := Nat.lt_log2_self (n := magnitude)
  simp only [ofRatio, if_neg nonzero, floorLog2_mul shift positive]
  generalize magnitude.log2 = size at lower upper
  have atMost : size ≤ 53 := by
    by_contra beyond
    have larger : 2 ^ 54 ≤ 2 ^ size :=
      Nat.pow_le_pow_right (by decide) (by omega)
    unfold exactLimit at small
    omega
  have exponent_eq : max ((size : Int) - 52) (-1074) = (size : Int) - 52 := by
    omega
  rw [exponent_eq]
  rcases Nat.lt_or_eq_of_le atMost with below | rfl
  · -- The mantissa is the integer, shifted to its full width.
    obtain ⟨fill, filled⟩ := Nat.exists_eq_add_of_le (Nat.le_of_lt_succ below)
    have exponent_eq : (size : Int) - 52 = -(fill : Int) := by omega
    have toNat_fill : (-(-(fill : Int))).toNat = fill := by simp
    have toNat_neg : (-(fill : Int)).toNat = 0 := by simp
    have quotient : roundDiv (magnitude * 2 ^ shift * Nat.pow 2 fill)
        (2 ^ shift * Nat.pow 2 0) = magnitude * 2 ^ fill := by
      have reordered : magnitude * 2 ^ shift * Nat.pow 2 fill =
          magnitude * 2 ^ fill * (2 ^ shift * Nat.pow 2 0) := by
        simp only [Nat.pow_eq, Nat.pow_zero, Nat.mul_one]
        ring
      rw [reordered]
      exact roundDiv_mul _ _ (by simp)
    have atLeast : 2 ^ 52 ≤ magnitude * 2 ^ fill := by
      rw [filled, Nat.pow_add]
      exact Nat.mul_le_mul_right _ lower
    have less : magnitude * 2 ^ fill < Nat.pow 2 53 := by
      change _ < 2 ^ 53
      have width : 53 = size + 1 + fill := by omega
      rw [width, Nat.pow_add]
      exact Nat.mul_lt_mul_of_pos_right upper (Nat.two_pow_pos fill)
    rw [exponent_eq, toNat_fill, toNat_neg, quotient,
      if_neg (Nat.ne_of_lt less)]
    refine equalsInt_ofParts ⟨less, by omega, by omega, .inl atLeast⟩ ?_
    rw [toNat_fill, toNat_neg, signed_mul]
    simp
  · -- Only the limit itself needs a bit more.
    have isLimit : magnitude = 2 ^ 53 := by
      unfold exactLimit at small
      omega
    have quotient : roundDiv (2 ^ 53 * 2 ^ shift * Nat.pow 2 (-1 : Int).toNat)
        (2 ^ shift * Nat.pow 2 (1 : Int).toNat) = 2 ^ 52 := by
      have reordered : 2 ^ 53 * 2 ^ shift * Nat.pow 2 (-1 : Int).toNat =
          2 ^ 52 * (2 ^ shift * Nat.pow 2 (1 : Int).toNat) := by
        change 2 ^ 53 * 2 ^ shift * 1 = 2 ^ 52 * (2 ^ shift * 2)
        ring
      rw [reordered]
      exact roundDiv_mul _ _ (by simp)
    have exponent_eq : ((53 : Nat) : Int) - 52 = 1 := by decide
    rw [exponent_eq, isLimit, quotient, if_neg (by decide)]
    refine equalsInt_ofParts (by decide) ?_
    cases negative <;> decide

/-! ### Operations -/

theorem EqualsInt.isFinite (equals : number.EqualsInt value) :
    number.isFinite = true := by
  obtain ⟨negative, mantissa, exponent, canonical, rfl, -⟩ := equals
  rfl

theorem compare_eq_of_scaled {first second third fourth scale other : Int}
    (positive : 0 < scale) (positiveToo : 0 < other)
    (onFirst : first * scale = third * other)
    (onSecond : second * scale = fourth * other) :
    compare first second = compare third fourth := by
  have less : first < second ↔ third < fourth := by
    rw [← Int.mul_lt_mul_right positive, onFirst, onSecond,
      Int.mul_lt_mul_right positiveToo]
  have same : first = second ↔ third = fourth := by
    rw [← Int.mul_eq_mul_right_iff positive.ne', onFirst, onSecond,
      Int.mul_eq_mul_right_iff positiveToo.ne']
  change compareOfLessAndEq first second = compareOfLessAndEq third fourth
  simp only [compareOfLessAndEq, less, same]

theorem two_pow_pos (power : Nat) : (0 : Int) < 2 ^ power :=
  Int.pow_pos (by decide)

theorem EqualsInt.compare? {first second : Int} (equals : left.EqualsInt first)
    (equalsToo : right.EqualsInt second) :
    left.compare? right = some (compare first second) := by
  obtain ⟨negative, mantissa, exponent, -, rfl, equals⟩ := equals
  obtain ⟨negativeToo, mantissaToo, exponentToo, -, rfl, equalsToo⟩ :=
    equalsToo
  have onLeft := signed_onGrid (Int.min_le_left exponent exponentToo) equals
  have onRight :=
    signed_onGrid (Int.min_le_right exponent exponentToo) equalsToo
  exact congrArg some (compare_eq_of_scaled (two_pow_pos _) (two_pow_pos _)
    onLeft onRight)

theorem equalsInt_add {first second : Int} (equals : left.EqualsInt first)
    (equalsToo : right.EqualsInt second)
    (small : (first + second).natAbs ≤ exactLimit) :
    (left.add right).EqualsInt (first + second) := by
  obtain ⟨negative, mantissa, exponent, -, rfl, equals⟩ := equals
  obtain ⟨negativeToo, mantissaToo, exponentToo, -, rfl, equalsToo⟩ :=
    equalsToo
  have onLeft := signed_onGrid (Int.min_le_left exponent exponentToo) equals
  have onRight :=
    signed_onGrid (Int.min_le_right exponent exponentToo) equalsToo
  simp only [add]
  generalize min exponent exponentToo = grid at onLeft onRight
  generalize isSum : signed negative (onGrid mantissa exponent grid) +
    signed negativeToo (onGrid mantissaToo exponentToo grid) = sum
  have scaled : sum * 2 ^ grid.toNat =
      (first + second) * 2 ^ (-grid).toNat := by
    rw [← isSum, Int.add_mul, onLeft, onRight, Int.add_mul]
  generalize first + second = value at small scaled
  by_cases isZero : sum = 0
  · have nothing : value = 0 := by
      rw [isZero, Int.zero_mul] at scaled
      have factors := Int.mul_eq_zero.1 scaled.symm
      exact factors.resolve_right (two_pow_pos _).ne'
    rw [if_pos isZero, nothing]
    exact equalsInt_zero
  · rw [if_neg isZero]
    have sizes : sum.natAbs * Nat.pow 2 grid.toNat =
        value.natAbs * 2 ^ (-grid).toNat := by
      have absolute := congrArg Int.natAbs scaled
      simpa [Int.natAbs_mul, Int.natAbs_pow] using absolute
    have signs : sum < 0 ↔ value < 0 := by
      have onSum : sum * 2 ^ grid.toNat < 0 * 2 ^ grid.toNat ↔ sum < 0 :=
        Int.mul_lt_mul_right (two_pow_pos _)
      have onValue : value * 2 ^ (-grid).toNat < 0 * 2 ^ (-grid).toNat ↔
          value < 0 := Int.mul_lt_mul_right (two_pow_pos _)
      rw [← onSum, ← onValue, scaled, Int.zero_mul, Int.zero_mul]
    have rounded := @equalsInt_ofRatio (decide (value < 0)) value.natAbs
      (-grid).toNat small
    rw [signed_natAbs] at rounded
    simp only [ofDyadic, sizes, signs]
    exact rounded

/-- A number that is equal to an integer is recognised as this integer. -/
theorem EqualsInt.toInt? (equals : number.EqualsInt value) :
    number.toInt? = some value := by
  obtain ⟨negative, mantissa, exponent, -, rfl, equals⟩ := equals
  simp only [Binary64.toInt?, Nat.pow_eq]
  rcases Int.le_total 0 exponent with whole | fractional
  · have noFraction : (-exponent).toNat = 0 := by omega
    rw [noFraction, Int.pow_zero, Int.mul_one] at equals
    rw [noFraction, Nat.pow_zero, Nat.mod_one, if_pos rfl, Nat.div_one,
      signed_mul, ← equals]
    simp
  · have noFactor : exponent.toNat = 0 := by omega
    rw [noFactor, Int.pow_zero, Int.mul_one] at equals
    have size : mantissa = value.natAbs * 2 ^ (-exponent).toNat := by
      have absolute := congrArg Int.natAbs equals
      simpa [natAbs_signed, Int.natAbs_mul, Int.natAbs_pow] using absolute
    have same : signed negative value.natAbs = value := by
      rw [size, signed_mul] at equals
      apply mul_right_cancel₀ (two_pow_pos (-exponent).toNat).ne'
      simpa using equals
    rw [noFactor, size, Nat.mul_mod_left, if_pos rfl,
      Nat.mul_div_cancel _ (Nat.two_pow_pos _), Nat.pow_zero, Nat.mul_one,
      same]

/-- The sign of a number is the sign of the integer that it is equal to. -/
theorem negative_eq (nonzero : value ≠ 0)
    (equals : signed negative mantissa * 2 ^ exponent.toNat =
      value * 2 ^ (-exponent).toNat) :
    negative = decide (value < 0) := by
  have scale := two_pow_pos exponent.toNat
  have scaleToo := two_pow_pos (-exponent).toNat
  cases negative with
  | false =>
      have atLeast : 0 ≤ (mantissa : Int) * 2 ^ exponent.toNat :=
        Int.mul_nonneg (Int.natCast_nonneg _) scale.le
      have above : ¬ value < 0 := by
        intro below
        have product := Int.mul_neg_of_neg_of_pos below scaleToo
        rw [← equals] at product
        exact absurd atLeast (Int.not_le.2 product)
      simp [above]
  | true =>
      have atMost : -(mantissa : Int) * 2 ^ exponent.toNat ≤ 0 :=
        Int.mul_nonpos_of_nonpos_of_nonneg (by omega) scale.le
      have below : value < 0 := by
        by_contra above
        have positive : 0 < value := by omega
        have product := Int.mul_pos positive scaleToo
        rw [← equals] at product
        exact absurd atMost (Int.not_le.2 product)
      simp [below]

end Binary64

end Runbook
