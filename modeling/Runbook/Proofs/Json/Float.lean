import Runbook.Proofs.Json.Numeral
import Runbook.Proofs.Number.Rounding

/-!
# Finite numbers in text

The digits that are found for a number round to it again.  The search ends on a
grid that is at most ten times finer than the numbers are dense, so there are
never more digits than a machine word holds.

A finite number is written as a numeral that stands for exactly this number.
The reader multiplies or divides rounded numbers and may find a neighbour of
it, but it always finds a number: the product never leaves the range.
-/

/-! ## Shortest digits read back -/

namespace Runbook.Decimal

open Binary64 (RoundsTo Canonical)

variable {mantissa : Nat} {exponent : Int} {decimal : Decimal}

/-- A bound on the digits that are found for a number. -/
def digitsLimit : Nat := 20 * 2 ^ 53 + 1

/-- A decimal reads back as a number and has few digits. -/
structure Suits (decimal : Decimal) (mantissa : Nat) (exponent : Int) :
    Prop where
  roundsTo : RoundsTo mantissa exponent
    (decimal.digits * 10 ^ decimal.exponent)
  few : decimal.digits ≤ digitsLimit

/-- The lower neighbour of a number on a decimal grid. -/
def lowerOn (mantissa : Nat) (exponent grid : Int) : Nat :=
  mantissa * Nat.pow 2 exponent.toNat * Nat.pow 10 (-grid).toNat /
    (Nat.pow 2 (-exponent).toNat * Nat.pow 10 grid.toNat)

theorem lowerOn_spec (mantissa : Nat) (exponent grid : Int) :
    (lowerOn mantissa exponent grid : ℚ) * 10 ^ grid ≤
        mantissa * 2 ^ exponent ∧
      (mantissa : ℚ) * 2 ^ exponent <
        (lowerOn mantissa exponent grid + 1 : Nat) * 10 ^ grid := by
  have two := Binary64.zpow_mul_pow_toNat 2 (by norm_num) exponent
  have ten := Binary64.zpow_mul_pow_toNat 10 (by norm_num) grid
  have positive : 0 < 2 ^ (-exponent).toNat * 10 ^ grid.toNat := by
    positivity
  have factor : (0 : ℚ) < 2 ^ (-exponent).toNat * 10 ^ (-grid).toNat := by
    positivity
  have low := Nat.div_mul_le_self
    (mantissa * 2 ^ exponent.toNat * 10 ^ (-grid).toNat)
    (2 ^ (-exponent).toNat * 10 ^ grid.toNat)
  have high := Nat.lt_mul_div_succ
    (mantissa * 2 ^ exponent.toNat * 10 ^ (-grid).toNat) positive
  change lowerOn mantissa exponent grid * _ ≤ _ at low
  change _ < _ * (lowerOn mantissa exponent grid + 1) at high
  generalize lowerOn mantissa exponent grid = lower at low high
  rw [← mul_le_mul_iff_of_pos_right factor, ← mul_lt_mul_iff_of_pos_right
    factor]
  have value_eq : (mantissa : ℚ) * 2 ^ exponent *
      (2 ^ (-exponent).toNat * 10 ^ (-grid).toNat) =
        (mantissa * 2 ^ exponent.toNat * 10 ^ (-grid).toNat : Nat) := by
    push_cast
    rw [← two]
    ring
  have multiple (count : Nat) : (count : ℚ) * 10 ^ grid *
      (2 ^ (-exponent).toNat * 10 ^ (-grid).toNat) =
        (count * (2 ^ (-exponent).toNat * 10 ^ grid.toNat) : Nat) := by
    push_cast
    rw [← ten]
    ring
  rw [value_eq, multiple, multiple, Nat.cast_le, Nat.cast_lt,
    mul_comm (lower + 1)]
  exact ⟨low, high⟩

/-- The upper neighbour reads back on a grid that is finer than half of the
distance to the next number. -/
theorem roundsTo_of_fine {upper : Nat} {grid : Int} (nonzero : 0 < mantissa)
    (fine : (10 : ℚ) ^ grid < 2 ^ (exponent - 1))
    (above : (mantissa : ℚ) * 2 ^ exponent < upper * 10 ^ grid)
    (near : upper * (10 : ℚ) ^ grid ≤ mantissa * 2 ^ exponent + 10 ^ grid) :
    RoundsTo mantissa exponent (upper * 10 ^ grid) := by
  have scale : (0 : ℚ) < 2 ^ exponent := by positivity
  have gap := Binary64.gapBelow_pos mantissa exponent
  have half : (2 : ℚ) ^ (exponent - 1) = 1 / 2 * 2 ^ exponent := by
    rw [zpow_sub₀ two_ne_zero, zpow_one]
    ring
  have inside : (mantissa - Binary64.gapBelow mantissa exponent : ℚ) *
        2 ^ exponent < upper * 10 ^ grid := by
    nlinarith
  have below : upper * (10 : ℚ) ^ grid <
      (mantissa + 1 / 2) * 2 ^ exponent := by
    linarith
  rw [← Binary64.low_eq nonzero] at inside
  rw [← Binary64.high_eq] at below
  exact ⟨inside.le, below.le, fun _ => ⟨inside, below⟩⟩

/-- If the upper neighbour does not read back, then the grid is coarse. -/
theorem coarse_of_readsBack_false {grid : Int} (nonzero : 0 < mantissa)
    (misses : readsBack mantissa exponent
      (lowerOn mantissa exponent grid + 1) grid = false) :
    (2 : ℚ) ^ (exponent - 1) ≤ 10 ^ grid := by
  by_contra fine
  rw [not_le] at fine
  have neighbours := lowerOn_spec mantissa exponent grid
  have rounds := roundsTo_of_fine nonzero fine neighbours.2 (by
    push_cast
    linarith [neighbours.1])
  rw [← Binary64.readsBack_eq_true_iff, misses] at rounds
  cases rounds

/-- A step of the search: a neighbour that reads back is taken, and if there is
none the next grid is tried. -/
theorem search_succ (mantissa : Nat) (exponent : Int) (fuel : Nat)
    (grid : Int) :
    (∃ digits ≤ lowerOn mantissa exponent grid + 1,
        readsBack mantissa exponent digits grid = true ∧
          search mantissa exponent (fuel + 1) grid = ⟨digits, grid⟩) ∨
      (readsBack mantissa exponent (lowerOn mantissa exponent grid + 1) grid =
          false ∧
        search mantissa exponent (fuel + 1) grid =
          search mantissa exponent fuel (grid - 1)) := by
  have takes (digits : Nat)
      (neighbour : digits ≤ lowerOn mantissa exponent grid + 1)
      (fits : readsBack mantissa exponent digits grid = true)
      (found : search mantissa exponent (fuel + 1) grid = ⟨digits, grid⟩) :
      ∃ digits ≤ lowerOn mantissa exponent grid + 1,
        readsBack mantissa exponent digits grid = true ∧
          search mantissa exponent (fuel + 1) grid = ⟨digits, grid⟩ :=
    ⟨digits, neighbour, fits, found⟩
  cases isUpper : readsBack mantissa exponent
      (lowerOn mantissa exponent grid + 1) grid with
  | false =>
      cases isLower : readsBack mantissa exponent
          (lowerOn mantissa exponent grid) grid with
      | false =>
          refine .inr ⟨rfl, ?_⟩
          unfold lowerOn at isUpper isLower
          simp only [search, isUpper, isLower, Bool.and_false,
            Bool.false_eq_true, if_false]
      | true =>
          refine .inl (takes _ (Nat.le_succ _) isLower ?_)
          unfold lowerOn at isUpper isLower ⊢
          simp only [search, isUpper, isLower, Bool.and_false,
            Bool.false_eq_true, if_false, if_true]
  | true =>
      left
      cases isLower : readsBack mantissa exponent
          (lowerOn mantissa exponent grid) grid with
      | false =>
          refine takes _ le_rfl isUpper ?_
          unfold lowerOn at isUpper isLower ⊢
          simp only [search, isUpper, isLower, Bool.false_and,
            Bool.false_eq_true, if_false, if_true]
      | true =>
          -- Both neighbours read back, and one of them is nearer.
          have either : search mantissa exponent (fuel + 1) grid =
                ⟨lowerOn mantissa exponent grid, grid⟩ ∨
              search mantissa exponent (fuel + 1) grid =
                ⟨lowerOn mantissa exponent grid + 1, grid⟩ := by
            unfold lowerOn at isUpper isLower ⊢
            simp only [search, isUpper, isLower, Bool.and_self, if_true]
            split
            · exact .inl rfl
            · split
              · exact .inr rfl
              · split
                · exact .inl rfl
                · exact .inr rfl
          rcases either with found | found
          · exact takes _ (Nat.le_succ _) isLower found
          · exact takes _ le_rfl isUpper found

/-- What is searched for is found while the grid is still coarse enough. -/
theorem suits_search (fuel : Nat) (less : mantissa < 2 ^ 53)
    (nonzero : 0 < mantissa) {grid : Int}
    (enough : (10 : ℚ) ^ (grid - fuel) < 2 ^ (exponent - 1))
    (near : (mantissa : ℚ) * 2 ^ exponent ≤ 20 * 2 ^ 53 * 10 ^ grid) :
    (search mantissa exponent (fuel + 1) grid).Suits mantissa exponent := by
  have scale : (0 : ℚ) < 10 ^ grid := by positivity
  rcases search_succ mantissa exponent fuel grid with
    ⟨digits, atMost, fits, found⟩ | ⟨misses, goesOn⟩
  · rw [found]
    have lower := (lowerOn_spec mantissa exponent grid).1.trans near
    have few : lowerOn mantissa exponent grid ≤ 20 * 2 ^ 53 := by
      exact_mod_cast (mul_le_mul_iff_of_pos_right scale).1 lower
    exact ⟨(Binary64.readsBack_eq_true_iff _ _).1 fits,
      atMost.trans (Nat.succ_le_succ few)⟩
  · have coarse := coarse_of_readsBack_false nonzero misses
    rw [goesOn]
    cases fuel with
    | zero =>
        rw [Nat.cast_zero, sub_zero] at enough
        exact absurd enough (not_lt.2 coarse)
    | succ fuel =>
        refine suits_search _ less nonzero ?_ ?_
        · have same : grid - 1 - fuel = grid - (fuel + 1 : Nat) := by
            push_cast
            ring
          rwa [same]
        · have atMost : (mantissa : ℚ) ≤ 2 ^ 53 := by exact_mod_cast less.le
          have half : (2 : ℚ) ^ exponent = 2 * 2 ^ (exponent - 1) := by
            rw [zpow_sub₀ two_ne_zero, zpow_one]
            ring
          have tenth : (10 : ℚ) ^ grid = 10 * 10 ^ (grid - 1) := by
            rw [zpow_sub₀ (by norm_num), zpow_one]
            ring
          calc
            (mantissa : ℚ) * 2 ^ exponent ≤ 2 ^ 53 * (2 * 10 ^ grid) := by
              rw [half]
              exact mul_le_mul atMost (by linarith) (by positivity)
                (by positivity)
            _ = 20 * 2 ^ 53 * 10 ^ (grid - 1) := by
              rw [tenth]
              ring

theorem suits_dropZeros (fuel : Nat)
    (suits : decimal.Suits mantissa exponent) :
    (dropZeros fuel decimal).Suits mantissa exponent := by
  induction fuel generalizing decimal with
  | zero => exact suits
  | succ fuel ih =>
      rw [dropZeros]
      split
      · next isMultiple =>
          refine ih ⟨?_, (Nat.div_le_self _ _).trans suits.few⟩
          have whole : ((decimal.digits / 10 : Nat) : ℚ) * 10 =
              decimal.digits := by
            exact_mod_cast Nat.div_mul_cancel
              (Nat.dvd_of_mod_eq_zero isMultiple.2)
          have same : ((decimal.digits / 10 : Nat) : ℚ) *
              10 ^ (decimal.exponent + 1) =
                decimal.digits * 10 ^ decimal.exponent := by
            rw [← whole, zpow_add₀ (by norm_num), zpow_one]
            ring
          rw [same]
          exact suits.roundsTo
      · exact suits

/-- The digits that are found for a number read back as the number, and are
few. -/
theorem suits_shortest (canonical : Canonical mantissa exponent)
    (nonzero : 0 < mantissa) :
    (shortest mantissa exponent).Suits mantissa exponent := by
  have less : mantissa < 2 ^ 53 := canonical.1
  obtain ⟨-, least, most, -⟩ := canonical
  have width : mantissa.log2 < 53 := (Nat.log2_lt nonzero.ne').2 less
  rw [shortest, if_neg nonzero.ne']
  dsimp only
  rw [Int.fdiv_eq_ediv_of_nonneg _ (by decide)]
  generalize isGrid : ((mantissa.log2 : Int) + exponent + 2) * 30103 / 100000 +
    1 = grid
  refine suits_dropZeros 20 (suits_search 39 less nonzero ?_ ?_)
  · calc
      (10 : ℚ) ^ (grid - (39 : Nat)) ≤ 2 ^ (exponent - 2) :=
        Binary64.ten_zpow_le_two_zpow (by omega) (by omega)
      _ < 2 ^ (exponent - 1) :=
        zpow_lt_zpow_right₀ (by norm_num) (by omega)
  · have atMost : (mantissa : ℚ) ≤ 2 ^ 53 := by exact_mod_cast less.le
    have scale : (0 : ℚ) < 10 ^ grid := by positivity
    calc
      (mantissa : ℚ) * 2 ^ exponent ≤ 2 ^ 53 * 10 ^ (grid + 1) :=
        mul_le_mul atMost
          (Binary64.two_zpow_le_ten_zpow (by omega) (by omega))
          (by positivity) (by positivity)
      _ = 10 * 2 ^ 53 * 10 ^ grid := by
        rw [zpow_add₀ (by norm_num), zpow_one]
        ring
      _ ≤ 20 * 2 ^ 53 * 10 ^ grid := by
        refine mul_le_mul_of_nonneg_right ?_ scale.le
        norm_num

/-- Only zero has no digits, and it has no exponent. -/
theorem shortest_normal (canonical : Canonical mantissa exponent)
    (none : (shortest mantissa exponent).digits = 0) :
    mantissa = 0 ∧ (shortest mantissa exponent).exponent = 0 := by
  rcases Nat.eq_zero_or_pos mantissa with rfl | nonzero
  · exact ⟨rfl, rfl⟩
  · have bounds :=
      (suits_shortest canonical nonzero).roundsTo.bounds canonical nonzero
    have least : (0 : ℚ) < 2 ^ (-1075 : Int) := by positivity
    rw [none, Nat.cast_zero, zero_mul] at bounds
    exact absurd least (not_lt.2 bounds.1)

end Runbook.Decimal

/-! ## Finite numbers in text -/

namespace Runbook.Json

open Binary64 (Canonical overflow)

/-! ### Scaling by a power of ten -/

/-- Dividing by a power of ten always goes well. -/
theorem Number.isSome_scale_of_neg (fuel : Nat) (value : Binary64)
    {power : Int} (divides : power < 0) :
    (Number.scale fuel value power).isSome = true := by
  induction fuel generalizing value power with
  | zero => rfl
  | succ fuel ih =>
      unfold Number.scale
      split
      · rw [if_neg divides.not_ge]
        rfl
      · next far =>
          split
          · rfl
          · rw [if_neg divides.not_ge]
            exact ih _ (by omega)

theorem ten_pow_lt_overflow {power : Nat} (fits : power ≤ 308) :
    (10 : ℚ) ^ power < overflow := by
  have most : 10 ^ 308 + 2 ^ 971 < 2 ^ 53 * 2 ^ 971 := by decide +kernel
  have scale : (0 : ℚ) < 2 ^ 971 := by positivity
  calc
    (10 : ℚ) ^ power ≤ 10 ^ 308 := pow_le_pow_right₀ (by norm_num) fits
    _ < 2 ^ 53 * 2 ^ 971 - 2 ^ 971 := lt_sub_iff_add_lt.2 (mod_cast most)
    _ ≤ overflow := by
      have same : (2 : ℚ) ^ (971 : Int) = 2 ^ 971 := zpow_natCast 2 971
      rw [overflow, same]
      generalize (2 : ℚ) ^ 971 = step at scale
      linarith

theorem powerOfTen_eq {power : Nat} (fits : power ≤ 308) :
    Number.powerOfTen power = .ofRatio false (10 ^ power) 1 := by
  have length : (Nat.toDigits 10 1).length = 1 := rfl
  simp only [Number.powerOfTen, Binary64.ofDecimal, length]
  rw [if_neg (by decide), if_neg (by omega), if_neg (by omega)]
  simp [Nat.pow_eq]

/-- A product in the range is found, with some room for rounding. -/
theorem Number.isSome_ofParts? {significand : Nat} {power : Int}
    (fits : power ≤ 308)
    (small : (significand : ℚ) * 10 ^ power * (1 + 1 / 2 ^ 53) ^ 2 < overflow)
    (negative : Bool) :
    (Number.ofParts? negative significand power).isSome = true := by
  rw [Number.ofParts?, Option.isSome_map]
  rcases lt_or_ge power 0 with divides | multiplies
  · exact isSome_scale_of_neg 4 _ divides
  obtain ⟨power, rfl⟩ := Int.eq_ofNat_of_zero_le multiplies
  rw [zpow_natCast] at small
  have fits : power ≤ 308 := by omega
  have powerSmall : ((10 ^ power : Nat) : ℚ) < overflow := by
    exact_mod_cast ten_pow_lt_overflow fits
  have atLeast : (1 : ℚ) ≤ 10 ^ power := one_le_pow₀ (by norm_num)
  have significandSmall : (significand : ℚ) < overflow := by
    refine lt_of_le_of_lt ?_ small
    have first := le_mul_of_one_le_right (Nat.cast_nonneg significand) atLeast
    exact first.trans (le_mul_of_one_le_right (by positivity) (by norm_num))
  have bound := Binary64.magnitude_ofRatio_one_le false _ significandSmall
  have powerBound := Binary64.magnitude_ofRatio_one_le false _ powerSmall
  have finite : ((Binary64.ofNat significand).mul
      (Number.powerOfTen power)).isFinite = true := by
    rw [powerOfTen_eq fits]
    refine Binary64.isFinite_mul
      (Binary64.isFinite_ofRatio false one_pos ?_)
      (Binary64.isFinite_ofRatio false one_pos ?_) ?_
    · rwa [Nat.cast_one, div_one]
    · rwa [Nat.cast_one, div_one]
    calc
      _ ≤ (1 + 1 / 2 ^ 53) * (significand : ℚ) *
          ((1 + 1 / 2 ^ 53) * (10 ^ power : Nat)) :=
        mul_le_mul bound powerBound (Binary64.magnitude_nonneg _)
          (by positivity)
      _ = significand * 10 ^ power * (1 + 1 / 2 ^ 53) ^ 2 := by
        push_cast
        ring
      _ < overflow := small
  have near : (power : Int).natAbs ≤ 308 := by omega
  unfold Number.scale
  rw [if_pos near, if_pos multiplies, Int.natAbs_natCast]
  dsimp only
  rw [if_pos finite]
  rfl

/-! ### The digits of a finite number -/

variable {mantissa : Nat} {exponent : Int}

/-- All but the last three numbers leave room for two more roundings. -/
theorem lt_overflow_of_not_top (canonical : Canonical mantissa exponent)
    (notTop : ¬ (exponent = 971 ∧ 2 ^ 53 ≤ mantissa + 3)) :
    ((mantissa : ℚ) + 1 / 2) * 2 ^ exponent * (1 + 1 / 2 ^ 53) ^ 2 <
      overflow := by
  have less : mantissa + 1 ≤ 2 ^ 53 := canonical.1
  obtain ⟨-, -, most, -⟩ := canonical
  have scale : (0 : ℚ) < 2 ^ (971 : Int) := by positivity
  rcases Int.lt_or_eq_of_le most with lower | rfl
  · have atMost : (mantissa : ℚ) + 1 ≤ 2 ^ 53 := by exact_mod_cast less
    have half : (2 : ℚ) ^ exponent ≤ 2 ^ (971 : Int) / 2 := by
      rw [div_eq_mul_inv, ← zpow_sub_one₀ (two_ne_zero (α := ℚ))]
      exact zpow_le_zpow_right₀ (by norm_num) (by omega)
    calc
      _ ≤ 2 ^ 53 * (2 ^ (971 : Int) / 2) * (1 + 1 / 2 ^ 53 : ℚ) ^ 2 := by
        gcongr
        linarith
      _ = 2 ^ 52 * (1 + 1 / 2 ^ 53) ^ 2 * 2 ^ (971 : Int) := by ring
      _ < overflow :=
        mul_lt_mul_of_pos_right (by norm_num) scale
  · have atMost : (mantissa : ℚ) + 4 ≤ 2 ^ 53 := by
      have below : mantissa + 4 ≤ 2 ^ 53 := by omega
      exact_mod_cast below
    calc
      _ ≤ (2 ^ 53 - 7 / 2) * 2 ^ (971 : Int) * (1 + 1 / 2 ^ 53 : ℚ) ^ 2 := by
        gcongr
        linarith
      _ = (2 ^ 53 - 7 / 2) * (1 + 1 / 2 ^ 53) ^ 2 * 2 ^ (971 : Int) := by ring
      _ < overflow :=
        mul_lt_mul_of_pos_right (by norm_num) scale

/-- The numeral of a finite number is found by the reader. -/
theorem Number.isSome_ofParts?_shortest
    (canonical : Canonical mantissa exponent) (negative : Bool) :
    (Number.ofParts? negative (Decimal.shortest mantissa exponent).digits
      (Decimal.shortest mantissa exponent).exponent).isSome = true := by
  rcases Nat.eq_zero_or_pos mantissa with rfl | nonzero
  · rw [Decimal.shortest, if_pos rfl]
    cases negative <;> decide +kernel
  have suits := (Decimal.suits_shortest canonical nonzero).roundsTo
  have bounds := suits.bounds canonical nonzero
  have below := suits.below
  rw [Binary64.high_eq] at below
  by_cases top : exponent = 971 ∧ 2 ^ 53 ≤ mantissa + 3
  · -- The last three numbers are too close to the end for the estimate.
    obtain ⟨rfl, top⟩ := top
    have less : mantissa < 2 ^ 53 := canonical.1
    have last : mantissa = 2 ^ 53 - 1 ∨ mantissa = 2 ^ 53 - 2 ∨
        mantissa = 2 ^ 53 - 3 := by omega
    rcases last with rfl | rfl | rfl <;> cases negative <;> decide +kernel
  · refine isSome_ofParts? ?_ ?_ negative
    · by_contra large
      have positive :
          (1 : ℚ) ≤ (Decimal.shortest mantissa exponent).digits := by
        rw [Nat.one_le_cast, Nat.one_le_iff_ne_zero]
        exact fun none =>
          nonzero.ne' (Decimal.shortest_normal canonical none).1
      have huge : (2 : ℚ) ^ (1024 : Int) ≤
          10 ^ (Decimal.shortest mantissa exponent).exponent :=
        Binary64.two_zpow_le_ten_zpow (by omega) (by omega)
      have more := le_mul_of_one_le_left
        (zpow_pos (by norm_num : (0 : ℚ) < 10)
          (Decimal.shortest mantissa exponent).exponent).le positive
      exact absurd bounds.2 (not_lt.2 (huge.trans more))
    · refine (mul_le_mul_of_nonneg_right below (by positivity)).trans_lt ?_
      exact lt_overflow_of_not_top canonical top

/-! ### The text of a finite number -/

/-- A number that is no integer is read from its significand and its power. -/
theorem Number.ofText?_eq {text : NumberText}
    (notInteger : text.fraction ≠ none ∨ text.exponent ≠ none)
    (small : text.significand < Number.limit) :
    Number.ofText? text =
      Number.ofParts? text.negative text.significand text.power := by
  obtain ⟨negative, whole, fraction, exponent⟩ := text
  simp only [NumberText.significand, Reading.digitsValue_append] at small
  have wholeTaken := takeDigits_eq
    (Nat.lt_of_le_of_lt (Reading.le_digitsValue _ _) small)
  have taken := takeDigits_eq small
  unfold Number.ofText?
  simp only [wholeTaken, NumberText.significand, NumberText.power,
    Reading.digitsValue_append]
  split
  · simp at notInteger
  · rw [taken]
    simp

variable {text : NumberText} {negative : Bool}

/-- What is written for the digits of a number stands for the number. -/
theorem NumberText.Writes.ofDecimal_eq
    (writes : text.Writes negative (Decimal.shortest mantissa exponent))
    (canonical : Canonical mantissa exponent) :
    Binary64.ofDecimal text.negative text.significand text.power =
      .finite negative mantissa exponent canonical := by
  rw [writes.negative_eq]
  rcases Nat.eq_zero_or_pos mantissa with rfl | nonzero
  · obtain rfl : exponent = -1074 := canonical.2.2.2.resolve_left (by decide)
    have none : text.significand = 0 := by
      rcases writes.digits with ⟨digits, -⟩ | ⟨digits, -⟩ <;>
        simp [digits, Decimal.shortest]
    rw [none, Binary64.ofDecimal, if_pos rfl]
    rfl
  have suits := (Decimal.suits_shortest canonical nonzero).roundsTo
  refine Binary64.ofDecimal_of_roundsTo canonical nonzero ?_ negative
  rcases writes.digits with ⟨digits, power⟩ | ⟨digits, power, -, multiplies⟩
  · rw [digits, power]
    exact suits
  · obtain ⟨count, isCount⟩ := Int.eq_ofNat_of_zero_le multiplies
    have same (significand : Nat) :
        ((significand * 10 ^ (count + 1) : Nat) : ℚ) * 10 ^ (-1 : Int) =
          significand * 10 ^ (count : Int) := by
      rw [zpow_natCast, zpow_neg_one]
      push_cast
      rw [pow_succ]
      ring
    rw [digits, power, isCount, Int.toNat_natCast, same, ← isCount]
    exact suits

/-- What is written for the digits of a number is found by the reader. -/
theorem NumberText.Writes.isSome_ofText?
    (writes : text.Writes negative (Decimal.shortest mantissa exponent))
    (canonical : Canonical mantissa exponent) :
    (Number.ofText? text).isSome = true := by
  have few : (Decimal.shortest mantissa exponent).digits ≤
      Decimal.digitsLimit := by
    rcases Nat.eq_zero_or_pos mantissa with rfl | nonzero
    · rw [Decimal.shortest, if_pos rfl]
      exact Nat.zero_le _
    · exact (Decimal.suits_shortest canonical nonzero).few
  rcases writes.digits with ⟨digits, power⟩ | ⟨-, power, small, -⟩
  · have small : text.significand < Number.limit := by
      rw [digits]
      exact Nat.lt_of_le_of_lt few (by decide)
    rw [Number.ofText?_eq writes.not_integer small, digits, power]
    exact Number.isSome_ofParts?_shortest canonical _
  · have small : text.significand < Number.limit :=
      small.trans (by decide)
    rw [Number.ofText?_eq writes.not_integer small, power, Number.ofParts?,
      Option.isSome_map]
    exact Number.isSome_scale_of_neg _ _ (by decide)

/-- A finite number is written with the digits that are found for it. -/
theorem Number.readsAs_render (negative : Bool)
    (canonical : Canonical mantissa exponent) :
    ReadsAs (Number.float
        (.finite negative mantissa exponent canonical)).render.toList negative
      (Decimal.shortest mantissa exponent) := by
  have written : (Number.float
      (.finite negative mantissa exponent canonical)).render.toList =
        signChars negative ++ Decimal.layout numberNotation
          (Decimal.shortest mantissa exponent) := by
    have isFinite :
        (Binary64.finite negative mantissa exponent canonical).isFinite =
          true := rfl
    rw [Number.render, if_pos isFinite, Binary64.render, String.toList_ofList]
    cases negative <;> rfl
  rw [written]
  exact readsAs_layout negative _ fun none =>
    (Decimal.shortest_normal canonical none).2

/-- The text of a finite number stands for the number, and the reader finds a
number for it. -/
theorem Number.reads_render {value : Binary64}
    (isFinite : value.isFinite = true) :
    Reading.decimal? (Number.float value).render.toList = some value ∧
      ∃ text number,
        NumberText.ofChars? (Number.float value).render.toList = some text ∧
          Number.ofText? text = some number := by
  cases value with
  | finite negative mantissa exponent canonical =>
      obtain ⟨text, reads, writes⟩ := Number.readsAs_render negative canonical
      obtain ⟨number, found⟩ :=
        Option.isSome_iff_exists.1 (writes.isSome_ofText? canonical)
      refine ⟨?_, text, number, reads, found⟩
      rw [NumberText.decimal?_of_ofChars? reads, writes.ofDecimal_eq canonical]
  | _ => cases isFinite

end Runbook.Json
