import Mathlib.Data.List.TakeWhile
import Runbook.Expression.Arithmetic
import Runbook.Proofs.Number.Exact

/-!
# Texts of integers

The text of an integer is read as a number that is equal to it, and a number
that is equal to an integer is written as the text of the integer, also where
the shortest digits are asked for.
-/

namespace Runbook

/-! ### Digits -/

theorem toNat_of_isDigit {character : Char}
    (isDigit : character.isDigit = true) :
    48 ≤ character.toNat ∧ character.toNat ≤ 57 := by
  simpa [Char.isDigit, UInt32.le_iff_toNat_le] using isDigit

theorem toLower_of_isDigit {character : Char}
    (isDigit : character.isDigit = true) :
    character.toLower = character := by
  have range := toNat_of_isDigit isDigit
  have small : ¬ (character.val ≥ 'A'.val ∧ character.val ≤ 'Z'.val) := by
    rintro ⟨large, -⟩
    have large : 65 ≤ character.toNat := UInt32.le_iff_toNat_le.1 large
    omega
  unfold Char.toLower
  exact dif_neg small

namespace Text

theorem isBlank_of_isDigit {character : Char}
    (isDigit : character.isDigit = true) : isBlank character = false := by
  have range := toNat_of_isDigit isDigit
  simp only [isBlank, Bool.or_eq_false_iff, Bool.and_eq_false_iff,
    decide_eq_false_iff_not, beq_eq_false_iff_ne]
  omega

theorem dropWhile_isBlank {text : List Char}
    (begins : ∀ character ∈ text.head?, isBlank character = false) :
    text.dropWhile isBlank = text := by
  cases text with
  | nil => rfl
  | cons character rest => simp [List.dropWhile, begins character rfl]

theorem trimRight_append {text after : List Char}
    (blanksAfter : ∀ character ∈ after, isBlank character = true)
    (ends : ∀ character ∈ text.getLast?, isBlank character = false) :
    trimRight (text ++ after) = text := by
  unfold trimRight
  rw [List.reverse_append, List.dropWhile_append_of_pos (by simpa),
    dropWhile_isBlank (by simpa using ends), List.reverse_reverse]

/-- The blanks around a text are trimmed, and nothing of the text itself if it
neither begins nor ends blank. -/
theorem trimBoth_append {before text after : List Char}
    (blanksBefore : ∀ character ∈ before, isBlank character = true)
    (blanksAfter : ∀ character ∈ after, isBlank character = true)
    (begins : ∀ character ∈ text.head?, isBlank character = false)
    (ends : ∀ character ∈ text.getLast?, isBlank character = false) :
    trimBoth (before ++ text ++ after) = text := by
  have onLeft : trimLeft (before ++ text ++ after) =
      (text ++ after).dropWhile isBlank := by
    unfold trimLeft
    rw [List.append_assoc, List.dropWhile_append_of_pos blanksBefore]
  unfold trimBoth
  cases text with
  | nil =>
      have nothing : after.dropWhile isBlank = [] :=
        List.dropWhile_eq_nil_iff.2 blanksAfter
      rw [onLeft, List.nil_append, nothing]
      rfl
  | cons character rest =>
      have kept : (character :: rest ++ after).dropWhile isBlank =
          character :: rest ++ after := dropWhile_isBlank begins
      rw [onLeft, kept, trimRight_append blanksAfter ends]

end Text

namespace Reading

variable {digits rest : List Char} {number : Nat}

theorem sign_digits (allDigits : ∀ digit ∈ digits, digit.isDigit = true)
    (nonempty : digits ≠ []) :
    sign (digits ++ rest) = (false, digits ++ rest) := by
  obtain ⟨digit, others, rfl⟩ := List.exists_cons_of_ne_nil nonempty
  have isDigit := allDigits digit List.mem_cons_self
  rw [List.cons_append]
  unfold sign
  split
  · next same =>
      cases same
      exact absurd isDigit (by decide)
  · next same =>
      cases same
      exact absurd isDigit (by decide)
  · rfl

theorem digitRun_digits (allDigits : ∀ digit ∈ digits, digit.isDigit = true)
    (ends : ∀ character ∈ rest.head?, character.isDigit = false) :
    digitRun (digits ++ rest) = (digits, rest) := by
  have noDigit : rest.takeWhile Char.isDigit = [] ∧
      rest.dropWhile Char.isDigit = rest := by
    cases rest with
    | nil => exact ⟨rfl, rfl⟩
    | cons character others =>
        have isNone := ends character rfl
        simp [List.takeWhile, List.dropWhile, isNone]
  simp only [digitRun, List.takeWhile_append_of_pos allDigits,
    List.dropWhile_append_of_pos allDigits, noDigit, List.append_nil]

theorem digitsValue_toDigits (number : Nat) :
    digitsValue 0 (Nat.toDigits 10 number) = number :=
  Nat.ofDigitChars_ten_toDigits

theorem le_digitsValue (value : Nat) (digits : List Char) :
    value ≤ digitsValue value digits := by
  unfold digitsValue
  induction digits generalizing value with
  | nil => exact Nat.le_refl _
  | cons digit rest ih =>
      refine Nat.le_trans ?_ (ih _)
      dsimp only
      omega

theorem digitsValue_append (value : Nat) (first second : List Char) :
    digitsValue value (first ++ second) =
      digitsValue (digitsValue value first) second :=
  List.foldl_append

theorem digitsValue_zeros (value count : Nat) :
    digitsValue value (List.replicate count '0') =
      value * 10 ^ count := by
  rw [Nat.mul_comm]
  exact Nat.ofDigitChars_replicate_zero

theorem isDigit_toDigits :
    ∀ digit ∈ Nat.toDigits 10 number, digit.isDigit = true := fun _ member =>
  Nat.isDigit_of_mem_toDigits (by decide) (by decide) member

theorem equalsInt_ofDecimal {negative : Bool}
    (small : number ≤ Binary64.exactLimit) :
    (Binary64.ofDecimal negative number 0).EqualsInt
      (Binary64.signed negative number) := by
  unfold Binary64.ofDecimal
  rcases Nat.eq_zero_or_pos number with rfl | positive
  · rw [if_pos rfl, Binary64.signed_zero]
    exact Binary64.equalsInt_zero
  · have short : (Nat.toDigits 10 number).length ≤ 16 := by
      rw [Nat.length_toDigits_le_iff (by decide) (by decide)]
      exact Nat.lt_of_le_of_lt small (by decide)
    rw [if_neg positive.ne']
    dsimp only
    rw [if_neg (by omega), if_neg (by omega)]
    simpa using Binary64.equalsInt_ofRatio 0 small

/-- The text of an integer is its sign and its digits. -/
theorem sign_intText (value : Int) (rest : List Char) :
    sign ((Decimal.intText value).toList ++ rest) =
      (decide (value < 0), Nat.toDigits 10 value.natAbs ++ rest) := by
  unfold Decimal.intText
  split
  · next below => simp [sign, below]
  · next above =>
      rw [String.toList_ofList,
        sign_digits isDigit_toDigits Nat.toDigits_ne_nil]
      simp [above]

theorem map_toLower_toDigits :
    (Nat.toDigits 10 number).map Char.toLower = Nat.toDigits 10 number := by
  refine (List.map_congr_left fun digit member => ?_).trans (List.map_id _)
  exact toLower_of_isDigit (isDigit_toDigits digit member)

theorem toDigits_ne_of_mem {text : List Char} {character : Char}
    (member : character ∈ text) (noDigit : character.isDigit = false) :
    Nat.toDigits 10 number ≠ text := by
  rintro rfl
  rw [isDigit_toDigits character member] at noDigit
  cases noDigit

theorem unsignedDecimal?_toDigits (negative : Bool) :
    unsignedDecimal? negative (Nat.toDigits 10 number) =
      some (Binary64.ofDecimal negative number 0) := by
  have runs := @digitRun_digits (Nat.toDigits 10 number) []
    isDigit_toDigits (by simp)
  rw [List.append_nil] at runs
  simp [unsignedDecimal?, runs, exponent?, digitsValue_toDigits]

theorem decimal?_intText (value : Int) :
    decimal? (Decimal.intText value).toList =
      some (Binary64.ofDecimal (decide (value < 0)) value.natAbs 0) := by
  have signs := sign_intText value []
  rw [List.append_nil, List.append_nil] at signs
  have noInf : Nat.toDigits 10 value.natAbs ≠ "inf".toList :=
    @toDigits_ne_of_mem _ _ 'i' (by decide) (by decide)
  have noInfinity : Nat.toDigits 10 value.natAbs ≠ "infinity".toList :=
    @toDigits_ne_of_mem _ _ 'i' (by decide) (by decide)
  have noNan : Nat.toDigits 10 value.natAbs ≠ "nan".toList :=
    @toDigits_ne_of_mem _ _ 'n' (by decide) (by decide)
  simp only [decimal?, signs, map_toLower_toDigits, noInf, noInfinity, noNan,
    or_self, if_false, unsignedDecimal?_toDigits]

theorem mem_intText {character : Char} {value : Int}
    (member : character ∈ (Decimal.intText value).toList) :
    character = '-' ∨ character.isDigit = true := by
  unfold Decimal.intText at member
  split at member
  · have written : character = '-' ∨
        character ∈ Nat.toDigits 10 value.natAbs := by
      simpa using member
    exact written.imp_right (isDigit_toDigits character)
  · have written : character ∈ Nat.toDigits 10 value.natAbs := by
      simpa using member
    exact .inr (isDigit_toDigits character written)

theorem not_mem_intText {character : Char} {value : Int}
    (noSign : character ≠ '-') (noDigit : character.isDigit = false) :
    character ∉ (Decimal.intText value).toList := by
  intro member
  rcases mem_intText member with rfl | isDigit
  · exact noSign rfl
  · rw [noDigit] at isDigit
    cases isDigit

theorem isBlank_intText {character : Char} {value : Int}
    (member : character ∈ (Decimal.intText value).toList) :
    Text.isBlank character = false := by
  rcases mem_intText member with rfl | isDigit
  · decide
  · exact Text.isBlank_of_isDigit isDigit

/-- Nothing but blanks is trimmed around the text of an integer. -/
theorem trimBoth_intText {before after : List Char}
    (blanksBefore : ∀ character ∈ before, Text.isBlank character = true)
    (blanksAfter : ∀ character ∈ after, Text.isBlank character = true)
    (value : Int) :
    Text.trimBoth (before ++ (Decimal.intText value).toList ++ after) =
      (Decimal.intText value).toList := by
  refine Text.trimBoth_append blanksBefore blanksAfter ?_ ?_
  · exact fun character first => isBlank_intText (List.mem_of_mem_head? first)
  · exact fun character last => isBlank_intText (List.mem_of_getLast? last)

theorem trimLeft_intText (value : Int) (rest : List Char) :
    Text.trimLeft ((Decimal.intText value).toList ++ rest) =
      (Decimal.intText value).toList ++ rest := by
  refine Text.dropWhile_isBlank ?_
  intro character begins
  cases written : (Decimal.intText value).toList with
  | nil =>
      unfold Decimal.intText at written
      split at written <;> simp at written
  | cons first others =>
      rw [written, List.cons_append, List.head?_cons, Option.mem_some] at begins
      subst begins
      apply @isBlank_intText _ value
      rw [written]
      exact List.mem_cons_self

end Reading

/-! ### Shortest digits -/

namespace Decimal

variable {number shift : Nat}

/-- Digits read back as an integer exactly if they stand for it. -/
theorem readsBack_iff (positive : 0 < number) (digits grid : Nat) :
    readsBack (number * 2 ^ shift) (-(shift : Int)) digits grid = true ↔
      digits * 10 ^ grid = number := by
  have unit : (-(-(shift : Int) - 2)).toNat = shift + 2 := by omega
  have noScale : (-(shift : Int) - 2).toNat = 0 := by omega
  have noPower : (-(grid : Int)).toNat = 0 := by omega
  simp only [readsBack, roundingInterval, Nat.pow_eq, unit, noScale, noPower,
    Int.toNat_natCast, Nat.pow_zero, Nat.mul_one]
  -- A multiple of the shifted unit is too far off unless it is the number.
  have factor : 0 < 2 ^ shift := Nat.two_pow_pos shift
  have scaled : digits * 10 ^ grid * 2 ^ (shift + 2) =
      4 * (digits * 10 ^ grid * 2 ^ shift) := by
    rw [Nat.pow_add]
    ring
  rw [scaled]
  generalize digits * 10 ^ grid = value
  generalize isGap : (if number * 2 ^ shift = 2 ^ 52 ∧
    -(shift : Int) ≠ -1074 then 1 else 2) = gap
  have narrow : gap = 1 ∨ gap = 2 := by
    rw [← isGap]
    split <;> simp
  rcases Nat.lt_trichotomy value number with below | rfl | above
  · have apart : value * 2 ^ shift + 2 ^ shift ≤ number * 2 ^ shift := by
      rw [← Nat.succ_mul]
      exact Nat.mul_le_mul_right _ below
    generalize value * 2 ^ shift = first at apart
    generalize number * 2 ^ shift = second at apart
    split <;> simp <;> omega
  · have positive : 0 < value * 2 ^ shift := Nat.mul_pos positive factor
    generalize value * 2 ^ shift = first at positive
    split
    · simp
    · simp
      omega
  · have apart : number * 2 ^ shift + 2 ^ shift ≤ value * 2 ^ shift := by
      rw [← Nat.succ_mul]
      exact Nat.mul_le_mul_right _ above
    generalize value * 2 ^ shift = first at apart
    generalize number * 2 ^ shift = second at apart
    split <;> simp <;> omega

theorem search_spec (positive : 0 < number) {fuel grid : Nat}
    (enough : grid < fuel) :
    ∃ digits power : Nat,
      search (number * 2 ^ shift) (-(shift : Int)) fuel grid =
        ⟨digits, power⟩ ∧ digits * 10 ^ power = number := by
  induction fuel generalizing grid with
  | zero => exact (Nat.not_lt_zero _ enough).elim
  | succ fuel ih =>
      have unit : (-(-(shift : Int))).toNat = shift := by omega
      have noFactor : (-(shift : Int)).toNat = 0 := by omega
      have noPower : (-(grid : Int)).toNat = 0 := by omega
      have lower_eq : number * 2 ^ shift / (2 ^ shift * 10 ^ grid) =
          number / 10 ^ grid := by
        rw [Nat.mul_comm number, Nat.mul_div_mul_left _ _ (Nat.two_pow_pos _)]
      have upperMisses : readsBack (number * 2 ^ shift) (-(shift : Int))
          (number / 10 ^ grid + 1) grid = false := by
        rw [Bool.eq_false_iff, Ne, readsBack_iff positive]
        have above := Nat.lt_mul_of_div_lt
          (Nat.lt_succ_self (number / 10 ^ grid))
          (Nat.pow_pos (by decide) : 0 < 10 ^ grid)
        exact above.ne'
      simp only [search, Nat.pow_eq, unit, noFactor, noPower,
        Int.toNat_natCast, Nat.pow_zero, Nat.mul_one, lower_eq, upperMisses,
        Bool.and_false, Bool.false_eq_true, if_false]
      split
      · next fits =>
          exact ⟨number / 10 ^ grid, grid, rfl,
            (readsBack_iff positive _ _).1 fits⟩
      · next misses =>
          -- A grid that is too coarse is not the finest one.
          cases grid with
          | zero =>
              exfalso
              apply misses
              rw [readsBack_iff positive]
              simp
          | succ grid =>
              have finer : ((grid + 1 : Nat) : Int) - 1 = grid := by omega
              rw [finer]
              exact ih (Nat.lt_of_succ_lt_succ enough)

theorem dropZeros_spec (fuel digits power : Nat) :
    ∃ rest zeros : Nat, dropZeros fuel ⟨digits, power⟩ = ⟨rest, zeros⟩ ∧
      rest * 10 ^ zeros = digits * 10 ^ power := by
  induction fuel generalizing digits power with
  | zero => exact ⟨digits, power, rfl, rfl⟩
  | succ fuel ih =>
      unfold dropZeros
      split
      · next isMultiple =>
          obtain ⟨rest, zeros, dropped, same⟩ := ih (digits / 10) (power + 1)
          refine ⟨rest, zeros, by simpa using dropped, ?_⟩
          rw [same, Nat.pow_succ, Nat.mul_comm (10 ^ power), ← Nat.mul_assoc,
            Nat.div_mul_cancel (Nat.dvd_of_mod_eq_zero isMultiple.2)]
      · exact ⟨digits, power, rfl, rfl⟩

theorem toDigits_mul_pow {digits : Nat} (positive : 0 < digits)
    (power : Nat) :
    Nat.toDigits 10 (digits * 10 ^ power) =
      Nat.toDigits 10 digits ++ List.replicate power '0' := by
  induction power with
  | zero => simp
  | succ power ih =>
      have nonzero : 0 < digits * 10 ^ power :=
        Nat.mul_pos positive (Nat.pow_pos (by decide))
      have appended := @Nat.toDigits_append_toDigits 10 _ 0 (by decide)
        nonzero (by decide)
      rw [Nat.pow_succ, ← Nat.mul_assoc, Nat.mul_comm _ 10, ← Nat.add_zero
        (10 * _), ← appended, ih, Nat.toDigits_zero, List.append_assoc,
        List.replicate_succ']

theorem plain_eq (digits power : Nat) :
    plain false ⟨digits, power⟩ =
      Nat.toDigits 10 digits ++ List.replicate power '0' := by
  simp [plain]

/-- The fewest digits of an integer, with zeros after them, are all its
digits. -/
theorem layout_shortest (positive : 0 < number)
    (full : 2 ^ 52 ≤ number * 2 ^ shift) (fits : number * 2 ^ shift < 2 ^ 53)
    (few : shift ≤ 52) :
    layout Binary64.plainNotation
        (shortest (number * 2 ^ shift) (-(shift : Int))) =
      Nat.toDigits 10 number := by
  have nonzero : number * 2 ^ shift ≠ 0 := by omega
  have log2_eq : (number * 2 ^ shift).log2 = 52 :=
    (Nat.log2_eq_iff nonzero).2 ⟨full, fits⟩
  obtain ⟨grid, isGrid, below⟩ : ∃ grid : Nat,
      Int.fdiv ((((52 : Nat) : Int) + -(shift : Int) + 2) * 30103) 100000 + 1 =
        grid ∧ grid < 40 := by
    rw [Int.fdiv_eq_ediv_of_nonneg _ (by decide)]
    refine ⟨((((52 : Nat) : Int) + -(shift : Int) + 2) * 30103 / 100000 +
      1).toNat, ?_, ?_⟩ <;> omega
  obtain ⟨digits, power, found, isNumber⟩ :=
    @search_spec number shift positive 40 grid below
  obtain ⟨rest, zeros, dropped, same⟩ := dropZeros_spec 20 digits power
  have restPositive : 0 < rest := by
    rcases Nat.eq_zero_or_pos rest with rfl | restPositive
    · omega
    · exact restPositive
  simp only [shortest, if_neg nonzero, log2_eq, isGrid, found, dropped, layout,
    Binary64.plainNotation, or_true, if_true, plain_eq]
  rw [← toDigits_mul_pow restPositive, same, isNumber]

theorem layout_of_canonical {mantissa : Nat} {exponent : Int}
    (canonical : Binary64.Canonical mantissa exponent)
    (positive : 0 < number) (small : number ≤ Binary64.exactLimit)
    (size : mantissa * 2 ^ exponent.toNat = number * 2 ^ (-exponent).toNat) :
    layout Binary64.plainNotation (shortest mantissa exponent) =
      Nat.toDigits 10 number := by
  obtain ⟨less, -, -, normal⟩ := canonical
  have less : mantissa < 2 ^ 53 := less
  rcases le_or_gt exponent 0 with fractional | whole
  · obtain ⟨shift, rfl⟩ := Int.exists_eq_neg_ofNat fractional
    have noFactor : (-(shift : Int)).toNat = 0 := by omega
    have unit : (-(-(shift : Int))).toNat = shift := by omega
    rw [noFactor, unit, Nat.pow_zero, Nat.mul_one] at size
    subst size
    have few : shift ≤ 52 := by
      by_contra many
      have wide : 2 ^ 53 ≤ 2 ^ shift :=
        Nat.pow_le_pow_right (by decide) (by omega)
      have wider := Nat.le_mul_of_pos_left (2 ^ shift) positive
      omega
    have full : 2 ^ 52 ≤ number * 2 ^ shift :=
      normal.resolve_right (by omega)
    exact layout_shortest positive full less few
  · -- Only the greatest of the integers has a grid that is coarser.
    obtain ⟨power, rfl⟩ := Int.eq_ofNat_of_zero_le whole.le
    have noShift : (-(power : Int)).toNat = 0 := by omega
    rw [noShift, Int.toNat_natCast, Nat.pow_zero, Nat.mul_one] at size
    have full : 2 ^ 52 ≤ mantissa := normal.resolve_right (by omega)
    have bounded := Nat.mul_le_mul_right (2 ^ power) full
    unfold Binary64.exactLimit at small
    have single : power = 1 := by
      by_contra several
      have wide : 2 ^ 2 ≤ 2 ^ power :=
        Nat.pow_le_pow_right (by decide) (by omega)
      omega
    subst single
    have isLeast : mantissa = 2 ^ 52 := by omega
    subst isLeast size
    decide +kernel

end Decimal

namespace Arithmetic

variable {number : Binary64} {value : Int}

/-- A number that is equal to an integer is written as the integer. -/
theorem resultText?_of_equalsInt (equals : number.EqualsInt value)
    (small : value.natAbs ≤ Binary64.exactLimit) :
    resultText? number = some (Decimal.intText value) := by
  simp only [resultText?, equals.isFinite, if_true, smallInt?, equals.toInt?]
  by_cases short : value.natAbs < Nat.pow 10 15
  · rw [Option.filter_some, if_pos (decide_eq_true short)]
  · rw [Option.filter_some, if_neg (by simpa using short)]
    dsimp only
    obtain ⟨negative, mantissa, exponent, canonical, rfl, same⟩ := equals
    have size : mantissa * 2 ^ exponent.toNat =
        value.natAbs * 2 ^ (-exponent).toNat := by
      have absolute := congrArg Int.natAbs same
      simpa [Int.natAbs_mul, Int.natAbs_pow, Binary64.natAbs_signed] using
        absolute
    have positive : 0 < value.natAbs := by
      have large : 10 ^ 15 ≤ value.natAbs := Nat.le_of_not_lt short
      omega
    have nonzero : value ≠ 0 := Int.natAbs_pos.1 positive
    have isNegative := Binary64.negative_eq nonzero same
    simp only [Binary64.render, isNegative, Decimal.intText,
      Decimal.layout_of_canonical canonical positive small size,
      decide_eq_true_eq]

end Arithmetic

end Runbook
