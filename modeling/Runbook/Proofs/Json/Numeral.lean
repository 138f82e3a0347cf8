import Runbook.Json.Reader
import Runbook.Proofs.Json.Lexeme

/-!
# Numbers in JSON text

A number is written as a minus sign or none, digits without needless zeros in
front, and perhaps a fraction and an exponent.  Every number of the library is
written so, and an integer of 64 bits is read back from its text.
-/

namespace Runbook

/-- The digits of a number do not begin with a zero. -/
theorem Nat.head?_toDigits {number : Nat} (positive : 0 < number) :
    (Nat.toDigits 10 number).head? ≠ some '0' := by
  induction number using Nat.strong_induction_on with
  | h number ih =>
      rw [Nat.toDigits_eq_if (by decide)]
      split
      · next small =>
          have nonzero : ∀ digit < 10, 0 < digit →
              Nat.digitChar digit ≠ '0' := by decide
          simpa using nonzero number small positive
      · next large =>
          have shorter := ih (number / 10) (by omega) (by omega)
          rwa [List.head?_append, Option.or_of_isSome (by simp)]

namespace Json

/-- The sign of a number. -/
def signChars (negative : Bool) : List Char :=
  if negative then ['-'] else []

/-- Digits as they stand before the point of a number: at least one, and the
first one a zero only if it is the only one. -/
structure IsWhole (digits : List Char) : Prop where
  isDigit : ∀ digit ∈ digits, digit.isDigit = true
  nonempty : digits ≠ []
  noZero : digits.head? = some '0' → digits = ['0']

theorem isWhole_toDigits (number : Nat) :
    IsWhole (Nat.toDigits 10 number) where
  isDigit := Reading.isDigit_toDigits
  nonempty := Nat.toDigits_ne_nil
  noZero begins := by
    rcases Nat.eq_zero_or_pos number with rfl | positive
    · exact Nat.toDigits_zero 10
    · exact absurd begins (Nat.head?_toDigits positive)

theorem isWhole_single {digit : Char} (isDigit : digit.isDigit = true) :
    IsWhole [digit] where
  isDigit := by simpa using isDigit
  nonempty := List.cons_ne_nil _ _
  noZero begins := by
    cases begins
    rfl

/-- The characters of a fraction, with its point. -/
def fractionChars : Option (List Char) → List Char
  | none => []
  | some digits => '.' :: digits

namespace NumberText

/-! ### The grammar of numbers -/

/-- The characters of a number: its sign, the digits before the point, the
point and the digits after it, and the characters of the exponent. -/
structure IsWritten (text : NumberText) (chars ending : List Char) : Prop where
  chars_eq : chars = signChars text.negative ++
    (text.whole ++ (fractionChars text.fraction ++ ending))
  isWhole : IsWhole text.whole
  fraction : ∀ digits ∈ text.fraction,
    digits ≠ [] ∧ ∀ digit ∈ digits, digit.isDigit = true
  exponent : exponent? ending = some text.exponent

variable {chars ending rest : List Char} {text : NumberText}

/-- An exponent begins with its letter. -/
theorem begins_of_exponent? {exponent : Option Int}
    (reads : exponent? ending = some exponent) :
    ∀ character ∈ ending.head?, character = 'e' ∨ character = 'E' := by
  rintro letter first
  obtain ⟨rest, rfl⟩ := List.head?_eq_some_iff.1 first
  obtain ⟨power, reads, -⟩ := Option.map_eq_some_iff.1 reads
  exact (Option.ite_none_right_eq_some.1 reads).1

theorem noDigit_of_exponent? {exponent : Option Int}
    (reads : exponent? ending = some exponent) :
    ∀ character ∈ ending.head?, character.isDigit = false := by
  intro character first
  rcases begins_of_exponent? reads character first with rfl | rfl <;> rfl

theorem tail?_of_isWritten {fraction : Option (List Char)}
    (digits : ∀ digits ∈ fraction,
      digits ≠ [] ∧ ∀ digit ∈ digits, digit.isDigit = true)
    (reads : exponent? ending = some text.exponent) :
    tail? text.negative text.whole (fractionChars fraction ++ ending) =
      some ⟨text.negative, text.whole, fraction, text.exponent⟩ := by
  cases fraction with
  | none =>
      rw [fractionChars, List.nil_append, tail?]
      · simp [reads]
      · rintro others rfl
        have begins := begins_of_exponent? reads '.' rfl
        simp at begins
  | some places =>
      obtain ⟨nonempty, isDigit⟩ := digits places rfl
      have runs := Reading.digitRun_digits isDigit (noDigit_of_exponent? reads)
      simp [fractionChars, tail?, runs, nonempty, reads]

/-- Digits up to the end or another character. -/
theorem digitRun_append_of_tail? {negative : Bool} {whole : List Char}
    (isWhole : IsWhole whole)
    (ends : ∀ character ∈ rest.head?, character.isDigit = false)
    (reads : tail? negative whole rest = some text) :
    (match Reading.digitRun (whole ++ rest) with
      | ([], _) => none
      | (['0'], rest) => tail? negative ['0'] rest
      | ('0' :: _, _) => none
      | (whole, rest) => tail? negative whole rest) = some text := by
  rw [Reading.digitRun_digits isWhole.isDigit ends]
  split
  · next same =>
      cases same
      exact absurd rfl isWhole.nonempty
  · next same =>
      cases same
      exact reads
  · next different same =>
      cases same
      have single := isWhole.noZero rfl
      cases single
      exact (different rfl).elim
  · next same =>
      cases same
      exact reads

theorem IsWritten.ofChars? (written : text.IsWritten chars ending) :
    ofChars? chars = some text := by
  obtain ⟨rfl, isWhole, fraction, exponent⟩ := written
  have reads := tail?_of_isWritten fraction exponent
  have ends : ∀ character ∈ (fractionChars text.fraction ++ ending).head?,
      character.isDigit = false := by
    cases text.fraction with
    | none => exact noDigit_of_exponent? exponent
    | some places => simp [fractionChars]
  have found := digitRun_append_of_tail? isWhole ends reads
  generalize fractionChars text.fraction ++ ending = after at found
  obtain ⟨negative, whole, places, power⟩ := text
  cases negative with
  | true => exact found
  | false =>
      obtain ⟨digit, others, rfl⟩ :=
        List.exists_cons_of_ne_nil isWhole.nonempty
      have isDigit := isWhole.isDigit digit List.mem_cons_self
      change NumberText.ofChars? (digit :: (others ++ after)) = _
      unfold NumberText.ofChars?
      split
      next unsigned same =>
        split at same
        · next begins =>
            cases begins
            cases isDigit
        · cases same
          exact found

theorem digitRun_spec (chars : List Char) {run after : List Char}
    (splits : Reading.digitRun chars = (run, after)) :
    chars = run ++ after ∧ ∀ digit ∈ run, digit.isDigit = true := by
  cases splits
  exact ⟨List.takeWhile_append_dropWhile.symm,
    fun digit => List.mem_takeWhile_imp⟩

theorem exists_of_tail? {negative : Bool} {whole : List Char}
    (reads : tail? negative whole rest = some text) :
    text.negative = negative ∧ text.whole = whole ∧
      ∃ ending, rest = fractionChars text.fraction ++ ending ∧
        (∀ digits ∈ text.fraction,
          digits ≠ [] ∧ ∀ digit ∈ digits, digit.isDigit = true) ∧
        exponent? ending = some text.exponent := by
  unfold tail? at reads
  split at reads
  · next places =>
      obtain ⟨same, isDigit⟩ := digitRun_spec places rfl
      obtain ⟨nonempty, reads⟩ := Option.ite_none_left_eq_some.1 reads
      obtain ⟨exponent, read, rfl⟩ := Option.map_eq_some_iff.1 reads
      refine ⟨rfl, rfl, _, congrArg _ same, ?_, read⟩
      rintro _ ⟨⟩
      exact ⟨by simpa using nonempty, isDigit⟩
  · obtain ⟨exponent, read, rfl⟩ := Option.map_eq_some_iff.1 reads
    exact ⟨rfl, rfl, rest, rfl, by simp, read⟩

theorem exists_isWhole {negative : Bool} {unsigned : List Char}
    (reads : (match Reading.digitRun unsigned with
      | ([], _) => none
      | (['0'], rest) => tail? negative ['0'] rest
      | ('0' :: _, _) => none
      | (whole, rest) => tail? negative whole rest) = some text) :
    ∃ whole rest, unsigned = whole ++ rest ∧ IsWhole whole ∧
      tail? negative whole rest = some text := by
  split at reads
  · cases reads
  · next splits =>
      obtain ⟨same, isDigit⟩ := digitRun_spec _ splits
      exact ⟨_, _, same, isWhole_single rfl, reads⟩
  · cases reads
  · next nonempty notZero noZero splits =>
      obtain ⟨same, isDigit⟩ := digitRun_spec _ splits
      refine ⟨_, _, same, ⟨isDigit, nonempty, fun begins => ?_⟩, reads⟩
      obtain ⟨others, rfl⟩ := List.head?_eq_some_iff.1 begins
      exact absurd rfl (noZero others)

/-- A number is read from characters exactly if it is written with them. -/
theorem ofChars?_eq_some_iff :
    NumberText.ofChars? chars = some text ↔
      ∃ ending, text.IsWritten chars ending := by
  refine ⟨fun reads => ?_, fun ⟨_, written⟩ => written.ofChars?⟩
  have split : ∃ negative unsigned, chars = signChars negative ++ unsigned ∧
      ∃ whole rest, unsigned = whole ++ rest ∧ IsWhole whole ∧
        tail? negative whole rest = some text := by
    unfold NumberText.ofChars? at reads
    split at reads
    next negative unsigned same =>
      refine ⟨negative, unsigned, ?_, exists_isWhole reads⟩
      split at same
      · cases same
        rfl
      · cases same
        rfl
  obtain ⟨negative, -, rfl, whole, rest, rfl, isWhole, reads⟩ := split
  obtain ⟨rfl, rfl, ending, rfl, fraction, exponent⟩ := exists_of_tail? reads
  exact ⟨ending, rfl, isWhole, fraction, exponent⟩

/-- The digits of a number as one number, its point aside. -/
def significand (text : NumberText) : Nat :=
  Reading.digitsValue 0 (text.whole ++ text.fraction.getD [])

/-- The power of ten by which the digits of a number count. -/
def power (text : NumberText) : Int :=
  text.exponent.getD 0 - (text.fraction.getD []).length

/-! ### The characters of a number -/

theorem isNumeric_of_isDigit {character : Char}
    (isDigit : character.isDigit = true) :
    Lexer.isNumeric character = true := by
  simp [Lexer.isNumeric, isDigit]

theorem isNumeric_of_exponent? {exponent : Option Int}
    (reads : exponent? ending = some exponent) :
    ∀ character ∈ ending, Lexer.isNumeric character = true := by
  cases ending with
  | nil => simp
  | cons letter rest =>
      obtain ⟨power, reads, -⟩ := Option.map_eq_some_iff.1 reads
      obtain ⟨isLetter, reads⟩ := Option.ite_none_right_eq_some.1 reads
      have letterNumeric : Lexer.isNumeric letter = true := by
        rcases isLetter with rfl | rfl <;> rfl
      obtain ⟨allDigits, -⟩ := Option.ite_none_left_eq_some.1 reads
      simp only [Bool.or_eq_true, not_or, Bool.not_eq_true',
        Bool.not_eq_false, List.all_eq_true] at allDigits
      have others : ∀ character ∈ (Reading.sign rest).2,
          Lexer.isNumeric character = true := fun digit member =>
        isNumeric_of_isDigit (allDigits.2 digit member)
      refine List.forall_mem_cons.2 ⟨letterNumeric, ?_⟩
      unfold Reading.sign at others
      split at others
      · exact List.forall_mem_cons.2 ⟨rfl, others⟩
      · exact List.forall_mem_cons.2 ⟨rfl, others⟩
      · exact others

theorem isNumeric_of_ofChars? (reads : NumberText.ofChars? chars = some text) :
    ∀ character ∈ chars, Lexer.isNumeric character = true := by
  obtain ⟨ending, rfl, isWhole, fraction, exponent⟩ :=
    ofChars?_eq_some_iff.1 reads
  simp only [List.forall_mem_append]
  refine ⟨?_, fun digit member => isNumeric_of_isDigit
    (isWhole.isDigit digit member), ?_, isNumeric_of_exponent? exponent⟩
  · cases text.negative <;> simp [signChars, Lexer.isNumeric]
  · cases isFraction : text.fraction with
    | none => simp [fractionChars]
    | some digits =>
        obtain ⟨-, isDigit⟩ := fraction digits isFraction
        exact List.forall_mem_cons.2 ⟨rfl, fun digit member =>
          isNumeric_of_isDigit (isDigit digit member)⟩

theorem unsignedDecimal?_of_isWritten (isWhole : IsWhole text.whole)
    (fraction : ∀ digits ∈ text.fraction,
      digits ≠ [] ∧ ∀ digit ∈ digits, digit.isDigit = true)
    (exponent : exponent? ending = some text.exponent) (negative : Bool) :
    Reading.unsignedDecimal? negative
        (text.whole ++ (fractionChars text.fraction ++ ending)) =
      some (.ofDecimal negative text.significand text.power) := by
  have noDigit := noDigit_of_exponent? exponent
  have power_eq : Reading.exponent? ending =
      some (text.exponent.getD 0) := by
    cases ending with
    | nil =>
        have same : none = text.exponent := Option.some.inj exponent
        rw [← same]
        rfl
    | cons letter rest =>
        obtain ⟨power, reads, same⟩ := Option.map_eq_some_iff.1 exponent
        rw [reads, ← same, Option.getD_some]
  have nonempty : text.whole.isEmpty = false := by
    simpa using isWhole.nonempty
  unfold Reading.unsignedDecimal? significand power
  cases isFraction : text.fraction with
  | none =>
      rw [fractionChars, List.nil_append,
        Reading.digitRun_digits isWhole.isDigit noDigit]
      dsimp only
      split
      · have begins := begins_of_exponent? exponent '.' rfl
        simp at begins
      · simp [nonempty, power_eq]
  | some digits =>
      obtain ⟨-, isDigit⟩ := fraction digits isFraction
      rw [Reading.digitRun_digits isWhole.isDigit (by simp [fractionChars])]
      simp [fractionChars, Reading.digitRun_digits isDigit noDigit, nonempty,
        power_eq]

/-- A number of JSON text is read as a decimal number with the same digits. -/
theorem decimal?_of_ofChars? (reads : NumberText.ofChars? chars = some text) :
    Reading.decimal? chars =
      some (.ofDecimal text.negative text.significand text.power) := by
  obtain ⟨ending, rfl, isWhole, fraction, exponent⟩ :=
    ofChars?_eq_some_iff.1 reads
  have unsigned := unsignedDecimal?_of_isWritten isWhole fraction exponent
    text.negative
  have begins := isWhole.isDigit
  obtain ⟨digit, others, same⟩ :=
    List.exists_cons_of_ne_nil isWhole.nonempty
  have noWord (word : List Char) (letter : Char) (first : word.head? = letter)
      (noDigit : letter.isDigit = false) :
      (text.whole ++ (fractionChars text.fraction ++ ending)).map
        Char.toLower ≠ word := by
    rintro rfl
    have isDigit := begins digit (by simp [same])
    rw [same, List.cons_append, List.map_cons, List.head?_cons,
      toLower_of_isDigit isDigit] at first
    cases first
    rw [isDigit] at noDigit
    cases noDigit
  have signed : Reading.sign (signChars text.negative ++
      (text.whole ++ (fractionChars text.fraction ++ ending))) =
        (text.negative, text.whole ++
          (fractionChars text.fraction ++ ending)) := by
    cases text.negative with
    | true => rfl
    | false =>
        exact @Reading.sign_digits text.whole _ isWhole.isDigit
          isWhole.nonempty
  rw [Reading.decimal?, signed]
  dsimp only
  rw [if_neg, if_neg, unsigned]
  · exact noWord _ 'n' (by decide) (by decide)
  · exact not_or.2 ⟨noWord _ 'i' (by decide) (by decide),
      noWord _ 'i' (by decide) (by decide)⟩

end NumberText

/-! ### Integers -/

theorem toList_intText (value : Int) :
    (Decimal.intText value).toList =
      signChars (decide (value < 0)) ++ Nat.toDigits 10 value.natAbs := by
  unfold Decimal.intText signChars
  split <;> simp_all

theorem ofChars?_intText (value : Int) :
    NumberText.ofChars? (Decimal.intText value).toList =
      some ⟨decide (value < 0), Nat.toDigits 10 value.natAbs, none, none⟩ := by
  have written : NumberText.IsWritten
      ⟨decide (value < 0), Nat.toDigits 10 value.natAbs, none, none⟩
      (Decimal.intText value).toList [] := by
    refine ⟨?_, isWhole_toDigits value.natAbs, by simp, rfl⟩
    simp [toList_intText, fractionChars]
  exact written.ofChars?

/-- Digits that stand for a number of 64 bits are all taken. -/
theorem takeDigits_eq {value : Nat} {digits : List Char}
    (small : Reading.digitsValue value digits < Number.limit) :
    Number.takeDigits value digits =
      (Reading.digitsValue value digits, []) := by
  induction digits generalizing value with
  | nil => rfl
  | cons digit rest ih =>
      have next := Nat.lt_of_le_of_lt (Reading.le_digitsValue _ rest) small
      rw [Number.takeDigits]
      exact (if_pos next).trans (ih small)

/-- An integer of 64 bits is read back. -/
theorem ofText?_intText {value : Int} (above : -2 ^ 63 ≤ value)
    (below : value < 2 ^ 64) :
    Number.ofText? ⟨decide (value < 0), Nat.toDigits 10 value.natAbs, none,
      none⟩ = some (.integer value) := by
  have limit_eq : Number.limit = 2 ^ 64 := rfl
  have taken : Number.takeDigits 0 (Nat.toDigits 10 value.natAbs) =
      (value.natAbs, []) := by
    rw [takeDigits_eq] <;> rw [Reading.digitsValue_toDigits]
    omega
  unfold Number.ofText?
  rw [taken]
  by_cases isNegative : value < 0
  · have same : -(value.natAbs : Int) = value := by omega
    generalize value.natAbs = magnitude at same ⊢
    simp [isNegative, same]
    omega
  · have same : (value.natAbs : Int) = value := by omega
    generalize value.natAbs = magnitude at same ⊢
    simp [isNegative, same]

/-! ### Numbers with a fraction or an exponent -/

/-- A text has the sign and the digits of a decimal, perhaps with a zero after
the point that counts as one more digit. -/
structure NumberText.Writes (text : NumberText) (negative : Bool)
    (decimal : Decimal) : Prop where
  negative_eq : text.negative = negative
  not_integer : text.fraction ≠ none ∨ text.exponent ≠ none
  digits : text.significand = decimal.digits ∧ text.power = decimal.exponent ∨
    text.significand = decimal.digits * 10 ^ (decimal.exponent.toNat + 1) ∧
      text.power = -1 ∧ text.significand < 10 ^ 17 ∧ 0 ≤ decimal.exponent

/-- Characters are read as a number that has the sign and the digits of a
decimal. -/
def ReadsAs (chars : List Char) (negative : Bool) (decimal : Decimal) : Prop :=
  ∃ text, NumberText.ofChars? chars = some text ∧ text.Writes negative decimal

theorem exponent?_scientific (power : Int) :
    NumberText.exponent? ('e' :: (if power < 0 then ['-'] else ['+']) ++
      Nat.toDigits 10 power.natAbs) = some (some power) := by
  have digits : (Nat.toDigits 10 power.natAbs).all Char.isDigit = true :=
    List.all_eq_true.2 Reading.isDigit_toDigits
  have nonempty : (Nat.toDigits 10 power.natAbs).isEmpty = false := by
    simp
  have value := @Reading.digitsValue_toDigits power.natAbs
  split
  · next below =>
      have same : -(power.natAbs : Int) = power := by omega
      generalize power.natAbs = magnitude at digits value same ⊢
      simp [NumberText.exponent?, Reading.exponent?, Reading.sign, digits,
        value, Binary64.signed, same]
  · next above =>
      have same : (power.natAbs : Int) = power := by omega
      generalize power.natAbs = magnitude at digits value same ⊢
      simp [NumberText.exponent?, Reading.exponent?, Reading.sign, digits,
        value, Binary64.signed, same]

variable {negative : Bool} {digits places : Nat}

/-- An integer with a zero after the point. -/
theorem readsAs_integral (normal : digits ≠ 0 ∨ places = 0)
    (small : digits * 10 ^ places < 10 ^ 16) :
    ReadsAs (signChars negative ++ Decimal.plain true ⟨digits, places⟩)
      negative ⟨digits, places⟩ := by
  have joined : Nat.toDigits 10 digits ++ List.replicate places '0' =
      Nat.toDigits 10 (digits * 10 ^ places) := by
    rcases Nat.eq_zero_or_pos digits with rfl | positive
    · obtain rfl := normal.resolve_left (by simp)
      simp
    · exact (Decimal.toDigits_mul_pow positive places).symm
  have written : Decimal.plain true ⟨digits, places⟩ =
      Nat.toDigits 10 (digits * 10 ^ places) ++
        (fractionChars (some ['0']) ++ []) := by
    simp [Decimal.plain, ← joined, fractionChars]
  have value : Reading.digitsValue 0
      (Nat.toDigits 10 (digits * 10 ^ places) ++ ['0']) =
        digits * 10 ^ places * 10 := by
    rw [Reading.digitsValue_append, Reading.digitsValue_toDigits]
    exact Reading.digitsValue_zeros _ 1
  rw [written]
  have isWritten : NumberText.IsWritten
      ⟨negative, Nat.toDigits 10 (digits * 10 ^ places), some ['0'], none⟩ _
        [] :=
    ⟨rfl, isWhole_toDigits _, by simp, rfl⟩
  refine ⟨_, isWritten.ofChars?, rfl, .inl (by simp),
    .inr ⟨?_, rfl, ?_, by simp⟩⟩
  · simp [NumberText.significand, value, Nat.pow_succ, Nat.mul_assoc]
  · simp only [NumberText.significand, Option.getD_some, value]
    omega

/-- Digits in front of a point and after it. -/
theorem readsAs_pointed (negative : Bool) {whole fraction : List Char}
    (isWhole : IsWhole whole) (nonempty : fraction ≠ [])
    (isDigit : ∀ digit ∈ fraction, digit.isDigit = true)
    (value : Reading.digitsValue 0 (whole ++ fraction) = digits) :
    ReadsAs (signChars negative ++ (whole ++ '.' :: fraction)) negative
      ⟨digits, -(fraction.length : Int)⟩ := by
  have isWritten : NumberText.IsWritten
      ⟨negative, whole, some fraction, none⟩ _ [] :=
    ⟨rfl, isWhole, by rintro _ ⟨⟩; exact ⟨nonempty, isDigit⟩, rfl⟩
  rw [List.append_nil] at isWritten
  exact ⟨_, isWritten.ofChars?, rfl, .inl (by simp),
    .inl ⟨value, by simp [NumberText.power]⟩⟩

/-- A number with its point among its digits or before them. -/
theorem readsAs_fractional (positive : 0 < digits) (fractional : 0 < places) :
    ReadsAs (signChars negative ++ Decimal.plain true ⟨digits, -(places : Int)⟩)
      negative ⟨digits, -(places : Int)⟩ := by
  have below : ¬ 0 ≤ -(places : Int) := by omega
  have places_eq : (-(places : Int)).natAbs = places := by omega
  have digits_eq := @Reading.digitsValue_toDigits digits
  have allDigits := @Reading.isDigit_toDigits digits
  have begins := Nat.head?_toDigits positive
  simp only [Decimal.plain, if_neg below, places_eq]
  generalize Nat.toDigits 10 digits = written at digits_eq allDigits begins
  split
  · next inside =>
      have isWhole : IsWhole (written.take (written.length - places)) := by
        refine ⟨fun digit member => allDigits digit
          (List.mem_of_mem_take member), ?_, ?_⟩
        · rw [Ne, List.take_eq_nil_iff]
          rintro (none | rfl)
          · omega
          · simp at inside
        · intro zero
          rw [List.head?_take, if_neg (by omega)] at zero
          exact absurd zero begins
      have length_eq : (written.drop (written.length - places)).length =
          places := by
        rw [List.length_drop]
        omega
      have reads := readsAs_pointed negative isWhole
        (List.length_pos_iff.1 (fractional.trans_eq length_eq.symm))
        (fun digit member => allDigits digit (List.mem_of_mem_drop member))
        ((congrArg _ (List.take_append_drop _ _)).trans digits_eq)
      rwa [length_eq] at reads
  · next before =>
      have length_eq : (List.replicate (places - written.length) '0' ++
          written).length = places := by
        rw [List.length_append, List.length_replicate]
        omega
      have isDigit : ∀ digit ∈ List.replicate (places - written.length) '0' ++
          written, digit.isDigit = true := by
        intro digit member
        rcases List.mem_append.1 member with zero | member
        · rw [List.eq_of_mem_replicate zero]
          rfl
        · exact allDigits digit member
      have value : Reading.digitsValue 0
          (['0'] ++ (List.replicate (places - written.length) '0' ++
            written)) = digits := by
        rw [List.singleton_append, ← List.cons_append,
          ← List.replicate_succ, Reading.digitsValue_append,
          Reading.digitsValue_zeros, Nat.zero_mul, digits_eq]
      have reads := readsAs_pointed negative (isWhole_single rfl)
        (List.length_pos_iff.1 (fractional.trans_eq length_eq.symm)) isDigit
        value
      rwa [length_eq] at reads

/-- A number with one digit before the point, and an exponent. -/
theorem readsAs_scientific (decimal : Decimal) :
    ReadsAs (signChars negative ++ Decimal.scientific true decimal) negative
      decimal := by
  have digits_eq := @Reading.digitsValue_toDigits decimal.digits
  have allDigits := @Reading.isDigit_toDigits decimal.digits
  have nonempty := @Nat.toDigits_ne_nil decimal.digits 10
  simp only [Decimal.scientific, if_true]
  generalize Nat.toDigits 10 decimal.digits = written
    at digits_eq allDigits nonempty
  match written with
  | [] => exact absurd rfl nonempty
  | [digit] =>
      have isWritten : NumberText.IsWritten ⟨negative, [digit], none, some _⟩
          _ _ :=
        ⟨rfl, isWhole_single (allDigits digit (by simp)), by simp,
          exponent?_scientific (decimal.exponent + (1 : Nat) - 1)⟩
      refine ⟨_, isWritten.ofChars?, rfl, .inr (by simp), .inl ⟨?_, ?_⟩⟩
      · simpa [NumberText.significand] using digits_eq
      · simp [NumberText.power]
  | digit :: second :: rest =>
      have isDigit : ∀ digit ∈ second :: rest, digit.isDigit = true :=
        fun digit member => allDigits digit (List.mem_cons_of_mem _ member)
      have isWritten : NumberText.IsWritten
          ⟨negative, [digit], some (second :: rest), some _⟩ _ _ :=
        ⟨rfl, isWhole_single (allDigits digit (by simp)),
          by rintro _ ⟨⟩; exact ⟨by simp, isDigit⟩,
          exponent?_scientific (decimal.exponent +
            (digit :: second :: rest).length - 1)⟩
      have arranged (after : List Char) : digit :: '.' :: (second :: rest) ++
          after = [digit] ++ (fractionChars (some (second :: rest)) ++ after) :=
        rfl
      dsimp only
      rw [List.append_assoc, arranged]
      refine ⟨_, isWritten.ofChars?, rfl, .inl (by simp),
        .inl ⟨digits_eq, ?_⟩⟩
      simp [NumberText.power]
      omega

/-- The layout of a decimal is read as the decimal. -/
theorem readsAs_layout (negative : Bool) (decimal : Decimal)
    (normal : decimal.digits = 0 → decimal.exponent = 0) :
    ReadsAs (signChars negative ++ Decimal.layout numberNotation decimal)
      negative decimal := by
  obtain ⟨digits, exponent⟩ := decimal
  dsimp only at normal
  have below : digits < 10 ^ (Nat.toDigits 10 digits).length :=
    (Nat.length_toDigits_le_iff (by decide) Nat.length_toDigits_pos).1 le_rfl
  simp only [Decimal.layout, numberNotation, Bool.and_eq_true,
    decide_eq_true_eq]
  split
  · next isPlain =>
      rcases lt_or_ge exponent 0 with fractional | integral
      · obtain ⟨places, rfl⟩ := Int.exists_eq_neg_ofNat fractional.le
        have positive : 0 < digits := by
          rcases Nat.eq_zero_or_pos digits with rfl | positive
          · exact absurd (normal rfl) fractional.ne
          · exact positive
        exact readsAs_fractional positive (by omega)
      · obtain ⟨places, rfl⟩ := Int.eq_ofNat_of_zero_le integral
        refine readsAs_integral (by omega) ?_
        rcases isPlain with rfl | ⟨-, short⟩
        · simp
        calc
          digits * 10 ^ places <
              10 ^ (Nat.toDigits 10 digits).length * 10 ^ places :=
            Nat.mul_lt_mul_of_pos_right below (Nat.pow_pos (by decide))
          _ = 10 ^ ((Nat.toDigits 10 digits).length + places) :=
            (Nat.pow_add ..).symm
          _ ≤ 10 ^ 16 := Nat.pow_le_pow_right (by decide) (by omega)
  · next isScientific =>
      exact readsAs_scientific _

end Json

end Runbook
