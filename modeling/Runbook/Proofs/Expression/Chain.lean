import Runbook.Proofs.Json.Numeral

/-!
# Chains of numbers

The grammar of arithmetic, beside the scanner: numbers with an operator
between each two of them, and blanks wherever they do not split a number.  The
scanner accepts exactly the texts of the grammar, and a chain is evaluated from
left to right unless it divides by zero.

The text of a result is a number as it may be written: a sign, digits, and
perhaps a point among them.  There is no operator in it, since a sign at the
start belongs to the number.  So it is no chain, and assigning it once more
leaves it as it is.
-/

namespace Runbook

namespace Arithmetic

open Json (fractionChars)
open Json.NumberText (digitRun_spec)

/-! ### Operations -/

/-- The character that stands for an operation. -/
def Operator.symbol : Operator → Char
  | .plus => '+'
  | .minus => '-'
  | .times => '*'
  | .over => '/'
  | .modulo => '%'

/-- The operation on numbers. -/
def Operator.apply : Operator → Binary64 → Binary64 → Binary64
  | .plus => .add
  | .minus => .sub
  | .times => .mul
  | .over => .div
  | .modulo => .rem

/-- Whether the right operand is a divisor. -/
def Operator.divides : Operator → Bool
  | .over | .modulo => true
  | _ => false

variable {operator : Operator} {value : Binary64}

theorem Operator.ofChar?_eq_some_iff {character : Char} :
    ofChar? character = some operator ↔ character = operator.symbol := by
  constructor
  · intro found
    unfold ofChar? at found
    split at found <;> cases found <;> rfl
  · rintro rfl
    cases operator <;> rfl

theorem Operator.combine?_eq_some_iff {left right : Binary64} :
    operator.combine? left right = some value ↔
      (operator.divides = true → right.isZero = false) ∧
        value = operator.apply left right := by
  cases operator <;> cases isZero : right.isZero <;>
    simp [combine?, divides, apply, isZero, eq_comm]

/-! ### Numbers -/

/-- A sign as it may be written, and whether it is negative. -/
inductive IsSign : List Char → Bool → Prop
  | none : IsSign [] false
  | plus : IsSign ['+'] false
  | minus : IsSign ['-'] true

/-- A number as it may be written: an optional sign, directly followed by
digits with at most one point, and at least one digit. -/
inductive IsNumber : List Char → Prop
  | intro {sign whole : List Char} {negative : Bool}
      {fraction : Option (List Char)} (isSign : IsSign sign negative)
      (isDigit : ∀ digit ∈ whole ++ fraction.getD [], digit.isDigit = true)
      (nonempty : whole ++ fraction.getD [] ≠ []) :
      IsNumber (sign ++ (whole ++ fractionChars fraction))

/-- A character can neither continue digits nor begin a fraction. -/
def EndsNumber (character : Char) : Prop :=
  character.isDigit = false ∧ character ≠ '.'

variable {text rest sign whole : List Char} {negative : Bool}
  {fraction : Option (List Char)}

theorem numeral_append
    (isDigit : ∀ digit ∈ whole ++ fraction.getD [], digit.isDigit = true)
    (ends : ∀ character ∈ rest.head?, EndsNumber character) :
    numeral (whole ++ (fractionChars fraction ++ rest)) =
      (whole, fraction.getD [], rest) := by
  rw [List.forall_mem_append] at isDigit
  have noDigit : ∀ character ∈ rest.head?, character.isDigit = false :=
    fun character first => (ends character first).1
  unfold numeral
  cases fraction with
  | none =>
      rw [fractionChars, List.nil_append,
        Reading.digitRun_digits isDigit.1 noDigit]
      dsimp only
      split
      · exact absurd rfl (ends '.' rfl).2
      · rfl
  | some places =>
      rw [fractionChars, List.cons_append, Reading.digitRun_digits isDigit.1
        (by simp [Char.isDigit])]
      have places_eq := Reading.digitRun_digits isDigit.2 noDigit
      exact congrArg (fun run => (whole, run.1, run.2)) places_eq

/-- A number does not begin with another sign. -/
theorem sign_append (isSign : IsSign sign negative)
    (isDigit : ∀ digit ∈ whole ++ fraction.getD [], digit.isDigit = true)
    (nonempty : whole ++ fraction.getD [] ≠ []) :
    Reading.sign (sign ++ (whole ++ (fractionChars fraction ++ rest))) =
      (negative, whole ++ (fractionChars fraction ++ rest)) := by
  cases isSign with
  | plus => rfl
  | minus => rfl
  | none =>
      rw [List.forall_mem_append] at isDigit
      rw [List.nil_append]
      cases whole with
      | cons digit others =>
          exact Reading.sign_digits isDigit.1 (List.cons_ne_nil _ _)
      | nil =>
          cases fraction with
          | none => exact absurd rfl nonempty
          | some places => rfl

theorem unsignedDecimal?_append (negative : Bool)
    (isDigit : ∀ digit ∈ whole ++ fraction.getD [], digit.isDigit = true)
    (nonempty : whole ++ fraction.getD [] ≠ []) :
    Reading.unsignedDecimal? negative (whole ++ fractionChars fraction) =
      some (Binary64.ofDecimal negative
        (Reading.digitsValue 0 (whole ++ fraction.getD []))
        (-((fraction.getD []).length : Int))) := by
  rw [List.forall_mem_append] at isDigit
  have wholeRun := @Reading.digitRun_digits _ (fractionChars fraction)
    isDigit.1 (by cases fraction <;> simp [fractionChars, Char.isDigit])
  have fractionRun := @Reading.digitRun_digits _ [] isDigit.2 (by simp)
  rw [List.append_nil] at fractionRun
  unfold Reading.unsignedDecimal?
  rw [wholeRun]
  cases fraction with
  | none =>
      simp only [Option.getD_none, List.append_nil] at nonempty
      simp [fractionChars, Reading.exponent?, nonempty]
  | some places =>
      simp only [Option.getD_some] at fractionRun nonempty
      simp only [fractionChars, fractionRun]
      rw [if_neg (by simpa using nonempty)]
      simp [Reading.exponent?]

/-- Every number that may be written is read. -/
theorem decimal?_of_isSign (isSign : IsSign sign negative)
    (isDigit : ∀ digit ∈ whole ++ fraction.getD [], digit.isDigit = true)
    (nonempty : whole ++ fraction.getD [] ≠ []) :
    Reading.decimal? (sign ++ (whole ++ fractionChars fraction)) =
      some (Binary64.ofDecimal negative
        (Reading.digitsValue 0 (whole ++ fraction.getD []))
        (-((fraction.getD []).length : Int))) := by
  have signs := @sign_append [] _ _ _ _ isSign isDigit nonempty
  rw [List.append_nil] at signs
  -- The words for infinity and for no number have no digit in them.
  have noWord {word : List Char}
      (noDigit : word.any Char.isDigit = false) :
      (whole ++ fractionChars fraction).map Char.toLower ≠ word := by
    rintro rfl
    obtain ⟨digit, member⟩ := List.exists_mem_of_ne_nil _ nonempty
    have within : digit ∈ whole ++ fractionChars fraction := by
      cases fraction <;> simp [fractionChars] at member ⊢ <;> grind
    have kept := List.any_eq_false.1 noDigit _ (List.mem_map_of_mem within)
    rw [toLower_of_isDigit (isDigit digit member)] at kept
    exact kept (isDigit digit member)
  have noInf := @noWord "inf".toList (by decide)
  have noInfinity := @noWord "infinity".toList (by decide)
  have noNan := @noWord "nan".toList (by decide)
  simp only [Reading.decimal?, signs, noInf, noInfinity, noNan, or_self,
    if_false]
  exact unsignedDecimal?_append negative isDigit nonempty

theorem IsNumber.exists_decimal? (isNumber : IsNumber text) :
    ∃ value, Reading.decimal? text = some value := by
  obtain ⟨isSign, isDigit, nonempty⟩ := isNumber
  exact ⟨_, decimal?_of_isSign isSign isDigit nonempty⟩

/-! ### The scanner -/

/-- A text consists of blanks. -/
def AreBlank (text : List Char) : Prop :=
  ∀ character ∈ text, Text.isBlank character = true

theorem exists_of_sign {unsigned : List Char}
    (splits : Reading.sign text = (negative, unsigned)) :
    ∃ sign, IsSign sign negative ∧ text = sign ++ unsigned := by
  unfold Reading.sign at splits
  split at splits <;> cases splits
  · exact ⟨_, .minus, rfl⟩
  · exact ⟨_, .plus, rfl⟩
  · exact ⟨_, .none, rfl⟩

theorem exists_of_numeral {digits places : List Char}
    (splits : numeral text = (digits, places, rest)) :
    ∃ fraction : Option (List Char), places = fraction.getD [] ∧
      text = digits ++ (fractionChars fraction ++ rest) ∧
      ∀ digit ∈ digits ++ places, digit.isDigit = true := by
  unfold numeral at splits
  cases run : Reading.digitRun text with
  | mk whole after =>
      obtain ⟨rfl, wholeDigits⟩ := digitRun_spec text run
      rw [run] at splits
      dsimp only at splits
      split at splits
      · rename_i others
        cases runToo : Reading.digitRun others with
        | mk run last =>
            obtain ⟨rfl, fractionDigits⟩ := digitRun_spec others runToo
            rw [runToo] at splits
            cases splits
            exact ⟨some _, rfl, rfl, List.forall_mem_append.2
              ⟨wholeDigits, fractionDigits⟩⟩
      · cases splits
        exact ⟨none, rfl, rfl, by simpa using wholeDigits⟩

/-- What is read is a number after blanks, as it may be written. -/
theorem exists_of_readOperand?
    (reads : readOperand? text = some (value, rest)) :
    ∃ blanks number, text = blanks ++ number ++ rest ∧ AreBlank blanks ∧
      IsNumber number ∧ Reading.decimal? number = some value := by
  unfold readOperand? at reads
  cases signs : Reading.sign (Text.trimLeft text) with
  | mk negative unsigned =>
      cases parts : numeral unsigned with
      | mk whole after =>
          obtain ⟨places, after⟩ := after
          rw [signs] at reads
          dsimp only at reads
          rw [parts] at reads
          obtain ⟨nonempty, same⟩ := Option.ite_none_left_eq_some.1 reads
          obtain ⟨rfl, rfl⟩ := Prod.mk.inj (Option.some.inj same)
          obtain ⟨sign, isSign, text_eq⟩ := exists_of_sign signs
          obtain ⟨fraction, rfl, rfl, isDigit⟩ := exists_of_numeral parts
          have someDigit : whole ++ fraction.getD [] ≠ [] := by
            simpa [List.isEmpty_iff] using nonempty
          refine ⟨text.takeWhile Text.isBlank, _, ?_,
            fun _ => List.mem_takeWhile_imp, .intro isSign isDigit someDigit,
            decimal?_of_isSign isSign isDigit someDigit⟩
          calc text = text.takeWhile Text.isBlank ++ Text.trimLeft text :=
              List.takeWhile_append_dropWhile.symm
            _ = _ := by simp [text_eq]

/-- A number does not begin with a blank. -/
theorem not_blank_of_head?
    (isSign : IsSign sign negative)
    (isDigit : ∀ digit ∈ whole ++ fraction.getD [], digit.isDigit = true)
    (nonempty : whole ++ fraction.getD [] ≠ []) :
    ∀ character ∈
        (sign ++ (whole ++ (fractionChars fraction ++ rest))).head?,
      Text.isBlank character = false := by
  intro character first
  cases isSign with
  | plus =>
      obtain rfl := Option.some.inj first
      rfl
  | minus =>
      obtain rfl := Option.some.inj first
      rfl
  | none =>
      cases whole with
      | cons digit others =>
          obtain rfl := Option.some.inj first
          exact Text.isBlank_of_isDigit (isDigit digit (by simp))
      | nil =>
          cases fraction with
          | none => exact absurd rfl nonempty
          | some places =>
              obtain rfl := Option.some.inj first
              rfl

/-- A number is read to its end. -/
theorem readOperand?_append {blanks number : List Char}
    (blank : AreBlank blanks) (isNumber : IsNumber number)
    (reads : Reading.decimal? number = some value)
    (ends : ∀ character ∈ rest.head?, EndsNumber character) :
    readOperand? (blanks ++ number ++ rest) = some (value, rest) := by
  obtain ⟨isSign, isDigit, nonempty⟩ := isNumber
  rw [decimal?_of_isSign isSign isDigit nonempty] at reads
  obtain rfl := Option.some.inj reads
  unfold readOperand?
  rw [Text.trimLeft, List.append_assoc, List.append_assoc, List.append_assoc,
    List.dropWhile_append_of_pos blank,
    Text.dropWhile_isBlank (not_blank_of_head? isSign isDigit nonempty),
    sign_append isSign isDigit nonempty]
  dsimp only
  rw [numeral_append isDigit ends]
  dsimp only
  rw [if_neg (by simpa [List.isEmpty_iff] using nonempty)]

/-! ### Chains -/

/-- Operators with their right operands as they may be written, up to the end
of a text. -/
inductive WritesSteps : List Char → List (Operator × Binary64) → Prop
  | done {blanks : List Char} (blank : AreBlank blanks) :
      WritesSteps blanks []
  | step {blanks others number rest : List Char} {operator : Operator}
      {value : Binary64} {steps : List (Operator × Binary64)}
      (blank : AreBlank blanks) (blankToo : AreBlank others)
      (isNumber : IsNumber number)
      (reads : Reading.decimal? number = some value)
      (writes : WritesSteps rest steps) :
      WritesSteps (blanks ++ operator.symbol :: (others ++ number ++ rest))
        ((operator, value) :: steps)

/-- A text is a chain: a number, and at least one operator with a number right
of it. -/
inductive Chain.IsWritten (chain : Chain) : List Char → Prop
  | intro {blanks number rest : List Char} (blank : AreBlank blanks)
      (isNumber : IsNumber number)
      (reads : Reading.decimal? number = some chain.first)
      (writes : WritesSteps rest chain.steps) (nonempty : chain.steps ≠ []) :
      IsWritten chain (blanks ++ number ++ rest)

theorem endsNumber_of_isBlank {character : Char}
    (isBlank : Text.isBlank character = true) : EndsNumber character := by
  constructor
  · by_contra isDigit
    rw [Text.isBlank_of_isDigit (by simpa using isDigit)] at isBlank
    cases isBlank
  · rintro rfl
    cases isBlank

theorem endsNumber_symbol (operator : Operator) :
    EndsNumber operator.symbol := by
  cases operator <;> exact ⟨rfl, by decide⟩

theorem WritesSteps.endsNumber {steps : List (Operator × Binary64)}
    (writes : WritesSteps text steps) :
    ∀ character ∈ text.head?, EndsNumber character := by
  intro character first
  cases writes with
  | done blank =>
      exact endsNumber_of_isBlank (blank _ (List.mem_of_mem_head? first))
  | @step blanks _ _ _ operator _ _ blank blankToo isNumber reads writes =>
      cases blanks with
      | nil =>
          obtain rfl := Option.some.inj first
          exact endsNumber_symbol operator
      | cons other blanks =>
          obtain rfl := Option.some.inj first
          exact endsNumber_of_isBlank (blank _ List.mem_cons_self)

theorem readSteps?_eq (text : List Char) :
    readSteps? text =
      match Text.trimLeft text with
      | [] => some []
      | symbol :: rest =>
        (Operator.ofChar? symbol).bind fun operator =>
          (readOperand? rest).bind fun (number, after) =>
            (readSteps? after).map ((operator, number) :: ·) := by
  rw [readSteps?]
  split
  · simp [*]
  · rename_i symbol rest start
    rw [start]
    dsimp only
    split
    · simp [*]
    · rename_i operator isOperator
      rw [isOperator, Option.bind_some]
      split
      · simp [*]
      · simp [*]

/-- What is read is nothing but blanks, or an operator and its operand, after
which the reading goes on. -/
theorem cases_of_readSteps? {steps : List (Operator × Binary64)}
    (reads : readSteps? text = some steps) :
    (AreBlank text ∧ steps = []) ∨
      ∃ blanks operator rest number after others, AreBlank blanks ∧
        text = blanks ++ Operator.symbol operator :: rest ∧
        readOperand? rest = some (number, after) ∧
        readSteps? after = some others ∧
        steps = (operator, number) :: others := by
  rw [readSteps?_eq] at reads
  cases start : Text.trimLeft text with
  | nil =>
      rw [start] at reads
      exact .inl ⟨List.dropWhile_eq_nil_iff.1 start,
        (Option.some.inj reads).symm⟩
  | cons symbol rest =>
      rw [start] at reads
      obtain ⟨operator, isOperator, reads⟩ := Option.bind_eq_some_iff.1 reads
      obtain ⟨⟨number, after⟩, found, reads⟩ :=
        Option.bind_eq_some_iff.1 reads
      obtain ⟨others, goesOn, rfl⟩ := Option.map_eq_some_iff.1 reads
      obtain rfl := Operator.ofChar?_eq_some_iff.1 isOperator
      refine .inr ⟨text.takeWhile Text.isBlank, operator, rest, number, after,
        others, fun _ => List.mem_takeWhile_imp, ?_, found, goesOn, rfl⟩
      rw [← start]
      exact List.takeWhile_append_dropWhile.symm

/-- The operators and numbers up to the end are read exactly as they are
written. -/
theorem readSteps?_eq_some_iff {steps : List (Operator × Binary64)} :
    readSteps? text = some steps ↔ WritesSteps text steps := by
  constructor
  · intro reads
    induction steps generalizing text with
    | nil =>
        obtain ⟨blank, -⟩ | ⟨_, _, _, _, _, _, _, _, _, _, impossible⟩ :=
          cases_of_readSteps? reads
        · exact .done blank
        · cases impossible
    | cons step steps ih =>
        obtain ⟨-, impossible⟩ | ⟨blanks, operator, rest, number, after,
          others, blank, rfl, found, goesOn, same⟩ := cases_of_readSteps? reads
        · cases impossible
        · obtain ⟨rfl, rfl⟩ := List.cons.inj same
          obtain ⟨blanksToo, numeral, rfl, blankToo, isNumber, reads⟩ :=
            exists_of_readOperand? found
          exact .step blank blankToo isNumber reads (ih goesOn)
  · intro writes
    induction writes with
    | @done blanks blank =>
        have trimmed : Text.trimLeft blanks = [] :=
          List.dropWhile_eq_nil_iff.2 blank
        rw [readSteps?_eq, trimmed]
    | @step blanks others number rest operator value steps blank blankToo
        isNumber reads writes ih =>
        have trimmed : Text.trimLeft (blanks ++ operator.symbol ::
            (others ++ number ++ rest)) =
              operator.symbol :: (others ++ number ++ rest) := by
          rw [Text.trimLeft, List.dropWhile_append_of_pos blank]
          apply Text.dropWhile_isBlank
          cases operator <;> simp [Operator.symbol, Text.isBlank]
        rw [readSteps?_eq, trimmed]
        dsimp only
        rw [Operator.ofChar?_eq_some_iff.2 rfl, Option.bind_some,
          readOperand?_append blankToo isNumber reads writes.endsNumber,
          Option.bind_some]
        dsimp only
        rw [ih, Option.map_some]

/-- A chain is read exactly as it is written. -/
theorem Chain.read?_eq_some_iff {chain : Chain} :
    Chain.read? text = some chain ↔ chain.IsWritten text := by
  constructor
  · intro reads
    obtain ⟨⟨first, rest⟩, found, reads⟩ := Option.bind_eq_some_iff.1 reads
    obtain ⟨steps, goesOn, reads⟩ := Option.bind_eq_some_iff.1 reads
    obtain ⟨nonempty, same⟩ := Option.ite_none_left_eq_some.1 reads
    obtain rfl := Option.some.inj same
    obtain ⟨blanks, number, rfl, blank, isNumber, reads⟩ :=
      exists_of_readOperand? found
    exact .intro blank isNumber reads (readSteps?_eq_some_iff.1 goesOn)
      (by simpa [List.isEmpty_iff] using nonempty)
  · rintro ⟨blank, isNumber, reads, writes, nonempty⟩
    rw [Chain.read?, readOperand?_append blank isNumber reads
      writes.endsNumber]
    simp only [Option.bind_eq_bind, Option.bind_some]
    rw [readSteps?_eq_some_iff.2 writes, Option.bind_some,
      if_neg (by simpa [List.isEmpty_iff] using nonempty)]
    rfl

/-! ### Values -/

/-- Nothing is divided by zero in a chain. -/
def Chain.IsDefined (chain : Chain) : Prop :=
  ∀ step ∈ chain.steps, step.1.divides = true → step.2.isZero = false

/-- The operations of a chain, carried out from left to right. -/
def Chain.fold (chain : Chain) : Binary64 :=
  chain.steps.foldl (fun value step => step.1.apply value step.2) chain.first

theorem Chain.value?_eq_some_iff {chain : Chain} :
    chain.value? = some value ↔ chain.IsDefined ∧ value = chain.fold := by
  obtain ⟨first, steps⟩ := chain
  unfold Chain.value? Chain.IsDefined Chain.fold
  induction steps generalizing first with
  | nil =>
      rw [List.foldlM_nil, List.foldl_nil, Option.pure_def, Option.some.injEq]
      exact ⟨fun same => ⟨by simp, same.symm⟩, fun ⟨_, same⟩ => same.symm⟩
  | cons step steps ih =>
      rw [List.foldlM_cons, List.forall_mem_cons, List.foldl_cons,
        Option.bind_eq_bind, Option.bind_eq_some_iff]
      constructor
      · rintro ⟨middle, combined, rest⟩
        obtain ⟨nonzero, rfl⟩ := Operator.combine?_eq_some_iff.1 combined
        obtain ⟨others, same⟩ := (ih _).1 rest
        exact ⟨⟨nonzero, others⟩, same⟩
      · rintro ⟨⟨nonzero, others⟩, same⟩
        exact ⟨_, Operator.combine?_eq_some_iff.2 ⟨nonzero, rfl⟩,
          (ih _).2 ⟨others, same⟩⟩

theorem exists_resultText? (finite : value.isFinite = true) :
    ∃ result, resultText? value = some result := by
  unfold resultText?
  rw [if_pos finite]
  split <;> exact ⟨_, rfl⟩

theorem resultText?_of_not_finite (infinite : value.isFinite = false) :
    resultText? value = none := by
  rw [resultText?, if_neg (by simp [infinite])]

/-- A text has a value exactly if it is a chain of numbers that does not divide
by zero, and then its value is that of the operations from left to right.  What
is assigned is the text of the value if that is finite, and the text itself in
all other cases. -/
theorem evaluate?_folds_chain (text : String) :
    (∀ value, evaluate? text = some value ↔
        ∃ chain : Chain, chain.IsWritten text.toList ∧ chain.IsDefined ∧
          value = chain.fold) ∧
      (∀ number, IsNumber number →
        ∃ value, Reading.decimal? number = some value) ∧
      (∀ value, evaluate? text = some value → value.isFinite = true →
        resultText? value = some (assigned text)) ∧
      ((∀ value, evaluate? text = some value → value.isFinite = false) →
        assigned text = text) := by
  refine ⟨?_, fun number => IsNumber.exists_decimal?, ?_, ?_⟩
  · intro value
    rw [evaluate?, Option.bind_eq_some_iff]
    simp only [Chain.read?_eq_some_iff, Chain.value?_eq_some_iff]
  · intro value evaluated finite
    obtain ⟨result, isResult⟩ := exists_resultText? finite
    rw [assigned, evaluated, Option.bind_some, isResult, Option.getD_some]
  · intro unfinished
    rw [assigned]
    cases evaluated : evaluate? text with
    | none => rfl
    | some value =>
        rw [Option.bind_some,
          resultText?_of_not_finite (unfinished value evaluated),
          Option.getD_none]

/-- Three minus one, times a half: no operation goes before another one. -/
theorem evaluate?_folds_chain_half :
    ∃ (value : Binary64) (chain : Chain),
      evaluate? "\u00a03 -1*+.5\t" = some value ∧
      chain.IsWritten "\u00a03 -1*+.5\t".toList ∧ chain.IsDefined ∧
      value = chain.fold ∧ value.isFinite = true ∧
      resultText? value = some (assigned "\u00a03 -1*+.5\t") ∧
      assigned "\u00a03 -1*+.5\t" = "1" := by
  have evaluated : evaluate? "\u00a03 -1*+.5\t" = some (.ofInt 1) := by
    decide +kernel
  have finite : (Binary64.ofInt 1).isFinite = true := by decide +kernel
  obtain ⟨folds, -, shown, -⟩ := evaluate?_folds_chain "\u00a03 -1*+.5\t"
  obtain ⟨chain, written, defined, same⟩ := (folds _).1 evaluated
  exact ⟨_, chain, evaluated, written, defined, same, finite,
    shown _ evaluated finite, by decide +kernel⟩

end Arithmetic

end Runbook

/-! ## Results that stay -/

namespace Runbook

open Arithmetic (IsNumber IsSign)
open Json (fractionChars signChars toList_intText)

/-! ### Plain digits -/

namespace Decimal

/-- What is written without an exponent is digits with at most one point. -/
theorem exists_plain (decimal : Decimal) :
    ∃ (whole : List Char) (fraction : Option (List Char)),
      plain false decimal = whole ++ fractionChars fraction ∧
      (∀ digit ∈ whole ++ fraction.getD [], digit.isDigit = true) ∧
      whole ++ fraction.getD [] ≠ [] := by
  obtain ⟨digits, exponent⟩ := decimal
  have isDigit := @Reading.isDigit_toDigits digits
  have isZero (count : Nat) :
      ∀ digit ∈ List.replicate count '0', digit.isDigit = true := by
    intro digit member
    rw [(List.mem_replicate.1 member).2]
    rfl
  unfold plain
  by_cases integral : 0 ≤ exponent
  · refine ⟨Nat.toDigits 10 digits ++ List.replicate exponent.toNat '0', none,
      ?_, ?_, ?_⟩
    · simp [integral, fractionChars]
    · rw [Option.getD_none, List.append_nil, List.forall_mem_append]
      exact ⟨isDigit, isZero exponent.toNat⟩
    · simp
  · by_cases inside : exponent.natAbs < (Nat.toDigits 10 digits).length
    · -- The point stands between two of the digits.
      let before := (Nat.toDigits 10 digits).length - exponent.natAbs
      refine ⟨(Nat.toDigits 10 digits).take before,
        some ((Nat.toDigits 10 digits).drop before), ?_, ?_, ?_⟩
      · simp [integral, inside, fractionChars, before]
      · simpa using isDigit
      · simp
    · refine ⟨['0'], some (List.replicate
        (exponent.natAbs - (Nat.toDigits 10 digits).length) '0' ++
          Nat.toDigits 10 digits), ?_, ?_, ?_⟩
      · simp [integral, inside, fractionChars]
      · rw [Option.getD_some, List.forall_mem_append, List.forall_mem_append]
        exact ⟨isZero 1, isZero _, isDigit⟩
      · simp

end Decimal

namespace Arithmetic

variable {text : String} {value : Binary64}

theorem isSign_signChars (negative : Bool) :
    IsSign (signChars negative) negative := by
  cases negative with
  | false => exact .none
  | true => exact .minus

theorem isNumber_intText (value : Int) :
    IsNumber (Decimal.intText value).toList := by
  have isNumber : IsNumber (signChars (decide (value < 0)) ++
      (Nat.toDigits 10 value.natAbs ++ fractionChars none)) :=
    .intro (isSign_signChars _) (by simpa using Reading.isDigit_toDigits)
      (by simp)
  rwa [toList_intText, ← List.append_nil (Nat.toDigits 10 value.natAbs)]

theorem isNumber_render (finite : value.isFinite = true) :
    IsNumber (value.render Binary64.plainNotation).toList := by
  cases value with
  | nan => cases finite
  | infinite negative => cases finite
  | finite negative mantissa exponent canonical =>
      obtain ⟨whole, fraction, written, isDigit, nonempty⟩ :=
        Decimal.exists_plain (Decimal.shortest mantissa exponent)
      have signed : ((Binary64.finite negative mantissa exponent
          canonical).render Binary64.plainNotation).toList =
          signChars negative ++ (whole ++ fractionChars fraction) := by
        rw [← written]
        cases negative <;>
          simp [Binary64.render, Decimal.layout, Binary64.plainNotation,
            signChars]
      rw [signed]
      exact .intro (isSign_signChars negative) isDigit nonempty

/-- The text of a result is a number. -/
theorem isNumber_of_resultText? (shown : resultText? value = some text) :
    IsNumber text.toList := by
  obtain ⟨finite, shown⟩ := Option.ite_none_right_eq_some.1 shown
  split at shown
  · cases shown
    exact isNumber_intText _
  · cases shown
    exact isNumber_render finite

/-- A number alone is no chain. -/
theorem read?_of_isNumber {chars : List Char} (isNumber : IsNumber chars) :
    Chain.read? chars = none := by
  obtain ⟨value, reads⟩ := isNumber.exists_decimal?
  have whole : readOperand? chars = some (value, []) := by
    simpa using @readOperand?_append value [] [] chars (by simp [AreBlank])
      isNumber reads (by simp)
  have nothing : readSteps? [] = some [] :=
    readSteps?_eq_some_iff.2 (.done (by simp [AreBlank]))
  rw [Chain.read?, whole]
  simp [nothing]

theorem assigned_of_isNumber (isNumber : IsNumber text.toList) :
    assigned text = text := by
  rw [assigned, evaluate?, read?_of_isNumber isNumber]
  rfl

/-- What is assigned is the text itself, or a number. -/
theorem assigned_eq_or_isNumber (text : String) :
    assigned text = text ∨ IsNumber (assigned text).toList := by
  unfold assigned
  cases shown : (evaluate? text).bind resultText? with
  | none => exact .inl rfl
  | some result =>
      obtain ⟨value, -, shown⟩ := Option.bind_eq_some_iff.1 shown
      exact .inr (isNumber_of_resultText? shown)

/-- Assigning what has been assigned changes nothing. -/
theorem assigned_assigned (text : String) :
    assigned (assigned text) = assigned text := by
  rcases assigned_eq_or_isNumber text with same | isNumber
  · rw [same, same]
  · exact assigned_of_isNumber isNumber

end Arithmetic

end Runbook
