import Runbook.Proofs.Number.IntText
import Runbook.Template.Reference

/-!
# Names and numerals

The texts that stand for a variable, a member or a position in a reference, and
where such a text ends.
-/

namespace Runbook.Template

/-! ### Names and numerals -/

/-- A text of at least one character, all of which may stand in names. -/
structure IsKey (text : List Char) : Prop where
  nonempty : text ≠ []
  isNameChar : ∀ character ∈ text, isNameChar character = true

/-- The name of a variable: a letter or an underscore, and more. -/
structure IsName (text : List Char) : Prop extends IsKey text where
  begins : ∀ character ∈ text.head?, isNameStart character = true

theorem isKey_of_all {text : List Char} (nonempty : text ≠ [])
    (all : text.all isNameChar = true) : IsKey text :=
  ⟨nonempty, List.all_eq_true.1 all⟩

/-- Digits that stand for a number that fits a machine word. -/
structure IsNumeral (text : List Char) (number : Nat) : Prop where
  nonempty : text ≠ []
  isDigit : ∀ character ∈ text, character.isDigit = true
  value : Nat.ofDigitChars 10 text 0 = number
  fits : number < 2 ^ 64

/-- The characters that are blank. -/
def blankCodes : List Nat :=
  [9, 10, 11, 12, 13, 0x20, 0x85, 0xA0, 0x1680, 0x2000, 0x2001, 0x2002, 0x2003,
    0x2004, 0x2005, 0x2006, 0x2007, 0x2008, 0x2009, 0x200A, 0x2028, 0x2029,
    0x202F, 0x205F, 0x3000]

theorem mem_blankCodes {character : Char}
    (blank : Text.isBlank character = true) :
    character.toNat ∈ blankCodes := by
  simp only [Text.isBlank, Bool.or_eq_true, Bool.and_eq_true,
    decide_eq_true_eq, beq_iff_eq] at blank
  simp only [blankCodes, List.mem_cons, List.not_mem_nil, or_false]
  omega

/-- No name has a blank in it. -/
theorem isNameChar_of_isBlank {character : Char}
    (blank : Text.isBlank character = true) :
    isNameChar character = false := by
  have noName : ∀ code ∈ blankCodes,
      isNameChar (Char.ofNat code) = false := by
    decide +kernel
  rw [← Char.ofNat_toNat character]
  exact noName _ (mem_blankCodes blank)

theorem isBlank_of_isNameChar {character : Char}
    (named : isNameChar character = true) :
    Text.isBlank character = false := by
  rw [Bool.eq_false_iff]
  intro blank
  rw [isNameChar_of_isBlank blank] at named
  cases named

theorem isNameChar_of_isNameStart {character : Char}
    (starts : isNameStart character = true) : isNameChar character = true := by
  rcases Bool.or_eq_true_iff.1 starts with isAlpha | underscore
  · have small : character.toNat < 128 := by
      rcases Bool.or_eq_true_iff.1 isAlpha with upper | lower
      · obtain ⟨-, high⟩ := of_decide_eq_true upper
        exact Nat.lt_of_le_of_lt high (by decide)
      · have high := of_decide_eq_true (Bool.and_eq_true_iff.1 lower).2
        exact Nat.lt_of_le_of_lt high (by decide)
    simp [isNameChar, Text.isWord, small, Char.isAlphanum, isAlpha]
  · rw [beq_iff_eq] at underscore
    subst underscore
    decide

theorem isNameChar_of_isDigit {character : Char}
    (isDigit : character.isDigit = true) : isNameChar character = true := by
  have range := toNat_of_isDigit isDigit
  have small : character.toNat < 128 := by omega
  simp [isNameChar, Text.isWord, small, Char.isAlphanum, isDigit]

/-! ### Numerals are read -/

theorem digit?_of_isDigit {character : Char}
    (isDigit : character.isDigit = true) :
    Reading.digit? character = some (character.toNat - '0'.toNat) := by
  rw [Reading.digit?, if_pos]
  simpa [Char.isDigit, Char.le_def] using isDigit

theorem isDigit_of_digit? {character : Char} {digit : Nat}
    (isDigit : Reading.digit? character = some digit) :
    character.isDigit = true ∧ digit = character.toNat - '0'.toNat := by
  obtain ⟨range, same⟩ := Option.ite_none_right_eq_some.1 isDigit
  refine ⟨?_, (Option.some.inj same).symm⟩
  simpa [Char.isDigit, Char.le_def] using range

theorem naturalDigits_eq_ok_iff (value number : Nat) (text : List Char) :
    value < Reading.wordLimit ∧
        Reading.naturalDigits value text = .ok number ↔
      (∀ character ∈ text, character.isDigit = true) ∧
        Reading.digitsValue value text = number ∧
        number < Reading.wordLimit := by
  induction text generalizing value with
  | nil =>
      simp only [Reading.naturalDigits, Except.ok.injEq, Reading.digitsValue,
        List.foldl_nil]
      constructor
      · rintro ⟨small, rfl⟩
        exact ⟨by simp, rfl, small⟩
      · rintro ⟨-, rfl, small⟩
        exact ⟨small, rfl⟩
  | cons character rest ih =>
      rw [Reading.naturalDigits, List.forall_mem_cons]
      cases found : Reading.digit? character with
      | none =>
          have notDigit : character.isDigit ≠ true := fun isDigit => by
            rw [digit?_of_isDigit isDigit] at found
            cases found
          simp [notDigit]
      | some digit =>
          obtain ⟨isDigit, rfl⟩ := isDigit_of_digit? found
          have next := ih (10 * value +
            (character.toNat - '0'.toNat))
          have value_eq : Reading.digitsValue value (character :: rest) =
              Reading.digitsValue (10 * value +
                (character.toNat - '0'.toNat)) rest := rfl
          dsimp only
          rw [value_eq, eq_true isDigit, true_and, ← next]
          constructor
          · rintro ⟨-, read⟩
            split at read
            · next small => exact ⟨small, read⟩
            · cases read
          · rintro ⟨small, read⟩
            exact ⟨by omega, (if_pos small).trans read⟩

/-- A text without a sign is read as a number exactly if it is a numeral. -/
theorem natural?_eq_some_iff {text : List Char} {number : Nat}
    (unsigned : text.head? ≠ some '+') :
    Reading.natural? text = some number ↔ IsNumeral text number := by
  have digits := naturalDigits_eq_ok_iff 0 number text
  have least : 0 < Reading.wordLimit := by decide
  rw [and_iff_right least] at digits
  have toOption : Reading.natural? text = some number ↔
      Reading.natural text = .ok number := by
    unfold Reading.natural?
    cases Reading.natural text <;> simp [Except.toOption]
  rw [toOption]
  constructor
  · intro read
    unfold Reading.natural at read
    split at read
    · cases read
    · cases read
    · exact absurd rfl unsigned
    · next nonempty _ _ =>
        obtain ⟨isDigit, value, fits⟩ := digits.1 read
        exact ⟨nonempty, isDigit, value, fits⟩
  · rintro ⟨nonempty, isDigit, value, fits⟩
    unfold Reading.natural
    split
    · exact absurd rfl nonempty
    · exact absurd rfl unsigned
    · exact absurd rfl unsigned
    · exact digits.2 ⟨isDigit, value, fits⟩

theorem IsNumeral.isKey {text : List Char} {number : Nat}
    (numeral : IsNumeral text number) : IsKey text :=
  ⟨numeral.nonempty, fun character member =>
    isNameChar_of_isDigit (numeral.isDigit character member)⟩

/-- No text of name characters has a sign of a number. -/
theorem IsKey.natural?_eq_some_iff {text : List Char} {number : Nat}
    (isKey : IsKey text) :
    Reading.natural? text = some number ↔ IsNumeral text number := by
  refine Template.natural?_eq_some_iff fun signed => ?_
  have named := isKey.isNameChar '+' (List.mem_of_mem_head? signed)
  exact absurd named (by decide)

/-! ### Text up to where a name ends -/

variable {text rest : List Char}

/-- What is written after a name does not go on with it. -/
def Apart (rest : List Char) : Prop :=
  ∀ character ∈ rest.head?, isNameChar character = false

theorem takeWhile_isNameChar
    (named : ∀ character ∈ text, isNameChar character = true)
    (apart : Apart rest) :
    (text ++ rest).takeWhile isNameChar = text ∧
      (text ++ rest).dropWhile isNameChar = rest := by
  rw [List.takeWhile_append_of_pos named, List.dropWhile_append_of_pos named]
  cases rest with
  | nil => simp
  | cons character others => simp [apart character rfl]

theorem trimLeft_append {blanks : List Char}
    (blank : ∀ character ∈ blanks, Text.isBlank character = true)
    (begins : ∀ character ∈ rest.head?, Text.isBlank character = false) :
    Text.trimLeft (blanks ++ rest) = rest := by
  rw [Text.trimLeft, List.dropWhile_append_of_pos blank,
    Text.dropWhile_isBlank begins]

theorem exists_blanks (text : List Char) :
    ∃ blanks : List Char,
      (∀ character ∈ blanks, Text.isBlank character = true) ∧
        blanks ++ Text.trimLeft text = text :=
  ⟨text.takeWhile Text.isBlank, fun _ => List.mem_takeWhile_imp,
    List.takeWhile_append_dropWhile⟩

theorem isKey_takeWhile (nonempty : text.takeWhile isNameChar ≠ []) :
    IsKey (text.takeWhile isNameChar) :=
  ⟨nonempty, fun _ member => List.mem_takeWhile_imp member⟩

end Runbook.Template
