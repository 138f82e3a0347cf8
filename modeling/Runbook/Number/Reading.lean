import Runbook.Number.Binary64
import Runbook.Text.Blank

/-!
# Reading numbers

Decimal numbers are read to the nearest binary64 number: an optional sign,
digits with at most one point among them, and an optional exponent; or one of
the words `inf`, `infinity` and `nan` in any case.  Natural numbers have an
optional plus sign and have to stay below a limit.
-/

namespace Runbook.Reading

def digit? (character : Char) : Option Nat :=
  if '0' ≤ character ∧ character ≤ '9' then
    some (character.toNat - '0'.toNat)
  else none

/-- The number written by a list of digits, after `value`. -/
def digitsValue (value : Nat) (digits : List Char) : Nat :=
  digits.foldl (fun value digit => 10 * value + (digit.toNat - '0'.toNat))
    value

/-- Why a text is not a natural number. -/
inductive NaturalError
  | empty
  | invalidDigit
  | tooLarge
deriving DecidableEq

/-- What is wrong with a text that should be a natural number. -/
def NaturalError.message : NaturalError → String
  | .empty => "cannot parse integer from empty string"
  | .invalidDigit => "invalid digit found in string"
  | .tooLarge => "number too large to fit in target type"

/-- The first natural number that a machine word cannot hold. -/
def wordLimit : Nat := Nat.pow 2 64

/-- Add digits to a value; the first fault from the left decides. -/
def naturalDigits (value : Nat) : List Char → Except NaturalError Nat
  | [] => .ok value
  | character :: rest =>
    match digit? character with
    | none => .error .invalidDigit
    | some digit =>
      let next := 10 * value + digit
      if next < wordLimit then naturalDigits next rest else .error .tooLarge

def natural : List Char → Except NaturalError Nat
  | [] => .error .empty
  | ['+'] => .error .invalidDigit
  | '+' :: digits => naturalDigits 0 digits
  | digits => naturalDigits 0 digits

/-- Read a natural number that fits a machine word, if the text is one. -/
def natural? (text : List Char) : Option Nat :=
  (natural text).toOption

/-- A sign at the start of a text, and the rest. -/
def sign : List Char → Bool × List Char
  | '-' :: rest => (true, rest)
  | '+' :: rest => (false, rest)
  | text => (false, text)

/-- The digits at the start of a text, and the rest. -/
def digitRun (text : List Char) : List Char × List Char :=
  (text.takeWhile Char.isDigit, text.dropWhile Char.isDigit)

/-- The exponent that ends a number: nothing, or the letter `e`, an optional
sign and digits. -/
def exponent? : List Char → Option Int
  | [] => some 0
  | letter :: rest =>
    if letter = 'e' ∨ letter = 'E' then
      let (negative, digits) := sign rest
      if digits.isEmpty || !digits.all Char.isDigit then none
      else some (Binary64.signed negative (digitsValue 0 digits))
    else none

def unsignedDecimal? (negative : Bool) (text : List Char) : Option Binary64 :=
  let (whole, afterWhole) := digitRun text
  let (fraction, afterFraction) :=
    match afterWhole with
    | '.' :: rest => digitRun rest
    | rest => ([], rest)
  if whole.isEmpty && fraction.isEmpty then none
  else
    (exponent? afterFraction).map fun exponent =>
      Binary64.ofDecimal negative (digitsValue 0 (whole ++ fraction))
        (exponent - fraction.length)

def decimal? (text : List Char) : Option Binary64 :=
  let (negative, unsigned) := sign text
  let word := unsigned.map Char.toLower
  if word = "inf".toList ∨ word = "infinity".toList then
    some (.infinite negative)
  else if word = "nan".toList then some .nan
  else unsignedDecimal? negative unsigned

/-- What is wrong with a text that should be a decimal number. -/
def decimalMessage (text : List Char) : String :=
  if text.isEmpty then "cannot parse float from empty string"
  else "invalid float literal"

end Runbook.Reading
