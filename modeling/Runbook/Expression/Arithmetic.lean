import Runbook.Number.Decimal
import Runbook.Number.Reading

/-!
# Arithmetic

An arithmetic text is a chain of numbers with an operator between each two of
them.  It is evaluated from left to right, without precedence.  A text that is
no such chain, or that divides by zero, is not arithmetic.
-/

namespace Runbook.Arithmetic

/-- An arithmetic operation. -/
inductive Operator
  | plus
  | minus
  | times
  | over
  | modulo
deriving DecidableEq

def Operator.ofChar? : Char → Option Operator
  | '+' => some .plus
  | '-' => some .minus
  | '*' => some .times
  | '/' => some .over
  | '%' => some .modulo
  | _ => none

/-- Apply an operation; nothing can be divided by zero. -/
def Operator.combine? (operator : Operator) (left right : Binary64) :
    Option Binary64 :=
  match operator with
  | .plus => some (left.add right)
  | .minus => some (left.sub right)
  | .times => some (left.mul right)
  | .over => if right.isZero then none else some (left.div right)
  | .modulo => if right.isZero then none else some (left.rem right)

/-- The digits of a number with at most one point among them: those before
the point, those after it, and the rest of the text. -/
def numeral (text : List Char) : List Char × List Char × List Char :=
  let (whole, after) := Reading.digitRun text
  match after with
  | '.' :: rest =>
    let (fraction, after) := Reading.digitRun rest
    (whole, fraction, after)
  | rest => (whole, [], rest)

/-- Read the number at the start of a text, after blanks: an optional sign,
directly followed by digits with at most one point. -/
def readOperand? (text : List Char) : Option (Binary64 × List Char) :=
  let (negative, unsigned) := Reading.sign (Text.trimLeft text)
  let (whole, fraction, after) := numeral unsigned
  if whole.isEmpty && fraction.isEmpty then none
  else
    some (Binary64.ofDecimal negative
      (Reading.digitsValue 0 (whole ++ fraction)) (-(fraction.length : Int)),
      after)

theorem length_sign_le (text : List Char) :
    (Reading.sign text).2.length ≤ text.length := by
  unfold Reading.sign
  split <;> simp

theorem length_digitRun_le (text : List Char) :
    (Reading.digitRun text).2.length ≤ text.length :=
  (List.dropWhile_sublist Char.isDigit).length_le

theorem length_numeral_le (text : List Char) :
    (numeral text).2.2.length ≤ text.length := by
  have first := length_digitRun_le text
  simp only [numeral]
  split
  · rename_i rest same
    have second := length_digitRun_le rest
    rw [same, List.length_cons] at first
    exact Nat.le_trans second (Nat.le_trans (Nat.le_succ _) first)
  · exact first

theorem length_readOperand?_le {text after : List Char} {number : Binary64}
    (found : readOperand? text = some (number, after)) :
    after.length ≤ text.length := by
  simp only [readOperand?] at found
  split at found
  · cases found
  · simp only [Option.some.injEq, Prod.mk.injEq] at found
    rw [← found.2]
    exact Nat.le_trans (length_numeral_le _)
      (Nat.le_trans (length_sign_le _) (Text.length_trimLeft_le _))

/-- Read operators with their right operands up to the end of the text. -/
def readSteps? (text : List Char) : Option (List (Operator × Binary64)) :=
  match _start : Text.trimLeft text with
  | [] => some []
  | symbol :: rest =>
    match Operator.ofChar? symbol with
    | none => none
    | some operator =>
      match _found : readOperand? rest with
      | none => none
      | some (number, after) =>
        (readSteps? after).map ((operator, number) :: ·)
termination_by text.length
decreasing_by
  have shorter := length_readOperand?_le _found
  have same := congrArg List.length _start
  have trimmed := Text.length_trimLeft_le text
  rw [List.length_cons] at same
  omega

/-- A number, and operators with their right operands. -/
structure Chain where
  first : Binary64
  steps : List (Operator × Binary64)

def Chain.read? (text : List Char) : Option Chain := do
  let (first, after) ← readOperand? text
  let steps ← readSteps? after
  if steps.isEmpty then none else return ⟨first, steps⟩

def Chain.value? (chain : Chain) : Option Binary64 :=
  chain.steps.foldlM (fun value step => step.1.combine? value step.2)
    chain.first

def evaluate? (text : String) : Option Binary64 :=
  (Chain.read? text.toList).bind Chain.value?

/-- The integer that an integral number below `10 ^ 15` is written as. -/
def smallInt? (value : Binary64) : Option Int :=
  value.toInt?.filter fun integer => decide (integer.natAbs < Nat.pow 10 15)

/-- The text of a result: an integral number below `10 ^ 15` is written as an
integer, and any other finite one with the fewest digits. -/
def resultText? (value : Binary64) : Option String :=
  if value.isFinite then
    match smallInt? value with
    | some integer => some (Decimal.intText integer)
    | none => some (value.render Binary64.plainNotation)
  else none

/-- The value of an assigned text: the result if it is arithmetic with a finite
result, and the text itself otherwise. -/
def assigned (text : String) : String :=
  ((evaluate? text).bind resultText?).getD text

end Runbook.Arithmetic
