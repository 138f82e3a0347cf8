import Runbook.Number.Reading
import Runbook.Text.Search

/-!
# Conditions

A condition is two operands with a comparison between them.  It is split at
the first place where a comparison symbol stands, and the longest symbol there
is taken.  Two operands that are both numbers are compared as numbers, and all
others as texts.
-/

namespace Runbook.Condition

/-- A comparison. -/
inductive Operator
  | equal
  | notEqual
  | lessOrEqual
  | greaterOrEqual
  | contains
  | less
  | greater
deriving DecidableEq

def Operator.all : List Operator :=
  [.equal, .notEqual, .lessOrEqual, .greaterOrEqual, .contains, .less,
    .greater]

def Operator.symbol : Operator → List Char
  | .equal => ['=', '=']
  | .notEqual => ['!', '=']
  | .lessOrEqual => ['<', '=']
  | .greaterOrEqual => ['>', '=']
  | .contains => ['c', 'o', 'n', 't', 'a', 'i', 'n', 's']
  | .less => ['<']
  | .greater => ['>']

/-- The comparison whose symbol stands at the start of a text. -/
def Operator.startOf? (text : List Char) : Option Operator :=
  Operator.all.find? fun operator => operator.symbol.isPrefixOf text

/-- The first comparison of a text, with what precedes and what follows its
symbol. -/
def cut? : List Char → Option (List Char × Operator × List Char)
  | [] => none
  | character :: text =>
    match Operator.startOf? (character :: text) with
    | some operator =>
      some ([], operator, (character :: text).drop operator.symbol.length)
    | none =>
      (cut? text).map fun (before, operator, after) =>
        (character :: before, operator, after)

/-- Whether a text of at least two characters begins and ends with a
character. -/
def isEnclosed (quote : Char) (text : List Char) : Bool :=
  2 ≤ text.length && text.head? == some quote && text.getLast? == some quote

/-- A text without the pair of double or single quotes around it. -/
def unquote (text : List Char) : List Char :=
  if isEnclosed '"' text || isEnclosed '\'' text then text.tail.dropLast
  else text

/-- An operand: blanks around it do not count, nor does a pair of quotes. -/
def operand (text : List Char) : String :=
  String.ofList (unquote (Text.trimBoth text))

end Condition

/-- A condition. -/
structure Condition where
  left : String
  operator : Condition.Operator
  right : String
deriving DecidableEq

namespace Condition

def split? (text : String) : Option Condition :=
  (cut? text.toList).map fun (before, operator, after) =>
    ⟨operand before, operator, operand after⟩

def number? (text : String) : Option Binary64 :=
  (Reading.decimal? (Text.trimBoth text.toList)).filter Binary64.isFinite

/-- The order of two operands: of their numbers if both are numbers, and of
their characters otherwise. -/
def order (left right : String) : Option Ordering :=
  match number? left, number? right with
  | some leftNumber, some rightNumber => leftNumber.compare? rightNumber
  | _, _ => some (compare left right)

def Operator.accepts : Operator → Ordering → Bool
  | .equal, found => found == .eq
  | .notEqual, found => found != .eq
  | .lessOrEqual, found => found != .gt
  | .greaterOrEqual, found => found != .lt
  | .less, found => found == .lt
  | .greater, found => found == .gt
  | .contains, _ => false

def holds (condition : Condition) : Bool :=
  match condition.operator with
  | .contains => Text.contains condition.left condition.right
  | operator =>
    match order condition.left condition.right with
    | some found => operator.accepts found
    | none => false

def evaluate (text : String) : Bool :=
  match split? text with
  | some condition => condition.holds
  | none => false

end Condition

end Runbook
