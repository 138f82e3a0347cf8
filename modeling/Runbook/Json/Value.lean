import Runbook.Number.Decimal

/-!
# JSON values and their text

A JSON object lists its members in the order in which they are written.
Objects that are read from text have their members sorted by name, each name
once; objects that are built keep the order of their construction.
-/

namespace Runbook

/-- A JSON number: an integer of at most 64 bits, or a finite number. -/
inductive Json.Number
  | integer (value : Int)
  | float (value : Binary64)
deriving DecidableEq, Inhabited

/-- A JSON value. -/
inductive Json
  | null
  | bool (value : Bool)
  | number (value : Json.Number)
  | string (text : String)
  | array (items : List Json)
  | object (members : List (String × Json))
deriving Inhabited

namespace Json

def ofInt (value : Int) : Json :=
  .number (.integer value)

def member? (name : String) : List (String × Json) → Option Json
  | [] => none
  | (other, value) :: rest =>
    if other = name then some value else member? name rest

def get? (name : String) : Json → Option Json
  | .object members => member? name members
  | _ => none

def string? : Json → Option String
  | .string text => some text
  | _ => none

def array? : Json → Option (List Json)
  | .array items => some items
  | _ => none

def bool? : Json → Option Bool
  | .bool value => some value
  | _ => none

def item? (index : Nat) : Json → Option Json
  | .array items => items[index]?
  | _ => none

/-- Put a member at its place in a sorted list; a present one with the same
name is replaced. -/
def insertSorted (name : String) (value : Json) :
    List (String × Json) → List (String × Json)
  | [] => [(name, value)]
  | (other, old) :: rest =>
    if name = other then (name, value) :: rest
    else if name < other then (name, value) :: (other, old) :: rest
    else (other, old) :: insertSorted name value rest

/-- The members sorted by name; of two with one name the later one stays. -/
def sortMembers (members : List (String × Json)) : List (String × Json) :=
  members.foldl (fun sorted pair => insertSorted pair.1 pair.2 sorted) []

def sortedObject (members : List (String × Json)) : Json :=
  .object (sortMembers members)

/-- Finite numbers in JSON text: an integral one keeps a fraction of one zero,
and an exponent, which has a sign, is written outside of `-5` to `15`. -/
def numberNotation : Decimal.Notation where
  plainExponents := fun exponent => -5 ≤ exponent && exponent ≤ 15
  keepsFraction := true
  plusSign := true
  nan := "null"
  infinity := "null"

/-- The text of a number; what is not finite has no number in JSON. -/
def Number.render : Number → String
  | .integer value => Decimal.intText value
  | .float value =>
    if value.isFinite then value.render numberNotation else "null"

/-- A digit of a code unit written in lower case. -/
def hexDigit (value : Nat) : Char :=
  Nat.digitChar value

def escapeChar (character : Char) : List Char :=
  match character with
  | '"' => ['\\', '"']
  | '\\' => ['\\', '\\']
  | '\n' => ['\\', 'n']
  | '\r' => ['\\', 'r']
  | '\t' => ['\\', 't']
  | '\x08' => ['\\', 'b']
  | '\x0c' => ['\\', 'f']
  | other =>
    if other.toNat < 32 then
      ['\\', 'u', '0', '0', hexDigit (other.toNat / 16),
        hexDigit (other.toNat % 16)]
    else [other]

/-- A text as it stands between the quotes of a JSON string. -/
def escape (text : List Char) : List Char :=
  text.flatMap escapeChar

/-- A text as it stands between the quotes of a JSON string. -/
def escapeText (text : String) : String :=
  String.ofList (escape text.toList)

def quote (text : String) : List Char :=
  '"' :: escape text.toList ++ ['"']

mutual

def renderChars : Json → List Char
  | .null => ['n', 'u', 'l', 'l']
  | .bool true => ['t', 'r', 'u', 'e']
  | .bool false => ['f', 'a', 'l', 's', 'e']
  | .number value => value.render.toList
  | .string text => quote text
  | .array items => '[' :: renderItems items ++ [']']
  | .object members => '{' :: renderMembers members ++ ['}']

def renderItems : List Json → List Char
  | [] => []
  | [item] => renderChars item
  | item :: rest => renderChars item ++ ',' :: renderItems rest

def renderMembers : List (String × Json) → List Char
  | [] => []
  | [(name, value)] => quote name ++ ':' :: renderChars value
  | (name, value) :: rest =>
    quote name ++ ':' :: renderChars value ++ ',' :: renderMembers rest

end

def render (value : Json) : String :=
  String.ofList (renderChars value)

def newLine (level : Nat) : List Char :=
  '\n' :: List.replicate (2 * level) ' '

mutual

/-- The text of a value with one item or member on a line. -/
def indentedChars (level : Nat) : Json → List Char
  | .array [] => ['[', ']']
  | .array items =>
    '[' :: indentedItems (level + 1) items ++ newLine level ++ [']']
  | .object [] => ['{', '}']
  | .object members =>
    '{' :: indentedMembers (level + 1) members ++ newLine level ++ ['}']
  | .null => ['n', 'u', 'l', 'l']
  | .bool true => ['t', 'r', 'u', 'e']
  | .bool false => ['f', 'a', 'l', 's', 'e']
  | .number value => value.render.toList
  | .string text => quote text

/-- The items of an array, each on a line of its own. -/
def indentedItems (level : Nat) : List Json → List Char
  | [] => []
  | [item] => newLine level ++ indentedChars level item
  | item :: rest =>
    newLine level ++ indentedChars level item ++ ',' ::
      indentedItems level rest

/-- The members of an object, each on a line of its own. -/
def indentedMembers (level : Nat) : List (String × Json) → List Char
  | [] => []
  | [(name, value)] =>
    newLine level ++ quote name ++ ':' :: ' ' :: indentedChars level value
  | (name, value) :: rest =>
    newLine level ++ quote name ++ ':' :: ' ' ::
      indentedChars level value ++ ',' :: indentedMembers level rest

end

/-- The text of a value with one item or member on a line. -/
def renderIndented (value : Json) : String :=
  String.ofList (indentedChars 0 value)

/-- The text that stands for a value in running text: a string is itself and
null is empty. -/
def plainText : Json → String
  | .null => ""
  | .string text => text
  | value => render value

/-- The text under which a value is stored: a string is itself. -/
def storedText : Json → String
  | .string text => text
  | value => render value

end Json

end Runbook
