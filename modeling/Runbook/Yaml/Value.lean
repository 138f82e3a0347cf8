import Runbook.Number.Decimal
import Runbook.Number.Reading
import Runbook.Json.Value

/-!
# YAML values

A plain scalar is null, a truth value, a number or a text by its spelling.  A
value with a tag of its own keeps the tag.  Integers have at most 64 bits.
-/

namespace Runbook

/-- A YAML value. -/
inductive Yaml
  | null
  | bool (value : Bool)
  | integer (value : Int)
  | float (value : Binary64)
  | string (text : String)
  | sequence (items : List Yaml)
  | mapping (entries : List (Yaml × Yaml))
  | tagged (tag : String) (value : Yaml)
deriving Inhabited

namespace Yaml

def untagged : Yaml → Yaml
  | .tagged _ value => untagged value
  | value => value

/-- Whether two numbers are one key: equal, or both not numbers. -/
def sameFloat (left right : Binary64) : Bool :=
  (left == .nan && right == .nan) || left.compare? right == some .eq

mutual

/-- Whether two values are one key.  The order of a mapping does not count. -/
def same : Yaml → Yaml → Bool
  | .null, .null => true
  | .bool left, .bool right => left == right
  | .integer left, .integer right => left == right
  | .float left, .float right => sameFloat left right
  | .string left, .string right => left == right
  | .sequence left, .sequence right => sameItems left right
  | .mapping left, .mapping right =>
    left.length == right.length && entriesWithin left right
  | .tagged leftTag left, .tagged rightTag right =>
    leftTag == rightTag && same left right
  | _, _ => false

def sameItems : List Yaml → List Yaml → Bool
  | [], [] => true
  | left :: lefts, right :: rights => same left right && sameItems lefts rights
  | _, _ => false

def entriesWithin : List (Yaml × Yaml) → List (Yaml × Yaml) → Bool
  | [], _ => true
  | (key, value) :: rest, others =>
    (others.any fun other => same key other.1 && same value other.2) &&
      entriesWithin rest others

end

/-- The value of the first entry with a text as its key. -/
def entry? (name : String) : List (Yaml × Yaml) → Option Yaml
  | [] => none
  | (.string other, value) :: rest =>
    if other = name then some value else entry? name rest
  | _ :: rest => entry? name rest

/-- Whether a number is written with a leading zero, which makes it a text. -/
def hasLeadingZero (text : List Char) : Bool :=
  let digits :=
    match text with
    | '-' :: rest | '+' :: rest => rest
    | rest => rest
  match digits with
  | '0' :: next :: rest => (next :: rest).all Char.isDigit
  | _ => false

/-- The value of a digit in a base of at most 16. -/
def digitIn? (base : Nat) (character : Char) : Option Nat :=
  let code := character.toNat
  let value :=
    if 48 ≤ code ∧ code ≤ 57 then code - 48
    else if 97 ≤ code ∧ code ≤ 102 then code - 87
    else if 65 ≤ code ∧ code ≤ 70 then code - 55
    else base
  if value < base then some value else none

def digitsIn? (base : Nat) (digits : List Char) : Option Nat :=
  if digits.isEmpty then none
  else
    digits.foldlM
      (fun value digit => (base * value + ·) <$> digitIn? base digit) 0

/-- The magnitude of an unsigned integer: with a mark of its base, or decimal
without leading zeros. -/
def magnitude? (text : List Char) : Option Nat :=
  match text with
  | '0' :: 'x' :: digits => digitsIn? 16 digits
  | '0' :: 'o' :: digits => digitsIn? 8 digits
  | '0' :: 'b' :: digits => digitsIn? 2 digits
  | digits => if hasLeadingZero digits then none else digitsIn? 10 digits

/-- What a plain scalar says as an integer. -/
inductive IntegerReading
  | value (value : Int)
  /-- An integer of more than 64 bits. -/
  | tooWide
  /-- Not an integer, or one of more than 128 bits. -/
  | other

def readInteger (text : List Char) : IntegerReading :=
  match text with
  | '-' :: digits =>
    match magnitude? digits with
    | none => .other
    | some magnitude =>
      if magnitude ≤ Nat.pow 2 63 then .value (-(magnitude : Int))
      else if magnitude ≤ Nat.pow 2 127 then .tooWide
      else .other
  | _ =>
    let digits :=
      match text with
      | '+' :: digits => digits
      | digits => digits
    match magnitude? digits with
    | none => .other
    | some magnitude =>
      if magnitude < Nat.pow 2 64 then .value magnitude
      else if magnitude < Nat.pow 2 128 then .tooWide
      else .other

/-- Read a plain scalar as a number that is no integer. -/
def readFloat? (text : List Char) : Option Binary64 :=
  let (negative, unsigned) := Reading.sign text
  if [".inf", ".Inf", ".INF"].contains (String.ofList unsigned) then
    some (.infinite negative)
  else if [".nan", ".NaN", ".NAN"].contains (String.ofList text) then some .nan
  else (Reading.decimal? text).filter Binary64.isFinite

def readBool? (text : String) : Option Bool :=
  if ["true", "True", "TRUE"].contains text then some true
  else if ["false", "False", "FALSE"].contains text then some false
  else none

/-- Whether a spelling is null; the empty one is looked at apart. -/
def isNullWord (text : String) : Bool :=
  ["null", "Null", "NULL", "~"].contains text

/-- The value of a plain scalar; none if it is an integer that is too wide. -/
def ofPlain? (text : String) : Option Yaml :=
  if text.isEmpty || isNullWord text then some .null
  else
    match readBool? text with
    | some value => some (.bool value)
    | none =>
      match readInteger text.toList with
      | .value value => some (.integer value)
      | .tooWide => none
      | .other =>
        if hasLeadingZero text.toList then some (.string text)
        else
          match readFloat? text.toList with
          | some value => some (.float value)
          | none => some (.string text)

def standardTag (name : String) : String := "tag:yaml.org,2002:" ++ name

/-- The value of a scalar with a standard tag, or with any tag that is not
local.  A tag that demands a type refuses other spellings. -/
def ofTagged? (tag text : String) : Option Yaml :=
  if tag = standardTag "bool" then (readBool? text).map .bool
  else if tag = standardTag "int" then
    match readInteger text.toList with
    | .value value => some (.integer value)
    | _ => none
  else if tag = standardTag "float" then
    (readFloat? text.toList).map .float
  else if tag = standardTag "null" then
    if isNullWord text then some .null else none
  else some (.string text)

/-- Numbers among YAML values: an integral one keeps a fraction of one zero,
and an exponent has no plus sign. -/
def numberNotation : Decimal.Notation where
  plainExponents := fun exponent => -5 ≤ exponent && exponent ≤ 15
  keepsFraction := true
  plusSign := false
  nan := ".nan"
  infinity := ".inf"

/-- The name of a member for a key; collections, null and what is not finite
have none. -/
def memberName? : Yaml → Option String
  | .string text => some text
  | .bool value => some (if value then "true" else "false")
  | .integer value => some (Decimal.intText value)
  | .float value =>
    if value.isFinite then some (value.render Json.numberNotation) else none
  | _ => none

mutual

/-- The JSON value with the same structure, in the same order.  A tag becomes
an object around its value; none if a key has no name in JSON. -/
def toJson? : Yaml → Option Json
  | .null => some .null
  | .bool value => some (.bool value)
  | .integer value => some (.number (.integer value))
  | .float value => some (.number (.float value))
  | .string text => some (.string text)
  | .sequence items => (itemsToJson? items).map .array
  | .mapping entries => (entriesToJson? entries).map .object
  | .tagged tag value =>
    (toJson? value).map fun value => .object [("!" ++ tag, value)]

def itemsToJson? : List Yaml → Option (List Json)
  | [] => some []
  | item :: rest => do
    let value ← toJson? item
    let values ← itemsToJson? rest
    return value :: values

/-- The members of an object for the entries of a mapping. -/
def entriesToJson? : List (Yaml × Yaml) → Option (List (String × Json))
  | [] => some []
  | (key, value) :: rest => do
    let name ← memberName? key
    let value ← toJson? value
    let members ← entriesToJson? rest
    return (name, value) :: members

end

/-- The text of a value as a node's property: none for null, the spelling of a
scalar, and compact JSON for a structure.  A structure without JSON text has
the empty text. -/
def propertyText : Yaml → Option String
  | .null => none
  | .bool value => some (if value then "true" else "false")
  | .integer value => some (Decimal.intText value)
  | .float value => some (value.render numberNotation)
  | .string text => some text
  | .tagged _ value => propertyText value
  | .sequence items =>
    some ((toJson? (.sequence items)).elim "" Json.render)
  | .mapping entries =>
    some ((toJson? (.mapping entries)).elim "" Json.render)

end Yaml

end Runbook
