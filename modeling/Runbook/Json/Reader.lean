import Runbook.Json.Source

/-!
# Reading JSON values

Numbers are read from at most nineteen or twenty digits and a power of ten;
what is beyond the largest finite number is no number.  Arrays and objects may
be nested 127 deep.
-/

namespace Runbook.Json

def Number.limit : Nat := Nat.pow 2 64

/-- Take digits into a significand as long as it fits 64 bits; the rest of the
digits is returned. -/
def Number.takeDigits (significand : Nat) : List Char → Nat × List Char
  | [] => (significand, [])
  | digit :: rest =>
    let next := 10 * significand + (digit.toNat - '0'.toNat)
    if next < limit then takeDigits next rest else (significand, digit :: rest)

def Number.powerOfTen (exponent : Nat) : Binary64 :=
  Binary64.ofDecimal false 1 exponent

/-- Multiply or divide by a power of ten, at most 308 powers at a time; none if
the result is too large. -/
def Number.scale : Nat → Binary64 → Int → Option Binary64
  | 0, value, _ => some value
  | fuel + 1, value, exponent =>
    if exponent.natAbs ≤ 308 then
      if 0 ≤ exponent then
        let product := value.mul (powerOfTen exponent.natAbs)
        if product.isFinite then some product else none
      else some (value.div (powerOfTen exponent.natAbs))
    else if value.isZero then some value
    else if 0 ≤ exponent then none
    else scale fuel (value.div (powerOfTen 308)) (exponent + 308)

/-- The finite number of a significand and a power of ten. -/
def Number.ofParts? (negative : Bool) (significand : Nat) (exponent : Int) :
    Option Number :=
  (scale 4 (Binary64.ofNat significand) exponent).map fun value =>
    .float (if negative then value.neg else value)

def Number.ofText? (text : NumberText) : Option Number :=
  let (whole, dropped) := takeDigits 0 text.whole
  match text.fraction, text.exponent with
  | none, none =>
    if !dropped.isEmpty then ofParts? text.negative whole dropped.length
    else if !text.negative then some (.integer whole)
    else if whole = 0 ∨ Nat.pow 2 63 < whole then
      some (.float (Binary64.ofNat whole).neg)
    else some (.integer (-(whole : Int)))
  | fraction, exponent =>
    let digits := fraction.getD []
    let (significand, ignored) := takeDigits whole digits
    ofParts? text.negative significand
      (exponent.getD 0 + dropped.length - (digits.length - ignored.length))

def maxDepth : Nat := 127

mutual

/-- The value of a tree in which at most `depth` more levels may be open. -/
def ofSource? (depth : Nat) : Source → Option Json
  | .null => some .null
  | .bool value => some (.bool value)
  | .number text => (Number.ofText? text).map .number
  | .string content => (Piece.text? content).map .string
  | .array items =>
    match depth with
    | 0 => none
    | depth + 1 => (ofItems? depth items).map .array
  | .object members =>
    match depth with
    | 0 => none
    | depth + 1 => (ofMembers? depth members).map sortedObject

def ofItems? (depth : Nat) : List Source → Option (List Json)
  | [] => some []
  | item :: rest => do
    let value ← ofSource? depth item
    let values ← ofItems? depth rest
    return value :: values

/-- The members of an object, in the order of the text. -/
def ofMembers? (depth : Nat) :
    List (List Piece × Source) → Option (List (String × Json))
  | [] => some []
  | (name, item) :: rest => do
    let text ← Piece.text? name
    let value ← ofSource? depth item
    let values ← ofMembers? depth rest
    return (text, value) :: values

end

def read? (text : String) : Option Json :=
  (Source.read? text).bind (ofSource? maxDepth)

end Runbook.Json
