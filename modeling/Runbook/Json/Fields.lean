import Runbook.Json.Value
import Runbook.OrderedMap

/-!
# Members of JSON objects

Reading the members of an object that is known to have a certain form.  A
member that is null counts as missing, and what is missing has a default.
-/

namespace Runbook.Json

def field? (name : String) (object : Json) : Option Json :=
  match object.get? name with
  | some .null => none
  | found => found

def textAt? (name : String) (object : Json) : Option String :=
  (object.field? name).bind string?

/-- A member that is a text; the empty one by default. -/
def textAt (name : String) (object : Json) : String :=
  (object.textAt? name).getD ""

/-- The items of a member that is an array; none by default. -/
def itemsAt (name : String) (object : Json) : List Json :=
  ((object.field? name).bind array?).getD []

def textsAt (name : String) (object : Json) : List String :=
  (object.itemsAt name).filterMap string?

/-- A number without a fraction; a negative one counts as zero. -/
def natural? : Json → Option Nat
  | .number (.integer value) => some value.toNat
  | .number (.float value) => value.toInt?.map Int.toNat
  | _ => none

def naturalAt? (name : String) (object : Json) : Option Nat :=
  (object.field? name).bind natural?

/-- A member that is a truth value; false by default. -/
def flagAt (name : String) (object : Json) : Bool :=
  ((object.field? name).bind bool?).getD false

/-- The members of a member that is an object; none by default. -/
def membersAt (name : String) (object : Json) : List (String × Json) :=
  match object.field? name with
  | some (.object members) => members
  | _ => []

def pair (array : Json) : String × String :=
  (((array.item? 0).bind string?).getD "",
    ((array.item? 1).bind string?).getD "")

/-- The pairs of texts in a member, as a map. -/
def pairsAt (name : String) (object : Json) : OrderedMap String :=
  OrderedMap.ofList ((object.itemsAt name).map pair)

/-- The members of a member that are texts, as a map. -/
def textMembersAt (name : String) (object : Json) : OrderedMap String :=
  OrderedMap.ofList ((object.membersAt name).filterMap fun member =>
    member.2.string?.map fun text => (member.1, text))

def ofPairs (pairs : List (String × String)) : Json :=
  .array (pairs.map fun pair => .array [.string pair.1, .string pair.2])

mutual

/-- Change every text in a value, except the names of members. -/
def mapTexts (change : String → String) : Json → Json
  | .string text => .string (change text)
  | .array items => .array (mapItems change items)
  | .object members => .object (mapMembers change members)
  | other => other

def mapItems (change : String → String) : List Json → List Json
  | [] => []
  | item :: rest => mapTexts change item :: mapItems change rest

def mapMembers (change : String → String) :
    List (String × Json) → List (String × Json)
  | [] => []
  | (name, value) :: rest =>
    (name, mapTexts change value) :: mapMembers change rest

end

end Runbook.Json
