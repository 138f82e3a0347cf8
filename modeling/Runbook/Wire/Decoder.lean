import Runbook.Json.Reader
import Runbook.OrderedMap
import Runbook.Time.Instant

/-!
# Decoding records

A record is decoded from a JSON object, in which unknown fields do not count
and a known one may occur once, or from an array of its fields in order.  What
is not asked for is not looked at, so an unknown field may hold what is no JSON
value.
-/

namespace Runbook.Wire

open Json (Source)

/-- Reads a value from a JSON text in which so many more arrays and objects may
be nested. -/
abbrev Decoder (α : Type) := Nat → Source → Option α

def text : Decoder String
  | _, .string content => Json.Piece.text? content
  | _, _ => none

def bool : Decoder Bool
  | _, .bool value => some value
  | _, _ => none

def natural : Decoder Nat
  | _, .number text =>
    match Json.Number.ofText? text with
    | some (.integer value) => if 0 ≤ value then some value.toNat else none
    | _ => none
  | _, _ => none

def json : Decoder Json := Json.ofSource?

def instant : Decoder Instant := fun depth source =>
  (text depth source).bind Instant.read?

def option {α : Type} (decoder : Decoder α) : Decoder (Option α)
  | _, .null => some none
  | depth, source => (decoder depth source).map some

def list {α : Type} (decoder : Decoder α) : Decoder (List α)
  | depth + 1, .array items => items.mapM (decoder depth)
  | _, _ => none

def map {α : Type} (decoder : Decoder α) : Decoder (OrderedMap α)
  | depth + 1, .object members =>
    (members.mapM fun (content, source) => do
      let name ← Json.Piece.text? content
      let value ← decoder depth source
      return (name, value)).map OrderedMap.ofList
  | _, _ => none

/-- One of several values by its name.  An object whose only member has that
name and is null stands for it, too. -/
def choice {α : Type} (all : List α) (name : α → String) : Decoder α
  | depth, .object [(content, .null)] =>
    if depth = 0 then none
    else
      (Json.Piece.text? content).bind fun text =>
        all.find? fun value => name value == text
  | depth, source =>
    (text depth source).bind fun text =>
      all.find? fun value => name value == text

/-- The fields of a record, each with the source of its value. -/
structure Fields where
  depth : Nat
  sources : List (String × Source)

def areDistinct : List String → Bool
  | [] => true
  | name :: rest => !rest.contains name && areDistinct rest

def fields? (names : List String) : Decoder Fields
  | depth + 1, .object members => do
    let named ← members.mapM fun (content, source) =>
      (Json.Piece.text? content).map fun name => (name, source)
    let known := named.filter fun member => names.contains member.1
    if areDistinct (known.map Prod.fst) then return ⟨depth, known⟩ else none
  | depth + 1, .array items =>
    if items.length ≤ names.length then some ⟨depth, names.zip items⟩
    else none
  | _, _ => none

namespace Fields

def source? (fields : Fields) (name : String) : Option Source :=
  fields.sources.lookup name

def required {α : Type} (fields : Fields) (name : String)
    (decoder : Decoder α) : Option α :=
  (fields.source? name).bind (decoder fields.depth)

def defaulted {α : Type} (fields : Fields) (name : String) (fallback : α)
    (decoder : Decoder α) : Option α :=
  match fields.source? name with
  | none => some fallback
  | some source => decoder fields.depth source

def optional {α : Type} (fields : Fields) (name : String)
    (decoder : Decoder α) : Option (Option α) :=
  fields.defaulted name none (option decoder)

end Fields

def read? {α : Type} (decoder : Decoder α) (text : String) : Option α :=
  (Source.read? text).bind (decoder Json.maxDepth)

/-- A field of an object that is left out when there is no value. -/
def present {α : Type} (name : String) (encode : α → Json) :
    Option α → List (String × Json)
  | some value => [(name, encode value)]
  | none => []

def orNull : Option String → Json
  | some text => .string text
  | none => .null

def texts (values : List String) : Json :=
  .array (values.map .string)

end Runbook.Wire
