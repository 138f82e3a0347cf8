import Runbook.Json.Token

/-!
# JSON as written

The tree of a JSON text before its numbers and strings are given values: all
members in the order of the text, repeated names included.  It is built from
the lexemes one at a time, with a stack of the arrays and objects that are
still open.
-/

namespace Runbook.Json

/-- A JSON text as a tree. -/
inductive Source
  | null
  | bool (value : Bool)
  | number (text : NumberText)
  | string (content : List Piece)
  | array (items : List Source)
  | object (members : List (List Piece × Source))
deriving Inhabited

namespace Source

/-- An array or object that is still open, with what has been read of it, last
part first. -/
inductive Frame
  | arrayOpened
  | arrayItem (items : List Source)
  | arrayComma (items : List Source)
  | objectOpened
  /-- After the name of a member. -/
  | objectName (members : List (List Piece × Source)) (name : List Piece)
  /-- After the colon of a member. -/
  | objectColon (members : List (List Piece × Source)) (name : List Piece)
  /-- After the value of a member. -/
  | objectMember (members : List (List Piece × Source))
  | objectComma (members : List (List Piece × Source))

/-- How far a text has been read. -/
inductive Progress
  /-- Nothing but open arrays and objects, innermost first. -/
  | inside (stack : List Frame)
  | whole (value : Source)

/-- Put a value where the innermost open array or object expects one. -/
def deliver (value : Source) : List Frame → Option Progress
  | [] => some (.whole value)
  | .arrayOpened :: outer => some (.inside (.arrayItem [value] :: outer))
  | .arrayComma items :: outer =>
    some (.inside (.arrayItem (value :: items) :: outer))
  | .objectColon members name :: outer =>
    some (.inside (.objectMember ((name, value) :: members) :: outer))
  | _ => none

def expectsValue : List Frame → Bool
  | [] => true
  | .arrayOpened :: _ => true
  | .arrayComma _ :: _ => true
  | .objectColon _ _ :: _ => true
  | _ => false

def stepInside (stack : List Frame) : Token → Option Progress
  | .null => deliver .null stack
  | .bool value => deliver (.bool value) stack
  | .number text => deliver (.number text) stack
  | .string content =>
    match stack with
    | .objectOpened :: outer =>
      some (.inside (.objectName [] content :: outer))
    | .objectComma members :: outer =>
      some (.inside (.objectName members content :: outer))
    | _ => deliver (.string content) stack
  | .openBracket =>
    if expectsValue stack then some (.inside (.arrayOpened :: stack))
    else none
  | .openBrace =>
    if expectsValue stack then some (.inside (.objectOpened :: stack))
    else none
  | .closeBracket =>
    match stack with
    | .arrayOpened :: outer => deliver (.array []) outer
    | .arrayItem items :: outer => deliver (.array items.reverse) outer
    | _ => none
  | .closeBrace =>
    match stack with
    | .objectOpened :: outer => deliver (.object []) outer
    | .objectMember members :: outer =>
      deliver (.object members.reverse) outer
    | _ => none
  | .comma =>
    match stack with
    | .arrayItem items :: outer => some (.inside (.arrayComma items :: outer))
    | .objectMember members :: outer =>
      some (.inside (.objectComma members :: outer))
    | _ => none
  | .colon =>
    match stack with
    | .objectName members name :: outer =>
      some (.inside (.objectColon members name :: outer))
    | _ => none

/-- Read a lexeme; nothing may follow a whole value. -/
def step (progress : Progress) (token : Token) : Option Progress :=
  match progress with
  | .inside stack => stepInside stack token
  | .whole _ => none

def ofTokens? (tokens : List Token) : Option Source :=
  match tokens.foldlM step (.inside []) with
  | some (.whole value) => some value
  | _ => none

def read? (text : String) : Option Source :=
  (Token.scan? text.toList).bind ofTokens?

end Source

end Runbook.Json
