import Runbook.Text.Blank
import Runbook.Text.Word
import Runbook.Variables

/-!
# References to variables

A reference names a variable and may walk into its JSON value: by member name
after a point, by position in brackets, or by the position that another
variable holds.  The ending `:json` asks for the text to be escaped for a place
inside a JSON string.
-/

namespace Runbook.Template

/-- A step into a JSON value. -/
inductive Segment
  /-- A member of an object, or an item of an array. -/
  | key (name : String)
  | index (position : Nat)
  /-- An item of an array at the position that a variable holds. -/
  | indexFrom (variableName : String)
deriving DecidableEq

/-- A reference to a variable or to a part of its value. -/
structure Reference where
  root : String
  path : List Segment
  jsonEscape : Bool
deriving DecidableEq

/-- A character that may begin the name of a variable. -/
def isNameStart (character : Char) : Bool :=
  character.isAlpha || character == '_'

def isNameChar (character : Char) : Bool :=
  Text.isWord character || character == '-'

/-- The segment written in brackets: a position if the name is one that fits a
machine word, and a variable otherwise. -/
def Segment.ofBracket (name : List Char) : Segment :=
  match Reading.natural? name with
  | some position => .index position
  | none => .indexFrom (String.ofList name)

/-- Read the segments of a path up to the end of the text, and whether it asks
for escaping. -/
def readPath? (text : List Char) : Option (List Segment × Bool) :=
  match text with
  | [] => some ([], false)
  | ':' :: rest =>
    if rest = ['j', 's', 'o', 'n'] then some ([], true) else none
  | '.' :: rest =>
    let name := rest.takeWhile isNameChar
    if name.isEmpty then none
    else
      (readPath? (rest.dropWhile isNameChar)).map fun (path, escape) =>
        (.key (String.ofList name) :: path, escape)
  | '[' :: rest =>
    let name := (Text.trimLeft rest).takeWhile isNameChar
    if name.isEmpty then none
    else
      match _found : Text.trimLeft
          ((Text.trimLeft rest).dropWhile isNameChar) with
      | ']' :: after =>
        (readPath? after).map fun (path, escape) =>
          (Segment.ofBracket name :: path, escape)
      | _ => none
  | _ => none
termination_by text.length
decreasing_by
  · have shorter := (List.dropWhile_sublist isNameChar (l := rest)).length_le
    simp only [List.length_cons]
    omega
  · have shorter : after.length + 1 ≤ rest.length := by
      have same := congrArg List.length _found
      rw [List.length_cons] at same
      rw [← same]
      exact Nat.le_trans (Text.length_trimLeft_le _)
        (Nat.le_trans (List.dropWhile_sublist _).length_le
          (Text.length_trimLeft_le _))
    simp only [List.length_cons]
    omega

def Reference.readTrimmed? : List Char → Option Reference
  | [] => none
  | first :: rest =>
    if isNameStart first then
      (readPath? (rest.dropWhile isNameChar)).map fun (path, escape) =>
        ⟨String.ofList (first :: rest.takeWhile isNameChar), path, escape⟩
    else none

/-- Read a reference; blanks around it do not count. -/
def Reference.read? (text : String) : Option Reference :=
  readTrimmed? (Text.trimBoth text.toList)

/-- The position that a text holds, blanks around it aside. -/
def position? (text : String) : Option Nat :=
  Reading.natural? (Text.trimBoth text.toList)

/-- The part of a value that a segment leads to. -/
def Segment.walk? (bindings : Variables) (value : Json) :
    Segment → Option Json
  | .key name =>
    match value with
    | .object members => Json.member? name members
    | .array items =>
      (Reading.natural? name.toList).bind fun position => items[position]?
    | _ => none
  | .index position => value.item? position
  | .indexFrom name => do
    let text ← bindings.get? name
    let position ← position? text
    value.item? position

/-- The text a reference stands for, if there is one.  A variable without a
path is taken as it is, JSON or not. -/
def Reference.lookup? (bindings : Variables) (reference : Reference) :
    Option String := do
  let text ← bindings.get? reference.root
  match reference.path with
  | [] => some text
  | path =>
    let root ← Json.read? text
    let value ← path.foldlM (Segment.walk? bindings) root
    return value.plainText

def lookup? (bindings : Variables) (text : String) : Option String :=
  (Reference.read? text).bind (Reference.lookup? bindings)

end Runbook.Template
