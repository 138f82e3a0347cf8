import Runbook.Text.Blank

/-!
# Searching and cutting text

Finding a character or a piece of text in a longer one, and cutting a text at
separators or into lines.
-/

namespace Runbook.Text

/-- What follows `start` at the beginning of a text, if it begins with it. -/
def afterStart? : (start text : List Char) → Option (List Char)
  | [], text => some text
  | _ :: _, [] => none
  | expected :: start, character :: text =>
    if expected = character then afterStart? start text else none

def occursIn (piece : List Char) : List Char → Bool
  | [] => piece.isEmpty
  | character :: text =>
    piece.isPrefixOf (character :: text) || occursIn piece text

def contains (text piece : String) : Bool :=
  occursIn piece.toList text.toList

def startsWith (text start : String) : Bool :=
  start.toList.isPrefixOf text.toList

/-- The pieces between the occurrences of a separator; there is one piece more
than there are separators. -/
def pieces (separator : Char) : List Char → List (List Char)
  | [] => [[]]
  | character :: text =>
    if character = separator then [] :: pieces separator text
    else
      match pieces separator text with
      | [] => [[character]]
      | piece :: rest => (character :: piece) :: rest

def splitAt (separator : Char) (text : String) : List String :=
  (pieces separator text.toList).map String.ofList

/-- The parts before and after the first occurrence of a separator. -/
def cutFirst? (separator : Char) : List Char → Option (List Char × List Char)
  | [] => none
  | character :: text =>
    if character = separator then some ([], text)
    else (cutFirst? separator text).map fun (before, after) =>
      (character :: before, after)

/-- The parts before and after the last occurrence of a separator. -/
def cutLast? (separator : Char) (text : List Char) :
    Option (List Char × List Char) :=
  (cutFirst? separator text.reverse).map fun (after, before) =>
    (before.reverse, after.reverse)

/-- What follows the last occurrence of a separator, or the whole text. -/
def afterLast (separator : Char) (text : String) : String :=
  match cutLast? separator text.toList with
  | some (_, after) => String.ofList after
  | none => text

/-- What precedes the last occurrence of a separator, if there is one. -/
def beforeLast? (separator : Char) (text : String) : Option String :=
  (cutLast? separator text.toList).map fun (before, _) => String.ofList before

/-- A line without the carriage return that may end it. -/
def dropReturn (line : List Char) : List Char :=
  match line.reverse with
  | '\r' :: rest => rest.reverse
  | _ => line

/-- The lines of a text.  A line ends at a line feed, a carriage return before
it is not part of the line, and a final line feed opens no further line. -/
def lineList (text : List Char) : List (List Char) :=
  let all := pieces '\n' text
  match all.getLast? with
  | some [] => all.dropLast.map dropReturn
  | some last => all.dropLast.map dropReturn ++ [last]
  | none => []

def lines (text : String) : List String :=
  (lineList text.toList).map String.ofList

/-- A comma separated list, its items trimmed and the blank ones dropped. -/
def commaList (text : String) : List String :=
  (splitAt ',' text).filterMap nonBlank?

end Runbook.Text
