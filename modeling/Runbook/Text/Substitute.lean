import Runbook.Text.Search

/-!
# Substitution

Putting a text in the place of the occurrences of another one, from left to
right, and cutting a text after the first of several markers.
-/

namespace Runbook.Text

/-- Put `new` in the place of each occurrence of `old`, after so many more
characters of the occurrence before. -/
def replaceFrom (old new : List Char) (skipped : Nat) :
    List Char → List Char
  | [] => []
  | character :: text =>
    match skipped with
    | skipped + 1 => replaceFrom old new skipped text
    | 0 =>
      if old.isPrefixOf (character :: text) then
        new ++ replaceFrom old new (old.length - 1) text
      else character :: replaceFrom old new 0 text

/-- Put the string `new` in the place of each occurrence of `old`. -/
def replace (old new text : String) : String :=
  String.ofList (replaceFrom old.toList new.toList 0 text.toList)

/-- The characters up to the end of the first occurrence of a marker, or all of
them. -/
def throughMarker (markers : List (List Char)) : List Char → List Char
  | [] => []
  | character :: text =>
    match markers.find? fun marker => marker.isPrefixOf (character :: text)
    with
    | some marker => marker
    | none => character :: throughMarker markers text

/-- The string up to the end of the first occurrence of a marker, or all of
it. -/
def throughFirst (markers : List String) (text : String) : String :=
  String.ofList (throughMarker (markers.map String.toList) text.toList)

end Runbook.Text
