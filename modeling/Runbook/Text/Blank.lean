/-!
# Blank characters and trimming

Blank characters are the twenty-five characters with the Unicode property
`White_Space`.  Trimming removes them at one or both ends of a text.  The
functions work on lists of characters; the versions on `String` at the end are
what the rest of the library calls.
-/

namespace Runbook.Text

def isBlank (character : Char) : Bool :=
  let code := character.toNat
  (9 ≤ code && code ≤ 13) || code == 0x20 || code == 0x85 || code == 0xA0 ||
    code == 0x1680 || (0x2000 ≤ code && code ≤ 0x200A) || code == 0x2028 ||
    code == 0x2029 || code == 0x202F || code == 0x205F || code == 0x3000

def trimLeft (text : List Char) : List Char :=
  text.dropWhile isBlank

theorem length_trimLeft_le (text : List Char) :
    (trimLeft text).length ≤ text.length :=
  (List.dropWhile_sublist isBlank).length_le

def trimRight (text : List Char) : List Char :=
  (text.reverse.dropWhile isBlank).reverse

def trimBoth (text : List Char) : List Char :=
  trimRight (trimLeft text)

/-- Drop the blank characters at both ends of a string. -/
def trim (text : String) : String :=
  String.ofList (trimBoth text.toList)

def isBlankText (text : String) : Bool :=
  text.toList.all isBlank

/-- The trimmed text, or nothing when only blanks are left of it. -/
def nonBlank? (text : String) : Option String :=
  if isBlankText text then none else some (trim text)

end Runbook.Text
