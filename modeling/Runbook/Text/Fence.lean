import Runbook.Text.Search

/-!
# Fenced text

A text that is a Markdown code block as a whole stands for the inside of the
block: three backticks, a tag, the body and three backticks, with blanks around
each of them.
-/

namespace Runbook.Text

def fence : List Char := ['\x60', '\x60', '\x60']

def isTagChar (character : Char) : Bool :=
  character.isAlphanum || character == '_' || character == '-'

/-- The inside of a block whose opening marker has been read, without blanks
around it: what lies between the tag and the closing marker. -/
def fencedBody? (text : List Char) : Option (List Char) :=
  (afterStart? fence (trimRight (text.dropWhile isTagChar)).reverse).map
    fun before => trimBoth before.reverse

/-- The inside of a text that is a block, and any other text without the
blanks around it. -/
def unfence (text : String) : String :=
  let trimmed := trimBoth text.toList
  String.ofList
    (((afterStart? fence trimmed).bind fencedBody?).getD trimmed)

end Runbook.Text
