/-!
# Positions in YAML text

A cursor is the rest of a text with the place where it begins.  A carriage
return followed by a line feed is one line break.
-/

namespace Runbook.Yaml

def isBlank (character : Char) : Bool :=
  character == ' ' || character == '\t'

def isBreak (character : Char) : Bool :=
  character == '\n' || character == '\r' || character.toNat == 0x85 ||
    character.toNat == 0x2028 || character.toNat == 0x2029

def isPlainName (character : Char) : Bool :=
  character.isAlphanum || character == '_' || character == '-'

/-- A character that may stand in YAML text at all. -/
def isAllowed (character : Char) : Bool :=
  let code := character.toNat
  code == 9 || code == 10 || code == 13 || (0x20 ≤ code && code ≤ 0x7E) ||
    code == 0x85 || (0xA0 ≤ code && code ≤ 0xD7FF) ||
    (0xE000 ≤ code && code ≤ 0xFFFD) || 0x10000 ≤ code

/-- A place in a text, counted in characters. -/
structure Position where
  index : Nat
  line : Nat
  column : Nat
deriving DecidableEq, Inhabited

/-- The rest of a text and its place. -/
structure Cursor where
  rest : List Char
  position : Position
deriving Inhabited

namespace Cursor

def start (text : List Char) : Cursor := ⟨text, ⟨0, 0, 0⟩⟩

def column (cursor : Cursor) : Nat := cursor.position.column

def atEnd (cursor : Cursor) : Bool := cursor.rest.isEmpty

def peek? (cursor : Cursor) : Option Char := cursor.rest.head?

/-- Whether a condition holds of the character so many places ahead. -/
def ahead (cursor : Cursor) (distance : Nat) (condition : Char → Bool) :
    Bool :=
  match cursor.rest[distance]? with
  | some character => condition character
  | none => false

/-- Whether the character so many places ahead is this one. -/
def looksAt (cursor : Cursor) (distance : Nat) (character : Char) : Bool :=
  cursor.ahead distance (· == character)

/-- Whether a blank, a line break or the end is so many places ahead. -/
def blankOrEnd (cursor : Cursor) (distance : Nat) : Bool :=
  match cursor.rest[distance]? with
  | some character => isBlank character || isBreak character
  | none => true

def breakOrEnd (cursor : Cursor) : Bool :=
  match cursor.rest with
  | character :: _ => isBreak character
  | [] => true

def skip (cursor : Cursor) (count : Nat) : Cursor :=
  ⟨cursor.rest.drop count,
    { cursor.position with
      index := cursor.position.index + count
      column := cursor.position.column + count }⟩

/-- The characters as long as a condition holds of them, and what follows.
The condition is false of line breaks. -/
def takeWhile (cursor : Cursor) (condition : Char → Bool) :
    List Char × Cursor :=
  let taken := cursor.rest.takeWhile condition
  (taken, cursor.skip taken.length)

def skipWhile (cursor : Cursor) (condition : Char → Bool) : Cursor :=
  (cursor.takeWhile condition).2

def skipLine (cursor : Cursor) : Cursor :=
  cursor.skipWhile fun character => !isBreak character

/-- The start of the next line after a break of some characters. -/
def nextLine (cursor : Cursor) (count : Nat) : Cursor :=
  ⟨cursor.rest.drop count,
    ⟨cursor.position.index + count, cursor.position.line + 1, 0⟩⟩

/-- The line break that comes next, as it is kept in a text, and what follows.
At another place nothing is taken. -/
def takeBreak (cursor : Cursor) : List Char × Cursor :=
  match cursor.rest with
  | '\r' :: '\n' :: _ => (['\n'], cursor.nextLine 2)
  | character :: _ =>
    if character = '\n' ∨ character = '\r' ∨ character.toNat = 0x85 then
      (['\n'], cursor.nextLine 1)
    else if isBreak character then ([character], cursor.nextLine 1)
    else ([], cursor)
  | [] => ([], cursor)

/-- Whether a line consists of three equal characters and then a blank, a
break or the end. -/
def marksDocument (cursor : Cursor) (character : Char) : Bool :=
  cursor.column == 0 && cursor.looksAt 0 character &&
    cursor.looksAt 1 character && cursor.looksAt 2 character &&
    cursor.blankOrEnd 3

def atDocumentMark (cursor : Cursor) : Bool :=
  cursor.marksDocument '-' || cursor.marksDocument '.'

end Cursor

end Runbook.Yaml
