import Runbook.Json.Value
import Runbook.Number.Reading

/-!
# JSON lexemes

A text is read one character at a time.  Between two lexemes only spaces,
tabs, line feeds and carriage returns may stand.  The content of a string is a
list of pieces, since an escape may write half of a character.
-/

namespace Runbook.Json

/-- One piece of a string: a character, or a code unit written with an
escape. -/
inductive Piece
  | char (character : Char)
  | unit (value : Nat)
deriving DecidableEq

/-- A number as it is written. -/
structure NumberText where
  negative : Bool
  whole : List Char
  fraction : Option (List Char)
  exponent : Option Int
deriving DecidableEq

/-- A lexeme. -/
inductive Token
  | openBrace
  | closeBrace
  | openBracket
  | closeBracket
  | comma
  | colon
  | null
  | bool (value : Bool)
  | number (text : NumberText)
  | string (content : List Piece)
deriving DecidableEq

/-- The exponent that may end a number: outside nothing, inside whether there
is one. -/
def NumberText.exponent? : List Char → Option (Option Int)
  | [] => some none
  | text => (Reading.exponent? text).map some

/-- The fraction and the exponent that may end a number. -/
def NumberText.tail? (negative : Bool) (whole : List Char) :
    List Char → Option NumberText
  | '.' :: rest =>
    let (fraction, after) := Reading.digitRun rest
    if fraction.isEmpty then none
    else (exponent? after).map (⟨negative, whole, some fraction, ·⟩)
  | rest => (exponent? rest).map (⟨negative, whole, none, ·⟩)

/-- A number from its characters: an optional minus sign, digits of which the
first is zero only if it is the only one, an optional fraction and an optional
exponent. -/
def NumberText.ofChars? (text : List Char) : Option NumberText :=
  let (negative, unsigned) :=
    match text with
    | '-' :: rest => (true, rest)
    | rest => (false, rest)
  match Reading.digitRun unsigned with
  | ([], _) => none
  | (['0'], rest) => tail? negative ['0'] rest
  | ('0' :: _, _) => none
  | (whole, rest) => tail? negative whole rest

/-- What the reader is in the middle of. -/
inductive Mode
  | between
  /-- In a word, with the rest of it. -/
  | word (rest : List Char) (token : Token)
  /-- In a number; the characters so far, last one first. -/
  | number (soFar : List Char)
  /-- In a string; the pieces so far, last one first. -/
  | string (soFar : List Piece)
  | escape (soFar : List Piece)
  /-- In an escaped code unit, with the number of digits still to come. -/
  | unit (soFar : List Piece) (missing value : Nat)
deriving DecidableEq

/-- The lexemes so far, last one first, and what is being read. -/
structure Lexer where
  tokens : List Token
  mode : Mode
deriving DecidableEq

namespace Lexer

def start : Lexer := ⟨[], .between⟩

def isSpace (character : Char) : Bool :=
  character == ' ' || character == '\t' || character == '\n' ||
    character == '\r'

def isNumeric (character : Char) : Bool :=
  character.isDigit || character == '-' || character == '+' ||
    character == '.' || character == 'e' || character == 'E'

def openToken (tokens : List Token) (character : Char) : Option Lexer :=
  match character with
  | '{' => some ⟨.openBrace :: tokens, .between⟩
  | '}' => some ⟨.closeBrace :: tokens, .between⟩
  | '[' => some ⟨.openBracket :: tokens, .between⟩
  | ']' => some ⟨.closeBracket :: tokens, .between⟩
  | ',' => some ⟨.comma :: tokens, .between⟩
  | ':' => some ⟨.colon :: tokens, .between⟩
  | '"' => some ⟨tokens, .string []⟩
  | 't' => some ⟨tokens, .word ['r', 'u', 'e'] (.bool true)⟩
  | 'f' => some ⟨tokens, .word ['a', 'l', 's', 'e'] (.bool false)⟩
  | 'n' => some ⟨tokens, .word ['u', 'l', 'l'] .null⟩
  | other =>
    if isSpace other then some ⟨tokens, .between⟩
    else if isNumeric other then some ⟨tokens, .number [other]⟩
    else none

def closeNumber (tokens : List Token) (soFar : List Char) :
    Option (List Token) :=
  (NumberText.ofChars? soFar.reverse).map fun number =>
    .number number :: tokens

def shortEscape? (character : Char) : Option Char :=
  match character with
  | '"' => some '"'
  | '\\' => some '\\'
  | '/' => some '/'
  | 'b' => some '\x08'
  | 'f' => some '\x0c'
  | 'n' => some '\n'
  | 'r' => some '\r'
  | 't' => some '\t'
  | _ => none

def hexValue? (character : Char) : Option Nat :=
  let code := character.toNat
  if 48 ≤ code ∧ code ≤ 57 then some (code - 48)
  else if 97 ≤ code ∧ code ≤ 102 then some (code - 87)
  else if 65 ≤ code ∧ code ≤ 70 then some (code - 55)
  else none

def step (lexer : Lexer) (character : Char) : Option Lexer :=
  match lexer.mode with
  | .between => openToken lexer.tokens character
  | .word rest token =>
    match rest with
    | [] => none
    | [last] =>
      if character = last then some ⟨token :: lexer.tokens, .between⟩
      else none
    | expected :: more =>
      if character = expected then some ⟨lexer.tokens, .word more token⟩
      else none
  | .number soFar =>
    if isNumeric character then
      some ⟨lexer.tokens, .number (character :: soFar)⟩
    else
      (closeNumber lexer.tokens soFar).bind (openToken · character)
  | .string soFar =>
    if character = '"' then
      some ⟨.string soFar.reverse :: lexer.tokens, .between⟩
    else if character = '\\' then some ⟨lexer.tokens, .escape soFar⟩
    else if character.toNat < 32 then none
    else some ⟨lexer.tokens, .string (.char character :: soFar)⟩
  | .escape soFar =>
    if character = 'u' then some ⟨lexer.tokens, .unit soFar 4 0⟩
    else
      (shortEscape? character).map fun meant =>
        ⟨lexer.tokens, .string (.char meant :: soFar)⟩
  | .unit soFar missing value =>
    (hexValue? character).map fun digit =>
      let next := 16 * value + digit
      if missing ≤ 1 then ⟨lexer.tokens, .string (.unit next :: soFar)⟩
      else ⟨lexer.tokens, .unit soFar (missing - 1) next⟩

/-- The lexemes at the end of a text; none if one of them is incomplete. -/
def finish (lexer : Lexer) : Option (List Token) :=
  match lexer.mode with
  | .between => some lexer.tokens.reverse
  | .number soFar =>
    (closeNumber lexer.tokens soFar).map List.reverse
  | _ => none

end Lexer

def Token.scan? (text : List Char) : Option (List Token) :=
  (text.foldlM Lexer.step Lexer.start).bind Lexer.finish

/-- Whether a code unit is the first half of a character. -/
def isLeading (unit : Nat) : Bool :=
  0xD800 ≤ unit && unit < 0xDC00

/-- Whether a code unit is the second half of a character. -/
def isTrailing (unit : Nat) : Bool :=
  0xDC00 ≤ unit && unit < 0xE000

/-- The characters of a string's pieces; none if half of a character stands
alone. -/
def Piece.decode? : List Piece → Option (List Char)
  | [] => some []
  | .char character :: rest => (decode? rest).map (character :: ·)
  | .unit first :: .unit second :: rest =>
    if isLeading first then
      if isTrailing second then
        (decode? rest).map
          (Char.ofNat (0x10000 + (first - 0xD800) * 0x400 +
            (second - 0xDC00)) :: ·)
      else none
    else if isTrailing first then none
    else (decode? (.unit second :: rest)).map (Char.ofNat first :: ·)
  | .unit first :: rest =>
    if isLeading first || isTrailing first then none
    else (decode? rest).map (Char.ofNat first :: ·)

def Piece.text? (content : List Piece) : Option String :=
  (decode? content).map String.ofList

end Runbook.Json
