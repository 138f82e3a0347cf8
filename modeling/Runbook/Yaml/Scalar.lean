import Runbook.Yaml.Cursor

/-!
# YAML scalars

The text of plain, quoted and block scalars.  Inside plain and quoted scalars a
single line break becomes a space and further ones are kept; block scalars keep
or fold their breaks by their header.  Every loop has a bound taken from the
length of the text.
-/

namespace Runbook.Yaml

/-- Blanks and line breaks between two parts of a scalar. -/
structure Gap where
  /-- The blanks before the first break. -/
  blanks : List Char
  broken : Bool
  firstBreak : List Char
  /-- The breaks after the first one. -/
  moreBreaks : List Char

namespace Gap

def none : Gap := ⟨[], false, [], []⟩

def escapedBreak : Gap := ⟨[], true, [], []⟩

/-- The text that a gap leaves: a single break is a space, and of several all
but the first remain. -/
def text (gap : Gap) : List Char :=
  if gap.broken then
    if gap.firstBreak = ['\n'] then
      if gap.moreBreaks.isEmpty then [' '] else gap.moreBreaks
    else gap.firstBreak ++ gap.moreBreaks
  else gap.blanks

/-- Read blanks and breaks.  After a break no tab may stand left of a column;
none if one does. -/
def read (leastColumn : Nat) : Nat → Cursor → Gap → Option (Gap × Cursor)
  | 0, cursor, gap => some (gap, cursor)
  | fuel + 1, cursor, gap =>
    match cursor.peek? with
    | Option.none => some (gap, cursor)
    | some character =>
      if isBlank character then
        if gap.broken then
          if character == '\t' && cursor.column < leastColumn then Option.none
          else read leastColumn fuel (cursor.skip 1) gap
        else
          read leastColumn fuel (cursor.skip 1)
            { gap with blanks := gap.blanks ++ [character] }
      else if isBreak character then
        let (kept, after) := cursor.takeBreak
        if gap.broken then
          read leastColumn fuel after
            { gap with moreBreaks := gap.moreBreaks ++ kept }
        else
          read leastColumn fuel after
            { gap with blanks := [], broken := true, firstBreak := kept }
      else some (gap, cursor)

end Gap

namespace Scalar

/-- The bound of loops over the rest of a text. -/
def bound (cursor : Cursor) : Nat := cursor.rest.length + 1

def isFlowMark (character : Char) : Bool :=
  character == ',' || character == '[' || character == ']' ||
    character == '{' || character == '}'

/-- The characters of a plain scalar up to a blank, a break or its end.  In
flow collections a colon may not be followed by a mark. -/
def plainRun (inFlow : Bool) : Nat → Cursor → List Char →
    Option (List Char × Cursor)
  | 0, cursor, soFar => some (soFar, cursor)
  | fuel + 1, cursor, soFar =>
    match cursor.peek? with
    | none => some (soFar, cursor)
    | some character =>
      if isBlank character || isBreak character then some (soFar, cursor)
      else if inFlow && character == ':' &&
          cursor.ahead 1 (fun next => isFlowMark next || next == '?') then
        none
      else if character == ':' && cursor.blankOrEnd 1 then
        some (soFar, cursor)
      else if inFlow && isFlowMark character then some (soFar, cursor)
      else plainRun inFlow fuel (cursor.skip 1) (soFar ++ [character])

/-- Read a plain scalar whose continuation lines are indented by at least
`indent` columns.  The result tells also whether a line ended after it. -/
def plainFrom (inFlow : Bool) (indent : Nat) :
    Nat → Cursor → List Char → Gap → Option (List Char × Bool × Cursor)
  | 0, cursor, soFar, gap => some (soFar, gap.broken, cursor)
  | fuel + 1, cursor, soFar, gap =>
    if cursor.atDocumentMark || cursor.looksAt 0 '#' then
      some (soFar, gap.broken, cursor)
    else do
      let (run, after) ← plainRun inFlow (bound cursor) cursor []
      let grown := if run.isEmpty then soFar else soFar ++ gap.text ++ run
      let pending := if run.isEmpty then gap else Gap.none
      if after.ahead 0 fun next => isBlank next || isBreak next then
        let (gap, next) ← Gap.read indent (bound after) after pending
        if !inFlow && next.column < indent then
          return (grown, gap.broken, next)
        else plainFrom inFlow indent fuel next grown gap
      else return (grown, pending.broken, after)

def plain (inFlow : Bool) (indent : Nat) (cursor : Cursor) :
    Option (List Char × Bool × Cursor) :=
  plainFrom inFlow indent (bound cursor) cursor [] Gap.none

def hexDigit? (character : Char) : Option Nat :=
  if '0' ≤ character ∧ character ≤ '9' then some (character.toNat - 48)
  else if 'a' ≤ character ∧ character ≤ 'f' then some (character.toNat - 87)
  else if 'A' ≤ character ∧ character ≤ 'F' then some (character.toNat - 55)
  else none

def hexValue? (digits : List Char) : Option Nat :=
  digits.foldlM (fun value digit => (16 * value + ·) <$> hexDigit? digit) 0

def charOf? (code : Nat) : Option Char :=
  if (0xD800 ≤ code ∧ code ≤ 0xDFFF) ∨ 0x10FFFF < code then none
  else some (Char.ofNat code)

def shortEscape? (letter : Char) : Option Nat :=
  match letter with
  | '0' => some 0
  | 'a' => some 7
  | 'b' => some 8
  | 't' => some 9
  | '\t' => some 9
  | 'n' => some 10
  | 'v' => some 11
  | 'f' => some 12
  | 'r' => some 13
  | 'e' => some 27
  | ' ' => some 32
  | '"' => some 34
  | '/' => some 47
  | '\\' => some 92
  | 'N' => some 0x85
  | '_' => some 0xA0
  | 'L' => some 0x2028
  | 'P' => some 0x2029
  | _ => none

def digitCount? (letter : Char) : Option Nat :=
  match letter with
  | 'x' => some 2
  | 'u' => some 4
  | 'U' => some 8
  | _ => none

def escape? (cursor : Cursor) : Option (Char × Cursor) := do
  let letter ← cursor.peek?
  match digitCount? letter with
  | some count =>
    let digits := (cursor.rest.drop 1).take count
    if digits.length < count then none
    else
      let character ← (hexValue? digits).bind charOf?
      return (character, cursor.skip (count + 1))
  | none =>
    let code ← shortEscape? letter
    return (Char.ofNat code, cursor.skip 1)

/-- The characters of a quoted scalar up to a blank, a break, the closing quote
or an escaped line break; in the last case the gap is not empty. -/
def quotedRun (single : Bool) : Nat → Cursor → List Char →
    Option (List Char × Gap × Cursor)
  | 0, cursor, soFar => some (soFar, Gap.none, cursor)
  | fuel + 1, cursor, soFar =>
    match cursor.peek? with
    | none => some (soFar, Gap.none, cursor)
    | some character =>
      if isBlank character || isBreak character then
        some (soFar, Gap.none, cursor)
      else if single then
        if character == '\'' then
          if cursor.looksAt 1 '\'' then
            quotedRun single fuel (cursor.skip 2) (soFar ++ ['\''])
          else some (soFar, Gap.none, cursor)
        else quotedRun single fuel (cursor.skip 1) (soFar ++ [character])
      else if character == '"' then some (soFar, Gap.none, cursor)
      else if character == '\\' then
        if cursor.ahead 1 isBreak then
          some (soFar, Gap.escapedBreak, (cursor.skip 1).takeBreak.2)
        else
          (escape? (cursor.skip 1)).bind fun (meant, after) =>
            quotedRun single fuel after (soFar ++ [meant])
      else quotedRun single fuel (cursor.skip 1) (soFar ++ [character])

def quotedFrom (single : Bool) : Nat → Cursor → List Char →
    Option (List Char × Cursor)
  | 0, _, _ => none
  | fuel + 1, cursor, soFar =>
    if cursor.atDocumentMark || cursor.atEnd then none
    else do
      let (run, gap, after) ← quotedRun single (bound cursor) cursor []
      let grown := soFar ++ run
      if after.looksAt 0 (if single then '\'' else '"') then
        return (grown, after.skip 1)
      else
        let (gap, next) ← Gap.read 0 (bound after) after gap
        quotedFrom single fuel next (grown ++ gap.text)

def quoted (single : Bool) (cursor : Cursor) : Option (List Char × Cursor) :=
  quotedFrom single (bound cursor) (cursor.skip 1) []

/-- What becomes of the line breaks at the end of a block scalar. -/
inductive Chomping
  | strip
  | clip
  | keep
deriving DecidableEq

def chompingSign? (cursor : Cursor) : Option Chomping :=
  if cursor.looksAt 0 '+' then some .keep
  else if cursor.looksAt 0 '-' then some .strip
  else none

/-- Read the header of a block scalar after its mark: a chomping sign and an
indentation digit in either order. -/
def header? (cursor : Cursor) : Option (Chomping × Option Nat × Cursor) :=
  let digit? (cursor : Cursor) : Option (Option Nat × Cursor) :=
    match cursor.peek? with
    | some character =>
      if character.isDigit then
        if character == '0' then none
        else some (some (character.toNat - 48), cursor.skip 1)
      else some (none, cursor)
    | none => some (none, cursor)
  match chompingSign? cursor with
  | some chomping =>
    (digit? (cursor.skip 1)).map fun (indent, after) =>
      (chomping, indent, after)
  | none =>
    (digit? cursor).map fun (indent, after) =>
      match indent, chompingSign? after with
      | some indent, some chomping => (chomping, some indent, after.skip 1)
      | indent, _ => (.clip, indent, after)

/-- Read the indentation and the empty lines before a line of a block scalar.
An indentation of zero is not known yet.  The result holds the breaks and the
greatest column reached. -/
def blockBreaks (indent : Nat) : Nat → Cursor → List Char → Nat →
    Option (List Char × Nat × Cursor)
  | 0, cursor, breaks, widest => some (breaks, widest, cursor)
  | fuel + 1, cursor, breaks, widest =>
    let spaces := (cursor.rest.takeWhile (· == ' ')).length
    let room := if indent = 0 then spaces else indent - cursor.column
    let cursor := cursor.skip (min spaces room)
    let widest := max widest cursor.column
    if (indent = 0 || cursor.column < indent) && cursor.looksAt 0 '\t' then
      none
    else if cursor.ahead 0 isBreak then
      let (kept, after) := cursor.takeBreak
      blockBreaks indent fuel after (breaks ++ kept) widest
    else some (breaks, widest, cursor)

/-- The lines of a block scalar so far. -/
structure Block where
  text : List Char
  /-- The break after the last line. -/
  lastBreak : List Char
  /-- The breaks of the empty lines after it. -/
  breaks : List Char
  /-- Whether the last line begins with a blank. -/
  indented : Bool

/-- The text of a block scalar before a further line.  A folded break is a
space unless empty lines follow it, and breaks next to lines that begin with a
blank are not folded. -/
def Block.joined (literal : Bool) (block : Block) (indented : Bool) :
    List Char :=
  if !literal && block.lastBreak == ['\n'] && !block.indented && !indented then
    block.text ++ (if block.breaks.isEmpty then [' '] else block.breaks)
  else block.text ++ block.lastBreak ++ block.breaks

def blockLines (literal : Bool) (indent : Nat) :
    Nat → Cursor → Block → Option (Block × Cursor)
  | 0, cursor, block => some (block, cursor)
  | fuel + 1, cursor, block =>
    if cursor.column == indent && !cursor.atEnd then do
      let indented := cursor.ahead 0 isBlank
      let text := block.joined literal indented
      let (line, after) := cursor.takeWhile fun next => !isBreak next
      let (kept, next) := after.takeBreak
      let (breaks, _, next) ← blockBreaks indent (bound next) next [] 0
      blockLines literal indent fuel next
        ⟨text ++ line, kept, breaks, indented⟩
    else some (block, cursor)

/-- Read a block scalar, from its mark, in a block that is indented by
`parent` columns, or in none if that is negative. -/
def block (literal : Bool) (parent : Int) (cursor : Cursor) :
    Option (List Char × Cursor) := do
  let (chomping, increment, cursor) ← header? (cursor.skip 1)
  let cursor := cursor.skipWhile isBlank
  let cursor := if cursor.looksAt 0 '#' then cursor.skipLine else cursor
  if !cursor.breakOrEnd then none
  else
    let cursor := cursor.takeBreak.2
    let given :=
      match increment with
      | some increment => (max parent 0).toNat + increment
      | none => 0
    let (breaks, widest, cursor) ←
      blockBreaks given (bound cursor) cursor [] 0
    let indent :=
      if given = 0 then max (max widest (parent + 1).toNat) 1 else given
    let (block, cursor) ←
      blockLines literal indent (bound cursor) cursor ⟨[], [], breaks, false⟩
    let text :=
      match chomping with
      | .strip => block.text
      | .clip => block.text ++ block.lastBreak
      | .keep => block.text ++ block.lastBreak ++ block.breaks
    return (text, cursor)

end Scalar

end Runbook.Yaml
