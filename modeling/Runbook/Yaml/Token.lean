import Runbook.Yaml.Scalar

/-!
# YAML lexemes

The lexemes of a YAML text.  Indentation is turned into lexemes that open and
close blocks.  A mapping key is recognised only at the colon that follows it,
so the place where a key may have begun is remembered until then.
-/

namespace Runbook.Yaml

/-- A lexeme. -/
inductive Token
  | version (major minor : Nat)
  | tagDirective (handle start : String)
  | documentStart
  | documentEnd
  | blockSequence
  | blockMapping
  | blockEnd
  | flowSequence
  | flowSequenceEnd
  | flowMapping
  | flowMappingEnd
  | blockEntry
  | flowEntry
  | key
  | value
  | alias (name : String)
  | anchor (name : String)
  | tag (handle suffix : String)
  | scalar (text : String) (isPlain : Bool)
deriving DecidableEq, Inhabited

/-- A place where a mapping key may have begun. -/
structure PossibleKey where
  /-- Whether something other than a key is an error here. -/
  required : Bool
  /-- How many lexemes precede the key. -/
  before : Nat
  position : Position

/-- The state of reading lexemes. -/
structure Lexer where
  cursor : Cursor
  tokens : Array Token
  /-- How many flow collections are open. -/
  flowDepth : Nat
  /-- The column of the innermost open block, or `-1`. -/
  indent : Int
  /-- The columns of the blocks around it. -/
  outerIndents : List Int
  /-- Whether a key may begin here. -/
  keyAllowed : Bool
  /-- The possible key of each open flow collection, innermost first, and of
  the block around them. -/
  keys : List (Option PossibleKey)

namespace Lexer

def start (text : List Char) : Lexer :=
  ⟨Cursor.start text, #[], 0, -1, [], true, [none]⟩

def inFlow (lexer : Lexer) : Bool := lexer.flowDepth != 0

def push (lexer : Lexer) (token : Token) : Lexer :=
  { lexer with tokens := lexer.tokens.push token }

def insertAt (lexer : Lexer) (before : Nat) (token : Token) : Lexer :=
  { lexer with
    tokens := (lexer.tokens.extract 0 before).push token ++
      lexer.tokens.extract before lexer.tokens.size }

def column (lexer : Lexer) : Int := lexer.cursor.column

/-- Whether a possible key can no longer become one: it has to be on the
current line and shorter than 1024 characters. -/
def isStale (lexer : Lexer) (key : PossibleKey) : Bool :=
  key.position.line < lexer.cursor.position.line ||
    key.position.index + 1024 < lexer.cursor.position.index

/-- Forget the possible keys that have become stale; none if one of them was
required. -/
def dropStale (lexer : Lexer) : Option Lexer := do
  let keys ← lexer.keys.mapM fun key =>
    match key with
    | none => some none
    | some key =>
      if lexer.isStale key then
        if key.required then none else some none
      else some (some key)
  return { lexer with keys }

/-- Forget the current possible key; none if it was required. -/
def removeKey (lexer : Lexer) : Option Lexer :=
  match lexer.keys with
  | some key :: outer =>
    if key.required then none else some { lexer with keys := none :: outer }
  | _ => some lexer

def saveKey (lexer : Lexer) : Option Lexer :=
  if lexer.keyAllowed then do
    let required := !lexer.inFlow && lexer.indent == lexer.column
    let cleared ← lexer.removeKey
    let key : PossibleKey :=
      ⟨required, lexer.tokens.size, lexer.cursor.position⟩
    return { cleared with keys := some key :: cleared.keys.tail }
  else some lexer

/-- Open a block at a column that lies to the right of the innermost one; its
lexeme is put after the first `before` ones. -/
def openBlock (lexer : Lexer) (column : Int) (before : Nat) (token : Token) :
    Lexer :=
  if !lexer.inFlow && lexer.indent < column then
    { lexer.insertAt before token with
      outerIndents := lexer.indent :: lexer.outerIndents
      indent := column }
  else lexer

/-- Close the blocks of a list of columns that lie to the right of a column. -/
def closeColumns (column : Int) :
    List Int → Int → Array Token → List Int × Int × Array Token
  | outer, indent, tokens =>
    if column < indent then
      match outer with
      | [] => ([], -1, tokens.push .blockEnd)
      | next :: rest => closeColumns column rest next (tokens.push .blockEnd)
    else (outer, indent, tokens)

/-- Close the blocks that lie to the right of a column. -/
def closeBlocks (lexer : Lexer) (column : Int) : Lexer :=
  if lexer.inFlow then lexer
  else
    let (outerIndents, indent, tokens) :=
      closeColumns column lexer.outerIndents lexer.indent lexer.tokens
    { lexer with outerIndents, indent, tokens }

/-- Go past blanks, comments and line breaks.  At the beginning of a line of a
block, where a key may begin, a tab is no blank. -/
def skipSpace : Nat → Lexer → Lexer
  | 0, lexer => lexer
  | fuel + 1, lexer =>
    let cursor := lexer.cursor
    let cursor :=
      if cursor.position.index = 0 ∧ cursor.ahead 0 (·.toNat == 0xFEFF) then
        cursor.skip 1
      else cursor
    let tabs := lexer.inFlow || !lexer.keyAllowed
    let cursor := cursor.skipWhile fun next =>
      next == ' ' || (tabs && next == '\t')
    let cursor := if cursor.looksAt 0 '#' then cursor.skipLine else cursor
    if cursor.ahead 0 isBreak then
      skipSpace fuel
        { lexer with
          cursor := cursor.takeBreak.2
          keyAllowed := lexer.keyAllowed || !lexer.inFlow }
    else { lexer with cursor }

def skip (lexer : Lexer) (count : Nat) : Lexer :=
  { lexer with cursor := lexer.cursor.skip count }

/-- Close all blocks before a directive or the mark of a document. -/
def leaveDocument (lexer : Lexer) : Option Lexer := do
  let closed ← (lexer.closeBlocks (-1)).removeKey
  return { closed with keyAllowed := false }

/-- A tag handle: an exclamation mark, a name and perhaps another mark. -/
def handle? (cursor : Cursor) : Option (List Char × Cursor) :=
  if cursor.looksAt 0 '!' then
    let (name, after) := (cursor.skip 1).takeWhile isPlainName
    if after.looksAt 0 '!' then
      some ('!' :: name ++ ['!'], after.skip 1)
    else some ('!' :: name, after)
  else none

def isTagChar (verbatim : Bool) (character : Char) : Bool :=
  isPlainName character || ";/?:@&=+$.%!~*'()".toList.contains character ||
    (verbatim && ",[]".toList.contains character)

/-- The byte written by a percent sign and two digits. -/
def escapedByte? (cursor : Cursor) : Option Nat :=
  if cursor.looksAt 0 '%' then
    match cursor.rest.drop 1 with
    | first :: second :: _ => Scalar.hexValue? [first, second]
    | _ => none
  else none

/-- How many bytes encode a character that begins with a byte. -/
def encodedWidth? (byte : Nat) : Option Nat :=
  if byte < 0x80 then some 1
  else if byte / 0x20 = 6 then some 2
  else if byte / 0x10 = 14 then some 3
  else if byte / 8 = 30 then some 4
  else none

/-- Read the continuation bytes of a character written with percent signs. -/
def continuation? : Nat → Cursor → Nat → Option (Nat × Cursor)
  | 0, cursor, code => some (code, cursor)
  | count + 1, cursor, code => do
    let byte ← escapedByte? cursor
    if byte / 0x40 = 2 then
      continuation? count (cursor.skip 3) (code * 0x40 + byte % 0x40)
    else none

def escapedChar? (cursor : Cursor) : Option (Char × Cursor) := do
  let byte ← escapedByte? cursor
  let width ← encodedWidth? byte
  let lead := if width = 1 then byte else byte % Nat.pow 2 (7 - width)
  let (code, after) ← continuation? (width - 1) (cursor.skip 3) lead
  return (Char.ofNat code, after)

def tagChars (verbatim : Bool) :
    Nat → Cursor → List Char → Option (List Char × Cursor)
  | 0, cursor, soFar => some (soFar, cursor)
  | fuel + 1, cursor, soFar =>
    if cursor.looksAt 0 '%' then
      (escapedChar? cursor).bind fun (character, after) =>
        tagChars verbatim fuel after (soFar ++ [character])
    else if cursor.ahead 0 (isTagChar verbatim) then
      tagChars verbatim fuel (cursor.skip 1)
        (soFar ++ cursor.rest.take 1)
    else some (soFar, cursor)

def tagText? (verbatim : Bool) (cursor : Cursor) :
    Option (List Char × Cursor) := do
  let (text, after) ← tagChars verbatim (Scalar.bound cursor) cursor []
  if text.isEmpty then none else return (text, after)

def directive? (cursor : Cursor) : Option (Token × Cursor) := do
  let (name, after) := (cursor.skip 1).takeWhile isPlainName
  if name.isEmpty || !after.blankOrEnd 0 then none
  else
    let number? (cursor : Cursor) : Option (Nat × Cursor) :=
      let (digits, after) := cursor.takeWhile Char.isDigit
      if digits.isEmpty || 9 < digits.length then none
      else some ((String.ofList digits).toNat!, after)
    let (token, after) ←
      if name = "YAML".toList then do
        let (major, after) ← number? (after.skipWhile isBlank)
        if !after.looksAt 0 '.' then none
        else
          let (minor, after) ← number? (after.skip 1)
          some (Token.version major minor, after)
      else if name = "TAG".toList then do
        let (handle, after) ← handle? (after.skipWhile isBlank)
        if handle ≠ ['!'] ∧ handle.getLast? ≠ some '!' then none
        else if !after.ahead 0 isBlank then none
        else
          let (start, after) ← tagText? true (after.skipWhile isBlank)
          if !after.blankOrEnd 0 then none
          else
            some (Token.tagDirective (String.ofList handle)
              (String.ofList start), after)
      else none
    let after := after.skipWhile isBlank
    let after := if after.looksAt 0 '#' then after.skipLine else after
    if after.breakOrEnd then return (token, after.takeBreak.2) else none

/-- Read the name of an anchor or alias, from its mark. -/
def anchorName? (cursor : Cursor) : Option (String × Cursor) :=
  let (name, after) := (cursor.skip 1).takeWhile isPlainName
  let ended := after.blankOrEnd 0 ||
    after.ahead 0 fun next => "?:,]\x7d%@\x60".toList.contains next
  if name.isEmpty || !ended then none
  else some (String.ofList name, after)

def tag? (inFlow : Bool) (cursor : Cursor) : Option (Token × Cursor) := do
  let (token, after) ←
    if cursor.looksAt 1 '<' then do
      let (suffix, after) ← tagText? true (cursor.skip 2)
      if after.looksAt 0 '>' then
        some (Token.tag "" (String.ofList suffix), after.skip 1)
      else none
    else do
      let (handle, after) ← handle? cursor
      if handle.length > 1 ∧ handle.getLast? = some '!' then do
        let (suffix, after) ← tagText? false after
        some (Token.tag (String.ofList handle) (String.ofList suffix), after)
      else do
        let (rest, after) ←
          tagChars false (Scalar.bound after) after handle.tail
        if rest.isEmpty then some (Token.tag "" "!", after)
        else some (Token.tag "!" (String.ofList rest), after)
  if (inFlow && after.looksAt 0 ',') || after.blankOrEnd 0 then
    return (token, after)
  else none

/-- Read a lexeme of one character that opens a flow collection. -/
def openFlow (lexer : Lexer) (token : Token) : Option Lexer := do
  let saved ← lexer.saveKey
  return ({ saved with
    keys := none :: saved.keys
    flowDepth := saved.flowDepth + 1
    keyAllowed := true }.skip 1).push token

/-- Read a lexeme of one character that closes a flow collection. -/
def closeFlow (lexer : Lexer) (token : Token) : Option Lexer := do
  let cleared ← lexer.removeKey
  let closed :=
    if cleared.inFlow then
      { cleared with
        keys := cleared.keys.tail
        flowDepth := cleared.flowDepth - 1 }
    else cleared
  return ({ closed with keyAllowed := false }.skip 1).push token

def flowEntry (lexer : Lexer) : Option Lexer := do
  let cleared ← lexer.removeKey
  return ({ cleared with keyAllowed := true }.skip 1).push .flowEntry

/-- Read a hyphen that begins an item of a block. -/
def blockEntry (lexer : Lexer) : Option Lexer := do
  if !lexer.inFlow && !lexer.keyAllowed then none
  else
    let opened :=
      lexer.openBlock lexer.column lexer.tokens.size .blockSequence
    let cleared ← opened.removeKey
    return ({ cleared with keyAllowed := true }.skip 1).push .blockEntry

def explicitKey (lexer : Lexer) : Option Lexer := do
  if !lexer.inFlow && !lexer.keyAllowed then none
  else
    let opened := lexer.openBlock lexer.column lexer.tokens.size .blockMapping
    let cleared ← opened.removeKey
    return ({ cleared with keyAllowed := !cleared.inFlow }.skip 1).push .key

/-- Read a colon that begins a value.  If a key may have begun before it, the
lexeme of the key is put in its place. -/
def mappingValue (lexer : Lexer) : Option Lexer :=
  match lexer.keys with
  | some key :: outer =>
    let keyed := (lexer.insertAt key.before .key).openBlock
      key.position.column key.before .blockMapping
    some (({ keyed with
      keys := none :: outer
      keyAllowed := false }.skip 1).push .value)
  | _ =>
    if !lexer.inFlow && !lexer.keyAllowed then none
    else
      let opened :=
        lexer.openBlock lexer.column lexer.tokens.size .blockMapping
      some (({ opened with keyAllowed := !opened.inFlow }.skip 1).push .value)

/-- Read a lexeme that may be a key or part of one. -/
def content (lexer : Lexer)
    (read : Lexer → Option (Token × Bool × Cursor)) : Option Lexer := do
  let saved ← lexer.saveKey
  let (token, keyAllowed, cursor) ← read saved
  return { saved with keyAllowed, cursor }.push token

def blockScalar (lexer : Lexer) (literal : Bool) : Option Lexer := do
  let cleared ← lexer.removeKey
  let (text, cursor) ← Scalar.block literal cleared.indent cleared.cursor
  return { cleared with keyAllowed := true, cursor }.push
    (.scalar (String.ofList text) false)

def quotedScalar (single : Bool) (lexer : Lexer) :
    Option (Token × Bool × Cursor) :=
  (Scalar.quoted single lexer.cursor).map fun (text, cursor) =>
    (.scalar (String.ofList text) false, false, cursor)

/-- Read a plain scalar.  When it ended at the end of a line, a key may begin
after it. -/
def plainScalar (lexer : Lexer) : Option (Token × Bool × Cursor) :=
  (Scalar.plain lexer.inFlow (lexer.indent + 1).toNat lexer.cursor).map
    fun (text, lineEnded, cursor) =>
      (.scalar (String.ofList text) true, lineEnded, cursor)

def beginsPlain (lexer : Lexer) : Bool :=
  let cursor := lexer.cursor
  match cursor.peek? with
  | none => false
  | some character =>
    !(isBlank character || isBreak character ||
        "-?:,[]\x7b\x7d#&*!|>'\"%@\x60".toList.contains character) ||
      (character == '-' && !cursor.ahead 1 isBlank) ||
      (!lexer.inFlow && (character == '?' || character == ':') &&
        !cursor.blankOrEnd 1)

def next (lexer : Lexer) (character : Char) : Option Lexer :=
  let cursor := lexer.cursor
  let indicates := cursor.blankOrEnd 1
  if cursor.column = 0 ∧ character = '%' then do
    let left ← lexer.leaveDocument
    let (token, cursor) ← directive? left.cursor
    return { left with cursor }.push token
  else if cursor.marksDocument '-' then
    lexer.leaveDocument.map fun left => (left.skip 3).push .documentStart
  else if cursor.marksDocument '.' then
    lexer.leaveDocument.map fun left => (left.skip 3).push .documentEnd
  else if character = '[' then lexer.openFlow .flowSequence
  else if character = '{' then lexer.openFlow .flowMapping
  else if character = ']' then lexer.closeFlow .flowSequenceEnd
  else if character = '}' then lexer.closeFlow .flowMappingEnd
  else if character = ',' then lexer.flowEntry
  else if character = '-' ∧ indicates then lexer.blockEntry
  else if character = '?' ∧ (lexer.inFlow || indicates) then
    lexer.explicitKey
  else if character = ':' ∧ (lexer.inFlow || indicates) then
    lexer.mappingValue
  else if character = '*' then
    lexer.content fun saved =>
      (anchorName? saved.cursor).map fun (name, after) =>
        (.alias name, false, after)
  else if character = '&' then
    lexer.content fun saved =>
      (anchorName? saved.cursor).map fun (name, after) =>
        (.anchor name, false, after)
  else if character = '!' then
    lexer.content fun saved =>
      (tag? saved.inFlow saved.cursor).map fun (token, after) =>
        (token, false, after)
  else if character = '|' ∧ !lexer.inFlow then lexer.blockScalar true
  else if character = '>' ∧ !lexer.inFlow then lexer.blockScalar false
  else if character = '\'' then lexer.content (quotedScalar true)
  else if character = '"' then lexer.content (quotedScalar false)
  else if lexer.beginsPlain then lexer.content plainScalar
  else none

def finish (lexer : Lexer) : Option (List Token) := do
  let cleared ← (lexer.closeBlocks (-1)).removeKey
  return cleared.tokens.toList

def run : Nat → Lexer → Option (List Token)
  | 0, _ => none
  | fuel + 1, lexer => do
    let ready ← (skipSpace (Scalar.bound lexer.cursor) lexer).dropStale
    match ready.cursor.peek? with
    | none => ready.finish
    | some character =>
      let next ← (ready.closeBlocks ready.column).next character
      run fuel next

end Lexer

def Token.scan? (text : String) : Option (List Token) :=
  let characters := text.toList
  if characters.all isAllowed then
    Lexer.run (characters.length + 2) (Lexer.start characters)
  else none

end Runbook.Yaml
