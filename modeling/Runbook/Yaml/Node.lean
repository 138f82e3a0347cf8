import Runbook.Yaml.Token

/-!
# YAML trees

The tree of a document as it is written, with its tags, anchors and aliases.
The readers below take lexemes from the front of a list; their bound is the
number of lexemes.
-/

namespace Runbook.Yaml

/-- A tree whose anchors and aliases are labelled in some type. -/
inductive Node (Label : Type)
  | alias (label : Label)
  | scalar (anchor : Option Label) (tag : Option String) (text : String)
      (isPlain : Bool)
  | sequence (anchor : Option Label) (tag : Option String)
      (items : List (Node Label))
  | mapping (anchor : Option Label) (tag : Option String)
      (entries : List (Node Label × Node Label))
deriving Inhabited

namespace Node

/-- The prefixes that tag handles stand for. -/
abbrev Handles := List (String × String)

def standardHandles : Handles :=
  [("!", "!"), ("!!", "tag:yaml.org,2002:")]

/-- The tag of a handle and a suffix, if the handle is declared. -/
def resolveTag? (handles : Handles) (handle suffix : String) :
    Option String :=
  if handle = "" then some suffix
  else (handles.lookup handle).map (· ++ suffix)

def empty : Node String := .scalar none none "" true

/-- The anchor and the tag of a node. -/
structure Properties where
  anchor : Option String
  tag : Option String

def Properties.any (properties : Properties) : Bool :=
  properties.anchor.isSome || properties.tag.isSome

/-- Read the anchor and the tag of a node, in either order. -/
def properties? (handles : Handles) :
    List Token → Option (Properties × List Token)
  | .anchor name :: .tag handle suffix :: rest =>
    (resolveTag? handles handle suffix).map fun tag =>
      (⟨some name, some tag⟩, rest)
  | .anchor name :: rest => some (⟨some name, none⟩, rest)
  | .tag handle suffix :: .anchor name :: rest =>
    (resolveTag? handles handle suffix).map fun tag =>
      (⟨some name, some tag⟩, rest)
  | .tag handle suffix :: rest =>
    (resolveTag? handles handle suffix).map fun tag =>
      (⟨none, some tag⟩, rest)
  | rest => some (⟨none, none⟩, rest)

/-- A scalar with its anchor and its tag.  The tag of one exclamation mark is
no tag. -/
def scalarNode (properties : Properties) (text : String) (isPlain : Bool) :
    Node String :=
  .scalar properties.anchor (properties.tag.filter (· != "!")) text isPlain

/-- Whether a lexeme ends the part of a block mapping before it. -/
def endsBlockPart : List Token → Bool
  | .key :: _ | .value :: _ | .blockEnd :: _ => true
  | _ => false

/-- Whether a lexeme ends the part of a flow mapping before it. -/
def endsFlowMappingPart : List Token → Bool
  | .value :: _ | .flowEntry :: _ | .flowMappingEnd :: _ => true
  | _ => false

/-- Whether a lexeme ends the part of a flow sequence before it. -/
def endsFlowSequencePart : List Token → Bool
  | .value :: _ | .flowEntry :: _ | .flowSequenceEnd :: _ => true
  | _ => false

/-- What a reader of nodes is asked for. -/
inductive Part
  /-- A node; in a block it may be a block, and after a key or a colon a
  sequence that is not indented. -/
  | node (inBlock mayHang : Bool)
  /-- The items of a block sequence. -/
  | blockItems
  /-- The items of a sequence that is not indented. -/
  | hangingItems
  /-- The entries of a block mapping. -/
  | blockEntries
  /-- The items of a flow sequence. -/
  | flowItems (isFirst : Bool)
  /-- The entries of a flow mapping. -/
  | flowEntries (isFirst : Bool)

/-- What a reader of nodes finds. -/
abbrev Found : Part → Type
  | .node .. => Node String
  | .blockItems | .hangingItems | .flowItems _ => List (Node String)
  | .blockEntries | .flowEntries _ => List (Node String × Node String)

/-- Read the value of a block mapping's entry with a reader of nodes; without
a colon it is empty. -/
def blockValue (node : List Token → Option (Node String × List Token)) :
    List Token → Option (Node String × List Token)
  | .value :: rest =>
    if endsBlockPart rest then some (empty, rest) else node rest
  | rest => some (empty, rest)

/-- Read a part, with a bound on the depth of the recursion. -/
def read (handles : Handles) :
    Nat → (part : Part) → List Token → Option (Found part × List Token)
  | 0, _, _ => none
  | _ + 1, .node .., .alias name :: rest => some (.alias name, rest)
  | fuel + 1, .node inBlock mayHang, tokens => do
    let (properties, tokens) ← properties? handles tokens
    let anchor := properties.anchor
    let tag := properties.tag
    match tokens, inBlock, mayHang with
    | .blockEntry :: _, _, true => do
      let (items, rest) ← read handles fuel .hangingItems tokens
      return (.sequence anchor tag items, rest)
    | .scalar text isPlain :: rest, _, _ =>
      return (scalarNode properties text isPlain, rest)
    | .flowSequence :: rest, _, _ => do
      let (items, rest) ← read handles fuel (.flowItems true) rest
      return (.sequence anchor tag items, rest)
    | .flowMapping :: rest, _, _ => do
      let (entries, rest) ← read handles fuel (.flowEntries true) rest
      return (.mapping anchor tag entries, rest)
    | .blockSequence :: rest, true, _ => do
      let (items, rest) ← read handles fuel .blockItems rest
      return (.sequence anchor tag items, rest)
    | .blockMapping :: rest, true, _ => do
      let (entries, rest) ← read handles fuel .blockEntries rest
      return (.mapping anchor tag entries, rest)
    | rest, _, _ =>
      if properties.any then return (.scalar anchor tag "" true, rest)
      else none
  | _ + 1, .blockItems, .blockEnd :: rest => some ([], rest)
  | fuel + 1, .blockItems, .blockEntry :: rest => do
    let (item, rest) ←
      match rest with
      | .blockEntry :: _ | .blockEnd :: _ => some (empty, rest)
      | _ => read handles fuel (.node true false) rest
    let (items, rest) ← read handles fuel .blockItems rest
    return (item :: items, rest)
  | _ + 1, .blockItems, _ => none
  | fuel + 1, .hangingItems, .blockEntry :: rest => do
    let (item, rest) ←
      match rest with
      | .blockEntry :: _ => some (empty, rest)
      | _ =>
        if endsBlockPart rest then some (empty, rest)
        else read handles fuel (.node true false) rest
    let (items, rest) ← read handles fuel .hangingItems rest
    return (item :: items, rest)
  | _ + 1, .hangingItems, rest => some ([], rest)
  | _ + 1, .blockEntries, .blockEnd :: rest => some ([], rest)
  | fuel + 1, .blockEntries, .key :: rest => do
    let (name, rest) ←
      if endsBlockPart rest then some (empty, rest)
      else read handles fuel (.node true true) rest
    let (value, rest) ←
      blockValue (read handles fuel (.node true true)) rest
    let (entries, rest) ← read handles fuel .blockEntries rest
    return ((name, value) :: entries, rest)
  | _ + 1, .blockEntries, _ => none
  | _ + 1, .flowItems _, .flowSequenceEnd :: rest => some ([], rest)
  | fuel + 1, .flowItems isFirst, tokens => do
    let tokens ←
      if isFirst then some tokens
      else
        match tokens with
        | .flowEntry :: rest => some rest
        | _ => none
    match tokens with
    | .flowSequenceEnd :: rest => return ([], rest)
    | .key :: rest => do
      let (name, rest) ←
        if endsFlowSequencePart rest then some (empty, rest.drop 1)
        else read handles fuel (.node false false) rest
      let (value, rest) ←
        match rest with
        | .value :: rest =>
          match rest with
          | .flowEntry :: _ | .flowSequenceEnd :: _ => some (empty, rest)
          | _ => read handles fuel (.node false false) rest
        | _ => some (empty, rest)
      let (items, rest) ← read handles fuel (.flowItems false) rest
      return (.mapping none none [(name, value)] :: items, rest)
    | _ => do
      let (item, rest) ← read handles fuel (.node false false) tokens
      let (items, rest) ← read handles fuel (.flowItems false) rest
      return (item :: items, rest)
  | _ + 1, .flowEntries _, .flowMappingEnd :: rest => some ([], rest)
  | fuel + 1, .flowEntries isFirst, tokens => do
    let tokens ←
      if isFirst then some tokens
      else
        match tokens with
        | .flowEntry :: rest => some rest
        | _ => none
    match tokens with
    | .flowMappingEnd :: rest => return ([], rest)
    | .key :: rest => do
      let (name, rest) ←
        if endsFlowMappingPart rest then some (empty, rest)
        else read handles fuel (.node false false) rest
      let (value, rest) ←
        match rest with
        | .value :: rest =>
          match rest with
          | .flowEntry :: _ | .flowMappingEnd :: _ => some (empty, rest)
          | _ => read handles fuel (.node false false) rest
        | _ => some (empty, rest)
      let (entries, rest) ← read handles fuel (.flowEntries false) rest
      return ((name, value) :: entries, rest)
    | _ => do
      let (name, rest) ← read handles fuel (.node false false) tokens
      let (entries, rest) ← read handles fuel (.flowEntries false) rest
      return ((name, empty) :: entries, rest)

/-- Read the directives before a document: the version may be given once and
each handle once. -/
def directives? (versionGiven : Bool) (handles : Handles) :
    List Token → Option (Handles × List Token)
  | .version major minor :: rest =>
    if versionGiven || major != 1 || (minor != 1 && minor != 2) then none
    else directives? true handles rest
  | .tagDirective handle start :: rest =>
    if (handles.lookup handle).isSome then none
    else directives? versionGiven (handles ++ [(handle, start)]) rest
  | rest => some (handles, rest)

/-- The handles of a document: those it declares, and of the standard ones
those it does not. -/
def withStandard (declared : Handles) : Handles :=
  declared ++ standardHandles

def endsDocument : List Token → Bool
  | [] | .version .. :: _ | .tagDirective .. :: _ | .documentStart :: _
  | .documentEnd :: _ => true
  | _ => false

def root? (handles : Handles) (tokens : List Token) :
    Option (Node String × List Token) :=
  read handles (4 * tokens.length + 4) (.node true false) tokens

/-- The lexemes after the mark that may end a document. -/
def afterEndMark : List Token → List Token
  | .documentEnd :: rest => rest
  | rest => rest

def moreDocuments? : Nat → List Token → Option (List (Node String))
  | 0, _ => none
  | fuel + 1, tokens =>
    match tokens.dropWhile (· == .documentEnd) with
    | [] => some []
    | tokens => do
      let (declared, rest) ← directives? false [] tokens
      match rest with
      | .documentStart :: rest =>
        let (root, rest) ←
          if endsDocument rest then some (empty, rest)
          else root? (withStandard declared) rest
        let others ← moreDocuments? fuel (afterEndMark rest)
        return root :: others
      | _ => none

/-- Read the documents of a text; the first one may lack a start mark. -/
def documents? (tokens : List Token) : Option (List (Node String)) :=
  match tokens with
  | [] => some []
  | .version .. :: _ | .tagDirective .. :: _ | .documentStart :: _ =>
    moreDocuments? (tokens.length + 1) tokens
  | _ => do
    let (root, rest) ← root? standardHandles tokens
    let others ← moreDocuments? (rest.length + 1) (afterEndMark rest)
    return root :: others

end Node

end Runbook.Yaml
