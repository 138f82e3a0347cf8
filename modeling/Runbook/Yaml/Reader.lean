import Runbook.Yaml.Node
import Runbook.Yaml.Value

/-!
# Reading YAML values

A text holds at most one document; a text without any is null.  Anchors are
numbered as they occur, and an alias stands for the last node that has the
number of its anchor.  Collections may be nested 128 deep, and aliases may be
followed only so often as the size of the document allows, so that a value
stays finite.
-/

namespace Runbook.Yaml

/-- The numbers that anchors have so far. -/
abbrev AnchorNumbers := List (String × Nat)

namespace AnchorNumbers

/-- Give an anchor the next number; a repeated name takes the number of how
many names there are. -/
def assign (numbers : AnchorNumbers) (name : String) : AnchorNumbers :=
  if (numbers.lookup name).isSome then
    numbers.map fun pair =>
      if pair.1 = name then (name, numbers.length) else pair
  else numbers ++ [(name, numbers.length)]

def label (numbers : AnchorNumbers) :
    Option String → Option Nat × AnchorNumbers
  | none => (none, numbers)
  | some name => (some numbers.length, numbers.assign name)

end AnchorNumbers

namespace Node

mutual

/-- Replace the names of anchors and aliases by numbers, in the order of the
text; none if an alias has no anchor before it. -/
def number? (numbers : AnchorNumbers) :
    Node String → Option (Node Nat × AnchorNumbers)
  | .alias name =>
    (numbers.lookup name).map fun found => (.alias found, numbers)
  | .scalar anchor tag text isPlain =>
    let (anchor, numbers) := numbers.label anchor
    some (.scalar anchor tag text isPlain, numbers)
  | .sequence anchor tag items => do
    let (anchor, numbers) := numbers.label anchor
    let (items, numbers) ← numberItems? numbers items
    return (.sequence anchor tag items, numbers)
  | .mapping anchor tag entries => do
    let (anchor, numbers) := numbers.label anchor
    let (entries, numbers) ← numberEntries? numbers entries
    return (.mapping anchor tag entries, numbers)

def numberItems? (numbers : AnchorNumbers) :
    List (Node String) → Option (List (Node Nat) × AnchorNumbers)
  | [] => some ([], numbers)
  | item :: rest => do
    let (item, numbers) ← number? numbers item
    let (rest, numbers) ← numberItems? numbers rest
    return (item :: rest, numbers)

def numberEntries? (numbers : AnchorNumbers) :
    List (Node String × Node String) →
      Option (List (Node Nat × Node Nat) × AnchorNumbers)
  | [] => some ([], numbers)
  | (key, value) :: rest => do
    let (key, numbers) ← number? numbers key
    let (value, numbers) ← number? numbers value
    let (rest, numbers) ← numberEntries? numbers rest
    return ((key, value) :: rest, numbers)

end

mutual

/-- The nodes with an anchor, in the order of the text, put before others. -/
def anchored (others : List (Nat × Node Nat)) :
    Node Nat → List (Nat × Node Nat)
  | .alias _ => others
  | .scalar anchor tag text isPlain =>
    match anchor with
    | some number => (number, .scalar anchor tag text isPlain) :: others
    | none => others
  | .sequence anchor tag items =>
    let inner := anchoredItems others items
    match anchor with
    | some number => (number, .sequence anchor tag items) :: inner
    | none => inner
  | .mapping anchor tag entries =>
    let inner := anchoredEntries others entries
    match anchor with
    | some number => (number, .mapping anchor tag entries) :: inner
    | none => inner

def anchoredItems (others : List (Nat × Node Nat)) :
    List (Node Nat) → List (Nat × Node Nat)
  | [] => others
  | item :: rest => anchored (anchoredItems others rest) item

def anchoredEntries (others : List (Nat × Node Nat)) :
    List (Node Nat × Node Nat) → List (Nat × Node Nat)
  | [] => others
  | (key, value) :: rest =>
    anchored (anchored (anchoredEntries others rest) value) key

end

mutual

/-- The number of events in which a tree is written. -/
def eventCount : Node Nat → Nat
  | .alias _ => 1
  | .scalar .. => 1
  | .sequence _ _ items => itemsCount items + 2
  | .mapping _ _ entries => entriesCount entries + 2

def itemsCount : List (Node Nat) → Nat
  | [] => 0
  | item :: rest => eventCount item + itemsCount rest

def entriesCount : List (Node Nat × Node Nat) → Nat
  | [] => 0
  | (key, value) :: rest =>
    eventCount key + eventCount value + entriesCount rest

end

/-- What aliases stand for, and how often they may be followed. -/
structure Aliases where
  /-- The nodes with an anchor, the last one of the text first. -/
  targets : List (Nat × Node Nat)
  limit : Nat

def localTag? : Option String → Option String
  | some tag =>
    match tag.toList with
    | '!' :: name => some (String.ofList name)
    | _ => none
  | none => none

def scalarValue? (tag : Option String) (text : String) (isPlain : Bool) :
    Option Yaml :=
  match tag with
  | some tag => ofTagged? tag text
  | none => if isPlain then ofPlain? text else some (.string text)

/-- A value under a local tag, which may not be empty. -/
def withTag? (tag : Option String) (value : Yaml) : Option Yaml :=
  match localTag? tag with
  | some "" => none
  | some name => some (.tagged name value)
  | none => some value

def hasKey (key : Yaml) (entries : List (Yaml × Yaml)) : Bool :=
  entries.any fun entry => same key entry.1

/-- The values of entries; none if a key occurs twice. -/
def distinctEntries? (entries : List (Yaml × Yaml)) :
    Option (List (Yaml × Yaml)) :=
  entries.foldlM
    (fun before entry =>
      if hasKey entry.1 before then none else some (before ++ [entry]))
    []

/-- Count one more alias; none beyond the limit. -/
def countAlias (aliases : Aliases) : StateT Nat Option Unit := do
  let count ← get
  if aliases.limit ≤ count then failure else set (count + 1)

/-- The value of a node, or of the node that an alias stands for. -/
def valueOrTarget (aliases : Aliases)
    (value : Node Nat → StateT Nat Option Yaml) (node : Node Nat) :
    StateT Nat Option Yaml := do
  match node with
  | .alias number =>
    countAlias aliases
    match aliases.targets.lookup number with
    | some target => value target
    | none => failure
  | node => value node

/-- The value of a node that is no alias, when so many more collections may be
open. -/
def valueOf (aliases : Aliases) : Nat → Node Nat → StateT Nat Option Yaml
  | _, .alias _ => failure
  | _, .scalar _ tag text isPlain => do
    match localTag? tag with
    | some _ =>
      let value ← (scalarValue? none text isPlain : Option Yaml)
      (withTag? tag value : Option Yaml)
    | none => (scalarValue? tag text isPlain : Option Yaml)
  | 0, _ => failure
  | depth + 1, .sequence _ tag items => do
    let values ← items.mapM (valueOrTarget aliases (valueOf aliases depth))
    (withTag? tag (.sequence values) : Option Yaml)
  | depth + 1, .mapping _ tag entries => do
    let pairs ← entries.mapM fun entry => do
      let key ← valueOrTarget aliases (valueOf aliases depth) entry.1
      let value ← valueOrTarget aliases (valueOf aliases depth) entry.2
      return (key, value)
    let pairs ← (distinctEntries? pairs : Option (List (Yaml × Yaml)))
    (withTag? tag (.mapping pairs) : Option Yaml)

def maxDepth : Nat := 128

def toValue? (root : Node String) : Option Yaml := do
  let (numbered, _) ← number? [] root
  let aliases : Aliases :=
    ⟨(anchored [] numbered).reverse, 100 * eventCount numbered⟩
  let (value, _) ← (valueOf aliases maxDepth numbered).run 0
  return value

end Node

def read? (text : String) : Option Yaml := do
  let tokens ← Token.scan? text
  match ← Node.documents? tokens with
  | [] => return .null
  | [root] => Node.toValue? root
  | _ => none

end Runbook.Yaml
