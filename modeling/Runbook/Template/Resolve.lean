import Runbook.Template.Reference

/-!
# Resolving templates

A template is plain text with tokens in double braces.  A token that is a
reference is replaced by the text the reference stands for, or by nothing if
there is none; any other token and a token that is never closed stay as they
are.  Replaced text is not looked at again.
-/

namespace Runbook.Template

/-- A part of a template. -/
inductive Part
  | plain (character : Char)
  | token (body : List Char)
  /-- What follows double braces that are never closed. -/
  | unclosed (rest : List Char)
deriving DecidableEq

mutual

def scan : List Char → List Part
  | '{' :: '{' :: rest => scanToken [] rest
  | character :: rest => .plain character :: scan rest
  | [] => []

/-- The parts of a template, inside of a token whose characters so far are
given last one first. -/
def scanToken (body : List Char) : List Char → List Part
  | '}' :: '}' :: rest => .token body.reverse :: scan rest
  | character :: rest => scanToken (character :: body) rest
  | [] => [.unclosed body.reverse]

end

/-- The text of a reference in the result, empty if it stands for nothing. -/
def Reference.replacement (bindings : Variables) (reference : Reference) :
    List Char :=
  let text := ((reference.lookup? bindings).getD "").toList
  if reference.jsonEscape then Json.escape text else text

def Part.resolve (bindings : Variables) : Part → List Char
  | .plain character => [character]
  | .token body =>
    match Reference.read? (String.ofList body) with
    | some reference => reference.replacement bindings
    | none => '{' :: '{' :: body ++ ['}', '}']
  | .unclosed rest => '{' :: '{' :: rest

def resolveChars (bindings : Variables) (text : List Char) : List Char :=
  (scan text).flatMap (Part.resolve bindings)

def resolve (bindings : Variables) (text : String) : String :=
  String.ofList (resolveChars bindings text.toList)

def resolveAll (bindings : Variables) (templates : OrderedMap String) :
    OrderedMap String :=
  templates.mapValues (resolve bindings)

end Runbook.Template
