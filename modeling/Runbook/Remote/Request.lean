import Runbook.Host.Basic
import Runbook.Json.Value
import Runbook.Text.Case
import Runbook.Text.Search

/-!
# Requests over HTTP

A request is put together from a method, an address, headers and a body.  A
header can be added beside those of the same name or put in their place.  What
is sent has a header that says what is accepted and one that names the client,
and its address and headers are well-formed.
-/

namespace Runbook

/-- A request that is being put together. -/
structure RequestDraft where
  method : String
  url : String
  headers : List (String × String)
  body : String
deriving DecidableEq, Inhabited

namespace RequestDraft

def clientName : String := "stepline"

def clientVersion : String := "0.1.0"

/-- A character that names of methods and headers may hold. -/
def isNameChar (character : Char) : Bool :=
  character.isAlphanum || "!#$%&\x27*+-.^_\x60|~".toList.contains character

/-- Whether a text can be the name of a method or a header. -/
def isName (text : String) : Bool :=
  !text.isEmpty && text.toList.all isNameChar

/-- Whether a text can be the value of a header. -/
def isHeaderValue (text : String) : Bool :=
  text.toList.all fun character =>
    character == '\t' || (character ≥ ' ' && character != '\x7f')

def new (method url : String) : RequestDraft := ⟨method, url, [], ""⟩

def isNamed (name : String) (header : String × String) : Bool :=
  Text.toLowerAscii header.1 == Text.toLowerAscii name

def hasHeader (draft : RequestDraft) (name : String) : Bool :=
  draft.headers.any (isNamed name)

def addHeader (draft : RequestDraft) (name value : String) : RequestDraft :=
  { draft with headers := draft.headers ++ [(name, value)] }

def addHeaders (draft : RequestDraft) (headers : OrderedMap String) :
    RequestDraft :=
  { draft with headers := draft.headers ++ headers.entries }

/-- Add a header unless there is one with its name. -/
def addMissing (draft : RequestDraft) (name value : String) : RequestDraft :=
  if draft.hasHeader name then draft else draft.addHeader name value

/-- Put a header in the place of those with its name. -/
def putHeader (draft : RequestDraft) (name value : String) : RequestDraft :=
  let others := draft.headers.filter fun header => !isNamed name header
  { draft with headers := others ++ [(name, value)] }

def withBody (draft : RequestDraft) (body : String) : RequestDraft :=
  { draft with body }

def withJson (draft : RequestDraft) (body : Json) : RequestDraft :=
  (draft.addMissing "content-type" "application/json").withBody body.render

/-- The path and the query of an address, if it is one that can be sent to. -/
def target? (url : String) : Option String :=
  let afterScheme :=
    match Text.afterStart? "http://".toList url.toList with
    | some rest => some rest
    | none => Text.afterStart? "https://".toList url.toList
  afterScheme.map fun rest =>
    let path := (rest.dropWhile fun character =>
      !"/?#".toList.contains character).takeWhile fun character =>
        character != '#'
    match path with
    | '/' :: _ => String.ofList path
    | _ => String.ofList ('/' :: path)

/-- What is sent; nothing if the address or a header is not well-formed. -/
def message? (draft : RequestDraft) : Option Message :=
  let full := (draft.addMissing "accept" "*/*").addMissing "user-agent"
    (clientName ++ "/" ++ clientVersion)
  let areValid := full.headers.all fun header =>
    isName header.1 && isHeaderValue header.2
  if areValid then
    (target? draft.url).map fun target =>
      ⟨draft.method, draft.url, target, full.headers.map fun header =>
        (Text.toLowerAscii header.1, header.2), draft.body⟩
  else none

end RequestDraft

end Runbook
