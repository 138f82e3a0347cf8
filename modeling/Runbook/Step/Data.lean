import Runbook.Step.Basic
import Runbook.Text.Fence
import Runbook.Wire.Record

/-!
# Models, requests and data

The nodes that ask a language model, send a request, read JSON, call a tool or
bring an index up to date.
-/

namespace Runbook

namespace Step

def tools : Step (List Json) := do
  match ← json? "tools" with
  | none | some .null => return []
  | some (.array tools) => return tools
  | some _ => fail "property 'tools' must be a JSON array"

/-- The attachment that a variable with this text stands for: the one that it
describes, or the text itself. -/
def attachmentOf (name text : String) : Attachment :=
  (Wire.read? Attachment.decode text).getD ⟨name, "text/plain", text⟩

def attachment (name : String) : Step Attachment := do
  match ← valueOf? name with
  | some text => return attachmentOf name text
  | none => fail s!"attachment variable '{name}' is not defined"

def askModel : Step Directive := do
  let tools ← tools
  let attachments ← (← items "attachments").mapM attachment
  let prompt ← required "prompt"
  let model ← property? "model"
  let systemPrompt ← property? "systemPrompt"
  let response ← callWithin "model request failed"
    (.generate ⟨prompt, model, systemPrompt, tools, attachments⟩)
  save "saveTo" response.text
  return .proceed

def contentType : Option String → String
  | none | some "json" => "application/json"
  | some "form" => "application/x-www-form-urlencoded"
  | some "text" => "text/plain"
  | some other => other

/-- The headers of a request with a content type, if there is a body and none
is given yet. -/
def withContentType (body typeName : Option String)
    (headers : OrderedMap String) : OrderedMap String :=
  if body.isSome && !headers.keys.any fun name =>
      Text.toLowerAscii name == "content-type" then
    headers.insert "Content-Type" (contentType typeName)
  else headers

/-- At most two hundred characters of a text, with a mark where it is cut. -/
def excerpt (text : String) : String :=
  if text.toList.length ≤ 200 then text
  else String.ofList (text.toList.take 200) ++ "..."

def httpRequest : Step HttpRequest := do
  let url ← requiredTrimmed "url"
  let method := Text.toUpperAscii ((← trimmedProperty? "method").getD "GET")
  let headers ← textMap "headers" (← json? "headers")
  let body ← property? "body"
  let typeName ← trimmedProperty? "contentType"
  return ⟨method, url, withContentType body typeName headers, body⟩

def sendRequest : Step Directive := do
  let request ← httpRequest
  let name := request.method ++ " " ++ request.url
  let response ← callWithin (name ++ " failed") (.httpRequest request)
  if response.isError && (← flag "throwOnError") then
    fail <| name ++ s!" returned status {response.status}: " ++
      excerpt response.body
  setNamed "saveStatus" (toString response.status)
  save "saveTo" response.body
  return .proceed

/-- Read the JSON that a variable holds, perhaps in a fenced block, and save
its compact text. -/
def readJson : Step Directive := do
  let source ← requiredTrimmed "source"
  match ← valueOf? source with
  | none => fail s!"source variable '{source}' is not defined"
  | some text =>
    match Json.read? (Text.unfence text) with
    | none => fail s!"variable '{source}' does not contain valid JSON"
    | some value =>
      save "saveTo" value.render
      return .proceed

/-- The texts among the items of a tool's content, if it has any. -/
def contentText? (result : Json) : Option String := do
  let items ← (← result.get? "content").array?
  let texts := (items.filter fun item =>
    (item.get? "type").bind Json.string? == some "text").filterMap fun item =>
      (item.get? "text").bind Json.string?
  if texts.isEmpty then none else return "\n".intercalate texts

def callTool : Step Directive := do
  let url ← requiredTrimmed "url"
  let tool ← requiredTrimmed "tool"
  let arguments := (← json? "args").getD (.object [])
  let headers ← textMap "headers" (← json? "headers")
  let result ← callWithin s!"MCP tool '{tool}' failed"
    (.callTool ⟨url, tool, arguments, headers⟩)
  match contentText? result with
  | some text => save "saveTo" text
  | none => saveJson "saveTo" result
  return .proceed

def syncIndex : Step Directive := do
  let path ← requiredTrimmed "path"
  let setting ← property? "ragSetting"
  let result ← callWithin s!"retrieval sync of '{path}' failed"
    (.syncIndex ⟨path, setting⟩)
  saveJson "saveTo" result
  return .proceed

end Step

namespace Handler

def command : Handler := ⟨Step.askModel, refuse⟩

def http : Handler := ⟨Step.sendRequest, refuse⟩

def json : Handler := ⟨Step.readJson, refuse⟩

def mcp : Handler := ⟨Step.callTool, refuse⟩

def ragSync : Handler := ⟨Step.syncIndex, refuse⟩

end Handler

end Runbook
