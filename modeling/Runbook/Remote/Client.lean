import Runbook.Json.Reader
import Runbook.Remote.EventStream
import Runbook.Remote.Request

/-!
# The network client

Plain requests, calls of tools on a server that speaks JSON-RPC, and questions
to a language model behind an address.
-/

namespace Runbook

/-- Where a language model is asked. -/
structure ModelEndpoint where
  url : String
  apiKey : Option String
  /-- The model that is asked by default. -/
  model : String
deriving DecidableEq, Inhabited

namespace Remote

/-- A computation that uses the network. -/
abbrev Connected (α : Type) :=
  ExceptT Failure (Program Host.Question Host.Reply) α

def fail {α : Type} (message : String) : Connected α :=
  throw (Failure.of message)

def within {α : Type} (context : String) (connected : Connected α) :
    Connected α :=
  tryCatch connected fun failure => throw (failure.within context)

def exchange (draft : RequestDraft) : Connected MessageReply := do
  match draft.message? with
  | none => fail "Network error: builder error"
  | some message =>
    match ← ExceptT.lift (Hosted.ask (.send message)) with
    | some reply => return reply
    | none =>
      fail s!"Network error: error sending request for url ({draft.url})"

def header? (reply : MessageReply) (name : String) : Option String :=
  (reply.headers.find? (RequestDraft.isNamed name)).map Prod.snd

def isReadable (value : String) : Bool :=
  value.toList.all fun character =>
    character == '\t' || (' ' ≤ character && character < '\x7f')

/-- The value of a header, if it can be read as text. -/
def readableHeader? (reply : MessageReply) (name : String) : Option String :=
  (header? reply name).filter isReadable

/-- The headers of a reply that can be read; of several with a name the last
one counts. -/
def headerMap (reply : MessageReply) : OrderedMap String :=
  OrderedMap.ofList ((reply.headers.filter fun header =>
    isReadable header.2).map fun header =>
      (Text.toLowerAscii header.1, header.2))

def isSuccess (status : Nat) : Bool :=
  decide (200 ≤ status ∧ status < 300)

def send (request : HttpRequest) : Connected HttpResponse := do
  let method := Text.toUpper (Text.trim request.method)
  if !RequestDraft.isName method then
    fail s!"invalid HTTP method '{request.method}'"
  let draft := ((RequestDraft.new method request.url).addHeaders
    request.headers).withBody (request.body.getD "")
  let reply ← exchange draft
  return ⟨reply.status, headerMap reply, reply.body⟩

/-! Tools. -/

/-- The version of the protocol by which tools are called. -/
def toolProtocol : String := "2025-03-26"

def sessionHeader : String := "mcp-session-id"

def rpcRequest (id : Nat) (method : String) (parameters : Json) : Json :=
  Json.sortedObject [("jsonrpc", .string "2.0"), ("id", Json.ofInt id),
    ("method", .string method), ("params", parameters)]

def beginning : Json :=
  rpcRequest 1 "initialize" (Json.sortedObject [
    ("protocolVersion", .string toolProtocol), ("capabilities", .object []),
    ("clientInfo", Json.sortedObject [
      ("name", .string RequestDraft.clientName),
      ("version", .string RequestDraft.clientVersion)])])

def begun : Json :=
  Json.sortedObject [("jsonrpc", .string "2.0"),
    ("method", .string "notifications/initialized")]

def toolRequest (call : ToolCall) : Json :=
  rpcRequest 2 "tools/call" (Json.sortedObject [("name", .string call.tool),
    ("arguments", call.arguments)])

/-- A message to the server of a tool, perhaps in a session. -/
def toolDraft (call : ToolCall) (session : Option String) (message : Json) :
    RequestDraft :=
  let draft := ((RequestDraft.new "POST" call.url).addHeaders
    call.headers).addHeader "accept" "application/json, text/event-stream"
  let inSession :=
    match session with
    | some session => draft.putHeader sessionHeader session
    | none => draft
  inSession.withJson message

def jsonFailure (text : String) : Failure :=
  .of (if Text.isBlankText text then
    "EOF while parsing a value at line 1 column 0"
  else "expected value at line 1 column 1")

def parse (text : String) : Connected Json :=
  match Json.read? text with
  | some value => return value
  | none => throw (jsonFailure text)

/-- The JSON value in the last event of a stream. -/
def parseLastEvent (stream : String) : Connected Json := do
  match EventStream.lastPayload? stream with
  | none => fail "event stream carried no data"
  | some payload => within "event payload is not JSON" (parse payload)

def parseReply (reply : MessageReply) : Connected Json :=
  let isStream := (readableHeader? reply "content-type").any fun value =>
    Text.startsWith value "text/event-stream"
  if isStream then parseLastEvent reply.body else parse reply.body

/-- Ask the server of a tool.  Gives the session and the result. -/
def rpc (call : ToolCall) (session : Option String) (message : Json) :
    Connected (Option String × Json) := do
  let reply ← exchange (toolDraft call session message)
  if !isSuccess reply.status then
    fail s!"HTTP {reply.status}: {reply.body}"
  let envelope ← parseReply reply
  if let some error := envelope.get? "error" then
    fail ("JSON-RPC error: " ++ error.render)
  let next :=
    match readableHeader? reply sessionHeader with
    | some session => some session
    | none => session
  return (next, (envelope.get? "result").getD .null)

def callTool (call : ToolCall) : Connected Json := do
  let (session, _) ← within "MCP initialize failed" (rpc call none beginning)
  let _ ← exchange (toolDraft call session begun)
  let (_, result) ← within s!"MCP tool '{call.tool}' failed"
    (rpc call session (toolRequest call))
  if ((result.get? "isError").bind Json.bool?).getD false then
    let content := (result.get? "content").getD .null
    fail ("tool reported an error: " ++ content.render)
  return result

/-! Models. -/

def textPart (text : String) : Json :=
  Json.sortedObject [("type", .string "text"), ("text", .string text)]

/-- An attachment as a part of a question: an image by its data, and anything
else as a text after its name. -/
def attachmentPart (attachment : Attachment) : Json :=
  if Text.startsWith attachment.mimeType "image/" then
    let url := s!"data:{attachment.mimeType};base64,{attachment.data}"
    Json.sortedObject [("type", .string "image_url"),
      ("image_url", .object [("url", .string url)])]
  else textPart (attachment.name ++ ":\n" ++ attachment.data)

def roleMessage (role : String) (content : Json) : Json :=
  Json.sortedObject [("role", .string role), ("content", content)]

def questionBody (model : String) (request : ModelRequest) : Json :=
  let instructions := request.systemPrompt.toList.map fun prompt =>
    roleMessage "system" (.string prompt)
  let question := roleMessage "user" (.array
    (textPart request.prompt :: request.attachments.map attachmentPart))
  let tools :=
    if request.tools.isEmpty then [] else [("tools", .array request.tools)]
  Json.sortedObject ([("model", .string model),
    ("messages", .array (instructions ++ [question]))] ++ tools)

def step? (name : String) (position : Nat) (value : Json) : Option Json :=
  match value with
  | .array _ => value.item? position
  | _ => value.get? name

/-- The text of the first choice in the answer of a model. -/
def answerText (payload : Json) : String :=
  ((do
    let choices ← payload.get? "choices"
    let choice ← step? "0" 0 choices
    let message ← choice.get? "message"
    let content ← message.get? "content"
    content.string?) : Option String).getD ""

def generate (endpoint : Option ModelEndpoint) (request : ModelRequest) :
    Connected ModelResponse := do
  match endpoint with
  | none => fail "no AI model is configured; set STEPLINE_MODEL_URL"
  | some endpoint =>
    let model := request.model.getD endpoint.model
    let draft := (RequestDraft.new "POST" endpoint.url).withJson
      (questionBody model request)
    let draft :=
      match endpoint.apiKey with
      | some key => draft.addHeader "authorization" ("Bearer " ++ key)
      | none => draft
    let reply ← exchange draft
    if !isSuccess reply.status then
      fail s!"model endpoint returned HTTP {reply.status}: {reply.body}"
    let payload ← within "model response is not JSON" (parse reply.body)
    let answering := ((payload.get? "model").bind Json.string?).getD model
    return ⟨answerText payload, some answering⟩

end Remote

end Runbook
