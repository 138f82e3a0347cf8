import Runbook.Host.Basic
import Runbook.Json.Fields
import Runbook.Rehearsal.Services
import Runbook.Wire.Record

/-!
# Service calls in JSON

How calls of services are written as JSON: the name of the kind of the call,
and its details.  The messages that calls send are written, too.
-/

namespace Runbook

namespace ServiceKind

def all : List ServiceKind :=
  [.getFile, .findFile, .searchFiles, .listFiles, .listFolders, .createFile,
    .updateFile, .loadWorkflow, .generate, .httpRequest, .callTool, .syncIndex]

def text : ServiceKind → String
  | .getFile => "read_file"
  | .findFile => "find_file_by_path"
  | .searchFiles => "search_files"
  | .listFiles => "list_files"
  | .listFolders => "list_folders"
  | .createFile => "create_file"
  | .updateFile => "update_file"
  | .loadWorkflow => "load_workflow_source"
  | .generate => "generate"
  | .httpRequest => "http_request"
  | .callTool => "mcp_call"
  | .syncIndex => "rag_sync"

def ofText? (name : String) : Option ServiceKind :=
  all.find? fun kind => kind.text == name

end ServiceKind

def Wire.numberOrNull : Option Nat → Json
  | some value => .ofInt value
  | none => .null

def FileSort.text : FileSort → String
  | .name => "name"
  | .modified => "modified"

namespace FileWrite

def members (write : FileWrite) : List (String × Json) :=
  [("path", .string write.path), ("content", .string write.content),
    ("mimeType", Wire.orNull write.mimeType),
    ("history", .bool write.recordHistory), ("encrypt", .bool write.encrypt)]

def toJson (write : FileWrite) : Json := .object write.members

end FileWrite

namespace ServiceCall

def members : ServiceCall → List (String × Json)
  | .getFile id password =>
    [("id", .string id), ("password", Wire.orNull password)]
  | .findFile path => [("path", .string path)]
  | .searchFiles query =>
    [("query", .string query.query), ("content", .bool query.searchContent),
      ("limit", Wire.numberOrNull query.limit)]
  | .listFiles listing =>
    [("folder", .string listing.folder),
      ("limit", Wire.numberOrNull listing.limit),
      ("sort", .string listing.sort.text)]
  | .listFolders folder => [("folder", .string folder)]
  | .createFile write => write.members
  | .updateFile id write => [("id", .string id), ("write", write.toJson)]
  | .loadWorkflow reference => [("reference", .string reference)]
  | .generate request =>
    [("prompt", .string request.prompt), ("model", Wire.orNull request.model),
      ("system", Wire.orNull request.systemPrompt),
      ("tools", .array request.tools),
      ("attachments", .array (request.attachments.map Attachment.toJson))]
  | .httpRequest request =>
    [("method", .string request.method), ("url", .string request.url),
      ("headers", .ofPairs request.headers.entries),
      ("body", Wire.orNull request.body)]
  | .callTool call =>
    [("url", .string call.url), ("tool", .string call.tool),
      ("arguments", call.arguments), ("headers", .ofPairs call.headers.entries)]
  | .syncIndex request =>
    [("path", .string request.path), ("setting", Wire.orNull request.setting)]

def toJson (call : ServiceCall) : Json :=
  .array [.string call.kind.text, .object call.members]

end ServiceCall

def Wire.sortedPairs (pairs : List (String × String)) : Json :=
  .ofPairs (pairs.mergeSort fun left right =>
    decide (left.1 < right.1 ∨ left.1 = right.1 ∧ left.2 ≤ right.2))

namespace Message

/-- The headers that belong to the transport of a message. -/
def transportHeaders : List String :=
  ["host", "connection", "accept-encoding", "content-length"]

/-- A message as it is recorded, with its headers in order and without those
that belong to its transport. -/
def toJson (message : Message) : Json :=
  .object [("method", .string message.method),
    ("target", .string message.target),
    ("headers", Wire.sortedPairs (message.headers.filter fun header =>
      !transportHeaders.contains header.1)),
    ("body", .string message.body)]

end Message

end Runbook
