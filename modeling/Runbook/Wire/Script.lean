import Runbook.Rehearsal.Machine
import Runbook.Rehearsal.Stub
import Runbook.Wire.Service

/-!
# Scripts in JSON

How the script of a rehearsal is read: files, replies, settings, the kinds of
calls that fail or take time by their names, and the network of a machine.
What is missing or does not make sense is left out.
-/

namespace Runbook

def ServiceSettings.ofJson (object : Json) : ServiceSettings :=
  ⟨object.flagAt "editHistory", object.flagAt "encryption"⟩

/-- A scripted reply over HTTP; a success by default. -/
def HttpResponse.ofJson (object : Json) : HttpResponse :=
  ⟨(object.naturalAt? "status").getD 200, object.pairsAt "headers",
    object.textAt "body"⟩

/-- A scripted reply to a message; an empty success by default. -/
def MessageReply.ofJson (object : Json) : MessageReply :=
  ⟨(object.naturalAt? "status").getD 200,
    (object.itemsAt "headers").map Json.pair, object.textAt "body"⟩

namespace Rehearsal

/-- The network of a machine.  Without replies there is none; a reply that is
null is a connection that breaks. -/
def Network.ofJson (object : Json) : Network :=
  match object.field? "replies", object.flagAt "offline" with
  | some (.array replies), false =>
    .replying (replies.map fun reply =>
      match reply with
      | .null => none
      | reply => some (MessageReply.ofJson reply))
  | _, _ => .offline

def ScriptedFile.ofJson (position : Nat) (object : Json) : ScriptedFile :=
  let file := Shelf.fileAt position (object.textAt "path")
    (object.textAt "content") (object.textAt? "mimeType")
  { file with
    password := object.textAt? "password"
    info := { file.info with
      size := object.naturalAt? "size"
      modifiedAt := (object.textAt? "modifiedAt").bind Instant.read? } }

def ScriptedFile.allOfJson (object : Json) : List ScriptedFile :=
  (object.itemsAt "files").mapIdx ScriptedFile.ofJson

namespace Script

/-- What an object holds under the names of kinds of calls. -/
def byKind {α : Type} (decode : Json → Option α)
    (members : List (String × Json)) : List (ServiceKind × α) :=
  members.filterMap fun member => do
    return (← ServiceKind.ofText? member.1, ← decode member.2)

def ofJson (object : Json) : Script :=
  ⟨object.textsAt "folders", object.textMembersAt "sources",
    object.textsAt "model", (object.itemsAt "http").map HttpResponse.ofJson,
    object.itemsAt "mcp", object.itemsAt "rag",
    .ofJson ((object.field? "settings").getD .null),
    byKind Json.string? (object.membersAt "fail"),
    byKind Json.natural? (object.membersAt "delay"), object.flagAt "bare"⟩

end Script

/-- A stub from its name, which may have an argument after a colon. -/
def Stub.ofText (text : String) : Stub :=
  let (name, argument) :=
    match Text.cutFirst? ':' text.toList with
    | some (name, argument) => (String.ofList name, argument)
    | none => (text, [])
  let number := (Reading.natural? argument).getD 0
  match name with
  | "terminate" => .terminate
  | "end" => .jump .finish
  | "past-end" => .jump .pastEnd
  | "node" => .jump (.node number)
  | "fail" => .fail (String.ofList argument)
  | "ask" => .ask number
  | "park" => .park
  | _ => .proceed

end Rehearsal

end Runbook
