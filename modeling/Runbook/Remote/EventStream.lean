import Runbook.Json.Reader
import Runbook.Text.Blank
import Runbook.Text.Search

/-!
# Event streams

A stream of events in lines.  The lines of an event that begin with `data:`
make up its payload, joined by line feeds, and a blank line ends the event.  An
event whose payload is empty does not count, and other lines are skipped.
-/

namespace Runbook.EventStream

/-- The payload of an event after one more line of data.  The first line that
is not empty begins the payload. -/
def extend (payload chunk : List Char) : List Char :=
  if payload.isEmpty then chunk else payload ++ '\n' :: chunk

/-- The payloads of the events in lines, the first one first, after what has
been read of the payload of an event. -/
def payloadsFrom (payload : List Char) : List (List Char) → List (List Char)
  | [] => if payload.isEmpty then [] else [payload]
  | line :: rest =>
    match Text.afterStart? "data:".toList line with
    | some chunk => payloadsFrom (extend payload (Text.trimLeft chunk)) rest
    | none =>
      if line.all Text.isBlank && !payload.isEmpty then
        payload :: payloadsFrom [] rest
      else payloadsFrom payload rest

/-- The payloads of the events of a stream, the first one first. -/
def payloads (stream : String) : List (List Char) :=
  payloadsFrom [] (Text.lineList stream.toList)

def lastPayload? (stream : String) : Option String :=
  (payloads stream).getLast?.map String.ofList

end Runbook.EventStream
