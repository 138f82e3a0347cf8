import Runbook.Number.Reading
import Runbook.Text.Case
import Runbook.Text.Search
import Runbook.Text.Word

/-!
# Log levels

A filter of log messages is a list of directives.  A directive names a level,
or a target, or a span between brackets, or a level for one of these.  One that
is malformed does not count.  The level of a filter is the most verbose one
that it lets through.
-/

namespace Runbook

/-- How verbose a log is, the least verbose first. -/
inductive LogLevel
  | off
  | error
  | warn
  | info
  | debug
  | trace
deriving DecidableEq, Inhabited

namespace LogLevel

def all : List LogLevel := [.off, .error, .warn, .info, .debug, .trace]

def text : LogLevel → String
  | .off => "off"
  | .error => "error"
  | .warn => "warn"
  | .info => "info"
  | .debug => "debug"
  | .trace => "trace"

def number (level : LogLevel) : Nat :=
  all.idxOf level

def max (left right : LogLevel) : LogLevel :=
  if left.number < right.number then right else left

def ofText? (text : List Char) : Option LogLevel :=
  let byNumber := (Reading.natural? text).bind fun number => all[number]?
  let name := text.map Char.toLower
  byNumber.orElse fun _ => all.find? fun level => level.text.toList = name

/-- The level after an equals sign; every level if there is none. -/
def afterEquals? (text : List Char) : Option LogLevel :=
  if text.isEmpty then some .trace else ofText? text

def afterSpan? : List Char → Option LogLevel
  | [] => some .trace
  | '=' :: level => afterEquals? level
  | _ => none

/-- The level of a directive after the bracket that opens its span.  A span
whose fields are compared with values lets every level through. -/
def ofSpan? (text : List Char) : Option LogLevel :=
  match text.dropWhile fun character => character != ']' && character != '\x7b'
  with
  | ']' :: rest => afterSpan? rest
  | _ :: rest =>
    let fields := rest.takeWhile fun character => character != '\x7d'
    match rest.dropWhile fun character => character != '\x7d' with
    | '\x7d' :: ']' :: rest =>
      if fields.isEmpty then none
      else if fields.contains '=' then (afterSpan? rest).map fun _ => .trace
      else afterSpan? rest
    | _ => none
  | [] => none

def opensTarget (character : Char) : Bool :=
  character == '-' || character == ':' || Text.isWord character

def ofDirective? (directive : List Char) : Option LogLevel :=
  match Text.trimBoth directive with
  | [] => none
  | '[' :: rest => ofSpan? rest
  | first :: rest =>
    if opensTarget first then
      match rest.dropWhile fun character => character != '=' && character != '['
      with
      | '=' :: level => afterEquals? level
      | _ :: span => ofSpan? span
      | [] => some ((ofText? (first :: rest)).getD .trace)
    else none

/-- The level of a filter without a directive that counts. -/
def fallback : LogLevel := .error

/-- The level of a filter; a filter that is blank or missing has the level
`info`. -/
def ofFilter (filter : Option String) : LogLevel :=
  match filter.filter fun text => !Text.isBlankText text with
  | none => .info
  | some text =>
    match (Text.pieces ',' text.toList).filterMap ofDirective? with
    | [] => fallback
    | level :: rest => rest.foldl max level

end LogLevel

end Runbook
