import Runbook.Host.Basic
import Runbook.Number.Reading
import Runbook.Text.Case
import Runbook.Text.LineDiff
import Runbook.Wire.Record

/-!
# Prompts at the terminal

Prompts are shown at the terminal and answered by lines that are typed.  The
end of the input declines a prompt.  Prompts can also be accepted as they are:
then each takes its default and nothing is read.
-/

namespace Runbook.Terminal

def askLine (question : String) : Hosted (Option String) := do
  Hosted.ask (.show (question ++ " "))
  Hosted.ask .line

/-- Read lines up to a line that is a single point. -/
def readLines : Nat → List String → Hosted (Option (List String))
  | 0, lines => return some lines
  | limit + 1, lines => do
    match ← Hosted.ask .line with
    | some "." => return some lines
    | some line => readLines limit (lines ++ [line])
    | none => return if lines.isEmpty then none else some lines

def lineLimit : Nat := Nat.pow 2 32

def askLines (question : String) : Hosted (Option String) := do
  Hosted.showLine (question ++ " (finish with a line containing only '.')")
  return (← readLines lineLimit []).map fun lines => "\n".intercalate lines

def showTitle (nodeId title : String) : Hosted Unit :=
  Hosted.showLine s!"[{nodeId}] {title}"

def answerValue (isAccepting : Bool) (nodeId : String)
    (prompt : ValuePrompt) : Hosted (Option String) := do
  let fallback := prompt.defaultValue.getD ""
  if isAccepting then return some fallback
  showTitle nodeId prompt.title
  if prompt.multiline then askLines ">"
  else
    let question := if fallback.isEmpty then ">" else s!"[{fallback}] >"
    return (← askLine question).map fun line =>
      if line.isEmpty then fallback else line

/-- Show the numbered options of a dialog, from a number on. -/
def showOptions : Nat → List String → Hosted Unit
  | _, [] => return ()
  | number, option :: rest => do
    Hosted.showLine s!"  {number}) {option}"
    showOptions (number + 1) rest

def option? (options : List String) (number : String) : Option String :=
  match Reading.natural? (Text.trimBoth number.toList) with
  | some (position + 1) => options[position]?
  | _ => none

def pickOptions (options : List String) (line : String) (isMultiple : Bool) :
    List String :=
  let picked := (Text.splitAt ',' line).filterMap (option? options)
  if isMultiple then picked else picked.take 1

/-- Let options be selected; nothing if the dialog is declined. -/
def askSelected (prompt : DialogPrompt) : Hosted (Option (List String)) := do
  if prompt.options.isEmpty then return some prompt.defaultSelected
  showOptions 1 prompt.options
  return (← askLine "Select (numbers, comma separated):").map fun line =>
    if Text.isBlankText line then prompt.defaultSelected
    else pickOptions prompt.options line prompt.multiSelect

/-- Let a text be typed; nothing if the dialog is declined. -/
def askInput (prompt : DialogPrompt) : Hosted (Option String) := do
  let fallback := prompt.defaultInput.getD ""
  match prompt.inputTitle with
  | none => return some fallback
  | some title =>
    let answer ←
      if prompt.multiline then askLines title else askLine (title ++ ":")
    return answer.map fun line => if line.isEmpty then fallback else line

/-- Let a button be chosen; nothing if the dialog is declined. -/
def askButton (prompt : DialogPrompt) : Hosted (Option String) := do
  match prompt.button2 with
  | none => return some prompt.button1
  | some second =>
    let question :=
      s!"[{prompt.button1}/{second}] (Enter = {prompt.button1}):"
    return (← askLine question).map fun line =>
      let answer := Text.trim line
      if answer == "2" ||
          Text.toLowerAscii answer == Text.toLowerAscii second then second
      else prompt.button1

/-- Go through a dialog; nothing if it is declined. -/
def askDialog (prompt : DialogPrompt) : Hosted (Option DialogResult) := do
  match ← askSelected prompt with
  | none => return none
  | some selected =>
    match ← askInput prompt with
    | none => return none
    | some input =>
      return (← askButton prompt).map fun button => ⟨button, selected, input⟩

def answerDialog (isAccepting : Bool) (nodeId : String)
    (prompt : DialogPrompt) : Hosted (Option String) := do
  showTitle nodeId prompt.title
  if !prompt.message.isEmpty then Hosted.showLine prompt.message
  let result ←
    if isAccepting then
      pure (some ⟨prompt.button1, prompt.defaultSelected,
        prompt.defaultInput.getD ""⟩)
    else askDialog prompt
  return result.map fun result => result.toJson.render

/-- Answer a prompt for a file; it has no default. -/
def answerFile (isAccepting : Bool) (nodeId : String)
    (prompt : DriveFilePrompt) : Hosted (Option String) := do
  if isAccepting then return none
  let filter :=
    if prompt.extensions.isEmpty then ""
    else " (" ++ ", ".intercalate prompt.extensions ++ ")"
  showTitle nodeId (prompt.title ++ filter)
  return (← askLine "Path:").bind fun line =>
    let path := Text.trim line
    if path.isEmpty then none
    else some (DriveFileSelection.toJson ⟨path, path⟩).render

def showLines : List String → Hosted Unit
  | [] => return ()
  | line :: rest => do
    Hosted.showLine line
    showLines rest

def isYes (line : String) : Bool :=
  ["y", "yes"].contains (Text.toLowerAscii (Text.trim line))

def answerDiff (isAccepting : Bool) (prompt : DiffPrompt) :
    Hosted (Option String) := do
  Hosted.showLine ("--- " ++ prompt.path)
  showLines (Text.changedLines prompt.current prompt.proposed)
  if isAccepting then return some "true"
  return (← askLine "Apply changes? [y/N]").map fun line =>
    if isYes line then "true" else "false"

/-- Answer a prompt for a password; it has no default. -/
def answerPassword (isAccepting : Bool) (nodeId : String)
    (prompt : PasswordPrompt) : Hosted (Option String) := do
  if isAccepting then return none
  showTitle nodeId prompt.title
  return (← askLine s!"Password for {prompt.path}:").filter fun password =>
    !password.isEmpty

/-- Answer a request as a prompt of a kind.  A prompt of another kind is
declined. -/
def answerAs (isAccepting : Bool) (kind : PromptKind)
    (request : PromptRequest) : Hosted (Option String) :=
  match kind, request.prompt with
  | .value, .value prompt => answerValue isAccepting request.nodeId prompt
  | .dialog, .dialog prompt => answerDialog isAccepting request.nodeId prompt
  | .driveFile, .driveFile prompt =>
    answerFile isAccepting request.nodeId prompt
  | .diff, .diff prompt => answerDiff isAccepting prompt
  | .password, .password prompt =>
    answerPassword isAccepting request.nodeId prompt
  | _, _ => return none

def answer (isAccepting : Bool) (request : PromptRequest) :
    Hosted (Option String) :=
  answerAs isAccepting request.prompt.kind request

end Runbook.Terminal
