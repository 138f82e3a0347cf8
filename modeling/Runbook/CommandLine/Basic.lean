import Runbook.CommandLine.Arguments
import Runbook.Run.Local
import Runbook.Wire.Record
import Runbook.Wire.Workflow
import Runbook.Workflow.File

/-!
# The command line

A command runs a workflow and prints its last variables, or validates a
workflow and prints its order and its edges.  What fails is reported with its
causes.
-/

namespace Runbook

/-- The lines of a text, each after an indentation; the first one after another
one. -/
def Failure.indented (first other text : String) : String :=
  match Text.splitAt '\n' text with
  | [] => first
  | line :: rest =>
    "\n".intercalate ((first ++ line) :: rest.map (other ++ ·))

def Failure.numbered (number : Nat) (cause : String) : String :=
  let digits := toString number
  let padding := String.ofList (List.replicate (5 - digits.length) ' ')
  Failure.indented (padding ++ digits ++ ": ") "       " cause

def Failure.report (failure : Failure) : String :=
  let causes :=
    match failure.causes with
    | [] => ""
    | [cause] => "\n\nCaused by:\n" ++ Failure.indented "    " "    " cause
    | causes =>
      "\n\nCaused by:\n" ++ "\n".intercalate (causes.mapIdx Failure.numbered)
  "Error: " ++ failure.outermost ++ causes ++ "\n"

def RunError.failure (error : RunError) : Failure :=
  ⟨error.message, error.causes⟩

namespace CommandLine

/-- A computation of a command. -/
abbrev Commanded (α : Type) :=
  ExceptT Failure (Program Host.Question Host.Reply) α

def ask (question : Host.Question) : Commanded (Host.Reply question) :=
  ExceptT.lift (Hosted.ask question)

def loadWorkflow (file : String) (name : Option String) :
    Commanded Workflow := do
  match ← ExceptT.lift (Workflow.readFrom file name) with
  | .ok workflow => return workflow
  | .error error => throw error.failure

def modelEndpoint : Commanded (Option ModelEndpoint) := do
  let url := (← ask (.environment "STEPLINE_MODEL_URL")).filter fun url =>
    !Text.isBlankText url
  let apiKey := (← ask (.environment "STEPLINE_MODEL_API_KEY")).filter
    fun key => !key.isEmpty
  let model := (← ask (.environment "STEPLINE_MODEL")).getD "gpt-4o-mini"
  return url.map fun url => ⟨url, apiKey, model⟩

/-- The root of the store: the one that is given, or the one that the
environment names, or the current folder. -/
def storeRoot (given : Option String) : Commanded String := do
  let named := (← ask (.environment "STEPLINE_ROOT")).filter fun root =>
    !root.isEmpty
  match given, named with
  | some root, _ => return root
  | none, some root => return root
  | none, none =>
    match ← ask .currentFolder with
    | .ok folder => return folder
    | .error error =>
      throw ((Failure.of error.message).within "resolve current directory")

def renderVariables (bindings : Variables) : String :=
  (Json.object (bindings.entries.map fun entry =>
    (entry.1, .string entry.2))).renderIndented

def writeHistory (record : HistoryRecord) (path : String) :
    Commanded Unit := do
  let content := Text.toBytes record.toJson.renderIndented
  match ← ask (.save path content) with
  | .ok () => return ()
  | .error error =>
    throw ((Failure.of error.message).within ("write history to " ++ path))

def conclude (outcome : RunOutcome) : Commanded Unit :=
  match outcome.status, outcome.error with
  | .completed, _ => return ()
  | .cancelled, _ => throw (.of "run cancelled")
  | _, some error => throw error.failure
  | status, none => throw (.of ("run ended in state " ++ status.text))

def run (arguments : RunArguments) : Commanded Unit := do
  let workflow ← loadWorkflow arguments.file arguments.name
  let endpoint ← modelEndpoint
  let root ← storeRoot arguments.root
  let folder := (Path.parent? arguments.file).getD ""
  let setup : LocalRun :=
    ⟨⟨⟨root⟩, endpoint, folder, arguments.keepsHistory⟩,
      arguments.isAccepting, { logValues := arguments.logsValues }⟩
  match ← ExceptT.lift (setup.execute workflow arguments.file
      (OrderedMap.ofList arguments.bindings)) with
  | none => throw (.of "the workflow takes too many steps")
  | some outcome =>
    ask (.output (renderVariables outcome.bindings ++ "\n"))
    if let some path := arguments.historyOut then
      writeHistory outcome.history path
    conclude outcome

/-- The name, the order and the edges of a workflow. -/
def summary (workflow : Workflow) : Json :=
  Json.sortedObject [("name", .string workflow.name),
    ("order", Wire.texts workflow.order),
    ("edges", .array (workflow.edges.map Workflow.Edge.toJson))]

def validate (file : String) (name : Option String) : Commanded Unit := do
  let workflow ← loadWorkflow file name
  ask (.output ((summary workflow).renderIndented ++ "\n"))

def versionText : String :=
  RequestDraft.clientName ++ " " ++ RequestDraft.clientVersion ++ "\n"

def usageText : String :=
  "Run YAML workflows from the terminal\n\n" ++
    "Usage: stepline run <FILE> [--name <NAME>] [--var <KEY=VALUE>]... " ++
    "[--root <ROOT>] [--history-out <HISTORY_OUT>] [--yes] " ++
    "[--log-values] [--keep-history]\n" ++
    "       stepline validate <FILE> [--name <NAME>]\n"

def perform : Command → Commanded Unit
  | .run arguments => run arguments
  | .validate file name => validate file name
  | .version => ask (.output versionText)
  | .help => ask (.output usageText)

/-- Do what the arguments ask for.  Gives the exit code: zero for success, one
for a failure, and two for arguments that do not make sense. -/
def execute (arguments : List String) : Hosted Nat := do
  match Command.ofArguments? arguments with
  | none =>
    Hosted.ask (.show usageText)
    return 2
  | some command =>
    match ← (perform command).run with
    | .ok () => return 0
    | .error failure =>
      Hosted.ask (.show failure.report)
      return 1

end CommandLine

end Runbook
