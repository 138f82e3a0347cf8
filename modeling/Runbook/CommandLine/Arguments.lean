import Runbook.Text.Blank
import Runbook.Text.Search

/-!
# Arguments of the command line

The first argument names a command.  Among those that follow, one that begins
with two dashes names an option, whose value follows an equals sign or is the
next argument; two dashes alone end the options.  An option may be given once,
except where it may repeat.
-/

namespace Runbook

/-- Why an argument that should define a variable does not. -/
inductive VariableError
  | noEquals (argument : String)
  | noName (argument : String)
deriving DecidableEq

def VariableError.message : VariableError → String
  | .noEquals argument => s!"expected KEY=VALUE, got '{argument}'"
  | .noName argument => s!"missing variable name in '{argument}'"

/-- Read the name and the value of a variable around the first equals sign. -/
def readVariable (argument : String) : Except VariableError (String × String) :=
  match Text.cutFirst? '=' argument.toList with
  | none => .error (.noEquals argument)
  | some (name, value) =>
    match Text.trimBoth name with
    | [] => .error (.noName argument)
    | name => .ok (String.ofList name, String.ofList value)

/-- What an option takes. -/
inductive OptionKind
  | flag
  | value
  | repeated
deriving DecidableEq, Inhabited

/-- What has been read of the arguments of a command. -/
structure GivenArguments where
  positional : List String
  /-- The options with their values, in order; a flag has the empty one. -/
  options : List (String × String)
deriving DecidableEq, Inhabited

/-- What the arguments of a command amount to. -/
inductive Given
  /-- The command is to be explained. -/
  | help
  | arguments (arguments : GivenArguments)
deriving DecidableEq, Inhabited

namespace GivenArguments

def none : GivenArguments := ⟨[], []⟩

def value? (given : GivenArguments) (name : String) : Option String :=
  given.options.lookup name

def hasFlag (given : GivenArguments) (name : String) : Bool :=
  (given.value? name).isSome

def values (given : GivenArguments) (name : String) : List String :=
  given.options.filterMap fun option =>
    if option.1 = name then some option.2 else Option.none

/-- Add an argument that is no option; there is room for one. -/
def addPositional? (given : GivenArguments) (argument : String) :
    Option GivenArguments :=
  if given.positional.isEmpty then
    some { given with positional := [argument] }
  else Option.none

def addOption? (given : GivenArguments) (name value : String)
    (mayRepeat : Bool) : Option GivenArguments :=
  if given.hasFlag name && !mayRepeat then Option.none
  else some { given with options := given.options ++ [(name, value)] }

end GivenArguments

namespace CommandLine

def isDashed (argument : String) : Bool :=
  Text.startsWith argument "-" && argument != "-"

/-- The name of an option without its dashes, and the value after an equals
sign. -/
def splitOption (argument : String) : String × Option String :=
  let text := argument.toList.drop 2
  match Text.cutFirst? '=' text with
  | some (name, value) => (String.ofList name, some (String.ofList value))
  | none => (String.ofList text, none)

def readPositional (given : GivenArguments) : List String → Option Given
  | [] => some (.arguments given)
  | argument :: rest => do
    readPositional (← given.addPositional? argument) rest

def readArguments (kinds : List (String × OptionKind))
    (given : GivenArguments) : List String → Option Given
  | [] => some (.arguments given)
  | "--" :: rest => readPositional given rest
  | argument :: rest =>
    if Text.startsWith argument "--" then
      let (name, attached) := splitOption argument
      if name = "help" ∧ attached.isNone then some .help
      else
        match kinds.lookup name, attached, rest with
        | some .flag, none, rest => do
          readArguments kinds (← given.addOption? name "" false) rest
        | some .flag, some _, _ => none
        | some kind, some value, rest => do
          readArguments kinds
            (← given.addOption? name value (kind = .repeated)) rest
        | some kind, none, value :: rest =>
          if isDashed value then none
          else do
            readArguments kinds
              (← given.addOption? name value (kind = .repeated)) rest
        | some _, none, [] => none
        | none, _, _ => none
    else if isDashed argument then
      if Text.startsWith argument "-h" then some .help else none
    else do
      readArguments kinds (← given.addPositional? argument) rest

end CommandLine

/-- The arguments of a run. -/
structure RunArguments where
  file : String
  name : Option String
  bindings : List (String × String)
  root : Option String
  /-- Where the record of the run is written to. -/
  historyOut : Option String
  isAccepting : Bool
  logsValues : Bool
  keepsHistory : Bool
deriving DecidableEq, Inhabited

/-- What the command line asks for. -/
inductive Command
  | run (arguments : RunArguments)
  | validate (file : String) (name : Option String)
  | version
  | help
deriving DecidableEq, Inhabited

namespace Command

def runOptions : List (String × OptionKind) :=
  [("name", .value), ("var", .repeated), ("root", .value),
    ("history-out", .value), ("yes", .flag), ("log-values", .flag),
    ("keep-history", .flag)]

def validateOptions : List (String × OptionKind) := [("name", .value)]

/-- The file that is given; its path is not empty. -/
def file? (given : GivenArguments) : Option String :=
  given.positional.head?.filter fun file => !file.isEmpty

/-- The path that an option gives, which must not be empty. -/
def path? (given : GivenArguments) (name : String) :
    Option (Option String) :=
  match given.value? name with
  | some "" => none
  | value => some value

def run? (given : GivenArguments) : Option Command := do
  let file ← file? given
  let bindings ← (given.values "var").mapM fun argument =>
    (readVariable argument).toOption
  let root ← path? given "root"
  let historyOut ← path? given "history-out"
  return .run ⟨file, given.value? "name", bindings, root, historyOut,
    given.hasFlag "yes", given.hasFlag "log-values",
    given.hasFlag "keep-history"⟩

def validate? (given : GivenArguments) : Option Command := do
  return .validate (← file? given) (given.value? "name")

def names : List String := ["run", "validate", "help"]

def ofGiven? (read : GivenArguments → Option Command) :
    Option Given → Option Command
  | some .help => some .help
  | some (.arguments given) => read given
  | none => none

def ofArguments? : List String → Option Command
  | "run" :: rest =>
    ofGiven? run? (CommandLine.readArguments runOptions .none rest)
  | "validate" :: rest =>
    ofGiven? validate? (CommandLine.readArguments validateOptions .none rest)
  | ["help"] | "--help" :: _ => some .help
  | ["help", topic] => if names.contains topic then some .help else none
  | "--version" :: _ => some .version
  | argument :: _ =>
    if Text.startsWith argument "-h" then some .help
    else if Text.startsWith argument "-V" then some .version
    else none
  | [] => none

end Command

end Runbook
