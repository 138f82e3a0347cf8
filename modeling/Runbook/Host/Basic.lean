import Runbook.Program
import Runbook.Run.Moment
import Runbook.Text.Utf8

/-!
# The host

What the program needs of the machine that it runs on: files and folders, the
environment, a terminal, the network, the time.  Whatever uses the machine is a
program that asks these questions.
-/

namespace Runbook

/-- Why the machine refuses something. -/
inductive SystemError
  | notFound
  | alreadyExists
  | notAFolder
  | isAFolder
  | nameTooLong
  /-- A name holds the character with the number zero. -/
  | invalidName
  /-- A file does not hold text. -/
  | notText
  /-- What is to be copied is not a file. -/
  | notAFile
  | other (message : String)
deriving DecidableEq, Inhabited

def SystemError.message : SystemError → String
  | .notFound => "No such file or directory (os error 2)"
  | .alreadyExists => "File exists (os error 17)"
  | .notAFolder => "Not a directory (os error 20)"
  | .isAFolder => "Is a directory (os error 21)"
  | .nameTooLong => "File name too long (os error 36)"
  | .invalidName => "file name contained an unexpected NUL byte"
  | .notText => "stream did not contain valid UTF-8"
  | .notAFile =>
    "the source path is neither a regular file nor a symlink to a regular file"
  | .other message => message

/-- What is known of a file besides its content. -/
structure FileStatus where
  size : Nat
  modified : Option Instant
deriving DecidableEq, Inhabited

/-- What a path leads to. -/
inductive PathStatus
  | file (status : FileStatus)
  | folder
deriving DecidableEq, Inhabited

/-- A file or a folder, with what is below it. -/
inductive FolderTree
  | file (status : FileStatus)
  | folder (entries : List (String × FolderTree))
  /-- The folder cannot be looked into. -/
  | unreadable (error : SystemError)
deriving Inhabited

/-- A request as it is sent over the network. -/
structure Message where
  method : String
  /-- Where the request is sent to. -/
  url : String
  /-- The path and the query of the address. -/
  target : String
  /-- The headers, their names in small letters. -/
  headers : List (String × String)
  body : String
deriving DecidableEq, Inhabited

/-- The reply to a message. -/
structure MessageReply where
  status : Nat
  headers : List (String × String)
  body : String
deriving DecidableEq, Inhabited

namespace Host

/-- What the program asks of the machine. -/
inductive Question
  | load (path : String)
  | inspect (path : String)
  | tree (path : String)
  /-- Replace the content of a file, or create it. -/
  | save (path : String) (content : Bytes)
  | copy (source target : String)
  /-- Create a folder, and the folders that hold it. -/
  | makeFolders (path : String)
  /-- The folder that relative paths start from. -/
  | currentFolder
  /-- The value of an environment variable. -/
  | environment (name : String)
  | output (text : String)
  | show (text : String)
  /-- A line that is typed; nothing at the end, and nothing for a line that is
  not text. -/
  | line
  /-- Send a message; nothing comes back if the server cannot be reached. -/
  | send (message : Message)
  | now
  | sleep (nanoseconds : Nat)
  /-- An id that has not been given before. -/
  | newId
  /-- Take notice of an event of a run. -/
  | observe (event : RunEvent)

/-- The replies of the machine. -/
abbrev Reply : Question → Type
  | .load _ => Except SystemError Bytes
  | .inspect _ => Except SystemError PathStatus
  | .tree _ => FolderTree
  | .save .. => Except SystemError Unit
  | .copy .. => Except SystemError Unit
  | .makeFolders _ => Except SystemError Unit
  | .currentFolder => Except SystemError String
  | .environment _ => Option String
  | .output _ => Unit
  | .show _ => Unit
  | .line => Option String
  | .send _ => Option MessageReply
  | .now => Instant
  | .sleep _ => Unit
  | .newId => String
  | .observe _ => Unit

end Host

/-- A computation that uses the machine. -/
abbrev Hosted (α : Type) := Program Host.Question Host.Reply α

namespace Hosted

def ask (question : Host.Question) : Hosted (Host.Reply question) :=
  Program.query question

def showLine (text : String) : Hosted Unit :=
  ask (.show (text ++ "\n"))

def loadText (path : String) : Hosted (Except SystemError String) := do
  match ← ask (.load path) with
  | .error error => return .error error
  | .ok bytes =>
    match Text.ofBytes? bytes with
    | some text => return .ok text
    | none => return .error .notText

end Hosted

end Runbook
