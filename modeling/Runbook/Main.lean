import Runbook.CommandLine.Basic
import Std.Time.DateTime.Timestamp

/-!
# The program

Carries out the command line on the machine at hand.  The program has no
network: no server can be reached from it.
-/

namespace Runbook.Console

def refusal : IO.Error → SystemError
  | .noFileOrDirectory .. => .notFound
  | .alreadyExists .. => .alreadyExists
  | .inappropriateType _ 20 _ => .notAFolder
  | .inappropriateType _ 21 _ => .isAFolder
  | .invalidArgument _ 36 _ => .nameTooLong
  | error => .other (toString error)

def attempt {α : Type} (action : IO α) : IO (Except SystemError α) := do
  match ← action.toBaseIO with
  | .ok value => return .ok value
  | .error error => return .error (refusal error)

/-- Refuse names that hold the character with the number zero. -/
def attemptAt {α : Type} (path : String) (action : IO α) :
    IO (Except SystemError α) :=
  if path.toList.contains '\x00' then return .error .invalidName
  else attempt action

def fileStatus (metadata : IO.FS.Metadata) : FileStatus :=
  ⟨metadata.byteSize.toNat, some (Instant.ofNanoseconds
    (1000000000 * metadata.modified.sec + metadata.modified.nsec.toNat))⟩

def inspect (path : String) : IO PathStatus := do
  let metadata ← (System.mkFilePath [path]).metadata
  match metadata.type with
  | .dir => return .folder
  | _ => return .file (fileStatus metadata)

/-- Everything below a folder. -/
partial def tree (path : String) : IO FolderTree := do
  match ← attemptAt path (System.mkFilePath [path]).readDir with
  | .error error => return .unreadable error
  | .ok entries =>
    let below ← entries.toList.mapM fun entry => do
      let name := entry.fileName
      let inner := Path.join path name
      match ← attempt (inspect inner) with
      | .ok (.file status) => return (name, FolderTree.file status)
      | .ok .folder => return (name, ← tree inner)
      | .error error => return (name, FolderTree.unreadable error)
    return .folder below

def makeFolders (path : String) : IO Unit :=
  if path.isEmpty then return () else IO.FS.createDirAll path

def save (path : String) (content : Bytes) : IO Unit :=
  IO.FS.writeBinFile path ⟨content.toArray⟩

def copy (source target : String) : IO (Except SystemError Unit) := do
  match ← attemptAt source (inspect source) with
  | .error error => return .error error
  | .ok .folder => return .error .notAFile
  | .ok (.file _) =>
    attemptAt target do
      IO.FS.writeBinFile target (← IO.FS.readBinFile source)

/-- The bytes of a line, last byte first, and whether a line feed ends it. -/
partial def lineBytes (input : IO.FS.Stream) (reversed : Bytes) :
    IO (Bytes × Bool) := do
  let read ← input.read 1
  match read.data.toList with
  | [] => return (reversed, false)
  | 10 :: _ => return (reversed, true)
  | byte :: _ => lineBytes input (byte :: reversed)

/-- Read a line, unless the input is at its end or the line is not text. -/
def readLine : IO (Option String) := do
  match ← lineBytes (← IO.getStdin) [] with
  | ([], false) => return none
  | (13 :: reversed, true) => return Text.ofBytes? reversed.reverse
  | (reversed, _) => return Text.ofBytes? reversed.reverse

def hexOfByte (byte : UInt8) : List Char :=
  [Json.hexDigit (byte.toNat / 16), Json.hexDigit (byte.toNat % 16)]

def newId : IO String := do
  let bytes ← IO.getRandomBytes 16
  return String.ofList (bytes.data.toList.flatMap hexOfByte)

def now : IO Instant := do
  let time ← Std.Time.Timestamp.now
  return Instant.ofNanoseconds time.toNanosecondsSinceUnixEpoch.val

def write (stream : IO.FS.Stream) (text : String) : IO Unit := do
  stream.putStr text
  stream.flush

def answer : (question : Host.Question) → IO (Host.Reply question)
  | .load path =>
    attemptAt path do return (← IO.FS.readBinFile path).data.toList
  | .inspect path => attemptAt path (inspect path)
  | .tree path => tree path
  | .save path content => attemptAt path (save path content)
  | .copy source target => copy source target
  | .makeFolders path => attemptAt path (makeFolders path)
  | .currentFolder => attempt do return (← IO.currentDir).toString
  | .environment name => IO.getEnv name
  | .output text => do write (← IO.getStdout) text
  | .show text => do write (← IO.getStderr) text
  | .line => readLine
  | .send _ => return none
  | .now => now
  | .sleep nanoseconds => IO.sleep (UInt32.ofNat (nanoseconds / 1000000))
  | .newId => newId
  | .observe _ => return ()

end Runbook.Console

def main (arguments : List String) : IO UInt32 := do
  let exit ← (Runbook.CommandLine.execute arguments).runWith
    Runbook.Console.answer
  return UInt32.ofNat exit
