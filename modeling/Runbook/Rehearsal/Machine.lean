import Runbook.Rehearsal.Disk

/-!
# Rehearsed machines

A machine whose disk, environment, input and network are given, and which
records what a program writes, sends and publishes.  Its clock goes on by a
microsecond whenever it is read and whenever a file is written, so that no two
readings are the same.
-/

namespace Runbook.Rehearsal

/-- The network of a machine. -/
inductive Network
  | offline
  /-- Messages are answered in turn; the connection may break instead.  Past
  the end every reply is an empty success. -/
  | replying (replies : List (Option MessageReply))
deriving DecidableEq, Inhabited

/-- A machine for rehearsals. -/
structure Machine where
  disk : Disk
  /-- The folder that relative paths start from. -/
  folder : String
  environment : OrderedMap String
  /-- What is typed and has not been read. -/
  typed : Bytes
  network : Network
  /-- The nanoseconds since the first instant of 1970. -/
  clock : Nat
  /-- How many ids have been given. -/
  idCount : Nat
  /-- What has been written to the output. -/
  output : String
  /-- What has been written to the terminal. -/
  shown : String
  /-- The messages that have been sent, the last one first. -/
  sentReversed : List Message
  /-- The events that have been observed, the last one first. -/
  eventsReversed : List RunEvent
deriving Inhabited

namespace Machine

def new (disk : Disk) (folder : String) (environment : OrderedMap String)
    (typed : Bytes) (network : Network) (clock : Nat) : Machine :=
  ⟨disk, folder, environment, typed, network, clock, 0, "", "", [], []⟩

/-- The messages that have been sent, the first one first. -/
def sent (machine : Machine) : List Message :=
  machine.sentReversed.reverse

/-- The log lines that have been observed, the first one first. -/
def logs (machine : Machine) : List LogLine :=
  machine.eventsReversed.reverse.filterMap RunEvent.line?

def time (machine : Machine) : Instant :=
  Instant.ofNanoseconds machine.clock

def pass (machine : Machine) (nanoseconds : Nat) : Machine :=
  { machine with clock := machine.clock + nanoseconds }

/-- The nanoseconds that go by when the clock is read or a file is written. -/
def tick : Nat := 1000

/-- Cut the first line off bytes.  A line ends at a line feed, and a carriage
return before it is not part of it. -/
def takeLine (bytes : Bytes) : Bytes × Bytes :=
  let line := bytes.takeWhile fun byte => byte != 10
  match bytes.dropWhile fun byte => byte != 10 with
  | [] => (line, [])
  | _ :: rest =>
    match line.reverse with
    | 13 :: before => (before.reverse, rest)
    | _ => (line, rest)

/-- The next line that is typed, if it is text. -/
def readLine (machine : Machine) : Option String × Machine :=
  if machine.typed.isEmpty then (none, machine)
  else
    let (line, rest) := takeLine machine.typed
    (Text.ofBytes? line, { machine with typed := rest })

def send (machine : Machine) (message : Message) :
    Option MessageReply × Machine :=
  match machine.network with
  | .offline => (none, machine)
  | .replying replies =>
    let reply := replies.headD (some ⟨200, [], ""⟩)
    (reply, { machine with
      network := .replying replies.tail
      sentReversed := message :: machine.sentReversed })

/-- Put a disk in the place of the present one, unless that is refused. -/
def changeDisk (machine : Machine) (change : Except SystemError Disk) :
    Except SystemError Unit × Machine :=
  match change with
  | .ok disk => (.ok (), { machine with disk }.pass tick)
  | .error error => (.error error, machine)

def answer (machine : Machine) :
    (question : Host.Question) → Host.Reply question × Machine
  | .load path => (machine.disk.load machine.folder path, machine)
  | .inspect path => (machine.disk.inspect machine.folder path, machine)
  | .tree path => (machine.disk.treeAt machine.folder path, machine)
  | .save path content =>
    machine.changeDisk
      (machine.disk.save machine.folder path content machine.time)
  | .copy source target =>
    machine.changeDisk
      (machine.disk.copy machine.folder source target machine.time)
  | .makeFolders path =>
    let (disk, result) := machine.disk.makeFolders machine.folder path
    (result, { machine with disk })
  | .currentFolder => (.ok machine.folder, machine)
  | .environment name => (machine.environment.get? name, machine)
  | .output text => ((), { machine with output := machine.output ++ text })
  | .show text => ((), { machine with shown := machine.shown ++ text })
  | .line => machine.readLine
  | .send message => machine.send message
  | .now => (machine.time, machine.pass tick)
  | .sleep nanoseconds => ((), machine.pass nanoseconds)
  | .newId =>
    (s!"id-{machine.idCount + 1}",
      { machine with idCount := machine.idCount + 1 })
  | .observe event =>
    ((), { machine with eventsReversed := event :: machine.eventsReversed })

def run {α : Type} (machine : Machine) :
    Program Host.Question Host.Reply α → α × Machine
  | .done value => (value, machine)
  | .ask question next =>
    let (reply, machine) := machine.answer question
    machine.run (next reply)

end Machine

end Runbook.Rehearsal
