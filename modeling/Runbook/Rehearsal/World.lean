import Runbook.Prompt.Broker
import Runbook.Rehearsal.Services
import Runbook.Run.Moment

/-!
# The world of a rehearsal

A rehearsal runs a workflow against scripted services, on a clock that stands
still while the run computes and jumps to the next event while it waits.  The
run is aborted on a cue: at a time, or when something happens for the n-th
time.  What is aborted while it waits is interrupted at once.
-/

namespace Runbook.Rehearsal

/-- What a cue can count. -/
inductive CueKind
  | log
  | status
  | prompt
  | service
deriving DecidableEq, Inhabited

/-- Who answers prompts. -/
inductive Audience
  /-- Answers are given in turn.  Past the end there is no answer ever, or
  prompts are declined. -/
  | scripted (answers : List (Option String)) (staysSilent : Bool)
  /-- Requests are published, and somebody answers them at some time. -/
  | broker (broker : Broker)
deriving Inhabited

/-- What a run waits for. -/
inductive Awaited
  | time (due : Nat)
  /-- The answer that a ticket of the broker stands for. -/
  | answer (ticket : Nat)
  | never
deriving DecidableEq, Inhabited

/-- The world of a rehearsal. -/
structure World where
  script : Script
  shelf : Shelf
  audience : Audience
  /-- Whether somebody observes what the run publishes. -/
  isObserved : Bool
  /-- What is counted, and how many times it happens before the run is
  aborted. -/
  cue : Option (CueKind × Nat)
  alarm : Option Nat
  clock : Nat
  isAborted : Bool
  /-- What the run waits for, if it does. -/
  awaited : Option Awaited
  /-- How many ids have been given. -/
  idCount : Nat
  /-- The recorded calls, the last one first. -/
  callsReversed : List ServiceCall
  /-- The observed events, the last one first. -/
  eventsReversed : List RunEvent
deriving Inhabited

namespace World

def new (script : Script) (files : List ScriptedFile) (audience : Audience) :
    World :=
  ⟨script, Shelf.ofFiles files, audience, true, none, none, 0, false, none, 0,
    [], []⟩

def calls (world : World) : List ServiceCall :=
  world.callsReversed.reverse

def events (world : World) : List RunEvent :=
  world.eventsReversed.reverse

def logs (world : World) : List LogLine :=
  world.events.filterMap RunEvent.line?

def statuses (world : World) : List RunStatus :=
  world.events.filterMap RunEvent.status?

def prompts (world : World) : List PromptRequest :=
  world.events.filterMap RunEvent.request?

def broker (world : World) : Broker :=
  match world.audience with
  | .broker broker => broker
  | .scripted .. => Broker.empty

/-- Let the broker of the prompts be in another state. -/
def withBroker (world : World) (broker : Broker) : World :=
  { world with audience := .broker broker }

def passTo (world : World) (time : Nat) : World :=
  { world with clock := max world.clock time }

def abort (world : World) : World :=
  { world with isAborted := true }

def count (world : World) (kind : CueKind) : World :=
  match world.cue with
  | some (counted, times) =>
    if counted = kind then
      match times with
      | 0 => { world with cue := none }.abort
      | times + 1 => { world with cue := some (counted, times) }
    else world
  | none => world

def eventKind : RunEvent → CueKind
  | .log _ => .log
  | .status _ => .status
  | .prompt _ => .prompt

def observe (world : World) (event : RunEvent) : World :=
  if world.isObserved then
    { world with eventsReversed := event :: world.eventsReversed }.count
      (eventKind event)
  else world

/-- Record a call, unless the services do not know it. -/
def record (world : World) (call : ServiceCall) : World :=
  if world.script.isAbsent call then world
  else
    { world with callsReversed := call :: world.callsReversed }.count .service

def respond (world : World) (call : ServiceCall) :
    World × Except Failure call.Result :=
  let (result, shelf) := world.script.respond world.shelf call
  ({ world with shelf }, result)

def delay (world : World) (call : ServiceCall) : Nat :=
  if world.script.isAbsent call then 0
  else (world.script.delays.lookup call.kind).getD 0

def wholeMilliseconds (nanoseconds : Nat) : Nat :=
  (nanoseconds + 999999) / 1000000

/-- How a wait ends. -/
inductive Rest
  | over
  | interrupted
  | unfinished
deriving DecidableEq

/-- Wait until the alarm, unless it is set for a later time than `limit`. -/
def restUntilAlarm (limit : Nat) (world : World) : World × Rest :=
  match world.alarm with
  | some time =>
    let clock := max world.clock time
    if clock ≤ limit then
      ({ world with clock, alarm := none, awaited := none }.abort,
        .interrupted)
    else (world, .unfinished)
  | none => (world, .unfinished)

def restUntil (limit due : Nat) (world : World) : World × Rest :=
  if world.isAborted then ({ world with awaited := none }, .interrupted)
  else if world.alarm.any (fun time => time ≤ due) || limit < due then
    world.restUntilAlarm limit
  else
    ({ world with clock := max world.clock due, awaited := none }, .over)

def restForEver (limit : Nat) (world : World) : World × Rest :=
  if world.isAborted then ({ world with awaited := none }, .interrupted)
  else world.restUntilAlarm limit

/-- Wait for something that takes so many milliseconds; nothing is waited for
that takes no time. -/
def restFor (limit milliseconds : Nat) (world : World) : World × Rest :=
  match world.awaited with
  | some (.time due) => world.restUntil limit due
  | _ =>
    if milliseconds = 0 then (world, .over)
    else
      let due := world.clock + milliseconds
      { world with awaited := some (.time due) }.restUntil limit due

def answerCall (limit : Nat) (world : World) (call : ServiceCall) :
    World × Option (Option (Except Failure call.Result)) :=
  let world := if world.awaited.isSome then world else world.record call
  match world.restFor limit (world.delay call) with
  | (world, .over) =>
    let (world, result) := world.respond call
    (world, some (some result))
  | (world, .interrupted) => (world, some none)
  | (world, .unfinished) => (world, none)

def answerSleep (limit : Nat) (world : World) (nanoseconds : Nat) :
    World × Option (Option Unit) :=
  match world.restFor limit (wholeMilliseconds nanoseconds) with
  | (world, .over) => (world, some (some ()))
  | (world, .interrupted) => (world, some none)
  | (world, .unfinished) => (world, none)

def awaitNever (limit : Nat) (world : World) :
    World × Option (Option (Option String)) :=
  match { world with awaited := some .never }.restForEver limit with
  | (world, .unfinished) => (world, none)
  | (world, _) => (world, some none)

/-- Wait for the answer that a ticket of the broker stands for. -/
def awaitTicket (limit : Nat) (world : World) (broker : Broker)
    (request : PromptRequest) (ticket : Nat) :
    World × Option (Option (Option String)) :=
  let left := Audience.broker (broker.leave request.id ticket)
  match world.isAborted, broker.answer? ticket with
  | false, some answer =>
    ({ world with awaited := none, audience := left }, some (some answer))
  | _, _ =>
    match world.restForEver limit with
    | (world, .unfinished) => (world, none)
    | (world, _) => ({ world with audience := left }, some none)

def answerPrompt (limit : Nat) (world : World) (request : PromptRequest) :
    World × Option (Option (Option String)) :=
  match world.audience with
  | .scripted (answer :: answers) staysSilent =>
    ({ world with audience := .scripted answers staysSilent },
      some (some answer))
  | .scripted [] false => (world, some (some none))
  | .scripted [] true => world.awaitNever limit
  | .broker broker =>
    match world.awaited with
    | some (.answer ticket) => world.awaitTicket limit broker request ticket
    | _ =>
      let (ticket, broker) := broker.ask request
      { world with
        audience := .broker broker
        awaited := some (.answer ticket) }.awaitTicket limit broker request
          ticket

/-- Answer a question of a run, unless that takes longer than until `limit`.
-/
def answer (limit : Nat) (world : World) :
    (question : Run.Question) → World × Option (Run.Reply question)
  | .isAborted => (world, some world.isAborted)
  | .now =>
    (world, some (Instant.ofNanoseconds (1000000 * (world.clock : Int))))
  | .newId =>
    ({ world with idCount := world.idCount + 1 },
      some s!"prompt-{world.idCount + 1}")
  | .publish event => (world.observe event, some ())
  | .call call => world.answerCall limit call
  | .sleep nanoseconds => world.answerSleep limit nanoseconds
  | .answer request => world.answerPrompt limit request

end World

/-- A computation that is being rehearsed, and its world. -/
structure Stage (α : Type) where
  program : Program Run.Moment Run.Moment.Reply α
  world : World

/-- Go on until the computation ends or waits for longer than until `limit`.
The clock then shows the time of the last event. -/
def advance {α : Type} (limit : Nat) (world : World) :
    Program Run.Moment Run.Moment.Reply α → Stage α
  | .done value => ⟨.done value, world⟩
  | .ask moment next =>
    match world.answer limit moment.question with
    | (world, some reply) => advance limit world (next reply)
    | (world, none) => ⟨.ask moment next, world⟩

namespace Stage

variable {α : Type}

def advanceTo (stage : Stage α) (limit : Nat) : Stage α :=
  advance limit stage.world stage.program

def result? (stage : Stage α) : Option α :=
  match stage.program with
  | .done value => some value
  | .ask .. => none

def modifyWorld (stage : Stage α) (change : World → World) : Stage α :=
  { stage with world := change stage.world }

end Stage

end Runbook.Rehearsal
