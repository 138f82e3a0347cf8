import Runbook.Rehearsal.World
import Runbook.Run.Engine

/-!
# Rehearsed runs

A run of a workflow in the world of a rehearsal, either from its start to its
end or as a session, in which somebody receives the prompts, answers them and
lets time pass between.
-/

namespace Runbook.Rehearsal

/-- The most steps in a row that a rehearsed workflow may take. -/
def stepLimit : Nat := 1000000

def timeLimit : Nat := 1000000000

/-- The end of a run, and the run. -/
abbrev Ended := Option RunOutcome × Run

def stage (engine : Engine) (workflow : Workflow) (reference : String)
    (bindings : Variables) (world : World) : Stage Ended :=
  ⟨(engine.execute stepLimit workflow bindings).run
    (Run.fresh "run-1" reference), world⟩

/-- The outcome, the run and the world at the end of a run.  There is none if
the run does not end. -/
def rehearse (engine : Engine) (workflow : Workflow) (reference : String)
    (bindings : Variables) (world : World) :
    Option (RunOutcome × Run × World) :=
  let last := (stage engine workflow reference bindings world).advanceTo
    timeLimit
  match last.result? with
  | some (some outcome, run) => some (outcome, run, last.world)
  | _ => none

/-- A run that is accompanied. -/
structure Session where
  stage : Stage Ended
  /-- The requests that have been received, the first one first. -/
  received : List PromptRequest
  /-- Whether the outcome has been waited for. -/
  hasWaited : Bool

/-- What comes of waiting for a request. -/
inductive Reception
  | request (request : PromptRequest)
  | timeout
  /-- Requests are not received any more. -/
  | closed
deriving DecidableEq, Inhabited

/-- What comes of waiting for the outcome. -/
inductive Conclusion
  | outcome (outcome : RunOutcome)
  | timeout
  /-- The outcome can be waited for once. -/
  | alreadyWaited
deriving Inhabited

namespace Session

def start (engine : Engine) (workflow : Workflow) (reference : String)
    (bindings : Variables) (script : Script) (files : List ScriptedFile) :
    Session :=
  ⟨Rehearsal.stage engine workflow reference bindings
    (World.new script files (.broker Broker.empty)), [], false⟩

def world (session : Session) : World := session.stage.world

def status (session : Session) : RunStatus :=
  session.world.statuses.getLast?.getD .pending

/-- Let the run go on until a time at the latest. -/
def advanceTo (session : Session) (limit : Nat) : Session :=
  { session with stage := session.stage.advanceTo limit }

def modifyWorld (session : Session) (change : World → World) : Session :=
  { session with stage := session.stage.modifyWorld change }

/-- Let so many milliseconds pass.  What is due at their very end has not
happened yet. -/
def advance (session : Session) (milliseconds : Nat) : Session :=
  match milliseconds with
  | 0 => session
  | before + 1 =>
    let clock := session.world.clock
    (session.advanceTo (clock + before)).modifyWorld fun world =>
      world.passTo (clock + milliseconds)

def receptionLimit : Nat := 1000000

def conclusionLimit : Nat := 10000000

def take? (session : Session) : Option (PromptRequest × Session) :=
  session.world.broker.receive?.map fun (request, broker) =>
    (request, { session.modifyWorld fun world => world.withBroker broker with
      received := session.received ++ [request] })

def receive (session : Session) : Reception × Session :=
  if !session.world.broker.isOpen then (.closed, session)
  else
    match session.take? with
    | some (request, session) => (.request request, session)
    | none =>
      let limit := session.world.clock + receptionLimit
      let later := session.advanceTo limit
      match later.take? with
      | some (request, session) => (.request request, session)
      | none =>
        (.timeout, later.modifyWorld fun world => world.passTo limit)

/-- The id of the request at a position, or of the last one; the empty text if
there is none. -/
def requestId (session : Session) (position : Option Nat) : String :=
  let request :=
    match position with
    | some position => session.received[position]?
    | none => session.received.getLast?
  (request.map PromptRequest.id).getD ""

/-- Answer a request; no answer declines it. -/
def answer (session : Session) (position : Option Nat)
    (value : Option String) : Except PromptError Session :=
  (session.world.broker.answer (session.requestId position) value).map
    fun broker => session.modifyWorld fun world => world.withBroker broker

def withdraw (session : Session) (position : Option Nat) : Bool × Session :=
  let (found, broker) :=
    session.world.broker.withdraw (session.requestId position)
  (found, session.modifyWorld fun world => world.withBroker broker)

def close (session : Session) : Session :=
  session.modifyWorld fun world => world.withBroker world.broker.close

def cancel (session : Session) : Session :=
  session.modifyWorld World.abort

def wait (session : Session) : Conclusion × Session :=
  if session.hasWaited then (.alreadyWaited, session)
  else
    let limit := session.world.clock + conclusionLimit
    let later := { session with hasWaited := true }.advanceTo limit
    match later.stage.result? with
    | some (some outcome, _) => (.outcome outcome, later)
    | _ => (.timeout, later.modifyWorld fun world => world.passTo limit)

end Session

end Runbook.Rehearsal
