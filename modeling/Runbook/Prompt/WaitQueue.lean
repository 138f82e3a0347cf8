import Runbook.Prompt.Broker

/-!
# Waits that take turns

Several waits use one broker and take turns.  A wait has a turn after it has
been started, when an answer has been delivered to it, and when it is to stop;
turns are taken in the order in which they fell due.
-/

namespace Runbook

/-- How far a wait is. -/
inductive WaitStage
  /-- It has not had a turn. -/
  | fresh
  /-- It holds a ticket of the broker. -/
  | parked (ticket : Nat)
  /-- It has its answer; there is no text if it was declined. -/
  | answered (answer : Option String)
  /-- It was stopped before it had an answer. -/
  | stopped
deriving DecidableEq, Inhabited

/-- A wait for the answer to a request. -/
structure Wait where
  request : PromptRequest
  stage : WaitStage
  /-- Whether it is to stop at its next turn. -/
  isStopping : Bool
deriving DecidableEq, Inhabited

/-- Waits that use one broker. -/
structure WaitQueue where
  broker : Broker
  waits : List Wait
  /-- The positions of the waits whose turns are due, the first one first. -/
  due : List Nat
deriving Inhabited

namespace WaitQueue

def empty : WaitQueue := ⟨Broker.empty, [], []⟩

def schedule (queue : WaitQueue) (position : Nat) : WaitQueue :=
  if queue.due.contains position then queue
  else { queue with due := queue.due ++ [position] }

/-- Whether an answer has been delivered to a wait that holds a ticket. -/
def hasAnswer (broker : Broker) (wait : Wait) : Bool :=
  match wait.stage with
  | .parked ticket => (broker.answer? ticket).isSome
  | _ => false

/-- Go on with another state of the broker: the waits to which it has
delivered answers have a turn. -/
def withBroker (queue : WaitQueue) (broker : Broker) : WaitQueue :=
  let woken := (List.range queue.waits.length).filter fun position =>
    (queue.waits[position]?).any (hasAnswer broker)
  woken.foldl schedule { queue with broker }

def start (queue : WaitQueue) (request : PromptRequest) : Nat × WaitQueue :=
  let position := queue.waits.length
  let waits := queue.waits ++ [⟨request, .fresh, false⟩]
  (position, { queue with waits }.schedule position)

def stop (queue : WaitQueue) (position : Nat) : WaitQueue :=
  let waits := queue.waits.modify position fun wait =>
    { wait with isStopping := true }
  { queue with waits }.schedule position

def enter (queue : WaitQueue) (position : Nat) (stage : WaitStage) :
    WaitQueue :=
  { queue with waits := queue.waits.modify position fun wait =>
      { wait with stage } }

/-- Take the answer that has been delivered to a wait, if there is one. -/
def take (queue : WaitQueue) (position : Nat) (request : PromptRequest)
    (ticket : Nat) : WaitQueue :=
  match queue.broker.answer? ticket with
  | none => queue
  | some answer =>
    (queue.enter position (.answered answer)).withBroker
      (queue.broker.leave request.id ticket)

def turn (queue : WaitQueue) (position : Nat) : WaitQueue :=
  match queue.waits[position]? with
  | none => queue
  | some wait =>
    match wait.stage, wait.isStopping with
    | .fresh, true => queue.enter position .stopped
    | .fresh, false =>
      let (ticket, broker) := queue.broker.ask wait.request
      ((queue.enter position (.parked ticket)).withBroker broker).take
        position wait.request ticket
    | .parked ticket, true =>
      (queue.enter position .stopped).withBroker
        (queue.broker.leave wait.request.id ticket)
    | .parked ticket, false => queue.take position wait.request ticket
    | _, _ => queue

def takeTurns : Nat → WaitQueue → WaitQueue
  | 0, queue => queue
  | limit + 1, queue =>
    match queue.due with
    | [] => queue
    | position :: due => takeTurns limit ({ queue with due }.turn position)

/-- Let turns be taken until none is due.  A wait has two turns at most in
which it gets further, and each of them makes at most one other turn due. -/
def settle (queue : WaitQueue) : WaitQueue :=
  takeTurns (4 * queue.waits.length + queue.due.length) queue

end WaitQueue

end Runbook
