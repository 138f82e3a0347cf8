import Runbook.Prompt.WaitQueue

/-!
# A desk for prompts

Somebody at a desk starts waits for the answers to prompts under names,
receives their requests, and looks at what has come of them.
-/

namespace Runbook.Rehearsal

/-- A desk: the waits, and the position of the last one under each id. -/
structure Desk where
  queue : WaitQueue
  last : OrderedMap Nat
deriving Inhabited

/-- What comes of waiting for a request at a desk. -/
inductive Desk.Receipt
  | request (request : PromptRequest)
  | timeout
  | closed
deriving DecidableEq, Inhabited

/-- What has come of a wait. -/
inductive Desk.Result
  | answer (answer : Option String)
  | stopped
  | timeout
  /-- There is no such wait, or its result has been looked at before. -/
  | unknown
deriving DecidableEq, Inhabited

namespace Desk

def empty : Desk := ⟨WaitQueue.empty, OrderedMap.empty⟩

def broker (desk : Desk) : Broker := desk.queue.broker

def withBroker (desk : Desk) (broker : Broker) : Desk :=
  { desk with queue := desk.queue.withBroker broker }

def settle (desk : Desk) : Desk :=
  { desk with queue := desk.queue.settle }

def start (desk : Desk) (request : PromptRequest) : Desk :=
  let (position, queue) := desk.queue.start request
  ⟨queue, desk.last.insert request.id position⟩

def stop (desk : Desk) (id : String) : Desk :=
  match desk.last.get? id with
  | some position => { desk with queue := desk.queue.stop position }
  | none => desk

def take? (desk : Desk) : Option (Receipt × Desk) :=
  desk.broker.receive?.map fun (request, broker) =>
    (.request request, desk.withBroker broker)

def receive (desk : Desk) : Receipt × Desk :=
  if desk.broker.isOpen then
    match desk.take? with
    | some taken => taken
    | none =>
      let desk := desk.settle
      desk.take?.getD (.timeout, desk)
  else (.closed, desk)

def ended? (queue : WaitQueue) (position : Nat) : Option Result :=
  match (queue.waits[position]?).map Wait.stage with
  | some (.answered answer) => some (.answer answer)
  | some .stopped => some .stopped
  | _ => none

/-- Look at what has come of the last wait under an id.  A result is given
once. -/
def result (desk : Desk) (id : String) : Result × Desk :=
  match desk.last.get? id with
  | none => (.unknown, desk)
  | some position =>
    let desk :=
      if (ended? desk.queue position).isSome then desk else desk.settle
    match ended? desk.queue position with
    | some result => (result, { desk with last := desk.last.erase id })
    | none => (.timeout, desk)

end Desk

end Runbook.Rehearsal
