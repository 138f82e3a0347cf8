import Runbook.OrderedMap
import Runbook.Prompt.Basic

/-!
# The prompt broker

A broker publishes prompt requests and lets each of them be answered later by
its id.  Every wait for an answer holds a ticket.  A request is pending from
the start of its wait until it is answered or withdrawn or its wait is left,
and an answer goes to the wait whose ticket is pending under the id.  A wait
whose request is withdrawn or replaced by another one counts as declined.
-/

namespace Runbook

/-- Why an answer is refused. -/
inductive PromptError
  /-- Nothing is asked under the id. -/
  | notPending (id : String)
  /-- Nobody waits for the answer any more. -/
  | withdrawn (id : String)
deriving DecidableEq

def PromptError.message : PromptError → String
  | .notPending id => s!"no pending prompt with id '{id}'"
  | .withdrawn id => s!"prompt '{id}' was withdrawn before it was answered"

/-- Prompt requests that wait for answers. -/
structure Broker where
  /-- The tickets of the waits that have no answer, by the ids of their
  requests. -/
  pending : OrderedMap Nat
  /-- The answers that their waits have not taken yet, by ticket.  There is no
  text in the answer of a wait that is declined. -/
  delivered : List (Nat × Option String)
  nextTicket : Nat
  /-- The published requests that nobody has received yet, the first one
  first. -/
  published : List PromptRequest
  isOpen : Bool
deriving Inhabited

namespace Broker

def empty : Broker := ⟨OrderedMap.empty, [], 0, [], true⟩

def pendingIds (broker : Broker) : List String :=
  broker.pending.keys

def deliver (broker : Broker) (ticket : Nat) (answer : Option String) :
    Broker :=
  { broker with delivered := broker.delivered ++ [(ticket, answer)] }

/-- Remove what is pending under an id, and deliver an answer to its wait. -/
def settle (broker : Broker) (id : String) (answer : Option String) :
    Option Broker :=
  (broker.pending.get? id).map fun ticket =>
    { broker with pending := broker.pending.erase id }.deliver ticket answer

def decline (broker : Broker) (id : String) : Broker :=
  (broker.settle id none).getD broker

/-- Answer the request that is pending under an id; no answer declines it. -/
def answer (broker : Broker) (id : String) (value : Option String) :
    Except PromptError Broker :=
  match broker.settle id value with
  | some broker => .ok broker
  | none => .error (.notPending id)

/-- Withdraw the request that is pending under an id, and say whether there
was one. -/
def withdraw (broker : Broker) (id : String) : Bool × Broker :=
  match broker.settle id none with
  | some broker => (true, broker)
  | none => (false, broker)

/-- Start a wait for the answer to a request, and publish the request.  The
wait is declined at once if nobody receives requests.  Gives the ticket. -/
def ask (broker : Broker) (request : PromptRequest) : Nat × Broker :=
  let ticket := broker.nextTicket
  let free := { broker.decline request.id with nextTicket := ticket + 1 }
  if broker.isOpen then
    (ticket, { free with
      pending := free.pending.insert request.id ticket
      published := free.published ++ [request] })
  else (ticket, free.deliver ticket none)

def answer? (broker : Broker) (ticket : Nat) : Option (Option String) :=
  broker.delivered.lookup ticket

/-- End a wait: its answer is gone, and so is what is pending under its id. -/
def leave (broker : Broker) (id : String) (ticket : Nat) : Broker :=
  let left := broker.decline id
  { left with delivered := left.delivered.filter fun entry =>
      entry.1 != ticket }

def receive? (broker : Broker) : Option (PromptRequest × Broker) :=
  match broker.published with
  | [] => none
  | request :: published => some (request, { broker with published })

def close (broker : Broker) : Broker :=
  { broker with isOpen := false, published := [] }

end Broker

end Runbook
