import Runbook.Prompt.Broker
import Runbook.Proofs.OrderedMap

/-!
# What a broker does to its waits

Each operation of a broker is described by what is pending after it and by the
answers that it has for the tickets of its waits.
-/

namespace Runbook

namespace Broker

variable {broker : Broker} {id : String} {ticket other : Nat}

theorem mem_pendingIds_iff :
    id ∈ broker.pendingIds ↔ ∃ ticket, broker.pending.get? id = some ticket :=
  OrderedMap.mem_keys_iff

theorem not_mem_pendingIds_iff :
    id ∉ broker.pendingIds ↔ broker.pending.get? id = none :=
  OrderedMap.find?_eq_none_iff.symm

/-! ### Answers and withdrawals -/

theorem answer?_deliver (value : Option String) :
    (broker.deliver ticket value).answer? other =
      (broker.answer? other).or
        (if ticket = other then some value else none) := by
  unfold answer? deliver
  rw [List.lookup_append]
  congr 1
  by_cases same : ticket = other
  · simp [same]
  · have different : (other == ticket) = false := by
      simpa using fun equal => same equal.symm
    simp [List.lookup_cons, different, same]

/-- What is pending under an id is removed, and its wait has an answer. -/
structure Settled (broker : Broker) (id : String) (ticket : Nat)
    (value : Option String) (after : Broker) : Prop where
  get? (name : String) : after.pending.get? name =
    if id = name then none else broker.pending.get? name
  answer? (other : Nat) : after.answer? other =
    (broker.answer? other).or (if ticket = other then some value else none)
  nextTicket : after.nextTicket = broker.nextTicket
  isOpen : after.isOpen = broker.isOpen

theorem settle_of_get? (pending : broker.pending.get? id = some ticket)
    (value : Option String) :
    ∃ after, broker.settle id value = some after ∧
      broker.Settled id ticket value after := by
  refine ⟨_, by rw [settle, pending]; rfl, ?_⟩
  constructor
  · intro name
    exact broker.pending.get?_erase id name
  · intro other
    exact answer?_deliver value
  all_goals rfl

theorem settle_of_absent (absent : broker.pending.get? id = none)
    (value : Option String) : broker.settle id value = none := by
  rw [settle, absent]
  rfl

theorem answer_of_get? (pending : broker.pending.get? id = some ticket)
    (value : Option String) :
    ∃ after, broker.answer id value = .ok after ∧
      broker.Settled id ticket value after := by
  obtain ⟨after, settles, settled⟩ := settle_of_get? pending value
  exact ⟨after, by rw [answer, settles], settled⟩

theorem answer_of_absent (absent : broker.pending.get? id = none)
    (value : Option String) :
    broker.answer id value = .error (.notPending id) := by
  rw [answer, settle_of_absent absent]

theorem withdraw_of_get? (pending : broker.pending.get? id = some ticket) :
    ∃ after, broker.withdraw id = (true, after) ∧
      broker.Settled id ticket none after := by
  obtain ⟨after, settles, settled⟩ := settle_of_get? pending none
  exact ⟨after, by rw [withdraw, settles], settled⟩

theorem withdraw_of_absent (absent : broker.pending.get? id = none) :
    broker.withdraw id = (false, broker) := by
  rw [withdraw, settle_of_absent absent]

theorem exists_of_answer {value : Option String} {after : Broker}
    (accepts : broker.answer id value = .ok after) :
    ∃ ticket, broker.pending.get? id = some ticket ∧
      broker.Settled id ticket value after := by
  cases pending : broker.pending.get? id with
  | none => simp [answer_of_absent pending] at accepts
  | some ticket =>
      obtain ⟨_, answers, settled⟩ := answer_of_get? pending value
      cases accepts.symm.trans answers
      exact ⟨ticket, rfl, settled⟩

theorem cases_of_withdraw {isFound : Bool} {after : Broker}
    (withdraws : broker.withdraw id = (isFound, after)) :
    isFound = false ∧ after = broker ∨
      isFound = true ∧ ∃ ticket, broker.pending.get? id = some ticket ∧
        broker.Settled id ticket none after := by
  cases pending : broker.pending.get? id with
  | none =>
      cases withdraws.symm.trans (withdraw_of_absent pending)
      exact .inl ⟨rfl, rfl⟩
  | some ticket =>
      obtain ⟨_, found, settled⟩ := withdraw_of_get? pending
      cases withdraws.symm.trans found
      exact .inr ⟨rfl, ticket, rfl, settled⟩

/-- An answer that a wait has is not replaced. -/
theorem Settled.answer?_of_some {value : Option String} {after : Broker}
    (settled : broker.Settled id ticket value after) (other : Nat)
    (given : Option String) (answer : broker.answer? other = some given) :
    after.answer? other = some given := by
  rw [settled.answer?, answer, Option.some_or]

theorem decline_of_absent (absent : broker.pending.get? id = none) :
    broker.decline id = broker := by
  rw [decline, settle_of_absent absent]
  rfl

/-! ### Waits that start and end -/

/-- The request of a wait is pending, and the wait has a new ticket. -/
structure Asked (broker : Broker) (id : String) (after : Broker) : Prop where
  get? (name : String) : after.pending.get? name =
    if id = name then some broker.nextTicket else broker.pending.get? name
  answer? (other : Nat) : after.answer? other = broker.answer? other
  nextTicket : after.nextTicket = broker.nextTicket + 1
  isOpen : after.isOpen = broker.isOpen

theorem ask_of_isOpen {request : PromptRequest} (isOpen : broker.isOpen)
    (absent : broker.pending.get? request.id = none) :
    ∃ after, broker.ask request = (broker.nextTicket, after) ∧
      broker.Asked request.id after := by
  refine ⟨_, by rw [ask, decline_of_absent absent, if_pos isOpen], ?_⟩
  constructor
  · intro name
    exact broker.pending.get?_insert request.id name broker.nextTicket
  · intro other
    rfl
  all_goals rfl

/-- If nobody receives requests then a wait is declined at once. -/
structure Declined (broker after : Broker) : Prop where
  pending : after.pending = broker.pending
  answer? (other : Nat) : after.answer? other =
    (broker.answer? other).or
      (if broker.nextTicket = other then some none else none)
  nextTicket : after.nextTicket = broker.nextTicket + 1
  isOpen : after.isOpen = broker.isOpen

theorem ask_of_closed {request : PromptRequest}
    (closed : broker.isOpen = false)
    (absent : broker.pending.get? request.id = none) :
    ∃ after, broker.ask request = (broker.nextTicket, after) ∧
      broker.Declined after := by
  refine ⟨_, by rw [ask, decline_of_absent absent, if_neg (by simp [closed])],
    ?_⟩
  constructor
  · rfl
  · intro other
    exact answer?_deliver none
  all_goals rfl

theorem lookup_filter_ne {entries : List (Nat × Option String)} :
    (entries.filter fun entry => entry.1 != ticket).lookup other =
      if ticket = other then none else entries.lookup other := by
  induction entries with
  | nil => simp
  | cons entry rest ih =>
      obtain ⟨held, value⟩ := entry
      by_cases here : held = ticket
      · subst here
        rw [List.filter_cons_of_neg (by simp), ih]
        by_cases same : held = other
        · simp [same]
        · have different : (other == held) = false := by
            simpa using fun equal => same equal.symm
          simp [List.lookup_cons, different, same]
      · rw [List.filter_cons_of_pos (by simpa using here)]
        by_cases same : other = held
        · subst same
          have different : ticket ≠ other := fun equal => here equal.symm
          simp [different]
        · have different : (other == held) = false := by simpa using same
          simp only [List.lookup_cons, different, ih]

/-- What a wait leaves behind: neither its request nor its answer. -/
structure Left (broker : Broker) (id : String) (ticket : Nat)
    (after : Broker) : Prop where
  get? (name : String) : after.pending.get? name =
    if id = name then none else broker.pending.get? name
  answer? (other : Nat) : after.answer? other =
    if ticket = other then none else broker.answer? other
  nextTicket : after.nextTicket = broker.nextTicket
  isOpen : after.isOpen = broker.isOpen

/-- A wait that ends removes its own request only, if no other wait has the
same id. -/
theorem leave_spec (id : String) (ticket : Nat)
    (own : ∀ held, broker.pending.get? id = some held → held = ticket) :
    broker.Left id ticket (broker.leave id ticket) := by
  have answers : ∀ (declined : Broker) (other : Nat),
      { declined with delivered := declined.delivered.filter fun entry =>
          entry.1 != ticket }.answer? other =
        if ticket = other then none else declined.answer? other :=
    fun declined other => lookup_filter_ne
  unfold leave
  cases pending : broker.pending.get? id with
  | none =>
      rw [decline_of_absent pending]
      refine ⟨fun name => ?_, answers broker, rfl, rfl⟩
      by_cases same : id = name
      · subst same
        simpa using pending
      · simp [same]
  | some held =>
      obtain ⟨declined, settles, settled⟩ :=
        settle_of_get? pending none
      have declines : broker.decline id = declined := by
        rw [decline, settles]
        rfl
      rw [declines]
      refine ⟨settled.get?, fun other => ?_, settled.nextTicket,
        settled.isOpen⟩
      rw [answers, settled.answer?, own held pending]
      by_cases same : ticket = other <;> simp [same]

end Broker

end Runbook
