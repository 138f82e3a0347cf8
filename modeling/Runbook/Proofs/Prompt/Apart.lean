import Runbook.Proofs.Prompt.WaitQueue

/-!
# Waits that stay apart

Waits keep ids and tickets of their own when other ones start, are stopped or
take turns, and when their requests are settled.
-/

namespace Runbook

namespace WaitQueue

variable {queue after : WaitQueue} {broker : Broker} {position other : Nat}
  {wait : Wait} {stage : WaitStage} {ticket : Nat}

theorem getElem?_concat_eq_some {waits : List Wait} {last : Wait} :
    (waits ++ [last])[position]? = some wait ↔
      waits[position]? = some wait ∨
        position = waits.length ∧ wait = last := by
  rcases Nat.lt_trichotomy position waits.length with inside | rfl | outside
  · have different : position ≠ waits.length := Nat.ne_of_lt inside
    simp [List.getElem?_append_left inside, different]
  · simp [eq_comm]
  · have different : position ≠ waits.length := Nat.ne_of_gt outside
    have nothing : (waits ++ [last])[position]? = none := by
      rw [List.getElem?_eq_none_iff, List.length_append]
      exact outside
    simp [nothing, different, Nat.le_of_lt outside]

theorem getElem?_start_eq_some {request : PromptRequest} :
    (queue.start request).2.waits[position]? = some wait ↔
      queue.waits[position]? = some wait ∨
        position = queue.waits.length ∧ wait = ⟨request, .fresh, false⟩ := by
  simpa [start] using getElem?_concat_eq_some

@[simp] theorem start_broker {request : PromptRequest} :
    (queue.start request).2.broker = queue.broker := by
  simp [start]

/-- Only whether a wait is to stop is different afterwards. -/
theorem exists_of_stop
    (here : (queue.stop position).waits[other]? = some wait) :
    ∃ held, queue.waits[other]? = some held ∧
      wait.request = held.request ∧ wait.stage = held.stage ∧
      (other ≠ position → wait = held) := by
  rw [stop, schedule_waits, getElem?_modify_eq_some] at here
  obtain ⟨held, found, rfl⟩ := here
  refine ⟨held, found, ?_⟩
  by_cases own : position = other <;> simp [own, eq_comm]

theorem exists_getElem?_stop (position : Nat)
    (here : queue.waits[other]? = some wait) :
    ∃ after, (queue.stop position).waits[other]? = some after ∧
      after.request = wait.request ∧ after.stage = wait.stage ∧
      (wait.isStopping = true → after.isStopping = true) := by
  refine ⟨if position = other then { wait with isStopping := true } else wait,
    ?_, ?_, ?_, fun stops => ?_⟩
  · rw [stop, schedule_waits, getElem?_modify_eq_some]
    exact ⟨wait, here, rfl⟩
  · split <;> rfl
  · split <;> rfl
  · split
    · rfl
    · exact stops

@[simp] theorem stop_broker :
    (queue.stop position).broker = queue.broker := by
  simp [stop]

theorem Sound.empty : Sound WaitQueue.empty where
  ids here := by simp [WaitQueue.empty] at here
  tickets here := by simp [WaitQueue.empty] at here
  issued here := by simp [WaitQueue.empty] at here
  unissued _ := rfl
  pending := by
    simp [WaitQueue.empty, Broker.empty, OrderedMap.empty, OrderedMap.get?,
      OrderedMap.find?]

/-- What is due, what is published and whether requests are received make no
difference. -/
theorem Sound.of_same (sound : Sound queue)
    (waits : after.waits = queue.waits)
    (pending : after.broker.pending = queue.broker.pending)
    (delivered : after.broker.delivered = queue.broker.delivered)
    (nextTicket : after.broker.nextTicket = queue.broker.nextTicket) :
    Sound after := by
  have answers : ∀ ticket,
      after.broker.answer? ticket = queue.broker.answer? ticket := by
    intro ticket
    rw [Broker.answer?, delivered, Broker.answer?]
  constructor
  · rw [waits]
    exact sound.ids
  · rw [waits]
    exact sound.tickets
  · rw [waits, nextTicket]
    exact sound.issued
  · intro ticket new
    rw [answers]
    exact sound.unissued (nextTicket ▸ new)
  · intro id ticket
    rw [answers, pending, waits]
    exact sound.pending

theorem Sound.start (sound : Sound queue) {request : PromptRequest}
    (new : ∀ wait ∈ queue.waits, wait.request.id ≠ request.id) :
    Sound (queue.start request).2 := by
  have lookup {position : Nat} {wait : Wait} :=
    @getElem?_start_eq_some queue position wait request
  constructor
  · intro first second wait other here there same
    rcases lookup.1 here with here | ⟨rfl, rfl⟩ <;>
      rcases lookup.1 there with there | ⟨rfl, rfl⟩
    · exact sound.ids here there same
    · exact (new _ (List.mem_of_getElem? here) same).elim
    · exact (new _ (List.mem_of_getElem? there) same.symm).elim
    · rfl
  · intro first second wait other ticket here there parked same
    rcases lookup.1 here with here | ⟨-, rfl⟩
    · rcases lookup.1 there with there | ⟨-, rfl⟩
      · exact sound.tickets here there parked same
      · cases same
    · cases parked
  · intro position wait ticket here parked
    rw [start_broker]
    rcases lookup.1 here with here | ⟨-, rfl⟩
    · exact sound.issued here parked
    · cases parked
  · rw [start_broker]
    exact sound.unissued
  · intro id ticket
    rw [start_broker, sound.pending]
    constructor
    · rintro ⟨position, wait, here, holds⟩
      exact ⟨position, wait, lookup.2 (.inl here), holds⟩
    · rintro ⟨position, wait, here, same, parked, unanswered⟩
      rcases lookup.1 here with here | ⟨-, rfl⟩
      · exact ⟨position, wait, here, same, parked, unanswered⟩
      · cases parked

theorem Sound.stop (sound : Sound queue) (position : Nat) :
    Sound (queue.stop position) := by
  have lookup {other : Nat} {wait : Wait}
      (here : (queue.stop position).waits[other]? = some wait) :=
    exists_of_stop here
  constructor
  · intro first second wait other here there same
    obtain ⟨held, here, request, -, -⟩ := lookup here
    obtain ⟨kept, there, other, -, -⟩ := lookup there
    exact sound.ids here there (by rw [← request, ← other, same])
  · intro first second wait other ticket here there parked same
    obtain ⟨held, here, -, stage, -⟩ := lookup here
    obtain ⟨kept, there, -, other, -⟩ := lookup there
    exact sound.tickets here there (stage ▸ parked) (other ▸ same)
  · intro other wait ticket here parked
    obtain ⟨held, here, -, stage, -⟩ := lookup here
    rw [stop_broker]
    exact sound.issued here (stage ▸ parked)
  · rw [stop_broker]
    exact sound.unissued
  · intro id ticket
    rw [stop_broker, sound.pending]
    constructor
    · rintro ⟨other, wait, here, holds⟩
      obtain ⟨after, there, request, stage, -⟩ :=
        exists_getElem?_stop position here
      exact ⟨other, after, there, request ▸ stage ▸ holds⟩
    · rintro ⟨other, wait, here, same, parked, unanswered⟩
      obtain ⟨held, here, request, stage, -⟩ := lookup here
      exact ⟨other, held, here, request ▸ same, stage ▸ parked, unanswered⟩

/-- An answer or a withdrawal takes the ticket of its wait off. -/
theorem Sound.settle (sound : Sound queue) {id : String}
    {value : Option String}
    (pending : queue.broker.pending.get? id = some ticket)
    (settled : queue.broker.Settled id ticket value broker) :
    Sound (queue.withBroker broker) := by
  obtain ⟨holder, owner, held, rfl, parked, -⟩ := sound.pending.1 pending
  constructor
  · rw [withBroker_waits]
    exact sound.ids
  · rw [withBroker_waits]
    exact sound.tickets
  · rw [withBroker_waits, withBroker_broker, settled.nextTicket]
    exact sound.issued
  · intro other new
    rw [withBroker_broker, settled.nextTicket] at new
    have older : ticket ≠ other :=
      Nat.ne_of_lt (Nat.lt_of_lt_of_le (sound.issued held parked) new)
    simp [settled.answer?, sound.unissued new, older]
  · intro name other
    rw [withBroker_broker, withBroker_waits, settled.get?, settled.answer?]
    constructor
    · intro get
      split at get
      · cases get
      · rename_i different
        obtain ⟨position, wait, here, same, holds, unanswered⟩ :=
          sound.pending.1 get
        have apart : ticket ≠ other := by
          rintro rfl
          obtain rfl := sound.tickets held here parked holds
          rw [held] at here
          cases here
          exact different same
        exact ⟨position, wait, here, same, holds, by simp [unanswered, apart]⟩
    · rintro ⟨position, wait, here, rfl, holds, unanswered⟩
      obtain ⟨older, unsettled⟩ := Option.or_eq_none_iff.1 unanswered
      have apart : owner.request.id ≠ wait.request.id := by
        intro same
        obtain rfl := sound.ids held here same
        rw [held] at here
        cases here
        rw [parked] at holds
        cases holds
        simp at unsettled
      rw [if_neg apart]
      exact sound.pending.2 ⟨position, wait, here, rfl, holds, older⟩

/-- Only the wait at its position enters a stage. -/
theorem exists_of_enter {there : Wait}
    (waits : after.waits = queue.waits.modify position fun wait =>
      { wait with stage })
    (here : after.waits[other]? = some there) :
    ∃ held, queue.waits[other]? = some held ∧
      there.request = held.request ∧
      (other = position ∧ there.stage = stage ∨
        other ≠ position ∧ there = held) := by
  rw [waits, getElem?_modify_eq_some] at here
  obtain ⟨held, here, rfl⟩ := here
  refine ⟨held, here, ?_⟩
  by_cases own : position = other
  · simp [own]
  · simp [own, Ne.symm own]

/-- A wait that parks holds a ticket that no other wait has held. -/
theorem Sound.park (sound : Sound queue)
    (found : queue.waits[position]? = some wait)
    (waits : after.waits = queue.waits.modify position fun wait =>
      { wait with stage := .parked queue.broker.nextTicket })
    (asked : queue.broker.Asked wait.request.id after.broker) :
    Sound after := by
  have lookup {other : Nat} {there : Wait}
      (here : after.waits[other]? = some there) :=
    exists_of_enter waits here
  have parks : after.waits[position]? =
      some { wait with stage := .parked queue.broker.nextTicket } := by
    rw [waits, getElem?_modify_eq_some]
    exact ⟨wait, found, by simp⟩
  constructor
  · intro first second there other here also same
    obtain ⟨held, here, request, -⟩ := lookup here
    obtain ⟨kept, also, again, -⟩ := lookup also
    exact sound.ids here also (by rw [← request, ← again, same])
  · intro first second there other ticket here also parked same
    obtain ⟨held, here, -, ⟨rfl, own⟩ | ⟨-, rfl⟩⟩ := lookup here <;>
      obtain ⟨kept, also, -, ⟨rfl, its⟩ | ⟨-, rfl⟩⟩ := lookup also
    · rfl
    · obtain rfl : queue.broker.nextTicket = ticket := by
        simpa [own] using parked
      exact absurd (sound.issued also same) (Nat.lt_irrefl _)
    · obtain rfl : queue.broker.nextTicket = ticket := by
        simpa [its] using same
      exact absurd (sound.issued here parked) (Nat.lt_irrefl _)
    · exact sound.tickets here also parked same
  · intro other there ticket here parked
    rw [asked.nextTicket]
    obtain ⟨held, here, -, ⟨-, own⟩ | ⟨-, rfl⟩⟩ := lookup here
    · obtain rfl : queue.broker.nextTicket = ticket := by
        simpa [own] using parked
      exact Nat.lt_succ_self _
    · exact Nat.lt_succ_of_lt (sound.issued here parked)
  · intro ticket new
    rw [asked.answer?]
    rw [asked.nextTicket] at new
    exact sound.unissued (Nat.le_of_succ_le new)
  · intro name ticket
    rw [asked.get?, asked.answer?]
    constructor
    · intro get
      split at get
      · rename_i same
        cases get
        exact ⟨position, _, parks, same, rfl, sound.unissued (Nat.le_refl _)⟩
      · rename_i different
        obtain ⟨other, held, here, same, parked, unanswered⟩ :=
          sound.pending.1 get
        have apart : position ≠ other := by
          rintro rfl
          rw [found] at here
          cases here
          exact different same
        refine ⟨other, held, ?_, same, parked, unanswered⟩
        rw [waits, List.getElem?_modify_ne _ _ apart, here]
    · rintro ⟨other, there, here, rfl, parked, unanswered⟩
      obtain ⟨held, here, request, ⟨rfl, own⟩ | ⟨apart, rfl⟩⟩ := lookup here
      · rw [found] at here
        cases here
        simpa [own, request] using parked
      · have different : wait.request.id ≠ there.request.id :=
          fun same => apart (sound.ids here found same.symm)
        rw [if_neg different]
        exact sound.pending.2 ⟨other, there, here, rfl, parked, unanswered⟩

/-- A wait that ends takes its ticket along. -/
theorem Sound.finish (sound : Sound queue)
    (found : queue.waits[position]? = some wait)
    (unparked : ∀ ticket, stage ≠ .parked ticket)
    (waits : after.waits = queue.waits.modify position fun wait =>
      { wait with stage })
    (get? : ∀ name, after.broker.pending.get? name =
      if wait.request.id = name then none
      else queue.broker.pending.get? name)
    (answer? : ∀ other, after.broker.answer? other =
      if wait.stage = .parked other then none
      else queue.broker.answer? other)
    (nextTicket : queue.broker.nextTicket ≤ after.broker.nextTicket) :
    Sound after := by
  have lookup {other : Nat} {there : Wait}
      (here : after.waits[other]? = some there) :=
    exists_of_enter waits here
  constructor
  · intro first second there other here also same
    obtain ⟨held, here, request, -⟩ := lookup here
    obtain ⟨kept, also, again, -⟩ := lookup also
    exact sound.ids here also (by rw [← request, ← again, same])
  · intro first second there other ticket here also parked same
    obtain ⟨held, here, -, ⟨-, rfl⟩ | ⟨-, rfl⟩⟩ := lookup here
    · exact (unparked ticket parked).elim
    obtain ⟨kept, also, -, ⟨-, rfl⟩ | ⟨-, rfl⟩⟩ := lookup also
    · exact (unparked ticket same).elim
    exact sound.tickets here also parked same
  · intro other there ticket here parked
    obtain ⟨held, here, -, ⟨-, rfl⟩ | ⟨-, rfl⟩⟩ := lookup here
    · exact (unparked ticket parked).elim
    · exact Nat.lt_of_lt_of_le (sound.issued here parked) nextTicket
  · intro ticket new
    rw [answer?]
    split
    · rfl
    · exact sound.unissued (Nat.le_trans nextTicket new)
  · intro name ticket
    rw [get?, answer?]
    constructor
    · intro get
      split at get
      · cases get
      · rename_i different
        obtain ⟨other, held, here, same, parked, unanswered⟩ :=
          sound.pending.1 get
        have apart : position ≠ other := by
          rintro rfl
          rw [found] at here
          cases here
          exact different same
        refine ⟨other, held, ?_, same, parked, by simp [unanswered]⟩
        rw [waits, List.getElem?_modify_ne _ _ apart, here]
    · rintro ⟨other, there, here, rfl, parked, unanswered⟩
      obtain ⟨held, here, -, ⟨-, rfl⟩ | ⟨apart, rfl⟩⟩ := lookup here
      · exact (unparked ticket parked).elim
      · have different : wait.request.id ≠ there.request.id :=
          fun same => apart (sound.ids here found same.symm)
        have others : wait.stage ≠ .parked ticket :=
          fun own => apart (sound.tickets here found parked own)
        rw [if_neg different]
        rw [if_neg others] at unanswered
        exact sound.pending.2 ⟨other, there, here, rfl, parked, unanswered⟩

theorem Sound.turn (sound : Sound queue) (position : Nat) :
    Sound (queue.turn position) := by
  cases found : queue.waits[position]? with
  | none => exact (turn_of_getElem?_eq_none found).symm ▸ sound
  | some wait =>
      cases sound.turned found with
      | rests _ same => exact same.symm ▸ sound
      | parks _ _ _ waits asked => exact sound.park found waits asked
      | ends _ ends _ waits get? answer? nextTicket =>
          refine sound.finish found ?_ waits get? answer? nextTicket
          intro ticket
          cases ends <;> nofun

end WaitQueue

end Runbook
