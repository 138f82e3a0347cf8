import Runbook.Proofs.Prompt.Delivery

/-!
# Answers reach their own waits

What is pending is what is asked by the waits that are parked and whose
requests have been neither answered nor withdrawn.  An answer comes to the wait
of its request and to no other one, whatever happens next.
-/

namespace Runbook

namespace WaitQueue

variable {queue after : WaitQueue} {event : WaitEvent}
  {events : List WaitEvent} {position : Nat} {wait : Wait} {id : String}
  {value : Option String} {stage : WaitStage}

/-! ### Turns run out -/

theorem Steps.cons {first queue last : WaitQueue}
    (next : Step first event queue) (steps : Steps queue events last) :
    Steps first (event :: events) last := by
  induction steps with
  | refl => exact .step .refl next
  | step _ later ih => exact .step ih later

theorem steps_takeTurns (limit : Nat) (queue : WaitQueue) :
    ∃ events, Steps queue events (takeTurns limit queue) := by
  induction limit generalizing queue with
  | zero => exact ⟨[], .refl⟩
  | succ limit ih =>
      rw [takeTurns]
      split
      · exact ⟨[], .refl⟩
      · rename_i position due isDue
        obtain ⟨events, steps⟩ := ih ({ queue with due }.turn position)
        have next := @Step.turn queue position
        rw [isDue, List.erase_cons_head] at next
        exact ⟨_, steps.cons next⟩

/-- How many turns may be taken: those that are due, and another one of every
wait that has not had any. -/
def turnsLeft (queue : WaitQueue) : Nat :=
  queue.due.length + queue.waits.countP (·.stage = .fresh)

theorem countP_fresh_enter (found : queue.waits[position]? = some wait)
    (waits : after.waits = queue.waits.modify position fun wait =>
      { wait with stage })
    (begun : stage ≠ .fresh) :
    after.waits.countP (·.stage = .fresh) +
        (if wait.stage = .fresh then 1 else 0) =
      queue.waits.countP (·.stage = .fresh) := by
  obtain ⟨inside, -⟩ := List.getElem?_eq_some_iff.1 found
  obtain ⟨before, held, rest, whole, rfl, changed⟩ :=
    List.exists_of_modify (fun wait : Wait => { wait with stage }) inside
  obtain rfl : held = wait := by simpa [whole] using found
  rw [waits, changed, whole]
  simp only [List.countP_append, List.countP_cons, begun, decide_eq_true_eq,
    decide_false]
  simp [Nat.add_assoc]

/-- Every turn leaves fewer turns to be taken. -/
theorem turnsLeft_turn (known : Known events queue) (due : AllDue queue)
    {rest : List Nat} (isDue : queue.due = position :: rest) :
    ({ queue with due := rest }.turn position).turnsLeft <
      queue.turnsLeft := by
  have sound : Sound { queue with due := rest } :=
    known.sound.of_same rfl rfl rfl rfl
  have distinct : rest.Nodup := (isDue ▸ due.nodup).of_cons
  cases found : queue.waits[position]? with
  | none =>
      have rests := @turn_of_getElem?_eq_none { queue with due := rest }
        position found
      rw [rests]
      simp [turnsLeft, isDue]
  | some wait =>
      have turned := sound.turned found
      have wakes := turned.wakes
      -- Whatever else has an answer has been due before.
      have subset : ({ queue with due := rest }.turn position).due ⊆
          if wait.stage = .fresh then position :: rest else rest := by
        intro other isDueThen
        rcases wakes.woken isDueThen with wasDue | ⟨rfl, fresh⟩ | woken
        · split
          · exact List.mem_cons_of_mem _ wasDue
          · exact wasDue
        · simp [fresh]
        · obtain ⟨apart, holder, there, answered⟩ := woken
          obtain ⟨ticket, value, parked, answer⟩ := hasAnswer_iff.1 answered
          have wasDue := due.ready there
            (.inr ⟨ticket, parked, .inr ⟨value, answer⟩⟩)
          rw [isDue, List.mem_cons, or_iff_right apart] at wasDue
          split
          · exact List.mem_cons_of_mem _ wasDue
          · exact wasDue
      have shorter := (wakes.nodup distinct).length_le_of_subset subset
      have enters : ∀ stage : WaitStage, stage ≠ .fresh →
          ({ queue with due := rest }.turn position).waits =
            queue.waits.modify position (fun wait => { wait with stage }) →
          ({ queue with due := rest }.turn position).turnsLeft <
            queue.turnsLeft := by
        intro stage begun waits
        have fewer := countP_fresh_enter found waits begun
        simp only [turnsLeft, isDue, List.length_cons]
        split at shorter <;> split at fewer <;>
          simp_all only [List.length_cons] <;> omega
      cases turned with
      | rests _ same =>
          rw [same]
          simp [turnsLeft, isDue]
      | parks _ _ _ waits =>
          exact enters (.parked queue.broker.nextTicket) nofun waits
      | ends stage ends _ waits =>
          refine enters stage ?_ waits
          cases ends <;> nofun

theorem takeTurns_due_eq_nil {limit : Nat} (known : Known events queue)
    (due : AllDue queue) (enough : queue.turnsLeft ≤ limit) :
    (takeTurns limit queue).due = [] := by
  induction limit generalizing queue events with
  | zero =>
      unfold turnsLeft at enough
      rw [takeTurns]
      exact List.eq_nil_of_length_eq_zero (by omega)
  | succ limit ih =>
      rw [takeTurns]
      split
      · rename_i isDue
        exact isDue
      · rename_i position rest isDue
        have next := @Step.turn queue position
        rw [isDue, List.erase_cons_head] at next
        have fewer := turnsLeft_turn known due isDue
        exact ih (known.step next) (due.step known next) (by omega)

/-- When waits have settled, none of them gets further by itself. -/
theorem settle_due_eq_nil (known : Known events queue) (due : AllDue queue) :
    queue.settle.due = [] := by
  refine takeTurns_due_eq_nil known due ?_
  have fresh := queue.waits.countP_le_length (p := (·.stage = .fresh))
  unfold turnsLeft
  omega

/-! ### What comes of an answer -/

/-- A wait has a given answer, or is stopped before it takes it. -/
def Comes (queue : WaitQueue) (position : Nat) (value : Option String) :
    Prop :=
  queue.result? position = some value ∨
    ∃ wait, queue.waits[position]? = some wait ∧ wait.stage = .stopped ∧
      wait.isStopping = true

theorem result?_withBroker_of_answers {broker : Broker}
    (answers : ∀ ticket value, queue.broker.answer? ticket = some value →
      broker.answer? ticket = some value)
    (result : queue.result? position = some value) :
    (queue.withBroker broker).result? position = some value := by
  rw [result?_withBroker]
  cases found : queue.waits[position]? with
  | none => simp [result?, found] at result
  | some wait =>
      rw [@result?_eq_some_iff { queue with broker } _ _ _ found]
      refine ((result?_eq_some_iff found).1 result).imp_right ?_
      rintro ⟨ticket, parked, answer⟩
      exact ⟨ticket, parked, answers ticket value answer⟩

theorem Comes.withBroker {broker : Broker} (comes : Comes queue position value)
    (answers : ∀ ticket value, queue.broker.answer? ticket = some value →
      broker.answer? ticket = some value) :
    Comes (queue.withBroker broker) position value := by
  refine comes.imp (result?_withBroker_of_answers answers) ?_
  rintro ⟨wait, found, stopped⟩
  exact ⟨wait, by rwa [withBroker_waits], stopped⟩

theorem Comes.turn {other : Nat} (comes : Comes queue position value)
    (known : Known events queue) :
    Comes (queue.turn other) position value := by
  cases found : queue.waits[other]? with
  | none => rwa [turn_of_getElem?_eq_none found]
  | some wait =>
      have turned := known.sound.turned found
      by_cases own : position = other
      · subst own
        obtain result | ⟨held, there, stopped, stops⟩ := comes
        · rcases turned.result?_self known.sound found with
            kept | ⟨stops, entered⟩ | ⟨fresh, -⟩
          · exact .inl (kept.trans result)
          · exact .inr ⟨_, entered, rfl, stops⟩
          · simp [result?_of_getElem? found, fresh] at result
        · rw [found] at there
          cases there
          have rests : queue.turn position = queue := by
            simp [WaitQueue.turn, found, stopped]
          exact .inr ⟨wait, by rwa [rests], stopped, stops⟩
      · refine comes.imp (fun result => ?_) ?_
        · rwa [turned.result?_ne known.sound found own]
        · rintro ⟨held, there, stopped⟩
          exact ⟨held, by rwa [turned.getElem?_ne own], stopped⟩

/-- What a wait is answered does not change any more. -/
theorem Comes.step (comes : Comes queue position value)
    (known : Known events queue) (step : Step queue event after) :
    Comes after position value := by
  cases step with
  | start new =>
      obtain result | ⟨wait, found, stopped⟩ := comes
      · obtain ⟨wait, found⟩ := exists_of_result? result
        exact .inl ((result?_start found).trans result)
      · exact .inr ⟨wait, getElem?_start_eq_some.2 (.inl found), stopped⟩
  | stop other =>
      obtain result | ⟨wait, found, stopped, stops⟩ := comes
      · obtain ⟨wait, found⟩ := exists_of_result? result
        exact .inl ((result?_stop other found).trans result)
      · obtain ⟨after, there, -, stage, keeps⟩ :=
          exists_getElem?_stop other found
        exact .inr ⟨after, there, stage ▸ stopped, keeps stops⟩
  | turn other =>
      have erased : Known events
          { queue with due := queue.due.erase other } :=
        known.of_same rfl rfl rfl rfl
      exact @Comes.turn { queue with due := queue.due.erase other } _ _ _ _
        comes erased
  | answer accepts =>
      obtain ⟨ticket, -, settled⟩ := Broker.exists_of_answer accepts
      exact comes.withBroker settled.answer?_of_some
  | refuse => exact comes
  | withdraw withdraws =>
      obtain ⟨-, rfl⟩ | ⟨-, ticket, -, settled⟩ :=
        Broker.cases_of_withdraw withdraws
      · exact comes.withBroker fun _ _ answer => answer
      · exact comes.withBroker settled.answer?_of_some
  | receive receives =>
      obtain ⟨-, delivered, -⟩ := receive?_eq_some receives
      refine comes.withBroker fun ticket value answer => ?_
      rwa [Broker.answer?, delivered]
  | close => exact comes.withBroker fun _ _ answer => answer

theorem Comes.steps (comes : Comes queue position value)
    (known : Known events queue) (due : AllDue queue)
    {later : List WaitEvent} (steps : Steps queue later after) :
    Comes after position value := by
  induction steps with
  | refl => exact comes
  | step before next ih => exact ih.step (known.steps due before).1 next

/-- A wait is over, with a given answer unless it has been stopped. -/
def Resolves (queue : WaitQueue) (position : Nat) (value : Option String) :
    Prop :=
  ∃ wait, queue.waits[position]? = some wait ∧
    (wait.stage = .answered value ∨
      wait.stage = .stopped ∧ wait.isStopping = true)

theorem Comes.resolves (comes : Comes queue position value)
    (due : AllDue queue) (isDone : queue.due = []) :
    Resolves queue position value := by
  obtain result | ⟨wait, found, stopped⟩ := comes
  · obtain ⟨wait, found⟩ := exists_of_result? result
    refine ⟨wait, found, .inl ?_⟩
    refine ((result?_eq_some_iff found).1 result).resolve_right ?_
    rintro ⟨ticket, parked, answer⟩
    have isDue := due.ready found (.inr ⟨ticket, parked, .inr ⟨value, answer⟩⟩)
    rw [isDone] at isDue
    cases isDue
  · exact ⟨wait, found, .inr stopped⟩

/-- The request with an id is settled with an answer, and only its wait is
concerned. -/
structure Hands (queue : WaitQueue) (id : String) (value : Option String)
    (next : WaitQueue) : Prop where
  /-- Whatever happens next, its wait has the answer, or it is stopped first. -/
  own : ∃ (position : Nat) (wait : Wait),
    queue.waits[position]? = some wait ∧ wait.request.id = id ∧
      next.result? position = some value ∧
      ∀ events later, Steps next events later →
        Comes later position value ∧ Resolves later.settle position value
  others {position : Nat} {wait : Wait}
    (found : queue.waits[position]? = some wait)
    (apart : wait.request.id ≠ id) :
    next.result? position = queue.result? position
  waits : next.waits = queue.waits
  pending {name : String} : name ∈ next.broker.pendingIds ↔
    name ≠ id ∧ name ∈ queue.broker.pendingIds

/-- What waits and a broker keep to after some events. -/
structure Delivers (events : List WaitEvent) (queue : WaitQueue) : Prop where
  pending {id : String} : id ∈ queue.broker.pendingIds ↔
    ∃ (position : Nat) (wait : Wait) (ticket : Nat),
      queue.waits[position]? = some wait ∧ wait.request.id = id ∧
        wait.stage = .parked ticket ∧ ¬ Settles events id
  accepts {id : String} (value : Option String)
    (pending : id ∈ queue.broker.pendingIds) :
    ∃ broker, queue.broker.answer id value = .ok broker ∧
      Hands queue id value (queue.withBroker broker)
  refuses {id : String} (value : Option String)
    (absent : id ∉ queue.broker.pendingIds) :
    queue.broker.answer id value = .error (.notPending id)
  withdraws {id : String} (pending : id ∈ queue.broker.pendingIds) :
    ∃ broker, queue.broker.withdraw id = (true, broker) ∧
      Hands queue id none (queue.withBroker broker)
  finds {id : String} (absent : id ∉ queue.broker.pendingIds) :
    queue.broker.withdraw id = (false, queue.broker)
  settled {id : String} (settles : Settles events id) :
    id ∉ queue.broker.pendingIds
  /-- A wait whose request nobody receives is declined, and only this one. -/
  declines {position : Nat} {wait : Wait}
    (found : queue.waits[position]? = some wait)
    (fresh : wait.stage = .fresh) (goesOn : wait.isStopping = false)
    (closed : queue.broker.isOpen = false) :
    (queue.turn position).waits = (queue.waits.modify position fun wait =>
        { wait with stage := .answered none }) ∧
      (∀ other, other ≠ position →
        (queue.turn position).result? other = queue.result? other) ∧
      ∀ id, id ∈ (queue.turn position).broker.pendingIds ↔
        id ∈ queue.broker.pendingIds
  unlisted {position : Nat} {wait : Wait}
    (found : queue.waits[position]? = some wait)
    (unparked : ∀ ticket, wait.stage ≠ .parked ticket) :
    wait.request.id ∉ queue.broker.pendingIds
  /-- A text that a wait has as its answer has been given under its id. -/
  genuine {position : Nat} {wait : Wait} {text : String}
    (found : queue.waits[position]? = some wait)
    (answered : wait.stage = .answered (some text)) :
    .answer wait.request.id (some text) true ∈ events

theorem Known.hands (known : Known events queue) (due : AllDue queue)
    {ticket : Nat} {broker : Broker}
    (pending : queue.broker.pending.get? id = some ticket)
    (settled : queue.broker.Settled id ticket value broker)
    (next : Step queue event (queue.withBroker broker)) :
    Hands queue id value (queue.withBroker broker) := by
  obtain ⟨position, wait, found, rfl, parked, unanswered⟩ :=
    known.sound.pending.1 pending
  have answer : (queue.withBroker broker).result? position = some value := by
    rw [result?_withBroker,
      @result?_of_getElem? { queue with broker } _ _ found, parked]
    simp [settled.answer?, unanswered]
  have comes : Comes (queue.withBroker broker) position value := .inl answer
  refine ⟨⟨position, wait, found, rfl, answer, ?_⟩, ?_, withBroker_waits, ?_⟩
  · intro events later steps
    have knownNext := known.step next
    have dueNext := due.step known next
    have comesLater := comes.steps knownNext dueNext steps
    have knownLater := knownNext.steps dueNext steps
    obtain ⟨turns, settles⟩ := steps_takeTurns
      (4 * later.waits.length + later.due.length) later
    refine ⟨comesLater, ?_⟩
    exact (comesLater.steps knownLater.1 knownLater.2 settles).resolves
      (knownLater.1.steps knownLater.2 settles).2
      (settle_due_eq_nil knownLater.1 knownLater.2)
  · intro other holder there apart
    rw [result?_withBroker,
      @result?_of_getElem? { queue with broker } _ _ there,
      result?_of_getElem? there]
    cases stage : holder.stage with
    | parked held =>
        have different : ticket ≠ held := by
          rintro rfl
          obtain rfl := known.sound.tickets found there parked stage
          rw [found] at there
          cases there
          exact apart rfl
        simp [settled.answer?, different]
    | _ => rfl
  · intro name
    rw [withBroker_broker, Broker.mem_pendingIds_iff, settled.get?,
      Broker.mem_pendingIds_iff]
    by_cases same : wait.request.id = name
    · simp [same]
    · simp [same, Ne.symm same]

theorem Known.pending_iff (known : Known events queue) :
    id ∈ queue.broker.pendingIds ↔
      ∃ (position : Nat) (wait : Wait) (ticket : Nat),
        queue.waits[position]? = some wait ∧ wait.request.id = id ∧
          wait.stage = .parked ticket ∧ ¬ Settles events id := by
  rw [Broker.mem_pendingIds_iff]
  constructor
  · rintro ⟨ticket, pending⟩
    obtain ⟨position, wait, found, rfl, parked, unanswered⟩ :=
      known.sound.pending.1 pending
    refine ⟨position, wait, ticket, found, rfl, parked, fun settles => ?_⟩
    obtain ⟨value, answer⟩ := (known.settled found parked).2 settles
    rw [unanswered] at answer
    cases answer
  · rintro ⟨position, wait, ticket, found, rfl, parked, unsettled⟩
    refine ⟨ticket, known.sound.pending.2
      ⟨position, wait, found, rfl, parked, ?_⟩⟩
    cases answer : queue.broker.answer? ticket with
    | none => rfl
    | some value =>
        exact (unsettled ((known.settled found parked).1 ⟨value, answer⟩)).elim

/-- Whatever happens to waits whose requests have ids of their own, the pending
requests are those of the waits that are parked, neither answered nor
withdrawn, and an answer comes to the wait of its request and to no other. -/
theorem steps_delivers (steps : Steps .empty events queue) :
    Delivers events queue := by
  obtain ⟨known, due⟩ := Known.empty.steps .empty steps
  rw [List.nil_append] at known
  have absent {id : String} (outside : id ∉ queue.broker.pendingIds) :=
    Broker.not_mem_pendingIds_iff.1 outside
  constructor
  case pending => exact known.pending_iff
  case accepts =>
    intro id value pending
    obtain ⟨ticket, holds⟩ := Broker.mem_pendingIds_iff.1 pending
    obtain ⟨broker, answers, settled⟩ := Broker.answer_of_get? holds value
    exact ⟨broker, answers, known.hands due holds settled (.answer answers)⟩
  case refuses =>
    intro id value outside
    exact Broker.answer_of_absent (absent outside) value
  case withdraws =>
    intro id pending
    obtain ⟨ticket, holds⟩ := Broker.mem_pendingIds_iff.1 pending
    obtain ⟨broker, found, settled⟩ := Broker.withdraw_of_get? holds
    exact ⟨broker, found, known.hands due holds settled (.withdraw found)⟩
  case finds =>
    intro id outside
    exact Broker.withdraw_of_absent (absent outside)
  case settled =>
    intro id settles pending
    obtain ⟨_, _, _, _, _, _, unsettled⟩ := known.pending_iff.1 pending
    exact unsettled settles
  case declines =>
    intro position wait found fresh goesOn closed
    have turned := known.sound.turned found
    have absent := known.sound.absent found (by simp [fresh])
    have others : ∀ other, other ≠ position →
        (queue.turn position).result? other = queue.result? other :=
      fun other => turned.result?_ne known.sound found
    cases turned with
    | rests resting _ => exact (resting (.inl fresh)).elim
    | parks _ _ isOpen _ => simp [closed] at isOpen
    | ends stage ends _ waits get? =>
        cases ends with
        | stopped stops => simp [goesOn] at stops
        | answered _ parked _ => simp [fresh] at parked
        | declined =>
            refine ⟨waits, others, fun id => ?_⟩
            rw [Broker.mem_pendingIds_iff, Broker.mem_pendingIds_iff, get?]
            by_cases same : wait.request.id = id
            · subst same
              simp [absent]
            · simp [same]
  case unlisted =>
    intro position wait found unparked pending
    obtain ⟨ticket, holds⟩ := Broker.mem_pendingIds_iff.1 pending
    exact unparked ticket (known.sound.own found holds)
  case genuine =>
    intro position wait text found answered
    refine known.genuine found ((result?_eq_some_iff found).2 ?_)
    exact .inl answered

/-- Two waits are parked, and the first one is answered: the second one may be
answered afterwards, and the first one may not be answered again. -/
theorem steps_delivers_first :
    ∃ queue,
      Steps .empty
        [.start ⟨"name", "run", "ask", .value ⟨"Name", none, false⟩⟩,
          .start ⟨"town", "run", "ask", .value ⟨"Town", none, false⟩⟩,
          .turn 0, .turn 1, .answer "name" (some "Ada") true] queue ∧
      queue.broker.pendingIds = ["town"] ∧
      queue.broker.answer "name" (some "Eve") =
        .error (.notPending "name") ∧
      ∃ broker, queue.broker.answer "town" (some "Rome") = .ok broker ∧
        Hands queue "town" (some "Rome") (queue.withBroker broker) := by
  have first : Steps .empty _ _ := Steps.refl.step
    (@Step.start _ ⟨"name", "run", "ask", .value ⟨"Name", none, false⟩⟩
      (by decide))
  have second := first.step
    (@Step.start _ ⟨"town", "run", "ask", .value ⟨"Town", none, false⟩⟩
      (by decide))
  have parked := (second.step (.turn 0)).step (.turn 1)
  have answered := parked.step
    (@Step.answer _ "name" (some "Ada") _ (by rfl))
  have delivers := steps_delivers answered
  exact ⟨_, answered, by decide, delivers.refuses (some "Eve") (by decide),
    delivers.accepts (some "Rome") (by decide)⟩

end WaitQueue

end Runbook
