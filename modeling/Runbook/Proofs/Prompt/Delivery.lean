import Runbook.Proofs.Prompt.Apart

/-!
# Waits and what has happened to them

Waits start, are stopped and take turns, while requests are answered and
withdrawn under any ids, in any order.  Which waits have answers is known from
the answers and withdrawals that have happened.
-/

namespace Runbook

/-- What happens to waits that use one broker. -/
inductive WaitEvent
  | start (request : PromptRequest)
  | stop (position : Nat)
  | turn (position : Nat)
  | answer (id : String) (value : Option String) (isAccepted : Bool)
  | withdraw (id : String) (isFound : Bool)
  | receive
  | close
deriving DecidableEq

namespace WaitQueue

variable {queue after : WaitQueue} {event : WaitEvent}
  {events : List WaitEvent} {position : Nat} {wait : Wait} {id : String}
  {value : Option String} {stage : WaitStage}

/-- One event.  Every request has an id of its own, and a turn may be taken at
any time. -/
inductive Step (queue : WaitQueue) : WaitEvent → WaitQueue → Prop
  | start {request : PromptRequest}
      (new : ∀ wait ∈ queue.waits, wait.request.id ≠ request.id) :
      Step queue (.start request) (queue.start request).2
  | stop (position : Nat) : Step queue (.stop position) (queue.stop position)
  | turn (position : Nat) :
      Step queue (.turn position)
        ({ queue with due := queue.due.erase position }.turn position)
  | answer {id : String} {value : Option String} {broker : Broker}
      (accepts : queue.broker.answer id value = .ok broker) :
      Step queue (.answer id value true) (queue.withBroker broker)
  | refuse {id : String} {value : Option String} {error : PromptError}
      (refuses : queue.broker.answer id value = .error error) :
      Step queue (.answer id value false) queue
  | withdraw {id : String} {isFound : Bool} {broker : Broker}
      (withdraws : queue.broker.withdraw id = (isFound, broker)) :
      Step queue (.withdraw id isFound) (queue.withBroker broker)
  | receive {request : PromptRequest} {broker : Broker}
      (receives : queue.broker.receive? = some (request, broker)) :
      Step queue .receive (queue.withBroker broker)
  | close : Step queue .close (queue.withBroker queue.broker.close)

inductive Steps (first : WaitQueue) : List WaitEvent → WaitQueue → Prop
  | refl : Steps first [] first
  | step {queue after : WaitQueue} {events : List WaitEvent}
      {event : WaitEvent} (steps : Steps first events queue)
      (next : Step queue event after) : Steps first (events ++ [event]) after

/-- The request with an id has been answered or withdrawn. -/
def Settles (events : List WaitEvent) (id : String) : Prop :=
  (∃ value, .answer id value true ∈ events) ∨ .withdraw id true ∈ events

/-! ### What holds after some events -/

/-- What holds of waits and the events that have led to them. -/
structure Known (events : List WaitEvent) (queue : WaitQueue) : Prop where
  sound : Sound queue
  settled {position : Nat} {wait : Wait} {ticket : Nat}
    (found : queue.waits[position]? = some wait)
    (parked : wait.stage = .parked ticket) :
    (∃ value, queue.broker.answer? ticket = some value) ↔
      Settles events wait.request.id
  begun {id : String} (settles : Settles events id) :
    ∃ (position : Nat) (wait : Wait), queue.waits[position]? = some wait ∧
      wait.request.id = id ∧ wait.stage ≠ .fresh
  genuine {position : Nat} {wait : Wait} {text : String}
    (found : queue.waits[position]? = some wait)
    (result : queue.result? position = some (some text)) :
    .answer wait.request.id (some text) true ∈ events

/-- The waits that get further have a turn each. -/
structure AllDue (queue : WaitQueue) : Prop where
  ready {position : Nat} {wait : Wait}
    (found : queue.waits[position]? = some wait)
    (isReady : IsReady queue.broker wait) : position ∈ queue.due
  nodup : queue.due.Nodup

theorem AllDue.empty : AllDue WaitQueue.empty where
  ready found := by simp [WaitQueue.empty] at found
  nodup := List.nodup_nil

theorem Known.empty : Known [] WaitQueue.empty where
  sound := .empty
  settled found := by simp [WaitQueue.empty] at found
  begun settles := by simp [Settles] at settles
  genuine found := by simp [WaitQueue.empty] at found

theorem settles_concat :
    Settles (events ++ [event]) id ↔
      Settles events id ∨ Settles [event] id := by
  simp only [Settles, List.mem_append, exists_or]
  exact or_or_or_comm

/-- Events that settle nothing. -/
def IsQuiet (event : WaitEvent) : Prop :=
  ∀ id, ¬ Settles [event] id

theorem settles_concat_of_quiet (quiet : IsQuiet event) :
    Settles (events ++ [event]) id ↔ Settles events id := by
  rw [settles_concat, or_iff_left (quiet id)]

theorem Known.of_quiet (known : Known events queue) (quiet : IsQuiet event) :
    Known (events ++ [event]) queue where
  sound := known.sound
  settled found parked := by
    rw [settles_concat_of_quiet quiet]
    exact known.settled found parked
  begun settles := known.begun ((settles_concat_of_quiet quiet).1 settles)
  genuine found result :=
    List.mem_append_left _ (known.genuine found result)

/-! ### Waits that start, are stopped or take turns -/

theorem result?_start {request : PromptRequest}
    (found : queue.waits[position]? = some wait) :
    (queue.start request).2.result? position = queue.result? position := by
  have kept := (@getElem?_start_eq_some _ _ _ request).2 (.inl found)
  rw [result?_of_getElem? kept, result?_of_getElem? found, start_broker]

theorem result?_stop {other : Nat} (position : Nat)
    (found : queue.waits[other]? = some wait) :
    (queue.stop position).result? other = queue.result? other := by
  obtain ⟨after, there, -, stage, -⟩ := exists_getElem?_stop position found
  rw [result?_of_getElem? there, result?_of_getElem? found, stop_broker, stage]

theorem Known.start (known : Known events queue) {request : PromptRequest}
    (new : ∀ wait ∈ queue.waits, wait.request.id ≠ request.id) :
    Known (events ++ [.start request]) (queue.start request).2 where
  sound := known.sound.start new
  settled found parked := by
    rw [start_broker, settles_concat_of_quiet (by simp [IsQuiet, Settles])]
    rcases getElem?_start_eq_some.1 found with found | ⟨-, rfl⟩
    · exact known.settled found parked
    · cases parked
  begun settles := by
    rw [settles_concat_of_quiet (by simp [IsQuiet, Settles])] at settles
    obtain ⟨position, wait, found, same, begun⟩ := known.begun settles
    exact ⟨position, wait, getElem?_start_eq_some.2 (.inl found), same, begun⟩
  genuine found result := by
    rcases getElem?_start_eq_some.1 found with here | ⟨-, rfl⟩
    · rw [result?_start here] at result
      exact List.mem_append_left _ (known.genuine here result)
    · simp [result?_of_getElem? found] at result

theorem AllDue.start (due : AllDue queue) (request : PromptRequest) :
    AllDue (queue.start request).2 where
  ready found isReady := by
    rw [start_broker] at isReady
    refine mem_due_schedule.2 ?_
    rcases getElem?_start_eq_some.1 found with found | ⟨rfl, -⟩
    · exact .inl (due.ready found isReady)
    · exact .inr rfl
  nodup := nodup_schedule due.nodup

theorem Known.stop (known : Known events queue) (position : Nat) :
    Known (events ++ [.stop position]) (queue.stop position) where
  sound := known.sound.stop position
  settled found parked := by
    obtain ⟨held, here, request, stage, -⟩ := exists_of_stop found
    rw [stop_broker, settles_concat_of_quiet (by simp [IsQuiet, Settles]),
      request]
    exact known.settled here (stage ▸ parked)
  begun settles := by
    rw [settles_concat_of_quiet (by simp [IsQuiet, Settles])] at settles
    obtain ⟨other, wait, found, same, begun⟩ := known.begun settles
    obtain ⟨after, there, request, stage, -⟩ :=
      exists_getElem?_stop position found
    exact ⟨other, after, there, request ▸ same, stage ▸ begun⟩
  genuine found result := by
    obtain ⟨held, here, request, -⟩ := exists_of_stop found
    rw [result?_stop position here] at result
    rw [request]
    exact List.mem_append_left _ (known.genuine here result)

theorem AllDue.stop (due : AllDue queue) (position : Nat) :
    AllDue (queue.stop position) where
  ready {other wait} found isReady := by
    obtain ⟨held, here, -, -, same⟩ := exists_of_stop found
    refine mem_due_schedule.2 ?_
    by_cases own : other = position
    · exact .inr own
    · rw [stop_broker, same own] at isReady
      exact .inl (due.ready here isReady)
  nodup := nodup_schedule due.nodup

theorem Known.turned (known : Known events queue)
    (found : queue.waits[position]? = some wait)
    (turned : Turned queue position wait after) (sound : Sound after) :
    Known events after where
  sound := sound
  settled {other holder ticket} here parked := by
    by_cases own : other = position
    · subst own
      cases turned with
      | rests _ same =>
          subst same
          exact known.settled here parked
      | parks fresh _ _ waits asked =>
          rw [waits, List.getElem?_modify_eq, found] at here
          cases here
          cases parked
          rw [asked.answer?, known.sound.unissued (Nat.le_refl _)]
          refine iff_of_false (by simp) fun settles => ?_
          obtain ⟨owner, held, there, same, begun⟩ := known.begun settles
          obtain rfl := known.sound.ids there found same
          rw [found] at there
          cases there
          exact begun fresh
      | ends _ ends _ waits =>
          rw [waits, List.getElem?_modify_eq, found] at here
          cases here
          cases ends <;> cases parked
    · rw [turned.getElem?_ne own] at here
      rw [turned.answer?_ne known.sound found own here parked]
      exact known.settled here parked
  begun settles := by
    obtain ⟨other, holder, there, rfl, begun⟩ := known.begun settles
    obtain ⟨later, here, same, -, further⟩ := turned.exists_later there
    exact ⟨other, later, here, same ▸ rfl, further begun⟩
  genuine {other holder text} here result := by
    by_cases own : other = position
    · subst own
      obtain ⟨later, there, same, -⟩ := turned.exists_later found
      rw [here] at there
      cases there
      rcases turned.result?_self known.sound found with
        kept | ⟨-, entered⟩ | ⟨-, -, entered⟩
      · rw [same]
        exact known.genuine found (kept ▸ result)
      · rw [result?_of_getElem? entered] at result
        cases result
      · rw [result?_of_getElem? entered] at result
        cases result
    · rw [turned.getElem?_ne own] at here
      rw [turned.result?_ne known.sound found own] at result
      exact known.genuine here result

theorem Known.turn (known : Known events queue) (position : Nat) :
    Known (events ++ [.turn position]) (queue.turn position) := by
  have quiet : IsQuiet (.turn position) := by simp [IsQuiet, Settles]
  refine Known.of_quiet ?_ quiet
  have sound := known.sound.turn position
  cases found : queue.waits[position]? with
  | none => rwa [turn_of_getElem?_eq_none found]
  | some wait =>
      exact known.turned found (known.sound.turned found) sound

theorem AllDue.turn (due : AllDue queue) (known : Known events queue)
    (position : Nat) :
    AllDue ({ queue with due := queue.due.erase position }.turn position) := by
  have sound : Sound { queue with due := queue.due.erase position } :=
    known.sound.of_same rfl rfl rfl rfl
  have others {other : Nat} {holder : Wait} (apart : other ≠ position)
      (there : queue.waits[other]? = some holder)
      (isReady : IsReady queue.broker holder) :
      other ∈ queue.due.erase position :=
    (List.mem_erase_of_ne apart).2 (due.ready there isReady)
  cases found : queue.waits[position]? with
  | none =>
      have rests := @turn_of_getElem?_eq_none
        { queue with due := queue.due.erase position } position found
      rw [rests]
      refine ⟨fun {other holder} there isReady => ?_,
        due.nodup.erase position⟩
      refine others ?_ there isReady
      rintro rfl
      rw [found] at there
      cases there
  | some wait =>
      have turned := sound.turned found
      refine ⟨fun {other holder} here isReady => ?_,
        turned.wakes.nodup (due.nodup.erase position)⟩
      by_cases own : other = position
      · subst own
        exact (turned.not_isReady sound found here isReady).elim
      · rw [turned.getElem?_ne own] at here
        refine turned.wakes.stay (others own here ?_)
        exact turned.isReady_ne sound found own here isReady

/-! ### Requests that are answered or withdrawn -/

theorem Known.settle (known : Known events queue) {ticket : Nat}
    {broker : Broker} (pending : queue.broker.pending.get? id = some ticket)
    (settled : queue.broker.Settled id ticket value broker)
    (settles : ∀ name, Settles [event] name ↔ id = name)
    (genuine : ∀ text, value = some text →
      event = .answer id (some text) true) :
    Known (events ++ [event]) (queue.withBroker broker) := by
  obtain ⟨holder, owner, held, rfl, parked, -⟩ := known.sound.pending.1 pending
  refine ⟨known.sound.settle pending settled, ?_, ?_, ?_⟩
  · intro position wait other found holds
    rw [withBroker_waits] at found
    rw [withBroker_broker, settled.answer?, settles_concat, settles,
      ← known.settled found holds]
    by_cases own : ticket = other
    · subst own
      obtain rfl := known.sound.tickets held found parked holds
      rw [held] at found
      cases found
      cases queue.broker.answer? ticket <;> simp
    · have apart : owner.request.id ≠ wait.request.id := by
        intro same
        obtain rfl := known.sound.ids held found same
        rw [held] at found
        cases found
        rw [parked] at holds
        cases holds
        exact own rfl
      simp [own, apart]
  · intro name settled
    rw [settles_concat, settles] at settled
    rcases settled with before | rfl
    · simpa only [withBroker_waits] using known.begun before
    · refine ⟨holder, owner, ?_, rfl, by simp [parked]⟩
      rwa [withBroker_waits]
  · intro position wait text found result
    rw [withBroker_waits] at found
    rw [result?_withBroker] at result
    have before := @known.genuine position wait text found
    rw [result?_of_getElem? found] at before
    rw [@result?_of_getElem? { queue with broker } position wait found]
      at result
    cases stage : wait.stage with
    | parked other =>
        simp only [stage, settled.answer?] at before result
        cases answer : queue.broker.answer? other with
        | some given =>
            rw [answer, Option.some_or] at result
            exact List.mem_append_left _ (before (answer.trans result))
        | none =>
            rw [answer, Option.none_or, Option.ite_none_right_eq_some]
              at result
            obtain ⟨rfl, same⟩ := result
            obtain rfl := known.sound.tickets held found parked stage
            rw [held] at found
            cases found
            rw [genuine text (Option.some.inj same)]
            exact List.mem_append_right _ List.mem_cons_self
    | answered given =>
        simp only [stage] at before result
        exact List.mem_append_left _ (before result)
    | fresh => simp [stage] at result
    | stopped => simp [stage] at result

/-- Nothing else happens to the waits when requests are received. -/
theorem Known.of_same (known : Known events queue)
    (waits : after.waits = queue.waits)
    (pending : after.broker.pending = queue.broker.pending)
    (delivered : after.broker.delivered = queue.broker.delivered)
    (nextTicket : after.broker.nextTicket = queue.broker.nextTicket) :
    Known events after := by
  have answers : ∀ ticket,
      after.broker.answer? ticket = queue.broker.answer? ticket := by
    intro ticket
    rw [Broker.answer?, delivered, Broker.answer?]
  refine ⟨known.sound.of_same waits pending delivered nextTicket,
    ?_, ?_, ?_⟩
  · intro position wait ticket found parked
    rw [waits] at found
    rw [answers]
    exact known.settled found parked
  · intro id settles
    rw [waits]
    exact known.begun settles
  · intro position wait text found result
    unfold result? at result
    simp only [waits, answers] at found result
    exact known.genuine found result

/-- The waits to which a broker has delivered answers have turns. -/
theorem AllDue.withBroker (due : AllDue queue) {broker : Broker} :
    AllDue (queue.withBroker broker) where
  ready {position wait} found isReady := by
    rw [withBroker_waits] at found
    rw [withBroker_broker] at isReady
    refine mem_due_withBroker.2 ?_
    rcases isReady with fresh | ⟨ticket, parked, stops | answered⟩
    · exact .inl (due.ready found (.inl fresh))
    · exact .inl (due.ready found (.inr ⟨ticket, parked, .inl stops⟩))
    · obtain ⟨value, answer⟩ := answered
      exact .inr ⟨wait, found, hasAnswer_iff.2 ⟨ticket, value, parked, answer⟩⟩
  nodup := nodup_due_withBroker due.nodup

theorem receive?_eq_some {broker after : Broker} {request : PromptRequest}
    (receives : broker.receive? = some (request, after)) :
    after.pending = broker.pending ∧ after.delivered = broker.delivered ∧
      after.nextTicket = broker.nextTicket := by
  unfold Broker.receive? at receives
  split at receives
  · cases receives
  · cases receives
    exact ⟨rfl, rfl, rfl⟩

/-- What is known of waits is known after one more event. -/
theorem Known.step (known : Known events queue)
    (step : Step queue event after) : Known (events ++ [event]) after := by
  cases step with
  | start new => exact known.start new
  | stop position => exact known.stop position
  | turn position =>
      have erased : Known events
          { queue with due := queue.due.erase position } :=
        known.of_same rfl rfl rfl rfl
      exact erased.turn position
  | answer accepts =>
      obtain ⟨ticket, pending, settled⟩ := Broker.exists_of_answer accepts
      refine known.settle pending settled ?_ ?_
      · simp [Settles, eq_comm]
      · rintro text rfl
        rfl
  | refuse => exact known.of_quiet (by simp [IsQuiet, Settles])
  | withdraw withdraws =>
      obtain ⟨rfl, rfl⟩ | ⟨rfl, ticket, pending, settled⟩ :=
        Broker.cases_of_withdraw withdraws
      · refine Known.of_quiet ?_ (by simp [IsQuiet, Settles])
        exact known.of_same withBroker_waits (by simp) (by simp) (by simp)
      · refine known.settle pending settled ?_ nofun
        simp [Settles, eq_comm]
  | receive receives =>
      obtain ⟨pending, delivered, nextTicket⟩ := receive?_eq_some receives
      refine Known.of_quiet ?_ (by simp [IsQuiet, Settles])
      exact known.of_same withBroker_waits (by simp [pending])
        (by simp [delivered]) (by simp [nextTicket])
  | close =>
      refine Known.of_quiet ?_ (by simp [IsQuiet, Settles])
      exact known.of_same withBroker_waits (by simp [Broker.close])
        (by simp [Broker.close]) (by simp [Broker.close])

theorem AllDue.step (due : AllDue queue) (known : Known events queue)
    (step : Step queue event after) : AllDue after := by
  cases step with
  | start => exact due.start _
  | stop position => exact due.stop position
  | turn position => exact due.turn known position
  | answer => exact due.withBroker
  | refuse => exact due
  | withdraw => exact due.withBroker
  | receive => exact due.withBroker
  | close => exact due.withBroker

theorem Known.steps {first : WaitQueue} {before : List WaitEvent}
    (known : Known before first) (due : AllDue first)
    (steps : Steps first events queue) :
    Known (before ++ events) queue ∧ AllDue queue := by
  induction steps with
  | refl => exact ⟨by simpa using known, due⟩
  | step _ next ih =>
      rw [← List.append_assoc]
      exact ⟨ih.1.step next, ih.2.step ih.1 next⟩

end WaitQueue

end Runbook
