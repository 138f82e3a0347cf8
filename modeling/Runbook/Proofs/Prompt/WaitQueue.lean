import Runbook.Prompt.WaitQueue
import Runbook.Proofs.Prompt.Broker

/-!
# Turns of waits

What a turn does to a wait, to the broker and to the turns that are due.
-/

namespace Runbook

namespace WaitQueue

variable {queue after : WaitQueue} {broker : Broker} {position other : Nat}
  {wait : Wait} {stage : WaitStage} {ticket : Nat}
  {value : Option String}

/-! ### Turns that fall due -/

theorem mem_due_schedule :
    other ∈ (queue.schedule position).due ↔
      other ∈ queue.due ∨ other = position := by
  unfold schedule
  by_cases isDue : position ∈ queue.due
  · have absorbs : other = position → other ∈ queue.due := by
      rintro rfl
      exact isDue
    simp only [List.contains_iff_mem, isDue, if_true]
    exact (or_iff_left_of_imp absorbs).symm
  · simp [isDue]

theorem nodup_schedule (distinct : queue.due.Nodup) :
    (queue.schedule position).due.Nodup := by
  unfold schedule
  by_cases isDue : position ∈ queue.due
  · simpa [isDue] using distinct
  · simpa [isDue, List.nodup_append] using
      ⟨distinct, fun other member same => isDue (same ▸ member)⟩

@[simp] theorem schedule_waits :
    (queue.schedule position).waits = queue.waits := by
  unfold schedule
  split <;> rfl

@[simp] theorem schedule_broker :
    (queue.schedule position).broker = queue.broker := by
  unfold schedule
  split <;> rfl

/-- What holds of a queue when any of some positions have been scheduled. -/
theorem foldl_schedule (positions : List Nat) (queue : WaitQueue) :
    (positions.foldl schedule queue).waits = queue.waits ∧
      (positions.foldl schedule queue).broker = queue.broker ∧
      (∀ other, other ∈ (positions.foldl schedule queue).due ↔
        other ∈ queue.due ∨ other ∈ positions) ∧
      (queue.due.Nodup → (positions.foldl schedule queue).due.Nodup) := by
  induction positions generalizing queue with
  | nil => simp
  | cons position positions ih =>
      obtain ⟨waits, broker, due, nodup⟩ := ih (queue.schedule position)
      rw [List.foldl_cons]
      refine ⟨waits.trans schedule_waits, broker.trans schedule_broker, ?_,
        fun distinct => nodup (nodup_schedule distinct)⟩
      intro other
      rw [due, mem_due_schedule, List.mem_cons, or_assoc]

@[simp] theorem withBroker_waits :
    (queue.withBroker broker).waits = queue.waits :=
  (foldl_schedule _ _).1

@[simp] theorem withBroker_broker :
    (queue.withBroker broker).broker = broker :=
  (foldl_schedule _ _).2.1

theorem mem_due_withBroker :
    other ∈ (queue.withBroker broker).due ↔ other ∈ queue.due ∨
      ∃ wait, queue.waits[other]? = some wait ∧ hasAnswer broker wait := by
  unfold withBroker
  rw [(foldl_schedule _ _).2.2.1 other, List.mem_filter, List.mem_range]
  apply or_congr_right
  cases found : queue.waits[other]? with
  | none => simp
  | some wait =>
      obtain ⟨inside, -⟩ := List.getElem?_eq_some_iff.1 found
      simp [inside]

theorem nodup_due_withBroker (distinct : queue.due.Nodup) :
    (queue.withBroker broker).due.Nodup :=
  (foldl_schedule _ _).2.2.2 distinct

/-! ### Waits and what is pending -/

theorem getElem?_modify_eq_some {waits : List Wait} {change : Wait → Wait} :
    (waits.modify position change)[other]? = some wait ↔
      ∃ held, waits[other]? = some held ∧
        wait = if position = other then change held else held := by
  rw [List.getElem?_modify, Option.map_eq_map, Option.map_eq_some_iff]
  refine exists_congr fun held => and_congr_right fun _ => ?_
  by_cases here : position = other <;> simp [here, eq_comm]

theorem hasAnswer_iff :
    hasAnswer broker wait = true ↔
      ∃ ticket value, wait.stage = .parked ticket ∧
        broker.answer? ticket = some value := by
  obtain ⟨request, stage, isStopping⟩ := wait
  cases stage <;> simp [hasAnswer, Option.isSome_iff_exists]

/-- The waits have ids and tickets of their own, and what is pending is what
the waits that have no answer hold. -/
structure Sound (queue : WaitQueue) : Prop where
  ids {first second : Nat} {wait other : Wait}
    (here : queue.waits[first]? = some wait)
    (there : queue.waits[second]? = some other)
    (same : wait.request.id = other.request.id) : first = second
  tickets {first second : Nat} {wait other : Wait} {ticket : Nat}
    (here : queue.waits[first]? = some wait)
    (there : queue.waits[second]? = some other)
    (parked : wait.stage = .parked ticket)
    (same : other.stage = .parked ticket) : first = second
  issued {position : Nat} {wait : Wait} {ticket : Nat}
    (here : queue.waits[position]? = some wait)
    (parked : wait.stage = .parked ticket) : ticket < queue.broker.nextTicket
  unissued {ticket : Nat} (new : queue.broker.nextTicket ≤ ticket) :
    queue.broker.answer? ticket = none
  pending {id : String} {ticket : Nat} :
    queue.broker.pending.get? id = some ticket ↔
      ∃ (position : Nat) (wait : Wait),
        queue.waits[position]? = some wait ∧ wait.request.id = id ∧
          wait.stage = .parked ticket ∧ queue.broker.answer? ticket = none

/-- A request is pending only with the ticket of its wait. -/
theorem Sound.own (sound : Sound queue)
    (found : queue.waits[position]? = some wait)
    (pending : queue.broker.pending.get? wait.request.id = some ticket) :
    wait.stage = .parked ticket := by
  obtain ⟨other, holder, there, same, parked, -⟩ := sound.pending.1 pending
  obtain rfl := sound.ids found there same.symm
  rw [found] at there
  cases there
  exact parked

theorem Sound.absent (sound : Sound queue)
    (found : queue.waits[position]? = some wait)
    (unparked : ∀ ticket, wait.stage ≠ .parked ticket) :
    queue.broker.pending.get? wait.request.id = none := by
  cases pending : queue.broker.pending.get? wait.request.id with
  | none => rfl
  | some ticket => exact (unparked ticket (sound.own found pending)).elim

/-! ### Turns that are taken -/

/-- The stages in which a wait ends with a turn. -/
inductive Ends (broker : Broker) (wait : Wait) : WaitStage → Prop
  | stopped (isStopping : wait.isStopping = true) : Ends broker wait .stopped
  | answered {ticket : Nat} {value : Option String}
      (goesOn : wait.isStopping = false) (parked : wait.stage = .parked ticket)
      (answer : broker.answer? ticket = some value) :
      Ends broker wait (.answered value)
  /-- Nobody receives its request. -/
  | declined (goesOn : wait.isStopping = false) (fresh : wait.stage = .fresh)
      (closed : broker.isOpen = false) : Ends broker wait (.answered none)

/-- A wait that gets further with its next turn. -/
def IsReady (broker : Broker) (wait : Wait) : Prop :=
  wait.stage = .fresh ∨ ∃ ticket, wait.stage = .parked ticket ∧
    (wait.isStopping = true ∨ ∃ value, broker.answer? ticket = some value)

/-- The turns that a turn makes due are those of waits that have answers, and
perhaps another one of a wait that has just begun. -/
structure Wakes (queue : WaitQueue) (position : Nat) (wait : Wait)
    (after : WaitQueue) : Prop where
  stay {other : Nat} (isDue : other ∈ queue.due) : other ∈ after.due
  nodup (distinct : queue.due.Nodup) : after.due.Nodup
  woken {other : Nat} (isDue : other ∈ after.due) : other ∈ queue.due ∨
    other = position ∧ wait.stage = .fresh ∨
    other ≠ position ∧ ∃ holder, queue.waits[other]? = some holder ∧
      hasAnswer queue.broker holder

theorem Wakes.refl : Wakes queue position wait queue where
  stay isDue := isDue
  nodup distinct := distinct
  woken isDue := .inl isDue

theorem Wakes.enter {before : WaitQueue}
    (wakes : Wakes queue position wait before)
    (same : ∀ other : Nat, other ≠ position →
      before.waits[other]? = queue.waits[other]?)
    (own : wait.stage = .fresh ∨ ∀ ticket, stage ≠ .parked ticket)
    (others : ∀ (other : Nat) (holder : Wait),
      queue.waits[other]? = some holder → hasAnswer broker holder →
        hasAnswer queue.broker holder) :
    Wakes queue position wait
      ((before.enter position stage).withBroker broker) where
  stay isDue := mem_due_withBroker.2 (.inl (wakes.stay isDue))
  nodup distinct := nodup_due_withBroker (wakes.nodup distinct)
  woken {other} isDue := by
    obtain wasDue | ⟨holder, found, answered⟩ := mem_due_withBroker.1 isDue
    · exact wakes.woken wasDue
    · right
      by_cases here : other = position
      · refine .inl ⟨here, own.resolve_right fun unparked => ?_⟩
        obtain ⟨ticket, value, parked, -⟩ := hasAnswer_iff.1 answered
        subst here
        simp only [WaitQueue.enter, List.getElem?_modify_eq,
          Option.map_eq_map, Option.map_eq_some_iff] at found
        obtain ⟨held, -, rfl⟩ := found
        exact unparked ticket parked
      · refine .inr ⟨here, holder, ?_⟩
        rw [WaitQueue.enter, List.getElem?_modify_ne _ _ (Ne.symm here),
          same other here] at found
        exact ⟨found, others other holder found answered⟩

/-- What a turn of a wait comes to. -/
inductive Turned (queue : WaitQueue) (position : Nat) (wait : Wait)
    (after : WaitQueue) : Prop
  | rests (resting : ¬ IsReady queue.broker wait) (same : after = queue)
  | parks (fresh : wait.stage = .fresh) (goesOn : wait.isStopping = false)
      (isOpen : queue.broker.isOpen)
      (waits : after.waits = queue.waits.modify position fun wait =>
        { wait with stage := .parked queue.broker.nextTicket })
      (asked : queue.broker.Asked wait.request.id after.broker)
      (wakes : Wakes queue position wait after)
  | ends (stage : WaitStage) (ends : Ends queue.broker wait stage)
      (unfinished : wait.stage = .fresh ∨
        ∃ ticket, wait.stage = .parked ticket)
      (waits : after.waits = queue.waits.modify position fun wait =>
        { wait with stage })
      (get? : ∀ name, after.broker.pending.get? name =
        if wait.request.id = name then none
        else queue.broker.pending.get? name)
      (answer? : ∀ other, after.broker.answer? other =
        if wait.stage = .parked other then none
        else queue.broker.answer? other)
      (nextTicket : queue.broker.nextTicket ≤ after.broker.nextTicket)
      (isOpen : after.broker.isOpen = queue.broker.isOpen)
      (wakes : Wakes queue position wait after)

theorem take_of_none (unanswered : queue.broker.answer? ticket = none)
    (request : PromptRequest) :
    queue.take position request ticket = queue := by
  rw [take, unanswered]

theorem take_of_some {value : Option String}
    (answer : queue.broker.answer? ticket = some value)
    (request : PromptRequest) :
    queue.take position request ticket =
      (queue.enter position (.answered value)).withBroker
        (queue.broker.leave request.id ticket) := by
  rw [take, answer]

/-- A wait that holds a ticket ends without it. -/
theorem Sound.turned_of_ends (sound : Sound queue)
    (found : queue.waits[position]? = some wait)
    (parked : wait.stage = .parked ticket)
    (ends : Ends queue.broker wait stage) :
    Turned queue position wait ((queue.enter position stage).withBroker
      (queue.broker.leave wait.request.id ticket)) := by
  have left := queue.broker.leave_spec wait.request.id ticket
    fun held pending => by
      have same := sound.own found pending
      simpa [parked] using same.symm
  refine .ends stage ends (.inr ⟨ticket, parked⟩) ?_ ?_ ?_ ?_ ?_ ?_
  · simp [enter]
  · simpa using left.get?
  · simpa [parked] using left.answer?
  · simp [left.nextTicket]
  · simp [left.isOpen]
  · refine Wakes.refl.enter (fun other _ => rfl) (.inr ?_) ?_
    · intro held same
      cases ends <;> cases same
    · intro other holder _ answered
      rw [hasAnswer_iff] at answered ⊢
      obtain ⟨held, value, holds, answer⟩ := answered
      rw [left.answer?] at answer
      split at answer
      · cases answer
      · exact ⟨held, value, holds, answer⟩

/-- A wait that has its first turn parks, or ends as declined. -/
theorem Sound.turned_of_ask (sound : Sound queue)
    (found : queue.waits[position]? = some wait)
    (fresh : wait.stage = .fresh) (goesOn : wait.isStopping = false)
    {asked : Broker}
    (asks : queue.broker.ask wait.request = (ticket, asked)) :
    Turned queue position wait
      (((queue.enter position (.parked ticket)).withBroker asked).take
        position wait.request ticket) := by
  have absent := sound.absent found (by simp [fresh])
  have unissued := sound.unissued (Nat.le_refl _)
  cases isOpen : queue.broker.isOpen with
  | true =>
      obtain ⟨broker, result, asked⟩ := Broker.ask_of_isOpen isOpen absent
      obtain ⟨rfl, rfl⟩ := Prod.mk.inj (asks.symm.trans result)
      rw [take_of_none (by simp [asked.answer?, unissued])]
      refine .parks fresh goesOn isOpen ?_ ?_ ?_
      · simp [enter]
      · simpa using asked
      · refine Wakes.refl.enter (fun other _ => rfl) (.inl fresh) ?_
        intro other holder _ answered
        rw [hasAnswer_iff] at answered ⊢
        simpa only [asked.answer?] using answered
  | false =>
      obtain ⟨broker, result, declined⟩ := Broker.ask_of_closed isOpen absent
      obtain ⟨rfl, rfl⟩ := Prod.mk.inj (asks.symm.trans result)
      have answer : asked.answer? queue.broker.nextTicket = some none := by
        simp [declined.answer?, unissued]
      have left := asked.leave_spec wait.request.id queue.broker.nextTicket
        fun held pending => by
          rw [declined.pending, absent] at pending
          cases pending
      -- No wait but this one holds the new ticket.
      have others : ∀ (other : Nat) (holder : Wait),
          queue.waits[other]? = some holder → hasAnswer asked holder →
            hasAnswer queue.broker holder := by
        intro other holder there answered
        rw [hasAnswer_iff] at answered ⊢
        obtain ⟨held, value, holds, answer⟩ := answered
        have older : queue.broker.nextTicket ≠ held :=
          Nat.ne_of_gt (sound.issued there holds)
        rw [declined.answer?, if_neg older, Option.or_none] at answer
        exact ⟨held, value, holds, answer⟩
      rw [take_of_some (by simpa using answer)]
      refine .ends (.answered none) (.declined goesOn fresh isOpen)
        (.inl fresh) ?_ ?_ ?_ ?_ ?_ ?_
      · simp [enter, List.modify_modify_eq, Function.comp_def]
      · simp [left.get?, declined.pending]
      · intro other
        simp only [withBroker_broker, left.answer?, declined.answer?, fresh]
        by_cases same : queue.broker.nextTicket = other
        · subst same
          simp [unissued]
        · simp [same]
      · simp [left.nextTicket, declined.nextTicket]
      · simp [left.isOpen, declined.isOpen]
      · refine (Wakes.refl.enter (fun other _ => rfl) (.inl fresh)
          others).enter ?_ (.inl fresh) ?_
        · intro other different
          simp [enter, List.getElem?_modify_ne _ _ different.symm]
        · intro other holder there answered
          refine others other holder there ?_
          rw [hasAnswer_iff] at answered ⊢
          obtain ⟨held, value, holds, answer⟩ := answered
          rw [withBroker_broker, left.answer?] at answer
          split at answer
          · cases answer
          · exact ⟨held, value, holds, answer⟩

theorem Sound.turned (sound : Sound queue)
    (found : queue.waits[position]? = some wait) :
    Turned queue position wait (queue.turn position) := by
  cases stage : wait.stage with
  | fresh =>
      cases stopping : wait.isStopping with
      | true =>
          have absent := sound.absent found (by simp [stage])
          simp only [turn, found, stage, stopping]
          refine .ends .stopped (.stopped stopping) (.inl stage) rfl ?_ ?_
            (Nat.le_refl _) rfl ⟨id, id, .inl⟩
          · intro name
            by_cases same : wait.request.id = name
            · subst same
              simpa [enter] using absent
            · simp [enter, same]
          · simp [enter, stage]
      | false =>
          simp only [turn, found, stage, stopping]
          exact sound.turned_of_ask found stage stopping rfl
  | parked ticket =>
      cases stopping : wait.isStopping with
      | true =>
          simp only [turn, found, stage, stopping]
          exact sound.turned_of_ends found stage (.stopped stopping)
      | false =>
          cases answer : queue.broker.answer? ticket with
          | none =>
              refine .rests ?_ ?_
              · simp [IsReady, stage, stopping, answer]
              · simp only [turn, found, stage, stopping]
                exact take_of_none answer wait.request
          | some value =>
              simp only [turn, found, stage, stopping]
              rw [take_of_some answer]
              exact sound.turned_of_ends found stage
                (.answered stopping stage answer)
  | answered value =>
      exact .rests (by simp [IsReady, stage])
        (by simp only [turn, found, stage])
  | stopped =>
      exact .rests (by simp [IsReady, stage])
        (by simp only [turn, found, stage])

/-! ### Answers of waits -/

/-- What a wait has been answered, also if it has not had a turn since. -/
def result? (queue : WaitQueue) (position : Nat) : Option (Option String) :=
  queue.waits[position]?.bind fun wait =>
    match wait.stage with
    | .parked ticket => queue.broker.answer? ticket
    | .answered value => some value
    | _ => none

theorem result?_of_getElem? (found : queue.waits[position]? = some wait) :
    queue.result? position = match wait.stage with
      | .parked ticket => queue.broker.answer? ticket
      | .answered value => some value
      | _ => none := by
  rw [result?, found, Option.bind_some]

theorem result?_eq_some_iff (found : queue.waits[position]? = some wait) :
    queue.result? position = some value ↔
      wait.stage = .answered value ∨
        ∃ ticket, wait.stage = .parked ticket ∧
          queue.broker.answer? ticket = some value := by
  rw [result?_of_getElem? found]
  cases wait.stage <;> simp

theorem exists_of_result? (result : queue.result? position = some value) :
    ∃ wait, queue.waits[position]? = some wait := by
  cases found : queue.waits[position]? with
  | none => simp [result?, found] at result
  | some wait => exact ⟨wait, rfl⟩

theorem result?_withBroker {broker : Broker} :
    (queue.withBroker broker).result? position =
      { queue with broker }.result? position := by
  simp [result?]

theorem turn_of_getElem?_eq_none (outside : queue.waits[position]? = none) :
    queue.turn position = queue := by
  rw [turn, outside]

theorem Turned.getElem?_ne {other : Nat}
    (turned : Turned queue position wait after) (apart : other ≠ position) :
    after.waits[other]? = queue.waits[other]? := by
  cases turned with
  | rests _ same => rw [same]
  | parks _ _ _ waits => rw [waits, List.getElem?_modify_ne _ _ apart.symm]
  | ends _ _ _ waits => rw [waits, List.getElem?_modify_ne _ _ apart.symm]

/-- A turn of one wait makes no difference to the answers of another one. -/
theorem Turned.answer?_ne (turned : Turned queue position wait after)
    (sound : Sound queue) (found : queue.waits[position]? = some wait)
    {other ticket : Nat} {holder : Wait} (apart : other ≠ position)
    (there : queue.waits[other]? = some holder)
    (parked : holder.stage = .parked ticket) :
    after.broker.answer? ticket = queue.broker.answer? ticket := by
  cases turned with
  | rests _ same => rw [same]
  | parks _ _ _ _ asked => exact asked.answer? ticket
  | ends _ _ _ _ _ answer? =>
      rw [answer?, if_neg]
      exact fun own => apart (sound.tickets there found parked own)

theorem Turned.result?_ne (turned : Turned queue position wait after)
    (sound : Sound queue) (found : queue.waits[position]? = some wait)
    {other : Nat} (apart : other ≠ position) :
    after.result? other = queue.result? other := by
  unfold result?
  rw [turned.getElem?_ne apart]
  cases there : queue.waits[other]? with
  | none => rfl
  | some holder =>
      simp only [Option.bind_some]
      cases parked : holder.stage with
      | parked ticket =>
          exact turned.answer?_ne sound found apart there parked
      | _ => rfl

/-- A turn does not change the answer of its wait, unless the wait is stopped
with it or its request is received by nobody. -/
theorem Turned.result?_self (turned : Turned queue position wait after)
    (sound : Sound queue) (found : queue.waits[position]? = some wait) :
    after.result? position = queue.result? position ∨
      (wait.isStopping = true ∧
        after.waits[position]? = some { wait with stage := .stopped }) ∨
      (wait.stage = .fresh ∧ queue.broker.isOpen = false ∧
        after.waits[position]? =
          some { wait with stage := .answered none }) := by
  have before := result?_of_getElem? found
  cases turned with
  | rests _ same => exact .inl (same ▸ rfl)
  | parks fresh _ _ waits asked =>
      left
      have unissued := sound.unissued (Nat.le_refl queue.broker.nextTicket)
      rw [before, fresh, result?, waits]
      simp [found, asked.answer?, unissued]
  | ends stage ends _ waits =>
      have entered : after.waits[position]? = some { wait with stage } := by
        simp [waits, found]
      cases ends with
      | stopped isStopping => exact .inr (.inl ⟨isStopping, entered⟩)
      | answered goesOn parked answer =>
          left
          rw [before, parked, result?_of_getElem? entered]
          exact answer.symm
      | declined _ fresh closed =>
          exact .inr (.inr ⟨fresh, closed, entered⟩)

theorem Turned.wakes (turned : Turned queue position wait after) :
    Wakes queue position wait after := by
  cases turned with
  | rests _ same => exact same ▸ .refl
  | parks _ _ _ _ _ wakes => exact wakes
  | ends _ _ _ _ _ _ _ _ wakes => exact wakes

/-- After its turn a wait does not get further with another one. -/
theorem Turned.not_isReady (turned : Turned queue position wait after)
    (sound : Sound queue) (found : queue.waits[position]? = some wait)
    {there : Wait} (here : after.waits[position]? = some there) :
    ¬ IsReady after.broker there := by
  cases turned with
  | rests resting same =>
      rw [same, found] at here
      cases here
      exact same ▸ resting
  | parks _ goesOn _ waits asked =>
      have unissued := sound.unissued (Nat.le_refl queue.broker.nextTicket)
      rw [waits, List.getElem?_modify_eq, found] at here
      cases here
      simp [IsReady, goesOn, asked.answer?, unissued]
  | ends _ ends _ waits =>
      rw [waits, List.getElem?_modify_eq, found] at here
      cases here
      cases ends <;> simp [IsReady]

theorem Turned.isReady_ne (turned : Turned queue position wait after)
    (sound : Sound queue) (found : queue.waits[position]? = some wait)
    {other : Nat} {holder : Wait} (apart : other ≠ position)
    (there : queue.waits[other]? = some holder)
    (isReady : IsReady after.broker holder) :
    IsReady queue.broker holder := by
  refine isReady.imp_right ?_
  rintro ⟨ticket, parked, further⟩
  rw [turned.answer?_ne sound found apart there parked] at further
  exact ⟨ticket, parked, further⟩

/-- A turn moves no wait but forward. -/
theorem Turned.exists_later (turned : Turned queue position wait after)
    {other : Nat} {holder : Wait}
    (there : queue.waits[other]? = some holder) :
    ∃ later, after.waits[other]? = some later ∧
      later.request = holder.request ∧
      later.isStopping = holder.isStopping ∧
      (holder.stage ≠ .fresh → later.stage ≠ .fresh) := by
  have enters : ∀ stage, stage ≠ .fresh →
      after.waits = queue.waits.modify position (fun wait =>
        { wait with stage }) →
      ∃ later, after.waits[other]? = some later ∧
        later.request = holder.request ∧
        later.isStopping = holder.isStopping ∧
        (holder.stage ≠ .fresh → later.stage ≠ .fresh) := by
    intro stage further waits
    refine ⟨if position = other then { holder with stage } else holder,
      ?_, ?_, ?_, ?_⟩
    · rw [waits, getElem?_modify_eq_some]
      exact ⟨holder, there, rfl⟩
    · split <;> rfl
    · split <;> rfl
    · intro begun
      split
      · exact further
      · exact begun
  cases turned with
  | rests _ same => exact ⟨holder, same ▸ there, rfl, rfl, id⟩
  | parks _ _ _ waits =>
      exact enters (.parked queue.broker.nextTicket) nofun waits
  | ends _ ends _ waits =>
      refine enters _ ?_ waits
      cases ends <;> nofun

end WaitQueue

end Runbook
