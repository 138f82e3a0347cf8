import Runbook.Proofs.Run.Transcript

/-!
# Runs alike

Two runs are alike if they call, wait, ask and log the same in the same order,
whatever is replied to them, and end with related values.  The first one may
log under a longer path, the second one may look at the clock in between, and
the status of a run does not count.  The first run may also trip, and then
nothing is said of the second one.  Runs that are alike come to the same with
every oracle.
-/

namespace Runbook

/-- Requests of two runs for one answer: they ask the same at the same node.
They are the same request if the runs are given the same ids. -/
structure PromptRequest.Twins (sameIds : Prop) (first second : PromptRequest) :
    Prop where
  nodeId_eq : first.nodeId = second.nodeId
  prompt_eq : first.prompt = second.prompt
  eq_of_sameIds : sameIds → first = second

namespace Program

variable {α β γ δ : Type}

/-- What runs ask to end with a value. -/
abbrev OfRun (α : Type) := Program Run.Moment Run.Moment.Reply α

/-- A program can only end with values that have a property. -/
def EndsWith (property : α → Prop) (program : OfRun α) : Prop :=
  ∀ transcript value, program.Yields transcript value → property value

/-- The programs of two runs ask the same until they end with related values,
unless the first one trips. -/
inductive Alike (sameIds : Prop) (path : String) (related : α → β → Prop)
    (tripped : α → Prop) : OfRun α → OfRun β → Prop
  | done {first : α} {second : β} (relates : related first second) :
      Alike sameIds path related tripped (.done first) (.done second)
  /-- The first program only ends with values that it trips with. -/
  | trips {left : OfRun α} {right : OfRun β} (ends : left.EndsWith tripped) :
      Alike sameIds path related tripped left right
  | clock {left : OfRun α} {run : Run} {right : Instant → OfRun β}
      (rest : ∀ now, Alike sameIds path related tripped left (right now)) :
      Alike sameIds path related tripped left (.ask ⟨run, .now⟩ right)
  | statusLeft {run : Run} {status : RunStatus} {left : Unit → OfRun α}
      {right : OfRun β}
      (rest : Alike sameIds path related tripped (left ()) right) :
      Alike sameIds path related tripped
        (.ask ⟨run, .publish (.status status)⟩ left) right
  | statusRight {left : OfRun α} {run : Run} {status : RunStatus}
      {right : Unit → OfRun β}
      (rest : Alike sameIds path related tripped left (right ())) :
      Alike sameIds path related tripped left
        (.ask ⟨run, .publish (.status status)⟩ right)
  /-- Neither run is aborted. -/
  | unaborted {run other : Run} {left : Bool → OfRun α}
      {right : Bool → OfRun β}
      (rest : Alike sameIds path related tripped (left false)
        (right false)) :
      Alike sameIds path related tripped (.ask ⟨run, .isAborted⟩ left)
        (.ask ⟨other, .isAborted⟩ right)
  | newId {run other : Run} {left : String → OfRun α}
      {right : String → OfRun β}
      (rest : ∀ id another, (sameIds → id = another) →
        Alike sameIds path related tripped (left id) (right another)) :
      Alike sameIds path related tripped (.ask ⟨run, .newId⟩ left)
        (.ask ⟨other, .newId⟩ right)
  | log {run other : Run} (line : LogLine) {left : Unit → OfRun α}
      {right : Unit → OfRun β}
      (rest : Alike sameIds path related tripped (left ()) (right ())) :
      Alike sameIds path related tripped
        (.ask ⟨run, .publish (.log (line.within path))⟩ left)
        (.ask ⟨other, .publish (.log line)⟩ right)
  | prompt {run other : Run} {first second : PromptRequest}
      {left : Unit → OfRun α} {right : Unit → OfRun β}
      (twins : first.Twins sameIds second)
      (rest : Alike sameIds path related tripped (left ()) (right ())) :
      Alike sameIds path related tripped
        (.ask ⟨run, .publish (.prompt first)⟩ left)
        (.ask ⟨other, .publish (.prompt second)⟩ right)
  | call {run other : Run} (call : ServiceCall)
      {left : Run.Reply (.call call) → OfRun α}
      {right : Run.Reply (.call call) → OfRun β}
      (rest : ∀ result, Alike sameIds path related tripped
        (left (some result)) (right (some result))) :
      Alike sameIds path related tripped (.ask ⟨run, .call call⟩ left)
        (.ask ⟨other, .call call⟩ right)
  | sleep {run other : Run} (nanoseconds : Nat)
      {left : Option Unit → OfRun α} {right : Option Unit → OfRun β}
      (rest : Alike sameIds path related tripped (left (some ()))
        (right (some ()))) :
      Alike sameIds path related tripped (.ask ⟨run, .sleep nanoseconds⟩ left)
        (.ask ⟨other, .sleep nanoseconds⟩ right)
  | answer {run other : Run} {first second : PromptRequest}
      {left : Option (Option String) → OfRun α}
      {right : Option (Option String) → OfRun β}
      (twins : first.Twins sameIds second)
      (rest : ∀ answer, Alike sameIds path related tripped
        (left (some answer)) (right (some answer))) :
      Alike sameIds path related tripped (.ask ⟨run, .answer first⟩ left)
        (.ask ⟨other, .answer second⟩ right)

variable {sameIds : Prop} {path : String} {related : α → β → Prop}
  {tripped : α → Prop} {left : OfRun α} {right : OfRun β}

/-- Programs that are alike go on alike. -/
theorem Alike.bind {next : α → OfRun γ} {other : β → OfRun δ}
    {matched : γ → δ → Prop} {stopped : γ → Prop}
    (alike : Alike sameIds path related tripped left right)
    (rest : ∀ first second, related first second →
      Alike sameIds path matched stopped (next first) (other second))
    (stays : ∀ first, tripped first → (next first).EndsWith stopped) :
    Alike sameIds path matched stopped (left.bind next)
      (right.bind other) := by
  induction alike with
  | done relates => exact rest _ _ relates
  | trips ends =>
      apply Alike.trips
      intro transcript value yields
      obtain ⟨first, second, middle, rfl, start, remaining⟩ :=
        yields_bind_iff.1 yields
      exact stays middle (ends _ _ start) _ _ remaining
  | clock _ ih => exact .clock ih
  | statusLeft _ ih => exact .statusLeft ih
  | statusRight _ ih => exact .statusRight ih
  | unaborted _ ih => exact .unaborted ih
  | newId _ ih => exact .newId ih
  | log line _ ih => exact .log line ih
  | prompt twins _ ih => exact .prompt twins ih
  | call call _ ih => exact .call call ih
  | sleep nanoseconds _ ih => exact .sleep nanoseconds ih
  | answer twins _ ih => exact .answer twins ih

/-- Programs that are alike end with values that are less closely related. -/
theorem Alike.mono {weaker : α → β → Prop}
    (alike : Alike sameIds path related tripped left right)
    (implies : ∀ first second, related first second →
      weaker first second) :
    Alike sameIds path weaker tripped left right := by
  have whole : Alike sameIds path weaker tripped (left.bind .done)
      (right.bind .done) := by
    refine alike.bind ?_ ?_
    · intro first second relates
      exact .done (implies first second relates)
    · intro first trips transcript value yields
      obtain ⟨-, rfl⟩ := yields_done_iff.1 yields
      exact trips
  rwa [bind_done, bind_done] at whole

/-- Programs that are alike end with values of theirs. -/
theorem Alike.yielded
    (alike : Alike sameIds path related tripped left right) :
    Alike sameIds path
      (fun first second => related first second ∧
        ∃ transcript, left.Yields transcript first) tripped left right := by
  induction alike with
  | done relates => exact .done ⟨relates, [], .done _⟩
  | trips ends => exact .trips ends
  | clock _ ih => exact .clock ih
  | statusLeft _ ih =>
      refine .statusLeft (ih.mono ?_)
      rintro first second ⟨relates, transcript, yields⟩
      exact ⟨relates, _, .ask () yields⟩
  | statusRight _ ih => exact .statusRight ih
  | unaborted _ ih =>
      refine .unaborted (ih.mono ?_)
      rintro first second ⟨relates, transcript, yields⟩
      exact ⟨relates, _, .ask false yields⟩
  | newId _ ih =>
      refine .newId fun id another same => (ih id another same).mono ?_
      rintro first second ⟨relates, transcript, yields⟩
      exact ⟨relates, _, .ask id yields⟩
  | log line _ ih =>
      refine .log line (ih.mono ?_)
      rintro first second ⟨relates, transcript, yields⟩
      exact ⟨relates, _, .ask () yields⟩
  | prompt twins _ ih =>
      refine .prompt twins (ih.mono ?_)
      rintro first second ⟨relates, transcript, yields⟩
      exact ⟨relates, _, .ask () yields⟩
  | call call _ ih =>
      refine .call call fun result => (ih result).mono ?_
      rintro first second ⟨relates, transcript, yields⟩
      exact ⟨relates, _, .ask (some result) yields⟩
  | sleep nanoseconds _ ih =>
      refine .sleep nanoseconds (ih.mono ?_)
      rintro first second ⟨relates, transcript, yields⟩
      exact ⟨relates, _, .ask (some ()) yields⟩
  | answer twins _ ih =>
      refine .answer twins fun answer => (ih answer).mono ?_
      rintro first second ⟨relates, transcript, yields⟩
      exact ⟨relates, _, .ask (some answer) yields⟩

end Program

/-! ### Computations of runs -/

/-- Two runs in the same frame: the call stack of the first one stands on
another stack. -/
structure Run.Beside (sameIds : Prop) (outer inner : List String)
    (first second : Run) : Prop where
  stack_eq : first.stack.entries = outer ++ inner
  inner_eq : second.stack.entries = inner
  id_eq : sameIds → first.id = second.id

namespace Running

variable {α β γ δ : Type}

/-- A computation can only end with values that have a property. -/
def EndsWith (property : α → Prop) (computation : Running α) : Prop :=
  ∀ before transcript value after,
    computation.Yields before transcript value after → property value

/-- Two computations are alike in the frames of two runs, and leave the runs
there. -/
def Alike (sameIds : Prop) (path : String) (outer inner : List String)
    (related : α → β → Prop) (tripped : α → Prop) (left : Running α)
    (right : Running β) : Prop :=
  ∀ first second, Run.Beside sameIds outer inner first second →
    Program.Alike sameIds path
      (fun ended other => related ended.1 other.1 ∧
        Run.Beside sameIds outer inner ended.2 other.2)
      (fun ended => tripped ended.1) (left first) (right second)

variable {sameIds : Prop} {path : String} {outer inner : List String}
  {related : α → β → Prop} {matched : γ → δ → Prop} {tripped : α → Prop}
  {stopped : γ → Prop}

theorem EndsWith.pure {property : α → Prop} {value : α}
    (holds : property value) : EndsWith property (Pure.pure value) := by
  intro before transcript result after yields
  obtain ⟨-, rfl, -⟩ := yields_pure_iff.1 yields
  exact holds

/-- What a computation ends with is what comes last in it. -/
theorem EndsWith.bind {property : β → Prop} {computation : Running α}
    {next : α → Running β} (rest : ∀ value, EndsWith property (next value)) :
    EndsWith property (computation >>= next) := by
  intro before transcript result after yields
  obtain ⟨first, second, value, middle, rfl, start, remaining⟩ :=
    yields_bind_iff.1 yields
  exact rest value _ _ _ _ remaining

namespace Alike

theorem pure {first : α} {second : β} (relates : related first second) :
    Alike sameIds path outer inner related tripped (Pure.pure first)
      (Pure.pure second) :=
  fun _ _ beside => .done ⟨relates, beside⟩

theorem bind {left : Running α} {right : Running β} {next : α → Running γ}
    {other : β → Running δ}
    (alike : Alike sameIds path outer inner related tripped left right)
    (rest : ∀ first second, related first second →
      Alike sameIds path outer inner matched stopped (next first)
        (other second))
    (stays : ∀ first, tripped first → (next first).EndsWith stopped) :
    Alike sameIds path outer inner matched stopped (left >>= next)
      (right >>= other) := by
  intro first second beside
  refine (alike first second beside).bind ?_ ?_
  · rintro ⟨ended, run⟩ ⟨another, otherRun⟩ ⟨relates, still⟩
    exact rest _ _ relates _ _ still
  · rintro ⟨ended, run⟩ trips transcript ⟨value, after⟩ yields
    exact stays ended trips _ _ _ _ yields

theorem yielded {left : Running α} {right : Running β}
    (alike : Alike sameIds path outer inner related tripped left right) :
    Alike sameIds path outer inner
      (fun first second => related first second ∧
        ∃ before transcript after,
          left.Yields before transcript first after) tripped left right := by
  intro first second beside
  refine (alike first second beside).yielded.mono ?_
  rintro ended other ⟨⟨relates, stays⟩, transcript, yields⟩
  exact ⟨⟨relates, first, transcript, ended.2, yields⟩, stays⟩

/-- After a computation that cannot trip. -/
theorem andThen {left : Running α} {right : Running β}
    {next : α → Running γ} {other : β → Running δ}
    (alike : Alike sameIds path outer inner related (fun _ => False) left
      right)
    (rest : ∀ first second, related first second →
      Alike sameIds path outer inner matched stopped (next first)
        (other second)) :
    Alike sameIds path outer inner matched stopped (left >>= next)
      (right >>= other) :=
  alike.bind rest fun _ impossible => impossible.elim

/-- Of a computation that trips, the other one does not matter. -/
theorem trips {left : Running γ} {right : Running δ}
    (ends : left.EndsWith stopped) :
    Alike sameIds path outer inner matched stopped left right := by
  intro first second beside
  apply Program.Alike.trips
  rintro transcript ⟨value, after⟩ yields
  exact ends _ _ _ _ yields

/-- Runs that enter another frame are in it until they leave it. -/
theorem enter {framed : List String} {run another : Run}
    (entered : Run.Beside sameIds outer framed run another)
    {left : Running α} {right : Running β} {next : α → Running γ}
    {other : β → Running δ}
    (alike : Alike sameIds path outer framed related tripped left right)
    (rest : ∀ first second, related first second → ∀ reached otherReached,
      Run.Beside sameIds outer framed reached otherReached →
      Program.Alike sameIds path
        (fun ended result => matched ended.1 result.1 ∧
          Run.Beside sameIds outer inner ended.2 result.2)
        (fun ended => stopped ended.1) (next first reached)
        (other second otherReached))
    (stays : ∀ first, tripped first → (next first).EndsWith stopped) :
    Alike sameIds path outer inner matched stopped
      (set run >>= fun _ => left >>= next)
      (set another >>= fun _ => right >>= other) := by
  intro _ _ _
  refine (alike run another entered).bind ?_ ?_
  · rintro ⟨ended, reached⟩ ⟨result, otherReached⟩ ⟨relates, still⟩
    exact rest _ _ relates _ _ still
  · rintro ⟨ended, reached⟩ trips transcript ⟨value, after⟩ yields
    exact stays ended trips _ _ _ _ yields

theorem get {next : Run → Running γ} {other : Run → Running δ}
    (rest : ∀ first second, Run.Beside sameIds outer inner first second →
      Alike sameIds path outer inner matched stopped (next first)
        (other second)) :
    Alike sameIds path outer inner matched stopped (MonadState.get >>= next)
      (MonadState.get >>= other) :=
  fun first second beside => rest first second beside first second beside

theorem clock {left : Running γ} {other : Instant → Running δ}
    (rest : ∀ now, Alike sameIds path outer inner matched stopped left
      (other now)) :
    Alike sameIds path outer inner matched stopped left
      (ask .now >>= other) :=
  fun first second beside => .clock fun now => rest now first second beside

theorem unaborted {next : Bool → Running γ} {other : Bool → Running δ}
    (rest : Alike sameIds path outer inner matched stopped (next false)
      (other false)) :
    Alike sameIds path outer inner matched stopped (ask .isAborted >>= next)
      (ask .isAborted >>= other) :=
  fun first second beside => .unaborted (rest first second beside)

theorem newId {next : String → Running γ} {other : String → Running δ}
    (rest : ∀ id another, (sameIds → id = another) →
      Alike sameIds path outer inner matched stopped (next id)
        (other another)) :
    Alike sameIds path outer inner matched stopped (ask .newId >>= next)
      (ask .newId >>= other) :=
  fun first second beside => .newId fun id another same =>
    rest id another same first second beside

theorem call (call : ServiceCall) {next : Run.Reply (.call call) → Running γ}
    {other : Run.Reply (.call call) → Running δ}
    (rest : ∀ result, Alike sameIds path outer inner matched stopped
      (next (some result)) (other (some result))) :
    Alike sameIds path outer inner matched stopped
      (ask (.call call) >>= next) (ask (.call call) >>= other) :=
  fun first second beside => .call call fun result =>
    rest result first second beside

theorem sleep (nanoseconds : Nat) {next : Option Unit → Running γ}
    {other : Option Unit → Running δ}
    (rest : Alike sameIds path outer inner matched stopped (next (some ()))
      (other (some ()))) :
    Alike sameIds path outer inner matched stopped
      (ask (.sleep nanoseconds) >>= next)
      (ask (.sleep nanoseconds) >>= other) :=
  fun first second beside => .sleep nanoseconds (rest first second beside)

theorem answer {asked request : PromptRequest}
    (twins : asked.Twins sameIds request)
    {next : Option (Option String) → Running γ}
    {other : Option (Option String) → Running δ}
    (rest : ∀ answer, Alike sameIds path outer inner matched stopped
      (next (some answer)) (other (some answer))) :
    Alike sameIds path outer inner matched stopped
      (ask (.answer asked) >>= next) (ask (.answer request) >>= other) :=
  fun first second beside => .answer twins fun answer =>
    rest answer first second beside

theorem prompt {asked request : PromptRequest}
    (twins : asked.Twins sameIds request) {next : Unit → Running γ}
    {other : Unit → Running δ}
    (rest : Alike sameIds path outer inner matched stopped (next ())
      (other ())) :
    Alike sameIds path outer inner matched stopped
      (publish (.prompt asked) >>= next)
      (publish (.prompt request) >>= other) :=
  fun first second beside => .prompt twins (rest first second beside)

theorem log (line : LogLine) {next : Unit → Running γ}
    {other : Unit → Running δ}
    (rest : Alike sameIds path outer inner matched stopped (next ())
      (other ())) :
    Alike sameIds path outer inner matched stopped
      (publish (.log (line.within path)) >>= next)
      (publish (.log line) >>= other) :=
  fun first second beside => .log line (rest first second beside)

end Alike

/-- A transition publishes a new status, and changes nothing but the status. -/
theorem transition_bind_apply (status : RunStatus) (next : Unit → Running γ)
    (run : Run) :
    (transition status >>= next) run =
      if run.status = status then next () { run with status }
      else .ask ⟨{ run with status }, .publish (.status status)⟩
        fun _ => next () { run with status } := by
  change ((if run.status ≠ status then do
      modify fun run => { run with status }
      publish (.status status)
    else pure ()) >>= next) run = _
  by_cases same : run.status = status
  · rw [if_neg (fun differs => differs same), if_pos same]
    subst same
    rfl
  · rw [if_pos same, if_neg same]
    rfl

theorem Alike.transition (status : RunStatus) {next : Unit → Running γ}
    {other : Unit → Running δ}
    (rest : Alike sameIds path outer inner matched stopped (next ())
      (other ())) :
    Alike sameIds path outer inner matched stopped
      (Running.transition status >>= next)
      (Running.transition status >>= other) := by
  intro first second beside
  have still := rest { first with status } { second with status }
    ⟨beside.stack_eq, beside.inner_eq, beside.id_eq⟩
  rw [transition_bind_apply, transition_bind_apply]
  split <;> split
  · exact still
  · exact .statusRight still
  · exact .statusLeft still
  · exact .statusLeft (.statusRight still)

end Running

/-! ### Oracles -/

/-- An oracle that gives twins one answer. -/
def Oracle.Respects {Services : Type} (sameIds : Prop)
    (oracle : Oracle Services) : Prop :=
  ∀ first second services, first.Twins sameIds second →
    oracle.answer first services = oracle.answer second services

/-- What comes of two runs that are alike: their values are related, they do
the same, and they leave the services in one state. -/
structure Conversation.Matches {Services α β : Type} (path : String)
    (related : α → β → Prop)
    (first : Conversation Run.Moment Run.Moment.Reply α
      (Oracle.State Services))
    (second : Conversation Run.Moment Run.Moment.Reply β
      (Oracle.State Services)) : Prop where
  value : related first.value second.value
  activities : Run.Transcript.activities first.transcript =
    (Run.Transcript.activities second.transcript).map (Activity.within path)
  services : first.state.services = second.state.services

/-- What comes of two runs that are alike: the first one trips, or they
match. -/
def Conversation.Alike {Services α β : Type} (path : String)
    (related : α → β → Prop) (tripped : α → Prop)
    (first : Conversation Run.Moment Run.Moment.Reply α
      (Oracle.State Services))
    (second : Conversation Run.Moment Run.Moment.Reply β
      (Oracle.State Services)) : Prop :=
  tripped first.value ∨ Matches path related first second

namespace Conversation

variable {Services α β : Type} {path : String} {related : α → β → Prop}
  {tripped : α → Prop}
  {first : Conversation Run.Moment Run.Moment.Reply α
    (Oracle.State Services)}
  {second : Conversation Run.Moment Run.Moment.Reply β
    (Oracle.State Services)}

theorem Matches.mono {weaker : α → β → Prop}
    (matched : Matches path related first second)
    (implies : ∀ value other, related value other → weaker value other) :
    Matches path weaker first second :=
  ⟨implies _ _ matched.value, matched.activities, matched.services⟩

/-- What happens before, on both sides. -/
theorem Alike.cons
    (alike : Conversation.Alike path related tripped first second)
    {exchange other : Run.Exchange}
    (same : Activity.of? exchange =
      (Activity.of? other).map (Activity.within path)) :
    Conversation.Alike path related tripped
      { first with transcript := exchange :: first.transcript }
      { second with transcript := other :: second.transcript } := by
  rcases alike with trips | matched
  · exact .inl trips
  · refine .inr ⟨matched.value, ?_, matched.services⟩
    have rest := matched.activities
    unfold Run.Transcript.activities at rest ⊢
    simp only [List.filterMap_cons, same]
    cases Activity.of? other with
    | none => exact rest
    | some activity => simp [rest]

/-- What happens before on the left side, and is no activity. -/
theorem Alike.consLeft
    (alike : Conversation.Alike path related tripped first second)
    {exchange : Run.Exchange} (silent : Activity.of? exchange = none) :
    Conversation.Alike path related tripped
      { first with transcript := exchange :: first.transcript } second := by
  rcases alike with trips | matched
  · exact .inl trips
  · refine .inr ⟨matched.value, ?_, matched.services⟩
    have rest := matched.activities
    unfold Run.Transcript.activities at rest ⊢
    rwa [List.filterMap_cons_none silent]

/-- What happens before on the right side, and is no activity. -/
theorem Alike.consRight
    (alike : Conversation.Alike path related tripped first second)
    {exchange : Run.Exchange} (silent : Activity.of? exchange = none) :
    Conversation.Alike path related tripped first
      { second with transcript := exchange :: second.transcript } := by
  rcases alike with trips | matched
  · exact .inl trips
  · refine .inr ⟨matched.value, ?_, matched.services⟩
    have rest := matched.activities
    unfold Run.Transcript.activities at rest ⊢
    rwa [List.filterMap_cons_none silent]

end Conversation

namespace Program

variable {α β Services : Type} {sameIds : Prop} {path : String}
  {related : α → β → Prop} {tripped : α → Prop} {left : OfRun α}
  {right : OfRun β} {oracle : Oracle Services}

/-- Runs that are alike come to the same with every oracle. -/
theorem Alike.converse
    (alike : Alike sameIds path related tripped left right)
    (respects : oracle.Respects sameIds)
    {state other : Oracle.State Services}
    (services : state.services = other.services)
    (ids : sameIds → state.ids = other.ids) :
    Conversation.Alike path related tripped
      (left.converse oracle.reply state)
      (right.converse oracle.reply other) := by
  induction alike generalizing state other with
  | done relates => exact .inr ⟨relates, rfl, services⟩
  | trips ends => exact .inl (ends _ _ (yields_converse _ _))
  | clock _ ih =>
      let later : Oracle.State Services :=
        { other with instants := fun index => other.instants (index + 1) }
      exact (@ih (other.instants 0) state later services ids).consRight rfl
  | statusLeft _ ih => exact (ih services ids).consLeft rfl
  | statusRight _ ih => exact (ih services ids).consRight rfl
  | unaborted _ ih => exact (ih services ids).cons rfl
  | newId _ ih =>
      let later (from_ : Oracle.State Services) : Oracle.State Services :=
        { from_ with ids := fun index => from_.ids (index + 1) }
      have sameNext : sameIds → state.ids 0 = other.ids 0 := by
        intro same
        rw [ids same]
      have sameRest : sameIds → (later state).ids = (later other).ids := by
        intro same
        funext index
        simp only [later, ids same]
      exact (@ih _ _ sameNext (later state) (later other) services
        sameRest).cons rfl
  | log line _ ih => exact (ih services ids).cons rfl
  | prompt twins _ ih =>
      apply (ih services ids).cons
      simp [Activity.of?, Activity.within, twins.nodeId_eq, twins.prompt_eq]
  | call call _ ih =>
      obtain ⟨present, ids₁, instants₁⟩ := state
      obtain ⟨_, ids₂, instants₂⟩ := other
      obtain rfl := services
      let reply := oracle.call call present
      exact (@ih reply.1 ⟨reply.2, ids₁, instants₁⟩ ⟨reply.2, ids₂, instants₂⟩
        rfl ids).cons rfl
  | sleep nanoseconds _ ih =>
      obtain ⟨present, ids₁, instants₁⟩ := state
      obtain ⟨_, ids₂, instants₂⟩ := other
      obtain rfl := services
      let later := oracle.sleep nanoseconds present
      exact (@ih ⟨later, ids₁, instants₁⟩ ⟨later, ids₂, instants₂⟩ rfl
        ids).cons rfl
  | @answer run _ first second left _ twins _ ih =>
      obtain ⟨present, ids₁, instants₁⟩ := state
      obtain ⟨_, ids₂, instants₂⟩ := other
      obtain rfl := services
      let reply := oracle.answer second present
      have sameReply : oracle.answer first present = reply :=
        respects first second present twins
      have asked : oracle.reply ⟨run, .answer first⟩
          ⟨present, ids₁, instants₁⟩ =
          (some reply.1, ⟨reply.2, ids₁, instants₁⟩) := by
        simp only [Oracle.reply, sameReply]
      rw [Program.converse, asked]
      apply (@ih reply.1 ⟨reply.2, ids₁, instants₁⟩
        ⟨reply.2, ids₂, instants₂⟩ rfl ids).cons
      simp [Activity.of?, Activity.within, twins.nodeId_eq, twins.prompt_eq,
        reply]

end Program

end Runbook
