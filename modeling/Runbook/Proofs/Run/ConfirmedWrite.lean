import Runbook.Proofs.Run.CallSite
import Runbook.Proofs.Run.FileStore

/-!
# Writes that a person confirms

A node that writes a file may first show the change to a person.  If the person
does not decline, what comes of the node is what would have come of it without
asking; if the person declines, nothing changes.
-/

namespace Runbook

open Engine

/-- A person declines a change: by not answering, or by saying so. -/
def Declines (answer : Option String) : Prop :=
  ∀ text ∈ answer, Text.toLowerAscii (Text.trim text) = "false"

instance (answer : Option String) : Decidable (Declines answer) :=
  inferInstanceAs (Decidable (∀ text ∈ answer, _ = _))

theorem Step.isConfirmed_iff {answer : Option String} :
    Step.isConfirmed answer = true ↔ ¬ Declines answer := by
  cases answer with
  | none => simp [Step.isConfirmed, Declines]
  | some text => simp [Step.isConfirmed, Declines]

namespace CallSite

variable {Services : Type}

/-- What the step of the node is given. -/
def context (site : CallSite Services) (engine : Engine) : Step.Context :=
  ⟨site.node, site.properties, engine.settings⟩

/-- The change is to be confirmed. -/
def AsksFirst (site : CallSite Services) : Prop :=
  isTruthy ((site.properties.get? "confirm").filter fun value =>
    !Text.isBlankText value) = true

instance (site : CallSite Services) : Decidable site.AsksFirst :=
  inferInstanceAs (Decidable (_ = true))

/-- The node writes a content to a path in some way. -/
structure WritesFile (site : CallSite Services) (engine : Engine)
    (path : String) (mode : Step.WriteMode) (content : String) : Prop where
  handled : engine.registry.handler? site.node.nodeType =
    some Handler.driveFile
  writes : (site.context engine).Writes path mode content
  /-- A step and its continuation may be taken. -/
  enough : 2 ≤ site.fuel

/-- The change of the file at a path, for which a person is asked. -/
def change (site : CallSite Services)
    (file? : Services → String → Option KeptFile) (path : String)
    (mode : Step.WriteMode) (content : String) : DiffPrompt :=
  let file := file? site.state.services path
  ⟨path, Step.currentText file, mode.proposed content file⟩

/-- What the oracle has to say about a change. -/
def reply (site : CallSite Services) (oracle : Oracle Services)
    (diff : DiffPrompt) : Option String × Services :=
  oracle.answer (Oracle.request site.run site.state site.node (.diff diff))
    site.state.services

/-- What is seen of the node. -/
def activities (site : CallSite Services) (engine : Engine)
    (oracle : Oracle Services) : List Activity :=
  Run.Transcript.activities (site.executed engine oracle).transcript

/-- What the node calls, with the replies. -/
def calls (site : CallSite Services) (engine : Engine)
    (oracle : Oracle Services) : Step.Transcript :=
  Run.Transcript.calls (site.executed engine oracle).transcript

/-- Two sites are alike but for whether the change is to be confirmed. -/
structure AlikeButConfirmed (asking plain : CallSite Services) : Prop where
  id_eq : asking.node.id = plain.node.id
  next_eq : asking.node.jumps.next = plain.node.jumps.next
  properties_eq : ∀ name, name ≠ "confirm" →
    asking.properties.get? name = plain.properties.get? name
  bindings_eq : asking.bindings = plain.bindings
  services_eq : asking.state.services = plain.state.services
  asks : asking.AsksFirst
  asksNot : ¬ plain.AsksFirst

variable {engine : Engine} {oracle : Oracle Services}
  {file? : Services → String → Option KeptFile}
  {site asking plain : CallSite Services} {path content : String}
  {mode : Step.WriteMode}

/-- The variables at the start, and no output. -/
def held (site : CallSite Services) : Step.State :=
  ⟨site.bindings, none⟩

theorem program_flag (site : CallSite Services) (engine : Engine)
    (state : Step.State) {asks : Bool} (asks_iff : site.AsksFirst ↔ asks) :
    (Step.flag "confirm").program (site.context engine) state =
      .done (.ok asks, state) := by
  have same : isTruthy ((site.properties.get? "confirm").filter fun value =>
      !Text.isBlankText value) = asks := Bool.eq_iff_iff.2 asks_iff
  rw [← same]
  rfl

/-! ### What comes of the node -/

theorem yields_executed (site : CallSite Services) (engine : Engine)
    (oracle : Oracle Services) :
    let executed := site.executed engine oracle
    (engine.driveNode (engine.nested site.fuel) site.fuel site.scope site.node
      site.properties site.bindings).Yields site.run executed.transcript
        (executed.value.1.1, executed.value.1.2.1, executed.value.1.2.2)
        executed.value.2 :=
  oracle.yields_run _ _ _

/-- A step that neither asks nor calls is all that comes of a node. -/
theorem executed_of_settles {handler : Handler}
    (handled : engine.registry.handler? site.node.nodeType = some handler)
    (enough : site.fuel ≠ 0)
    (settles : Oracle.Settles (oracle.serve handler.execute
      (site.context engine) site.held site.state.services)) :
    let served := oracle.serve handler.execute (site.context engine) site.held
      site.state.services
    site.executed engine oracle =
      ⟨site.run.exchange .isAborted false ::
          served.transcript.map (relay site.scope site.node site.run),
        ((Oracle.settled site.node served.value.1, served.value.2.output,
          served.value.2.bindings), site.run),
        { site.state with services := served.state }⟩ := by
  obtain ⟨fuel, same⟩ := Nat.exists_eq_succ_of_ne_zero enough
  refine Oracle.run_driveNode_of_jump handled ?_
  rw [same]
  exact Oracle.run_interact_of_settles fuel settles

theorem WritesFile.fuel_ne_zero
    (writesFile : site.WritesFile engine path mode content) :
    site.fuel ≠ 0 :=
  Nat.ne_zero_of_lt writesFile.enough

variable {transcript : Step.Transcript} {diff : DiffPrompt}
  {reached : Step.State} {later : Services}

/-- A change that cannot be drafted is neither shown nor saved. -/
theorem executed_of_stopped {stop : Step.Stop}
    (writesFile : site.WritesFile engine path mode content)
    (stopped : oracle.serve Step.draft (site.context engine) site.held
      site.state.services = ⟨transcript, (.error stop, reached), later⟩) :
    site.executed engine oracle =
      ⟨site.run.exchange .isAborted false ::
          transcript.map (relay site.scope site.node site.run),
        ((Oracle.settled site.node (.error stop), reached.output,
          reached.bindings), site.run),
        { site.state with services := later }⟩ := by
  have served : oracle.serve Step.writeOrAsk (site.context engine) site.held
      site.state.services = ⟨transcript, (.error stop, reached), later⟩ := by
    rw [Step.writeOrAsk_eq, Oracle.serve_bind_of_error stopped]
  have settles : Oracle.Settles (oracle.serve Handler.driveFile.execute
      (site.context engine) site.held site.state.services) := by
    simp [Oracle.Settles, Handler.driveFile, served]
  rw [executed_of_settles writesFile.handled writesFile.fuel_ne_zero settles,
    Handler.driveFile, served]

/-- What comes of a node that does not ask is what comes of saving the
draft. -/
theorem executed_of_plain
    (writesFile : site.WritesFile engine path mode content)
    (asksNot : ¬ site.AsksFirst)
    (drafted : oracle.serve Step.draft (site.context engine) site.held
      site.state.services = ⟨transcript, (.ok diff, reached), later⟩) :
    let saved := oracle.serve (Step.saveWritten diff.path diff.proposed)
      (site.context engine) reached later
    site.executed engine oracle =
      ⟨site.run.exchange .isAborted false ::
          (transcript ++ saved.transcript).map
            (relay site.scope site.node site.run),
        ((Oracle.settled site.node saved.value.1, saved.value.2.output,
          saved.value.2.bindings), site.run),
        { site.state with services := saved.state }⟩ := by
  have served : oracle.serve Step.writeOrAsk (site.context engine) site.held
      site.state.services =
      let saved := oracle.serve (Step.saveWritten diff.path diff.proposed)
        (site.context engine) reached later
      { saved with transcript := transcript ++ saved.transcript } := by
    rw [Step.writeOrAsk_eq, Oracle.serve_bind_of_ok drafted,
      Oracle.serve_bind_of_done (site.program_flag engine reached
        (iff_of_false asksNot Bool.false_ne_true))]
    rfl
  have settles : Oracle.Settles (oracle.serve Handler.driveFile.execute
      (site.context engine) site.held site.state.services) := by
    rw [Handler.driveFile, served]
    exact Oracle.settles_of_ensures (Step.ensures_saveWritten _ _) _ _ _
  rw [executed_of_settles writesFile.handled writesFile.fuel_ne_zero settles,
    Handler.driveFile, served]

/-- What comes of a node that asks is what comes of the step with which it goes
on once there is an answer. -/
theorem executed_of_asking
    (writesFile : site.WritesFile engine path mode content)
    (available : engine.hasPrompts = true) (asks : site.AsksFirst)
    (drafted : oracle.serve Step.draft (site.context engine) site.held
      site.state.services = ⟨transcript, (.ok diff, reached), later⟩) :
    let request := Oracle.request site.run site.state site.node (.diff diff)
    let answered :=
      oracle.answered request { site.state with services := later }
    let answer := (oracle.answer request later).1
    let running := { site.run with status := .running }
    let resumed := oracle.serve (Step.writeIfConfirmed request answer)
      (site.context engine) reached answered.services
    site.executed engine oracle =
      ⟨site.run.exchange .isAborted false ::
          (transcript.map (relay site.scope site.node site.run) ++
            (Oracle.awaiting site.run request answer ++
              running.exchange .isAborted false ::
                resumed.transcript.map
                  (relay site.scope site.node running))),
        ((Oracle.settled site.node resumed.value.1, resumed.value.2.output,
          resumed.value.2.bindings), running),
        { answered with services := resumed.state }⟩ := by
  obtain ⟨fuel, same⟩ := Nat.exists_eq_add_of_le' writesFile.enough
  have suspended : oracle.serve Step.writeOrAsk (site.context engine) site.held
      site.state.services =
      ⟨transcript, (.ok (.suspend (.diff diff)), reached), later⟩ := by
    rw [Step.writeOrAsk_eq, Oracle.serve_bind_of_ok drafted,
      Oracle.serve_bind_of_done (site.program_flag engine reached
        (iff_of_true asks rfl))]
    exact congrArg (Conversation.mk · _ _) (List.append_nil transcript)
  intro request answered answer running resumed
  have settles : Oracle.Settles resumed :=
    Oracle.settles_of_ensures (Step.ensures_writeIfConfirmed _ _) _ _ _
  have resumes : oracle.run (engine.interact site.scope (site.context engine)
      Handler.driveFile (fuel + 1) (Step.writeIfConfirmed request answer)
        reached) running answered = _ :=
    Oracle.run_interact_of_settles fuel settles
  refine Oracle.run_driveNode_of_jump writesFile.handled ?_
  rw [same]
  exact Oracle.run_interact_of_suspend available suspended rfl rfl resumes

/-- A change is drafted, unless the file must not be changed or a call
fails. -/
theorem WritesFile.drafts
    (writesFile : site.WritesFile engine path mode content)
    (stores : oracle.Stores file?) :
    ∃ transcript result,
      oracle.serve Step.draft (site.context engine) site.held
          site.state.services =
        ⟨transcript, (result, site.held), site.state.services⟩ ∧
      Oracle.Obtains mode (file? site.state.services path)
        (site.change file? path mode content) transcript result :=
  stores.serve_draft writesFile.writes

/-! ### Asking makes no difference -/

theorem AlikeButConfirmed.context_alike
    (alike : asking.AlikeButConfirmed plain) (engine : Engine) :
    (asking.context engine).AlikeBut "confirm" (plain.context engine) :=
  ⟨rfl, alike.properties_eq⟩

theorem AlikeButConfirmed.held_eq (alike : asking.AlikeButConfirmed plain) :
    asking.held = plain.held := by
  rw [held, held, alike.bindings_eq]

theorem AlikeButConfirmed.settled_eq (alike : asking.AlikeButConfirmed plain) :
    Oracle.settled asking.node = Oracle.settled plain.node := by
  funext ended
  rcases ended with (failure | _) | directive <;>
    simp [Oracle.settled, stepResult, nodeFailure, alike.id_eq, alike.next_eq]

/-- A step that ignores whether a change is confirmed comes to the same. -/
theorem AlikeButConfirmed.serve_eq {α : Type} {step : Step α}
    (alike : asking.AlikeButConfirmed plain)
    (ignores : step.Ignores "confirm") (state : Step.State)
    (services : Services) :
    oracle.serve step (asking.context engine) state services =
      oracle.serve step (plain.context engine) state services := by
  unfold Oracle.serve
  rw [ignores.program_eq (alike.context_alike engine)]

theorem writeIfConfirmed_of_diff {request : PromptRequest}
    {answer : Option String} (asked : request.prompt = .diff diff) :
    Step.writeIfConfirmed request answer =
      if Step.isConfirmed answer then
        Step.saveWritten diff.path diff.proposed
      else do
        Step.note s!"write to {diff.path} skipped"
        Step.recordOutput "skipped"
        return .proceed := by
  unfold Step.writeIfConfirmed
  rw [asked]

/-- A confirmed change comes to the same as one that nobody is asked about. -/
theorem executed_eq_of_confirmed (stores : oracle.Stores file?)
    (writesAsking : asking.WritesFile engine path mode content)
    (writesPlain : plain.WritesFile engine path mode content)
    (alike : asking.AlikeButConfirmed plain)
    (available : engine.hasPrompts = true)
    (still : (asking.reply oracle (asking.change file? path mode content)).2 =
      asking.state.services)
    (confirms : ¬ Declines
      (asking.reply oracle (asking.change file? path mode content)).1) :
    (asking.executed engine oracle).value.1 =
        (plain.executed engine oracle).value.1 ∧
      (asking.executed engine oracle).state.services =
        (plain.executed engine oracle).state.services := by
  obtain ⟨transcript, result, drafted, obtains⟩ := writesAsking.drafts stores
  have draftedToo := drafted
  rw [alike.serve_eq Step.ignores_draft, alike.held_eq,
    alike.services_eq] at draftedToo
  cases obtains with
  | blocked | failed =>
      rw [executed_of_stopped writesAsking drafted,
        executed_of_stopped writesPlain draftedToo, alike.held_eq,
        alike.settled_eq]
      exact ⟨rfl, alike.services_eq⟩
  | free =>
      rw [reply] at still confirms
      rw [executed_of_asking writesAsking available alike.asks drafted,
        executed_of_plain writesPlain alike.asksNot draftedToo]
      dsimp only [Oracle.answered]
      rw [still, writeIfConfirmed_of_diff rfl,
        if_pos (Step.isConfirmed_iff.2 confirms),
        alike.serve_eq (Step.ignores_saveWritten _ _ (by decide)),
        alike.held_eq, alike.services_eq, alike.settled_eq]
      exact ⟨rfl, rfl⟩

/-! ### What is shown, and what is declined -/

theorem activities_of_stopped {stop : Step.Stop} {nodeId : String}
    {prompt : Prompt}
    (writesFile : site.WritesFile engine path mode content)
    (stopped : oracle.serve Step.draft (site.context engine) site.held
      site.state.services = ⟨transcript, (.error stop, reached), later⟩) :
    .raised nodeId prompt ∉ site.activities engine oracle := by
  rw [activities, executed_of_stopped writesFile stopped]
  exact Oracle.raised_not_mem_activities transcript

/-- The draft is shown, once, and nothing else. -/
theorem raised_iff_of_drafted {nodeId : String} {prompt : Prompt}
    (writesFile : site.WritesFile engine path mode content)
    (available : engine.hasPrompts = true) (asks : site.AsksFirst)
    (drafted : oracle.serve Step.draft (site.context engine) site.held
      site.state.services = ⟨transcript, (.ok diff, reached), later⟩) :
    .raised nodeId prompt ∈ site.activities engine oracle ↔
      nodeId = site.node.id ∧ prompt = .diff diff := by
  rw [activities, executed_of_asking writesFile available asks drafted]
  dsimp only
  rw [Oracle.activities_isAborted, Oracle.activities_append,
    Oracle.activities_append, Oracle.activities_isAborted,
    Oracle.activities_awaiting, List.mem_append, List.mem_append,
    eq_false (Oracle.raised_not_mem_activities _),
    eq_false (Oracle.raised_not_mem_activities _), false_or, or_false]
  simp [Oracle.request]

/-- What is shown is the change, and without showing it the node does not lead
on. -/
theorem raised_of_executed (stores : oracle.Stores file?)
    (writesFile : site.WritesFile engine path mode content)
    (available : engine.hasPrompts = true) (asks : site.AsksFirst) :
    (∀ nodeId prompt,
        .raised nodeId prompt ∈ site.activities engine oracle →
        nodeId = site.node.id ∧
          prompt = .diff (site.change file? path mode content)) ∧
      ∀ target, (site.executed engine oracle).value.1.1 = .ok target →
        .raised site.node.id (.diff (site.change file? path mode content)) ∈
          site.activities engine oracle := by
  obtain ⟨transcript, result, drafted, obtains⟩ := writesFile.drafts stores
  cases obtains with
  | blocked | failed =>
      refine ⟨fun nodeId prompt raised =>
        (activities_of_stopped writesFile drafted raised).elim,
        fun target leads => ?_⟩
      rw [executed_of_stopped writesFile drafted] at leads
      cases leads
  | free =>
      have raised_iff {nodeId : String} {prompt : Prompt} :=
        @raised_iff_of_drafted _ _ _ _ _ _ _ _ _ _ _ nodeId prompt writesFile
          available asks drafted
      exact ⟨fun nodeId prompt => raised_iff.1,
        fun target leads => raised_iff.2 ⟨rfl, rfl⟩⟩

/-- A change that is declined changes nothing. -/
theorem executed_of_declined (stores : oracle.Stores file?)
    (writesFile : site.WritesFile engine path mode content)
    (available : engine.hasPrompts = true) (asks : site.AsksFirst)
    (still : (site.reply oracle (site.change file? path mode content)).2 =
      site.state.services)
    (declines : Declines
      (site.reply oracle (site.change file? path mode content)).1) :
    (site.executed engine oracle).state.services = site.state.services ∧
      (site.executed engine oracle).value.1.2.2 = site.bindings ∧
      ∀ nodeId prompt,
        .raised nodeId prompt ∈ site.activities engine oracle →
        (site.executed engine oracle).value.1.1 =
          .ok site.node.jumps.next := by
  obtain ⟨transcript, result, drafted, obtains⟩ := writesFile.drafts stores
  cases obtains with
  | blocked | failed =>
      refine ⟨?_, ?_, fun nodeId prompt raised =>
        (activities_of_stopped writesFile drafted raised).elim⟩
      all_goals rw [executed_of_stopped writesFile drafted]
      rfl
  | free =>
      rw [reply] at still declines
      rw [executed_of_asking writesFile available asks drafted]
      dsimp only [Oracle.answered]
      rw [still, writeIfConfirmed_of_diff rfl,
        if_neg (Step.isConfirmed_iff.not_left.2 declines)]
      exact ⟨rfl, rfl, fun _ _ _ => rfl⟩

/-! ### Without asking -/

/-- What comes of a change that nobody is asked about: the file must not be
changed or a call has failed, and nothing has changed; or a call has failed
that was to save the change, and no other file has changed; or the node leads
on, and the proposed content is put at the path. -/
inductive Changed (file? : Services → String → Option KeptFile)
    (before after : Services) (diff : DiffPrompt) (mode : Step.WriteMode)
    (activities : List Activity) (next : Target) :
    Except Interrupt Target → Prop
  | refused {error : RunError}
      (reason : Step.Blocked mode (file? before diff.path) ∨
        ∃ call failure, .called call (.error failure) ∈ activities)
      (same : after = before) :
      Changed file? before after diff mode activities next
        (.error (.failed error))
  | unsaved {error : RunError}
      (free : ¬ Step.Blocked mode (file? before diff.path))
      (failed : ∃ call failure, .called call (.error failure) ∈ activities)
      (keepsOthers : Oracle.KeepsOthers file? before after diff.path) :
      Changed file? before after diff mode activities next
        (.error (.failed error))
  | written (free : ¬ Step.Blocked mode (file? before diff.path))
      (puts : Oracle.Puts file? before after diff.path diff.proposed) :
      Changed file? before after diff mode activities next (.ok next)

theorem changed_of_executed (stores : oracle.Stores file?)
    (writesFile : site.WritesFile engine path mode content)
    (asksNot : ¬ site.AsksFirst) :
    Changed file? site.state.services
      (site.executed engine oracle).state.services
      (site.change file? path mode content) mode
      (site.activities engine oracle) site.node.jumps.next
      (site.executed engine oracle).value.1.1 := by
  rw [activities]
  obtain ⟨transcript, result, drafted, obtains⟩ := writesFile.drafts stores
  cases obtains with
  | blocked blocked =>
      rw [executed_of_stopped writesFile drafted]
      exact .refused (.inl blocked) rfl
  | failed hasFailure =>
      rw [executed_of_stopped writesFile drafted]
      exact .refused (.inr hasFailure.exists_called) rfl
  | free free =>
      obtain ⟨saving, ended, reached, later, saved, saves⟩ :=
        stores.serve_saveWritten (site.context engine) site.held
          site.state.services (site.change file? path mode content).path
          (site.change file? path mode content).proposed
      rw [executed_of_plain writesFile asksNot drafted, saved]
      cases saves with
      | failed hasFailure keepsOthers =>
          exact .unsaved free (hasFailure.append transcript).exists_called
            keepsOthers
      | saved puts => exact .written free puts

/-- What a person is shown is the change that would be made without asking. If
the change is confirmed, all comes to the same as without asking, and the
proposed content is put at the path unless the node stops.  If it is declined,
the node leads on and nothing changes.  Without asking, nothing changes if there
is a file that must not be changed, and otherwise the proposed content is put at
the path unless a call fails. -/
theorem confirmed_change (stores : oracle.Stores file?)
    (writesAsking : asking.WritesFile engine path mode content)
    (writesPlain : plain.WritesFile engine path mode content)
    (alike : asking.AlikeButConfirmed plain)
    (available : engine.hasPrompts = true)
    (still : (asking.reply oracle (asking.change file? path mode content)).2 =
      asking.state.services) :
    let diff := asking.change file? path mode content
    let answer := (asking.reply oracle diff).1
    let confirmed := asking.executed engine oracle
    let unasked := plain.executed engine oracle
    (∀ nodeId prompt,
        .raised nodeId prompt ∈ asking.activities engine oracle →
        nodeId = asking.node.id ∧ prompt = .diff diff) ∧
      (∀ target, confirmed.value.1.1 = .ok target →
        .raised asking.node.id (.diff diff) ∈
          asking.activities engine oracle) ∧
      (¬ Declines answer →
        confirmed.value.1 = unasked.value.1 ∧
          confirmed.state.services = unasked.state.services ∧
          ∀ target, confirmed.value.1.1 = .ok target →
            Oracle.Puts file? asking.state.services confirmed.state.services
              path diff.proposed) ∧
      (Declines answer →
        confirmed.state.services = asking.state.services ∧
          confirmed.value.1.2.2 = asking.bindings ∧
          ∀ nodeId prompt,
            .raised nodeId prompt ∈ asking.activities engine oracle →
            confirmed.value.1.1 = .ok asking.node.jumps.next) ∧
      Changed file? plain.state.services unasked.state.services diff mode
        (plain.activities engine oracle) plain.node.jumps.next
        unasked.value.1.1 := by
  intro diff answer confirmed unasked
  have changed := changed_of_executed stores writesPlain alike.asksNot
  have sameChange : plain.change file? path mode content = diff := by
    rw [change, ← alike.services_eq]
    rfl
  rw [sameChange] at changed
  obtain ⟨shown, leads⟩ :=
    raised_of_executed stores writesAsking available alike.asks
  refine ⟨shown, leads, fun confirms => ?_,
    executed_of_declined stores writesAsking available alike.asks still,
    changed⟩
  obtain ⟨sameValue, sameServices⟩ := executed_eq_of_confirmed stores
    writesAsking writesPlain alike available still confirms
  refine ⟨sameValue, sameServices, fun target ended => ?_⟩
  rw [sameValue] at ended
  rw [ended] at changed
  cases changed with
  | written free puts =>
      rw [sameServices, alike.services_eq]
      exact puts

/-- The site with the node that does not have its change confirmed. -/
def unasked (site : CallSite Services) : CallSite Services :=
  { site with
    node := { site.node with
      properties := site.node.properties.erase "confirm" }
    properties := site.properties.erase "confirm" }

theorem get?_unasked (site : CallSite Services) {name : String}
    (other : name ≠ "confirm") :
    site.unasked.properties.get? name = site.properties.get? name := by
  rw [unasked, OrderedMap.get?_erase, if_neg other.symm]

theorem alikeButConfirmed_unasked (asks : site.AsksFirst) :
    site.AlikeButConfirmed site.unasked where
  id_eq := rfl
  next_eq := rfl
  properties_eq _ other := (site.get?_unasked other).symm
  bindings_eq := rfl
  services_eq := rfl
  asks := asks
  asksNot := by
    rw [AsksFirst, unasked, OrderedMap.get?_erase, if_pos rfl]
    decide

theorem WritesFile.unasked
    (writesFile : site.WritesFile engine path mode content) :
    site.unasked.WritesFile engine path mode content where
  handled := writesFile.handled
  writes := by
    obtain ⟨path_eq, content_eq, mode_named⟩ := writesFile.writes
    refine ⟨?_, ?_, ?_⟩ <;> dsimp only [context]
    · rwa [site.get?_unasked (by decide)]
    · rwa [site.get?_unasked (by decide)]
    · rwa [site.get?_unasked (by decide)]
  enough := writesFile.enough

/-- A log and an encrypted file. -/
def logFiles : OrderedMap KeptFile :=
  .ofList [("notes/log.md", ⟨"first\n", false⟩), ("a.txt", ⟨"x", true⟩)]

/-- A node that appends a line to the log, once a person has seen the
change. -/
def appending : CallSite (OrderedMap KeptFile) :=
  let properties := .ofList [("path", " notes/log.md "),
    ("content", "second\n"), ("mode", "Append"), ("confirm", "Yes"),
    ("saveTo", "file")]
  ⟨⟨""⟩, ⟨"write", .driveFile, properties, ⟨.pastEnd, none, none⟩⟩, properties,
    .empty, .fresh "id" "file",
    ⟨logFiles, fun _ => "id", fun _ => Instant.epoch⟩, 2⟩

theorem confirmed_change_appending :
    let engine : Engine := { unattended with hasPrompts := true }
    let confirming := Oracle.memory (some " ok ")
    let declining := Oracle.memory (some " False\n")
    let diff : DiffPrompt := ⟨"notes/log.md", "first\n", "first\nsecond\n"⟩
    appending.WritesFile engine "notes/log.md" .append "second\n" ∧
      appending.AlikeButConfirmed appending.unasked ∧
      Activity.raised "write" (.diff diff) ∈
        appending.activities engine confirming ∧
      (appending.executed engine confirming).value.1 =
        (appending.unasked.executed engine confirming).value.1 ∧
      Oracle.Puts OrderedMap.get? logFiles
        (appending.executed engine confirming).state.services
          "notes/log.md" "first\nsecond\n" ∧
      (appending.executed engine declining).state.services = logFiles ∧
      (appending.executed engine declining).value.1.2.2 = .empty := by
  intro engine confirming declining diff
  have stores : confirming.Stores OrderedMap.get? := Oracle.memory_stores _
  have storesToo : declining.Stores OrderedMap.get? := Oracle.memory_stores _
  have writes : appending.WritesFile engine "notes/log.md" .append "second\n" :=
    { handled := rfl
      writes := ⟨by decide +kernel, by decide +kernel, .append⟩
      enough := Nat.le_refl 2 }
  have alike : appending.AlikeButConfirmed appending.unasked :=
    alikeButConfirmed_unasked (by decide +kernel)
  have same : appending.change OrderedMap.get? "notes/log.md" .append
      "second\n" = diff := by
    decide +kernel
  have leads : (appending.executed engine confirming).value.1.1 =
      .ok .pastEnd :=
    eq_ok_of_toOption (by decide +kernel)
  obtain ⟨-, shown, confirmed, -, -⟩ :=
    confirmed_change stores writes writes.unasked alike rfl rfl
  obtain ⟨-, -, -, declined, -⟩ :=
    confirmed_change storesToo writes writes.unasked alike rfl rfl
  rw [same] at shown confirmed declined
  have confirms : ¬ Declines (some " ok ") := by decide +kernel
  have declines : Declines (some " False\n") := by decide +kernel
  obtain ⟨sameValue, -, puts⟩ := confirmed confirms
  obtain ⟨unchanged, kept, -⟩ := declined declines
  exact ⟨writes, alike, shown _ leads, sameValue, puts _ leads, unchanged,
    kept⟩

end CallSite

end Runbook
