import Runbook.Proofs.Run.ConfirmedWrite
import Runbook.Proofs.Step.PlainText

/-!
# Plain texts in attachments and answers

A model is sent the variables that a node attaches, and a dialog leaves what a
person has answered.  A text that is no object arrives as it is, unless it is
an array that lists the fields of the record that it could describe.
-/

namespace Runbook

namespace Engine

open Step

variable {engine : Engine} {runChild : FrameRunner} {fuel : Nat}
  {scope : Scope} {node : Node} {context : Step.Context} {before after : Run}
  {transcript : Run.Transcript} {properties : OrderedMap String}
  {bindings reached : Variables} {output : Option String}

/-- A model is asked with the attachments of the node, made of the variables at
the start. -/
theorem Interacts.attached {state ended : Step.State}
    {result : Except Interrupt Flow}
    (interacts : Interacts engine scope context Handler.command fuel askModel
      state before transcript result ended after)
    {request : ModelRequest} {reply : Step.Reply (.call (.generate request))}
    (member : ⟨.call (.generate request), reply⟩ ∈ transcript.calls) :
    Attached state.bindings (attachmentNames context) request.attachments := by
  cases interacts with
  | exhausted | aborted => cases member
  | stopped carried | directed carried leads =>
      rw [calls_carried] at member
      exact attached_of_yields carried (List.mem_filter.1 member).1
  | unanswered carried | resumed carried =>
      cases ensures_askModel.value_allowed carried

/-- What is seen of an answer. -/
theorem AwaitsAnswer.activities_eq {prompt : Prompt} {request : PromptRequest}
    {answer : Option String}
    (awaits : AwaitsAnswer engine node prompt before transcript
      (.ok (request, answer)) after) :
    transcript.activities = [.raised request.nodeId request.prompt,
      .answered request.nodeId request.prompt answer] := by
  cases awaits with
  | answered somebody id answer => exact Oracle.activities_awaiting

/-- Once there is an answer, what it stands for is saved. -/
theorem Interacts.dialog_saved {handler : Handler} {state ended : Step.State}
    {request : PromptRequest} {answer : Option String} {target : Target}
    (interacts : Interacts engine scope context handler fuel
      (saveDialog request answer) state before transcript (.ok (.jump target))
      ended after) :
    transcript.activities = [] ∧ target = context.node.jumps.next ∧
      ended = saved context "saveTo" (dialogResult answer).toJson.render
        state := by
  generalize leadsTo : Except.ok (Flow.jump target) = result at interacts
  cases interacts with
  | exhausted | aborted | unanswered => cases leadsTo
  | @stopped _ _ _ _ _ _ stop => cases stop <;> cases leadsTo
  | directed carried leads =>
      obtain ⟨rfl, same, rfl⟩ :=
        (yields_iff_of_done program_save_proceed).1 carried
      cases same
      cases leads
      cases leadsTo
      exact ⟨rfl, rfl, rfl⟩
  | resumed carried =>
      cases (ensures_saveDialog request answer).value_allowed carried

/-- A dialog that leads on has had an answer, and leaves what it stands for. -/
theorem Interacts.dialog_answered {state ended : Step.State} {target : Target}
    (interacts : Interacts engine scope context Handler.dialog fuel askDialog
      state before transcript (.ok (.jump target)) ended after) :
    ∃ nodeId prompt answer,
      transcript.activities =
        [.raised nodeId prompt, .answered nodeId prompt answer] ∧
      target = context.node.jumps.next ∧
      ended = saved context "saveTo" (dialogResult answer).toJson.render
        state := by
  generalize leadsTo : Except.ok (Flow.jump target) = result at interacts
  cases interacts with
  | exhausted | aborted | unanswered => cases leadsTo
  | @stopped _ _ _ _ _ _ stop => cases stop <;> cases leadsTo
  | directed carried leads =>
      obtain ⟨prompt, rfl⟩ := ensures_askDialog_suspend.value_allowed carried
      cases leads
  | @resumed _ _ _ _ _ _ _ _ _ _ _ _ request answer _ carried awaits resumes =>
      subst leadsTo
      obtain ⟨rfl, rfl⟩ := reads_askDialog.yields carried
      have saves : Interacts engine scope context Handler.dialog _
        (saveDialog request answer) _ _ _ _ _ _ := resumes
      obtain ⟨nothing, leadsTo, ended_eq⟩ := saves.dialog_saved
      refine ⟨request.nodeId, request.prompt, answer, ?_, leadsTo, ended_eq⟩
      rw [Oracle.activities_append, Oracle.activities_append,
        awaits.activities_eq, nothing]
      rfl

/-- A text that is no object is attached as a plain text, and an object with the
fields of an attachment as the attachment that it describes; and an answer to a
dialog that is no object is saved as the text of a button.  Arrays that list
fields, and objects in which a field occurs twice, are misread. -/
theorem plain_texts_kept {result : Except Interrupt Target}
    (yields : (engine.driveNode runChild fuel scope node properties
      bindings).Yields before transcript (result, output, reached) after) :
    (engine.registry.handler? node.nodeType = some Handler.command →
      ∀ request reply,
        ⟨.call (.generate request), reply⟩ ∈ transcript.calls →
          List.Forall₂ (fun name attachment => ∃ text,
            bindings.get? name = some text ∧
              ∀ expected, Attachment.Of name text expected →
                ¬ Attachment.IsMisread text → attachment = expected)
            (attachmentNames ⟨node, properties, engine.settings⟩)
            request.attachments) ∧
      (engine.registry.handler? node.nodeType = some Handler.dialog →
        ∀ nodeId prompt text target,
          .answered nodeId prompt (some text) ∈ transcript.activities →
          result = .ok target → Wire.objectMembers? text = none →
          ¬ DialogResult.IsListed text →
            let stored := (DialogResult.mk text [] "").toJson.render
            output = some stored ∧
              reached = (named ⟨node, properties, engine.settings⟩ "saveTo"
                stored ⟨bindings, none⟩).bindings) := by
  have drives := drives_of_yields yields
  constructor
  · intro handled request reply member
    obtain ⟨state, interacts, -, -⟩ := drives.exists_interacts
      (Handler.standard_fits .command) (by decide) handled
    refine (interacts.attached member).imp ?_
    rintro name attachment ⟨text, held, rfl⟩
    exact ⟨text, held, fun expected stands isRead =>
      stands.attachmentOf_eq isRead⟩
  · rintro handled nodeId prompt text target answered rfl noObject isRead
    obtain ⟨state, interacts, rfl, rfl⟩ := drives.exists_interacts
      (Handler.standard_fits .dialog) (by decide) handled
    obtain ⟨_, _, answer, activities_eq, -, rfl⟩ := interacts.dialog_answered
    rw [activities_eq] at answered
    obtain ⟨-, -, rfl⟩ : nodeId = _ ∧ prompt = _ ∧ answer = some text := by
      simpa [eq_comm] using answered
    rw [DialogResult.dialogResult_eq noObject isRead]
    exact ⟨rfl, rfl⟩

end Engine

namespace CallSite

open Engine

/-- A node that asks a model with an attachment. -/
def attaching (text : String) : CallSite Unit :=
  let properties := .ofList [("prompt", "Read this."), ("attachments", "note")]
  ⟨⟨""⟩, ⟨"ask", .command, properties, ⟨.pastEnd, none, none⟩⟩, properties,
    .ofList [("note", text)], .fresh "id" "file", .still, 1⟩

/-- A node that shows a dialog. -/
def showing : CallSite Unit :=
  let properties := .ofList [("saveTo", "choice")]
  ⟨⟨""⟩, ⟨"show", .dialog, properties, ⟨.pastEnd, none, none⟩⟩, properties,
    .empty, .fresh "id" "file", .still, 2⟩

/-- A person who gives an answer to every prompt. -/
def answering (text : String) : Oracle Unit :=
  { Oracle.refusing with answer := fun _ services => (some text, services) }

/-- What a model is asked with an attachment. -/
def asked (attachment : Attachment) : ModelRequest :=
  ⟨"Read this.", none, none, [], [attachment]⟩

/-- The dialog that is shown. -/
def shown : Prompt :=
  .dialog ⟨"", "", [], false, "OK", none, none, false, none, [], false⟩

theorem calls_attaching_yes :
    (attaching "Yes").calls unattended Oracle.refusing =
      [⟨.call (.generate (asked ⟨"note", "text/plain", "Yes"⟩)),
        some (.error (.of "offline"))⟩] :=
  rfl

theorem activities_showing_yes :
    showing.activities attended (answering "Yes") =
      [.raised "show" shown, .answered "show" shown (some "Yes")] :=
  rfl

theorem plain_texts_kept_yes :
    Wire.objectMembers? "Yes" = none ∧
      ¬ Attachment.IsMisread "Yes" ∧
      ¬ DialogResult.IsListed "Yes" ∧
      (∃ request reply, ⟨.call (.generate request), reply⟩ ∈
        (attaching "Yes").calls unattended Oracle.refusing) ∧
      (∀ request reply, ⟨.call (.generate request), reply⟩ ∈
          (attaching "Yes").calls unattended Oracle.refusing →
        request.attachments = [⟨"note", "text/plain", "Yes"⟩]) ∧
      (showing.executed attended (answering "Yes")).value.1.2.1 =
        some (DialogResult.mk "Yes" [] "").toJson.render := by
  have unread : Json.read? "Yes" = none := rfl
  have noObject : Wire.objectMembers? "Yes" = none := rfl
  have isRead : ¬ Attachment.IsMisread "Yes" := by
    rintro (⟨_, _, _, isArray⟩ | ⟨isObject, -⟩)
    · rw [unread] at isArray
      cases isArray
    · rw [noObject] at isObject
      cases isObject
  have isNotListed : ¬ DialogResult.IsListed "Yes" := by
    rintro ⟨_, _, _, _, isArray, -⟩
    rw [unread] at isArray
    cases isArray
  have member : ⟨.call (.generate (asked ⟨"note", "text/plain", "Yes"⟩)),
      some (.error (.of "offline"))⟩ ∈
        (attaching "Yes").calls unattended Oracle.refusing := by
    rw [calls_attaching_yes]
    exact List.mem_singleton_self _
  have answered : .answered "show" shown (some "Yes") ∈
      showing.activities attended (answering "Yes") := by
    rw [activities_showing_yes]
    exact List.mem_cons_of_mem _ (List.mem_singleton_self _)
  have saved := (plain_texts_kept (showing.yields_executed attended
    (answering "Yes"))).2 rfl _ _ _ .pastEnd answered rfl noObject isNotListed
  refine ⟨noObject, isRead, isNotListed, ⟨_, _, member⟩,
    fun request reply isCalled => ?_, saved.1⟩
  have attached := (plain_texts_kept ((attaching "Yes").yields_executed
    unattended Oracle.refusing)).1 rfl request reply isCalled
  have names_eq : Step.attachmentNames ((attaching "Yes").context unattended) =
      ["note"] := rfl
  rw [context] at names_eq
  rw [names_eq] at attached
  obtain ⟨attachment, _, ⟨text, held, same⟩, rest, attachments_eq⟩ :=
    List.forall₂_cons_left_iff.1 attached
  cases held
  rw [attachments_eq, List.forall₂_nil_left_iff.1 rest,
    same _ (.plain noObject) isRead]

/-- An array that lists the fields of a result. -/
def listedAnswer : String :=
  "[\"Yes\"]"

/-- An array that lists the fields of an attachment. -/
def listedNote : String :=
  "[\"a\",\"b\",\"c\"]"

/-- An attachment whose name is given twice. -/
def renamedNote : String :=
  "\x7b\"name\":\"a\",\"name\":\"b\",\"mimeType\":\"m\",\"data\":\"d\"\x7d"

theorem objectMembers?_renamedNote : Wire.objectMembers? renamedNote =
    some [("name", .string [.char 'a']), ("name", .string [.char 'b']),
      ("mimeType", .string [.char 'm']), ("data", .string [.char 'd'])] :=
  rfl

theorem of_renamedNote : Attachment.Of "note" renamedNote ⟨"b", "m", "d"⟩ :=
  .described objectMembers?_renamedNote ⟨[.char 'b'], by simp, rfl⟩
    ⟨[.char 'm'], by simp, rfl⟩ ⟨[.char 'd'], by simp, rfl⟩

/-- Arrays are taken for records, and an object with a field that occurs twice
is taken for a plain text. -/
theorem plain_texts_misread :
    Wire.objectMembers? listedAnswer = none ∧
      (showing.executed attended (answering listedAnswer)).value.1.2.1 =
        some (DialogResult.mk "Yes" [] "").toJson.render ∧
      Wire.objectMembers? listedNote = none ∧
      Step.attachmentOf "note" listedNote = ⟨"a", "b", "c"⟩ ∧
      Attachment.Of "note" renamedNote ⟨"b", "m", "d"⟩ ∧
      Step.attachmentOf "note" renamedNote =
        ⟨"note", "text/plain", renamedNote⟩ :=
  ⟨rfl, by decide +kernel, rfl, rfl, of_renamedNote, rfl⟩

end CallSite

end Runbook
