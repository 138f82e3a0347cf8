import Runbook.Proofs.Run.ConfirmedWrite

/-!
# Saving the text of a variable

A node that saves a variable to a file writes the text of the variable, or the
text under `data` if this is an object that describes a file in this way.  An
object with something else under `data` is taken for such a description, too,
and then nothing of it is left in the file.
-/

namespace Runbook

namespace Step

variable {context : Context} {state : State} {raw text : String}

/-- The text that is to be saved for a variable: what an object has under
`data` if it is a text, and otherwise all that the variable holds. -/
inductive TextToSave (raw : String) : String → Prop
  | data {members : List (String × Json)} {text : String}
      (isObject : Json.read? raw = some (.object members))
      (hasText : Json.member? "data" members = some (.string text)) :
      TextToSave raw text
  | whole (hasNoText : ∀ members text,
      Json.read? raw = some (.object members) →
        Json.member? "data" members ≠ some (.string text)) :
      TextToSave raw raw

/-- An object has something under `data` that is no text. -/
def IsMisread (raw : String) : Prop :=
  ∃ members data, Json.read? raw = some (.object members) ∧
    Json.member? "data" members = some data ∧ data.string? = none

theorem string?_eq_some_iff {value : Json} :
    value.string? = some text ↔ value = .string text := by
  cases value <;> simp [Json.string?]

/-- The text to save is the content of the file unless the variable is
misread. -/
theorem TextToSave.fileData_eq (toSave : TextToSave raw text)
    (isRead : ¬ IsMisread raw) : (fileData raw).1 = text := by
  unfold fileData
  cases toSave with
  | data isObject hasText =>
      simp [isObject, Json.get?, hasText, Json.string?]
  | whole hasNoText =>
      cases read : Json.read? raw with
      | none => rfl
      | some value =>
          cases value with
          | object members =>
              cases held : Json.member? "data" members with
              | none => simp [Json.get?, held]
              | some data =>
                  cases isText : data.string? with
                  | none =>
                      exact absurd ⟨members, data, read, held, isText⟩ isRead
                  | some text =>
                      rw [string?_eq_some_iff.1 isText] at held
                      exact absurd held (hasNoText members text read)
          | _ => rfl

end Step

namespace Oracle

variable {Services : Type} {oracle : Oracle Services}
  {file? : Services → String → Option KeptFile} {path source raw : String}

/-- A variable is saved by writing its text, and what is written is all that is
called for. -/
theorem Stores.serve_saveFile (stores : oracle.Stores file?)
    (context : Step.Context) (held : Step.State) (services : Services)
    (sourced : (context.properties.get? "source").bind Text.nonBlank? =
      some source)
    (hasPath : context.HasPath path)
    (holds : held.bindings.get? source = some raw) :
    ∃ transcript written reached later mimeType,
      oracle.serve Step.saveFile context held services =
        ⟨transcript, (written.map fun _ => .proceed, reached), later⟩ ∧
      Wrote file? services later
        (context.write path (Step.fileData raw).1 mimeType) transcript
        written := by
  have valued : (Step.valueOf? source).program context held =
      .done (.ok (some raw), held) := by
    rw [← holds]
    rfl
  rw [Step.saveFile,
    serve_bind_of_done (Step.program_requiredTrimmed_of_some sourced),
    serve_bind_of_done (Step.program_requiredTrimmed_of_some hasPath),
    serve_bind_of_done valued]
  dsimp only
  obtain ⟨transcript, written, later, served, wrote⟩ :=
    stores.serve_writeFile context held services s!"failed to save '{path}'"
      path (Step.fileData raw).1
      ((Step.fileData raw).2.or (Step.mimeType? path))
  cases written with
  | error stop =>
      exact ⟨_, _, _, _, _, serve_bind_of_error served _, wrote⟩
  | ok info =>
      exact ⟨_, _, _, _, _,
        serve_bind_of_ok_of_done served Step.program_save_proceed, wrote⟩

end Oracle

namespace CallSite

open Engine

variable {Services : Type} {engine : Engine} {oracle : Oracle Services}
  {file? : Services → String → Option KeptFile} {site : CallSite Services}
  {path raw text : String}

/-- The node saves a variable that holds a text to the file at a path. -/
structure SavesVariable (site : CallSite Services) (engine : Engine)
    (path raw : String) : Prop where
  handled : engine.registry.handler? site.node.nodeType =
    some Handler.driveSave
  hasPath : (site.context engine).HasPath path
  holds : ∃ source,
    (site.properties.get? "source").bind Text.nonBlank? = some source ∧
      site.bindings.get? source = some raw
  enough : site.fuel ≠ 0

/-- A variable that is not misread is saved whole: unless a call fails, the text
that it has to save is put at the path, a file is created if there is none, and
no other file is changed. -/
theorem saves_text (stores : oracle.Stores file?)
    (saves : site.SavesVariable engine path raw)
    (toSave : Step.TextToSave raw text) (isRead : ¬ Step.IsMisread raw) :
    ∃ mimeType written,
      Oracle.Wrote file? site.state.services
          (site.executed engine oracle).state.services
          ((site.context engine).write path text mimeType)
          (site.calls engine oracle) written ∧
        (site.executed engine oracle).value.1.1 =
          (stepResult site.node written).map fun _ =>
            site.node.jumps.next := by
  obtain ⟨source, sourced, holds⟩ := saves.holds
  obtain ⟨transcript, written, reached, later, mimeType, served, wrote⟩ :=
    stores.serve_saveFile (site.context engine) site.held site.state.services
      sourced saves.hasPath holds
  rw [toSave.fileData_eq isRead] at wrote
  have settles : Oracle.Settles (oracle.serve Handler.driveSave.execute
      (site.context engine) site.held site.state.services) :=
    Oracle.settles_of_ensures Step.ensures_saveFile _ _ _
  have executed_eq := executed_of_settles saves.handled saves.enough settles
  rw [Handler.driveSave, served] at executed_eq
  refine ⟨mimeType, written, ?_, ?_⟩
  · rw [calls, executed_eq]
    dsimp only
    rw [calls_carried]
    exact wrote.calls
  · rw [executed_eq]
    rcases written with (failure | _) | info <;> rfl

/-- A node that saves a variable in an empty store. -/
def saving (raw : String) : CallSite (OrderedMap KeptFile) :=
  let properties := .ofList [("source", "reply"), ("path", "out.json"),
    ("savePathTo", "saved")]
  ⟨⟨""⟩, ⟨"save", .driveSave, properties, ⟨.pastEnd, none, none⟩⟩, properties,
    .ofList [("reply", raw)], .fresh "id" "file",
    ⟨.empty, fun _ => "id", fun _ => Instant.epoch⟩, 1⟩

theorem savesVariable_saving (raw : String) :
    (saving raw).SavesVariable attended "out.json" raw :=
  ⟨rfl, rfl, ⟨"reply", rfl, rfl⟩, Nat.one_ne_zero⟩

/-- An object that describes a file. -/
def described : String :=
  "\x7b\"data\":\"# A\",\"name\":\"a.md\"\x7d"

theorem read?_described : Json.read? described =
    some (.object [("data", .string "# A"), ("name", .string "a.md")]) := by
  have isSource : Json.Source.read? described =
      some (.object
        [("data".toList.map .char, .string ("# A".toList.map .char)),
          ("name".toList.map .char, .string ("a.md".toList.map .char))]) := rfl
  rw [Json.read?, isSource, Option.bind_some, Json.maxDepth]
  simp only [Json.ofSource?, Json.ofMembers?]
  rfl

theorem textToSave_described : Step.TextToSave described "# A" :=
  .data read?_described rfl

theorem not_isMisread_described : ¬ Step.IsMisread described := by
  rintro ⟨members, data, read, held, noText⟩
  obtain rfl := Json.object.inj (Option.some.inj
    (read?_described.symm.trans read))
  rw [Json.member?, if_pos rfl] at held
  rw [← Option.some.inj held] at noText
  cases noText

theorem saves_text_described :
    Step.TextToSave described "# A" ∧
      ¬ Step.IsMisread described ∧
      (∃ mimeType written, Oracle.Wrote OrderedMap.get?
        (saving described).state.services
        ((saving described).executed attended
          (Oracle.memory none)).state.services
        (((saving described).context attended).write "out.json" "# A" mimeType)
        ((saving described).calls attended (Oracle.memory none)) written) ∧
      ((saving described).executed attended
        (Oracle.memory none)).state.services.get? "out.json" =
          some ⟨"# A", false⟩ := by
  obtain ⟨mimeType, written, wrote, -⟩ := saves_text
    (Oracle.memory_stores none) (savesVariable_saving described)
    textToSave_described not_isMisread_described
  exact ⟨textToSave_described, not_isMisread_described,
    ⟨mimeType, written, wrote⟩, by decide +kernel⟩

/-- An object with an array under `data`. -/
def listed : String :=
  "\x7b\"data\":[true]\x7d"

theorem read?_listed : Json.read? listed =
    some (.object [("data", .array [.bool true])]) := by
  have isSource : Json.Source.read? listed =
      some (.object [("data".toList.map .char, .array [.bool true])]) := rfl
  rw [Json.read?, isSource, Option.bind_some, Json.maxDepth]
  simp only [Json.ofSource?, Json.ofItems?, Json.ofMembers?]
  rfl

/-- An object with something else under `data` is lost, though the node leads
on. -/
theorem saves_nothing_listed :
    let executed := (saving listed).executed attended (Oracle.memory none)
    Step.TextToSave listed listed ∧
      executed.value.1.1 = .ok .pastEnd ∧
      executed.state.services.get? "out.json" = some ⟨"", false⟩ := by
  refine ⟨.whole fun members text read held => ?_,
    eq_ok_of_toOption (by decide +kernel), by decide +kernel⟩
  obtain rfl := Json.object.inj (Option.some.inj
    (read?_listed.symm.trans read))
  rw [Json.member?, if_pos rfl] at held
  cases held

end CallSite

end Runbook
