import Runbook.Proofs.Json.Lexeme
import Runbook.Proofs.Run.ConfirmedWrite
import Runbook.Proofs.Text.Fence

/-!
# Reading JSON from a variable

A model tends to answer with JSON in a fenced block.  A node that reads the JSON
of a variable makes the same of a block as of the JSON inside, whatever that has
in its strings, and of a text that stands for no JSON it makes nothing.
-/

namespace Runbook

open Text (AreBlank Fences IsBlock Unfences fence trimBoth)

namespace Json

/-- No text that can be read begins with a marker. -/
theorem not_fences_of_read? {text tag body : List Char} {value : Json}
    (reads : read? (String.ofList text) = some value) :
    ¬ Fences text tag body := by
  intro fences
  obtain ⟨opening, closing, -, -, begins⟩ := fences.exists_rest
  have readsToo := read?_trim reads
  rw [Text.trim, String.toList_ofList,
    Text.afterStart?_eq_some_iff.1 begins] at readsToo
  obtain ⟨source, parsed, -⟩ := Option.bind_eq_some_iff.1 readsToo
  obtain ⟨tokens, scanned, -⟩ := Option.bind_eq_some_iff.1 parsed
  rw [String.toList_ofList] at scanned
  cases scanned

/-- A text that can be read stands for itself. -/
theorem unfences_of_read? {text : List Char} {value : Json}
    (reads : read? (String.ofList text) = some value) :
    Unfences text (trimBoth text) :=
  .plain fun _ _ => not_fences_of_read? reads

/-- A text that contains JSON: the JSON itself, or a block around it. -/
def Contains (text json : String) : Prop :=
  text = json ∨ ∃ tag, IsBlock text.toList tag json.toList

theorem read?_unfence {text json : String} {value : Json}
    (contains : Contains text json) (valid : read? json = some value) :
    read? (Text.unfence text) = some value := by
  have validToo := read?_trim valid
  rw [← String.ofList_toList (s := json)] at valid
  have unfences : Unfences text.toList (trimBoth json.toList) := by
    rcases contains with rfl | ⟨tag, isBlock⟩
    · exact unfences_of_read? valid
    · exact isBlock.unfences
  have unfenced := unfences.unfence_eq
  rw [String.ofList_toList] at unfenced
  rwa [unfenced]

end Json

namespace Step

variable {source text : String}

/-- What comes of reading JSON: its compact text is saved, or the step
fails. -/
theorem program_readJson (context : Context) (state : State)
    (sourced : (context.properties.get? "source").bind Text.nonBlank? =
      some source) (holds : state.bindings.get? source = some text) :
    readJson.program context state = .done
      (match Json.read? (Text.unfence text) with
        | some value =>
          (.ok .proceed, saved context "saveTo" value.render state)
        | none => (.error (.failed
            (.of s!"variable '{source}' does not contain valid JSON")),
            state)) := by
  have valued : (valueOf? source).program context state =
      .done (.ok (some text), state) := by
    rw [← holds]
    rfl
  rw [readJson, program_bind, program_requiredTrimmed_of_some sourced]
  dsimp only [Program.pure_bind]
  rw [program_bind, valued]
  dsimp only [Program.pure_bind]
  cases Json.read? (Text.unfence text) with
  | none => rfl
  | some value => exact program_save_proceed

end Step

namespace CallSite

open Engine

variable {Services : Type} {engine : Engine} {oracle : Oracle Services}
  {site : CallSite Services} {source text json : String} {value : Json}

/-- The node reads the JSON of a variable that holds a text. -/
structure ReadsJson (site : CallSite Services) (engine : Engine)
    (source text : String) : Prop where
  handled : engine.registry.handler? site.node.nodeType = some Handler.json
  sourced :
    (site.properties.get? "source").bind Text.nonBlank? = some source
  holds : site.bindings.get? source = some text
  enough : site.fuel ≠ 0

/-- The node leads on with a text as its output, which is stored under the name
that it gives for it, if any.  Nothing else changes. -/
def Stores (site : CallSite Services) (engine : Engine)
    (oracle : Oracle Services) (text : String) : Prop :=
  (site.executed engine oracle).value =
      ((.ok site.node.jumps.next, some text,
        (Step.named (site.context engine) "saveTo" text site.held).bindings),
        site.run) ∧
    (site.executed engine oracle).state = site.state

/-- The node fails since there is no JSON in a variable, and stores nothing. -/
def FindsNoJson (site : CallSite Services) (engine : Engine)
    (oracle : Oracle Services) (source : String) : Prop :=
  (site.executed engine oracle).value =
      ((.error (nodeFailure site.node
          (.of s!"variable '{source}' does not contain valid JSON")), none,
        site.bindings), site.run) ∧
    (site.executed engine oracle).state = site.state

/-- What is seen of the node is what comes of its step. -/
theorem ReadsJson.executed_eq (readsJson : site.ReadsJson engine source text)
    {ended : Except Step.Stop Directive × Step.State}
    (done : Step.readJson.program (site.context engine) site.held =
      .done ended) :
    site.executed engine oracle =
      ⟨[site.run.exchange .isAborted false],
        ((Oracle.settled site.node ended.1, ended.2.output, ended.2.bindings),
          site.run), site.state⟩ := by
  have settles : Oracle.Settles (oracle.serve Handler.json.execute
      (site.context engine) site.held site.state.services) :=
    Oracle.settles_of_ensures Step.ensures_readJson _ _ _
  rw [executed_of_settles readsJson.handled readsJson.enough settles,
    Handler.json, Oracle.serve_of_done done]
  rfl

theorem ReadsJson.stores (readsJson : site.ReadsJson engine source text)
    (reads : Json.read? (Text.unfence text) = some value) :
    site.Stores engine oracle value.render := by
  have done := Step.program_readJson (site.context engine) site.held
    readsJson.sourced readsJson.holds
  rw [reads] at done
  rw [Stores, readsJson.executed_eq done]
  exact ⟨rfl, rfl⟩

theorem ReadsJson.findsNoJson (readsJson : site.ReadsJson engine source text)
    (invalid : Json.read? (Text.unfence text) = none) :
    site.FindsNoJson engine oracle source := by
  have done := Step.program_readJson (site.context engine) site.held
    readsJson.sourced readsJson.holds
  rw [invalid] at done
  rw [FindsNoJson, readsJson.executed_eq done]
  exact ⟨rfl, rfl⟩

/-- Of a block and of the JSON inside of it the node stores the compact text of
its value.  Of a text that stands for no JSON it stores nothing. -/
theorem readsJson_of_block (engine : Engine) (oracle : Oracle Services)
    (source : String) :
    (∀ (site : CallSite Services) (text json : String) (value : Json),
        Json.read? json = some value → Json.Contains text json →
        site.ReadsJson engine source text →
          site.Stores engine oracle value.render) ∧
      ∀ (site : CallSite Services) (text : String) (body : List Char),
        Unfences text.toList body → Json.read? (String.ofList body) = none →
        site.ReadsJson engine source text →
          site.FindsNoJson engine oracle source := by
  constructor
  · intro site text json value valid contains readsJson
    exact readsJson.stores (Json.read?_unfence contains valid)
  · intro site text body unfences invalid readsJson
    have unfenced := unfences.unfence_eq
    rw [String.ofList_toList] at unfenced
    exact readsJson.findsNoJson (unfenced ▸ invalid)

/-- A node that reads the JSON of a reply. -/
def reading (reply : String) : CallSite (OrderedMap KeptFile) :=
  let properties := .ofList [("source", "reply"), ("saveTo", "value")]
  ⟨⟨""⟩, ⟨"read", .json, properties, ⟨.pastEnd, none, none⟩⟩, properties,
    .ofList [("reply", reply)], .fresh "id" "data",
    ⟨.empty, fun _ => "id", fun _ => Instant.epoch⟩, 1⟩

theorem readsJson_reading (reply : String) :
    (reading reply).ReadsJson attended "reply" reply :=
  ⟨rfl, rfl, rfl, Nat.one_ne_zero⟩

/-- A tagged block with a text inside, each marker on a line of its own. -/
def blockOf (inside : String) : String :=
  String.ofList (fence ++ "json\n".toList ++ inside.toList ++ '\n' :: fence)

theorem isBlock_blockOf (inside : String) :
    IsBlock (blockOf inside).toList "json".toList inside.toList := by
  refine ⟨by decide, [], ['\n'], ['\n'], [], nofun, by decide, by decide,
    nofun, List.cons_ne_nil _ _, ?_⟩
  simp [blockOf]

/-- An array with a text of two markers on lines of their own. -/
def markers : String :=
  "[\"\x60\x60\x60\\n\x60\x60\x60\"]"

theorem read?_markers : Json.read? markers =
    some (.array [.string "\x60\x60\x60\n\x60\x60\x60"]) := by
  have isSource : Json.Source.read? markers = some (.array
      [.string ("\x60\x60\x60\n\x60\x60\x60".toList.map .char)]) := rfl
  rw [Json.read?, isSource, Option.bind_some, Json.maxDepth]
  simp only [Json.ofSource?, Json.ofItems?]
  rfl

theorem readsJson_of_block_markers :
    Json.Contains (blockOf markers) markers ∧
      (reading (blockOf markers)).ReadsJson attended "reply"
        (blockOf markers) ∧
      (reading (blockOf markers)).Stores attended (Oracle.memory none)
        markers ∧
      Unfences (blockOf "[,]").toList "[,]".toList ∧
      (reading (blockOf "[,]")).FindsNoJson attended (Oracle.memory none)
        "reply" := by
  obtain ⟨stores, findsNoJson⟩ :=
    readsJson_of_block attended (Oracle.memory none) "reply"
  have contains : Json.Contains (blockOf markers) markers :=
    .inr ⟨_, isBlock_blockOf markers⟩
  have unfences : Unfences (blockOf "[,]").toList "[,]".toList :=
    (isBlock_blockOf "[,]").unfences
  exact ⟨contains, readsJson_reading _,
    stores _ _ _ _ read?_markers contains (readsJson_reading _), unfences,
    findsNoJson _ _ _ unfences rfl (readsJson_reading _)⟩

end CallSite

end Runbook
