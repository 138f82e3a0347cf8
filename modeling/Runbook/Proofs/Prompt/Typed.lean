import Runbook.Proofs.Program.Transcript
import Runbook.Prompt.Terminal

/-!
# What is typed at the terminal

A person answers a prompt by typing lines.  What the lines of a dialog mean is
said part by part: the options that they select, the text that they make up and
the button that they choose.  The terminal takes them for just that, and asks
for no line in which it has no interest.
-/

namespace Runbook.Terminal

open Program (yields_bind_iff yields_done_iff yields_ask_iff)

variable {α β : Type}

/-- The lines that are typed in the course of a program; nothing stands for the
end of the input. -/
def typed (transcript : Transcript Host.Question Host.Reply) :
    List (Option String) :=
  transcript.filterMap fun exchange =>
    match exchange with
    | ⟨.line, reply⟩ => some reply
    | _ => none

/-- A program ends with a value after lines have been typed. -/
def Hears (program : Hosted α) (lines : List (Option String)) (value : α) :
    Prop :=
  ∃ transcript, program.Yields transcript value ∧ typed transcript = lines

/-! ### Lines that mean something -/

/-- Lines up to one that is a single point, to the end of the input, or to as
many as may be typed. -/
inductive MakeUp : (lines : List (Option String)) → List String → Prop
  | ended {texts : List String} (noPoint : "." ∉ texts) :
      MakeUp (texts.map some ++ [some "."]) texts
  | cut {texts : List String} (noPoint : "." ∉ texts) (some_ : texts ≠ []) :
      MakeUp (texts.map some ++ [none]) texts
  | full {texts : List String} (noPoint : "." ∉ texts)
      (limit : texts.length = lineLimit) : MakeUp (texts.map some) texts

/-- A text that is typed, or another one if nothing is. -/
def orElse (fallback line : String) : String :=
  if line.isEmpty then fallback else line

variable (prompt : DialogPrompt)

/-- Options are selected by their numbers; a blank line keeps the selection. -/
inductive Selects : (lines : List (Option String)) → List String → Prop
  | unasked (noOptions : prompt.options = []) :
      Selects [] prompt.defaultSelected
  | kept (options : prompt.options ≠ []) {line : String}
      (blank : Text.isBlankText line = true) :
      Selects [some line] prompt.defaultSelected
  | picked (options : prompt.options ≠ []) {line : String}
      (numbers : Text.isBlankText line = false) :
      Selects [some line] (pickOptions prompt.options line prompt.multiSelect)

/-- A text is typed in a line or in several ones; an empty one keeps the
text. -/
inductive Types : (lines : List (Option String)) → String → Prop
  | unasked (noInput : prompt.inputTitle = none) :
      Types [] (prompt.defaultInput.getD "")
  | line (input : prompt.inputTitle.isSome) (single : prompt.multiline = false)
      (line : String) :
      Types [some line] (orElse (prompt.defaultInput.getD "") line)
  | lines (input : prompt.inputTitle.isSome) (many : prompt.multiline = true)
      {lines : List (Option String)} {texts : List String}
      (makeUp : MakeUp lines texts) :
      Types lines
        (orElse (prompt.defaultInput.getD "") ("\n".intercalate texts))

/-- A line names the second button, by its number or by its text. -/
def IsSecond (second line : String) : Prop :=
  Text.trim line = "2" ∨
    Text.toLowerAscii (Text.trim line) = Text.toLowerAscii second

/-- The second button is chosen by naming it, and the first one by any other
line. -/
inductive Chooses : (lines : List (Option String)) → String → Prop
  | unasked (single : prompt.button2 = none) : Chooses [] prompt.button1
  | second {second line : String} (offered : prompt.button2 = some second)
      (isSecond : IsSecond second line) : Chooses [some line] second
  | first {second line : String} (offered : prompt.button2 = some second)
      (isFirst : ¬ IsSecond second line) : Chooses [some line] prompt.button1

/-- What a person enters in a dialog: what is offered, if it is to be accepted
as it is, and otherwise what the lines say. -/
inductive Enters : (isAccepting : Bool) → (lines : List (Option String)) →
    DialogResult → Prop
  | accepted : Enters true [] ⟨prompt.button1, prompt.defaultSelected,
      prompt.defaultInput.getD ""⟩
  | typed {first second third : List (Option String)} {button input : String}
      {selected : List String} (selects : Selects prompt first selected)
      (types : Types prompt second input)
      (chooses : Chooses prompt third button) :
      Enters false (first ++ second ++ third) ⟨button, selected, input⟩

/-! ### Programs that hear lines -/

variable {prompt} {program : Hosted α} {next : α → Hosted β}
  {lines : List (Option String)} {value : α} {result : β}

theorem hears_done_iff {other : α} : Hears (.done value) lines other ↔
    lines = [] ∧ other = value := by
  constructor
  · rintro ⟨transcript, yields, rfl⟩
    obtain ⟨rfl, rfl⟩ := yields_done_iff.1 yields
    exact ⟨rfl, rfl⟩
  · rintro ⟨rfl, rfl⟩
    exact ⟨[], .done _, rfl⟩

/-- The lines of two programs in a row split into those of each. -/
theorem Hears.exists_of_bind (hears : Hears (program.bind next) lines result) :
    ∃ first second value, lines = first ++ second ∧
      Hears program first value ∧ Hears (next value) second result := by
  obtain ⟨transcript, yields, rfl⟩ := hears
  obtain ⟨first, second, value, rfl, before, after⟩ := yields_bind_iff.1 yields
  exact ⟨typed first, typed second, value, List.filterMap_append,
    ⟨first, before, rfl⟩, ⟨second, after, rfl⟩⟩

/-- What is shown is followed by what comes next. -/
theorem Hears.of_show_bind {text : String} {next : Unit → Hosted β}
    (hears : Hears ((Hosted.ask (.show text)).bind next) lines result) :
    Hears (next ()) lines result := by
  obtain ⟨transcript, yields, rfl⟩ := hears
  obtain ⟨reply, rest, rfl, remaining⟩ := yields_ask_iff.1 yields
  exact ⟨rest, remaining, rfl⟩

/-- A line that is typed comes before what comes next. -/
theorem Hears.of_line_bind {next : Option String → Hosted β}
    (hears : Hears ((Hosted.ask .line).bind next) lines result) :
    ∃ line rest, lines = line :: rest ∧ Hears (next line) rest result := by
  obtain ⟨transcript, yields, rfl⟩ := hears
  obtain ⟨line, rest, rfl, remaining⟩ := yields_ask_iff.1 yields
  exact ⟨line, typed rest, rfl, rest, remaining, rfl⟩

/-- A question is answered by one line. -/
theorem Hears.of_askLine {question : String} {answer : Option String}
    (hears : Hears (askLine question) lines answer) : lines = [answer] := by
  have asked : Hears ((Hosted.ask .line).bind .done) lines answer :=
    Hears.of_show_bind hears
  obtain ⟨line, rest, rfl, ended⟩ := asked.of_line_bind
  obtain ⟨rfl, rfl⟩ := hears_done_iff.1 ended
  rfl

/-- What is made of the line that answers a question. -/
theorem Hears.of_askLine_map {question : String} {result : Option β}
    {read : Option String → Option β}
    (hears : Hears (read <$> askLine question) lines result) :
    ∃ answer, lines = [answer] ∧ result = read answer := by
  obtain ⟨first, second, answer, rfl, asked, ended⟩ := hears.exists_of_bind
  obtain rfl := asked.of_askLine
  obtain ⟨rfl, rfl⟩ := hears_done_iff.1 ended
  exact ⟨answer, rfl, rfl⟩

theorem Hears.of_readLines {limit : Nat} {texts : List String}
    {answer : Option (List String)}
    (hears : Hears (readLines limit texts) lines answer) (noPoint : "." ∉ texts)
    (enough : limit + texts.length = lineLimit) :
    ∀ all ∈ answer, MakeUp (texts.map some ++ lines) all := by
  induction limit generalizing texts lines with
  | zero =>
      obtain ⟨rfl, rfl⟩ := hears_done_iff.1 hears
      rintro _ ⟨⟩
      rw [List.append_nil]
      exact .full noPoint (by omega)
  | succ limit ih =>
      obtain ⟨line, rest, rfl, heard⟩ := hears.of_line_bind
      split at heard
      · obtain ⟨rfl, rfl⟩ := hears_done_iff.1 heard
        rintro _ ⟨⟩
        exact .ended noPoint
      · next line isText =>
          have more := ih heard (by simpa [noPoint, eq_comm] using isText)
            (by simp; omega)
          simpa using more
      · obtain ⟨rfl, rfl⟩ := hears_done_iff.1 heard
        cases texts with
        | nil => exact nofun
        | cons first others =>
            rintro _ ⟨⟩
            exact .cut noPoint (by simp)

theorem Hears.of_askLines {question : String} {answer : Option String}
    (hears : Hears (askLines question) lines answer) :
    ∀ text ∈ answer, ∃ texts, MakeUp lines texts ∧
      text = "\n".intercalate texts := by
  obtain ⟨first, second, found, rfl, heard, ended⟩ :=
    Hears.exists_of_bind (Hears.of_show_bind hears)
  obtain ⟨rfl, rfl⟩ := hears_done_iff.1 ended
  intro text isText
  obtain ⟨texts, isFound, rfl⟩ := Option.map_eq_some_iff.1 isText
  have makeUp := heard.of_readLines List.not_mem_nil (by simp) texts isFound
  exact ⟨texts, by simpa using makeUp, rfl⟩

/-! ### The parts of a dialog -/

theorem Hears.of_showOptions {number : Nat} {options : List String}
    {done : Unit} (hears : Hears (showOptions number options) lines done) :
    lines = [] := by
  induction options generalizing number with
  | nil => exact (hears_done_iff.1 hears).1
  | cons option rest ih => exact ih (Hears.of_show_bind hears)

theorem Hears.selects {answer : Option (List String)}
    (hears : Hears (askSelected prompt) lines answer) :
    ∀ selected ∈ answer, Selects prompt lines selected := by
  unfold askSelected at hears
  split at hears
  · next noOptions =>
      obtain ⟨rfl, rfl⟩ := hears_done_iff.1 hears
      rintro _ ⟨⟩
      exact .unasked (List.isEmpty_iff.1 noOptions)
  · next options =>
      rw [List.isEmpty_iff] at options
      obtain ⟨first, second, shown, rfl, nothing, heard⟩ := hears.exists_of_bind
      obtain rfl := nothing.of_showOptions
      obtain ⟨line, rfl, rfl⟩ := Hears.of_askLine_map heard
      intro selected isSelected
      obtain ⟨line, rfl, rfl⟩ := Option.map_eq_some_iff.1 isSelected
      split
      · next blank => exact .kept options blank
      · next numbers => exact .picked options (by simpa using numbers)

theorem Hears.types {answer : Option String}
    (hears : Hears (askInput prompt) lines answer) :
    ∀ input ∈ answer, Types prompt lines input := by
  unfold askInput at hears
  split at hears
  · next noInput =>
      obtain ⟨rfl, rfl⟩ := hears_done_iff.1 hears
      rintro _ ⟨⟩
      exact .unasked noInput
  · next title isTitle =>
      have input : prompt.inputTitle.isSome := by rw [isTitle]; rfl
      dsimp only at hears
      split at hears
      · next many =>
          obtain ⟨first, _, found, rfl, heard, ended⟩ := hears.exists_of_bind
          obtain ⟨rfl, rfl⟩ := hears_done_iff.1 ended
          intro text isText
          obtain ⟨line, isFound, rfl⟩ := Option.map_eq_some_iff.1 isText
          obtain ⟨texts, makeUp, rfl⟩ := heard.of_askLines line isFound
          rw [List.append_nil]
          exact .lines input many makeUp
      · next single =>
          obtain ⟨found, rfl, rfl⟩ := Hears.of_askLine_map hears
          intro text isText
          obtain ⟨line, rfl, rfl⟩ := Option.map_eq_some_iff.1 isText
          exact .line input (by simpa using single) line

theorem Hears.chooses {answer : Option String}
    (hears : Hears (askButton prompt) lines answer) :
    ∀ button ∈ answer, Chooses prompt lines button := by
  unfold askButton at hears
  split at hears
  · next single =>
      obtain ⟨rfl, rfl⟩ := hears_done_iff.1 hears
      rintro _ ⟨⟩
      exact .unasked single
  · next second offered =>
      obtain ⟨line, rfl, rfl⟩ := Hears.of_askLine_map hears
      intro button isButton
      obtain ⟨line, rfl, rfl⟩ := Option.map_eq_some_iff.1 isButton
      dsimp only
      split
      · next names =>
          exact .second offered (by simpa [IsSecond] using names)
      · next others =>
          exact .first offered (by simpa [IsSecond] using others)

/-! ### Dialogs and files -/

variable {isAccepting : Bool} {nodeId : String}

theorem Hears.enters {answer : Option DialogResult}
    (hears : Hears (askDialog prompt) lines answer) :
    ∀ entered ∈ answer, Enters prompt false lines entered := by
  obtain ⟨first, rest, selected, rfl, selecting, hears⟩ := hears.exists_of_bind
  cases selected with
  | none =>
      obtain ⟨-, rfl⟩ := hears_done_iff.1 hears
      exact nofun
  | some selected =>
      obtain ⟨second, third, input, rfl, typing, hears⟩ := hears.exists_of_bind
      cases input with
      | none =>
          obtain ⟨-, rfl⟩ := hears_done_iff.1 hears
          exact nofun
      | some input =>
          obtain ⟨third, _, button, rfl, choosing, ended⟩ :=
            hears.exists_of_bind
          obtain ⟨rfl, rfl⟩ := hears_done_iff.1 ended
          intro entered isEntered
          obtain ⟨button, rfl, rfl⟩ := Option.map_eq_some_iff.1 isEntered
          rw [List.append_nil, ← List.append_assoc]
          exact .typed (selecting.selects selected rfl)
            (typing.types input rfl) (choosing.chooses button rfl)

/-- The answer to a dialog is the text of what has been entered. -/
theorem Hears.of_answerDialog {answer : String}
    (hears : Hears (answerDialog isAccepting nodeId prompt) lines
      (some answer)) :
    ∃ entered, Enters prompt isAccepting lines entered ∧
      answer = entered.toJson.render := by
  have titled := Hears.of_show_bind hears
  have composed : Hears ((if isAccepting then
      pure (some ⟨prompt.button1, prompt.defaultSelected,
        prompt.defaultInput.getD ""⟩)
    else askDialog prompt : Hosted (Option DialogResult)).bind fun entered =>
      pure (entered.map fun entered => entered.toJson.render)) lines
        (some answer) := by
    dsimp only at titled
    cases isAccepting <;> split at titled
    · exact Hears.of_show_bind titled
    · exact titled
    · exact Hears.of_show_bind titled
    · exact titled
  obtain ⟨first, _, entered, rfl, heard, ended⟩ := composed.exists_of_bind
  obtain ⟨rfl, isText⟩ := hears_done_iff.1 ended
  obtain ⟨result, rfl, rfl⟩ := Option.map_eq_some_iff.1 isText.symm
  refine ⟨result, ?_, rfl⟩
  rw [List.append_nil]
  cases isAccepting with
  | false => exact heard.enters result rfl
  | true =>
      obtain ⟨rfl, same⟩ := hears_done_iff.1 heard
      obtain rfl := Option.some.inj same
      exact .accepted

/-- The answer to a prompt for a file is the text of a selection by the path
that has been typed. -/
theorem Hears.of_answerFile {prompt : DriveFilePrompt} {answer : String}
    (hears : Hears (answerFile isAccepting nodeId prompt) lines
      (some answer)) :
    isAccepting = false ∧ ∃ line, lines = [some line] ∧
      Text.trim line ≠ "" ∧
      answer = (DriveFileSelection.toJson
        ⟨Text.trim line, Text.trim line⟩).render := by
  unfold answerFile at hears
  split at hears
  · obtain ⟨-, none_⟩ := hears_done_iff.1 hears
    cases none_
  · next asked =>
      have titled := Hears.of_show_bind hears
      obtain ⟨first, _, found, rfl, heard, ended⟩ := titled.exists_of_bind
      obtain rfl := heard.of_askLine
      obtain ⟨rfl, isText⟩ := hears_done_iff.1 ended
      obtain ⟨line, rfl, selects⟩ := Option.bind_eq_some_iff.1 isText.symm
      dsimp only at selects
      split at selects
      · cases selects
      · next path =>
          obtain rfl := Option.some.inj selects
          exact ⟨by simpa using asked, line, rfl, by simpa using path, rfl⟩

end Runbook.Terminal
