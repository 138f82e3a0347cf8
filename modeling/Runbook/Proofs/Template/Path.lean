import Runbook.Proofs.Template.Grammar

/-!
# Paths as they are written

A path is written one step after the other: a member or an item by its name
after a point, an item by its position in brackets, or by a variable in
brackets, with blanks inside of the brackets as one likes.  A reference that is
written so is read as these steps.
-/

namespace Runbook.Template

/-! ### Steps and how they are written -/

/-- A step into a value: to what has a name in it, or to what is at a
position. -/
inductive Step
  | named (name : String)
  | at (position : Nat)

/-- A variable holds a position: its text is a numeral between blanks. -/
def Holds (bindings : Variables) (name : String) (position : Nat) : Prop :=
  ∃ text, bindings.get? name = some text ∧
    IsNumeral (Text.trimBoth text.toList) position

/-- What stands in brackets for a position: a numeral for it, or another text
that is the name of a variable which holds it. -/
inductive Denotes (bindings : Variables) : List Char → Nat → Prop
  | numeral {text : List Char} {position : Nat}
      (numeral : IsNumeral text position) : Denotes bindings text position
  | held {name : String} {position : Nat} (isKey : IsKey name.toList)
      (noNumeral : ∀ number, ¬ IsNumeral name.toList number)
      (holds : Holds bindings name position) :
      Denotes bindings name.toList position

/-- A step is written with some characters. -/
inductive Step.Written (bindings : Variables) : Step → List Char → Prop
  | name {name : String} (isKey : IsKey name.toList) :
      Written bindings (.named name) ('.' :: name.toList)
  | bracket {before text after : List Char} {position : Nat}
      (blanksBefore : ∀ character ∈ before, Text.isBlank character = true)
      (denotes : Denotes bindings text position)
      (blanksAfter : ∀ character ∈ after, Text.isBlank character = true) :
      Written bindings (.at position)
        ('[' :: before ++ text ++ after ++ [']'])

/-- A path is written as its steps one after the other. -/
inductive PathWritten (bindings : Variables) : List Step → List Char → Prop
  | nil : PathWritten bindings [] []
  | cons {step : Step} {steps : List Step} {text rest : List Char}
      (written : step.Written bindings text)
      (others : PathWritten bindings steps rest) :
      PathWritten bindings (step :: steps) (text ++ rest)

/-- The segment that is read for a step. -/
inductive Step.Reads (bindings : Variables) : Step → Segment → Prop
  | key {name : String} (isKey : IsKey name.toList) :
      Reads bindings (.named name) (.key name)
  | index (position : Nat) : Reads bindings (.at position) (.index position)
  | indexFrom {name : String} {position : Nat}
      (holds : Holds bindings name position) :
      Reads bindings (.at position) (.indexFrom name)

variable {bindings : Variables} {step : Step} {steps : List Step}
  {text : List Char}

/-! ### Steps are segments -/

/-- What stands in brackets is read as a position or as the variable that holds
it. -/
theorem Denotes.exists_bracketed {position : Nat}
    (denotes : Denotes bindings text position) :
    ∃ segment, (Step.at position).Reads bindings segment ∧
      segment.Bracketed text := by
  cases denotes with
  | numeral numeral => exact ⟨_, .index position, .index numeral⟩
  | held isKey noNumeral holds =>
      exact ⟨_, .indexFrom holds, .indexFrom isKey noNumeral⟩

/-- A step is written as one of the segments that are read for it. -/
theorem Step.Written.exists_segment (written : step.Written bindings text) :
    ∃ segment, step.Reads bindings segment ∧ segment.Written text := by
  cases written with
  | name isKey => exact ⟨_, .key isKey, .key isKey⟩
  | bracket blanksBefore denotes blanksAfter =>
      obtain ⟨segment, reads, bracketed⟩ := denotes.exists_bracketed
      exact ⟨segment, reads, .bracket blanksBefore bracketed blanksAfter⟩

/-- A path is written as segments that are read for its steps. -/
theorem PathWritten.exists_segments
    (written : PathWritten bindings steps text) :
    ∃ path, List.Forall₂ (Step.Reads bindings) steps path ∧
      SegmentsWritten path text := by
  induction written with
  | nil => exact ⟨[], .nil, .nil⟩
  | cons here others ih =>
      obtain ⟨segment, readsHere, writtenHere⟩ := here.exists_segment
      obtain ⟨path, reads, written⟩ := ih
      exact ⟨segment :: path, .cons readsHere reads, .cons writtenHere written⟩

end Runbook.Template
