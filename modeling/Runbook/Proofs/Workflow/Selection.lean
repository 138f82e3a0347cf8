import Runbook.Proofs.OrderedMap
import Runbook.Proofs.Workflow.Compile

/-!
# Workflows chosen by name

A document holds workflows under their names.  A name that is asked for is
trimmed, and the names of a document are not: so a workflow can be chosen by
its name exactly if there are no blanks around that and it is not empty, or if
it is blank and the document holds nothing else.
-/

namespace Runbook

namespace Text

/-- A text stays as it is without the blanks around it if there are none. -/
theorem nonBlank?_eq_self_iff {text : String} :
    nonBlank? text = some text ↔ trim text = text ∧ text ≠ "" := by
  unfold nonBlank?
  by_cases blank : isBlankText text
  · rw [if_pos blank]
    have emptied : trim text = "" := by
      rw [trim, trimBoth, trimLeft, List.dropWhile_eq_nil_iff.2
        (List.all_eq_true.1 blank)]
      rfl
    simp only [reduceCtorEq, false_iff, not_and, Decidable.not_not]
    exact fun same => same.symm.trans emptied
  · rw [if_neg blank, Option.some.injEq]
    refine ⟨fun same => ⟨same, ?_⟩, And.left⟩
    rintro rfl
    exact blank rfl

end Text

/-- A request by name does not single out one workflow. -/
def ParseError.IsOfSelection : ParseError → Prop
  | .unknownWorkflow _ | .ambiguousWorkflow _ => True
  | _ => False

/-- What is wrong with a document is not wrong with a request. -/
theorem Document.Fault.not_isOfSelection {document : Document}
    {place : Document.Place} {error : ParseError}
    (fault : document.Fault place error) : ¬ error.IsOfSelection := by
  cases fault with
  | jump fault =>
      cases fault with
      | target field found given fault => cases fault <;> exact id
      | _ => exact id
  | _ => exact id

theorem Document.not_isOfSelection_of_compile {document : Document}
    {name : String} {error : ParseError}
    (rejected : document.compile name = .error error) :
    ¬ error.IsOfSelection := by
  obtain ⟨place, fault, -⟩ :=
    ((document.compile_correct name).2.2 error).1 rejected
  exact fault.not_isOfSelection

namespace Bundle

/-- A request for a key is one for the key itself: there are no blanks to trim,
or nothing else can be meant. -/
def CanRequest (bundle : Bundle) (key : String) : Prop :=
  Text.trim key = key ∧ key ≠ "" ∨
    Text.isBlankText key = true ∧ bundle.size = 1

variable {bundle : Bundle} {key : String} {document : Document}

theorem select_of_blank {name : Option String}
    (nameless : name.bind Text.nonBlank? = none) :
    (∀ entry, bundle.entries = [entry] → bundle.select name = .ok entry) ∧
    (bundle.entries = [] → bundle.select name = .error .empty) ∧
    (2 ≤ bundle.size →
      bundle.select name = .error (.ambiguousWorkflow bundle.keys)) := by
  unfold select OrderedMap.size
  rw [nameless]
  rcases bundle.entries with _ | ⟨first, _ | ⟨second, rest⟩⟩ <;> simp

/-- A key selects its document exactly if the document can be requested. -/
theorem select_eq_ok_iff (found : bundle.get? key = some document) :
    bundle.select (some key) = .ok (key, document) ↔
      bundle.CanRequest key := by
  rw [CanRequest, ← Text.nonBlank?_eq_self_iff]
  cases requested : Text.nonBlank? key with
  | none =>
      have blank : Text.isBlankText key = true := by
        by_contra notBlank
        rw [Text.nonBlank?, if_neg notBlank] at requested
        cases requested
      obtain ⟨only, -, several⟩ := @select_of_blank bundle (some key) requested
      have member := OrderedMap.mem_of_find? found
      simp only [reduceCtorEq, false_or, blank, true_and]
      constructor
      · intro selected
        have present := List.length_pos_of_mem member
        by_contra notOnly
        have severalOnes : 2 ≤ bundle.size := by
          unfold OrderedMap.size at notOnly ⊢
          omega
        rw [several severalOnes] at selected
        cases selected
      · intro isOnly
        obtain ⟨entry, entries_eq⟩ := List.length_eq_one_iff.1 isOnly
        rw [entries_eq, List.mem_singleton] at member
        rw [only entry entries_eq, member]
  | some name =>
      have notBlank : Text.isBlankText key = false := by
        by_contra blank
        rw [Text.nonBlank?, if_pos (by simpa using blank)] at requested
        cases requested
      simp only [select, Option.bind_some, requested, Option.some.injEq,
        notBlank, Bool.false_eq_true, false_and, or_false]
      constructor
      · intro selected
        split at selected
        · cases selected
          rfl
        · cases selected
      · rintro rfl
        simp only [found]

end Bundle

theorem Workflow.read_eq_bind {source : String} {bundle : Bundle}
    (holds : Bundle.read source = .ok bundle) (name : Option String) :
    Workflow.read source name =
      (bundle.select name).bind fun entry => entry.2.compile entry.1 := by
  unfold Workflow.read
  rw [holds]
  rfl

/-- Of a text that holds workflows, the one under a key is chosen by that key
exactly if the key can be requested.  Then it is compiled, and nothing is wrong
but what is wrong with its document.  Without a name the only workflow is
compiled, and it is an error if there is none or if there are several. -/
theorem Workflow.read_selects {source : String} {bundle : Bundle}
    (holds : Bundle.read source = .ok bundle) :
    (∀ key document, bundle.get? key = some document →
      (bundle.select (some key) = .ok (key, document) ↔
        bundle.CanRequest key) ∧
      (bundle.CanRequest key →
        Workflow.read source (some key) = document.compile key ∧
        ∀ error, Workflow.read source (some key) = .error error →
          ¬ error.IsOfSelection)) ∧
    (∀ key document, bundle.entries = [(key, document)] →
      Workflow.read source none = document.compile key) ∧
    (bundle.entries = [] → Workflow.read source none = .error .empty) ∧
    (2 ≤ bundle.size →
      Workflow.read source none = .error (.ambiguousWorkflow bundle.keys)) := by
  obtain ⟨only, nothing, several⟩ := @Bundle.select_of_blank bundle none rfl
  refine ⟨fun key document found => ?_, ?_, ?_, ?_⟩
  · have selects := Bundle.select_eq_ok_iff found
    refine ⟨selects, fun requestable => ?_⟩
    have compiled : Workflow.read source (some key) =
        document.compile key := by
      rw [read_eq_bind holds, selects.2 requestable]
      rfl
    refine ⟨compiled, fun error rejected => ?_⟩
    exact Document.not_isOfSelection_of_compile (compiled.symm.trans rejected)
  · intro key document isOnly
    rw [read_eq_bind holds, only _ isOnly]
    rfl
  · intro isEmpty
    rw [read_eq_bind holds, nothing isEmpty]
    rfl
  · intro severalOnes
    rw [read_eq_bind holds, several severalOnes]
    rfl

/-- Two workflows, one of them with a blank before its name. -/
def Bundle.paddedText : String :=
  "workflows:\n  \" a\":\n    nodes:\n    - type: set\n" ++
    "  b:\n    nodes:\n    - type: sleep\n"

theorem Bundle.exists_of_read {source : String} {property : Bundle → Bool}
    (evaluated : (Bundle.read source).toOption.any property = true) :
    ∃ bundle, Bundle.read source = .ok bundle ∧ property bundle = true := by
  cases ended : Bundle.read source with
  | error error =>
      rw [ended] at evaluated
      cases evaluated
  | ok bundle =>
      rw [ended] at evaluated
      exact ⟨bundle, rfl, evaluated⟩

/-- The workflow without blanks around its name can be chosen, and has to be,
since there is another one. -/
theorem Workflow.read_selects_b :
    ∃ bundle document, Bundle.read Bundle.paddedText = .ok bundle ∧
      bundle.get? "b" = some document ∧ bundle.CanRequest "b" ∧
      Workflow.read Bundle.paddedText (some "b") = document.compile "b" ∧
      Workflow.read Bundle.paddedText none =
        .error (.ambiguousWorkflow [" a", "b"]) := by
  obtain ⟨bundle, holds, evaluated⟩ := @Bundle.exists_of_read
    Bundle.paddedText (fun bundle => (bundle.get? "b").isSome &&
      decide (bundle.keys = [" a", "b"])) (by decide +kernel)
  rw [Bool.and_eq_true, decide_eq_true_eq] at evaluated
  obtain ⟨found, keys_eq⟩ := evaluated
  obtain ⟨document, found⟩ := Option.isSome_iff_exists.1 found
  have requestable : bundle.CanRequest "b" := .inl ⟨by decide, by decide⟩
  have severalOnes : 2 ≤ bundle.size := by
    rw [OrderedMap.size, ← List.length_map Prod.fst]
    exact Nat.le_of_eq (congrArg List.length keys_eq).symm
  obtain ⟨named, -, -, several⟩ := Workflow.read_selects holds
  refine ⟨bundle, document, holds, found, requestable,
    ((named "b" document found).2 requestable).1, ?_⟩
  rw [several severalOnes, keys_eq]

/-- The workflow with a blank before its name cannot be chosen by it. -/
theorem Workflow.read_misses_padded :
    ¬ ∀ source bundle, Bundle.read source = .ok bundle →
      ∀ key document, bundle.get? key = some document →
        Workflow.read source (some key) = document.compile key := by
  intro selects
  obtain ⟨bundle, holds, evaluated⟩ := @Bundle.exists_of_read
    Bundle.paddedText (fun bundle => (bundle.get? " a").isSome &&
      (bundle.get? "a").isNone) (by decide +kernel)
  rw [Bool.and_eq_true, Option.isNone_iff_eq_none] at evaluated
  obtain ⟨found, unknown⟩ := evaluated
  obtain ⟨document, found⟩ := Option.isSome_iff_exists.1 found
  have trimmed : Text.nonBlank? " a" = some "a" := by decide
  have refused : Workflow.read Bundle.paddedText (some " a") =
      .error (.unknownWorkflow "a") := by
    rw [read_eq_bind holds, Bundle.select, Option.bind_some, trimmed]
    dsimp only
    rw [unknown]
    rfl
  have compiled := selects _ bundle holds " a" document found
  exact Document.not_isOfSelection_of_compile
    (compiled.symm.trans refused) trivial

end Runbook
