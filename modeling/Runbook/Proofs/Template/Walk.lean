import Runbook.Proofs.Json.RoundTrip
import Runbook.Proofs.OrderedMap
import Runbook.Proofs.Template.Laws
import Runbook.Proofs.Template.Path

/-!
# Walking into stored values

A value that is stored in a variable is held as its text and read again for
every reference.  Nothing of it is lost that way: a path leads to the same part
of the value as in the value itself, and to nothing if there is no such part.
-/

namespace Runbook.Template

/-- A step leads from a value to a part of it: a name to the member with this
name or to the item at the position that the name is a numeral for, a position
to the item there. -/
inductive Step.Leads : Step → Json → Json → Prop
  | member {members : List (String × Json)} {name : String} {part : Json}
      (present : (name, part) ∈ members) :
      Leads (.named name) (.object members) part
  | itemNamed {items : List Json} {name : String} {position : Nat} {part : Json}
      (numeral : IsNumeral name.toList position)
      (found : items[position]? = some part) :
      Leads (.named name) (.array items) part
  | item {items : List Json} {position : Nat} {part : Json}
      (found : items[position]? = some part) :
      Leads (.at position) (.array items) part

/-- A path leads from a value to a part of it, one step after the other. -/
inductive Reaches : List Step → Json → Json → Prop
  | here (value : Json) : Reaches [] value value
  | step {step : Step} {steps : List Step} {value next part : Json}
      (leads : step.Leads value next) (reaches : Reaches steps next part) :
      Reaches (step :: steps) value part

/-- Arrays and objects. -/
def IsStructure : Json → Prop
  | .array _ => True
  | .object _ => True
  | _ => False

variable {bindings : Variables} {step : Step} {steps : List Step}
  {segment : Segment} {path : List Segment} {value next part : Json}
  {depth : Nat}

/-! ### Steps -/

theorem item?_eq_some_iff {position : Nat} :
    value.item? position = some next ↔ (Step.at position).Leads value next := by
  constructor
  · intro found
    cases value with
    | array items => exact .item found
    | _ => cases found
  · rintro ⟨⟩
    next found => exact found

theorem position?_of_holds {name : String} {position : Nat}
    (holds : Holds bindings name position) :
    (bindings.get? name).bind position? = some position := by
  obtain ⟨text, found, numeral⟩ := holds
  rw [found, Option.bind_some, position?,
    numeral.isKey.natural?_eq_some_iff.2 numeral]

/-- A segment leads where the step leads for which it is read. -/
theorem Step.Reads.walk?_eq_some_iff (reads : step.Reads bindings segment)
    (fits : Json.Fits depth value) :
    segment.walk? bindings value = some next ↔ step.Leads value next := by
  cases reads with
  | key isKey =>
      cases value with
      | object members =>
          cases depth with
          | zero => cases fits
          | succ depth =>
              refine (Json.member?_eq_some_iff fits.1.nodup).trans ⟨.member, ?_⟩
              rintro ⟨⟩
              next present => exact present
      | array items =>
          rw [Segment.walk?, Option.bind_eq_some_iff]
          constructor
          · rintro ⟨position, read, found⟩
            exact .itemNamed (isKey.natural?_eq_some_iff.1 read) found
          · rintro ⟨⟩
            next position numeral found =>
              exact ⟨position, isKey.natural?_eq_some_iff.2 numeral, found⟩
      | _ =>
          constructor
          · intro found
            cases found
          · rintro ⟨⟩
  | index position => exact item?_eq_some_iff
  | @indexFrom name position holds =>
      have walks : Segment.walk? bindings value (.indexFrom name) =
          ((bindings.get? name).bind position?).bind value.item? := by
        rw [Segment.walk?]
        cases bindings.get? name <;> rfl
      rw [walks, position?_of_holds holds, Option.bind_some]
      exact item?_eq_some_iff

theorem Step.Leads.fits (leads : step.Leads value next)
    (fits : Json.Fits depth value) : ∃ depth, Json.Fits depth next := by
  cases depth with
  | zero => cases leads <;> cases fits
  | succ depth =>
      cases leads with
      | member present => exact ⟨depth, fits.2 _ present⟩
      | itemNamed numeral found =>
          exact ⟨depth, fits _ (List.mem_of_getElem? found)⟩
      | item found => exact ⟨depth, fits _ (List.mem_of_getElem? found)⟩

theorem foldlM_walk?_eq_some_iff
    (reads : List.Forall₂ (Step.Reads bindings) steps path)
    (fits : Json.Fits depth value) :
    path.foldlM (Segment.walk? bindings) value = some part ↔
      Reaches steps value part := by
  induction reads generalizing value depth with
  | nil =>
      rw [List.foldlM_nil]
      constructor
      · rintro ⟨⟩
        exact .here _
      · rintro ⟨⟩
        rfl
  | cons reads others ih =>
      rw [List.foldlM_cons, Option.bind_eq_bind, Option.bind_eq_some_iff]
      constructor
      · rintro ⟨next, walks, goesOn⟩
        have leads := (reads.walk?_eq_some_iff fits).1 walks
        obtain ⟨depth, fitsNext⟩ := leads.fits fits
        exact .step leads ((ih fitsNext).1 goesOn)
      · rintro ⟨⟩
        next next leads reaches =>
          obtain ⟨depth, fitsNext⟩ := leads.fits fits
          exact ⟨next, (reads.walk?_eq_some_iff fits).2 leads,
            (ih fitsNext).2 reaches⟩

/-! ### References -/

theorem read?_append {name path : String} (isName : IsName name.toList)
    (written : PathWritten bindings steps path.toList) :
    ∃ segments, List.Forall₂ (Step.Reads bindings) steps segments ∧
      Reference.read? (name ++ path) = some ⟨name, segments, false⟩ := by
  obtain ⟨segments, reads, written⟩ := written.exists_segments
  have reference : Reference.Written ⟨name, segments, false⟩
      (name.toList ++ path.toList ++ ending false) := .mk isName written
  rw [ending, if_neg Bool.false_ne_true, List.append_nil,
    ← String.toList_append] at reference
  exact ⟨segments, reads, reference.read?_eq⟩

theorem storedText_of_isStructure (isStructure : IsStructure value) :
    value.storedText = value.render ∧ value.plainText = value.render := by
  cases value with
  | array items => exact ⟨rfl, rfl⟩
  | object members => exact ⟨rfl, rfl⟩
  | _ => cases isStructure

/-- What a reference stands for in a variable that holds a structure. -/
theorem lookup?_of_stored {name : String} (isStructure : IsStructure value)
    (fits : Json.Fits Json.maxDepth value)
    (stored : bindings.get? name = some value.storedText)
    (reads : List.Forall₂ (Step.Reads bindings) steps path) :
    Reference.lookup? bindings ⟨name, path, false⟩ =
      (path.foldlM (Segment.walk? bindings) value).map Json.plainText := by
  obtain ⟨storedText_eq, plainText_eq⟩ :=
    storedText_of_isStructure isStructure
  rw [Reference.lookup?, stored, storedText_eq]
  cases path with
  | nil => simp [plainText_eq]
  | cons segment path =>
      simp only [Option.bind_eq_bind, Option.bind_some,
        Json.read?_render_of_fits fits]
      cases (segment :: path).foldlM (Segment.walk? bindings) value <;> rfl

/-- The part that a path leads to is what is looked up. -/
theorem exists_reached {name path : String} (isName : IsName name.toList)
    (isStructure : IsStructure value) (fits : Json.Fits Json.maxDepth value)
    (stored : bindings.get? name = some value.storedText)
    (written : PathWritten bindings steps path.toList) :
    ∃ reached, (∀ part, reached = some part ↔ Reaches steps value part) ∧
      lookup? bindings (name ++ path) = reached.map Json.plainText := by
  obtain ⟨segments, reads, read⟩ := read?_append isName written
  refine ⟨segments.foldlM (Segment.walk? bindings) value,
    fun part => foldlM_walk?_eq_some_iff reads fits, ?_⟩
  rw [lookup?, read, Option.bind_some,
    lookup?_of_stored isStructure fits stored reads]

theorem resolve_tokenText {name path : String} (isName : IsName name.toList)
    (written : PathWritten bindings steps path.toList) :
    resolve bindings (tokenText (name ++ path)) =
      (lookup? bindings (name ++ path)).getD "" := by
  obtain ⟨segments, -, read⟩ := read?_append isName written
  rw [resolve_token (unended_of_noBrace (noBrace_of_read? read)), tokenValue,
    lookup?, read]
  rfl

/-- A structured value is stored and walked without loss: a path is looked up as
the text of the part that it leads to in the value itself, and as nothing,
which is resolved to the empty text, exactly if it leads nowhere.  It does not
matter how the steps of the path are written. -/
theorem lookup?_insertJson {name path : String} (isName : IsName name.toList)
    (isStructure : IsStructure value) (fits : Json.Fits Json.maxDepth value)
    (written : PathWritten (bindings.insertJson name value) steps
      path.toList) :
    (∀ part, Reaches steps value part →
        lookup? (bindings.insertJson name value) (name ++ path) =
          some part.plainText) ∧
      (lookup? (bindings.insertJson name value) (name ++ path) = none ↔
        ¬ ∃ part, Reaches steps value part) ∧
      resolve (bindings.insertJson name value) (tokenText (name ++ path)) =
        (lookup? (bindings.insertJson name value) (name ++ path)).getD "" ∧
      ∀ other : String,
        PathWritten (bindings.insertJson name value) steps other.toList →
          lookup? (bindings.insertJson name value) (name ++ other) =
            lookup? (bindings.insertJson name value) (name ++ path) := by
  have stored : (bindings.insertJson name value).get? name =
      some value.storedText := by
    rw [Variables.insertJson, OrderedMap.get?_insert, if_pos rfl]
  obtain ⟨reached, leads, found⟩ :=
    exists_reached isName isStructure fits stored written
  refine ⟨fun part reaches => ?_, ?_, resolve_tokenText isName written,
    fun other writtenToo => ?_⟩
  · rw [found, (leads part).2 reaches, Option.map_some]
  · rw [found, Option.map_eq_none_iff]
    simp only [← leads, Option.eq_none_iff_forall_ne_some, not_exists, Ne]
  · obtain ⟨reachedToo, leadsToo, foundToo⟩ :=
      exists_reached isName isStructure fits stored writtenToo
    have same : reachedToo = reached :=
      Option.ext fun part => (leadsToo part).trans (leads part).symm
    rw [found, foundToo, same]

/-- A list in an object, and an object in the list. -/
def nested : Json :=
  .object [("list", .array [.null, .object [("n", .string "v")]])]

/-- Variables of which one holds a position between blanks. -/
def holding : Variables :=
  .ofList [("i", " 1 ")]

/-- The second item of the list, and what it has under a name. -/
def nestedSteps : List Step :=
  [.named "list", .at 1, .named "n"]

theorem denotes_one : Denotes bindings "1".toList 1 :=
  .numeral ⟨by decide +kernel, List.all_eq_true.1 (by decide +kernel),
    by decide +kernel, by decide⟩

theorem denotes_variable :
    Denotes (holding.insertJson "x" nested) "i".toList 1 := by
  refine .held (isKey_of_all (by decide +kernel) (by decide +kernel)) ?_
    ⟨" 1 ", by decide +kernel, ?_⟩
  · intro number numeral
    have isDigit := numeral.isDigit 'i' (by decide +kernel)
    exact absurd isDigit (by decide)
  · have trimmed : Text.trimBoth " 1 ".toList = "1".toList := by
      decide +kernel
    rw [trimmed]
    exact ⟨by decide +kernel, List.all_eq_true.1 (by decide +kernel),
      by decide +kernel, by decide⟩

/-- The path to the name is written with either way to write the position. -/
theorem pathWritten_nested {text : List Char}
    (denotes : Denotes bindings text 1) :
    PathWritten bindings nestedSteps
      (".list".toList ++ ('[' :: text ++ [']'] ++ ".n".toList)) := by
  have list : IsKey "list".toList :=
    isKey_of_all (by decide +kernel) (by decide +kernel)
  have name : IsKey "n".toList :=
    isKey_of_all (by decide +kernel) (by decide +kernel)
  have position : Step.Written bindings (.at 1)
      ('[' :: [] ++ text ++ [] ++ [']']) :=
    .bracket (by simp) denotes (by simp)
  have written := PathWritten.cons (.name list)
    (.cons position (.cons (.name name) .nil))
  have listChars : ".list".toList = '.' :: "list".toList := by decide +kernel
  have nameChars : ".n".toList = '.' :: "n".toList := by decide +kernel
  rw [listChars, nameChars]
  simpa [nestedSteps] using written

theorem fits_nested : Json.Fits Json.maxDepth nested := by
  refine ⟨by simp [Json.IsSorted], ?_⟩
  simp [Json.Fits, Json.IsSorted]

theorem reaches_nested : Reaches nestedSteps nested (.string "v") :=
  .step (.member List.mem_cons_self) (.step (.item rfl)
    (.step (.member List.mem_cons_self) (.here _)))

/-- The name of the second item is found, and it is the same one whether its
position is written or held by a variable. -/
theorem lookup?_insertJson_nested :
    IsName "x".toList ∧ IsStructure nested ∧
      Json.Fits Json.maxDepth nested ∧
      PathWritten (holding.insertJson "x" nested) nestedSteps
        ".list[i].n".toList ∧
      PathWritten (holding.insertJson "x" nested) nestedSteps
        ".list[1].n".toList ∧
      lookup? (holding.insertJson "x" nested) ("x" ++ ".list[i].n") =
        some "v" ∧
      lookup? (holding.insertJson "x" nested) ("x" ++ ".list[1].n") =
        some "v" := by
  have isName : IsName "x".toList :=
    { isKey_of_all (by decide +kernel) (by decide +kernel) with
      begins := (Option.all_eq_true _ _).1 (by decide +kernel) }
  have held : PathWritten (holding.insertJson "x" nested) nestedSteps
      ".list[i].n".toList := by
    have chars : ".list[i].n".toList =
        ".list".toList ++ ('[' :: "i".toList ++ [']'] ++ ".n".toList) := by
      decide +kernel
    rw [chars]
    exact pathWritten_nested denotes_variable
  have written : PathWritten (holding.insertJson "x" nested) nestedSteps
      ".list[1].n".toList := by
    have chars : ".list[1].n".toList =
        ".list".toList ++ ('[' :: "1".toList ++ [']'] ++ ".n".toList) := by
      decide +kernel
    rw [chars]
    exact pathWritten_nested denotes_one
  have isStructure : IsStructure nested := trivial
  have found := lookup?_insertJson isName isStructure fits_nested held
  exact ⟨isName, isStructure, fits_nested, held, written,
    found.1 _ reaches_nested,
    (found.2.2.2 _ written).trans (found.1 _ reaches_nested)⟩

end Runbook.Template
